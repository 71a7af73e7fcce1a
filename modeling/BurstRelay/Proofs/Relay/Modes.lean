import BurstRelay.Proofs.Record.HexLines
import BurstRelay.Proofs.Record.Reading
import BurstRelay.Proofs.Relay.Examination
import BurstRelay.Proofs.Relay.SameWork
import BurstRelay.Proofs.Telemetry.RoundTrip
import BurstRelay.Telemetry.Inspection

/-!
# The output modes agree

Relays that differ only in their output mode examine the same records, and only what they make of them
differs (`modes_agree`). In hexadecimal form everything is as in binary form but for the output, call
by call, and the lines of the output are the records of the other. A relay that writes single frames
emits the frames of each record, or skips a record that is no container where the others emit it; its
output is read as the frames of all records in binary form that are containers.

Each comparison is a lockstep of two runs: `HexBeside` relates the first two relays, `FramesBeside` the
other.
-/

namespace BurstRelay

/-- Settings with another output mode. -/
def Settings.writing (settings : Settings) (mode : OutputMode) : Settings :=
  { settings with output := { format := mode } }

namespace Relay

variable {State : Type} {one two : Relay State} {frames : Message} {rest : List Arrival}

/-! ## Another output -/

/-- The relay with another output. -/
def withOutput (relay : Relay State) (output : Output) : Relay State := { relay with output }

theorem examine_withOutput (relay : Relay State) (output : Output) (payload : Bytes) :
    (relay.withOutput output).examine payload =
      ((relay.examine payload).1, (relay.examine payload).2.withOutput output) := by
  unfold examine
  rw [show (relay.withOutput output).bound = relay.bound from rfl]
  cases Reference.header relay.bound payload with
  | error fault => rfl
  | ok burst =>
    dsimp only
    rw [show (relay.withOutput output).dummy = relay.dummy from rfl,
      show (relay.withOutput output).codec.unpack (relay.withOutput output).codecState
        (relay.withOutput output).buffer burst =
        relay.codec.unpack relay.codecState relay.buffer burst from rfl]
    split
    · rfl
    · cases (relay.codec.unpack relay.codecState relay.buffer burst).unpacking with
      | record record => rfl
      | skip fault => rfl
      | stop fault => rfl

/-- The output has no part in answering. -/
theorem blind_withOutput (output : Output) :
    Blind fun relay : Relay State => relay.withOutput output where
  role := fun _ => rfl
  ackSkipped := fun _ => rfl
  countSkip := fun _ _ => rfl
  replied := by
    intro relay envelope
    unfold replied
    rw [show (relay.withOutput output).role = relay.role from rfl]
    split
    · rfl
    · rfl

/-! ## Binary and hexadecimal form -/

/-- Two relays that can write and differ in their output alone, which is in binary form for the one and
in hexadecimal form for the other. -/
structure HexBeside (one two : Relay State) : Prop where
  alike : two = one.withOutput two.output
  able : one.Able .binary
  able' : two.Able .hex

namespace HexBeside

theorem channel_eq (beside : HexBeside one two) : two.channel = one.channel := by
  rw [beside.alike]
  rfl

theorem role_eq (beside : HexBeside one two) : two.role = one.role := by
  rw [beside.alike]
  rfl

theorem taking (beside : HexBeside one two) (rest : List Arrival) :
    HexBeside (one.taking rest) (two.taking rest) := by
  refine ⟨?_, beside.able.keeps (one.keeps_taking rest), beside.able'.keeps (two.keeps_taking rest)⟩
  rw [beside.alike]
  rfl

theorem examine (beside : HexBeside one two) (payload : Bytes) :
    two.examine payload =
      ((one.examine payload).1, (one.examine payload).2.withOutput two.output) := by
  conv_lhs => rw [beside.alike]
  exact examine_withOutput one two.output payload

/-- What is found is written in one form as well as in the other. -/
theorem rule (beside : HexBeside one two) {examined : Examined}
    (short : ∀ record, examined = .record record → record.length ≤ one.bound.toNat) :
    (two.rule examined).1 = (one.rule examined).1 ∧
      (two.rule examined).2 = (one.rule examined).2.withOutput (two.rule examined).2.output := by
  cases examined with
  | refused fault => exact ⟨rfl, beside.alike⟩
  | header => exact ⟨rfl, beside.alike⟩
  | stopped fault => exact ⟨rfl, beside.alike⟩
  | record record =>
    have within := short record rfl
    have within' : record.length ≤ two.bound.toNat := by
      rw [beside.alike]
      exact within
    rw [beside.able.rule_record within, beside.able'.rule_record within']
    refine ⟨rfl, ?_⟩
    show two.wrote [record] = (one.wrote [record]).withOutput (two.wrote [record]).output
    rw [beside.alike]
    rfl

/-- Both come to the same verdict. -/
theorem judge (beside : HexBeside one two) (envelope : Envelope) :
    (two.judge envelope).value.1 = (one.judge envelope).value.1 ∧
      (two.judge envelope).value.2 =
        (one.judge envelope).value.2.withOutput (two.judge envelope).value.2.output := by
  have keeps := (one.frame_of_examine envelope.payload).1
  have keeps' := (two.frame_of_examine envelope.payload).1
  have examines := beside.examine envelope.payload
  have short : ∀ record, (one.examine envelope.payload).1 = .record record →
      record.length ≤ (one.examine envelope.payload).2.bound.toNat := by
    intro record found
    rw [keeps.bound]
    exact length_of_examine found
  rw [value_judge_eq_rule, value_judge_eq_rule]
  rw [examines] at keeps' ⊢
  have ready : HexBeside (one.examine envelope.payload).2
      ((one.examine envelope.payload).2.withOutput two.output) :=
    ⟨rfl, beside.able.keeps keeps, beside.able'.keeps keeps'⟩
  exact ready.rule short

/-- The next message is worth the same to both. -/
theorem nextRecords_eq (beside : HexBeside one two) : two.nextRecords = one.nextRecords := by
  unfold nextRecords
  rw [beside.channel_eq, beside.role_eq]
  rcases (Channel.nextMessage #[] one.channel.incoming).value with ⟨result, rest⟩
  cases result with
  | error fault => rfl
  | ok frames =>
    dsimp only
    cases Received.classify one.role frames with
    | acknowledgment identity messageId => rfl
    | rejected fault => rfl
    | envelope envelope =>
      have taking := beside.taking rest
      dsimp only
      rw [recordsOf_eq_examine, recordsOf_eq_examine, taking.examine, taking.able.mode,
        taking.able'.mode]
      cases ((one.taking rest).examine envelope.payload).1 with
      | refused fault => rfl
      | header => rfl
      | stopped fault => rfl
      | record record => rfl

/-- A call comes to the same in both forms, and leaves relays that differ in their outputs alone. -/
theorem inStep_apart (beside : HexBeside one two) :
    InStep (fun first second => second = first.withOutput second.output)
      (fun outcome outcome' => outcome' = outcome) one.step.value two.step.value := by
  refine inStep_of_parts (congrArg Channel.incoming beside.channel_eq) beside.able.sends
    beside.able'.sends ?_ (fun _ _ _ => rfl) ?_ ?_ ?_ ?_
  · intro frames _ _
    rw [beside.role_eq]
  · intro rest
    rw [beside.alike]
    rfl
  · intro rest
    rw [beside.alike]
    rfl
  · intro rest kind
    rw [beside.alike]
    rfl
  · intro frames rest envelope _ _
    obtain ⟨verdict, ready⟩ := (beside.taking rest).judge envelope
    rw [verdict, ready, (blind_withOutput _).answered]
    refine inStep_of_eq ?_ ?_ ?_
    · intro outcome
      rfl
    · rfl
    · rfl

theorem inStep (beside : HexBeside one two) :
    InStep HexBeside
      (fun outcome outcome' => outcome' = outcome ∧ two.nextRecords = one.nextRecords)
      one.step.value two.step.value := by
  refine beside.inStep_apart.imp ?_ ?_
  · intro alike
    exact ⟨alike, beside.able.keeps (keeps_of_step rfl), beside.able'.keeps (keeps_of_step rfl)⟩
  · intro outcome outcome' same
    exact ⟨same, beside.nextRecords_eq⟩

end HexBeside

/-! ## Records and their frames -/

/-- What examining an envelope looks at and changes. -/
def core (relay : Relay State) : State × Buffer × List Arrival :=
  (relay.codecState, relay.buffer, relay.channel.incoming)

theorem core_answered (relay : Relay State) (envelope : Envelope) (verdict : Verdict) :
    (relay.answered envelope verdict).2.core = relay.core := by
  have same := SameWork.answering relay envelope verdict
  unfold core
  rw [same.codecState, same.buffer, same.queue]

/-- Two relays that can write and have examined the same. The one writes whole records in binary form,
and the other their frames. -/
structure FramesBeside (one two : Relay State) : Prop where
  codec : two.codec = one.codec
  bound : two.bound = one.bound
  dummy : two.dummy = one.dummy
  role : two.role = one.role
  ackSkipped : two.ackSkipped = one.ackSkipped
  core : two.core = one.core
  able : one.Able .binary
  able' : two.Able .frames

/-- What becomes of a message whose record is written as a whole by one relay, and as its frames by
another: it comes to the same if it is not emitted, and otherwise its record is written as so many
frames as it has, or is no container and skipped. -/
inductive Splits (first second : Relay State × Outcome) : Prop
  | unemitted (never : ∀ records acknowledged, first.2 ≠ .emitted records acknowledged)
      (outcome : second.2 = first.2)
  | split {record : Bytes} {burst : DataBurst} {acknowledged : Bool}
      (emitted : first.2 = .emitted 1 acknowledged) (worth : first.1.nextRecords = [record])
      (decodes : DataBurst.ofRecord record = .ok burst)
      (outcome : second.2 = .emitted burst.frames.length acknowledged)
      (worth' : second.1.nextRecords = burst.frames.map DataFrame.toRecord)
  | undecodable {record : Bytes} {fault : BurstFault} {acknowledged : Bool}
      (emitted : first.2 = .emitted 1 acknowledged) (worth : first.1.nextRecords = [record])
      (broken : DataBurst.ofRecord record = .error fault) (container : fault.kind = "container")
      (outcome : second.2 =
        .skipped (.burst fault) (first.1.ackSkipped && first.1.role.acknowledges))

theorem kind_of_ofRecord {record : Bytes} {fault : BurstFault}
    (broken : DataBurst.ofRecord record = .error fault) : fault.kind = "container" := by
  unfold DataBurst.ofRecord at broken
  cases decoded : DataBurst.decode record with
  | error cause =>
    rw [decoded] at broken
    cases broken
    rfl
  | ok burst =>
    rw [decoded] at broken
    cases broken

namespace FramesBeside

theorem of_step (beside : FramesBeside one two)
    (core : two.step.value.2.core = one.step.value.2.core) :
    FramesBeside one.step.value.2 two.step.value.2 := by
  have keeps : one.Keeps one.step.value.2 := keeps_of_step rfl
  have keeps' : two.Keeps two.step.value.2 := keeps_of_step rfl
  refine ⟨?_, ?_, ?_, ?_, ?_, core, beside.able.keeps keeps, beside.able'.keeps keeps'⟩
  · rw [keeps'.codec, keeps.codec, beside.codec]
  · rw [keeps'.bound, keeps.bound, beside.bound]
  · rw [keeps'.dummy, keeps.dummy, beside.dummy]
  · rw [keeps'.role, keeps.role, beside.role]
  · rw [keeps'.ackSkipped, keeps.ackSkipped, beside.ackSkipped]

theorem queue (beside : FramesBeside one two) : two.channel.incoming = one.channel.incoming :=
  congrArg (fun core => core.2.2) beside.core

theorem taking (beside : FramesBeside one two) (rest : List Arrival) :
    FramesBeside (one.taking rest) (two.taking rest) where
  codec := beside.codec
  bound := beside.bound
  dummy := beside.dummy
  role := beside.role
  ackSkipped := beside.ackSkipped
  core := congrArg (fun core => (core.1, core.2.1, rest)) beside.core
  able := beside.able.keeps (one.keeps_taking rest)
  able' := beside.able'.keeps (two.keeps_taking rest)

theorem core_unpacked (beside : FramesBeside one two) (burst : Payload) :
    (two.unpacked burst).core = (one.unpacked burst).core := by
  have core := beside.core
  unfold Relay.core at core
  simp only [Prod.mk.injEq] at core
  obtain ⟨codecState, buffer, queue⟩ := core
  show ((two.codec.unpack two.codecState two.buffer burst).codecState,
      (two.codec.unpack two.codecState two.buffer burst).buffer, two.channel.incoming) =
    ((one.codec.unpack one.codecState one.buffer burst).codecState,
      (one.codec.unpack one.codecState one.buffer burst).buffer, one.channel.incoming)
  rw [beside.codec, codecState, buffer, queue]

/-- Both find the same. -/
theorem examine (beside : FramesBeside one two) (payload : Bytes) :
    (two.examine payload).1 = (one.examine payload).1 ∧
      (two.examine payload).2.core = (one.examine payload).2.core := by
  have core := beside.core
  unfold Relay.core at core
  simp only [Prod.mk.injEq] at core
  obtain ⟨codecState, buffer, -⟩ := core
  unfold Relay.examine
  rw [beside.bound]
  cases Reference.header one.bound payload with
  | error fault => exact ⟨rfl, beside.core⟩
  | ok burst =>
    have unpacked := beside.core_unpacked burst
    dsimp only
    rw [beside.dummy, beside.codec, codecState, buffer]
    split
    · exact ⟨rfl, beside.core⟩
    · cases (one.codec.unpack one.codecState one.buffer burst).unpacking with
      | record record => exact ⟨rfl, unpacked⟩
      | skip fault => exact ⟨rfl, unpacked⟩
      | stop fault => exact ⟨rfl, unpacked⟩

/-- Answers that both succeed are in step if their outcomes agree. -/
theorem inStep_of_answers {ready ready' : Relay State} {envelope : Envelope}
    {verdict verdict' : Verdict} {outcome outcome' : Outcome} {agree : Outcome → Outcome → Prop}
    (core : ready'.core = ready.core)
    (succeeds : (ready.answered envelope verdict).1 = .ok outcome)
    (succeeds' : (ready'.answered envelope verdict').1 = .ok outcome')
    (agrees : agree outcome outcome') :
    InStep (fun first second => second.core = first.core) agree (ready.answered envelope verdict)
      (ready'.answered envelope verdict') := by
  have still := core_answered ready envelope verdict
  have still' := core_answered ready' envelope verdict'
  exact inStep_of_ok succeeds succeeds' agrees (still'.trans (core.trans still.symm))

/-- A burst is emitted as a whole by one and as its frames by the other. -/
theorem inStep_of_envelope {envelope : Envelope} (beside : FramesBeside one two)
    (next : (Channel.nextMessage #[] one.channel.incoming).value = (.ok frames, rest))
    (kind : Received.classify one.role frames = .envelope envelope) :
    InStep (fun first second => second.core = first.core)
      (fun outcome outcome' => Splits (one, outcome) (two, outcome'))
      (((one.taking rest).judge envelope).value.2.answered envelope
        ((one.taking rest).judge envelope).value.1)
      (((two.taking rest).judge envelope).value.2.answered envelope
        ((two.taking rest).judge envelope).value.1) := by
  have next' := next
  rw [← beside.queue] at next'
  have kind' := kind
  rw [← beside.role] at kind'
  have taking := beside.taking rest
  obtain ⟨same, core⟩ := taking.examine envelope.payload
  have keeps := (one.keeps_taking rest).trans ((one.taking rest).frame_of_examine envelope.payload).1
  have keeps' :=
    (two.keeps_taking rest).trans ((two.taking rest).frame_of_examine envelope.payload).1
  have worth := nextRecords_of_envelope next kind
  have worth' := nextRecords_of_envelope next' kind'
  rw [recordsOf_eq_examine, taking.able.mode] at worth
  rw [recordsOf_eq_examine, taking.able'.mode] at worth'
  have short : ∀ record, ((one.taking rest).examine envelope.payload).1 = .record record →
      record.length ≤ one.bound.toNat := by
    intro record found
    have within := length_of_examine found
    exact within
  rw [value_judge_eq_rule, value_judge_eq_rule]
  generalize (one.taking rest).examine envelope.payload = found at same core keeps worth short ⊢
  generalize (two.taking rest).examine envelope.payload = found' at same core keeps' worth' ⊢
  obtain ⟨examined, ready⟩ := found
  obtain ⟨examined', ready'⟩ := found'
  dsimp only at same core keeps keeps' worth worth' short ⊢
  subst same
  have able := beside.able.keeps keeps
  have able' := beside.able'.keeps keeps'
  have role : ready'.role = ready.role := by rw [keeps'.role, keeps.role, beside.role]
  have policy : ready'.ackSkipped = ready.ackSkipped := by
    rw [keeps'.ackSkipped, keeps.ackSkipped, beside.ackSkipped]
  cases examined' with
  | refused fault =>
    have skips := ready.answered_skip envelope fault
    have skips' := ready'.answered_skip envelope fault
    rw [role, policy] at skips'
    refine inStep_of_answers core skips skips' (.unemitted ?_ rfl)
    intro records acknowledged emitted
    cases emitted
  | header =>
    have admits : (ready'.answered envelope .headerOnly).1 =
        .ok (.admitted ready.role.acknowledges) := by
      rw [← role]
      rfl
    refine inStep_of_answers core rfl admits (.unemitted ?_ rfl)
    intro records acknowledged emitted
    cases emitted
  | stopped fault => exact .fails core
  | record record =>
    have within := short record rfl
    have within' : record.length ≤ ready'.bound.toNat := by
      rw [keeps'.bound, beside.bound]
      exact within
    rw [← keeps.bound] at within
    rw [able.rule_record within, able'.rule_record within']
    dsimp only [Output.records, DataBurst.split] at worth worth' ⊢
    cases decodes : DataBurst.ofRecord record with
    | error fault =>
      have skips := ready'.answered_skip envelope fault
      rw [role, policy, keeps.role, keeps.ackSkipped] at skips
      exact inStep_of_answers core rfl skips
        (.undecodable rfl worth decodes (kind_of_ofRecord decodes) rfl)
    | ok burst =>
      rw [decodes] at worth'
      have emits : (ready'.answered envelope
          (.written (burst.frames.map DataFrame.toRecord).length)).1 =
          .ok (.emitted burst.frames.length ready.role.acknowledges) := by
        rw [List.length_map, ← role]
        rfl
      exact inStep_of_answers core rfl emits (.split rfl worth decodes rfl worth')

theorem inStep (beside : FramesBeside one two) :
    InStep FramesBeside (fun outcome outcome' => Splits (one, outcome) (two, outcome'))
      one.step.value two.step.value := by
  have parts : InStep (fun first second => second.core = first.core)
      (fun outcome outcome' => Splits (one, outcome) (two, outcome')) one.step.value
      two.step.value := by
    refine inStep_of_parts beside.queue beside.able.sends beside.able'.sends ?_ ?_ ?_ ?_ ?_ ?_
    · intro frames _ _
      rw [beside.role]
    · intro outcome unopened _
      exact .unemitted (Outcome.ne_emitted_of_unopened unopened) rfl
    · intro rest
      exact (beside.taking rest).core
    · intro rest
      exact (beside.taking rest).core
    · intro rest kind
      exact (beside.taking rest).core
    · intro frames rest envelope next kind
      exact beside.inStep_of_envelope next kind
  exact parts.imp beside.of_step fun _ _ splits => splits

end FramesBeside

/-! ## Outputs -/

/-- Both forms show the same records. -/
theorem emitted_of_hex
    (paired : Paired HexBeside
      (fun first second => second.2 = first.2 ∧ second.1.nextRecords = first.1.nextRecords) one two) :
    emitted two.history = emitted one.history := by
  unfold emitted
  refine paired.flatMap_eq ?_
  rintro ⟨first, outcome⟩ ⟨second, outcome'⟩ ⟨same, worth⟩
  dsimp only at same worth ⊢
  rw [same, worth]

/-- The frames that are shown are those of the records that are containers. -/
theorem emitted_of_frames (paired : Paired FramesBeside Splits one two) :
    emitted two.history =
      (DataBurst.gather .burst (emitted one.history)).map DataFrame.toRecord := by
  unfold emitted DataBurst.gather
  rw [List.flatMap_assoc, List.map_flatMap]
  refine paired.flatMap_eq ?_
  rintro ⟨first, outcome⟩ ⟨second, outcome'⟩ splits
  cases splits with
  | unemitted never same =>
    dsimp only at never same ⊢
    rw [same]
    cases outcome with
    | emitted records acknowledged => exact absurd rfl (never records acknowledged)
    | admitted acknowledged => rfl
    | skipped fault acknowledged => rfl
    | ackEcho => rfl
  | split emitted worth decodes same worth' =>
    dsimp only at emitted worth same worth' ⊢
    rw [emitted, same]
    dsimp only
    rw [worth, worth', List.flatMap_singleton]
    unfold RecordLayout.frames
    dsimp only
    rw [decodes]
    rfl
  | undecodable emitted worth broken _ same =>
    dsimp only at emitted worth same ⊢
    rw [emitted, same]
    dsimp only
    rw [worth, List.flatMap_singleton]
    unfold RecordLayout.frames
    dsimp only
    rw [broken]
    rfl

/-- What is stored in a sink that was empty is read back. -/
theorem readAll_of_stored {behaviour : Sink.Behaviour} {records : List Bytes} {after : Sink}
    {source : Source.Behaviour} (delivers : source.Delivers)
    (stored : Stored .binary (.ofBehaviour behaviour) records after) :
    RecordReader.readAll { source := .ofBytes after.bytes source } = (records, .ok ()) := by
  rw [stored.bytes_eq]
  exact RecordReader.readAll_stream (RecordReader.faces_of_bytes delivers _)
    fun record member => stored.fits record member rfl

/-- The three runs in their modes agree. -/
structure ModesAgree (binary hex frames : Relay State) : Prop where
  /-- The histories of the relays are those of their runs. -/
  outcomes : ∀ relay ∈ [binary, hex, frames],
    relay.run.value.outcomes = relay.history.map Prod.snd
  /-- Before and behind every call the first two relays differ in nothing but their output. -/
  linewise : Paired (fun one two => two = one.withOutput two.output)
    (fun first second => second.2 = first.2) binary hex
  /-- The third makes of each message what its mode can show of the record. -/
  framewise : Paired (fun one two => two.core = one.core) Splits binary frames
  /-- The output in binary form is read as the records that were emitted. -/
  readsBinary : ∀ source : Source.Behaviour, source.Delivers →
    RecordReader.readAll { source := .ofBytes binary.run.value.relay.sink.bytes source } =
      (emitted binary.history, .ok ())
  /-- The lines in hexadecimal form are the same records. -/
  readsHex : Record.readLines? [] hex.run.value.relay.sink.bytes = some (emitted binary.history)
  /-- The output of single frames is read as the frames of the same records, as far as these are
  containers. -/
  readsFrames : ∀ source : Source.Behaviour, source.Delivers → ∃ read,
    RecordReader.readAll { source := .ofBytes frames.run.value.relay.sink.bytes source } =
      (read, .ok ()) ∧
    read.map RecordLayout.frame.frames =
      (DataBurst.gather .burst (emitted binary.history)).map fun frame => .ok [frame]

theorem modesAgree_of_beside {behaviour : Sink.Behaviour} {binary hex frames : Relay State}
    (hexBeside : HexBeside binary hex) (framesBeside : FramesBeside binary frames)
    (fresh : ∀ relay ∈ [binary, hex, frames], relay.sink = .ofBehaviour behaviour) :
    ModesAgree binary hex frames := by
  have hexes : Paired HexBeside (fun first second =>
      second.2 = first.2 ∧ second.1.nextRecords = first.1.nextRecords) binary hex :=
    paired_of_lockstep (fun _ _ => HexBeside.inStep) hexBeside
      (congrArg Channel.incoming hexBeside.channel_eq)
  have splits : Paired FramesBeside Splits binary frames :=
    paired_of_lockstep (fun _ _ => FramesBeside.inStep) framesBeside framesBeside.queue
  have stored := hexBeside.able.stored_run
  have storedHex := hexBeside.able'.stored_run
  have storedFrames := framesBeside.able'.stored_run
  rw [fresh binary (by simp)] at stored
  rw [fresh hex (by simp), emitted_of_hex hexes] at storedHex
  rw [fresh frames (by simp), emitted_of_frames splits] at storedFrames
  refine ⟨fun relay _ => relay.outcomes_run, hexes.imp (fun _ _ beside => beside.alike) ?_,
    splits.imp (fun _ _ beside => beside.core) (fun _ _ splits => splits), ?_, ?_, ?_⟩
  · intro first second same
    exact same.1
  · intro source delivers
    exact readAll_of_stored delivers stored
  · rw [storedHex.bytes_eq]
    exact Record.readLines_stream _
  · intro source delivers
    have read := readAll_of_stored delivers storedFrames
    refine ⟨_, read, ?_⟩
    rw [List.map_map]
    refine List.map_congr_left ?_
    intro frame member
    have short := storedFrames.fits _ (List.mem_map_of_mem member) rfl
    show (DataFrame.ofRecord frame.toRecord).map (fun frame => [frame]) = _
    rw [DataFrame.ofRecord_toRecord (Nat.lt_trans short (by decide))]
    rfl

/-- Relays that differ in their output mode alone all fail to start for the same reason, or their runs
agree. -/
theorem modes_agree {settings : Settings} {allocator : Allocator} {codec : Codec State}
    {codecState : State} {channel : Channel} {behaviour : Sink.Behaviour}
    (sends : channel.sendFault = none) (accepts : behaviour.Accepts) :
    (∃ fault, ∀ mode, (start (settings.writing mode) allocator codec codecState channel
        (.ofBehaviour behaviour)).value = .error fault) ∨
      ∃ relays : OutputMode → Relay State,
        (∀ mode, (start (settings.writing mode) allocator codec codecState channel
          (.ofBehaviour behaviour)).value = .ok (relays mode)) ∧
        ModesAgree (relays .binary) (relays .hex) (relays .frames) := by
  cases made : Buffer.ofCapacity allocator settings.decompression.initialCapacity.toNat with
  | error fault =>
    refine .inl ⟨.allocation fault, ?_⟩
    intro mode
    exact start_of_refused codec codecState channel _ made
  | ok buffer =>
    have each : ∀ mode, ∃ relay, (start (settings.writing mode) allocator codec codecState channel
        (.ofBehaviour behaviour)).value = .ok relay := by
      intro mode
      exact start_of_made codec codecState channel _ made
    choose relays started using each
    -- the relays share the one buffer that was made, so that they differ in their outputs alone
    have others : ∀ mode, relays mode =
        (relays .binary).withOutput (.ofSink (.ofBehaviour behaviour) mode) := by
      intro mode
      obtain ⟨first, madeFirst, binary⟩ := eq_of_start (started .binary)
      obtain ⟨second, madeSecond, other⟩ := eq_of_start (started mode)
      cases madeFirst.symm.trans madeSecond
      rw [other, binary]
      rfl
    have able : ∀ mode, Able mode (relays mode) := fun mode =>
      able_of_start (started mode) sends accepts
    have fresh : ∀ relay ∈ [relays .binary, relays .hex, relays .frames],
        relay.sink = .ofBehaviour behaviour := by
      intro relay member
      simp only [List.mem_cons, List.not_mem_nil, or_false] at member
      rcases member with rfl | rfl | rfl
      all_goals
        rw [others]
        rfl
    refine .inr ⟨relays, started, modesAgree_of_beside ⟨?_, able .binary, able .hex⟩ ?_ fresh⟩
    · rw [others .hex]
      rfl
    · refine ⟨?_, ?_, ?_, ?_, ?_, ?_, able .binary, able .frames⟩
      all_goals
        rw [others .frames]
        rfl

/-- Two bursts, one of a single empty frame and one that is no container: the second is emitted as a
whole, and skipped where frames are written. -/
theorem modes_agree_on_two_bursts :
    ∃ relays : OutputMode → Relay Unit,
      (∀ mode, (start (Settings.writing {} mode) .willing (.block .nothing) ()
        (Channel.pushMessage (Channel.pushMessage {} [[7], [8], [2, 0, 0, 0, 3, 0, 0, 0, 32, 10, 0]])
          [[7], [9], [2, 0, 0, 0, 3, 0, 0, 0, 32, 65, 66]])
        (.ofBehaviour .willing)).value = .ok (relays mode)) ∧
      (relays .hex).run.value.outcomes = [.emitted 1 true, .emitted 1 true] ∧
      (relays .frames).run.value.outcomes =
        [.emitted 1 true, .skipped (.burst (.undecodable ⟨.inputTooShort, []⟩ 2)) false] ∧
      ModesAgree (relays .binary) (relays .hex) (relays .frames) := by
  rcases @modes_agree Unit {} .willing (.block .nothing) ()
    (Channel.pushMessage (Channel.pushMessage {} [[7], [8], [2, 0, 0, 0, 3, 0, 0, 0, 32, 10, 0]])
      [[7], [9], [2, 0, 0, 0, 3, 0, 0, 0, 32, 65, 66]])
    .willing rfl Sink.Behaviour.accepts_willing with ⟨fault, failed⟩ | ⟨relays, started, agree⟩
  · cases failed .binary
  · have agrees := fun mode => Reference.agrees_of_start (started mode) (fun _ _ _ => rfl) rfl rfl
      Sink.Behaviour.accepts_willing
    refine ⟨relays, started, (agrees .hex).outcomes.trans ?_, (agrees .frames).outcomes.trans ?_, agree⟩
    · decide +kernel
    · decide +kernel

end Relay

end BurstRelay

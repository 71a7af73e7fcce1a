import BurstRelay.Proofs.Relay.Durability
import BurstRelay.Proofs.Relay.Explicit
import BurstRelay.Proofs.Relay.Runs

/-!
# Examination

What is found in an envelope before anything is written (`Relay.examine`), and what a relay makes of it
whose sink accepts everything (`Able`). Such a relay writes every record that is found, unless its mode
cannot show the record (`Able.rule_record`), whatever the codec does: a record is never longer than
its burst declared, and no output record of it is too long for its framing. So a run leaves nothing
behind but what it emitted (`Able.stored_run`).
-/

namespace BurstRelay

/-- What is found in an envelope: why there is no record, its header if no more is wanted, or its
record. -/
inductive Examined where
  | refused (fault : BurstFault)
  | header
  | stopped (fault : RelayFault)
  | record (record : Bytes)

namespace Relay

variable {State : Type}

/-! ## Examining and ruling -/

/-- What is found in the burst of a payload. -/
def examine (relay : Relay State) (payload : Bytes) : Examined × Relay State :=
  match Reference.header relay.bound payload with
  | .error fault => (.refused fault, relay)
  | .ok burst =>
    if relay.dummy then (.header, relay)
    else
      match (relay.codec.unpack relay.codecState relay.buffer burst).unpacking with
      | .record record => (.record record, relay.unpacked burst)
      | .skip fault => (.refused fault, relay.unpacked burst)
      | .stop fault => (.stopped fault, relay.unpacked burst)

/-- The verdict on a examined; a record is written. -/
def rule (relay : Relay State) : Examined → Verdict × Relay State
  | .refused fault => (.skip fault, relay)
  | .header => (.headerOnly, relay)
  | .stopped fault => (.stop fault, relay)
  | .record record => relay.deliver record

/-- Judging an envelope is examining it and ruling on what is found. -/
theorem value_judge_eq_rule (relay : Relay State) (envelope : Envelope) :
    (relay.judge envelope).value =
      (relay.examine envelope.payload).2.rule (relay.examine envelope.payload).1 := by
  rw [value_judge]
  unfold examine
  cases Reference.header relay.bound envelope.payload with
  | error fault => rfl
  | ok burst =>
    dsimp only
    split
    · rfl
    · unfold verifying
      cases (relay.codec.unpack relay.codecState relay.buffer burst).unpacking with
      | record record => rfl
      | skip fault => rfl
      | stop fault => rfl

/-- Examining an envelope leaves the output and the channel alone. -/
theorem frame_of_examine (relay : Relay State) (payload : Bytes) :
    relay.Keeps (relay.examine payload).2 ∧ (relay.examine payload).2.output = relay.output ∧
      (relay.examine payload).2.channel = relay.channel := by
  unfold examine
  cases Reference.header relay.bound payload with
  | error fault => exact ⟨.refl relay, rfl, rfl⟩
  | ok burst =>
    obtain ⟨keeps, channel, output⟩ := frame_of_unpack (relay.value_unpack burst)
    dsimp only
    split
    · exact ⟨.refl relay, rfl, rfl⟩
    · cases (relay.codec.unpack relay.codecState relay.buffer burst).unpacking with
      | record record => exact ⟨keeps, output, channel⟩
      | skip fault => exact ⟨keeps, output, channel⟩
      | stop fault => exact ⟨keeps, output, channel⟩

/-- The output records of a payload are those of the record that is found in it. -/
theorem recordsOf_eq_examine (relay : Relay State) (payload : Bytes) :
    relay.recordsOf payload =
      match (relay.examine payload).1 with
      | .record record => (Output.records relay.output.mode record).toOption.getD []
      | .refused _ | .header | .stopped _ => [] := by
  unfold recordsOf examine
  rw [Reference.value_admission]
  cases Reference.header relay.bound payload with
  | error fault => rfl
  | ok burst =>
    dsimp only
    split
    · rfl
    · rw [value_unpack]
      cases (relay.codec.unpack relay.codecState relay.buffer burst).unpacking with
      | record record => rfl
      | skip fault => rfl
      | stop fault => rfl

/-! ## Sizes -/

/-- Unpacking gives no more than was declared, whatever the codec reports. -/
theorem length_of_unpack {codec : Codec State} {codecState : State} {buffer : Buffer}
    {burst : Payload} {record : Bytes}
    (unpacks : (codec.unpack codecState buffer burst).unpacking = .record record) :
    record.length ≤ burst.header.declaredUncompressed.toNat := by
  unfold Codec.unpack at unpacks
  cases ensured : (buffer.ensure burst.header.declaredUncompressed.toNat).value with
  | mk result grown =>
    rw [ensured] at unpacks
    cases result with
    | error fault => cases unpacks
    | ok done =>
      dsimp only at unpacks
      cases produces : (burst.decompress codec codecState grown.region).outcome with
      | error fault =>
        rw [produces] at unpacks
        cases unpacks
      | ok produced =>
        rw [produces] at unpacks
        cases unpacks
        rw [← (checkProduced_eq_ok produces).1]
        exact length_first_le _ _

/-- No record that is found is longer than the bound. -/
theorem length_of_examine {relay : Relay State} {payload record : Bytes}
    (found : (relay.examine payload).1 = .record record) : record.length ≤ relay.bound.toNat := by
  unfold examine at found
  cases admitted : Reference.header relay.bound payload with
  | error fault =>
    rw [admitted] at found
    cases found
  | ok burst =>
    rw [admitted] at found
    dsimp only at found
    split at found
    · cases found
    · cases unpacks : (relay.codec.unpack relay.codecState relay.buffer burst).unpacking with
      | skip fault =>
        rw [unpacks] at found
        cases found
      | stop fault =>
        rw [unpacks] at found
        cases found
      | record other =>
        rw [unpacks] at found
        cases found
        exact Nat.le_trans (length_of_unpack unpacks) (declared_le_of_header admitted)

/-! ## Relays that can write -/

/-- A relay that writes in a mode to a sink that accepts everything, and whose sends work. -/
structure Able (mode : OutputMode) (relay : Relay State) : Prop where
  framing : relay.format = mode.format
  mode : relay.output.mode = mode
  accepts : relay.sink.behaviour.Accepts
  bounded : relay.bound.toNat ≤ Codec.blockLimit
  sends : relay.channel.sendFault = none

/-- The relay behind output records that were written. -/
def wrote (relay : Relay State) (parts : List Bytes) : Relay State :=
  { relay with
    output := { relay.output with writer := (relay.output.writer.writeEach parts).2 }
    statistics := { relay.statistics with
      recordsEmitted := relay.statistics.recordsEmitted + parts.length } }

namespace Able

variable {mode : OutputMode} {relay after : Relay State}

theorem keeps (able : relay.Able mode) (keeps : relay.Keeps after) : after.Able mode where
  framing := by
    show after.output.writer.format = mode.format
    rw [keeps.writer.format]
    exact able.framing
  mode := keeps.mode.trans able.mode
  accepts := by
    show after.output.writer.sink.behaviour.Accepts
    rw [keeps.writer.behaviour]
    exact able.accepts
  bounded := by
    rw [keeps.bound]
    exact able.bounded
  sends := keeps.sendFault.trans able.sends

/-- A relay that can write rules on a record by what its mode can show of it. -/
theorem rule_record (able : relay.Able mode) {record : Bytes}
    (short : record.length ≤ relay.bound.toNat) :
    relay.rule (.record record) =
      match Output.records mode record with
      | .error fault => (.skip fault, relay)
      | .ok parts => (.written parts.length, relay.wrote parts) := by
  show relay.deliver record = _
  rw [← able.mode]
  unfold deliver Output.emit
  cases split : Output.records relay.output.mode record with
  | error fault => rfl
  | ok parts =>
    have fits := length_lt_of_records (Nat.le_trans short able.bounded) split
    have written := relay.output.writer.writeEach_of_accepts able.accepts
      fun part member _ => fits part member
    unfold wrote
    cases writes : relay.output.writer.writeEach parts with
    | mk result writer =>
      rw [writes] at written
      cases written
      dsimp only
      rw [writes]

/-- A relay that can write never stops for something it was to write. -/
theorem stopped_of_rule (able : relay.Able mode) {examined : Examined} {fault : RelayFault}
    (short : ∀ record, examined = .record record → record.length ≤ relay.bound.toNat)
    (stops : (relay.rule examined).1 = .stop fault) : examined = .stopped fault := by
  cases examined with
  | refused refusal => cases stops
  | header => cases stops
  | stopped cause =>
    cases stops
    rfl
  | record record =>
    rw [able.rule_record (short record rfl)] at stops
    cases split : Output.records mode record with
    | error refusal =>
      rw [split] at stops
      cases stops
    | ok parts =>
      rw [split] at stops
      cases stops

/-- A call that fails leaves the output alone. -/
theorem output_of_failure (able : relay.Able mode) {fault : RelayFault}
    (called : relay.step.value = (.error fault, after)) : after.output = relay.output := by
  rcases next : (Channel.nextMessage #[] relay.channel.incoming).value with ⟨result, rest⟩
  cases result with
  | error lost =>
    rw [Reference.call_of_lost next] at called
    cases called
    rfl
  | ok frames =>
    cases kind : Received.classify relay.role frames with
    | acknowledgment identity messageId =>
      rw [value_step_of_acknowledgment next kind] at called
      cases called
    | rejected skipped =>
      rw [value_step_of_rejected next kind] at called
      cases called
    | envelope envelope =>
      obtain ⟨keeps, output, -⟩ := (relay.taking rest).frame_of_examine envelope.payload
      have ready := (able.keeps (relay.keeps_taking rest)).keeps keeps
      rw [value_step_of_envelope able.sends next kind, value_judge_eq_rule] at called
      obtain ⟨stops, rfl⟩ := stop_of_answered called
      have found := ready.stopped_of_rule (fun record found => by
        rw [keeps.bound]
        exact length_of_examine found) stops
      rw [found]
      exact output

/-- A run stores what its calls emitted, and nothing else. -/
theorem stored_run (able : relay.Able mode) :
    Stored mode.format relay.sink (emitted relay.history) relay.run.value.relay.sink := by
  have stored := stored_of_serves relay.serves_history
  obtain ⟨fault, failed, -⟩ := relay.fails_last
  have same := (able.keeps relay.serves_history.keeps).output_of_failure failed
  rw [able.framing, ← sink_of_output same] at stored
  exact stored

end Able

theorem able_of_start {settings : Settings} {allocator : Allocator} {codec : Codec State}
    {codecState : State} {channel : Channel} {sink : Sink} {relay : Relay State}
    (started : (start settings allocator codec codecState channel sink).value = .ok relay)
    (sends : channel.sendFault = none) (accepts : sink.behaviour.Accepts) :
    relay.Able settings.output.format := by
  obtain ⟨buffer, -, rfl⟩ := eq_of_start started
  exact ⟨rfl, rfl, accepts, bound_le_blockLimit settings, sends⟩

end Relay

end BurstRelay

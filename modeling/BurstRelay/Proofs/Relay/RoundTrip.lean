import BurstRelay.Proofs.Block.Stored
import BurstRelay.Proofs.Burst.RoundTrip
import BurstRelay.Proofs.Record.Reading
import BurstRelay.Proofs.Relay.Endurance
import BurstRelay.Proofs.Relay.Reference
import BurstRelay.Proofs.Telemetry.RoundTrip
import BurstRelay.Telemetry.Inspection
import BurstRelay.Telemetry.Synthetic

/-!
# From producers to consumers

A burst is encoded as a record, compressed, put behind a header and into an envelope; the relay takes
all that apart again and frames the record; a consumer reads the record and decodes it. What comes out
is what went in (`parcels_are_delivered`): every burst is emitted and acknowledged, in order, and the
consumer has the frames of all of them.

The buffer must not begin with more than the library of the decoder takes: with more, bursts are lost
(`parcels_are_lost`). No record makes the buffer larger than that.

Of the compressor it is assumed that its blocks are valid (`Block.Compresses`), and nothing else. That
the length of a block fits the header follows from it (`Block.length_lt_of_decode`).
-/

namespace BurstRelay

open Fallible

/-! ## Producers -/

namespace Block

/-- The blocks of a compressor are valid: each is decoded to what it was made of, into every output
that has room for that. -/
def Compresses (compress : Bytes → Bytes) : Prop :=
  ∀ content, content.length ≤ inputLimit → ∀ capacity, content.length ≤ capacity →
    decode capacity (compress content) = .ok content

theorem compresses_store : Compresses store := by
  intro content _ capacity fits
  exact decode_store fits

variable {compress : Bytes → Bytes} {content : Bytes}

theorem Compresses.ne_nil (compresses : Compresses compress) (short : content.length ≤ inputLimit) :
    compress content ≠ [] := by
  intro none
  have restored := compresses content short (content.length + 1) (Nat.le_succ _)
  rw [none] at restored
  cases restored

/-- Four bytes are enough for the length of a block that was compressed. -/
theorem Compresses.length_lt (compresses : Compresses compress)
    (short : content.length ≤ inputLimit) : (compress content).length < UInt32.size := by
  have restored := compresses content short content.length (Nat.le_refl _)
  exact Nat.lt_trans (length_lt_of_decode restored short) (by decide)

end Block

/-- A burst that a producer sends, with the identity and the id that it is sent under. -/
structure Parcel where
  identity : Bytes
  messageId : Bytes
  burst : DataBurst

namespace Parcel

/-- The message that a producer sends. -/
def message (compress : Bytes → Bytes) (parcel : Parcel) : Except Fault Message :=
  (parcel.burst.wire compress).map fun payload => [parcel.identity, parcel.messageId, payload]

/-- The message that a producer waits for. -/
def acknowledgment (parcel : Parcel) : Message := [parcel.identity, parcel.messageId, []]

/-- The output records of a parcel in a mode. -/
def records (mode : OutputMode) (parcel : Parcel) : List Bytes :=
  match mode with
  | .binary | .hex => [parcel.burst.toRecord]
  | .frames => parcel.burst.frames.map DataFrame.toRecord

/-- A parcel that can be delivered: its burst has a frame, and its record is within the bound of the
relay and the limit of the compressor. -/
structure Sendable (bound : UInt32) (parcel : Parcel) : Prop where
  some : parcel.burst.frames ≠ []
  bounded : parcel.burst.toRecord.length ≤ bound.toNat
  compressible : parcel.burst.toRecord.length ≤ Block.inputLimit

def payload (compress : Bytes → Bytes) (parcel : Parcel) : Bytes :=
  Payload.encode (.ofNat parcel.burst.toRecord.length) (compress parcel.burst.toRecord)

/-- The envelope of a parcel, which is its message if it can be delivered. -/
def envelope (compress : Bytes → Bytes) (parcel : Parcel) : Message :=
  [parcel.identity, parcel.messageId, parcel.payload compress]

variable {compress : Bytes → Bytes} {bound : UInt32} {parcel : Parcel} {parcels : List Parcel}

theorem Sendable.length_lt (sendable : parcel.Sendable bound) :
    parcel.burst.toRecord.length < UInt32.size :=
  Nat.lt_of_le_of_lt sendable.bounded bound.toNat_lt

theorem Sendable.toNat_length (sendable : parcel.Sendable bound) :
    (UInt32.ofNat parcel.burst.toRecord.length).toNat = parcel.burst.toRecord.length :=
  UInt32.toNat_ofNat_of_lt' sendable.length_lt

theorem Sendable.length_pos (sendable : parcel.Sendable bound) :
    0 < parcel.burst.toRecord.length := by
  obtain ⟨frame, frames, whole⟩ := List.exists_cons_of_ne_nil sendable.some
  have member : frame ∈ parcel.burst.frames := by
    rw [whole]
    exact List.mem_cons_self
  exact Nat.zero_lt_of_lt (DataBurst.length_toRecord_lt member)

/-- A parcel that can be delivered is sent as an envelope. -/
theorem message_of_sendable (sendable : parcel.Sendable bound) :
    parcel.message compress = .ok (parcel.envelope compress) := by
  unfold message
  rw [DataBurst.wire_of_le sendable.compressible]
  rfl

theorem mapM_message (sendable : ∀ parcel ∈ parcels, parcel.Sendable bound) :
    parcels.mapM (message compress) = .ok (parcels.map (envelope compress)) := by
  apply Fallible.mapM_of_ok
  intro parcel member
  exact message_of_sendable (sendable parcel member)

/-! ## One burst on its way through a relay -/

/-- The header of a payload says the length of the record, and its body is the block. -/
theorem header_payload (compresses : Block.Compresses compress) (sendable : parcel.Sendable bound) :
    Reference.header bound (parcel.payload compress) =
      .ok ⟨⟨.ofNat parcel.burst.toRecord.length,
          .ofNat (compress parcel.burst.toRecord).length⟩, compress parcel.burst.toRecord⟩ := by
  have short := compresses.length_lt sendable.compressible
  have body := List.length_pos_iff.mpr (compresses.ne_nil sendable.compressible)
  have within := sendable.bounded
  unfold Reference.header payload
  rw [Payload.word_zero_encode, Payload.word_four_encode _ short, Payload.length_encode,
    sendable.toNat_length, if_neg (by omega), if_neg (by omega), if_neg (by omega),
    Payload.drop_encode, ← sendable.toNat_length, UInt32.ofNat_toNat]

/-- The block of a record is decoded into every region that has room for the record and that the
library takes. -/
theorem recordIn_compress {capacity : Nat} (compresses : Block.Compresses compress)
    (sendable : parcel.Sendable bound) (fits : parcel.burst.toRecord.length ≤ capacity)
    (takes : capacity ≤ Block.inputLimit) :
    Block.recordIn Block.inputLimit (.ofNat parcel.burst.toRecord.length) capacity
      (compress parcel.burst.toRecord) = .ok parcel.burst.toRecord := by
  have format : Block.inputLimit ≤ Codec.blockLimit := by decide
  have compressible := sendable.compressible
  refine Block.recordIn_eq_ok.mpr ⟨Block.takes_inputLimit.mpr takes, ?_,
    List.length_pos_iff.mp sendable.length_pos, sendable.toNat_length.symm⟩
  exact compresses _ compressible _ (by omega)

/-- A record is written as it is, or as the records of its frames. -/
theorem records_of_sendable (sendable : parcel.Sendable bound) (mode : OutputMode) :
    Output.records mode parcel.burst.toRecord = .ok (parcel.records mode) := by
  cases mode with
  | binary => rfl
  | hex => rfl
  | frames =>
    have short : parcel.burst.toRecord.length < UInt64.size :=
      Nat.lt_trans sendable.length_lt (by decide)
    unfold Output.records DataBurst.split
    dsimp only
    rw [DataBurst.ofRecord_toRecord short]
    rfl

/-- What the reference makes of the message of a parcel, whatever the capacity. -/
def effect (mode : OutputMode) (parcel : Parcel) : Reference.Effect where
  outcome := .emitted (parcel.records mode).length true
  output := Record.stream mode.format (parcel.records mode)
  sent := [parcel.acknowledgment]

/-- The burst of a parcel is decoded in a buffer that has room for its record, and leaves the room. -/
theorem message_envelope {policy : Reference.Policy} (capacity : Nat)
    (compresses : Block.Compresses compress) (sendable : parcel.Sendable policy.bound)
    (active : policy.role.acknowledges = true) (full : policy.dummy = false) :
    Reference.message policy capacity (parcel.envelope compress) =
      (Reference.effect policy parcel.acknowledgment
        (Reference.decoded policy.mode
          ⟨⟨.ofNat parcel.burst.toRecord.length, .ofNat (compress parcel.burst.toRecord).length⟩,
            compress parcel.burst.toRecord⟩ (max capacity parcel.burst.toRecord.length)),
        max capacity parcel.burst.toRecord.length) := by
  have other : ¬ Reference.IsEcho policy.role (parcel.envelope compress) := by
    rintro ⟨passive, -⟩
    rw [passive] at active
    cases active
  unfold Reference.message Reference.fate
  rw [if_neg other]
  unfold envelope
  dsimp only
  rw [header_payload compresses sendable]
  dsimp only
  rw [full, if_neg Bool.false_ne_true, sendable.toNat_length]
  rfl

/-- Every burst is emitted and acknowledged, whatever the capacity that earlier ones left, as long as
the library takes the buffer. -/
theorem message_of_parcel {policy : Reference.Policy} {capacity : Nat}
    (compresses : Block.Compresses compress) (sendable : parcel.Sendable policy.bound)
    (active : policy.role.acknowledges = true) (full : policy.dummy = false)
    (takes : capacity ≤ Block.inputLimit) :
    Reference.message policy capacity (parcel.envelope compress) =
      (parcel.effect policy.mode, max capacity parcel.burst.toRecord.length) := by
  have recorded := recordIn_compress compresses sendable (Nat.le_max_right capacity _)
    (Nat.max_le.mpr ⟨takes, sendable.compressible⟩)
  rw [message_envelope capacity compresses sendable active full]
  unfold Reference.decoded
  dsimp only
  rw [recorded]
  dsimp only
  rw [records_of_sendable sendable]
  simp only [Reference.effect, active, if_pos, effect]

/-- No burst is emitted if the buffer is larger than the library takes. -/
theorem outcome_of_oversized {policy : Reference.Policy} {capacity : Nat}
    (compresses : Block.Compresses compress) (sendable : parcel.Sendable policy.bound)
    (active : policy.role.acknowledges = true) (full : policy.dummy = false)
    (beyond : Block.inputLimit < capacity) :
    (Reference.message policy capacity (parcel.envelope compress)).1.outcome =
      .skipped (.burst (Block.oversized (compress parcel.burst.toRecord)))
        (policy.ackSkipped && policy.role.acknowledges) := by
  have larger : ¬ Block.Takes Block.inputLimit (max capacity parcel.burst.toRecord.length) := by
    rw [Block.takes_inputLimit]
    omega
  rw [message_envelope capacity compresses sendable active full]
  unfold Reference.decoded
  dsimp only
  rw [Block.recordIn_of_not_takes larger]
  rfl

theorem fold_of_parcels {policy : Reference.Policy} {capacity : Nat}
    (compresses : Block.Compresses compress)
    (sendable : ∀ parcel ∈ parcels, parcel.Sendable policy.bound)
    (active : policy.role.acknowledges = true) (full : policy.dummy = false)
    (takes : capacity ≤ Block.inputLimit) :
    Reference.fold policy capacity (parcels.map (envelope compress)) =
      parcels.map (effect policy.mode) := by
  -- each burst may leave another capacity, and no record raises it above what the library takes
  induction parcels generalizing capacity with
  | nil => rfl
  | cons parcel parcels ih =>
    rw [List.forall_mem_cons] at sendable
    rw [List.map_cons, Reference.fold,
      message_of_parcel compresses sendable.1 active full takes]
    dsimp only
    rw [ih sendable.2 (Nat.max_le.mpr ⟨takes, sendable.1.compressible⟩)]
    rfl

end Parcel

/-! ## Whole runs -/

/-- The messages of a queue of whole messages are those messages. -/
theorem Reference.messages_queueOf {queued : List Message}
    (nonempty : ∀ message ∈ queued, message ≠ []) :
    messages [] (Channel.queueOf queued) = (queued, .closed) := by
  induction queued with
  | nil => rfl
  | cons message queued ih =>
    rw [List.forall_mem_cons] at nonempty
    have taken : (Channel.nextMessage #[] (Channel.queueOf (message :: queued))).value =
        (.ok message, Channel.queueOf queued) := by
      rw [Channel.queueOf_cons, Channel.nextMessage_parts #[] (Channel.queueOf queued) nonempty.1]
      rfl
    have cut := messages_of_taken taken
    rw [ih nonempty.2] at cut
    exact cut

/-- A relay starts if the memory for its buffer is granted. -/
theorem Relay.exists_start {State : Type} {settings : Settings} {allocator : Allocator}
    (codec : Codec State) (codecState : State) (channel : Channel) (sink : Sink)
    (granted : allocator 0 settings.decompression.initialCapacity.toNat = none) :
    ∃ relay, (start settings allocator codec codecState channel sink).value = .ok relay := by
  have made : ∃ buffer, Buffer.ofCapacity allocator
      settings.decompression.initialCapacity.toNat = .ok buffer := by
    unfold Buffer.ofCapacity Buffer.reserve
    dsimp only
    split
    · exact ⟨_, rfl⟩
    · rw [granted]
      exact ⟨_, rfl⟩
  obtain ⟨buffer, made⟩ := made
  exact start_of_made codec codecState channel sink made

/-- Parcels were delivered by a run: their producers have all acknowledgments behind those sent
before, and a consumer that reads the output, in portions of any size, has the frames of all. -/
structure Delivered (mode : OutputMode) (parcels : List Parcel) (sentBefore : List Message)
    (run : Relay.Run Unit) : Prop where
  outcomes : run.outcomes = parcels.map fun parcel => .emitted (parcel.records mode).length true
  sent : run.relay.channel.sent.toList = sentBefore ++ parcels.map Parcel.acknowledgment
  result : run.result = .ok ()
  bursts : mode = .binary → ∀ behaviour : Source.Behaviour, behaviour.Delivers →
    ∃ read, RecordReader.readAll { source := .ofBytes run.relay.sink.bytes behaviour } =
        (read, .ok ()) ∧
      read.map RecordLayout.burst.frames = parcels.map fun parcel => .ok parcel.burst.frames
  frames : mode = .frames → ∀ behaviour : Source.Behaviour, behaviour.Delivers →
    ∃ read, RecordReader.readAll { source := .ofBytes run.relay.sink.bytes behaviour } =
        (read, .ok ()) ∧
      read.map RecordLayout.frame.frames =
        (parcels.flatMap fun parcel => parcel.burst.frames).map fun frame => .ok [frame]

namespace Parcel

variable {bound : UInt32} {parcels : List Parcel}

/-- A consumer of whole records has the frames of each burst. -/
theorem bursts_of_stream {behaviour : Source.Behaviour} (delivers : behaviour.Delivers)
    (sendable : ∀ parcel ∈ parcels, parcel.Sendable bound) :
    ∃ read, RecordReader.readAll
        { source := .ofBytes
            (Record.stream .binary (parcels.flatMap (records .binary))) behaviour } =
        (read, .ok ()) ∧
      read.map RecordLayout.burst.frames =
        parcels.map fun parcel => .ok parcel.burst.frames := by
  have fit : ∀ record ∈ parcels.flatMap (records .binary), record.length < UInt32.size := by
    intro record member
    obtain ⟨parcel, sent, inside⟩ := List.mem_flatMap.mp member
    rw [List.mem_singleton.mp inside]
    exact (sendable parcel sent).length_lt
  refine ⟨_, RecordReader.readAll_stream (RecordReader.faces_of_bytes delivers _) fit, ?_⟩
  show (parcels.flatMap fun parcel => [parcel.burst.toRecord]).map RecordLayout.burst.frames = _
  rw [← List.map_eq_flatMap, List.map_map]
  refine List.map_congr_left ?_
  intro parcel sent
  have short : parcel.burst.toRecord.length < UInt64.size :=
    Nat.lt_trans (sendable parcel sent).length_lt (by decide)
  show (DataBurst.ofRecord parcel.burst.toRecord).map DataBurst.frames = _
  rw [DataBurst.ofRecord_toRecord short]
  rfl

/-- A consumer of single frames has the frames of all bursts. -/
theorem frames_of_stream {behaviour : Source.Behaviour} (delivers : behaviour.Delivers)
    (sendable : ∀ parcel ∈ parcels, parcel.Sendable bound) :
    ∃ read, RecordReader.readAll
        { source := .ofBytes
            (Record.stream .binary (parcels.flatMap (records .frames))) behaviour } =
        (read, .ok ()) ∧
      read.map RecordLayout.frame.frames =
        (parcels.flatMap fun parcel => parcel.burst.frames).map fun frame => .ok [frame] := by
  -- the record of a frame is shorter than that of its burst
  have short : ∀ frame ∈ parcels.flatMap fun parcel => parcel.burst.frames,
      frame.toRecord.length < UInt32.size := by
    intro frame member
    obtain ⟨parcel, sent, inside⟩ := List.mem_flatMap.mp member
    exact Nat.lt_trans (DataBurst.length_toRecord_lt inside) (sendable parcel sent).length_lt
  have each : parcels.flatMap (records .frames) =
      (parcels.flatMap fun parcel => parcel.burst.frames).map DataFrame.toRecord :=
    (List.map_flatMap ..).symm
  have fit : ∀ record ∈ parcels.flatMap (records .frames), record.length < UInt32.size := by
    intro record member
    rw [each] at member
    obtain ⟨frame, inside, rfl⟩ := List.mem_map.mp member
    exact short frame inside
  refine ⟨_, RecordReader.readAll_stream (RecordReader.faces_of_bytes delivers _) fit, ?_⟩
  rw [each, List.map_map]
  refine List.map_congr_left ?_
  intro frame inside
  show (DataFrame.ofRecord frame.toRecord).map (fun frame => [frame]) = _
  rw [DataFrame.ofRecord_toRecord (Nat.lt_trans (short frame inside) (by decide))]
  rfl

end Parcel

/-- Bursts that producers send to a relay that acknowledges are delivered, if the buffer does not begin
with more than the library takes. -/
theorem parcels_are_delivered {settings : Settings} {allocator : Allocator}
    {leavings : Codec.Leavings} {channel : Channel} {behaviour : Sink.Behaviour}
    {compress : Bytes → Bytes} {parcels : List Parcel}
    (compresses : Block.Compresses compress)
    (sendable : ∀ parcel ∈ parcels, parcel.Sendable settings.bound)
    (takes : settings.decompression.initialCapacity.toNat ≤ Block.inputLimit)
    (active : settings.relay.role.acknowledges = true)
    (full : settings.acknowledgment.dummy = false)
    (grants : ∀ requests capacity,
      capacity ≤ max settings.bound.toNat settings.decompression.initialCapacity.toNat →
        allocator requests capacity = none)
    (sends : channel.sendFault = none) (finished : channel.unfinished = [])
    (accepts : behaviour.Accepts) :
    ∃ messages, parcels.mapM (Parcel.message compress) = .ok messages ∧
      ∃ relay, (Relay.start settings allocator (.block leavings) ()
          (channel.withQueue (Channel.queueOf messages)) (.ofBehaviour behaviour)).value =
          .ok relay ∧
        Delivered settings.output.format parcels channel.sent.toList relay.run.value := by
  refine ⟨_, Parcel.mapM_message sendable, ?_⟩
  obtain ⟨relay, started⟩ := Relay.exists_start (.block leavings) ()
    (channel.withQueue (Channel.queueOf (parcels.map (Parcel.envelope compress))))
    (.ofBehaviour behaviour) (grants 0 _ (Nat.le_max_right _ _))
  have granted : ∀ requests capacity, capacity ≤ settings.bound.toNat →
      allocator requests capacity = none :=
    fun requests capacity within =>
      grants requests capacity (Nat.le_trans within (Nat.le_max_left _ _))
  have agrees := Reference.agrees_of_start started granted sends finished accepts
  have nonempty : ∀ message ∈ parcels.map (Parcel.envelope compress), message ≠ [] := by
    intro message member
    obtain ⟨parcel, -, rfl⟩ := List.mem_map.mp member
    exact List.cons_ne_nil _ _
  -- the reference has one effect for each parcel, in the order in which they are queued
  have effects : Reference.fold (.ofSettings settings)
      settings.decompression.initialCapacity.toNat (Reference.messages []
        (Channel.queueOf (parcels.map (Parcel.envelope compress)))).1 =
      parcels.map (Parcel.effect settings.output.format) := by
    rw [Reference.messages_queueOf nonempty]
    exact Parcel.fold_of_parcels compresses sendable active full takes
  have outcomes := agrees.outcomes
  have bytes := agrees.output
  have sent := agrees.sent
  have result := agrees.result
  rw [Channel.withQueue_incoming] at outcomes bytes sent result
  rw [effects] at outcomes bytes sent
  rw [Reference.messages_queueOf nonempty] at result
  rw [List.map_map] at outcomes
  rw [List.flatMap_map] at bytes sent
  have output : relay.run.value.relay.sink.bytes =
      Record.stream settings.output.format.format
        (parcels.flatMap (Parcel.records settings.output.format)) := by
    rw [bytes, Record.stream, List.flatMap_assoc]
    rfl
  refine ⟨relay, started, outcomes, ?_, result, ?_, ?_⟩
  · have acknowledgments : parcels.flatMap (fun parcel =>
        (parcel.effect settings.output.format).sent) = parcels.map Parcel.acknowledgment :=
      List.map_eq_flatMap.symm
    rw [sent, acknowledgments]
    rfl
  · intro binary source delivers
    rw [output, binary]
    exact Parcel.bursts_of_stream delivers sendable
  · intro frames source delivers
    rw [output, frames]
    exact Parcel.frames_of_stream delivers sendable

/-- Settings for a buffer that begins with more than the library takes. -/
def lavish : Settings :=
  { decompression := { initialCapacity := 2113929217, maxDeclaredSize := 0 } }

/-- A parcel with a burst of one empty frame. -/
def Parcel.small : Parcel := ⟨[7], [8], ⟨[{}]⟩⟩

theorem Parcel.sendable_small : Parcel.small.Sendable lavish.bound :=
  ⟨by decide, by decide +kernel, by decide +kernel⟩

/-- Without a limit for the first capacity, bursts are not delivered: a relay whose buffer begins with
one byte more than the library takes skips a burst of one frame. -/
theorem parcels_are_lost :
    ¬ ∀ (settings : Settings) (allocator : Allocator) (leavings : Codec.Leavings)
        (channel : Channel) (behaviour : Sink.Behaviour) (compress : Bytes → Bytes)
        (parcels : List Parcel),
      Block.Compresses compress → (∀ parcel ∈ parcels, parcel.Sendable settings.bound) →
      settings.relay.role.acknowledges = true → settings.acknowledgment.dummy = false →
      (∀ requests capacity,
        capacity ≤ max settings.bound.toNat settings.decompression.initialCapacity.toNat →
          allocator requests capacity = none) →
      channel.sendFault = none → channel.unfinished = [] → behaviour.Accepts →
      ∃ messages, parcels.mapM (Parcel.message compress) = .ok messages ∧
        ∃ relay, (Relay.start settings allocator (.block leavings) ()
            (channel.withQueue (Channel.queueOf messages)) (.ofBehaviour behaviour)).value =
            .ok relay ∧
          Delivered settings.output.format parcels channel.sent.toList relay.run.value := by
  intro delivers
  have sendable : ∀ parcel ∈ [Parcel.small], parcel.Sendable lavish.bound :=
    List.forall_mem_singleton.mpr Parcel.sendable_small
  obtain ⟨messages, sent, relay, started, delivered⟩ := delivers lavish .willing .nothing {} .willing
    Block.store [Parcel.small] Block.compresses_store sendable rfl rfl (fun _ _ _ => rfl) rfl rfl
    Sink.Behaviour.accepts_willing
  obtain rfl : messages = [Parcel.small.envelope Block.store] := by
    cases sent.symm.trans (Parcel.mapM_message sendable)
    rfl
  have agrees := Reference.agrees_of_start started (fun _ _ _ => rfl) rfl rfl
    Sink.Behaviour.accepts_willing
  have nonempty : ∀ message ∈ [Parcel.small.envelope Block.store], message ≠ [] :=
    List.forall_mem_singleton.mpr (List.cons_ne_nil _ _)
  have outcomes := delivered.outcomes.symm.trans agrees.outcomes
  rw [Channel.withQueue_incoming, Reference.messages_queueOf nonempty] at outcomes
  -- what was delivered was emitted, and what the reference makes of it is a skip
  have skipped : (Reference.message (.ofSettings lavish) 2113929217
      (Parcel.small.envelope Block.store)).1.outcome = .skipped _ _ :=
    Parcel.outcome_of_oversized Block.compresses_store Parcel.sendable_small rfl rfl (by decide)
  cases (List.cons.inj outcomes).1.trans skipped

/-- Two producers send a burst each, one of an empty frame and one of two frames of which the second
repeats the first, to a relay of single frames that begins without a buffer. -/
theorem frames_are_delivered :
    ∃ messages, [Parcel.mk [7] [1] ⟨[{}]⟩,
        Parcel.mk [8] [] ⟨[{ timestamp := 1 }, { timestamp := 1 }]⟩].mapM
          (Parcel.message Block.store) = .ok messages ∧
      ∃ relay, (Relay.start
          { output := { format := .frames }, decompression := { initialCapacity := 0 } } .willing
          (.block .nothing) () (Channel.withQueue {} (Channel.queueOf messages))
          (.ofBehaviour .willing)).value = .ok relay ∧
        Delivered .frames [Parcel.mk [7] [1] ⟨[{}]⟩,
          Parcel.mk [8] [] ⟨[{ timestamp := 1 }, { timestamp := 1 }]⟩] [] relay.run.value := by
  refine parcels_are_delivered Block.compresses_store ?_ (by decide) rfl rfl (fun _ _ _ => rfl) rfl rfl
    Sink.Behaviour.accepts_willing
  intro parcel member
  simp only [List.mem_cons, List.not_mem_nil, or_false] at member
  rcases member with rfl | rfl
  · exact ⟨by decide, by decide +kernel, by decide +kernel⟩
  · exact ⟨by decide, by decide +kernel, by decide +kernel⟩

end BurstRelay

import BurstRelay.Proofs.Burst.Slices
import BurstRelay.Proofs.Relay.Dependable

/-!
# No message stops a relay

As long as sends work, the sink accepts everything and memory is granted up to the bound, a relay
serves every message that is queued for it, whatever is in the message and whatever the codec makes
of it: the call for it succeeds, stays inside the payload, the buffer and the four bytes of a length,
and leaves the queue where the next message starts (`every_message_is_served`).
-/

namespace BurstRelay

/-- The arrivals of whole messages. -/
def Channel.queueOf (messages : List Message) : List Arrival :=
  messages.flatMap fun message => message.parts.map .part

theorem Channel.queueOf_cons (message : Message) (messages : List Message) :
    queueOf (message :: messages) = message.parts.map .part ++ queueOf messages := rfl

theorem Channel.queueOf_append (first second : List Message) :
    queueOf (first ++ second) = queueOf first ++ queueOf second := by
  simp [queueOf]

namespace Relay

variable {State : Type}

open Channel (queueOf)

/-! ## Ranges -/

/-- What the next call of a relay reads and writes stays in range. -/
structure InRange (relay : Relay State) : Prop where
  /-- The slices of a payload lie inside it. -/
  payload : ∀ payload : Bytes, Payload.parse? payload = some (Payload.parse payload)
  /-- A record that is read back from the buffer lies inside it, and has the declared size. -/
  record : ∀ frames rest payload burst record unpacked,
    (Channel.nextMessage #[] relay.channel.incoming).value = (.ok frames, rest) →
    ((relay.taking rest).admission payload).value = .ok burst →
    ((relay.taking rest).unpack burst).value = (.record record, unpacked) →
      Bytes.slice? unpacked.buffer.region.toList 0 burst.header.declaredUncompressed.toNat =
        some record
  /-- Four bytes are enough for the length of each output record. -/
  length : ∀ part ∈ relay.nextRecords, part.length < UInt32.size

/-- A record that is accepted is a slice of the buffer. -/
theorem slice_of_unpack {relay unpacked : Relay State} {burst : Payload} {record : Bytes}
    (dependable : Dependable relay)
    (within : burst.header.declaredUncompressed.toNat ≤ relay.bound.toNat)
    (unpack : (relay.unpack burst).value = (.record record, unpacked)) :
    Bytes.slice? unpacked.buffer.region.toList 0 burst.header.declaredUncompressed.toNat =
      some record := by
  obtain ⟨start, fits⟩ := record_of_unpack dependable within unpack
  have inside : burst.header.declaredUncompressed.toNat ≤
      unpacked.buffer.region.toList.length := by
    rw [Region.length_toList]
    exact fits
  rw [Bytes.slice?_of_le (Nat.zero_le _) inside, List.drop_zero, Nat.sub_zero, start,
    Region.first_eq_take]

theorem length_lt_of_recordsOf {relay : Relay State} {payload : Bytes}
    (dependable : Dependable relay) :
    ∀ part ∈ relay.recordsOf payload, part.length < UInt32.size := by
  intro part member
  unfold recordsOf at member
  cases admitted : (relay.admission payload).value with
  | error fault =>
    rw [admitted] at member
    cases member
  | ok burst =>
    rw [admitted] at member
    dsimp only at member
    split at member
    · cases member
    · cases unpack : (relay.unpack burst).value with
      | mk unpacking unpacked =>
        rw [unpack] at member
        cases unpacking with
        | skip fault => cases member
        | stop fault => cases member
        | record record =>
          dsimp only at member
          cases split : Output.records relay.output.mode record with
          | error fault =>
            rw [split] at member
            cases member
          | ok parts =>
            rw [split] at member
            have within := (admission_eq_ok.mp admitted).2
            have short := length_le_of_unpack dependable within unpack
            exact length_lt_of_records
              (Nat.le_trans short (Nat.le_trans within dependable.bounded)) split part member

theorem inRange_of_dependable {relay : Relay State} (dependable : Dependable relay) :
    InRange relay where
  payload := Payload.parse?_eq
  record := by
    intro frames rest payload burst record unpacked _ admitted unpack
    have taking := dependable.keeps (relay.keeps_taking rest)
    exact slice_of_unpack taking (admission_eq_ok.mp admitted).2 unpack
  length := by
    intro part member
    unfold nextRecords at member
    split at member
    · cases member
    · rename_i frames rest _
      split at member
      · exact length_lt_of_recordsOf (dependable.keeps (relay.keeps_taking rest)) part member
      · cases member
      · cases member

/-! ## Queues -/

/-- The next message of a queue is served, and the queue then starts with the one behind it. -/
theorem step_of_queue {relay : Relay State} {message : Message} {messages : List Message}
    {tail : List Arrival} (dependable : Dependable relay) (nonempty : message ≠ [])
    (queued : relay.channel.incoming = queueOf (message :: messages) ++ tail) :
    ∃ outcome after, relay.step.value = (.ok outcome, after) ∧
      after.channel.incoming = queueOf messages ++ tail := by
  have taken : (Channel.nextMessage #[] relay.channel.incoming).value =
      (.ok message, queueOf messages ++ tail) := by
    rw [queued, Channel.queueOf_cons, List.append_assoc,
      Channel.nextMessage_parts #[] (queueOf messages ++ tail) nonempty]
    rfl
  obtain ⟨outcome, after, called, -, queue⟩ := served_of_dependable dependable taken
  exact ⟨outcome, after, called, queue⟩

/-- All messages of a queue are served. -/
theorem serves_of_queue {relay : Relay State} {messages : List Message} {tail : List Arrival}
    (dependable : Dependable relay) (nonempty : ∀ message ∈ messages, message ≠ [])
    (queued : relay.channel.incoming = queueOf messages ++ tail) :
    ∃ history last, Serves relay history last ∧ history.length = messages.length ∧
      last.channel.incoming = tail := by
  -- what carries the induction is that a relay stays dependable, not what came of its messages
  induction messages generalizing relay with
  | nil => exact ⟨[], relay, .nothing relay, rfl, queued⟩
  | cons message messages ih =>
    rw [List.forall_mem_cons] at nonempty
    obtain ⟨outcome, after, called, rest⟩ := step_of_queue dependable nonempty.1 queued
    obtain ⟨history, last, serves, count, left⟩ :=
      ih (dependable.keeps (keeps_of_step called)) nonempty.2 rest
    exact ⟨(relay, outcome) :: history, last, .call called serves, by simp [count], left⟩

/-- Every message of a queue is served, in its turn, by a call that succeeds and stays in range, and
the next call starts with the next message. -/
theorem every_message_is_served {settings : Settings} {allocator : Allocator} {codec : Codec State}
    {codecState : State} {channel : Channel} {sink : Sink} {relay : Relay State}
    {messages : List Message} {tail : List Arrival}
    (started : (start settings allocator codec codecState channel sink).value = .ok relay)
    (grants : ∀ requests capacity, capacity ≤ settings.bound.toNat →
      allocator requests capacity = none)
    (sends : channel.sendFault = none) (accepts : sink.behaviour.Accepts)
    (nonempty : ∀ message ∈ messages, message ≠ [])
    (queued : channel.incoming = queueOf messages ++ tail) :
    ∀ served next waiting, messages = served ++ next :: waiting →
      ∃ history before outcome after,
        Serves relay history before ∧ history.length = served.length ∧
        before.channel.incoming = queueOf (next :: waiting) ++ tail ∧
        before.step.value = (.ok outcome, after) ∧
        after.channel.incoming = queueOf waiting ++ tail ∧ InRange before := by
  intro served next waiting parted
  have dependable := dependable_of_start started grants sends accepts
  subst parted
  have started' := eq_of_start started
  obtain ⟨buffer, -, same⟩ := started'
  have queue : relay.channel.incoming = queueOf served ++ (queueOf (next :: waiting) ++ tail) := by
    rw [same, queued, Channel.queueOf_append, List.append_assoc]
  obtain ⟨history, before, serves, count, rest⟩ := serves_of_queue dependable
    (fun message member => nonempty message (List.mem_append_left _ member)) queue
  have still := dependable.keeps serves.keeps
  obtain ⟨outcome, after, called, left⟩ := step_of_queue still
    (nonempty next (List.mem_append_right _ List.mem_cons_self)) rest
  exact ⟨history, before, outcome, after, serves, count, rest, called, left,
    inRange_of_dependable still⟩

/-- A burst behind a message of one frame is served although its codec claims more bytes than there
is room for. -/
theorem overreported_burst_is_served :
    ∃ relay : Relay (List Codec.Step),
      (start {} .willing .scripted [.claim 2000000]
        { incoming := queueOf [[[1]], [[7], [8], [2, 0, 0, 0, 1, 0, 0, 0, 9]]] }
        (.ofBehaviour .willing)).value = .ok relay ∧
      ∃ history before outcome after,
        Serves relay history before ∧ history.length = 1 ∧
        before.step.value = (.ok outcome, after) ∧ after.channel.incoming = [] ∧
        InRange before := by
  obtain ⟨relay, started⟩ : ∃ relay : Relay (List Codec.Step),
      (start {} .willing .scripted [.claim 2000000]
        { incoming := queueOf [[[1]], [[7], [8], [2, 0, 0, 0, 1, 0, 0, 0, 9]]] }
        (.ofBehaviour .willing)).value = .ok relay := ⟨_, rfl⟩
  obtain ⟨history, before, outcome, after, serves, count, -, called, left, inRange⟩ :=
    every_message_is_served started (fun _ _ _ => rfl) rfl Sink.Behaviour.accepts_willing
      (by decide) (List.append_nil _).symm [[[1]]] _ [] rfl
  exact ⟨relay, started, history, before, outcome, after, serves, count, called, left, inRange⟩

end Relay

end BurstRelay

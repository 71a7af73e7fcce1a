import BurstRelay.Proofs.Relay.Explicit
import BurstRelay.Proofs.Relay.Runs

/-!
# Relays with the same work

Two relays may differ in what they reply, and still have done the same work and have the same work
before them (`SameWork`). Then they come to the same verdict on a burst (`SameWork.judge`), and
answering to a verdict is no work (`SameWork.answering`). If both acknowledge and treat skipped bursts
alike, they cannot be told apart at all (`Twins`).

Roles take all messages for the same, except that a message that ends with an empty frame is the
acknowledgment of another to an observer.
-/

namespace BurstRelay

/-- An outcome, but for whether the message was acknowledged. -/
def Outcome.unacknowledged : Outcome → Outcome
  | .emitted records _ => .emitted records false
  | .admitted _ => .admitted false
  | .skipped fault _ => .skipped fault false
  | .ackEcho => .ackEcho

/-- A message of two or three frames that ends with an empty one. -/
def Message.EmptyLast (message : Message) : Prop :=
  (message.length = 2 ∨ message.length = 3) ∧ message.getLast? = some []

instance (message : Message) : Decidable message.EmptyLast := inferInstanceAs (Decidable (_ ∧ _))

/-! ## Messages that end with an empty frame -/

theorem Role.eq_passiveObserver {role : Role} (passive : ¬ role.acknowledges = true) :
    role = .passiveObserver := by
  cases role with
  | passiveObserver => rfl
  | responder => exact absurd rfl passive
  | impersonator => exact absurd rfl passive

namespace Received

theorem classify_of_passive {message : Message} (empty : message.EmptyLast) :
    ∃ identity messageId,
      classify .passiveObserver message = .acknowledgment identity messageId := by
  obtain ⟨size, last⟩ := empty
  match message with
  | [] => simp at size
  | [_] => simp at size
  | [identity, final] =>
    have blank : final = [] := by simpa using last
    exact ⟨identity, none, by simp [classify, blank]⟩
  | [identity, messageId, payload] =>
    have blank : payload = [] := by simpa using last
    exact ⟨identity, some messageId, by simp [classify, blank]⟩
  | _ :: _ :: _ :: _ :: _ => simp at size

/-- A message that ends with an empty frame has too few frames, or an empty payload. -/
theorem classify_of_active {role : Role} {message : Message} (active : role.acknowledges = true)
    (empty : message.EmptyLast) :
    classify role message = .rejected (.shortEnvelope 2) ∨
      ∃ envelope, classify role message = .envelope envelope ∧ envelope.payload = [] := by
  have involved : role ≠ .passiveObserver := by
    rintro rfl
    cases active
  obtain ⟨size, last⟩ := empty
  match message with
  | [] => simp at size
  | [_] => simp at size
  | [_, _] => exact .inl (by simp [classify, involved])
  | [identity, messageId, payload] =>
    have blank : payload = [] := by simpa using last
    exact .inr ⟨⟨identity, messageId, payload⟩, by simp [classify, involved], blank⟩
  | _ :: _ :: _ :: _ :: _ => simp at size

/-- All roles take a message for the same, unless it ends with an empty frame. -/
theorem classify_of_not_emptyLast {message : Message} (full : ¬ message.EmptyLast)
    (first second : Role) :
    classify second message = classify first message := by
  match message with
  | [] => rfl
  | [_] => rfl
  | [_, last] =>
    have filled : last ≠ [] := by
      rintro rfl
      exact full ⟨.inl rfl, rfl⟩
    simp [classify, filled]
  | [_, _, payload] =>
    have filled : payload ≠ [] := by
      rintro rfl
      exact full ⟨.inr rfl, rfl⟩
    simp [classify, filled]
  | _ :: _ :: _ :: _ :: _ => rfl

/-- Roles that acknowledge take every message for the same. -/
theorem classify_of_acknowledges {first second : Role} (active : first.acknowledges = true)
    (active' : second.acknowledges = true) (message : Message) :
    classify second message = classify first message := by
  have involved : first ≠ .passiveObserver := by
    rintro rfl
    cases active
  have involved' : second ≠ .passiveObserver := by
    rintro rfl
    cases active'
  unfold classify
  simp only [involved, involved', false_and, if_false]

end Received

namespace Relay

variable {State : Type}

/-! ## The same work -/

/-- Two relays that have done the same work and have the same work before them. -/
structure SameWork (one two : Relay State) : Prop where
  codec : two.codec = one.codec
  codecState : two.codecState = one.codecState
  bound : two.bound = one.bound
  dummy : two.dummy = one.dummy
  buffer : two.buffer = one.buffer
  output : two.output = one.output
  queue : two.channel.incoming = one.channel.incoming
  recordsEmitted : two.statistics.recordsEmitted = one.statistics.recordsEmitted

namespace SameWork

variable {one two three : Relay State}

theorem refl (relay : Relay State) : SameWork relay relay := ⟨rfl, rfl, rfl, rfl, rfl, rfl, rfl, rfl⟩

theorem symm (same : SameWork one two) : SameWork two one :=
  ⟨same.codec.symm, same.codecState.symm, same.bound.symm, same.dummy.symm, same.buffer.symm,
    same.output.symm, same.queue.symm, same.recordsEmitted.symm⟩

theorem trans (first : SameWork one two) (second : SameWork two three) : SameWork one three :=
  ⟨second.codec.trans first.codec, second.codecState.trans first.codecState,
    second.bound.trans first.bound, second.dummy.trans first.dummy,
    second.buffer.trans first.buffer, second.output.trans first.output,
    second.queue.trans first.queue, second.recordsEmitted.trans first.recordsEmitted⟩

/-- Counting a skipped message is no work. -/
theorem countSkip (relay : Relay State) (kind : String) : SameWork relay (relay.countSkip kind) :=
  ⟨rfl, rfl, rfl, rfl, rfl, rfl, rfl, rfl⟩

theorem countEcho (relay : Relay State) : SameWork relay relay.countEcho :=
  ⟨rfl, rfl, rfl, rfl, rfl, rfl, rfl, rfl⟩

/-- Acknowledging is no work. -/
theorem replied (relay : Relay State) (envelope : Envelope) :
    SameWork relay (relay.replied envelope) := by
  unfold Relay.replied
  split
  · exact ⟨rfl, rfl, rfl, rfl, rfl, rfl, rfl, rfl⟩
  · exact .refl relay

theorem taking (same : SameWork one two) (rest : List Arrival) :
    SameWork (one.taking rest) (two.taking rest) :=
  ⟨same.codec, same.codecState, same.bound, same.dummy, same.buffer, same.output, rfl,
    same.recordsEmitted⟩

theorem losing (same : SameWork one two) (rest : List Arrival) :
    SameWork { one with channel := one.channel.withQueue rest }
      { two with channel := two.channel.withQueue rest } :=
  ⟨same.codec, same.codecState, same.bound, same.dummy, same.buffer, same.output, rfl,
    same.recordsEmitted⟩

theorem recordsEmitted_unpacked (relay : Relay State) (burst : Payload) :
    (relay.unpacked burst).statistics.recordsEmitted = relay.statistics.recordsEmitted := by
  obtain ⟨peak, statistics⟩ := relay.statistics_unpacked burst
  rw [statistics]

theorem unpacked (same : SameWork one two) (burst : Payload) :
    SameWork (one.unpacked burst) (two.unpacked burst) where
  codec := same.codec
  codecState := by
    show (two.codec.unpack two.codecState two.buffer burst).codecState = _
    rw [same.codec, same.codecState, same.buffer]
    rfl
  bound := same.bound
  dummy := same.dummy
  buffer := by
    show (two.codec.unpack two.codecState two.buffer burst).buffer = _
    rw [same.codec, same.codecState, same.buffer]
    rfl
  output := same.output
  queue := same.queue
  recordsEmitted := by
    rw [recordsEmitted_unpacked, recordsEmitted_unpacked]
    exact same.recordsEmitted

/-- Relays with the same work write the same. -/
theorem deliver (same : SameWork one two) (record : Bytes) :
    (two.deliver record).1 = (one.deliver record).1 ∧
      SameWork (one.deliver record).2 (two.deliver record).2 := by
  unfold Relay.deliver
  rw [same.output]
  rcases one.output.emit record with ⟨emission, output⟩
  cases emission with
  | undecodable fault =>
    exact ⟨rfl, same.codec, same.codecState, same.bound, same.dummy, same.buffer, rfl, same.queue,
      same.recordsEmitted⟩
  | failed fault =>
    exact ⟨rfl, same.codec, same.codecState, same.bound, same.dummy, same.buffer, rfl, same.queue,
      same.recordsEmitted⟩
  | wrote records =>
    exact ⟨rfl, same.codec, same.codecState, same.bound, same.dummy, same.buffer, rfl, same.queue,
      congrArg (fun before => before + records) same.recordsEmitted⟩

theorem verifying (same : SameWork one two) (burst : Payload) :
    (two.verifying burst).1 = (one.verifying burst).1 ∧
      SameWork (one.verifying burst).2 (two.verifying burst).2 := by
  have after := same.unpacked burst
  unfold Relay.verifying
  rw [same.codec, same.codecState, same.buffer]
  cases (one.codec.unpack one.codecState one.buffer burst).unpacking with
  | record record => exact after.deliver record
  | skip fault => exact ⟨rfl, after⟩
  | stop fault => exact ⟨rfl, after⟩

/-- Relays with the same work come to the same verdict on a burst. -/
theorem judge (same : SameWork one two) (envelope : Envelope) :
    (two.judge envelope).value.1 = (one.judge envelope).value.1 ∧
      SameWork (one.judge envelope).value.2 (two.judge envelope).value.2 := by
  rw [value_judge, value_judge, same.bound, same.dummy]
  cases Reference.header one.bound envelope.payload with
  | error fault => exact ⟨rfl, same⟩
  | ok burst =>
    dsimp only
    cases one.dummy with
    | true => exact ⟨rfl, same⟩
    | false => exact same.verifying burst

/-- Skipping a burst is no work. -/
theorem skipping (relay : Relay State) (envelope : Envelope) (fault : BurstFault) :
    ∃ acknowledged after, relay.answered envelope (.skip fault) =
        (.ok (.skipped (.burst fault) acknowledged), after) ∧ SameWork relay after := by
  unfold Relay.answered
  dsimp only
  split
  · exact ⟨_, _, rfl, (countSkip relay fault.kind).trans (replied _ envelope)⟩
  · exact ⟨_, _, rfl, countSkip relay fault.kind⟩

/-- Answering to a verdict is no work. -/
theorem answering (relay : Relay State) (envelope : Envelope) (verdict : Verdict) :
    SameWork relay (relay.answered envelope verdict).2 := by
  cases verdict with
  | written records => exact replied relay envelope
  | headerOnly => exact replied relay envelope
  | stop fault => exact refl relay
  | skip fault =>
    obtain ⟨acknowledged, after, skips, still⟩ := skipping relay envelope fault
    rw [skips]
    exact still

/-- The answers to a verdict come to the same, but for the acknowledgment. -/
theorem answered (same : SameWork one two) (envelope : Envelope) (verdict : Verdict) :
    InStep SameWork (fun outcome outcome' => outcome'.unacknowledged = outcome.unacknowledged)
      (one.answered envelope verdict) (two.answered envelope verdict) := by
  have still := ((answering one envelope verdict).symm.trans same).trans
    (answering two envelope verdict)
  cases verdict with
  | written records => exact .goes rfl still
  | headerOnly => exact .goes rfl still
  | stop fault => exact .fails still
  | skip fault =>
    obtain ⟨acknowledged, after, skips, -⟩ := skipping one envelope fault
    obtain ⟨acknowledged', after', skips', -⟩ := skipping two envelope fault
    rw [skips, skips'] at still ⊢
    exact .goes rfl still

end SameWork

/-! ## Roles that acknowledge -/

variable {one two : Relay State}

/-- The relay with something else to send its acknowledgments. -/
def withAcknowledger (relay : Relay State) (acknowledger : Acknowledger) : Relay State :=
  { relay with acknowledger }

theorem deliver_withAcknowledger (relay : Relay State) (acknowledger : Acknowledger)
    (record : Bytes) :
    (relay.withAcknowledger acknowledger).deliver record =
      ((relay.deliver record).1, (relay.deliver record).2.withAcknowledger acknowledger) := by
  unfold deliver
  rw [show (relay.withAcknowledger acknowledger).output = relay.output from rfl]
  rcases relay.output.emit record with ⟨emission, output⟩
  cases emission with
  | undecodable fault => rfl
  | failed fault => rfl
  | wrote records => rfl

theorem verifying_withAcknowledger (relay : Relay State) (acknowledger : Acknowledger)
    (burst : Payload) :
    (relay.withAcknowledger acknowledger).verifying burst =
      ((relay.verifying burst).1, (relay.verifying burst).2.withAcknowledger acknowledger) := by
  unfold verifying
  rw [show (relay.withAcknowledger acknowledger).codec.unpack
      (relay.withAcknowledger acknowledger).codecState (relay.withAcknowledger acknowledger).buffer
      burst = relay.codec.unpack relay.codecState relay.buffer burst from rfl,
    show (relay.withAcknowledger acknowledger).unpacked burst =
      (relay.unpacked burst).withAcknowledger acknowledger from rfl]
  cases (relay.codec.unpack relay.codecState relay.buffer burst).unpacking with
  | record record => exact deliver_withAcknowledger _ acknowledger record
  | skip fault => rfl
  | stop fault => rfl

/-- What sends the acknowledgments has no part in judging bursts. -/
theorem value_judge_withAcknowledger (relay : Relay State) (acknowledger : Acknowledger)
    (envelope : Envelope) :
    ((relay.withAcknowledger acknowledger).judge envelope).value =
      ((relay.judge envelope).value.1,
        (relay.judge envelope).value.2.withAcknowledger acknowledger) := by
  rw [value_judge, value_judge,
    show (relay.withAcknowledger acknowledger).bound = relay.bound from rfl,
    show (relay.withAcknowledger acknowledger).dummy = relay.dummy from rfl]
  cases Reference.header relay.bound envelope.payload with
  | error fault => rfl
  | ok burst =>
    dsimp only
    cases relay.dummy with
    | true => rfl
    | false => exact verifying_withAcknowledger relay acknowledger burst

/-- Two relays that acknowledge and differ in nothing but in their roles and delays. -/
structure Twins (one two : Relay State) : Prop where
  alike : two = one.withAcknowledger two.acknowledger
  active : one.role.acknowledges = true
  active' : two.role.acknowledges = true
  sends : one.channel.sendFault = none

namespace Twins

theorem channel_eq (twins : Twins one two) : two.channel = one.channel := by
  rw [twins.alike]
  rfl

theorem statistics_eq (twins : Twins one two) : two.statistics = one.statistics := by
  rw [twins.alike]
  rfl

theorem replied (twins : Twins one two) (envelope : Envelope) :
    Twins (one.replied envelope) (two.replied envelope) := by
  obtain ⟨alike, active, active', sends⟩ := twins
  unfold Relay.replied
  rw [if_pos active, if_pos active']
  refine ⟨?_, active, active', sends⟩
  rw [alike]
  rfl

theorem countSkip (twins : Twins one two) (kind : String) :
    Twins (one.countSkip kind) (two.countSkip kind) := by
  refine ⟨?_, twins.active, twins.active', twins.sends⟩
  rw [twins.alike]
  rfl

theorem answered (twins : Twins one two) (envelope : Envelope) (verdict : Verdict) :
    (two.answered envelope verdict).1 = (one.answered envelope verdict).1 ∧
      Twins (one.answered envelope verdict).2 (two.answered envelope verdict).2 := by
  have roles : two.role.acknowledges = one.role.acknowledges :=
    twins.active'.trans twins.active.symm
  have policies : two.ackSkipped = one.ackSkipped := by
    rw [twins.alike]
    rfl
  have replied := twins.replied envelope
  unfold Relay.answered
  rw [roles, policies]
  cases verdict with
  | written records => exact ⟨rfl, replied⟩
  | headerOnly => exact ⟨rfl, replied⟩
  | stop fault => exact ⟨rfl, twins⟩
  | skip fault =>
    dsimp only
    split
    · exact ⟨rfl, (twins.countSkip fault.kind).replied envelope⟩
    · exact ⟨rfl, twins.countSkip fault.kind⟩

theorem taking (twins : Twins one two) (rest : List Arrival) :
    Twins (one.taking rest) (two.taking rest) := by
  refine ⟨?_, twins.active, twins.active', twins.sends⟩
  rw [twins.alike]
  rfl

theorem judge (twins : Twins one two) (envelope : Envelope) :
    (two.judge envelope).value.1 = (one.judge envelope).value.1 ∧
      Twins (one.judge envelope).value.2 (two.judge envelope).value.2 := by
  have judged : (two.judge envelope).value = ((one.judge envelope).value.1,
      (one.judge envelope).value.2.withAcknowledger two.acknowledger) := by
    conv_lhs => rw [twins.alike]
    exact value_judge_withAcknowledger one two.acknowledger envelope
  have keeps := (one.judged envelope).frame.1
  rw [judged]
  refine ⟨rfl, rfl, ?_, twins.active', keeps.sendFault.trans twins.sends⟩
  rw [keeps.role]
  exact twins.active

/-- Twins go on as twins, and their calls come to the same. -/
theorem inStep (twins : Twins one two) :
    InStep Twins (fun outcome outcome' => outcome' = outcome) one.step.value two.step.value := by
  have channels := twins.channel_eq
  refine inStep_of_parts (congrArg Channel.incoming channels) twins.sends
    (channels ▸ twins.sends) ?_ (fun _ _ _ => rfl) ?_ ?_ ?_ ?_
  · intro frames _ _
    exact Received.classify_of_acknowledges twins.active twins.active' frames
  · intro rest
    refine ⟨?_, twins.active, twins.active', twins.sends⟩
    rw [twins.alike]
    rfl
  · intro rest
    refine ⟨?_, twins.active, twins.active', twins.sends⟩
    rw [twins.alike]
    rfl
  · intro rest kind
    exact (twins.taking rest).countSkip kind
  · intro frames rest envelope _ _
    obtain ⟨verdict, ready⟩ := (twins.taking rest).judge envelope
    rw [verdict]
    obtain ⟨results, still⟩ := ready.answered envelope ((one.taking rest).judge envelope).value.1
    refine inStep_of_eq ?_ results still
    intro outcome
    rfl

end Twins

end Relay

end BurstRelay

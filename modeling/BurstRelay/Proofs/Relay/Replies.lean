import BurstRelay.Proofs.Relay.Durability
import BurstRelay.Proofs.Relay.Explicit
import BurstRelay.Proofs.Relay.Runs

/-!
# Replies

What a relay replies to a message is a matter of the message, of its outcome and of the policy of the
relay (`Obeys.step`, `Obeys.run`), as long as sends work; and an observer sends nothing, whether they
work or not (`silent_of_serves`).
-/

namespace BurstRelay

/-- How a relay replies. -/
structure ReplyPolicy where
  role : Role
  ackSkipped : Bool
  delayMs : UInt64

/-- Settings with another way to reply. -/
def Settings.replying (settings : Settings) (policy : ReplyPolicy) : Settings :=
  { settings with
    relay := { settings.relay with role := policy.role }
    acknowledgment := { settings.acknowledgment with
      ackSkipped := policy.ackSkipped
      delayMs := policy.delayMs } }

namespace Outcome

def acknowledged : Outcome → Bool
  | emitted _ acknowledged | admitted acknowledged | skipped _ acknowledged => acknowledged
  | ackEcho => false

/-- Whether a message with this outcome calls for an acknowledgment, if skipped bursts do or not. -/
def calls (ackSkipped : Bool) : Outcome → Bool
  | emitted .. | admitted _ => true
  | skipped (.burst _) _ => ackSkipped
  | skipped .. | ackEcho => false

/-- Whether a message with this outcome was skipped for what is wrong with its burst. -/
def skipsBurst : Outcome → Bool
  | skipped (.burst _) _ => true
  | skipped .. | emitted .. | admitted _ | ackEcho => false

theorem calls_eq (outcome : Outcome) (ackSkipped : Bool) :
    outcome.calls ackSkipped = (outcome.calls false || ackSkipped && outcome.skipsBurst) := by
  cases outcome with
  | emitted records acknowledged => rfl
  | admitted acknowledged => rfl
  | skipped fault acknowledged =>
    cases fault with
    | burst fault => simp [calls, skipsBurst]
    | shortEnvelope frames => simp [calls, skipsBurst]
    | excessFrames frames => simp [calls, skipsBurst]
  | ackEcho => simp [calls, skipsBurst]

theorem calls_of_skipsBurst {outcome : Outcome} (skips : outcome.skipsBurst = true) :
    outcome.calls false = false := by
  cases outcome with
  | emitted records acknowledged => cases skips
  | admitted acknowledged => cases skips
  | skipped fault acknowledged =>
    cases fault with
    | burst fault => rfl
    | shortEnvelope frames => rfl
    | excessFrames frames => rfl
  | ackEcho => rfl

end Outcome

/-- Whether a relay with this policy acknowledges a message with this outcome. -/
def ReplyPolicy.answers (policy : ReplyPolicy) (outcome : Outcome) : Bool :=
  policy.role.acknowledges && outcome.calls policy.ackSkipped

/-- The acknowledgment of a message with the frames of an envelope. -/
def Message.acknowledgment (message : Message) : Message := message.take 2 ++ [[]]

/-- The message that is next; one without frames if receiving fails. -/
def Relay.message {State : Type} (relay : Relay State) : Message :=
  (Channel.nextMessage #[] relay.channel.incoming).value.1.toOption.getD []

/-- What a relay with a policy sends in a call. -/
def ReplyPolicy.replies {State : Type} (policy : ReplyPolicy) (call : Relay State × Outcome) :
    List Message :=
  if policy.answers call.2 then [call.1.message.acknowledgment] else []

namespace Received

/-- The acknowledgment of an envelope is that of its message. -/
theorem acknowledgment_of_envelope {role : Role} {message : Message} {envelope : Envelope}
    (kind : classify role message = .envelope envelope) :
    message.acknowledgment = Acknowledger.reply envelope := by
  unfold classify at kind
  split at kind
  · split at kind
    · cases kind
    · cases kind
      rfl
  · split at kind
    · cases kind
    · cases kind
  · split at kind
    · cases kind
    · cases kind

end Received

namespace Relay

variable {State : Type}

theorem message_of_taken {relay : Relay State} {frames : Message} {rest : List Arrival}
    (taken : (Channel.nextMessage #[] relay.channel.incoming).value = (.ok frames, rest)) :
    relay.message = frames := by
  unfold message
  rw [taken]
  rfl

/-! ## What is replied -/

/-- A relay that replies by a policy, on a channel whose sends work and that has no message half
sent. -/
structure Obeys (relay : Relay State) (policy : ReplyPolicy) : Prop where
  role : relay.role = policy.role
  ackSkipped : relay.ackSkipped = policy.ackSkipped
  sends : relay.channel.sendFault = none
  finished : relay.channel.unfinished = []

/-- A result of a relay that replies by a policy: nothing is sent if it fails, and otherwise the
acknowledgment if the policy says so. -/
inductive Heeds (policy : ReplyPolicy) (acknowledgment : Message) (relay : Relay State) :
    Except RelayFault Outcome × Relay State → Prop
  | fails {fault : RelayFault} {after : Relay State} (obeys : after.Obeys policy)
      (silent : after.channel.sent = relay.channel.sent) :
      Heeds policy acknowledgment relay (.error fault, after)
  | goes {outcome : Outcome} {after : Relay State} (obeys : after.Obeys policy)
      (acknowledged : outcome.acknowledged = policy.answers outcome)
      (sent : after.channel.sent.toList = relay.channel.sent.toList ++
        if policy.answers outcome then [acknowledgment] else []) :
      Heeds policy acknowledgment relay (.ok outcome, after)

namespace Obeys

variable {relay : Relay State} {policy : ReplyPolicy}

theorem taking (obeys : relay.Obeys policy) (rest : List Arrival) :
    (relay.taking rest).Obeys policy :=
  ⟨obeys.role, obeys.ackSkipped, obeys.sends, obeys.finished⟩

theorem countSkip (obeys : relay.Obeys policy) (kind : String) :
    (relay.countSkip kind).Obeys policy :=
  ⟨obeys.role, obeys.ackSkipped, obeys.sends, obeys.finished⟩

theorem judged (obeys : relay.Obeys policy) (envelope : Envelope) :
    (relay.judge envelope).value.2.Obeys policy ∧
      (relay.judge envelope).value.2.channel = relay.channel := by
  obtain ⟨keeps, channel⟩ := (relay.judged envelope).frame
  refine ⟨⟨keeps.role.trans obeys.role, keeps.ackSkipped.trans obeys.ackSkipped,
    keeps.sendFault.trans obeys.sends, ?_⟩, channel⟩
  rw [channel]
  exact obeys.finished

/-- A message that calls for an acknowledgment gets one if the role sends any. -/
theorem replied (obeys : relay.Obeys policy) (envelope : Envelope) :
    (relay.replied envelope).Obeys policy ∧
      (relay.replied envelope).channel.sent.toList = relay.channel.sent.toList ++
        if policy.role.acknowledges then [Acknowledger.reply envelope] else [] := by
  unfold Relay.replied
  rw [obeys.role]
  split
  · refine ⟨⟨obeys.role, obeys.ackSkipped, obeys.sends, rfl⟩, ?_⟩
    dsimp only
    rw [obeys.finished, Array.toList_push, List.nil_append]
  · exact ⟨obeys, (List.append_nil _).symm⟩

theorem answered (obeys : relay.Obeys policy) (envelope : Envelope) (verdict : Verdict) :
    Heeds policy (Acknowledger.reply envelope) relay (relay.answered envelope verdict) := by
  obtain ⟨replies, sent⟩ := obeys.replied envelope
  cases verdict with
  | written records =>
    refine .goes replies ?_ ?_
    · simp [Outcome.acknowledged, ReplyPolicy.answers, Outcome.calls, obeys.role]
    · simpa [ReplyPolicy.answers, Outcome.calls] using sent
  | headerOnly =>
    refine .goes replies ?_ ?_
    · simp [Outcome.acknowledged, ReplyPolicy.answers, Outcome.calls, obeys.role]
    · simpa [ReplyPolicy.answers, Outcome.calls] using sent
  | stop fault => exact .fails obeys rfl
  | skip fault =>
    unfold Relay.answered
    dsimp only
    rw [obeys.ackSkipped]
    split
    · rename_i forgiving
      obtain ⟨replies, sent⟩ := (obeys.countSkip fault.kind).replied envelope
      rw [show (relay.countSkip fault.kind).channel = relay.channel from rfl] at sent
      refine .goes replies ?_ ?_
      · simp [Outcome.acknowledged, ReplyPolicy.answers, Outcome.calls, obeys.role, forgiving]
      · simpa [ReplyPolicy.answers, Outcome.calls, forgiving] using sent
    · rename_i strict
      refine .goes (obeys.countSkip fault.kind) ?_ ?_
      · simp [Outcome.acknowledged, ReplyPolicy.answers, Outcome.calls, strict]
      · simp [Relay.countSkip, ReplyPolicy.answers, Outcome.calls, strict]

/-- A call replies as the policy says. -/
theorem step (obeys : relay.Obeys policy) :
    Heeds policy relay.message.acknowledgment relay relay.step.value := by
  cases next : (Channel.nextMessage #[] relay.channel.incoming).value with
  | mk result rest =>
    cases result with
    | error fault =>
      rw [Reference.call_of_lost next]
      exact .fails ⟨obeys.role, obeys.ackSkipped, obeys.sends, obeys.finished⟩ rfl
    | ok frames =>
      have same : relay.message = frames := by
        unfold message
        rw [next]
        rfl
      cases kind : Received.classify relay.role frames with
      | acknowledgment identity messageId =>
        rw [value_step_of_acknowledgment next kind]
        refine .goes ⟨obeys.role, obeys.ackSkipped, obeys.sends, obeys.finished⟩ ?_ ?_
        · simp [Outcome.acknowledged, ReplyPolicy.answers, Outcome.calls]
        · simp [Relay.taking, countEcho, countEnvelope, Channel.withQueue, ReplyPolicy.answers,
            Outcome.calls]
      | rejected fault =>
        -- a message that is rejected for the number of its frames is never acknowledged
        have frames : ∀ ackSkipped, (Outcome.skipped fault false).calls ackSkipped = false := by
          intro ackSkipped
          rcases Received.eq_of_rejected kind with ⟨number, rfl⟩ | ⟨number, rfl⟩
          · rfl
          · rfl
        rw [value_step_of_rejected next kind]
        refine .goes ((obeys.taking rest).countSkip fault.kind) ?_ ?_
        · simp [Outcome.acknowledged, ReplyPolicy.answers, frames]
        · simp [Relay.taking, Relay.countSkip, countEnvelope, Channel.withQueue,
            ReplyPolicy.answers, frames]
      | envelope envelope =>
        obtain ⟨ready, channel⟩ := (obeys.taking rest).judged envelope
        have heeds := ready.answered envelope ((relay.taking rest).judge envelope).value.1
        rw [value_step_of_envelope obeys.sends next kind, same,
          Received.acknowledgment_of_envelope kind]
        generalize ((relay.taking rest).judge envelope).value.2.answered envelope
          ((relay.taking rest).judge envelope).value.1 = result at heeds
        have sent : ((relay.taking rest).judge envelope).value.2.channel.sent =
            relay.channel.sent := by
          rw [channel]
          rfl
        cases heeds with
        | fails obeys silent => exact .fails obeys (silent.trans sent)
        | goes obeys acknowledged replied =>
          rw [sent] at replied
          exact .goes obeys acknowledged replied

theorem of_step (obeys : relay.Obeys policy) {result : Except RelayFault Outcome}
    {after : Relay State} (called : relay.step.value = (result, after)) : after.Obeys policy := by
  have heeds := obeys.step
  rw [called] at heeds
  cases heeds with
  | fails obeys _ => exact obeys
  | goes obeys _ _ => exact obeys

/-- Calls in a row reply as the policy says, each to its own message. -/
theorem serves {after : Relay State} {history : List (Relay State × Outcome)} (obeys : relay.Obeys policy)
    (serves : Serves relay history after) :
    after.Obeys policy ∧
      after.channel.sent.toList = relay.channel.sent.toList ++ history.flatMap policy.replies ∧
      ∀ call ∈ history, call.2.acknowledged = policy.answers call.2 := by
  induction serves with
  | nothing relay => exact ⟨obeys, (List.append_nil _).symm, by simp⟩
  | @call relay middle after outcome history called _ ih =>
    have heeds := obeys.step
    rw [called] at heeds
    cases heeds with
    | goes obeys acknowledged sent =>
      obtain ⟨last, others, behind⟩ := ih obeys
      refine ⟨last, ?_, ?_⟩
      · rw [others, sent, List.flatMap_cons, List.append_assoc]
        rfl
      · intro call member
        rcases List.mem_cons.mp member with rfl | member
        · exact acknowledged
        · exact behind call member

/-- A run sends what the policy says for the messages of its history, in order. -/
theorem run (obeys : relay.Obeys policy) :
    relay.run.value.relay.channel.sent.toList =
        relay.channel.sent.toList ++ relay.history.flatMap policy.replies ∧
      ∀ call ∈ relay.history, call.2.acknowledged = policy.answers call.2 := by
  obtain ⟨last, sent, acknowledged⟩ := obeys.serves relay.serves_history
  obtain ⟨fault, failed, -⟩ := relay.fails_last
  have heeds := last.step
  rw [failed] at heeds
  cases heeds with
  | fails _ silent => exact ⟨by rw [silent, sent], acknowledged⟩

end Obeys

/-! ## Observers -/

/-- A relay whose channel sent nothing that another channel did not send, not even a part. -/
def Silent (channel : Channel) (relay : Relay State) : Prop :=
  relay.channel.sent = channel.sent ∧ relay.channel.unfinished = channel.unfinished

/-- A call of an observer sends nothing, not even a part of a message. -/
theorem silent_of_step {relay after : Relay State} {result : Except RelayFault Outcome}
    (passive : relay.role = .passiveObserver) (called : relay.step.value = (result, after)) :
    Silent relay.channel after := by
  have silent : ∀ {settlement : Settlement} {ready : Relay State},
      Settled relay settlement ready → Silent relay.channel ready := by
    intro settlement ready settled
    unfold Silent
    rw [settled.frame.2]
    exact ⟨rfl, rfl⟩
  cases called_of_step called with
  | stopped settled => exact silent settled
  | silent settled => exact silent settled
  | concluded settled concluded =>
    have idle := settled.frame.1.role.trans passive
    cases concluded with
    | withheld _ => exact silent settled
    | sent active _ =>
      rw [idle] at active
      cases active
    | failed active _ =>
      rw [idle] at active
      cases active

theorem silent_of_serves {relay last : Relay State} {history : List (Relay State × Outcome)}
    (passive : relay.role = .passiveObserver) (serves : Serves relay history last) :
    Silent relay.channel last := by
  induction serves with
  | nothing relay => exact ⟨rfl, rfl⟩
  | call called _ ih =>
    obtain ⟨sent, unfinished⟩ := silent_of_step passive called
    obtain ⟨sent', unfinished'⟩ := ih ((keeps_of_step called).role.trans passive)
    exact ⟨sent'.trans sent, unfinished'.trans unfinished⟩

end Relay

end BurstRelay

import BurstRelay.Proofs.Relay.Replies
import BurstRelay.Proofs.Relay.SameWork

/-!
# Replies never influence the work

Relays that differ only in their role, in whether they acknowledge skipped bursts and in the delay
before acknowledgments do the same work: they have the same buffer, write the same bytes and stop for
the same reason (`work_is_impartial`). What differs is what they reply.

The two runs go in lockstep although they do not take all messages for the same: a message that ends
with an empty frame is the acknowledgment of another to an observer, and a malformed burst or envelope
to anybody else, and neither is any work (`step_of_echo`, `step_of_emptyLast`).
-/

namespace BurstRelay

/-- Whether a message calls for an acknowledgment does not depend on whether it got one. -/
theorem Outcome.calls_unacknowledged (outcome : Outcome) (ackSkipped : Bool) :
    outcome.unacknowledged.calls ackSkipped = outcome.calls ackSkipped := by
  cases outcome with
  | emitted records acknowledged => rfl
  | admitted acknowledged => rfl
  | skipped fault acknowledged =>
    cases fault with
    | burst fault => rfl
    | shortEnvelope frames => rfl
    | excessFrames frames => rfl
  | ackEcho => rfl

namespace Relay

variable {State : Type}

/-! ## Two runs with the same work -/

/-- Calls on the same message that come to the same, but for the acknowledgment. If one role is an
observer and the other is not, the observer takes a message that ends with an empty frame for the
acknowledgment of another. -/
inductive Agree (first second : Role) (one two : Relay State × Outcome) : Prop
  | alike (message : two.1.message = one.1.message)
      (outcome : two.2.unacknowledged = one.2.unacknowledged)
  | firstEcho (message : two.1.message = one.1.message) (empty : one.1.message.EmptyLast)
      (passive : first = .passiveObserver) (active : second.acknowledges = true)
      (echo : one.2 = .ackEcho)
  | secondEcho (message : two.1.message = one.1.message) (empty : one.1.message.EmptyLast)
      (active : first.acknowledges = true) (passive : second = .passiveObserver)
      (echo : two.2 = .ackEcho)

variable {one two : Relay State} {first second : ReplyPolicy} {frames : Message}
  {rest : List Arrival}

namespace SameWork

theorem message_eq (same : SameWork one two) : two.message = one.message := by
  unfold message
  rw [same.queue]

/-- If the next message is the same to both relays, it comes to the same. -/
theorem inStep_of_classify (same : SameWork one two) (obeys : one.Obeys first)
    (obeys' : two.Obeys second)
    (alike : ∀ frames rest,
      (Channel.nextMessage #[] one.channel.incoming).value = (.ok frames, rest) →
        Received.classify two.role frames = Received.classify one.role frames) :
    InStep SameWork (fun outcome outcome' => Agree first.role second.role (one, outcome) (two, outcome'))
      one.step.value two.step.value := by
  refine inStep_of_parts same.queue obeys.sends obeys'.sends alike ?_ ?_ ?_ ?_ ?_
  · intro outcome _ _
    exact .alike same.message_eq rfl
  · intro rest
    exact same.losing rest
  · intro rest
    exact ((countEcho _).symm.trans (same.taking rest)).trans (countEcho _)
  · intro rest kind
    exact ((countSkip _ kind).symm.trans (same.taking rest)).trans (countSkip _ kind)
  · intro frames rest envelope _ _
    obtain ⟨verdict, ready⟩ := (same.taking rest).judge envelope
    rw [verdict]
    exact (ready.answered envelope _).imp (fun still => still)
      fun outcome outcome' unacknowledged => .alike same.message_eq unacknowledged

end SameWork

/-- A message that ends with an empty frame is no work to a relay that acknowledges: it is skipped
because its frames are too few or its payload is empty. -/
theorem step_of_emptyLast (obeys : one.Obeys first) (active : first.role.acknowledges = true)
    (taken : (Channel.nextMessage #[] one.channel.incoming).value = (.ok frames, rest))
    (empty : frames.EmptyLast) :
    ∃ outcome after, one.step.value = (.ok outcome, after) ∧ SameWork (one.taking rest) after := by
  rw [← obeys.role] at active
  rcases Received.classify_of_active active empty with kind | ⟨envelope, kind, blank⟩
  · exact ⟨_, _, value_step_of_rejected taken kind, .countSkip _ _⟩
  · rw [value_step_of_envelope obeys.sends taken kind]
    have judged : ((one.taking rest).judge envelope).value =
        (.skip (.malformedHeader 0 none .empty), one.taking rest) := by
      rw [value_judge, blank]
      rfl
    obtain ⟨acknowledged, after, skips, still⟩ :=
      SameWork.skipping (one.taking rest) envelope (.malformedHeader 0 none .empty)
    rw [judged]
    exact ⟨_, after, skips, still⟩

/-- A message that ends with an empty frame is no work to an observer. -/
theorem step_of_echo (passive : one.role = .passiveObserver)
    (taken : (Channel.nextMessage #[] one.channel.incoming).value = (.ok frames, rest))
    (empty : frames.EmptyLast) :
    ∃ after, one.step.value = (.ok .ackEcho, after) ∧ SameWork (one.taking rest) after := by
  obtain ⟨identity, messageId, kind⟩ := Received.classify_of_passive empty
  rw [← passive] at kind
  exact ⟨_, value_step_of_acknowledgment taken kind, .countEcho _⟩

/-- Relays with the same work before them go on with the same work, whatever they reply. -/
theorem SameWork.inStep (same : SameWork one two) (obeys : one.Obeys first)
    (obeys' : two.Obeys second) :
    InStep SameWork (fun outcome outcome' => Agree first.role second.role (one, outcome) (two, outcome'))
      one.step.value two.step.value := by
  by_cases alike : ∀ frames rest,
      (Channel.nextMessage #[] one.channel.incoming).value = (.ok frames, rest) →
        Received.classify two.role frames = Received.classify one.role frames
  · exact same.inStep_of_classify obeys obeys' alike
  · -- only one of the two is an observer, and the message ends with an empty frame
    push Not at alike
    obtain ⟨frames, rest, next, differ⟩ := alike
    have next' := next
    rw [← same.queue] at next'
    have empty : frames.EmptyLast := by
      by_contra full
      exact differ (Received.classify_of_not_emptyLast full _ _)
    have ends : one.message.EmptyLast := by
      rw [message_of_taken next]
      exact empty
    rw [obeys.role, obeys'.role] at differ
    by_cases active : first.role.acknowledges = true
    · have passive : second.role = .passiveObserver := by
        apply Role.eq_passiveObserver
        intro active'
        exact differ (Received.classify_of_acknowledges active active' frames)
      obtain ⟨outcome, after, called, still⟩ := step_of_emptyLast obeys active next empty
      obtain ⟨after', called', still'⟩ := step_of_echo (obeys'.role.trans passive) next' empty
      rw [called, called']
      exact .goes (.secondEcho same.message_eq ends active passive rfl)
        ((still.symm.trans (same.taking rest)).trans still')
    · have passive := Role.eq_passiveObserver active
      have active' : second.role.acknowledges = true := by
        by_contra idle
        exact differ (by rw [passive, Role.eq_passiveObserver idle])
      obtain ⟨after, called, still⟩ := step_of_echo (obeys.role.trans passive) next empty
      obtain ⟨outcome, after', called', still'⟩ := step_of_emptyLast obeys' active' next' empty
      rw [called, called']
      exact .goes (.firstEcho same.message_eq ends passive active' rfl)
        ((still.symm.trans (same.taking rest)).trans still')

/-- Two relays with the same work that reply by their own policies. -/
def Apart (first second : ReplyPolicy) (one two : Relay State) : Prop :=
  SameWork one two ∧ one.Obeys first ∧ two.Obeys second

theorem Apart.inStep (apart : Apart first second one two) :
    InStep (Apart first second)
      (fun outcome outcome' => Agree first.role second.role (one, outcome) (two, outcome'))
      one.step.value two.step.value := by
  obtain ⟨same, obeys, obeys'⟩ := apart
  exact (same.inStep obeys obeys').imp (fun still => ⟨still, obeys.of_step rfl, obeys'.of_step rfl⟩)
    fun _ _ agree => agree

/-! ## Replies and work -/

/-- The acknowledgment of a call that skipped a burst, from a role that acknowledges. -/
def inserted (role : Role) (call : Relay State × Outcome) : List Message :=
  if role.acknowledges && call.2.skipsBurst then [call.1.message.acknowledgment] else []

/-- Two runs under two policies, on channels that sent the same before: the relays do the same work,
and what is replied is a matter of each message, its outcome and the policy. -/
structure Impartial (first second : ReplyPolicy) (before : List Message) (one two : Relay State) :
    Prop where
  /-- The histories of the relays are those of their runs. -/
  outcomes : one.run.value.outcomes = one.history.map Prod.snd ∧
    two.run.value.outcomes = two.history.map Prod.snd
  /-- Call by call the relays did the same work, and after the last one as well; the outcomes differ
  in their acknowledgments alone, or because only one of the two is an observer. -/
  work : Paired SameWork (Agree first.role second.role) one two
  /-- The first run sends what its policy says, in the order of the messages. -/
  sent : one.run.value.relay.channel.sent.toList = before ++ one.history.flatMap first.replies
  /-- The outcomes say which messages were acknowledged. -/
  acknowledged : ∀ call ∈ one.history, call.2.acknowledged = first.answers call.2
  /-- Roles that acknowledge cannot be told apart, if they treat skipped bursts alike. -/
  twins : first.role.acknowledges = true → second.role.acknowledges = true →
    first.ackSkipped = second.ackSkipped →
    two.run.value.outcomes = one.run.value.outcomes ∧
      two.run.value.relay.channel = one.run.value.relay.channel ∧
      two.run.value.relay.statistics = one.run.value.relay.statistics
  /-- If a role acknowledges skipped bursts as well, it sends the acknowledgments of these in the
  places of their messages, and nothing else changes. -/
  forgiving : first.role = second.role → first.ackSkipped = false → second.ackSkipped = true →
    two.run.value.relay.channel.sent.toList =
      before ++ one.history.flatMap fun call => first.replies call ++ inserted first.role call

theorem replies_of_agree {call call' : Relay State × Outcome} (roles : first.role = second.role)
    (strict : first.ackSkipped = false) (lenient : second.ackSkipped = true)
    (agree : Agree first.role second.role call call') :
    second.replies call' = first.replies call ++ inserted first.role call := by
  cases agree with
  | firstEcho _ _ passive active _ =>
    rw [← roles, passive] at active
    cases active
  | secondEcho _ _ active passive _ =>
    rw [roles, passive] at active
    cases active
  | alike message outcome =>
    have calls : call'.2.calls true = call.2.calls true := by
      rw [← Outcome.calls_unacknowledged, outcome, Outcome.calls_unacknowledged]
    unfold ReplyPolicy.replies ReplyPolicy.answers inserted
    rw [message, ← roles, strict, lenient, calls, Outcome.calls_eq call.2 true, Bool.true_and]
    cases skips : call.2.skipsBurst with
    | true => simp [Outcome.calls_of_skipsBurst skips]
    | false => simp

/-- Two relays that start with the same settings but for how they reply run impartially. -/
theorem impartial_of_obeys {before : List Message} (same : SameWork one two)
    (obeys : one.Obeys first) (obeys' : two.Obeys second)
    (sentFirst : one.channel.sent.toList = before) (sentSecond : two.channel.sent.toList = before)
    (twins : first.role.acknowledges = true → second.role.acknowledges = true →
      first.ackSkipped = second.ackSkipped → Twins one two) :
    Impartial first second before one two := by
  have apart : Paired (Apart first second) (Agree first.role second.role) one two :=
    paired_of_lockstep (fun _ _ => Apart.inStep) ⟨same, obeys, obeys'⟩ same.queue
  obtain ⟨sent, acknowledged⟩ := obeys.run
  obtain ⟨sent', -⟩ := obeys'.run
  rw [sentFirst] at sent
  rw [sentSecond] at sent'
  refine ⟨⟨one.outcomes_run, two.outcomes_run⟩,
    apart.imp (fun _ _ apart => apart.1) (fun _ _ agree => agree), sent, acknowledged, ?_, ?_⟩
  · intro active active' policies
    have paired : Paired Twins (fun call call' => call'.2 = call.2) one two :=
      paired_of_lockstep (fun _ _ => Twins.inStep) (twins active active' policies) same.queue
    exact ⟨paired.outcomes_eq fun _ _ same => same, paired.final.channel_eq,
      paired.final.statistics_eq⟩
  · intro roles strict lenient
    rw [sent']
    congr 1
    exact apart.flatMap_eq fun _ _ agree => replies_of_agree roles strict lenient agree

/-- Settings for how to reply never influence the work. Whatever the codec, the memory and the sink
do, two relays that differ in these settings alone both fail to start for the same reason, or run
impartially. An observer sends nothing, whether sends work or not. -/
theorem work_is_impartial {settings : Settings} {allocator : Allocator} {codec : Codec State}
    {codecState : State} {channel : Channel} {sink : Sink} (first second : ReplyPolicy)
    (sends : channel.sendFault = none) (finished : channel.unfinished = []) :
    ((∃ fault,
        (start (settings.replying first) allocator codec codecState channel sink).value =
          .error fault ∧
        (start (settings.replying second) allocator codec codecState channel sink).value =
          .error fault) ∨
      ∃ one two,
        (start (settings.replying first) allocator codec codecState channel sink).value = .ok one ∧
        (start (settings.replying second) allocator codec codecState channel sink).value = .ok two ∧
        Impartial first second channel.sent.toList one two) ∧
    ∀ sendFault ackSkipped delayMs relay history last,
      (start (settings.replying ⟨.passiveObserver, ackSkipped, delayMs⟩) allocator codec codecState
        { channel with sendFault } sink).value = .ok relay →
      Serves relay history last →
        Silent channel last ∧ ∀ result after, last.step.value = (result, after) →
          Silent channel after := by
  constructor
  · cases made : Buffer.ofCapacity allocator settings.decompression.initialCapacity.toNat with
    | error fault =>
      refine .inl ⟨.allocation fault, ?_, ?_⟩
      · exact start_of_refused codec codecState channel sink made
      · exact start_of_refused codec codecState channel sink made
    | ok buffer =>
      have madeFirst : Buffer.ofCapacity allocator
          (settings.replying first).decompression.initialCapacity.toNat = .ok buffer := made
      have madeSecond : Buffer.ofCapacity allocator
          (settings.replying second).decompression.initialCapacity.toNat = .ok buffer := made
      obtain ⟨one, startedFirst⟩ := start_of_made codec codecState channel sink madeFirst
      obtain ⟨two, startedSecond⟩ := start_of_made codec codecState channel sink madeSecond
      refine .inr ⟨one, two, startedFirst, startedSecond, ?_⟩
      obtain ⟨bufferFirst, sameFirst, rfl⟩ := eq_of_start startedFirst
      obtain ⟨bufferSecond, sameSecond, rfl⟩ := eq_of_start startedSecond
      -- both start with the one buffer that was made, so that they differ in their replies alone
      cases madeFirst.symm.trans sameFirst
      cases madeSecond.symm.trans sameSecond
      refine impartial_of_obeys ?_ ?_ ?_ ?_ ?_ ?_
      · exact ⟨rfl, rfl, rfl, rfl, rfl, rfl, rfl, rfl⟩
      · exact ⟨rfl, rfl, sends, finished⟩
      · exact ⟨rfl, rfl, sends, finished⟩
      · rfl
      · rfl
      · intro active active' policies
        refine ⟨?_, active, active', sends⟩
        unfold withAcknowledger
        congr 1
        exact policies.symm
  · intro sendFault ackSkipped delayMs relay history last started serves
    obtain ⟨buffer, -, rfl⟩ := eq_of_start started
    have silent := silent_of_serves rfl serves
    refine ⟨silent, ?_⟩
    intro result after called
    have calls := silent_of_step (serves.keeps.role.trans rfl) called
    exact ⟨calls.1.trans silent.1, calls.2.trans silent.2⟩

/-- A responder and an observer of the same two messages: a burst without a payload is skipped by the
one and is an acknowledgment to the other, and both emit the burst behind it. -/
theorem impartial_behind_echo :
    ∃ one two : Relay Unit,
      (start (Settings.replying {} ⟨.responder, true, 0⟩) .willing (.block .nothing) ()
        (Channel.pushMessage (Channel.pushMessage {} [[7], [8], []])
          [[7], [9], [2, 0, 0, 0, 3, 0, 0, 0, 32, 65, 66]])
        (.ofBehaviour .willing)).value = .ok one ∧
      (start (Settings.replying {} ⟨.passiveObserver, true, 5⟩) .willing (.block .nothing) ()
        (Channel.pushMessage (Channel.pushMessage {} [[7], [8], []])
          [[7], [9], [2, 0, 0, 0, 3, 0, 0, 0, 32, 65, 66]])
        (.ofBehaviour .willing)).value = .ok two ∧
      one.run.value.outcomes =
        [.skipped (.burst (.malformedHeader 0 none .empty)) true, .emitted 1 true] ∧
      two.run.value.outcomes = [.ackEcho, .emitted 1 false] ∧
      Impartial ⟨.responder, true, 0⟩ ⟨.passiveObserver, true, 5⟩ [] one two := by
  have impartial := (@work_is_impartial Unit {} .willing (.block .nothing) ()
    (Channel.pushMessage (Channel.pushMessage {} [[7], [8], []])
      [[7], [9], [2, 0, 0, 0, 3, 0, 0, 0, 32, 65, 66]])
    (.ofBehaviour .willing) ⟨.responder, true, 0⟩ ⟨.passiveObserver, true, 5⟩ rfl rfl).1
  rcases impartial with ⟨fault, failed, -⟩ | ⟨one, two, started, started', impartial⟩
  · cases failed
  · -- what the two runs come to is read off the reference
    have agrees := Reference.agrees_of_start started (fun _ _ _ => rfl) rfl rfl
      Sink.Behaviour.accepts_willing
    have agrees' := Reference.agrees_of_start started' (fun _ _ _ => rfl) rfl rfl
      Sink.Behaviour.accepts_willing
    exact ⟨one, two, started, started', agrees.outcomes, agrees'.outcomes, impartial⟩

end Relay

end BurstRelay

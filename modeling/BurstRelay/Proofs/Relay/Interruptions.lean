import BurstRelay.Proofs.Message.Interruptions
import BurstRelay.Proofs.Record.Interruptions
import BurstRelay.Proofs.Relay.Runs

/-!
# Interruptions are invisible

Taking the interruptions out of the channel and the sink of a relay (`Relay.undisturbed`) commutes with
everything that a relay does: with each stage of a call, with the call (`step_undisturbed`) and with the
run (`run_undisturbed`). Relays that are the same without their interruptions therefore show the same,
call by call, however often and wherever each of them is interrupted: while it receives a message, while
it writes a record, or while it sends an acknowledgment.
-/

namespace BurstRelay

/-- An acknowledgment is sent as it is without interruptions. -/
theorem Acknowledger.acknowledge_undisturbed (acknowledger : Acknowledger) (channel : Channel)
    (envelope : Envelope) :
    (acknowledger.acknowledge channel.undisturbed envelope).value =
      Prod.map id (Prod.map id Channel.undisturbed)
        (acknowledger.acknowledge channel envelope).value := by
  cases active : acknowledger.role.acknowledges with
  | false =>
    unfold acknowledge
    rw [active]
    rfl
  | true =>
    rw [Relay.value_acknowledge_of_active active, Relay.value_acknowledge_of_active active,
      Channel.sendMessage_undisturbed]
    rcases (channel.sendMessage (reply envelope)).value with ⟨result, after⟩
    cases result with
    | error fault => rfl
    | ok done => rfl

namespace Relay

variable {State : Type}

/-! ## One call -/

/-- The relay on its channel and its sink without the interruptions that are still to come. -/
def undisturbed (relay : Relay State) : Relay State :=
  { relay with channel := relay.channel.undisturbed, output := relay.output.undisturbed }

theorem unpack_undisturbed (relay : Relay State) (burst : Payload) :
    (relay.undisturbed.unpack burst).value =
      Prod.map id undisturbed (relay.unpack burst).value := by
  simp only [unpack, Logged.value_bind]
  dsimp only [undisturbed]
  rcases (relay.buffer.ensure burst.header.declaredUncompressed.toNat).value with ⟨result, buffer⟩
  cases result with
  | error fault => rfl
  | ok done =>
    dsimp only
    split
    · rfl
    · rfl

theorem deliver_undisturbed (relay : Relay State) (record : Bytes) :
    relay.undisturbed.deliver record = Prod.map id undisturbed (relay.deliver record) := by
  unfold deliver
  dsimp only [undisturbed]
  rw [Output.emit_undisturbed]
  rcases relay.output.emit record with ⟨emission, output⟩
  cases emission with
  | wrote records => rfl
  | undecodable fault => rfl
  | failed fault => rfl

theorem verify_undisturbed (relay : Relay State) (burst : Payload) :
    (relay.undisturbed.verify burst).value =
      Prod.map id undisturbed (relay.verify burst).value := by
  simp only [verify, Logged.value_bind]
  rw [unpack_undisturbed]
  rcases (relay.unpack burst).value with ⟨unpacking, unpacked⟩
  cases unpacking with
  | record record => exact unpacked.deliver_undisturbed record
  | skip fault => rfl
  | stop fault => rfl

theorem judge_undisturbed (relay : Relay State) (envelope : Envelope) :
    (relay.undisturbed.judge envelope).value =
      Prod.map id undisturbed (relay.judge envelope).value := by
  have same : relay.undisturbed.admission envelope.payload = relay.admission envelope.payload := rfl
  simp only [judge, Logged.value_bind]
  rw [same]
  cases (relay.admission envelope.payload).value with
  | error fault => rfl
  | ok burst =>
    show (if relay.dummy then _ else relay.undisturbed.verify burst : Logged _).value = _
    dsimp only
    split
    · rfl
    · exact relay.verify_undisturbed burst

theorem acknowledge_undisturbed (relay : Relay State) (envelope : Envelope) :
    (relay.undisturbed.acknowledge envelope).value =
      Prod.map id undisturbed (relay.acknowledge envelope).value := by
  simp only [acknowledge, Logged.value_bind]
  dsimp only [undisturbed]
  rw [Acknowledger.acknowledge_undisturbed]
  rcases (relay.acknowledger.acknowledge relay.channel envelope).value with
    ⟨result, acknowledger, channel⟩
  cases result with
  | error fault => rfl
  | ok acknowledged => rfl

theorem conclude_undisturbed (relay : Relay State) (envelope : Envelope)
    (outcome : Bool → Outcome) :
    (relay.undisturbed.conclude envelope outcome).value =
      Prod.map id undisturbed (relay.conclude envelope outcome).value := by
  simp only [conclude, Logged.value_bind]
  rw [acknowledge_undisturbed]
  rcases (relay.acknowledge envelope).value with ⟨result, after⟩
  cases result with
  | error fault => rfl
  | ok acknowledged => rfl

theorem settle_undisturbed (relay : Relay State) (envelope : Envelope) :
    (relay.undisturbed.settle envelope).value =
      Prod.map id undisturbed (relay.settle envelope).value := by
  simp only [settle, Logged.value_bind]
  rw [judge_undisturbed]
  rcases (relay.judge envelope).value with ⟨verdict, judged⟩
  cases verdict with
  | written records => rfl
  | headerOnly => rfl
  | stop fault => rfl
  | skip fault =>
    show (if judged.ackSkipped then _ else _ : Logged _).value =
      Prod.map id undisturbed (if judged.ackSkipped then _ else _ : Logged _).value
    split
    · rfl
    · rfl

theorem treat_undisturbed (relay : Relay State) (received : Received) :
    (relay.undisturbed.treat received).value =
      Prod.map id undisturbed (relay.treat received).value := by
  cases received with
  | envelope envelope => exact relay.settle_undisturbed envelope
  | acknowledgment identity messageId => rfl
  | rejected fault => rfl

theorem prepare_undisturbed (relay : Relay State) :
    relay.undisturbed.prepare.value = Prod.map id undisturbed relay.prepare.value := by
  simp only [prepare, Logged.value_bind]
  dsimp only [undisturbed, role]
  rw [Received.read_undisturbed]
  rcases (Received.read relay.acknowledger.role relay.channel).value with ⟨result, channel⟩
  cases result with
  | error fault => rfl
  | ok received => exact treat_undisturbed (countEnvelope { relay with channel }) received

/-- A call comes to the same without interruptions, and leaves what it leaves. -/
theorem step_undisturbed (relay : Relay State) :
    relay.undisturbed.step.value = Prod.map id undisturbed relay.step.value := by
  simp only [step, Logged.value_bind]
  rw [prepare_undisturbed]
  rcases relay.prepare.value with ⟨settlement, ready⟩
  cases settlement with
  | acknowledge envelope outcome => exact ready.conclude_undisturbed envelope outcome
  | silent outcome => rfl
  | stop fault => rfl

/-! ## Runs -/

/-- The run as it ends with the relay without interruptions. -/
def Run.undisturbed (run : Run State) : Run State := { run with relay := run.relay.undisturbed }

theorem runFor_undisturbed (fuel : Nat) (relay : Relay State) :
    (runFor fuel relay.undisturbed).value = (runFor fuel relay).value.undisturbed := by
  induction fuel generalizing relay with
  | zero => rfl
  | succ fuel ih =>
    have same := relay.step_undisturbed
    rcases called : relay.step.value with ⟨result, after⟩
    rw [called] at same
    cases result with
    | error fault =>
      rw [runFor_succ_of_error called, runFor_succ_of_error same]
      rfl
    | ok outcome =>
      rw [Reference.runFor_succ_of_ok called, Reference.runFor_succ_of_ok same]
      dsimp only [id]
      rw [ih after]
      rfl

/-- More steps than there are arrivals change nothing, since each call that succeeds takes one. -/
theorem runFor_of_enough {relay : Relay State} {fuel more : Nat}
    (enough : relay.channel.incoming.length < fuel) (longer : fuel ≤ more) :
    (runFor more relay).value = (runFor fuel relay).value := by
  induction fuel generalizing relay more with
  | zero => omega
  | succ fuel ih =>
    obtain ⟨more, rfl⟩ : ∃ less, more = less + 1 := ⟨more - 1, by omega⟩
    rcases called : relay.step.value with ⟨result, after⟩
    cases result with
    | error fault => rw [runFor_succ_of_error called, runFor_succ_of_error called]
    | ok outcome =>
      have shorter := length_lt_of_step called
      rw [Reference.runFor_succ_of_ok called, Reference.runFor_succ_of_ok called,
        @ih after more (by omega) (by omega)]

/-- A run comes to the same without interruptions, and ends with what it ends with. -/
theorem run_undisturbed (relay : Relay State) :
    relay.undisturbed.run.value = relay.run.value.undisturbed := by
  have shorter := Channel.length_undisturbedQueue_le relay.channel.incoming
  show (runFor (relay.undisturbed.channel.incoming.length + 1) relay.undisturbed).value = _
  rw [← runFor_of_enough (Nat.lt_succ_self _) (Nat.succ_le_succ shorter)]
  exact runFor_undisturbed _ relay

/-! ## Relays that are interrupted differently -/

/-- Two relays that show the same: what they stored, sent and counted, and what is left for them to
receive. -/
structure ShowsSame (one two : Relay State) : Prop where
  bytes : two.sink.bytes = one.sink.bytes
  flushes : two.sink.flushes = one.sink.flushes
  written : two.output.writer.written = one.output.writer.written
  sent : two.channel.sent = one.channel.sent
  unfinished : two.channel.unfinished = one.channel.unfinished
  remaining : two.channel.remaining = one.channel.remaining
  buffer : two.buffer = one.buffer
  statistics : two.statistics = one.statistics

theorem showsSame_of_undisturbed_eq {one two : Relay State}
    (same : two.undisturbed = one.undisturbed) : ShowsSame one two where
  bytes := congrArg (fun relay => relay.sink.bytes) same
  flushes := congrArg (fun relay => relay.sink.flushes) same
  written := congrArg (fun relay => relay.output.writer.written) same
  sent := congrArg (fun relay => relay.channel.sent) same
  unfinished := congrArg (fun relay => relay.channel.unfinished) same
  remaining := by
    have queues := congrArg (fun relay => relay.channel.incoming.countP Arrival.isPart) same
    dsimp only [undisturbed, Channel.undisturbed] at queues
    rw [Channel.countP_undisturbedQueue, Channel.countP_undisturbedQueue] at queues
    exact queues
  buffer := congrArg (fun relay => relay.buffer) same
  statistics := congrArg (fun relay => relay.statistics) same

theorem step_of_undisturbed_eq {one two : Relay State} (same : two.undisturbed = one.undisturbed) :
    two.step.value.1 = one.step.value.1 ∧
      two.step.value.2.undisturbed = one.step.value.2.undisturbed := by
  have steps : Prod.map id undisturbed two.step.value = Prod.map id undisturbed one.step.value := by
    rw [← step_undisturbed, ← step_undisturbed, same]
  exact Prod.mk.inj steps

/-- The relay with its queue replaced by one that interruptions were put into, with more interruptions
before its next send, and with as many before each answer of its sink as are given for it. -/
def interrupted (relay : Relay State) (queue : List Arrival) (count : Nat)
    (interruptions : Nat → Nat) : Relay State :=
  { relay with
    channel := (relay.channel.withQueue queue).interruptSends count
    output := { relay.output with
      writer := { relay.output.writer with sink := relay.sink.withInterruptions interruptions } } }

theorem undisturbed_interrupted {relay : Relay State} {queue : List Arrival}
    (interspersed : Channel.Interspersed relay.channel.incoming queue) (count : Nat)
    (interruptions : Nat → Nat) :
    (relay.interrupted queue count interruptions).undisturbed = relay.undisturbed := by
  unfold undisturbed
  dsimp only [interrupted]
  rw [Channel.undisturbed_of_interspersed count interspersed]
  rfl

/-- Calls in a row, with interruptions put in at any time between them: what each call gave, from one
relay to another. -/
inductive InterruptedCalls :
    Relay State → List (Except RelayFault Outcome) → Relay State → Prop
  | nothing (relay : Relay State) : InterruptedCalls relay [] relay
  | interruption {relay after : Relay State} {queue : List Arrival}
      {results : List (Except RelayFault Outcome)}
      (interspersed : Channel.Interspersed relay.channel.incoming queue) (count : Nat)
      (interruptions : Nat → Nat)
      (others : InterruptedCalls (relay.interrupted queue count interruptions) results after) :
      InterruptedCalls relay results after
  | call {relay middle after : Relay State} {result : Except RelayFault Outcome}
      {results : List (Except RelayFault Outcome)} (step : relay.step.value = (result, middle))
      (others : InterruptedCalls middle results after) :
      InterruptedCalls relay (result :: results) after

/-- Calls in a row give the same results, one by one, also those behind a call that failed. -/
theorem results_of_interruptedCalls {one two after after' : Relay State}
    {history : List (Relay State × Except RelayFault Outcome)}
    {results : List (Except RelayFault Outcome)} (calls : Calls one history after)
    (interrupted : InterruptedCalls two results after') (length : results.length = history.length)
    (same : two.undisturbed = one.undisturbed) :
    results = history.map Prod.snd ∧ after'.undisturbed = after.undisturbed := by
  induction interrupted generalizing one history with
  | nothing relay =>
    cases calls with
    | nothing one => exact ⟨rfl, same⟩
    | call _ _ => simp at length
  | interruption interspersed count interruptions _ ih =>
    exact ih calls length ((undisturbed_interrupted interspersed count interruptions).trans same)
  | call called' _ ih =>
    cases calls with
    | nothing one => simp at length
    | call called others =>
      obtain ⟨here, still⟩ := step_of_undisturbed_eq same
      rw [called, called'] at here still
      obtain ⟨behind, end'⟩ := ih others (by simpa using length) still
      exact ⟨congrArg₂ List.cons here behind, end'⟩

/-- Two relays that cannot be told apart: neither by what comes of the messages and of the run, nor by
what they show in the end, nor call by call, even if the second is interrupted between its calls. -/
structure Indistinct (one two : Relay State) : Prop where
  outcomes : two.run.value.outcomes = one.run.value.outcomes
  result : two.run.value.result = one.run.value.result
  final : ShowsSame one.run.value.relay two.run.value.relay
  calls : ∀ history results after after', Calls one history after →
    InterruptedCalls two results after' → results.length = history.length →
      results = history.map Prod.snd ∧ ShowsSame after after'

theorem indistinct_of_undisturbed_eq {one two : Relay State}
    (same : two.undisturbed = one.undisturbed) : Indistinct one two := by
  have runs : two.run.value.undisturbed = one.run.value.undisturbed := by
    rw [← run_undisturbed, ← run_undisturbed, same]
  refine ⟨congrArg (fun run => run.outcomes) runs, congrArg (fun run => run.result) runs,
    showsSame_of_undisturbed_eq (congrArg (fun run => run.relay) runs), ?_⟩
  intro history results after after' calls calls' length
  obtain ⟨equal, still⟩ := results_of_interruptedCalls calls calls' length same
  exact ⟨equal, showsSame_of_undisturbed_eq still⟩

/-- Interruptions are invisible. Put any number of them into the queue of a relay, at any places, let
its sends be interrupted any number of times more, and its sink as often as it may be before each of its
answers: the relay starts if it does so without them, and the runs and all calls come to the same. -/
theorem interruptions_are_invisible {settings : Settings} {allocator : Allocator}
    {codec : Codec State} {codecState : State} {channel : Channel} {queue : List Arrival}
    (interspersed : Channel.Interspersed channel.incoming queue) (count : Nat) (sink : Sink)
    (interruptions : Nat → Nat) :
    (∃ fault,
      (start settings allocator codec codecState channel sink).value = .error fault ∧
      (start settings allocator codec codecState ((channel.withQueue queue).interruptSends count)
        (sink.withInterruptions interruptions)).value = .error fault) ∨
    ∃ one two,
      (start settings allocator codec codecState channel sink).value = .ok one ∧
      (start settings allocator codec codecState ((channel.withQueue queue).interruptSends count)
        (sink.withInterruptions interruptions)).value = .ok two ∧
      Indistinct one two := by
  cases made : Buffer.ofCapacity allocator settings.decompression.initialCapacity.toNat with
  | error fault =>
    exact .inl ⟨.allocation fault, start_of_refused _ _ _ _ made, start_of_refused _ _ _ _ made⟩
  | ok buffer =>
    obtain ⟨one, started⟩ := start_of_made codec codecState channel sink made
    obtain ⟨two, started'⟩ := start_of_made codec codecState
      ((channel.withQueue queue).interruptSends count) (sink.withInterruptions interruptions) made
    refine .inr ⟨one, two, started, started', ?_⟩
    obtain ⟨_, same, rfl⟩ := eq_of_start started
    obtain ⟨_, same', rfl⟩ := eq_of_start started'
    -- both start with the one buffer that was made, and with nothing else that could differ
    cases made.symm.trans same
    cases made.symm.trans same'
    apply indistinct_of_undisturbed_eq
    refine Eq.trans ?_ (undisturbed_interrupted interspersed count interruptions)
    rfl

/-- A burst with interruptions in front of each of its frames and behind the last, from a relay whose
sends and writes are interrupted too. -/
theorem burst_between_interruptions :
    ∃ one two : Relay Unit,
      (start {} .willing (.block .nothing) ()
        (Channel.pushMessage {} [[7], [9], [2, 0, 0, 0, 3, 0, 0, 0, 32, 65, 66]])
        (.ofBehaviour .willing)).value = .ok one ∧
      (start {} .willing (.block .nothing) ()
        (((Channel.pushMessage {} [[7], [9], [2, 0, 0, 0, 3, 0, 0, 0, 32, 65, 66]]).withQueue
          [.interruption, .part ⟨[7], true⟩, .interruption, .part ⟨[9], true⟩, .interruption,
            .interruption, .part ⟨[2, 0, 0, 0, 3, 0, 0, 0, 32, 65, 66], false⟩,
            .interruption]).interruptSends 2)
        ((Sink.ofBehaviour .willing).withInterruptions fun answers => answers + 1)).value =
          .ok two ∧
      two.run.value.outcomes = [.emitted 1 true] ∧ Indistinct one two := by
  rcases @interruptions_are_invisible Unit {} .willing (.block .nothing) ()
    (Channel.pushMessage {} [[7], [9], [2, 0, 0, 0, 3, 0, 0, 0, 32, 65, 66]]) _
    (.interruption (.arrival _ (.interruption (.arrival _ (.interruption (.interruption
      (.arrival _ (.interruption .nothing)))))))) 2
    (.ofBehaviour .willing) (fun answers => answers + 1) with
    ⟨fault, failed, -⟩ | ⟨one, two, started, started', indistinct⟩
  · cases failed
  · -- what the run comes to is read off the reference
    have agrees := Reference.agrees_of_start started (fun _ _ _ => rfl) rfl rfl
      Sink.Behaviour.accepts_willing
    exact ⟨one, two, started, started', indistinct.outcomes.trans agrees.outcomes, indistinct⟩

end Relay

end BurstRelay

import Mathlib.Data.List.Forall2
import BurstRelay.Proofs.Relay.Headers

/-!
# Runs, call by call

The calls of a run that succeed are its history, and one more call fails and ends it (`Relay.history`,
`Relay.last`, `fails_last`). Two runs can be compared call by call: if a relation between relays brings
two of them to calls that both fail in the same way or both succeed, and carries over to the relays
behind the calls, then it holds all along the two runs (`paired_of_lockstep`). Calls are compared stage
by stage (`inStep_of_parts`).
-/

namespace BurstRelay.Relay

variable {State State' : Type}

/-! ## The history of a run -/

/-- The calls that succeed, at most so many of them: the relay before each with what came of it. The
relay that they lead to comes with them. -/
def historyFor : Nat → Relay State → List (Relay State × Outcome) × Relay State
  | 0, relay => ([], relay)
  | fuel + 1, relay =>
    match relay.step.value with
    | (.ok outcome, after) =>
      ((relay, outcome) :: (historyFor fuel after).1, (historyFor fuel after).2)
    | (.error _, _) => ([], relay)

/-- The calls of a run that succeed. -/
def history (relay : Relay State) : List (Relay State × Outcome) :=
  (historyFor (relay.channel.incoming.length + 1) relay).1

/-- The relay before the call that ends its run. -/
def last (relay : Relay State) : Relay State :=
  (historyFor (relay.channel.incoming.length + 1) relay).2

/-- The end of a run that a call fails. -/
def ending (fault : RelayFault) : Except RelayFault Unit :=
  if fault.isClosed then .ok () else .error fault

theorem runFor_succ_of_error {relay after : Relay State} {fault : RelayFault}
    (called : relay.step.value = (.error fault, after)) (fuel : Nat) :
    (runFor (fuel + 1) relay).value = ⟨[], ending fault, after⟩ := by
  simp only [runFor, Logged.value_bind, called]
  unfold ending
  split
  · rfl
  · rfl

/-- A call that succeeds took a message from the queue. -/
theorem length_lt_of_step {relay after : Relay State} {outcome : Outcome}
    (called : relay.step.value = (.ok outcome, after)) :
    after.channel.incoming.length < relay.channel.incoming.length := by
  cases next : (Channel.nextMessage #[] relay.channel.incoming).value with
  | mk result rest =>
    cases result with
    | error fault =>
      rw [Reference.call_of_lost next] at called
      cases called
    | ok frames =>
      have shorter := Channel.length_lt_of_nextMessage next
      cases called_of_step called with
      | silent settled =>
        rw [settled.frame.2, next]
        exact shorter
      | concluded settled concluded =>
        rw [concluded.frame.2.2.2.2, settled.frame.2, next]
        exact shorter

theorem historyFor_spec {relay : Relay State} {fuel : Nat}
    (enough : relay.channel.incoming.length < fuel) :
    Serves relay (historyFor fuel relay).1 (historyFor fuel relay).2 ∧
      (runFor fuel relay).value.outcomes = (historyFor fuel relay).1.map Prod.snd ∧
      ∃ fault, (historyFor fuel relay).2.step.value =
          (.error fault, (runFor fuel relay).value.relay) ∧
        (runFor fuel relay).value.result = ending fault := by
  -- each call that succeeds shortens the queue, so that the steps that are left stay enough
  induction fuel generalizing relay with
  | zero => omega
  | succ fuel ih =>
    cases called : relay.step.value with
    | mk result after =>
      cases result with
      | error fault =>
        rw [historyFor, called, runFor_succ_of_error called]
        exact ⟨.nothing relay, rfl, fault, called, rfl⟩
      | ok outcome =>
        have shorter := length_lt_of_step called
        obtain ⟨serves, outcomes, fault, failed, result⟩ := @ih after (by omega)
        rw [historyFor, called, Reference.runFor_succ_of_ok called]
        refine ⟨.call called serves, ?_, fault, failed, result⟩
        rw [outcomes]
        rfl

/-- The calls of the history all succeed, one after the other. -/
theorem serves_history (relay : Relay State) : Serves relay relay.history relay.last :=
  (historyFor_spec (Nat.lt_succ_self _)).1

theorem outcomes_run (relay : Relay State) :
    relay.run.value.outcomes = relay.history.map Prod.snd :=
  (historyFor_spec (Nat.lt_succ_self _)).2.1

/-- The call behind the history fails, and ends the run. -/
theorem fails_last (relay : Relay State) :
    ∃ fault, relay.last.step.value = (.error fault, relay.run.value.relay) ∧
      relay.run.value.result = ending fault :=
  (historyFor_spec (Nat.lt_succ_self _)).2.2

/-! ## Two calls in step -/

/-- Two results that go the same way: both fail with the same fault, or both succeed with outcomes that
agree, and the relays behind them are related. -/
inductive InStep (related : Relay State → Relay State' → Prop) (agree : Outcome → Outcome → Prop) :
    Except RelayFault Outcome × Relay State → Except RelayFault Outcome × Relay State' → Prop
  | fails {fault : RelayFault} {first : Relay State} {second : Relay State'}
      (still : related first second) :
      InStep related agree (.error fault, first) (.error fault, second)
  | goes {outcome outcome' : Outcome} {first : Relay State} {second : Relay State'}
      (agrees : agree outcome outcome') (still : related first second) :
      InStep related agree (.ok outcome, first) (.ok outcome', second)

theorem InStep.imp {related related' : Relay State → Relay State' → Prop}
    {agree agree' : Outcome → Outcome → Prop}
    {one : Except RelayFault Outcome × Relay State} {two : Except RelayFault Outcome × Relay State'}
    (inStep : InStep related agree one two) (still : related one.2 two.2 → related' one.2 two.2)
    (weakens : ∀ outcome outcome', agree outcome outcome' → agree' outcome outcome') :
    InStep related' agree' one two := by
  cases inStep with
  | fails before => exact .fails (still before)
  | goes agrees before => exact .goes (weakens _ _ agrees) (still before)

theorem inStep_of_eq {related : Relay State → Relay State' → Prop}
    {agree : Outcome → Outcome → Prop} (same : ∀ outcome, agree outcome outcome)
    {one : Except RelayFault Outcome × Relay State} {two : Except RelayFault Outcome × Relay State'}
    (results : two.1 = one.1) (still : related one.2 two.2) : InStep related agree one two := by
  obtain ⟨result, first⟩ := one
  obtain ⟨result', second⟩ := two
  cases results
  cases result with
  | error fault => exact .fails still
  | ok outcome => exact .goes (same outcome) still

/-- Results that both succeed are in step if their outcomes agree. -/
theorem inStep_of_ok {related : Relay State → Relay State' → Prop}
    {agree : Outcome → Outcome → Prop} {one : Except RelayFault Outcome × Relay State}
    {two : Except RelayFault Outcome × Relay State'} {outcome outcome' : Outcome}
    (succeeds : one.1 = .ok outcome) (succeeds' : two.1 = .ok outcome')
    (agrees : agree outcome outcome') (still : related one.2 two.2) :
    InStep related agree one two := by
  obtain ⟨result, first⟩ := one
  obtain ⟨result', second⟩ := two
  cases succeeds
  cases succeeds'
  exact .goes agrees still

/-- Calls of two relays with the same queue are in step if the messages are taken for the same, and if
what is answered to the envelopes among them is. -/
theorem inStep_of_parts {related : Relay State → Relay State' → Prop}
    {agree : Outcome → Outcome → Prop} {one : Relay State} {two : Relay State'}
    (queue : two.channel.incoming = one.channel.incoming)
    (sends : one.channel.sendFault = none) (sends' : two.channel.sendFault = none)
    (alike : ∀ frames rest,
      (Channel.nextMessage #[] one.channel.incoming).value = (.ok frames, rest) →
        Received.classify two.role frames = Received.classify one.role frames)
    (same : ∀ outcome : Outcome, outcome.opened = false →
      (∀ acknowledged, outcome ≠ .admitted acknowledged) → agree outcome outcome)
    (lost : ∀ rest, related { one with channel := one.channel.withQueue rest }
      { two with channel := two.channel.withQueue rest })
    (echo : ∀ rest, related (one.taking rest).countEcho (two.taking rest).countEcho)
    (rejected : ∀ rest kind,
      related ((one.taking rest).countSkip kind) ((two.taking rest).countSkip kind))
    (judged : ∀ frames rest envelope,
      (Channel.nextMessage #[] one.channel.incoming).value = (.ok frames, rest) →
      Received.classify one.role frames = .envelope envelope →
        InStep related agree
          (((one.taking rest).judge envelope).value.2.answered envelope
            ((one.taking rest).judge envelope).value.1)
          (((two.taking rest).judge envelope).value.2.answered envelope
            ((two.taking rest).judge envelope).value.1)) :
    InStep related agree one.step.value two.step.value := by
  rcases next : (Channel.nextMessage #[] one.channel.incoming).value with ⟨result, rest⟩
  have next' := next
  rw [← queue] at next'
  cases result with
  | error fault =>
    rw [Reference.call_of_lost next, Reference.call_of_lost next']
    exact .fails (lost rest)
  | ok frames =>
    have alike := alike frames rest next
    cases kind : Received.classify one.role frames with
    | acknowledgment identity messageId =>
      rw [value_step_of_acknowledgment next kind,
        value_step_of_acknowledgment next' (alike.trans kind)]
      exact .goes (same _ rfl nofun) (echo rest)
    | rejected fault =>
      rw [value_step_of_rejected next kind, value_step_of_rejected next' (alike.trans kind)]
      exact .goes (same _ (Received.opened_of_rejected kind) nofun) (rejected rest fault.kind)
    | envelope envelope =>
      rw [value_step_of_envelope sends next kind,
        value_step_of_envelope sends' next' (alike.trans kind)]
      exact judged frames rest envelope next kind

/-! ## Two runs in lockstep -/

/-- Two runs that go the same way, call by call. -/
structure Paired (related : Relay State → Relay State' → Prop)
    (agree : Relay State × Outcome → Relay State' × Outcome → Prop) (one : Relay State)
    (two : Relay State') : Prop where
  /-- Each succeeds in as many calls as the other, and the calls agree. -/
  history : List.Forall₂ (fun first second => related first.1 second.1 ∧ agree first second)
    one.history two.history
  last : related one.last two.last
  final : related one.run.value.relay two.run.value.relay
  result : one.run.value.result = two.run.value.result

theorem pairedFor_of_lockstep {related : Relay State → Relay State' → Prop}
    {agree : Relay State × Outcome → Relay State' × Outcome → Prop}
    (lockstep : ∀ one two, related one two →
      InStep related (fun outcome outcome' => agree (one, outcome) (two, outcome')) one.step.value
        two.step.value) (fuel : Nat)
    {one : Relay State} {two : Relay State'} (start : related one two) :
    List.Forall₂ (fun first second => related first.1 second.1 ∧ agree first second)
        (historyFor fuel one).1 (historyFor fuel two).1 ∧
      related (historyFor fuel one).2 (historyFor fuel two).2 ∧
      related (runFor fuel one).value.relay (runFor fuel two).value.relay ∧
      (runFor fuel one).value.result = (runFor fuel two).value.result := by
  induction fuel generalizing one two with
  | zero => exact ⟨.nil, start, start, rfl⟩
  | succ fuel ih =>
    have inStep := lockstep one two start
    generalize calledFirst : one.step.value = first at inStep
    generalize calledSecond : two.step.value = second at inStep
    cases inStep with
    | fails still =>
      rw [historyFor, historyFor, calledFirst, calledSecond, runFor_succ_of_error calledFirst,
        runFor_succ_of_error calledSecond]
      exact ⟨.nil, start, still, rfl⟩
    | goes agrees still =>
      obtain ⟨calls, last, final, result⟩ := ih still
      rw [historyFor, historyFor, calledFirst, calledSecond,
        Reference.runFor_succ_of_ok calledFirst, Reference.runFor_succ_of_ok calledSecond]
      exact ⟨.cons ⟨start, agrees⟩ calls, last, final, result⟩

/-- What holds of two relays and is carried from call to call holds all along their runs. -/
theorem paired_of_lockstep {related : Relay State → Relay State' → Prop}
    {agree : Relay State × Outcome → Relay State' × Outcome → Prop}
    (lockstep : ∀ one two, related one two →
      InStep related (fun outcome outcome' => agree (one, outcome) (two, outcome')) one.step.value
        two.step.value)
    {one : Relay State} {two : Relay State'} (start : related one two)
    (queue : two.channel.incoming = one.channel.incoming) : Paired related agree one two := by
  have paired := pairedFor_of_lockstep lockstep (one.channel.incoming.length + 1) start
  obtain ⟨calls, last, final, result⟩ := paired
  refine ⟨?_, ?_, ?_, ?_⟩
  · unfold history
    rw [queue]
    exact calls
  · unfold Relay.last
    rw [queue]
    exact last
  · show related (runFor _ one).value.relay (runFor _ two).value.relay
    rw [queue]
    exact final
  · show (runFor _ one).value.result = (runFor _ two).value.result
    rw [queue]
    exact result

theorem Paired.imp {related related' : Relay State → Relay State' → Prop}
    {agree agree' : Relay State × Outcome → Relay State' × Outcome → Prop} {one : Relay State}
    {two : Relay State'} (paired : Paired related agree one two)
    (weaker : ∀ one two, related one two → related' one two)
    (weakens : ∀ first second, agree first second → agree' first second) :
    Paired related' agree' one two where
  history := paired.history.imp fun _ _ both => ⟨weaker _ _ both.1, weakens _ _ both.2⟩
  last := weaker _ _ paired.last
  final := weaker _ _ paired.final
  result := paired.result

/-- What the calls of two runs give alike, the two histories give alike. -/
theorem Paired.flatMap_eq {α : Type} {related : Relay State → Relay State' → Prop}
    {agree : Relay State × Outcome → Relay State' × Outcome → Prop} {one : Relay State}
    {two : Relay State'} (paired : Paired related agree one two)
    {give : Relay State × Outcome → List α} {give' : Relay State' × Outcome → List α}
    (alike : ∀ first second, agree first second → give' second = give first) :
    two.history.flatMap give' = one.history.flatMap give := by
  have calls := paired.history
  generalize one.history = history at calls
  generalize two.history = history' at calls
  induction calls with
  | nil => rfl
  | cons call _ ih => rw [List.flatMap_cons, List.flatMap_cons, ih, alike _ _ call.2]

theorem Paired.outcomes_eq {related : Relay State → Relay State' → Prop}
    {agree : Relay State × Outcome → Relay State' × Outcome → Prop} {one : Relay State}
    {two : Relay State'} (paired : Paired related agree one two)
    (alike : ∀ first second, agree first second → second.2 = first.2) :
    two.run.value.outcomes = one.run.value.outcomes := by
  have single : ∀ {State : Type} (relay : Relay State),
      relay.run.value.outcomes = relay.history.flatMap fun call => [call.2] := by
    intro State relay
    rw [outcomes_run, List.map_eq_flatMap]
  rw [single, single]
  refine paired.flatMap_eq ?_
  intro first second agree
  rw [alike first second agree]

end BurstRelay.Relay

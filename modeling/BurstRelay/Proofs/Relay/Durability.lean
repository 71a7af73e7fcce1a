import Mathlib
import BurstRelay.Proofs.Relay.Calls

/-!
# Acknowledged bursts are stored

An acknowledgment lets a producer forget a burst, so nothing of one may be sent before the records
of the burst are safe. `safe_of_serves` says so for every sequence of calls up to and including the
first that fails, whatever the codec, the memory, the channel and the sink do:

* what the calls emitted so far is stored, record by record, each with a flush of its own;
* a call sends nothing while it settles its message, and when it is about to acknowledge one, all
  records of that message are stored too;
* a call that fails leaves the start of the framings of its message behind at most, and if the sink
  was what failed, nothing was sent.

The invariant is `stored_of_serves`, and it is carried by what one settled message does to the output
(`Settled.worth`).
-/

namespace BurstRelay.Relay

variable {State : Type}

/-- The output records of the messages that were emitted, in order. -/
def emitted (history : List (Relay State × Outcome)) : List Bytes :=
  history.flatMap fun (relay, outcome) =>
    match outcome with
    | .emitted .. => relay.nextRecords
    | .admitted _ | .skipped .. | .ackEcho => []

theorem emitted_cons (relay : Relay State) (outcome : Outcome)
    (history : List (Relay State × Outcome)) :
    emitted ((relay, outcome) :: history) = emitted [(relay, outcome)] ++ emitted history := by
  simp [emitted]

theorem emitted_of_unwritten {relay : Relay State} {outcome : Outcome}
    (unwritten : ∀ records acknowledged, outcome ≠ .emitted records acknowledged) :
    emitted [(relay, outcome)] = [] := by
  cases outcome with
  | emitted records acknowledged => exact absurd rfl (unwritten records acknowledged)
  | admitted acknowledged => rfl
  | skipped fault acknowledged => rfl
  | ackEcho => rfl

/-! ## One call -/

/-- What settling a message did to the output. -/
theorem worth_of_prepare {relay ready : Relay State} {settlement : Settlement}
    (prepared : relay.prepare.value = (settlement, ready)) : Worth relay settlement ready := by
  have settled := relay.settled
  rw [prepared] at settled
  exact settled.worth

theorem channel_of_prepare {relay ready : Relay State} {settlement : Settlement}
    (prepared : relay.prepare.value = (settlement, ready)) :
    ready.channel = relay.channel.withQueue ready.channel.incoming := by
  have settled := relay.settled
  rw [prepared] at settled
  rw [settled.frame.2, Channel.withQueue_incoming]

theorem output_of_conclude {ready after : Relay State} {envelope : Envelope}
    {outcome : Bool → Outcome} {result : Except RelayFault Outcome}
    (concludes : (ready.conclude envelope outcome).value = (result, after)) :
    after.output = ready.output := by
  have concluded := ready.concluded envelope outcome
  rw [concludes] at concluded
  exact concluded.frame.2.1

/-- A call that succeeds stores the records of its message, and nothing if it does not emit it. -/
theorem stored_of_step {relay after : Relay State} {outcome : Outcome}
    (called : relay.step.value = (.ok outcome, after)) :
    Stored relay.format relay.sink (emitted [(relay, outcome)]) after.sink := by
  have untouched : ∀ {last : Relay State}, last.output = relay.output →
      (∀ records acknowledged, outcome ≠ .emitted records acknowledged) →
      Stored relay.format relay.sink (emitted [(relay, outcome)]) last.sink := by
    intro last same unwritten
    rw [emitted_of_unwritten unwritten, sink_of_output same]
    exact .nothing relay.sink
  rcases step_cases called with ⟨fault, -, failed⟩ | ⟨silent, prepared, succeeded⟩ |
    ⟨envelope, outcomes, ready, prepared, concludes⟩
  · cases failed
  · cases succeeded
    cases worth_of_prepare prepared with
    | untouched same _ unwritten =>
      refine untouched same ?_
      rintro records acknowledged rfl
      exact unwritten _ _ .silent
  · have concluded := ready.concluded envelope outcomes
    rw [concludes] at concluded
    have same : after.output = ready.output := concluded.frame.2.1
    -- whether the acknowledgment went out shows in the outcome, not in what was emitted
    obtain ⟨acknowledged, rfl⟩ : ∃ acknowledged, outcome = outcomes acknowledged := by
      cases concluded with
      | withheld _ => exact ⟨false, rfl⟩
      | sent _ _ => exact ⟨true, rfl⟩
    cases worth_of_prepare prepared with
    | written stored =>
      simp only [emitted, List.flatMap_cons, List.flatMap_nil, List.append_nil]
      rw [sink_of_output same]
      exact stored
    | untouched unchanged _ unwritten =>
      refine untouched (same.trans unchanged) ?_
      intro records flag isEmitted
      refine unwritten records flag ?_
      rw [← isEmitted]
      exact .acknowledge acknowledged

/-- A call that fails leaves the start of the framings of its message behind at most. -/
theorem accepted_of_failure {relay after : Relay State} {fault : RelayFault}
    (called : relay.step.value = (.error fault, after)) :
    ∃ accepted, accepted <+: Record.stream relay.format relay.nextRecords ∧
      after.sink.bytes = relay.sink.bytes ++ accepted := by
  have untouched : ∀ {last : Relay State}, last.output = relay.output →
      ∃ accepted, accepted <+: Record.stream relay.format relay.nextRecords ∧
        last.sink.bytes = relay.sink.bytes ++ accepted := by
    intro last same
    exact ⟨[], List.nil_prefix, by rw [sink_of_output same, List.append_nil]⟩
  rcases step_cases called with ⟨cause, prepared, -⟩ | ⟨outcome, -, succeeded⟩ |
    ⟨envelope, outcome, ready, prepared, concludes⟩
  · cases worth_of_prepare prepared with
    | torn torn =>
      obtain ⟨accepted, within, bytes, -⟩ := torn.bytes_eq
      exact ⟨accepted, within, bytes⟩
    | untouched same _ _ => exact untouched same
  · cases succeeded
  · -- the acknowledgment failed, and by then all was written
    have same := output_of_conclude concludes
    cases worth_of_prepare prepared with
    | written stored =>
      refine ⟨_, List.prefix_rfl, ?_⟩
      rw [sink_of_output same]
      exact stored.bytes_eq
    | untouched unchanged _ _ => exact untouched (same.trans unchanged)

/-- A call that the sink fails ends before anything is sent. -/
theorem channel_of_sink_failure {relay after : Relay State} {cause : Fault}
    (called : relay.step.value = (.error (.sink cause), after)) :
    after.channel = relay.channel.withQueue after.channel.incoming := by
  rcases step_cases called with ⟨fault, prepared, -⟩ | ⟨outcome, -, succeeded⟩ |
    ⟨envelope, outcome, ready, prepared, concludes⟩
  · exact channel_of_prepare prepared
  · cases succeeded
  · have concluded := ready.concluded envelope outcome
    rw [concludes] at concluded
    cases concluded

/-- A relay that neither acknowledges skipped bursts nor stops at headers acknowledges a message only
if it emits it, with all its records stored. -/
theorem stored_of_acknowledge {relay ready : Relay State} {envelope : Envelope}
    {outcome : Bool → Outcome} (unforgiving : relay.ackSkipped = false)
    (full : relay.dummy = false)
    (prepared : relay.prepare.value = (.acknowledge envelope outcome, ready)) :
    outcome = .emitted relay.nextRecords.length ∧
      Stored relay.format relay.sink relay.nextRecords ready.sink := by
  have settled := relay.settled
  rw [prepared] at settled
  obtain ⟨records, isEmitted⟩ : ∃ records, outcome = .emitted records := by
    generalize same : Settlement.acknowledge envelope outcome = settlement at settled
    cases settled with
    | lost _ => cases same
    | echo _ _ => cases same
    | rejected _ _ => cases same
    | stopped _ _ _ => cases same
    | written _ _ _ =>
      cases same
      exact ⟨_, rfl⟩
    | admitted _ _ judged =>
      cases judged with
      | header _ dummy => exact absurd (full.symm.trans dummy) (by simp)
      | full _ _ verified => cases verified
    | skipped _ _ _ _ => cases same
    | forgiven _ _ judged policy =>
      have never := judged.frame.1.ackSkipped.trans unforgiving
      exact absurd (never.symm.trans policy) (by simp)
  cases worth_of_prepare prepared with
  | written stored => exact ⟨rfl, stored⟩
  | untouched _ _ unwritten =>
    have yields : Yields (.acknowledge envelope outcome) (outcome true) := .acknowledge true
    rw [congrFun isEmitted true] at yields
    exact absurd yields (unwritten records true)

/-! ## Calls in a row -/

/-- What calls in a row emitted is stored, in the order of the messages. -/
theorem stored_of_serves {relay last : Relay State} {history : List (Relay State × Outcome)}
    (serves : Serves relay history last) :
    Stored relay.format relay.sink (emitted history) last.sink := by
  induction serves with
  | nothing relay => exact .nothing relay.sink
  | call step _ ih =>
    -- the others are stored in the format of the relay behind the call, which is the same
    rw [emitted_cons]
    rw [format, (keeps_of_step step).writer.format] at ih
    exact (stored_of_step step).append ih

/-- Nothing is acknowledged before it is safe, as far as calls in a row have come: from a sink as it
was in the beginning, through the messages of a history, up to a relay and its next call. -/
structure Safe (format : RecordFormat) (sink : Sink) (history : List (Relay State × Outcome))
    (last : Relay State) : Prop where
  /-- What was emitted is stored, record by record. -/
  stored : Stored format sink (emitted history) last.sink
  /-- Nothing else was taken by the sink. -/
  bytes : last.sink.bytes = sink.bytes ++ Record.stream format (emitted history)
  /-- While the next message is settled, nothing is sent. -/
  silent : ∀ settlement ready, last.prepare.value = (settlement, ready) →
    ready.channel = last.channel.withQueue ready.channel.incoming
  /-- When an acknowledgment is all that is left to do, the message is one that is emitted, and its
  records are stored too. -/
  acknowledges : ∀ envelope outcome ready,
    last.prepare.value = (.acknowledge envelope outcome, ready) →
      last.step.value = (ready.conclude envelope outcome).value ∧
      outcome = .emitted last.nextRecords.length ∧
      Stored format sink (emitted history ++ last.nextRecords) ready.sink
  /-- If the next call fails, the sink took the start of the framings of its message at most. -/
  fails : ∀ fault after, last.step.value = (.error fault, after) →
    ∃ accepted, accepted <+: Record.stream format last.nextRecords ∧
      after.sink.bytes = sink.bytes ++ Record.stream format (emitted history) ++ accepted
  /-- If the sink is what fails, nothing is sent. -/
  unacknowledged : ∀ cause after, last.step.value = (.error (.sink cause), after) →
    after.channel = last.channel.withQueue after.channel.incoming

/-- A relay that neither acknowledges skipped bursts nor stops at headers acknowledges a burst only
when its records are stored. -/
theorem safe_of_serves {settings : Settings} {allocator : Allocator} {codec : Codec State}
    {codecState : State} {channel : Channel} {sink : Sink} {relay last : Relay State}
    {history : List (Relay State × Outcome)}
    (started : (start settings allocator codec codecState channel sink).value = .ok relay)
    (unforgiving : settings.acknowledgment.ackSkipped = false)
    (full : settings.acknowledgment.dummy = false) (serves : Serves relay history last) :
    Safe settings.output.format.format sink history last := by
  obtain ⟨buffer, -, rfl⟩ := eq_of_start started
  have keeps := serves.keeps
  have stored := stored_of_serves serves
  have sameFormat : last.format = settings.output.format.format := keeps.writer.format
  refine ⟨stored, stored.bytes_eq, fun _ _ => channel_of_prepare, ?_, ?_, ?_⟩
  · intro envelope outcome ready prepared
    obtain ⟨isEmitted, more⟩ := stored_of_acknowledge
      (keeps.ackSkipped.trans unforgiving) (keeps.dummy.trans full) prepared
    rw [sameFormat] at more
    refine ⟨?_, isEmitted, stored.append more⟩
    simp only [step, Logged.value_bind, prepared]
  · intro fault after called
    obtain ⟨accepted, within, bytes⟩ := accepted_of_failure called
    rw [sameFormat] at within
    refine ⟨accepted, within, ?_⟩
    rw [bytes, stored.bytes_eq]
    rfl
  · intro cause after called
    exact channel_of_sink_failure called

/-- A relay with default settings is safe behind a burst that it emitted and acknowledged. -/
theorem safe_behind_burst :
    ∃ relay last : Relay Unit,
      (start {} .willing (.block .nothing) ()
        (Channel.pushMessage {} [[7], [8], [2, 0, 0, 0, 3, 0, 0, 0, 32, 65, 66]])
        (.ofBehaviour .willing)).value = .ok relay ∧
      Serves relay [(relay, .emitted 1 true)] last ∧
      Safe ({} : Settings).output.format.format (.ofBehaviour .willing)
        [(relay, .emitted 1 true)] last := by
  obtain ⟨relay, started, succeeded⟩ : ∃ relay : Relay Unit,
      (start {} .willing (.block .nothing) ()
        (Channel.pushMessage {} [[7], [8], [2, 0, 0, 0, 3, 0, 0, 0, 32, 65, 66]])
        (.ofBehaviour .willing)).value = .ok relay ∧
      relay.step.value.1 = .ok (.emitted 1 true) := ⟨_, rfl, by cbv⟩
  have serves : Serves relay [(relay, .emitted 1 true)] relay.step.value.2 :=
    .call (Prod.ext succeeded rfl) (.nothing _)
  exact ⟨relay, _, started, serves, safe_of_serves started rfl rfl serves⟩

end BurstRelay.Relay

import Mathlib.Data.List.Basic
import BurstRelay.Proofs.Relay.Dependable
import BurstRelay.Proofs.Relay.Replies
import BurstRelay.Proofs.Relay.SameWork

/-!
# Relays that stop at headers

A relay that stops at headers is to admit what another relay with the same settings would open, and to
acknowledge what that one would acknowledge. `headers_foretell` says so of the two runs, message by
message, for as long as memory, sends and the sink work.

The two relays drift apart: the one goes on growing its buffer, using its codec and writing. What they
keep in common is all that settling a message looks at before the body of its burst, and that is the
coupling (`Foresees`); the rest of it is that nothing can stop the one that goes on, since the other
cannot be stopped by any of that.

That stopping at headers is no work is a frame argument (`Idle`), and it takes no assumptions. The
codec is not even part of such a relay: with another codec in its place everything comes to the same
(`run_withCodec`).
-/

namespace BurstRelay

/-- Settings with the work behind headers left out, or not. -/
def Settings.stopping (settings : Settings) (dummy : Bool) : Settings :=
  { settings with acknowledgment := { settings.acknowledgment with dummy } }

namespace Outcome

/-- A body was looked at exactly if the message was emitted, or skipped for what is wrong with the
body. -/
theorem opened_iff (outcome : Outcome) :
    outcome.opened = true ↔
      (∃ records acknowledged, outcome = .emitted records acknowledged) ∨
        ∃ fault acknowledged, outcome = .skipped fault acknowledged ∧
          fault.kind ∈ ["codec_failure", "size_mismatch", "container"] := by
  cases outcome with
  | emitted records acknowledged => simp [opened]
  | admitted acknowledged => simp [opened]
  | ackEcho => simp [opened]
  | skipped fault acknowledged =>
    cases fault with
    | shortEnvelope frames => simp [opened, SkipFault.kind]
    | excessFrames frames => simp [opened, SkipFault.kind]
    | burst fault =>
      cases fault with
      | malformedHeader length declared diagnosis =>
        simp [opened, BurstFault.behindHeader, SkipFault.kind, BurstFault.kind]
      | declaredTooLarge declared limit =>
        simp [opened, BurstFault.behindHeader, SkipFault.kind, BurstFault.kind]
      | codecFailure codec cause length =>
        simp [opened, BurstFault.behindHeader, SkipFault.kind, BurstFault.kind]
      | sizeMismatch declared produced =>
        simp [opened, BurstFault.behindHeader, SkipFault.kind, BurstFault.kind]
      | undecodable cause length =>
        simp [opened, BurstFault.behindHeader, SkipFault.kind, BurstFault.kind]

/-- What a relay that stops at headers makes of a message that comes to this outcome otherwise. -/
structure Foretold (outcome dry : Outcome) : Prop where
  admitted : (∃ acknowledged, dry = .admitted acknowledged) ↔ outcome.opened = true
  same : outcome.opened = false → dry = outcome
  acknowledged : outcome.acknowledged = true → dry.acknowledged = true

/-- What is settled in front of the body is settled alike. -/
theorem Foretold.of_unopened {outcome : Outcome} (unopened : outcome.opened = false)
    (unadmitted : ∀ acknowledged, outcome ≠ .admitted acknowledged) : Foretold outcome outcome where
  admitted := by
    constructor
    · rintro ⟨acknowledged, rfl⟩
      exact absurd rfl (unadmitted acknowledged)
    · intro opened
      rw [unopened] at opened
      cases opened
  same := fun _ => rfl
  acknowledged := fun acknowledged => acknowledged

/-- Behind the header nothing is left to find, and the message is admitted. -/
theorem Foretold.of_opened {outcome : Outcome} {acknowledges : Bool} (opened : outcome.opened = true)
    (answers : outcome.acknowledged = true → acknowledges = true) :
    Foretold outcome (.admitted acknowledges) where
  admitted := ⟨fun _ => opened, fun _ => ⟨_, rfl⟩⟩
  same := by
    intro unopened
    rw [opened] at unopened
    cases unopened
  acknowledged := answers

end Outcome

namespace Relay

variable {State State' : Type}

/-! ## The coupling -/

/-- A relay that nothing around it fails, and one that stops at headers. What they have in common is
what a message is settled by in front of the body of its burst. -/
structure Foresees (full dry : Relay State) : Prop where
  dependable : full.Dependable
  opens : full.dummy = false
  stops : dry.dummy = true
  bound : dry.bound = full.bound
  role : dry.role = full.role
  ackSkipped : dry.ackSkipped = full.ackSkipped
  queue : dry.channel.incoming = full.channel.incoming
  sends : dry.channel.sendFault = none

namespace Foresees

variable {full dry : Relay State}

/-- The coupling is kept by whatever both go through, as long as the same is queued for both. -/
theorem keeps {full' dry' : Relay State} (foresees : Foresees full dry) (first : full.Keeps full')
    (second : dry.Keeps dry') (queue : dry'.channel.incoming = full'.channel.incoming) :
    Foresees full' dry' where
  dependable := foresees.dependable.keeps first
  opens := first.dummy.trans foresees.opens
  stops := second.dummy.trans foresees.stops
  bound := by rw [second.bound, first.bound, foresees.bound]
  role := by rw [second.role, first.role, foresees.role]
  ackSkipped := by rw [second.ackSkipped, first.ackSkipped, foresees.ackSkipped]
  queue := queue
  sends := second.sendFault.trans foresees.sends

theorem taking (foresees : Foresees full dry) (rest : List Arrival) :
    Foresees (full.taking rest) (dry.taking rest) :=
  foresees.keeps (full.keeps_taking rest) (dry.keeps_taking rest) rfl

/-- What both answer to a burst whose header was refused. -/
theorem answered_of_refused (foresees : Foresees full dry) (envelope : Envelope)
    {fault : BurstFault} (front : fault.behindHeader = false) :
    InStep (fun first second => second.channel.incoming = first.channel.incoming) Outcome.Foretold
      (full.answered envelope (.skip fault)) (dry.answered envelope (.skip fault)) := by
  have queue := (SameWork.answering full envelope (.skip fault)).queue
  have queue' := (SameWork.answering dry envelope (.skip fault)).queue
  have result := full.answered_skip envelope fault
  have result' := dry.answered_skip envelope fault
  rw [foresees.ackSkipped, foresees.role] at result'
  refine inStep_of_ok result result' (.of_unopened front nofun) ?_
  rw [queue', queue]
  exact foresees.queue

/-- What both answer to a burst whose header was accepted, whatever comes of its body. -/
theorem answered_of_admitted (foresees : Foresees full dry) (envelope : Envelope) {burst : Payload}
    {verdict : Verdict} {ready : Relay State} (verified : Verified full burst verdict ready)
    (within : burst.header.declaredUncompressed.toNat ≤ full.bound.toNat) :
    InStep (fun first second => second.channel.incoming = first.channel.incoming) Outcome.Foretold
      (ready.answered envelope verdict) (dry.answered envelope .headerOnly) := by
  obtain ⟨keeps, channel⟩ := verified.frame
  have queue := (SameWork.answering ready envelope verdict).queue
  have queue' := (SameWork.answering dry envelope .headerOnly).queue
  have still : (dry.answered envelope .headerOnly).2.channel.incoming =
      (ready.answered envelope verdict).2.channel.incoming := by
    rw [queue', queue, channel]
    exact foresees.queue
  have role : dry.role = ready.role := foresees.role.trans keeps.role.symm
  cases verdict with
  -- only what is around a relay stops it behind an accepted header, and that works here
  | stop fault => exact absurd verified (Verified.not_stopped foresees.dependable within)
  | headerOnly => cases verified
  | written records =>
    refine .goes (.of_opened rfl ?_) still
    intro acknowledged
    rw [role]
    exact acknowledged
  | skip fault =>
    have behind := behindHeader_of_verified verified
    refine inStep_of_ok (ready.answered_skip envelope fault) rfl (.of_opened behind ?_) still
    intro acknowledged
    rw [role]
    exact (Bool.and_eq_true_iff.mp acknowledged).2

/-- A call of the one foretells the call of the other. -/
theorem inStep (foresees : Foresees full dry) :
    InStep Foresees
      (fun outcome dryOutcome => dry.message = full.message ∧ outcome.Foretold dryOutcome)
      full.step.value dry.step.value := by
  have parts : InStep (fun first second => second.channel.incoming = first.channel.incoming)
      Outcome.Foretold full.step.value dry.step.value := by
    refine inStep_of_parts foresees.queue foresees.dependable.sends foresees.sends ?_ ?_ ?_ ?_ ?_ ?_
    · intro frames _ _
      rw [foresees.role]
    · intro outcome unopened unadmitted
      exact .of_unopened unopened unadmitted
    · intro rest
      rfl
    · intro rest
      rfl
    · intro rest kind
      rfl
    · intro frames rest envelope _ _
      have taking := foresees.taking rest
      -- the header decides alike for both, and only the first relay looks further
      have judged := (full.taking rest).judged envelope
      rw [dry.taking rest |>.value_judge, taking.bound, taking.stops]
      generalize ((full.taking rest).judge envelope).value = first at judged ⊢
      obtain ⟨verdict, ready⟩ := first
      cases judged with
      | refused refused =>
        rw [Reference.value_admission] at refused
        rw [refused]
        exact taking.answered_of_refused envelope (behindHeader_of_header refused)
      -- the first relay is the one that goes on
      | header _ dummy => exact absurd (taking.opens.symm.trans dummy) (by simp)
      | full admitted _ verified =>
        rw [Reference.value_admission] at admitted
        rw [admitted]
        exact taking.answered_of_admitted envelope verified (declared_le_of_header admitted)
  refine parts.imp ?_ ?_
  · intro queue
    exact foresees.keeps (keeps_of_step rfl) (keeps_of_step rfl) queue
  · intro outcome dryOutcome foretold
    refine ⟨?_, foretold⟩
    unfold message
    rw [foresees.queue]

end Foresees

/-! ## Stopping at headers is no work -/

/-- A relay that did no work: its codec, its memory and its output are as they were. -/
structure Idle (relay after : Relay State) : Prop where
  codecState : after.codecState = relay.codecState
  buffer : after.buffer = relay.buffer
  output : after.output = relay.output
  peakCapacity : after.statistics.peakCapacity = relay.statistics.peakCapacity
  recordsEmitted : after.statistics.recordsEmitted = relay.statistics.recordsEmitted

theorem Idle.trans {relay middle after : Relay State} (first : Idle relay middle)
    (second : Idle middle after) : Idle relay after where
  codecState := second.codecState.trans first.codecState
  buffer := second.buffer.trans first.buffer
  output := second.output.trans first.output
  peakCapacity := second.peakCapacity.trans first.peakCapacity
  recordsEmitted := second.recordsEmitted.trans first.recordsEmitted

/-- Judging a burst by its header changes nothing at all. -/
theorem Judged.eq_of_dummy {relay after : Relay State} {payload : Bytes} {verdict : Verdict}
    (dummy : relay.dummy = true) (judged : Judged relay payload verdict after) : after = relay := by
  cases judged with
  | refused _ => rfl
  | header _ _ => rfl
  | full _ full _ =>
    rw [dummy] at full
    cases full

theorem Judged.idle {relay after : Relay State} {rest : List Arrival} {payload : Bytes}
    {verdict : Verdict} (dummy : relay.dummy = true)
    (judged : Judged (relay.taking rest) payload verdict after) : Idle relay after := by
  have stops : (relay.taking rest).dummy = true := dummy
  have same := judged.eq_of_dummy stops
  rw [same]
  exact ⟨rfl, rfl, rfl, rfl, rfl⟩

theorem idle_countSkip (relay : Relay State) (kind : String) : Idle relay (relay.countSkip kind) :=
  ⟨rfl, rfl, rfl, rfl, rfl⟩

theorem Settled.idle {relay ready : Relay State} {settlement : Settlement}
    (dummy : relay.dummy = true) (settled : Settled relay settlement ready) : Idle relay ready := by
  cases settled with
  | lost _ => exact ⟨rfl, rfl, rfl, rfl, rfl⟩
  | echo _ _ => exact ⟨rfl, rfl, rfl, rfl, rfl⟩
  | rejected _ _ => exact ⟨rfl, rfl, rfl, rfl, rfl⟩
  | written _ _ judged => exact judged.idle dummy
  | admitted _ _ judged => exact judged.idle dummy
  | stopped _ _ judged => exact judged.idle dummy
  | skipped _ _ judged _ => exact (judged.idle dummy).trans (idle_countSkip _ _)
  | forgiven _ _ judged _ => exact (judged.idle dummy).trans (idle_countSkip _ _)

/-- A call of a relay that stops at headers is no work, whether it succeeds or not. -/
theorem idle_of_step {relay after : Relay State} {result : Except RelayFault Outcome}
    (dummy : relay.dummy = true) (called : relay.step.value = (result, after)) :
    Idle relay after := by
  cases called_of_step called with
  | stopped settled => exact settled.idle dummy
  | silent settled => exact settled.idle dummy
  | concluded settled concluded =>
    refine (settled.idle dummy).trans ?_
    -- an acknowledgment changes the channel and what counts acknowledgments
    cases concluded with
    | withheld _ => exact ⟨rfl, rfl, rfl, rfl, rfl⟩
    | sent _ _ => exact ⟨rfl, rfl, rfl, rfl, rfl⟩
    | failed _ _ => exact ⟨rfl, rfl, rfl, rfl, rfl⟩

theorem idle_of_calls {relay last : Relay State}
    {history : List (Relay State × Except RelayFault Outcome)} (dummy : relay.dummy = true)
    (calls : Calls relay history last) : Idle relay last := by
  -- on the calls, none of which changes where the relay stops
  induction calls with
  | nothing relay => exact ⟨rfl, rfl, rfl, rfl, rfl⟩
  | call called _ ih =>
    exact (idle_of_step dummy called).trans (ih ((keeps_of_step called).dummy.trans dummy))

/-! ## The codec of a relay that stops at headers -/

/-- The relay with another codec. -/
def withCodec (relay : Relay State) (codec : Codec State') (codecState : State') : Relay State' :=
  { relay with codec, codecState }

/-- The codec has no part in answering. -/
theorem blind_withCodec (codec : Codec State') (codecState : State') :
    Blind fun relay : Relay State => relay.withCodec codec codecState where
  role := fun _ => rfl
  ackSkipped := fun _ => rfl
  countSkip := fun _ _ => rfl
  replied := by
    intro relay envelope
    unfold replied
    rw [show (relay.withCodec codec codecState).role = relay.role from rfl]
    split
    · rfl
    · rfl

/-- Two relays that stop at headers and differ in their codecs alone. -/
structure CodecApart (codec : Codec State') (codecState : State') (one : Relay State)
    (two : Relay State') : Prop where
  alike : two = one.withCodec codec codecState
  stops : one.dummy = true
  sends : one.channel.sendFault = none

/-- Calls of such relays come to the same. -/
theorem CodecApart.inStep {codec : Codec State'} {codecState : State'} {one : Relay State}
    {two : Relay State'} (apart : CodecApart codec codecState one two) :
    InStep (CodecApart codec codecState) (fun outcome outcome' => outcome' = outcome)
      one.step.value two.step.value := by
  obtain ⟨rfl, stops, sends⟩ := apart
  have parts : InStep (fun first second => second = first.withCodec codec codecState)
      (fun outcome outcome' => outcome' = outcome) one.step.value
      (one.withCodec codec codecState).step.value := by
    refine inStep_of_parts rfl sends sends ?_ ?_ ?_ ?_ ?_ ?_
    · intro frames _ _
      rfl
    · intro outcome _ _
      rfl
    · intro rest
      rfl
    · intro rest
      rfl
    · intro rest kind
      rfl
    · intro frames rest envelope _ _
      -- a burst is judged by its header alone, and no codec has a part in that
      have verdicts : (((one.withCodec codec codecState).taking rest).judge envelope).value =
          (((one.taking rest).judge envelope).value.1,
            ((one.taking rest).judge envelope).value.2.withCodec codec codecState) := by
        have dummy : (one.taking rest).dummy = true := stops
        rw [value_judge, value_judge, dummy,
          show ((one.withCodec codec codecState).taking rest).dummy = true from stops,
          show ((one.withCodec codec codecState).taking rest).bound = (one.taking rest).bound from rfl]
        cases Reference.header (one.taking rest).bound envelope.payload with
        | error fault => rfl
        | ok burst => rfl
      rw [verdicts]
      dsimp only
      rw [(blind_withCodec codec codecState).answered]
      refine inStep_of_eq ?_ rfl rfl
      intro outcome
      rfl
  refine parts.imp ?_ (fun _ _ same => same)
  intro alike
  have keeps := one.keeps_of_step rfl
  exact ⟨alike, keeps.dummy.trans stops, keeps.sendFault.trans sends⟩

/-- A relay that stops at headers runs as it would with any other codec: its own is never used. -/
theorem run_withCodec {relay : Relay State} (stops : relay.dummy = true)
    (sends : relay.channel.sendFault = none) (codec : Codec State') (codecState : State') :
    (relay.withCodec codec codecState).run.value =
      ⟨relay.run.value.outcomes, relay.run.value.result,
        relay.run.value.relay.withCodec codec codecState⟩ := by
  have paired : Paired (CodecApart codec codecState) (fun call call' => call'.2 = call.2) relay
      (relay.withCodec codec codecState) :=
    paired_of_lockstep (fun _ _ apart => apart.inStep) ⟨rfl, stops, sends⟩ rfl
  have outcomes := paired.outcomes_eq fun _ _ same => same
  have final := paired.final.alike
  have result := paired.result
  generalize (relay.withCodec codec codecState).run.value = run at *
  obtain ⟨found, ends, last⟩ := run
  dsimp only at outcomes final result
  rw [outcomes, final, result]

/-! ## The two runs -/

/-- The call on a message of a relay that goes on behind headers, and that of one that stops there. -/
structure Foretells (call dryCall : Relay State × Outcome) : Prop where
  message : dryCall.1.message = call.1.message
  admitted : (∃ acknowledged, dryCall.2 = .admitted acknowledged) ↔
    (∃ records acknowledged, call.2 = .emitted records acknowledged) ∨
      ∃ fault acknowledged, call.2 = .skipped fault acknowledged ∧
        fault.kind ∈ ["codec_failure", "size_mismatch", "container"]
  same : (∀ acknowledged, dryCall.2 ≠ .admitted acknowledged) → dryCall.2 = call.2
  acknowledged : call.2.acknowledged = true → dryCall.2.acknowledged = true

theorem foretells_of_foretold {call dryCall : Relay State × Outcome}
    (message : dryCall.1.message = call.1.message) (foretold : call.2.Foretold dryCall.2) :
    Foretells call dryCall where
  message := message
  admitted := foretold.admitted.trans call.2.opened_iff
  same := by
    intro unadmitted
    apply foretold.same
    by_cases opened : call.2.opened = true
    · obtain ⟨acknowledged, admitted⟩ := foretold.admitted.mpr opened
      exact absurd admitted (unadmitted acknowledged)
    · simpa using opened
  acknowledged := foretold.acknowledged

/-- The acknowledgments of calls, in their order. -/
def acknowledgments (history : List (Relay State × Outcome)) : List Message :=
  history.flatMap fun call =>
    if call.2.acknowledged then [call.1.message.acknowledgment] else []

/-- What a run sends, where sends work. -/
theorem Obeys.sent_run {relay : Relay State} {policy : ReplyPolicy} (obeys : relay.Obeys policy) :
    relay.run.value.relay.channel.sent.toList =
      relay.channel.sent.toList ++ acknowledgments relay.history := by
  obtain ⟨sent, acknowledged⟩ := obeys.run
  rw [sent]
  congr 1
  apply List.flatMap_congr
  intro call member
  rw [acknowledged call member]
  rfl

/-- An acknowledgment that is foretold has its place among the others. -/
theorem sublist_acknowledgments {history dryHistory : List (Relay State × Outcome)}
    (calls : List.Forall₂ Foretells history dryHistory) :
    (acknowledgments history).Sublist (acknowledgments dryHistory) := by
  -- on the calls in step: each adds its acknowledgment to both lists, to the second, or to none
  induction calls with
  | nil => exact List.Sublist.refl _
  | @cons call dryCall history dryHistory foretells _ ih =>
    show List.Sublist
      ((if call.2.acknowledged then [call.1.message.acknowledgment] else []) ++
        acknowledgments history)
      ((if dryCall.2.acknowledged then [dryCall.1.message.acknowledgment] else []) ++
        acknowledgments dryHistory)
    refine List.Sublist.append ?_ ih
    by_cases acknowledged : call.2.acknowledged = true
    · rw [if_pos acknowledged, if_pos (foretells.acknowledged acknowledged), foretells.message]
    · rw [if_neg acknowledged]
      exact List.nil_sublist _

/-- What stopping at headers takes from a run: all work, and nothing else. -/
structure WorkFree (relay : Relay State) : Prop where
  /-- No call is work, whether it succeeds or not. -/
  calls : ∀ history last, Calls relay history last → Idle relay last
  run : Idle relay relay.run.value.relay
  /-- The codec is never used: whatever it is and whatever state it keeps, that state stays as it was,
  and the rest of the run is the same. -/
  codec : ∀ {Other : Type} (codec : Codec Other) (codecState : Other),
    (relay.withCodec codec codecState).run.value =
      ⟨relay.run.value.outcomes, relay.run.value.result,
        relay.run.value.relay.withCodec codec codecState⟩

theorem workFree_of_dummy {relay : Relay State} (stops : relay.dummy = true)
    (sends : relay.channel.sendFault = none) : WorkFree relay where
  calls := fun _ _ calls => idle_of_calls stops calls
  run := by
    obtain ⟨fault, failed, -⟩ := relay.fails_last
    have before := idle_of_calls stops relay.serves_history.calls
    -- the call that ends the run fails, and is no work either
    have behind := relay.serves_history.keeps.dummy.trans stops
    exact before.trans (idle_of_step behind failed)
  codec := fun codec codecState => run_withCodec stops sends codec codecState

/-- The run of a relay that stops at headers foretells the run of another one, on channels that sent
the same before. -/
structure HeadersForetell (before : List Message) (full dry : Relay State) : Prop where
  /-- The histories of the relays are those of their runs. -/
  outcomes : full.run.value.outcomes = full.history.map Prod.snd ∧
    dry.run.value.outcomes = dry.history.map Prod.snd
  /-- Message by message, what the one admits is what the other opens, and the rest is the same. -/
  calls : List.Forall₂ Foretells full.history dry.history
  /-- Behind these messages both fail with the same fault. -/
  ends : ∃ fault, full.last.step.value = (.error fault, full.run.value.relay) ∧
    dry.last.step.value = (.error fault, dry.run.value.relay)
  result : dry.run.value.result = full.run.value.result
  /-- What is sent are the acknowledgments. -/
  sent : full.run.value.relay.channel.sent.toList = before ++ acknowledgments full.history
  sentDry : dry.run.value.relay.channel.sent.toList = before ++ acknowledgments dry.history
  /-- Acknowledgments of the one are acknowledgments of the other, and in the same order. -/
  order : (acknowledgments full.history).Sublist (acknowledgments dry.history)
  workFree : WorkFree dry

theorem headersForetell_of_foresees {before : List Message} {full dry : Relay State}
    {policy : ReplyPolicy} (foresees : Foresees full dry) (obeys : full.Obeys policy)
    (obeysDry : dry.Obeys policy) (sent : full.channel.sent.toList = before)
    (sentDry : dry.channel.sent.toList = before) : HeadersForetell before full dry := by
  have paired : Paired Foresees Foretells full dry := by
    refine paired_of_lockstep ?_ foresees foresees.queue
    intro one two foresees
    refine foresees.inStep.imp (fun still => still) ?_
    rintro outcome dryOutcome ⟨message, foretold⟩
    exact foretells_of_foretold message foretold
  have calls : List.Forall₂ Foretells full.history dry.history :=
    paired.history.imp fun _ _ both => both.2
  have replies := obeys.sent_run
  rw [sent] at replies
  have repliesDry := obeysDry.sent_run
  rw [sentDry] at repliesDry
  refine ⟨⟨full.outcomes_run, dry.outcomes_run⟩, calls, ?_, paired.result.symm, replies, repliesDry,
    sublist_acknowledgments calls, workFree_of_dummy foresees.stops foresees.sends⟩
  -- the last calls both fail, and what keeps the two in step says that it is with the same fault
  obtain ⟨fault, failed, -⟩ := full.fails_last
  obtain ⟨faultDry, failedDry, -⟩ := dry.fails_last
  have inStep := paired.last.inStep
  rw [failed, failedDry] at inStep
  cases inStep with
  | fails _ => exact ⟨fault, failed, failedDry⟩

/-- Two relays that differ in nothing but that one of them stops at headers both fail to start for the
same reason, or the run of that one foretells the run of the other, as long as memory is granted up to
the bound, sends work and the sink accepts everything. -/
theorem headers_foretell {settings : Settings} {allocator : Allocator} {codec : Codec State}
    {codecState : State} {channel : Channel} {sink : Sink}
    (grants : ∀ requests capacity, capacity ≤ settings.bound.toNat →
      allocator requests capacity = none)
    (sends : channel.sendFault = none) (finished : channel.unfinished = [])
    (accepts : sink.behaviour.Accepts) :
    (∃ fault, ∀ dummy,
        (start (settings.stopping dummy) allocator codec codecState channel sink).value =
          .error fault) ∨
      ∃ full dry,
        (start (settings.stopping false) allocator codec codecState channel sink).value = .ok full ∧
        (start (settings.stopping true) allocator codec codecState channel sink).value = .ok dry ∧
        HeadersForetell channel.sent.toList full dry := by
  cases made : Buffer.ofCapacity allocator settings.decompression.initialCapacity.toNat with
  | error fault =>
    refine .inl ⟨.allocation fault, ?_⟩
    intro dummy
    exact start_of_refused codec codecState channel sink made
  | ok buffer =>
    have madeFull : Buffer.ofCapacity allocator
        (settings.stopping false).decompression.initialCapacity.toNat = .ok buffer := made
    have madeDry : Buffer.ofCapacity allocator
        (settings.stopping true).decompression.initialCapacity.toNat = .ok buffer := made
    obtain ⟨full, started⟩ := start_of_made codec codecState channel sink madeFull
    obtain ⟨dry, startedDry⟩ := start_of_made codec codecState channel sink madeDry
    have dependable := dependable_of_start started grants sends accepts
    refine .inr ⟨full, dry, started, startedDry, ?_⟩
    obtain ⟨first, -, rfl⟩ := eq_of_start started
    obtain ⟨second, -, rfl⟩ := eq_of_start startedDry
    let policy : ReplyPolicy :=
      ⟨settings.relay.role, settings.acknowledgment.ackSkipped, settings.acknowledgment.delayMs⟩
    refine @headersForetell_of_foresees _ _ _ _ policy ?_ ?_ ?_ rfl rfl
    · exact ⟨dependable, rfl, rfl, rfl, rfl, rfl, rfl, sends⟩
    · exact ⟨rfl, rfl, sends, finished⟩
    · exact ⟨rfl, rfl, sends, finished⟩

/-- A burst that is sound, one whose block is not, and one without a header: the first two are
admitted and acknowledged by the relay that stops at headers, and only the first by the other. -/
theorem headers_foretell_three_bursts :
    ∃ full dry : Relay Unit,
      (start (Settings.stopping {} false) .willing (.block .nothing) ()
        (Channel.pushMessage (Channel.pushMessage (Channel.pushMessage {}
          [[7], [8], [2, 0, 0, 0, 3, 0, 0, 0, 32, 65, 66]])
          [[7], [9], [2, 0, 0, 0, 1, 0, 0, 0, 0]]) [[7], [10], [1]])
        (.ofBehaviour .willing)).value = .ok full ∧
      (start (Settings.stopping {} true) .willing (.block .nothing) ()
        (Channel.pushMessage (Channel.pushMessage (Channel.pushMessage {}
          [[7], [8], [2, 0, 0, 0, 3, 0, 0, 0, 32, 65, 66]])
          [[7], [9], [2, 0, 0, 0, 1, 0, 0, 0, 0]]) [[7], [10], [1]])
        (.ofBehaviour .willing)).value = .ok dry ∧
      full.run.value.outcomes =
        [.emitted 1 true, .skipped (.burst (.codecFailure "lz4" .nothingProduced 1)) false,
          .skipped (.burst (.malformedHeader 1 none .headerOnly)) false] ∧
      dry.run.value.outcomes =
        [.admitted true, .admitted true, .skipped (.burst (.malformedHeader 1 none .headerOnly)) false] ∧
      HeadersForetell [] full dry := by
  rcases @headers_foretell Unit {} .willing (.block .nothing) ()
    (Channel.pushMessage (Channel.pushMessage (Channel.pushMessage {}
      [[7], [8], [2, 0, 0, 0, 3, 0, 0, 0, 32, 65, 66]])
      [[7], [9], [2, 0, 0, 0, 1, 0, 0, 0, 0]]) [[7], [10], [1]])
    (.ofBehaviour .willing) (fun _ _ _ => rfl) rfl rfl Sink.Behaviour.accepts_willing with
    ⟨fault, failed⟩ | ⟨full, dry, started, startedDry, foretell⟩
  · cases failed true
  · -- what the two runs come to is read off the reference
    have agrees := Reference.agrees_of_start started (fun _ _ _ => rfl) rfl rfl
      Sink.Behaviour.accepts_willing
    have agreesDry := Reference.agrees_of_start startedDry (fun _ _ _ => rfl) rfl rfl
      Sink.Behaviour.accepts_willing
    refine ⟨full, dry, started, startedDry, ?_, ?_, foretell⟩
    · exact agrees.outcomes.trans (by decide +kernel)
    · exact agreesDry.outcomes.trans (by decide +kernel)

end Relay

end BurstRelay

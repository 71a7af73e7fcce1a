import BurstRelay.Proofs.Message.Boundaries
import BurstRelay.Proofs.Relay.Accounts
import BurstRelay.Proofs.Relay.Counting

/-!
# What a skipped message changes

A message is skipped for one of seven faults, which are found at different depths: by the number of its
frames, in the header of its burst, by the codec, or in the record that the codec made. However much was
done by then, a call that skips its message changes no more than `Relay.Untouched` allows: it takes the
message from the queue, counts it, acknowledges it if that is called for, and leaves the output alone.
Only if the body was looked at may the buffer be another one, and only by what the codec left there.

That a kind is counted once more depends on the order of the tally. Calls preserve that order, whatever
comes of them (`sound_of_step`), and so does what happens to the channel between calls, so that it holds
in every state that a relay can get into (`Attained`, `sound_of_attained`).
-/

namespace BurstRelay

namespace Relay

variable {State : Type}

/-! ## States of a relay -/

/-- The states of a relay that was started: calls lead from one to the next, whatever comes of them, and
between calls anything may happen to the channel that leaves a message half sent as it is. -/
inductive Attained (first : Relay State) : Relay State → Prop
  | started : Attained first first
  | called {relay after : Relay State} {result : Except RelayFault Outcome}
      (before : Attained first relay) (call : relay.step.value = (result, after)) :
      Attained first after
  | meanwhile {relay : Relay State} {channel : Channel} (before : Attained first relay)
      (unfinished : channel.unfinished = relay.channel.unfinished) :
      Attained first { relay with channel }

/-- A relay whose tally is in order, and that has no message half sent if it had none at first. -/
structure Sound (first relay : Relay State) : Prop where
  ordered : relay.statistics.skipped.Ordered
  whole : first.channel.unfinished = [] → relay.channel.unfinished = []

theorem Accounts.sound {first relay after : Relay State} {outcomes : List Outcome}
    (books : Accounts outcomes relay after) (sound : Sound first relay) : Sound first after where
  ordered := by
    rw [books.skipped]
    exact Tally.ordered_foldl _ sound.ordered
  whole := by
    intro finished
    exact books.whole (sound.whole finished)

/-- A call that stops the relay before anything is sent counts nothing but the message. -/
theorem Settled.sound_of_stop {first relay after : Relay State} {fault : RelayFault}
    (settled : Settled relay (.stop fault) after) (sound : Sound first relay) :
    Sound first after := by
  cases settled with
  | lost _ => exact ⟨sound.ordered, sound.whole⟩
  | stopped _ _ judged =>
    obtain ⟨-, peak, statistics⟩ := judged.accounts
    refine ⟨?_, ?_⟩
    · rw [statistics]
      exact sound.ordered
    · rw [judged.frame.2]
      exact sound.whole

theorem sound_of_step {first relay after : Relay State} {result : Except RelayFault Outcome}
    (called : relay.step.value = (result, after)) (sound : Sound first relay) :
    Sound first after := by
  cases called_of_step called with
  | stopped settled => exact settled.sound_of_stop sound
  | silent settled => exact (settled.accounts rfl).sound sound
  | concluded settled concluded =>
    have ready := (settled.accounts rfl).sound sound
    cases concluded with
    | withheld _ => exact ready
    | sent active send =>
      exact ((Concluded.sent active send).accounts settled).sound sound
    | failed _ send =>
      refine ⟨ready.ordered, ?_⟩
      intro finished
      exact (Channel.sent_of_sendMessage_error (Acknowledger.reply_ne_nil _) send).2.trans
        (ready.whole finished)

theorem sound_of_attained {first relay : Relay State} (attained : Attained first relay)
    (ordered : first.statistics.skipped.Ordered) : Sound first relay := by
  induction attained with
  | started => exact ⟨ordered, fun finished => finished⟩
  | called _ call ih => exact sound_of_step call ih
  | meanwhile _ unfinished ih =>
    refine ⟨ih.ordered, ?_⟩
    intro finished
    exact unfinished.trans (ih.whole finished)

/-! ## A skipped message -/

/-- All that a call may have changed that skipped its message, from the relay before it to the relay
behind it. -/
structure Untouched (relay : Relay State) (fault : SkipFault) (acknowledged : Bool)
    (after : Relay State) : Prop where
  /-- No byte, no flush and no other call reached the sink. -/
  output : after.output = relay.output
  /-- The frames of the message are gone from the queue, with the interruptions between them. -/
  taken : ∃ arrivals, Channel.Carries relay.message arrivals ∧
    relay.channel.incoming = arrivals ++ after.channel.incoming
  /-- Nothing is sent but the acknowledgment, if the outcome tells of one. -/
  sent : after.channel.sent =
    if acknowledged then
      relay.channel.sent.push (relay.channel.unfinished ++ relay.message.acknowledgment)
    else relay.channel.sent
  unfinished : after.channel.unfinished =
    if acknowledged then [] else relay.channel.unfinished
  acknowledger : after.acknowledger =
    { relay.acknowledger with sent := relay.acknowledger.sent + acknowledged.toNat }
  /-- What is counted is the message, its fault and the acknowledgment, and the capacity is noted. -/
  statistics : ∃ peak, after.statistics = { relay.statistics with
    envelopes := relay.statistics.envelopes + 1
    skipped := relay.statistics.skipped.add fault.kind
    acksSent := relay.statistics.acksSent + acknowledged.toNat
    peakCapacity := peak }
  /-- In front of the body of a burst nothing is done to the buffer or with the codec. -/
  unopened : (Outcome.skipped fault acknowledged).opened = false →
    after.buffer = relay.buffer ∧ after.codecState = relay.codecState ∧
      after.statistics.peakCapacity = relay.statistics.peakCapacity
  keeps : relay.Keeps after

/-- The message that is taken stands at the front of the queue, and what is behind it stays. -/
theorem carries_of_taken {relay : Relay State} {frames : Message} {rest : List Arrival}
    (taken : (Channel.nextMessage #[] relay.channel.incoming).value = (.ok frames, rest)) :
    ∃ arrivals, Channel.Carries relay.message arrivals ∧ relay.channel.incoming = arrivals ++ rest := by
  obtain ⟨others, arrivals, same, carries, queue⟩ := Channel.carries_of_nextMessage taken
  obtain rfl : frames = others := same
  rw [message_of_taken taken]
  exact ⟨arrivals, carries, queue⟩

/-- A burst that is refused for its header leaves the relay as it is. -/
theorem Judged.eq_of_unopened {relay after : Relay State} {payload : Bytes} {fault : BurstFault}
    (judged : Judged relay payload (.skip fault) after) (unopened : fault.behindHeader = false) :
    after = relay := by
  cases judged with
  | refused _ => rfl
  | full _ _ verified =>
    rw [behindHeader_of_verified verified] at unopened
    cases unopened

/-- A burst that is skipped is taken from the queue and counted, whatever it was skipped for. -/
theorem Judged.untouched {relay after : Relay State} {rest : List Arrival} {frames : Message}
    {payload : Bytes} {fault : BurstFault}
    (taken : (Channel.nextMessage #[] relay.channel.incoming).value = (.ok frames, rest))
    (judged : Judged (relay.taking rest) payload (.skip fault) after) :
    Untouched relay (.burst fault) false (after.countSkip fault.kind) := by
  obtain ⟨acknowledger, peak, statistics⟩ := judged.accounts
  have channel := judged.frame.2
  refine ⟨judged.output_eq, ?_, ?_, ?_, acknowledger, ?_, ?_, ?_⟩
  · show ∃ arrivals, _ ∧ _ = arrivals ++ after.channel.incoming
    rw [channel]
    exact carries_of_taken taken
  · show after.channel.sent = _
    rw [channel]
    rfl
  · show after.channel.unfinished = _
    rw [channel]
    rfl
  · refine ⟨peak, ?_⟩
    show after.statistics.recordSkip fault.kind = _
    rw [statistics]
    rfl
  · intro unopened
    rw [judged.eq_of_unopened unopened]
    exact ⟨rfl, rfl, rfl⟩
  · exact ((keeps_taking relay rest).trans judged.frame.1).trans (keeps_countSkip after _)

/-- A message that is settled as a skipped one changed no more than it may. -/
theorem Settled.untouched {relay ready : Relay State} {settlement : Settlement} {fault : SkipFault}
    {acknowledged : Bool} (settled : Settled relay settlement ready)
    (unanswered : settlement.unanswered? = some (.skipped fault acknowledged)) :
    Untouched relay fault acknowledged ready := by
  cases settled with
  | lost _ => cases unanswered
  | stopped _ _ _ => cases unanswered
  | echo _ _ => cases unanswered
  | written _ _ _ => cases unanswered
  | admitted _ _ _ => cases unanswered
  | rejected taken _ =>
    cases unanswered
    exact ⟨rfl, carries_of_taken taken, rfl, rfl, rfl, ⟨_, rfl⟩, fun _ => ⟨rfl, rfl, rfl⟩,
      (keeps_taking relay _).trans (keeps_countSkip _ _)⟩
  | skipped taken _ judged _ =>
    cases unanswered
    exact judged.untouched taken
  | forgiven taken _ judged _ =>
    cases unanswered
    exact judged.untouched taken

/-- An acknowledgment that is sent for a skipped message is that of the message, and changes nothing
else. -/
theorem Concluded.untouched {relay ready after : Relay State} {envelope : Envelope}
    {outcome : Bool → Outcome} {fault : SkipFault} {acknowledged : Bool}
    (settled : Settled relay (.acknowledge envelope outcome) ready)
    (concluded : Concluded ready envelope outcome (.ok (.skipped fault acknowledged)) after) :
    Untouched relay fault acknowledged after := by
  have unchanged := concluded.frame
  cases settled with
  | written _ _ _ => cases concluded
  | admitted _ _ _ => cases concluded
  | forgiven taken kind judged _ =>
    have before := judged.untouched taken
    cases concluded with
    | withheld _ => exact before
    | sent _ send =>
      obtain ⟨keeps, output, buffer, codecState, incoming⟩ := unchanged
      obtain ⟨sent, finished⟩ := Channel.sent_of_sendMessage (Acknowledger.reply_ne_nil _) send
      obtain ⟨peak, statistics⟩ := before.statistics
      refine ⟨output.trans before.output, ?_, ?_, finished, ?_, ⟨peak, ?_⟩, before.unopened,
        before.keeps.trans keeps⟩
      · rw [incoming]
        exact before.taken
      · show _ = relay.channel.sent.push (relay.channel.unfinished ++ _)
        rw [message_of_taken taken, Received.acknowledgment_of_envelope kind, sent, before.sent,
          before.unfinished]
        rfl
      · rw [before.acknowledger]
        rfl
      · rw [statistics]
        rfl

/-- A call that skips its message changes no more than it may. -/
theorem untouched_of_step {relay after : Relay State} {fault : SkipFault} {acknowledged : Bool}
    (skipped : relay.step.value = (.ok (.skipped fault acknowledged), after)) :
    Untouched relay fault acknowledged after := by
  cases called_of_step skipped with
  | silent settled => exact settled.untouched rfl
  | concluded settled concluded => exact concluded.untouched settled

/-- Whatever the codec, the memory, the channel and the sink do, and whatever happened before: a call
that skips its message leaves the output alone, takes just that message from the queue, sends nothing
but the acknowledgment that the outcome tells of, and counts that and one message of the kind of its
fault. The buffer is as it was unless the body of the burst was looked at. -/
theorem skipped_messages_leave_the_rest {settings : Settings} {allocator : Allocator}
    {codec : Codec State} {codecState : State} {channel : Channel} {sink : Sink}
    {first relay after : Relay State} {fault : SkipFault} {acknowledged : Bool}
    (started : (start settings allocator codec codecState channel sink).value = .ok first)
    (attained : Attained first relay)
    (skipped : relay.step.value = (.ok (.skipped fault acknowledged), after)) :
    Untouched relay fault acknowledged after ∧
      (∀ kind, List.lookup kind after.statistics.skipped =
        if kind = fault.kind then some (relay.statistics.skipped.count fault.kind + 1)
        else List.lookup kind relay.statistics.skipped) ∧
      (channel.unfinished = [] → relay.channel.unfinished = []) := by
  obtain ⟨buffer, -, rfl⟩ := eq_of_start started
  have sound := sound_of_attained attained List.Pairwise.nil
  have untouched := untouched_of_step skipped
  refine ⟨untouched, ?_, sound.whole⟩
  intro kind
  obtain ⟨peak, statistics⟩ := untouched.statistics
  rw [statistics]
  exact Tally.lookup_add fault.kind kind sound.ordered

/-- Settings that write frames and acknowledge skipped bursts. -/
def forgiving : Settings :=
  { framing with acknowledgment := { framing.acknowledgment with ackSkipped := true } }

/-- A burst of a frame without content and of one that is cut off. -/
def brokenPair : Message := [[9], [8], [4, 0, 0, 0, 5, 0, 0, 0, 64, 10, 0, 10, 1]]

/-- Behind a burst of two frames, one whose second frame is cut off is skipped and acknowledged; not even
its first frame is written. -/
theorem broken_pair_leaves_the_rest :
    ∃ (channel : Channel) (first relay after : Relay Unit) (fault : BurstFault),
      (start forgiving .willing (.block .nothing) () channel (.ofBehaviour .willing)).value =
        .ok first ∧
      Attained first relay ∧ relay.step.value = (.ok (.skipped (.burst fault) true), after) ∧
      Untouched relay (.burst fault) true after ∧ fault.kind = "container" ∧
      relay.message = brokenPair ∧ after.channel.incoming = [] := by
  have starts : ∃ first : Relay Unit,
      (start forgiving .willing (.block .nothing) ()
        { incoming := pair.parts.map .part ++ brokenPair.parts.map .part }
        (.ofBehaviour .willing)).value = .ok first ∧
      first.channel.incoming = pair.parts.map .part ++ brokenPair.parts.map .part :=
    ⟨_, rfl, rfl⟩
  obtain ⟨first, started, queued⟩ := starts
  have tracks := Reference.tracks_of_start started (fun _ _ _ => rfl) rfl rfl
    Sink.Behaviour.accepts_willing
  obtain ⟨relay, emitted, behind, tracksRelay⟩ := exists_call tracks queued (by decide)
  rw [← List.append_nil (brokenPair.parts.map _)] at behind
  obtain ⟨after, skipped, empty, -⟩ := exists_call tracksRelay behind (by decide)
  have outcome : (Reference.message (.ofSettings forgiving)
      (Reference.message (.ofSettings forgiving) 4 pair).2 brokenPair).1.outcome =
      .skipped (.burst (.undecodable ⟨.inputTooShort, [⟨"DataBurst", "frames"⟩]⟩ 4)) true := by
    cbv
  have next : (Channel.nextMessage #[] relay.channel.incoming).value = (.ok brokenPair, []) := by
    rw [behind, Channel.nextMessage_parts #[] [] (by decide)]
    rfl
  have skips := skipped.trans (congrArg (fun outcome => (Except.ok outcome, after)) outcome)
  have attained : Attained first relay := .called .started emitted
  obtain ⟨untouched, -, -⟩ := skipped_messages_leave_the_rest started attained skips
  exact ⟨_, first, relay, after, _, started, attained, skips, untouched, rfl,
    message_of_taken next, empty⟩

end Relay

end BurstRelay

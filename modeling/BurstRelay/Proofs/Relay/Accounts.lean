import BurstRelay.Proofs.Relay.Interference
import BurstRelay.Proofs.Relay.Replies
import BurstRelay.Proofs.Relay.Tally

/-!
# What the statistics account for

The counters of a relay are raised in several places: some when a message is received, some when its
burst is judged, some when it is acknowledged. `Relay.Accounts` says what they come to over calls that
have these outcomes, as the difference between the relay before the calls and the relay behind them.
One call accounts for its own outcome (`accounts_of_step`), and calls in a row account for theirs one
after the other (`accounts_of_serves`), so that the books of a fresh relay are its outcomes counted
(`Accounts.conserved`).

A call settles its message before it acknowledges it, and what it settled is on the books by then as
a message that was not acknowledged (`Settled.accounts`). That sends fail is not excluded: the call in
which one does is not among those that succeed.
-/

namespace BurstRelay

namespace Outcome

/-- The kind under which a message with this outcome is counted as skipped, if it is. -/
def skipKind? : Outcome → Option String
  | skipped fault _ => some fault.kind
  | emitted .. | admitted _ | ackEcho => none

/-- Whether only the header of the burst was checked. -/
def isAdmitted : Outcome → Bool
  | admitted _ => true
  | emitted .. | skipped .. | ackEcho => false

/-- The output records that were written for a message with this outcome. -/
def records : Outcome → Nat
  | emitted records _ => records
  | admitted _ | skipped .. | ackEcho => 0

/-- Every message is emitted, admitted, skipped under some kind or an echo, and only one of these. -/
theorem length_eq (outcomes : List Outcome) :
    outcomes.length = outcomes.countP isEmitted + outcomes.countP isAdmitted +
      (outcomes.filterMap skipKind?).length + outcomes.count .ackEcho := by
  induction outcomes with
  | nil => rfl
  | cons outcome outcomes ih =>
    rw [List.length_cons, ih, List.countP_cons, List.countP_cons, List.filterMap_cons,
      List.count_cons]
    cases outcome with
    | emitted records acknowledged =>
      simp [isEmitted, isAdmitted, skipKind?]
      omega
    | admitted acknowledged =>
      simp [isEmitted, isAdmitted, skipKind?]
      omega
    | skipped fault acknowledged =>
      simp [isEmitted, isAdmitted, skipKind?]
      omega
    | ackEcho =>
      simp [isEmitted, isAdmitted, skipKind?]
      omega

end Outcome

/-- The records that a verdict counts. -/
def Verdict.records : Verdict → Nat
  | written records => records
  | headerOnly | skip _ | stop _ => 0

namespace Relay

variable {State : Type}

/-- What is counted over calls with these outcomes, from the relay before them to the one behind. -/
structure Accounts (outcomes : List Outcome) (relay after : Relay State) : Prop where
  envelopes : after.statistics.envelopes = relay.statistics.envelopes + outcomes.length
  skipped : after.statistics.skipped =
    (outcomes.filterMap Outcome.skipKind?).foldl (fun tally kind => tally.add kind)
      relay.statistics.skipped
  ackEchoes : after.statistics.ackEchoes = relay.statistics.ackEchoes + outcomes.count .ackEcho
  recordsEmitted : after.statistics.recordsEmitted =
    relay.statistics.recordsEmitted + (outcomes.map Outcome.records).sum
  acksSent : after.statistics.acksSent =
    relay.statistics.acksSent + outcomes.countP Outcome.acknowledged
  /-- What the acknowledger counts for itself. -/
  acknowledger : after.acknowledger.sent =
    relay.acknowledger.sent + outcomes.countP Outcome.acknowledged
  /-- The complete messages that the channel sent. -/
  sent : after.channel.sent.size =
    relay.channel.sent.size + outcomes.countP Outcome.acknowledged
  whole : relay.channel.unfinished = [] → after.channel.unfinished = []

theorem Accounts.nil (relay : Relay State) : Accounts [] relay relay :=
  ⟨rfl, rfl, rfl, rfl, rfl, rfl, rfl, fun whole => whole⟩

theorem Accounts.append {first second : List Outcome} {relay middle after : Relay State}
    (before : Accounts first relay middle) (behind : Accounts second middle after) :
    Accounts (first ++ second) relay after where
  envelopes := by
    rw [behind.envelopes, before.envelopes, List.length_append, Nat.add_assoc]
  skipped := by
    rw [behind.skipped, before.skipped, List.filterMap_append, List.foldl_append]
  ackEchoes := by
    rw [behind.ackEchoes, before.ackEchoes, List.count_append, Nat.add_assoc]
  recordsEmitted := by
    rw [behind.recordsEmitted, before.recordsEmitted, List.map_append, List.sum_append,
      Nat.add_assoc]
  acksSent := by
    rw [behind.acksSent, before.acksSent, List.countP_append, Nat.add_assoc]
  acknowledger := by
    rw [behind.acknowledger, before.acknowledger, List.countP_append, Nat.add_assoc]
  sent := by
    rw [behind.sent, before.sent, List.countP_append, Nat.add_assoc]
  whole := by
    intro unfinished
    exact behind.whole (before.whole unfinished)

/-! ## Settling a message -/

/-- Verifying a burst counts its records and the capacity. -/
theorem Verified.accounts {relay after : Relay State} {burst : Payload} {verdict : Verdict}
    (verified : Verified relay burst verdict after) :
    after.acknowledger = relay.acknowledger ∧ ∃ peak, after.statistics = { relay.statistics with
      recordsEmitted := relay.statistics.recordsEmitted + verdict.records
      peakCapacity := peak } := by
  -- unpacking can raise the peak, and only a record that is written counts beside that
  obtain ⟨peak, statistics⟩ := relay.statistics_unpacked burst
  cases verified with
  | starved unpack =>
    rw [(eq_unpacked unpack).2]
    exact ⟨rfl, peak, statistics⟩
  | unsound unpack =>
    rw [(eq_unpacked unpack).2]
    exact ⟨rfl, peak, statistics⟩
  | undecodable unpack _ =>
    rw [(eq_unpacked unpack).2]
    exact ⟨rfl, peak, statistics⟩
  | written unpack _ _ _ _ =>
    rw [(eq_unpacked unpack).2]
    refine ⟨rfl, peak, ?_⟩
    dsimp only
    rw [statistics]
    rfl
  | torn unpack _ _ _ _ =>
    rw [(eq_unpacked unpack).2]
    exact ⟨rfl, peak, statistics⟩

theorem Judged.accounts {relay after : Relay State} {payload : Bytes} {verdict : Verdict}
    (judged : Judged relay payload verdict after) :
    after.acknowledger = relay.acknowledger ∧ ∃ peak, after.statistics = { relay.statistics with
      recordsEmitted := relay.statistics.recordsEmitted + verdict.records
      peakCapacity := peak } := by
  cases judged with
  | refused _ => exact ⟨rfl, _, rfl⟩
  | header _ _ => exact ⟨rfl, _, rfl⟩
  | full _ _ verified => exact verified.accounts

/-- A burst that is good puts its records on the books. -/
theorem Judged.accounts_of_good {relay after : Relay State} {rest : List Arrival} {payload : Bytes}
    {verdict : Verdict} {outcome : Outcome}
    (judged : Judged (relay.taking rest) payload verdict after)
    (records : outcome.records = verdict.records) (kept : outcome.skipKind? = none)
    (answered : outcome ≠ .ackEcho) (silent : outcome.acknowledged = false) :
    Accounts [outcome] relay after := by
  obtain ⟨acknowledger, peak, statistics⟩ := judged.accounts
  have channel := judged.frame.2
  refine ⟨?_, ?_, ?_, ?_, ?_, ?_, ?_, ?_⟩
  · rw [statistics]
    rfl
  · rw [statistics, List.filterMap_cons, kept]
    rfl
  · rw [statistics, List.count_singleton, if_neg (by simpa using answered)]
    rfl
  · rw [statistics, ← records]
    rfl
  · rw [statistics, List.countP_singleton, silent]
    rfl
  · rw [acknowledger, List.countP_singleton, silent]
    rfl
  · rw [channel, List.countP_singleton, silent]
    rfl
  · rw [channel]
    exact fun whole => whole

/-- A burst that is skipped puts the kind of its fault on the books. -/
theorem Judged.accounts_of_skip {relay after : Relay State} {rest : List Arrival} {payload : Bytes}
    {fault : BurstFault} (judged : Judged (relay.taking rest) payload (.skip fault) after) :
    Accounts [.skipped (.burst fault) false] relay (after.countSkip fault.kind) := by
  obtain ⟨acknowledger, peak, statistics⟩ := judged.accounts
  have channel := judged.frame.2
  refine ⟨?_, ?_, ?_, ?_, ?_, ?_, ?_, ?_⟩
  · show after.statistics.envelopes = _
    rw [statistics]
    rfl
  · show after.statistics.skipped.add fault.kind = _
    rw [statistics]
    rfl
  · show after.statistics.ackEchoes = _
    rw [statistics]
    rfl
  · show after.statistics.recordsEmitted = _
    rw [statistics]
    rfl
  · show after.statistics.acksSent = _
    rw [statistics]
    rfl
  · show after.acknowledger.sent = _
    rw [acknowledger]
    rfl
  · show after.channel.sent.size = _
    rw [channel]
    rfl
  · show _ → after.channel.unfinished = []
    rw [channel]
    exact fun whole => whole

/-- A message that is settled is on the books as one that nothing was sent for. -/
theorem Settled.accounts {relay ready : Relay State} {settlement : Settlement} {outcome : Outcome}
    (settled : Settled relay settlement ready) (unanswered : settlement.unanswered? = some outcome) :
    Accounts [outcome] relay ready := by
  cases settled with
  | lost _ => cases unanswered
  | stopped _ _ _ => cases unanswered
  | echo _ _ =>
    cases unanswered
    exact ⟨rfl, rfl, rfl, rfl, rfl, rfl, rfl, fun whole => whole⟩
  | rejected _ _ =>
    cases unanswered
    exact ⟨rfl, rfl, rfl, rfl, rfl, rfl, rfl, fun whole => whole⟩
  | written _ _ judged =>
    cases unanswered
    exact judged.accounts_of_good rfl rfl nofun rfl
  | admitted _ _ judged =>
    cases unanswered
    exact judged.accounts_of_good rfl rfl nofun rfl
  | skipped _ _ judged _ =>
    cases unanswered
    exact judged.accounts_of_skip
  | forgiven _ _ judged _ =>
    cases unanswered
    exact judged.accounts_of_skip

/-! ## Acknowledging it -/

/-- A message that is acknowledged is on the books as one that is not, but for the acknowledgment. -/
theorem Settled.answers {relay ready : Relay State} {envelope : Envelope} {outcome : Bool → Outcome}
    (settled : Settled relay (.acknowledge envelope outcome) ready) :
    (outcome true).skipKind? = (outcome false).skipKind? ∧
      (outcome true).records = (outcome false).records ∧
      (outcome true = .ackEcho ↔ outcome false = .ackEcho) ∧
      ∀ acknowledged, (outcome acknowledged).acknowledged = acknowledged := by
  cases settled with
  | written _ _ _ => exact ⟨rfl, rfl, ⟨nofun, nofun⟩, fun _ => rfl⟩
  | admitted _ _ _ => exact ⟨rfl, rfl, ⟨nofun, nofun⟩, fun _ => rfl⟩
  | forgiven _ _ _ _ => exact ⟨rfl, rfl, ⟨nofun, nofun⟩, fun _ => rfl⟩

/-- An acknowledgment that is sent is counted by the relay and by what sends it, and it is one whole
message. -/
theorem Concluded.accounts {relay ready after : Relay State} {envelope : Envelope}
    {outcome : Bool → Outcome} {found : Outcome}
    (settled : Settled relay (.acknowledge envelope outcome) ready)
    (concluded : Concluded ready envelope outcome (.ok found) after) :
    Accounts [found] relay after := by
  -- on the books by now as a message without an acknowledgment; one that is sent is added to that
  have books : Accounts [outcome false] relay ready := settled.accounts rfl
  obtain ⟨kind, records, echo, acknowledged⟩ := settled.answers
  cases concluded with
  | withheld _ => exact books
  | sent _ send =>
    obtain ⟨sent, whole⟩ := Channel.sent_of_sendMessage (Acknowledger.reply_ne_nil envelope) send
    have before : [outcome false].countP Outcome.acknowledged = 0 := by
      rw [List.countP_singleton, acknowledged]
      rfl
    have now : [outcome true].countP Outcome.acknowledged = 1 := by
      rw [List.countP_singleton, acknowledged]
      rfl
    refine ⟨books.envelopes, ?_, ?_, ?_, ?_, ?_, ?_, ?_⟩
    · rw [List.filterMap_cons, kind]
      exact books.skipped
    · have same : [outcome true].count .ackEcho = [outcome false].count .ackEcho := by
        simp only [List.count_singleton, beq_iff_eq, echo]
      rw [same]
      exact books.ackEchoes
    · rw [List.map_singleton, records]
      exact books.recordsEmitted
    · show ready.statistics.acksSent + 1 = _
      rw [books.acksSent, before, now]
    · show ready.acknowledger.sent + 1 = _
      rw [books.acknowledger, before, now]
    · show _ = relay.channel.sent.size + _
      rw [sent, Array.size_push, books.sent, before, now]
    · intro _
      exact whole

/-! ## Calls -/

/-- A call that succeeds accounts for its outcome. -/
theorem accounts_of_step {relay after : Relay State} {outcome : Outcome}
    (called : relay.step.value = (.ok outcome, after)) : Accounts [outcome] relay after := by
  cases called_of_step called with
  | silent settled => exact settled.accounts rfl
  | concluded settled concluded => exact concluded.accounts settled

/-- Calls in a row account for their outcomes. -/
theorem accounts_of_serves {relay last : Relay State} {history : List (Relay State × Outcome)}
    (serves : Serves relay history last) : Accounts (history.map Prod.snd) relay last := by
  -- on the calls: the entry of the first one comes before those of the others
  induction serves with
  | nothing relay => exact .nil relay
  | call called _ ih => exact (accounts_of_step called).append ih

/-! ## The books of a fresh relay -/

/-- The books of a relay that was started on this channel and made calls with these outcomes. -/
structure Conserved (channel : Channel) (outcomes : List Outcome) (relay : Relay State) :
    Prop where
  calls : relay.statistics.envelopes = outcomes.length
  /-- No message is counted twice or not at all. -/
  conserved : relay.statistics.envelopes = outcomes.countP Outcome.isEmitted +
    outcomes.countP Outcome.isAdmitted + relay.statistics.skipped.total + relay.statistics.ackEchoes
  /-- Each kind of fault has the number of messages that were skipped for it, and no other kind has
  an entry. -/
  skipped : ∀ kind, List.lookup kind relay.statistics.skipped =
    if (outcomes.filterMap Outcome.skipKind?).count kind = 0 then none
    else some ((outcomes.filterMap Outcome.skipKind?).count kind)
  /-- No kind has two entries. -/
  ordered : relay.statistics.skipped.Ordered
  skippedTotal : relay.statistics.skipped.total = (outcomes.filterMap Outcome.skipKind?).length
  ackEchoes : relay.statistics.ackEchoes = outcomes.count .ackEcho
  recordsEmitted : relay.statistics.recordsEmitted = (outcomes.map Outcome.records).sum
  acksSent : relay.statistics.acksSent = outcomes.countP Outcome.acknowledged
  acknowledger : relay.acknowledger.sent = outcomes.countP Outcome.acknowledged
  /-- Every acknowledgment is one more message on the channel. -/
  sent : relay.channel.sent.size =
    channel.sent.size + outcomes.countP Outcome.acknowledged
  whole : relay.channel.unfinished = []

/-- What is counted from nothing on is what the outcomes come to. -/
theorem Accounts.conserved {outcomes : List Outcome} {relay last : Relay State} {peak : Nat}
    (books : Accounts outcomes relay last) (blank : relay.statistics = { peakCapacity := peak })
    (unsent : relay.acknowledger.sent = 0) (finished : relay.channel.unfinished = []) :
    Conserved relay.channel outcomes last := by
  have calls : last.statistics.envelopes = outcomes.length := by
    rw [books.envelopes, blank]
    exact Nat.zero_add _
  have echoes : last.statistics.ackEchoes = outcomes.count .ackEcho := by
    rw [books.ackEchoes, blank]
    exact Nat.zero_add _
  have counts : (last.statistics.skipped).Counts (outcomes.filterMap Outcome.skipKind?) := by
    rw [books.skipped, blank]
    exact Tally.Counts.nil.foldl _
  refine ⟨calls, ?_, counts.lookup, counts.ordered, counts.total, echoes, ?_, ?_, ?_, books.sent,
    books.whole finished⟩
  · rw [calls, counts.total, echoes]
    exact Outcome.length_eq outcomes
  · rw [books.recordsEmitted, blank]
    exact Nat.zero_add _
  · rw [books.acksSent, blank]
    exact Nat.zero_add _
  · rw [books.acknowledger, unsent]
    exact Nat.zero_add _

/-- A call that receives nothing counts nothing. -/
theorem uncounted_of_lost (relay : Relay State) {fault : TransportFault}
    (lost : (Received.read relay.role relay.channel).value.1 = .error fault) :
    ∃ after, relay.step.value = (.error (.transport fault), after) ∧
      after.statistics = relay.statistics ∧ after.acknowledger = relay.acknowledger ∧
      after.output = relay.output := by
  cases next : (Channel.nextMessage #[] relay.channel.incoming).value with
  | mk result rest =>
    cases result with
    | error cause =>
      rw [value_read_of_lost relay.role next] at lost
      cases lost
      exact ⟨_, Reference.call_of_lost next, rfl, rfl, rfl⟩
    | ok frames =>
      rw [value_read_of_taken relay.role next] at lost
      cases lost

/-- The counters of a relay are its outcomes counted, whatever the codec, the memory, the channel and
the sink do, as long as every call succeeds; and no relay counts anything in a call that receives
nothing. -/
theorem statistics_conserve_messages {settings : Settings} {allocator : Allocator}
    {codec : Codec State} {codecState : State} {channel : Channel} {sink : Sink}
    {relay last : Relay State} {history : List (Relay State × Outcome)}
    (started : (start settings allocator codec codecState channel sink).value = .ok relay)
    (finished : channel.unfinished = []) (serves : Serves relay history last) :
    Conserved channel (history.map Prod.snd) last ∧
      ∀ (other : Relay State) (fault : TransportFault),
        (Received.read other.role other.channel).value.1 = .error fault →
          ∃ after, other.step.value = (.error (.transport fault), after) ∧
            after.statistics = other.statistics ∧ after.acknowledger = other.acknowledger ∧
            after.output = other.output := by
  obtain ⟨buffer, -, rfl⟩ := eq_of_start started
  refine ⟨(accounts_of_serves serves).conserved rfl rfl finished, ?_⟩
  intro other fault lost
  exact other.uncounted_of_lost lost

/-- The books behind an envelope that is too short and a burst that is emitted; the call behind these
finds nothing and counts nothing. -/
theorem messages_conserved_behind_two :
    ∃ (allocator : Allocator) (leavings : Codec.Leavings) (channel : Channel) (sink : Sink)
        (relay middle last : Relay Unit),
      (start cramped allocator (.block leavings) () channel sink).value = .ok relay ∧
      Serves relay [(relay, .skipped (.shortEnvelope 1) false), (middle, .emitted 1 true)] last ∧
      Conserved channel [.skipped (.shortEnvelope 1) false, .emitted 1 true] last ∧
      ∃ after, last.step.value = (.error (.transport .closed), after) ∧
        after.statistics = last.statistics := by
  obtain ⟨relay, queued, reached, tracks⟩ := exists_cramped
    ((Message.parts [[7]]).map .part ++
      (Message.parts [[7], [8], [2, 0, 0, 0, 3, 0, 0, 0, 32, 65, 66]]).map .part)
  obtain ⟨allocator, leavings, channel, sink, _, started, -, -, finished, -, fresh⟩ := reached
  cases fresh
  obtain ⟨middle, short, behind, tracksMiddle⟩ := exists_call tracks queued (by simp)
  obtain ⟨last, emitted, empty, -⟩ := exists_call tracksMiddle
    (behind.trans (List.append_nil _).symm) (by simp)
  have serves : Serves relay [(relay, .skipped (.shortEnvelope 1) false),
      (middle, .emitted 1 true)] last := .call short (.call emitted (.nothing last))
  have lost : (Received.read last.role last.channel).value.1 = .error .closed := by
    have nothing : (Channel.nextMessage #[] last.channel.incoming).value = (.error .closed, []) := by
      rw [empty]
      rfl
    rw [value_read_of_lost last.role nothing]
  obtain ⟨books, uncounted⟩ := statistics_conserve_messages started finished serves
  obtain ⟨after, called, statistics, -, -⟩ := uncounted last .closed lost
  exact ⟨allocator, leavings, channel, sink, relay, middle, last, started, serves, books, after, called,
    statistics⟩

end Relay

end BurstRelay

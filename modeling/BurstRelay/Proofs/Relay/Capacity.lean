import BurstRelay.Proofs.Relay.Dependable
import BurstRelay.Proofs.Relay.Headers
import BurstRelay.Proofs.Relay.Interference

/-!
# The capacity of the buffer

A producer says how much memory its burst takes, and the buffer grows to that. What keeps a producer
from asking for all of the memory is that the header is checked first: `Relay.reaches` is the size
that the next message takes, and there is none unless the header of its burst is accepted. A call
raises the capacity to that size and does nothing else to it (`Spans`, `spans_of_step`), whatever
comes of the burst behind its header and whether the call succeeds or not.

So the capacity is the largest of the sizes that the messages so far have taken
(`capacity_of_calls`), and it is known in advance how large it can get.
-/

namespace BurstRelay

namespace Relay

variable {State : Type}

/-- The size that a burst takes: what its header declares, if there is memory for that. -/
def taken (relay : Relay State) (burst : Payload) : Option Nat :=
  if relay.buffer.Granted burst.header.declaredUncompressed.toNat then
    some burst.header.declaredUncompressed.toNat
  else none

/-- The size that the burst in a payload takes, if its header is accepted and the relay does not stop
at headers. -/
def room (relay : Relay State) (payload : Bytes) : Option Nat :=
  match Reference.header relay.bound payload with
  | .error _ => none
  | .ok burst => if relay.dummy then none else relay.taken burst

/-- The size that the next message takes, if it takes any. -/
def reaches (relay : Relay State) : Option Nat :=
  match (Channel.nextMessage #[] relay.channel.incoming).value.1 with
  | .error _ => none
  | .ok frames =>
    match Received.classify relay.role frames with
    | .envelope envelope => relay.room envelope.payload
    | .acknowledgment .. | .rejected _ => none

/-- What happens to the size of the buffer when so much is taken, and the message is settled in front
of the body of its burst or behind it. -/
structure Spans (size : Option Nat) (opened : Option Bool) (relay after : Relay State) : Prop where
  capacity : after.buffer.capacity = max relay.buffer.capacity (size.getD 0)
  peak : relay.statistics.peakCapacity = relay.buffer.capacity →
    after.statistics.peakCapacity = after.buffer.capacity
  /-- A body is looked at exactly if something is taken for it. -/
  looked : ∀ body, opened = some body → body = size.isSome
  untouched : opened = some false → after.buffer = relay.buffer

/-- Whoever takes nothing and leaves the buffer alone leaves its size alone. -/
theorem Spans.of_same {opened : Option Bool} {relay after : Relay State}
    (buffer : after.buffer = relay.buffer)
    (peak : after.statistics.peakCapacity = relay.statistics.peakCapacity)
    (closed : opened ≠ some true) : Spans none opened relay after where
  capacity := by
    rw [buffer]
    exact (Nat.max_zero _).symm
  peak := by
    intro same
    rw [peak, buffer]
    exact same
  looked := by
    intro body shown
    cases body with
    | true => exact absurd shown closed
    | false => rfl
  untouched := by
    intro _
    exact buffer

/-- Taking a message from the queue has no part in the size of the buffer. -/
theorem Spans.of_taking {size : Option Nat} {opened : Option Bool} {relay after : Relay State}
    {rest : List Arrival} (spans : Spans size opened (relay.taking rest) after) :
    Spans size opened relay after :=
  ⟨spans.capacity, spans.peak, spans.looked, spans.untouched⟩

theorem Spans.countSkip {size : Option Nat} {opened : Option Bool} {relay after : Relay State}
    (spans : Spans size opened relay after) (kind : String) :
    Spans size opened relay (after.countSkip kind) :=
  ⟨spans.capacity, spans.peak, spans.looked, spans.untouched⟩

/-! ## Unpacking -/

/-- Granted memory is taken, whatever the codec makes of the body. -/
theorem unpacked_of_granted {relay : Relay State} {burst : Payload}
    (granted : relay.buffer.Granted burst.header.declaredUncompressed.toNat) :
    (∀ fault, (relay.codec.unpack relay.codecState relay.buffer burst).unpacking ≠ .stop fault) ∧
      (relay.unpacked burst).buffer.capacity =
        max relay.buffer.capacity burst.header.declaredUncompressed.toNat ∧
      (relay.unpacked burst).statistics =
        relay.statistics.observeCapacity
          (max relay.buffer.capacity burst.header.declaredUncompressed.toNat) := by
  obtain ⟨grown, ensured, region⟩ := Buffer.ensure_of_granted granted
  have capacity : grown.capacity =
      max relay.buffer.capacity burst.header.declaredUncompressed.toNat := by
    show grown.region.size = _
    rw [region]
    rfl
  unfold unpacked Codec.unpack
  simp only [ensured]
  cases (burst.decompress relay.codec relay.codecState grown.region).outcome with
  | error fault =>
    dsimp only [Option.elim]
    rw [capacity]
    exact ⟨nofun, capacity, rfl⟩
  | ok produced =>
    dsimp only [Option.elim]
    rw [capacity]
    exact ⟨nofun, capacity, rfl⟩

/-- Refused memory stops the relay, and leaves the buffer with the bytes that it had. -/
theorem unpacked_of_refused {relay : Relay State} {burst : Payload}
    (refused : ¬ relay.buffer.Granted burst.header.declaredUncompressed.toNat) :
    (∃ fault, (relay.codec.unpack relay.codecState relay.buffer burst).unpacking = .stop fault) ∧
      (relay.unpacked burst).buffer.region = relay.buffer.region ∧
      (relay.unpacked burst).statistics = relay.statistics := by
  obtain ⟨fault, same, ensured, region⟩ := Buffer.ensure_of_refused refused
  unfold unpacked Codec.unpack
  simp only [ensured]
  exact ⟨⟨_, rfl⟩, region, rfl⟩

theorem granted_of_unpack {relay unpacked : Relay State} {burst : Payload} {unpacking : Unpacking}
    (unpack : (relay.unpack burst).value = (unpacking, unpacked))
    (goes : ∀ fault, unpacking ≠ .stop fault) :
    relay.buffer.Granted burst.header.declaredUncompressed.toNat := by
  by_cases granted : relay.buffer.Granted burst.header.declaredUncompressed.toNat
  · exact granted
  · obtain ⟨fault, stopped⟩ := (unpacked_of_refused granted).1
    exact absurd ((eq_unpacked unpack).1.trans stopped) (goes fault)

theorem refused_of_unpack {relay unpacked : Relay State} {burst : Payload} {fault : RelayFault}
    (unpack : (relay.unpack burst).value = (.stop fault, unpacked)) :
    ¬ relay.buffer.Granted burst.header.declaredUncompressed.toNat := by
  intro granted
  exact (unpacked_of_granted granted).1 fault (eq_unpacked unpack).1.symm

/-- Behind the growth, nothing changes the size of the buffer: neither the codec nor the sink. -/
theorem spans_of_granted {relay last : Relay State} {burst : Payload} {opened : Option Bool}
    (granted : relay.buffer.Granted burst.header.declaredUncompressed.toNat)
    (buffer : last.buffer = (relay.unpacked burst).buffer)
    (peak : last.statistics.peakCapacity = (relay.unpacked burst).statistics.peakCapacity)
    (looked : opened ≠ some false) : Spans (relay.taken burst) opened relay last := by
  obtain ⟨-, capacity, statistics⟩ := unpacked_of_granted granted
  unfold taken
  rw [if_pos granted]
  refine ⟨?_, ?_, ?_, ?_⟩
  · rw [buffer]
    exact capacity
  · intro level
    rw [peak, buffer, capacity, statistics]
    show max relay.statistics.peakCapacity _ = _
    rw [level]
    omega
  · intro body shown
    cases body with
    | true => rfl
    | false => exact absurd shown looked
  · intro shown
    exact absurd shown looked

/-- Verifying a burst takes what its header declares, however far it gets. -/
theorem Verified.spans {relay after : Relay State} {burst : Payload} {verdict : Verdict}
    (verified : Verified relay burst verdict after) :
    Spans (relay.taken burst) verdict.opened? relay after := by
  have looked := verified.opened_ne
  cases verified with
  | starved unpack =>
    -- nothing is granted, so that nothing is taken and the bytes stay where they are
    have refused := refused_of_unpack unpack
    obtain ⟨-, region, statistics⟩ := unpacked_of_refused refused
    have capacity : (relay.unpacked burst).buffer.capacity = relay.buffer.capacity :=
      congrArg Region.size region
    rw [(eq_unpacked unpack).2]
    unfold taken
    rw [if_neg refused]
    refine ⟨?_, ?_, nofun, nofun⟩
    · rw [capacity]
      exact (Nat.max_zero _).symm
    · intro level
      rw [statistics, capacity]
      exact level
  | unsound unpack =>
    rw [(eq_unpacked unpack).2]
    exact spans_of_granted (granted_of_unpack unpack nofun) rfl rfl looked
  | undecodable unpack _ =>
    rw [(eq_unpacked unpack).2]
    exact spans_of_granted (granted_of_unpack unpack nofun) rfl rfl looked
  | written unpack _ _ _ _ =>
    rw [(eq_unpacked unpack).2]
    exact spans_of_granted (granted_of_unpack unpack nofun) rfl rfl looked
  | torn unpack _ _ _ _ =>
    rw [(eq_unpacked unpack).2]
    exact spans_of_granted (granted_of_unpack unpack nofun) rfl rfl looked

theorem Judged.spans {relay after : Relay State} {payload : Bytes} {verdict : Verdict}
    (judged : Judged relay payload verdict after) :
    Spans (relay.room payload) verdict.opened? relay after := by
  cases judged with
  | refused refused =>
    rw [Reference.value_admission] at refused
    have closed := behindHeader_of_header refused
    unfold room
    rw [refused]
    refine .of_same rfl rfl ?_
    show some _ ≠ some true
    rw [closed]
    simp
  | header admitted dummy =>
    rw [Reference.value_admission] at admitted
    unfold room
    rw [admitted, dummy]
    exact .of_same rfl rfl nofun
  | full admitted full verified =>
    have spans := verified.spans
    rw [Reference.value_admission] at admitted
    unfold room
    rw [admitted, full]
    exact spans

/-! ## Calls -/

theorem reaches_of_envelope {relay : Relay State} {frames : Message} {rest : List Arrival}
    {envelope : Envelope}
    (next : (Channel.nextMessage #[] relay.channel.incoming).value = (.ok frames, rest))
    (kind : Received.classify relay.role frames = .envelope envelope) :
    relay.reaches = (relay.taking rest).room envelope.payload := by
  unfold reaches
  rw [next]
  dsimp only
  rw [kind]
  rfl

/-- Settling a message takes what the burst in it takes. -/
theorem Settled.spans {relay ready : Relay State} {settlement : Settlement}
    (settled : Settled relay settlement ready) :
    Spans relay.reaches (settlement.unanswered?.map Outcome.opened) relay ready := by
  cases settled with
  | lost failed =>
    have nothing : relay.reaches = none := by simp only [reaches, failed]
    rw [nothing]
    exact .of_same rfl rfl nofun
  | echo next kind =>
    have nothing : relay.reaches = none := by simp only [reaches, next, kind]
    rw [nothing]
    exact .of_same rfl rfl nofun
  | @rejected frames rest fault next kind =>
    have nothing : relay.reaches = none := by simp only [reaches, next, kind]
    rw [nothing]
    refine .of_same rfl rfl ?_
    show some (Outcome.skipped fault false).opened ≠ some true
    rw [Received.opened_of_rejected kind]
    simp
  | written next kind judged =>
    rw [reaches_of_envelope next kind]
    exact judged.spans.of_taking
  | admitted next kind judged =>
    rw [reaches_of_envelope next kind]
    exact judged.spans.of_taking
  | stopped next kind judged =>
    rw [reaches_of_envelope next kind]
    exact judged.spans.of_taking
  | @skipped _ _ _ fault _ next kind judged _ =>
    rw [reaches_of_envelope next kind]
    exact judged.spans.of_taking.countSkip fault.kind
  | @forgiven _ _ _ fault _ next kind judged _ =>
    rw [reaches_of_envelope next kind]
    exact judged.spans.of_taking.countSkip fault.kind

/-- A call takes what the burst of its message takes, and does nothing else to the size of the
buffer. -/
theorem spans_of_step {relay after : Relay State} {result : Except RelayFault Outcome}
    (called : relay.step.value = (result, after)) :
    Spans relay.reaches (result.toOption.map Outcome.opened) relay after := by
  cases called_of_step called with
  | stopped settled => exact settled.spans
  | silent settled => exact settled.spans
  | concluded settled concluded =>
    have spans := settled.spans
    have answers := settled.opened_eq
    -- acknowledging leaves the buffer and its counter alone
    cases concluded with
    | withheld _ => exact spans
    | sent _ _ =>
      refine ⟨spans.capacity, spans.peak, ?_, ?_⟩
      · intro body shown
        refine spans.looked body ?_
        rw [← shown]
        exact congrArg some (answers true).symm
      · intro shown
        refine spans.untouched ?_
        rw [← shown]
        exact congrArg some (answers true).symm
    | failed _ _ => exact ⟨spans.capacity, spans.peak, nofun, nofun⟩

/-! ## Calls in a row -/

/-- What a message takes is never above the bound. -/
theorem reaches_le_bound {relay : Relay State} {size : Nat} (reaches : relay.reaches = some size) :
    size ≤ relay.bound.toNat := by
  unfold Relay.reaches at reaches
  split at reaches
  · cases reaches
  · split at reaches
    · rename_i envelope kind
      unfold room at reaches
      split at reaches
      · cases reaches
      · rename_i burst header
        split at reaches
        · cases reaches
        · unfold taken at reaches
          split at reaches
          · cases reaches
            exact declared_le_of_header header
          · cases reaches
    · cases reaches
    · cases reaches

/-- The capacity is the largest of the sizes that were taken. -/
theorem capacity_of_calls {relay last : Relay State}
    {history : List (Relay State × Except RelayFault Outcome)} (calls : Calls relay history last) :
    last.buffer.capacity =
      (history.filterMap fun call => call.1.reaches).foldl max relay.buffer.capacity := by
  -- on the calls: what the first one takes is in the capacity that the others begin with
  induction calls with
  | nothing relay => rfl
  | @call relay middle last result history called _ ih =>
    have grows := (spans_of_step called).capacity
    rw [ih, grows, List.filterMap_cons]
    cases relay.reaches with
    | none =>
      rw [Option.getD_none, Nat.max_zero]
    | some size => rfl

theorem peak_of_calls {relay last : Relay State}
    {history : List (Relay State × Except RelayFault Outcome)} (calls : Calls relay history last)
    (level : relay.statistics.peakCapacity = relay.buffer.capacity) :
    last.statistics.peakCapacity = last.buffer.capacity := by
  induction calls with
  | nothing relay => exact level
  | call called _ ih => exact ih ((spans_of_step called).peak level)

/-- The capacity is between what it was and the bound, unless it was above that already. -/
theorem capacity_between {relay last : Relay State}
    {history : List (Relay State × Except RelayFault Outcome)} (calls : Calls relay history last) :
    relay.buffer.capacity ≤ last.buffer.capacity ∧
      last.buffer.capacity ≤ max relay.buffer.capacity relay.bound.toNat := by
  induction calls with
  | nothing relay => exact ⟨Nat.le_refl _, Nat.le_max_left _ _⟩
  | @call relay middle last result history called _ ih =>
    have grows := (spans_of_step called).capacity
    have bound := (keeps_of_step called).bound
    rw [bound] at ih
    cases reaches : relay.reaches with
    | none =>
      rw [reaches, Option.getD_none] at grows
      omega
    | some size =>
      have within := reaches_le_bound reaches
      rw [reaches, Option.getD_some] at grows
      omega

end Relay

/-! ## The law -/

/-- The block codec is given this size as it is: neither clamping it to the limit of the codec nor
converting it to a signed number of thirty-two bits changes it. -/
def Codec.Faithful (size : Nat) : Prop :=
  min size blockLimit = size ∧ (Int32.ofNat (min size blockLimit)).toInt = size

theorem Codec.faithful_of_le {size : Nat} (within : size ≤ blockLimit) : Faithful size := by
  have limit : blockLimit = 2147483647 := by decide
  unfold Faithful
  rw [Nat.min_eq_left within]
  refine ⟨rfl, ?_⟩
  exact Int32.toInt_ofNat_of_lt (by omega)

namespace Relay

/-- What is known of the buffer of a relay that was started with these settings and made these
calls. -/
structure CapacityLaw (settings : Settings)
    (history : List (Relay State × Except RelayFault Outcome)) (relay : Relay State) : Prop where
  /-- The capacity is the largest of the initial one and the sizes that were taken so far. -/
  exact : relay.buffer.capacity = (history.filterMap fun call => call.1.reaches).foldl max
    settings.decompression.initialCapacity.toNat
  bounded : relay.buffer.capacity ≤
    max settings.decompression.initialCapacity.toNat settings.bound.toNat
  peak : relay.statistics.peakCapacity = relay.buffer.capacity
  /-- A message that is settled in front of the body of a burst leaves the buffer alone: an echo, a
  message with too few or too many frames, and a header that is malformed or declares too much. -/
  untouched : ∀ outcome after, relay.step.value = (.ok outcome, after) → outcome.opened = false →
    after.buffer = relay.buffer
  /-- A burst whose body was looked at counts, also if it could not be decoded. -/
  counted : ∀ outcome after, relay.step.value = (.ok outcome, after) → outcome.opened = true →
    ∃ size, relay.reaches = some size ∧
      after.buffer.capacity = max relay.buffer.capacity size
  /-- With settings that are valid, the capacity stays where the codec can address it, and every
  region that a burst is decompressed into has a size that the codec is given as it is. -/
  validated : settings.validate = .ok () →
    settings.decompression.initialCapacity.toNat ≤ relay.buffer.capacity ∧
    relay.buffer.capacity ≤ settings.bound.toNat ∧ settings.bound.toNat ≤ 2147483647 ∧
    ∀ payload burst grown, Reference.header relay.bound payload = .ok burst →
      (relay.buffer.ensure burst.header.declaredUncompressed.toNat).value = (.ok (), grown) →
        Codec.Faithful grown.region.size

theorem initialCapacity_le_bound {settings : Settings} (valid : settings.validate = .ok ()) :
    settings.decompression.initialCapacity.toNat ≤ settings.bound.toNat := by
  unfold Settings.validate at valid
  split at valid
  · cases valid
  · split at valid
    · cases valid
    · split at valid
      · cases valid
      · rename_i above
        have within := mt UInt64.lt_iff_toNat_lt.mpr above
        rw [UInt32.toNat_toUInt64] at within
        omega

/-- Every region that a burst is decompressed into is as large as the codec is told, if the buffer is
no larger than the codec can address. -/
theorem faithful_of_ensure {relay : Relay State} {payload : Bytes} {burst : Payload}
    {grown : Buffer} (within : relay.buffer.capacity ≤ Codec.blockLimit)
    (bounded : relay.bound.toNat ≤ Codec.blockLimit)
    (admitted : Reference.header relay.bound payload = .ok burst)
    (ensured : (relay.buffer.ensure burst.header.declaredUncompressed.toNat).value =
      (.ok (), grown)) : Codec.Faithful grown.region.size := by
  have declared := declared_le_of_header admitted
  have granted : relay.buffer.Granted burst.header.declaredUncompressed.toNat := by
    by_cases granted : relay.buffer.Granted burst.header.declaredUncompressed.toNat
    · exact granted
    · obtain ⟨fault, same, refused, -⟩ := Buffer.ensure_of_refused granted
      rw [refused] at ensured
      cases ensured
  obtain ⟨found, same, region⟩ := Buffer.ensure_of_granted granted
  rw [same] at ensured
  cases ensured
  apply Codec.faithful_of_le
  rw [region, Region.size_grow]
  show max relay.buffer.capacity _ ≤ _
  omega

/-- The capacity of the buffer obeys the law in every state that calls lead to, whatever the codec,
the memory, the channel and the sink do, and whether the calls succeed or not. -/
theorem capacity_of_reachable {settings : Settings} {allocator : Allocator} {codec : Codec State}
    {codecState : State} {channel : Channel} {sink : Sink} {relay last : Relay State}
    {history : List (Relay State × Except RelayFault Outcome)}
    (started : (start settings allocator codec codecState channel sink).value = .ok relay)
    (calls : Calls relay history last) : CapacityLaw settings history last := by
  obtain ⟨buffer, made, rfl⟩ := eq_of_start started
  have initial : buffer.capacity = settings.decompression.initialCapacity.toNat :=
    (Buffer.frame_of_ofCapacity made).2
  have bound : last.bound = settings.bound := calls.keeps.bound
  obtain ⟨above, below⟩ := capacity_between calls
  have exact := capacity_of_calls calls
  dsimp only at above below exact
  rw [initial] at above below exact
  refine ⟨exact, below, ?_, ?_, ?_, ?_⟩
  · refine peak_of_calls calls ?_
    show max 0 buffer.capacity = buffer.capacity
    exact Nat.zero_max _
  · intro outcome after called unopened
    refine (spans_of_step called).untouched ?_
    exact congrArg some unopened
  · intro outcome after called opened
    have spans := spans_of_step called
    have taken := spans.looked true (congrArg some opened)
    cases reaches : last.reaches with
    | none =>
      rw [reaches] at taken
      cases taken
    | some size =>
      have capacity := spans.capacity
      rw [reaches] at capacity
      exact ⟨size, rfl, capacity⟩
  · intro valid
    have least := initialCapacity_le_bound valid
    have limit : settings.bound.toNat ≤ Codec.blockLimit := bound_le_blockLimit settings
    have addressable : Codec.blockLimit = 2147483647 := by decide
    refine ⟨above, by omega, by omega, ?_⟩
    intro payload burst grown admitted ensured
    refine faithful_of_ensure (by omega) ?_ admitted ensured
    rw [bound]
    exact limit

/-- A burst that could not be decoded counts, and a call behind it that receives nothing does not. -/
theorem capacity_behind_grower :
    ∃ (allocator : Allocator) (leavings : Codec.Leavings) (channel : Channel) (sink : Sink)
        (relay middle last : Relay Unit),
      (start cramped allocator (.block leavings) () channel sink).value = .ok relay ∧
      cramped.validate = .ok () ∧
      Calls relay [(relay, .ok (.skipped (.burst (.codecFailure "lz4" .nothingProduced 1)) false)),
        (middle, .error (.transport .closed))] last ∧
      CapacityLaw cramped [(relay, .ok (.skipped (.burst (.codecFailure "lz4" .nothingProduced 1)) false)),
        (middle, .error (.transport .closed))] last ∧
      last.buffer.capacity = 4096 := by
  obtain ⟨relay, queued, reached, tracks⟩ := exists_cramped (grower.parts.map .part ++ [])
  obtain ⟨allocator, leavings, channel, sink, _, started, -, -, -, -, fresh⟩ := reached
  cases fresh
  obtain ⟨middle, skipped, empty, tracksMiddle⟩ := exists_call tracks queued (by simp [grower])
  have outcome : (Reference.message (.ofSettings cramped) 18 grower).1.outcome =
      .skipped (.burst (.codecFailure "lz4" .nothingProduced 1)) false := by rfl
  have nothing : (Channel.nextMessage #[] middle.channel.incoming).value = (.error .closed, []) := by
    rw [empty]
    rfl
  rw [outcome] at skipped
  have calls := Calls.call skipped (.call (Reference.call_of_lost nothing) (.nothing _))
  have law := capacity_of_reachable started calls
  exact ⟨allocator, leavings, channel, sink, relay, middle, _, started, by rfl, calls, law,
    tracksMiddle.capacity⟩

end Relay

end BurstRelay

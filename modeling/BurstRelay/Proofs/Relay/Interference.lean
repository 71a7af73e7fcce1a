import BurstRelay.Proofs.Relay.Reference

/-!
# What earlier messages can change

One buffer serves all bursts, and earlier bursts leave it larger and full of their bytes. The bytes
never matter. The capacity does: the decoder is given the whole buffer, and refuses a block that comes
too near to its end, so that a burst can be refused by a fresh relay and accepted by one that grew
before (`messages_interfere`).

`observed_eq_or_refused` says that this is all, as long as the buffers are no larger than the library
takes: of any two relays with the same settings, whatever they went through before, either the same can
be seen of the next message, or the one with the smaller buffer refused a block that ends less than
`Block.spare` bytes before the end of it and that the other one accepted. So a burst that a fresh relay
emits is emitted behind any traffic. In a buffer that is larger than the library takes nothing is
emitted (`Reference.Oversized`).
-/

namespace BurstRelay

/-! ## Outcomes in different buffers -/

namespace Outcome

/-- Whether a message was emitted. -/
def isEmitted : Outcome → Bool
  | emitted .. => true
  | admitted _ | skipped .. | ackEcho => false

/-- Whether a message was acknowledged. -/
def isAcknowledged : Outcome → Bool
  | emitted _ acknowledged | admitted acknowledged | skipped _ acknowledged => acknowledged
  | ackEcho => false

end Outcome

namespace Reference

/-- What can be seen of a message: whether it is emitted, the bytes it adds to the output, and whether
it is acknowledged. -/
def Effect.observed (effect : Effect) : Bool × Bytes × Bool :=
  (effect.outcome.isEmitted, effect.output, effect.outcome.isAcknowledged)

/-- How the fates of a burst compare in a smaller and in a larger region. -/
inductive Compares (burst : Payload) (small large : Nat) : Fate → Fate → Prop
  | same (fate : Fate) : Compares burst small large fate fate
  | skipped (one two : BurstFault) : Compares burst small large (.skipped one) (.skipped two)
  | refused (records : List Bytes)
      (near : small < burst.header.declaredUncompressed.toNat + Block.spare)
      (smaller : small < large) :
      Compares burst small large (.skipped (Block.refusal burst.body)) (.emitted records)
  | oversized (records : List Bytes) (within : small ≤ Block.inputLimit)
      (beyond : Block.inputLimit < large) :
      Compares burst small large (.emitted records) (.skipped (Block.oversized burst.body))

theorem compares_decoded (mode : OutputMode) (burst : Payload) {small large : Nat}
    (le : small ≤ large) :
    Compares burst small large (decoded mode burst small) (decoded mode burst large) := by
  unfold decoded
  cases inSmall : Block.recordIn Block.inputLimit burst.header.declaredUncompressed small
      burst.body with
  | ok record =>
    by_cases takes : Block.Takes Block.inputLimit large
    · rw [Block.recordIn_grow le takes inSmall]
      exact .same _
    · obtain ⟨takesSmall, -⟩ := Block.recordIn_eq_ok.mp inSmall
      rw [Block.recordIn_of_not_takes takes]
      rw [Block.takes_inputLimit] at takes takesSmall
      dsimp only
      cases Output.records mode record with
      | error fault => exact .skipped fault _
      | ok records => exact .oversized records takesSmall (Nat.lt_of_not_le takes)
  | error fault =>
    cases inLarge : Block.recordIn Block.inputLimit burst.header.declaredUncompressed large
        burst.body with
    | error other => exact .skipped fault other
    | ok record =>
      obtain ⟨rfl, near, smaller⟩ := Block.refused_of_recordIn le inLarge inSmall
      dsimp only
      cases Output.records mode record with
      | error other => exact .skipped _ other
      | ok records => exact .refused records near smaller

/-- A block that comes too near to the end of the smaller buffer is refused there and accepted in the
larger one: the outcome of its message is one in the smaller buffer, and another in the larger. -/
structure Refused (policy : Policy) (small large : Nat) (frames : Message)
    (inSmall inLarge : Outcome) : Prop where
  full : policy.dummy = false
  smaller : small < large
  emitted : inLarge.isEmitted = true
  burst : ∃ identity messageId payload burst,
    frames = [identity, messageId, payload] ∧ header policy.bound payload = .ok burst ∧
      small < burst.header.declaredUncompressed.toNat + Block.spare ∧
      ∃ acknowledged, inSmall = .skipped (.burst (Block.refusal burst.body)) acknowledged

/-- A block is accepted in a buffer that the library takes and refused in one that is too large for it,
as every block is. -/
structure Oversized (policy : Policy) (small large : Nat) (frames : Message)
    (inSmall inLarge : Outcome) : Prop where
  full : policy.dummy = false
  within : small ≤ Block.inputLimit
  beyond : Block.inputLimit < large
  emitted : inSmall.isEmitted = true
  burst : ∃ identity messageId payload burst,
    frames = [identity, messageId, payload] ∧ header policy.bound payload = .ok burst ∧
      ∃ acknowledged, inLarge = .skipped (.burst (Block.oversized burst.body)) acknowledged

theorem frames_of_envelope {role : Role} {frames : Message} {envelope : Envelope}
    (kind : Received.classify role frames = .envelope envelope) :
    frames = [envelope.identity, envelope.messageId, envelope.payload] := by
  unfold Received.classify at kind
  split at kind
  · split at kind
    · cases kind
    · cases kind
      rfl
  · split at kind
    · cases kind
    · cases kind
  · split at kind
    · cases kind
    · cases kind

/-- The capacity alone decides, and only for blocks that come near to the end of the smaller buffer,
or if the larger one is too large. -/
theorem observed_message (policy : Policy) (frames : Message) {small large : Nat}
    (le : small ≤ large) :
    (message policy small frames).1.observed = (message policy large frames).1.observed ∨
      Refused policy small large frames (message policy small frames).1.outcome
        (message policy large frames).1.outcome ∨
      Oversized policy small large frames (message policy small frames).1.outcome
        (message policy large frames).1.outcome := by
  cases kind : Received.classify policy.role frames with
  | acknowledgment identity messageId =>
    rw [message_of_acknowledgment small kind, message_of_acknowledgment large kind]
    exact .inl rfl
  | rejected fault =>
    rw [message_of_rejected small kind, message_of_rejected large kind]
    exact .inl rfl
  | envelope envelope =>
    have inSmall := message_of_envelope small kind
    have inLarge := message_of_envelope large kind
    unfold fate at inSmall inLarge
    cases checked : header policy.bound envelope.payload with
    | error fault =>
      rw [checked] at inSmall inLarge
      rw [inSmall, inLarge]
      exact .inl rfl
    | ok burst =>
      rw [checked] at inSmall inLarge
      cases full : policy.dummy with
      | true =>
        rw [full] at inSmall inLarge
        rw [inSmall, inLarge]
        exact .inl rfl
      | false =>
        rw [full] at inSmall inLarge
        dsimp only at inSmall inLarge
        have larger : max small burst.header.declaredUncompressed.toNat ≤
            max large burst.header.declaredUncompressed.toNat := by omega
        have compares := compares_decoded policy.mode burst larger
        generalize decoded policy.mode burst
          (max small burst.header.declaredUncompressed.toNat) = one at compares inSmall
        generalize decoded policy.mode burst
          (max large burst.header.declaredUncompressed.toNat) = two at compares inLarge
        cases compares with
        | same fate =>
          rw [inSmall, inLarge]
          exact .inl rfl
        | skipped first second =>
          rw [inSmall, inLarge]
          exact .inl rfl
        | refused records near smaller =>
          refine .inr (.inl ⟨full, by omega, ?_, _, _, _, burst, frames_of_envelope kind, checked,
            by omega, ?_⟩)
          · rw [inLarge]
            rfl
          · rw [inSmall]
            exact ⟨_, rfl⟩
        | oversized records within beyond =>
          refine .inr (.inr ⟨full, by omega, by omega, ?_, _, _, _, burst, frames_of_envelope kind,
            checked, ?_⟩)
          · rw [inSmall]
            rfl
          · rw [inLarge]
            exact ⟨_, rfl⟩

end Reference

/-! ## Relays with different pasts -/

namespace Relay

/-- A relay for compressed blocks with these settings that went through these calls, nothing around
it ever failing. -/
def Reached (settings : Settings) (past : List (Relay Unit × Outcome)) (relay : Relay Unit) :
    Prop :=
  ∃ allocator leavings channel sink first,
    (start settings allocator (.block leavings) () channel sink).value = .ok first ∧
    (∀ requests capacity, capacity ≤ settings.bound.toNat →
      allocator requests capacity = none) ∧
    channel.sendFault = none ∧ channel.unfinished = [] ∧ sink.behaviour.Accepts ∧
    Serves first past relay

/-- What can be seen of the next call of a relay, if it succeeds: whether its message is emitted, the
bytes it adds to the output, and whether it is acknowledged. -/
def observed {State : Type} (relay : Relay State) : Option (Bool × Bytes × Bool) :=
  match relay.step.value with
  | (.ok outcome, after) =>
    some (outcome.isEmitted, after.sink.bytes.drop relay.sink.bytes.length,
      outcome.isAcknowledged)
  | (.error _, _) => none

open Reference

/-- A message never lowers the capacity, and never raises it above the bound on declared sizes. -/
theorem capacity_of_message (policy : Policy) (capacity : Nat) (frames : Message) :
    capacity ≤ (message policy capacity frames).2 ∧
      (message policy capacity frames).2 ≤ max capacity policy.bound.toNat := by
  have unchanged : capacity ≤ capacity ∧ capacity ≤ max capacity policy.bound.toNat :=
    ⟨Nat.le_refl _, Nat.le_max_left _ _⟩
  cases kind : Received.classify policy.role frames with
  | acknowledgment identity messageId =>
    rw [message_of_acknowledgment capacity kind]
    exact unchanged
  | rejected fault =>
    rw [message_of_rejected capacity kind]
    exact unchanged
  | envelope envelope =>
    rw [message_of_envelope capacity kind]
    unfold fate
    cases checked : header policy.bound envelope.payload with
    | error fault => exact unchanged
    | ok burst =>
      have admitted := declared_le_of_header checked
      dsimp only
      split
      · exact unchanged
      · dsimp only
        omega

theorem tracks_of_serves {policy : Policy} {capacity : Nat} {relay last : Relay Unit}
    {history : List (Relay Unit × Outcome)} (tracks : Tracks policy capacity relay)
    (serves : Serves relay history last) :
    ∃ larger, capacity ≤ larger ∧ larger ≤ max capacity policy.bound.toNat ∧
      Tracks policy larger last := by
  induction serves generalizing capacity with
  | nothing relay => exact ⟨capacity, Nat.le_refl _, Nat.le_max_left _ _, tracks⟩
  -- a call that succeeds found a message, so that the reference has a step for it
  | @call relay middle last outcome history step _ ih =>
    cases next : (Channel.nextMessage #[] relay.channel.incoming).value with
    | mk result rest =>
      cases result with
      | error fault => cases step.symm.trans (call_of_lost next)
      | ok frames =>
        obtain ⟨found, after, called, -, follows⟩ := call_of_tracks tracks next
        cases step.symm.trans called
        obtain ⟨larger, least, most, tracksLast⟩ := ih follows.tracks
        obtain ⟨raised, bounded⟩ := capacity_of_message policy capacity frames
        exact ⟨larger, by omega, by omega, tracksLast⟩

/-- A relay that was reached is tracked with a capacity between the one it started with and the bound
on declared sizes, if that is larger. -/
theorem tracks_of_reached {settings : Settings} {past : List (Relay Unit × Outcome)}
    {relay : Relay Unit} (reached : Reached settings past relay) :
    settings.decompression.initialCapacity.toNat ≤ relay.buffer.capacity ∧
      relay.buffer.capacity ≤
        max settings.decompression.initialCapacity.toNat settings.bound.toNat ∧
      Tracks (.ofSettings settings) relay.buffer.capacity relay := by
  obtain ⟨allocator, leavings, channel, sink, first, started, grants, sends, finished, accepts,
    serves⟩ := reached
  obtain ⟨larger, least, most, tracks⟩ :=
    tracks_of_serves (tracks_of_start started grants sends finished accepts) serves
  rw [tracks.capacity]
  exact ⟨least, most, tracks⟩

/-- What can be seen of the next message of a relay is what the reference says. -/
theorem observed_of_tracks {policy : Policy} {capacity : Nat} {relay : Relay Unit}
    {frames : Message} {rest : List Arrival} (tracks : Tracks policy capacity relay)
    (taken : (Channel.nextMessage #[] relay.channel.incoming).value = (.ok frames, rest)) :
    relay.observed = some (message policy capacity frames).1.observed := by
  obtain ⟨outcome, after, called, -, follows⟩ := call_of_tracks tracks taken
  unfold observed
  rw [called]
  dsimp only
  rw [follows.output, List.drop_left, follows.outcome]
  rfl

theorem outcome_of_tracks {policy : Policy} {capacity : Nat} {relay : Relay Unit}
    {frames : Message} {rest : List Arrival} (tracks : Tracks policy capacity relay)
    (taken : (Channel.nextMessage #[] relay.channel.incoming).value = (.ok frames, rest)) :
    relay.step.value.1 = .ok (message policy capacity frames).1.outcome := by
  obtain ⟨outcome, after, called, -, follows⟩ := call_of_tracks tracks taken
  rw [called, follows.outcome]

theorem capacity_of_fresh {settings : Settings} {relay : Relay Unit}
    (reached : Reached settings [] relay) :
    relay.buffer.capacity = settings.decompression.initialCapacity.toNat := by
  obtain ⟨allocator, leavings, channel, sink, first, started, grants, sends, finished, accepts,
    serves⟩ := reached
  cases serves
  exact (tracks_of_start started grants sends finished accepts).capacity

/-! ## A message that earlier ones decide about -/

/-- Settings for a buffer that is small at the start. -/
def cramped : Settings := { decompression := { initialCapacity := 18 } }

/-- A burst that declares 4096 bytes and holds none. -/
def grower : Message := [[1], [2], [0, 16, 0, 0, 1, 0, 0, 0, 0]]

/-- A burst of eighteen bytes, the last of which are a match. -/
def tight : Message :=
  [[7], [8], [18, 0, 0, 0, 18, 0, 0, 0, 224, 1, 2, 3, 4, 5, 6, 7, 8, 9, 10, 11, 12, 13, 14, 8, 0, 0]]

/-- Whatever is queued for it, a relay can be started in a small buffer, and is tracked from there. -/
theorem exists_cramped (queue : List Arrival) :
    ∃ relay, relay.channel.incoming = queue ∧ Reached cramped [] relay ∧
      Tracks (.ofSettings cramped) 18 relay := by
  obtain ⟨relay, started, queued⟩ : ∃ relay : Relay Unit,
      (start cramped .willing (.block .nothing) () { incoming := queue }
        (.ofBehaviour .willing)).value = .ok relay ∧ relay.channel.incoming = queue :=
    ⟨_, rfl, rfl⟩
  exact ⟨relay, queued,
    ⟨_, _, _, _, relay, started, fun _ _ _ => rfl, rfl, rfl, Sink.Behaviour.accepts_willing,
      .nothing relay⟩,
    tracks_of_start started (fun _ _ _ => rfl) rfl rfl Sink.Behaviour.accepts_willing⟩

/-- A call on a message that is there comes to what the reference says. -/
theorem exists_call {policy : Policy} {capacity : Nat} {relay : Relay Unit} {frames : Message}
    {rest : List Arrival} (tracks : Tracks policy capacity relay)
    (queued : relay.channel.incoming = frames.parts.map .part ++ rest) (nonempty : frames ≠ []) :
    ∃ after, relay.step.value = (.ok (message policy capacity frames).1.outcome, after) ∧
      after.channel.incoming = rest ∧ Tracks policy (message policy capacity frames).2 after := by
  have taken : (Channel.nextMessage #[] relay.channel.incoming).value = (.ok frames, rest) := by
    rw [queued, Channel.nextMessage_parts #[] rest nonempty]
    rfl
  obtain ⟨outcome, after, called, left, follows⟩ := call_of_tracks tracks taken
  rw [follows.outcome] at called
  exact ⟨after, called, left, follows.tracks⟩

/-- A burst that takes more room than there is leaves a relay with a larger buffer. -/
theorem exists_grown (queue : List Arrival) :
    ∃ past relay, relay.channel.incoming = queue ∧ Reached cramped past relay ∧
      Tracks (.ofSettings cramped) 4096 relay := by
  obtain ⟨first, queued, reached, tracks⟩ := exists_cramped (grower.parts.map .part ++ queue)
  have taken : (Channel.nextMessage #[] first.channel.incoming).value = (.ok grower, queue) := by
    rw [queued]
    rfl
  obtain ⟨outcome, after, called, rest, follows⟩ := call_of_tracks tracks taken
  obtain ⟨allocator, leavings, channel, sink, _, started, grants, sends, finished, accepts, serves⟩ :=
    reached
  cases serves
  exact ⟨[(first, outcome)], after, rest,
    ⟨allocator, leavings, channel, sink, first, started, grants, sends, finished, accepts,
      .call called (.nothing after)⟩, follows.tracks⟩

/-- Earlier messages do change what becomes of a later one: a fresh relay skips a burst that another
one emits, for having seen a larger burst before. -/
theorem messages_interfere :
    ¬ ∀ (settings : Settings) (pastOne pastTwo : List (Relay Unit × Outcome))
        (one two : Relay Unit) (frames : Message) (restOne restTwo : List Arrival),
      Reached settings pastOne one → Reached settings pastTwo two →
      (Channel.nextMessage #[] one.channel.incoming).value = (.ok frames, restOne) →
      (Channel.nextMessage #[] two.channel.incoming).value = (.ok frames, restTwo) →
        one.observed = two.observed := by
  intro same
  obtain ⟨fresh, queued, reached, tracks⟩ := exists_cramped (tight.parts.map .part)
  obtain ⟨past, grown, queuedGrown, reachedGrown, tracksGrown⟩ :=
    exists_grown (tight.parts.map .part)
  have taken : (Channel.nextMessage #[] fresh.channel.incoming).value = (.ok tight, []) := by
    rw [queued]
    rfl
  have takenGrown : (Channel.nextMessage #[] grown.channel.incoming).value = (.ok tight, []) := by
    rw [queuedGrown]
    rfl
  have equal := same _ _ _ _ _ _ _ _ reached reachedGrown taken takenGrown
  have skips : (message (.ofSettings cramped) 18 tight).1.observed = (false, [], false) := by rfl
  have emits : (message (.ofSettings cramped) 4096 tight).1.observed =
      (true, [0, 0, 0, 18, 1, 2, 3, 4, 5, 6, 7, 8, 9, 10, 11, 12, 13, 14, 7, 8, 9, 10], true) := by
    rfl
  rw [observed_of_tracks tracks taken, observed_of_tracks tracksGrown takenGrown, skips,
    emits] at equal
  cases equal

/-! ## What else they decide about: nothing -/

/-- Of two relays with the same settings and the same next message, both go on, and either the same
can be seen of the message, or the one with the smaller buffer refuses a block that comes too near to
the end of it and that the other accepts, or the one with the larger buffer refuses a block because the
buffer is larger than the library takes. If the buffers have the same capacity, the outcomes are the
same in full; and what a fresh relay emits, every other one emits too whose buffer the library takes.
It takes all buffers if neither the first capacity nor the bound on declared sizes is larger. -/
theorem observed_eq_or_refused {settings : Settings} {pastOne pastTwo : List (Relay Unit × Outcome)}
    {one two : Relay Unit} {frames : Message} {restOne restTwo : List Arrival}
    (reachedOne : Reached settings pastOne one) (reachedTwo : Reached settings pastTwo two)
    (takenOne : (Channel.nextMessage #[] one.channel.incoming).value = (.ok frames, restOne))
    (takenTwo : (Channel.nextMessage #[] two.channel.incoming).value = (.ok frames, restTwo)) :
    ∃ outcomeOne outcomeTwo,
      one.step.value.1 = .ok outcomeOne ∧ two.step.value.1 = .ok outcomeTwo ∧
      (one.observed = two.observed ∨
        Refused (.ofSettings settings) one.buffer.capacity two.buffer.capacity frames
          outcomeOne outcomeTwo ∨
        Refused (.ofSettings settings) two.buffer.capacity one.buffer.capacity frames
          outcomeTwo outcomeOne ∨
        Oversized (.ofSettings settings) one.buffer.capacity two.buffer.capacity frames
          outcomeOne outcomeTwo ∨
        Oversized (.ofSettings settings) two.buffer.capacity one.buffer.capacity frames
          outcomeTwo outcomeOne) ∧
      (one.buffer.capacity = two.buffer.capacity →
        outcomeOne = outcomeTwo ∧ one.observed = two.observed) ∧
      (pastOne = [] → outcomeOne.isEmitted = true → two.buffer.capacity ≤ Block.inputLimit →
        one.observed = two.observed) ∧
      two.buffer.capacity ≤
        max settings.decompression.initialCapacity.toNat settings.bound.toNat := by
  obtain ⟨-, -, tracksOne⟩ := tracks_of_reached reachedOne
  obtain ⟨least, most, tracksTwo⟩ := tracks_of_reached reachedTwo
  rw [observed_of_tracks tracksOne takenOne, observed_of_tracks tracksTwo takenTwo]
  refine ⟨_, _, outcome_of_tracks tracksOne takenOne, outcome_of_tracks tracksTwo takenTwo,
    ?_, ?_, ?_, most⟩
  · rcases Nat.le_total one.buffer.capacity two.buffer.capacity with le | le
    · rcases observed_message (.ofSettings settings) frames le with same | refused | oversized
      · exact .inl (by rw [same])
      · exact .inr (.inl refused)
      · exact .inr (.inr (.inr (.inl oversized)))
    · rcases observed_message (.ofSettings settings) frames le with same | refused | oversized
      · exact .inl (by rw [same])
      · exact .inr (.inr (.inl refused))
      · exact .inr (.inr (.inr (.inr oversized)))
  · intro equal
    rw [equal]
    exact ⟨rfl, rfl⟩
  · rintro rfl emitted takes
    rw [← capacity_of_fresh reachedOne] at least
    rcases observed_message (.ofSettings settings) frames least with same | refused | oversized
    · rw [same]
    · obtain ⟨_, _, _, _, -, -, -, acknowledged, skipped⟩ := refused.burst
      rw [skipped] at emitted
      cases emitted
    · exact absurd oversized.beyond (Nat.not_lt.mpr takes)

/-- A burst with bytes to spare is emitted behind larger bursts as it is by a fresh relay. -/
theorem observed_eq_behind_grower :
    ∃ past one two, Reached cramped [] one ∧ Reached cramped past two ∧
      one.buffer.capacity = 18 ∧ two.buffer.capacity = 4096 ∧
      one.observed = some (true, [0, 0, 0, 2, 65, 66], true) ∧ one.observed = two.observed := by
  obtain ⟨fresh, queued, reached, tracks⟩ :=
    exists_cramped (Message.parts [[7], [8], [2, 0, 0, 0, 3, 0, 0, 0, 32, 65, 66]] |>.map .part)
  obtain ⟨past, grown, queuedGrown, reachedGrown, tracksGrown⟩ :=
    exists_grown (Message.parts [[7], [8], [2, 0, 0, 0, 3, 0, 0, 0, 32, 65, 66]] |>.map .part)
  have taken : (Channel.nextMessage #[] fresh.channel.incoming).value =
      (.ok [[7], [8], [2, 0, 0, 0, 3, 0, 0, 0, 32, 65, 66]], []) := by
    rw [queued]
    rfl
  have takenGrown : (Channel.nextMessage #[] grown.channel.incoming).value =
      (.ok [[7], [8], [2, 0, 0, 0, 3, 0, 0, 0, 32, 65, 66]], []) := by
    rw [queuedGrown]
    rfl
  obtain ⟨outcome, _, called, -, -, -, emitted, -⟩ :=
    observed_eq_or_refused reached reachedGrown taken takenGrown
  have seen := observed_of_tracks tracks taken
  have isEmitted : outcome.isEmitted = true := by
    rw [outcome_of_tracks tracks taken] at called
    cases called
    rfl
  exact ⟨past, fresh, grown, reached, reachedGrown, tracks.capacity, tracksGrown.capacity, seen,
    emitted rfl isEmitted (by rw [tracksGrown.capacity]; decide)⟩

end Relay

end BurstRelay

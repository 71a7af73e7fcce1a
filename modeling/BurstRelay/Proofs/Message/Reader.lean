import BurstRelay.Proofs.Message.Boundaries

/-!
# Messages are read whole

A reader takes one message after the other from a channel. It keeps three frames of a message at most,
however many there are, and counts them all. It is the same for every channel: `Receiver` is all that it
sees of one, and `Receiver.Reads` is what it comes to, one step for each frame. What it reads of a
message is a matter of the frames of the message (`reads_of_delivers`), a message that breaks off is
never taken for a shorter one (`reads_of_failure`), and messages come out one by one, in order
(`readsEach_of_delivers`). On the channel that a relay has it is `Received.read` (`reads_receiver_iff`).
-/

namespace BurstRelay

/-! ## What a message is -/

namespace Received

/-- What a message of these frames is read as: one of four things, and each of them exactly under its
condition. -/
structure Describes (role : Role) (message : Message) (received : Received) : Prop where
  envelope : ∀ envelope, received = .envelope envelope ↔
    message = [envelope.identity, envelope.messageId, envelope.payload] ∧
      ¬ (role = .passiveObserver ∧ envelope.payload = [])
  /-- The id of the message is its second frame if there are three, and is absent if there are two. -/
  acknowledgment : ∀ identity messageId, received = .acknowledgment identity messageId ↔
    role = .passiveObserver ∧ message = identity :: messageId.toList ++ [[]]
  excess : ∀ frames, received = .rejected (.excessFrames frames) ↔
    frames = message.length ∧ 3 < message.length
  short : ∀ frames, received = .rejected (.shortEnvelope frames) ↔
    frames = message.length ∧ message.length < 3 ∧
      ¬ (role = .passiveObserver ∧ message.length = 2 ∧ message.getLast? = some [])
  /-- Nothing in a burst is looked at. -/
  unopened : ∀ fault, received ≠ .rejected (.burst fault)

theorem classify_eq_envelope {role : Role} {message : Message} {envelope : Envelope} :
    classify role message = .envelope envelope ↔
      message = [envelope.identity, envelope.messageId, envelope.payload] ∧
        ¬ (role = .passiveObserver ∧ envelope.payload = []) := by
  constructor
  · intro kind
    unfold classify at kind
    split at kind
    · split at kind
      · cases kind
      · rename_i proper
        cases kind
        exact ⟨rfl, proper⟩
    · split at kind
      · cases kind
      · cases kind
    · split at kind
      · cases kind
      · cases kind
  · rintro ⟨rfl, proper⟩
    exact if_neg proper

theorem classify_eq_acknowledgment {role : Role} {message : Message} {identity : Bytes}
    {messageId : Option Bytes} :
    classify role message = .acknowledgment identity messageId ↔
      role = .passiveObserver ∧ message = identity :: messageId.toList ++ [[]] := by
  constructor
  · intro kind
    unfold classify at kind
    split at kind
    · split at kind
      · rename_i echoed
        obtain ⟨passive, rfl⟩ := echoed
        cases kind
        exact ⟨passive, rfl⟩
      · cases kind
    · split at kind
      · rename_i echoed
        obtain ⟨passive, rfl⟩ := echoed
        cases kind
        exact ⟨passive, rfl⟩
      · cases kind
    · split at kind
      · cases kind
      · cases kind
  · rintro ⟨rfl, rfl⟩
    cases messageId with
    | none => simp [classify]
    | some messageId => simp [classify]

/-- A message is rejected for the number of its frames and for nothing else, but two frames are enough
for an observer if the last one is empty. -/
theorem classify_eq_rejected {role : Role} {message : Message} {fault : SkipFault} :
    classify role message = .rejected fault ↔
      fault = .excessFrames message.length ∧ 3 < message.length ∨
        fault = .shortEnvelope message.length ∧ message.length < 3 ∧
          ¬ (role = .passiveObserver ∧ message.length = 2 ∧ message.getLast? = some []) := by
  match message with
  | [] => simp [classify, eq_comm]
  | [only] => simp [classify, eq_comm]
  | [identity, last] =>
    by_cases echoed : role = .passiveObserver ∧ last = []
    · simp [classify, echoed]
    · simp [classify, echoed, eq_comm]
  | [identity, messageId, payload] =>
    by_cases echoed : role = .passiveObserver ∧ payload = []
    · simp [classify, echoed]
    · simp [classify, echoed]
  | first :: second :: third :: fourth :: others =>
    have long : 3 < (first :: second :: third :: fourth :: others).length := by
      simp only [List.length_cons]
      omega
    have excess : classify role (first :: second :: third :: fourth :: others) =
        .rejected (.excessFrames (first :: second :: third :: fourth :: others).length) := by
      unfold classify
      exact if_pos long
    rw [excess]
    constructor
    · intro same
      cases same
      exact .inl ⟨rfl, long⟩
    · rintro (⟨rfl, -⟩ | ⟨-, few, -⟩)
      · rfl
      · exact absurd long (Nat.lt_asymm few)

theorem describes_classify (role : Role) (message : Message) :
    Describes role message (classify role message) where
  envelope _ := classify_eq_envelope
  acknowledgment _ _ := classify_eq_acknowledgment
  excess := by
    intro frames
    rw [classify_eq_rejected]
    simp
  short := by
    intro frames
    rw [classify_eq_rejected]
    simp
  unopened := by
    intro fault kind
    rcases classify_eq_rejected.mp kind with ⟨impossible, -⟩ | ⟨impossible, -⟩
    · cases impossible
    · cases impossible

/-- What a message is read as when its first three frames were kept and all were counted. -/
def ofKept (role : Role) (kept : Message) (count : Nat) : Received :=
  if 3 < count then .rejected (.excessFrames count)
  else
    match kept with
    | [identity, messageId, payload] =>
      if role = .passiveObserver ∧ kept.getLast? = some [] then .acknowledgment identity (some messageId)
      else .envelope ⟨identity, messageId, payload⟩
    | [identity, _] =>
      if role = .passiveObserver ∧ kept.getLast? = some [] then .acknowledgment identity none
      else .rejected (.shortEnvelope count)
    | _ => .rejected (.shortEnvelope count)

/-- Three frames and the number of all are enough to tell what a message is. -/
theorem ofKept_take (role : Role) (message : Message) :
    ofKept role (message.take 3) message.length = classify role message := by
  match message with
  | [] => rfl
  | [only] => rfl
  | [identity, last] => simp [ofKept, classify]
  | [identity, messageId, payload] => simp [ofKept, classify]
  | first :: second :: third :: fourth :: others => simp [ofKept, classify]

end Received

/-! ## Reading from any channel -/

/-- A channel as it is received from: receiving gives a frame or fails, and leaves a state behind. -/
abbrev Receiver (σ : Type) := σ → Except TransportFault Part × σ

namespace Receiver

variable {σ : Type} {receive : Receiver σ} {state middle after : σ}

/-- The frames that are kept when one more is received: three at most. -/
def keep (kept : Message) (data : Bytes) : Message :=
  if kept.length < 3 then kept ++ [data] else kept

/-- What receiving a message comes to behind frames of it that were received before: the frames kept and
the number of all, or how it fails. A message that never ends comes to nothing. -/
inductive Gathers (receive : Receiver σ) :
    Message → Nat → σ → Except TransportFault (Message × Nat) → σ → Prop
  | failed {kept : Message} {count : Nat} {state after : σ} {fault : TransportFault}
      (failure : receive state = (.error fault, after)) :
      Gathers receive kept count state (.error fault) after
  | last {kept : Message} {count : Nat} {state after : σ} {data : Bytes}
      (received : receive state = (.ok ⟨data, false⟩, after)) :
      Gathers receive kept count state (.ok (keep kept data, count + 1)) after
  | more {kept : Message} {count : Nat} {state middle after : σ} {data : Bytes}
      {result : Except TransportFault (Message × Nat)}
      (received : receive state = (.ok ⟨data, true⟩, middle))
      (others : Gathers receive (keep kept data) (count + 1) middle result after) :
      Gathers receive kept count state result after

/-- What reading a message comes to: what it is, or how receiving it fails. -/
def Reads (receive : Receiver σ) (role : Role) (state : σ)
    (result : Except TransportFault Received) (after : σ) : Prop :=
  ∃ gathered, Gathers receive [] 0 state gathered after ∧
    result = gathered.map fun (kept, count) => .ofKept role kept count

/-- Reading in a row comes to these. -/
inductive ReadsEach (receive : Receiver σ) (role : Role) : σ → List Received → σ → Prop
  | nothing (state : σ) : ReadsEach receive role state [] state
  | message {state middle after : σ} {received : Received} {others : List Received}
      (first : receive.Reads role state (.ok received) middle)
      (behind : ReadsEach receive role middle others after) :
      ReadsEach receive role state (received :: others) after

/-- Receiving so many frames in a row gives these. -/
inductive Delivers (receive : Receiver σ) : σ → List Part → σ → Prop
  | nothing (state : σ) : Delivers receive state [] state
  | part {state middle after : σ} {part : Part} {parts : List Part}
      (received : receive state = (.ok part, middle))
      (others : Delivers receive middle parts after) : Delivers receive state (part :: parts) after

theorem Delivers.split {first second : List Part}
    (delivers : Delivers receive state (first ++ second) after) :
    ∃ middle, Delivers receive state first middle ∧ Delivers receive middle second after := by
  induction first generalizing state with
  | nil => exact ⟨state, .nothing state, delivers⟩
  | cons part first ih =>
    cases delivers with
    | part received others =>
      obtain ⟨middle, before, behind⟩ := ih others
      exact ⟨middle, .part received before, behind⟩

/-! ### What is read is told by the channel -/

theorem Gathers.unique {kept : Message} {count : Nat}
    {one two : Except TransportFault (Message × Nat)} {other : σ}
    (first : Gathers receive kept count state one after)
    (second : Gathers receive kept count state two other) : two = one ∧ other = after := by
  induction first with
  | failed failure =>
    cases second with
    | failed again =>
      cases failure.symm.trans again
      exact ⟨rfl, rfl⟩
    | last received => cases failure.symm.trans received
    | more received _ => cases failure.symm.trans received
  | last received =>
    cases second with
    | failed failure => cases received.symm.trans failure
    | last again =>
      cases received.symm.trans again
      exact ⟨rfl, rfl⟩
    | more again _ => cases received.symm.trans again
  | more received _ ih =>
    cases second with
    | failed failure => cases received.symm.trans failure
    | last again => cases received.symm.trans again
    | more again others =>
      cases received.symm.trans again
      exact ih others

theorem Reads.unique {role : Role} {one two : Except TransportFault Received} {other : σ}
    (first : receive.Reads role state one after) (second : receive.Reads role state two other) :
    two = one ∧ other = after := by
  obtain ⟨gathered, gathers, rfl⟩ := first
  obtain ⟨again, gathersAgain, rfl⟩ := second
  obtain ⟨rfl, rfl⟩ := gathers.unique gathersAgain
  exact ⟨rfl, rfl⟩

/-- All that counts of a state is what is received in it. -/
theorem gathers_of_same {kept : Message} {count : Nat} {other : σ}
    {result : Except TransportFault (Message × Nat)} (same : receive state = receive other)
    (gathers : Gathers receive kept count other result after) :
    Gathers receive kept count state result after := by
  cases gathers with
  | failed failure => exact .failed (same.trans failure)
  | last received => exact .last (same.trans received)
  | more received others => exact .more (same.trans received) others

/-! ### Messages that arrive, and such that do not -/

/-- The frames kept are the first three of those received. -/
theorem keep_take (before : Message) (data : Bytes) :
    keep (before.take 3) data = (before ++ [data]).take 3 := by
  unfold keep
  rw [List.length_take, List.take_append]
  by_cases few : before.length < 3
  · have room : (3 - before.length) = (3 - before.length - 1) + 1 := by omega
    rw [if_pos (by omega), room, List.take_succ_cons, List.take_nil]
  · have full : 3 - before.length = 0 := by omega
    rw [if_neg (by omega), full, List.take_zero, List.append_nil]

/-- A frame that is not the last one is counted, and kept if it is among the first three. -/
theorem gathers_of_more {before : Message} {data : Bytes}
    {result : Except TransportFault (Message × Nat)}
    (received : receive state = (.ok ⟨data, true⟩, middle))
    (others : Gathers receive ((before ++ [data]).take 3) (before ++ [data]).length middle result
      after) :
    Gathers receive (before.take 3) before.length state result after := by
  rw [← keep_take, List.length_append] at others
  exact .more received others

theorem gathers_of_last {data : Bytes} (received : receive state = (.ok ⟨data, false⟩, after))
    (before : Message) :
    Gathers receive (before.take 3) before.length state
      (.ok ((before ++ [data]).take 3, (before ++ [data]).length)) after := by
  rw [← keep_take, List.length_append]
  exact .last received

/-- The frames with which a message begins are counted, and the first of them are kept. -/
theorem gathers_of_begins (before : Message) {frames : Message}
    {result : Except TransportFault (Message × Nat)}
    (delivers : Delivers receive state (frames.map fun data => ⟨data, true⟩) middle)
    (others : Gathers receive ((before ++ frames).take 3) (before ++ frames).length middle result
      after) :
    Gathers receive (before.take 3) before.length state result after := by
  induction frames generalizing before state with
  | nil =>
    cases delivers
    rw [List.append_nil] at others
    exact others
  | cons data frames ih =>
    cases delivers with
    | part received behind =>
      refine gathers_of_more received (ih (before ++ [data]) behind ?_)
      rw [List.append_assoc]
      exact others

/-- A message that arrives is read with all its frames and with nothing behind them, and what it is
read as is a matter of these frames. -/
theorem reads_of_delivers {message : Message} (nonempty : message ≠ [])
    (delivers : Delivers receive state message.parts after) (role : Role) :
    receive.Reads role state (.ok (.classify role message)) after := by
  obtain ⟨frames, last, rfl⟩ : ∃ frames last, message = frames ++ [last] :=
    ⟨_, _, (List.dropLast_concat_getLast nonempty).symm⟩
  rw [Message.parts_append_singleton] at delivers
  obtain ⟨middle, begins, ends⟩ := delivers.split
  cases ends with
  | part received nothing =>
    cases nothing
    have whole : Gathers receive [] 0 state _ after :=
      gathers_of_begins [] begins (gathers_of_last received frames)
    exact ⟨_, whole, congrArg Except.ok (Received.ofKept_take role _).symm⟩

/-- A message that breaks off is read as what it breaks off with, and nothing else is. -/
theorem reads_of_failure {frames : Message} {fault : TransportFault}
    (delivers : Delivers receive state (frames.map fun data => ⟨data, true⟩) middle)
    (failed : receive middle = (.error fault, after)) (role : Role) :
    receive.Reads role state (.error fault) after := by
  have whole : Gathers receive [] 0 state (.error fault) after :=
    gathers_of_begins [] delivers (.failed failed)
  exact ⟨_, whole, rfl⟩

/-- Messages that arrive one after the other are read one by one, in order. -/
theorem readsEach_of_delivers {messages : List Message}
    (nonempty : ∀ message ∈ messages, message ≠ [])
    (delivers : Delivers receive state (messages.flatMap Message.parts) after) (role : Role) :
    ReadsEach receive role state (messages.map (.classify role)) after := by
  induction messages generalizing state with
  | nil =>
    cases delivers
    exact .nothing _
  | cons message messages ih =>
    rw [List.forall_mem_cons] at nonempty
    rw [List.flatMap_cons] at delivers
    obtain ⟨middle, first, others⟩ := delivers.split
    exact .message (reads_of_delivers nonempty.1 first role) (ih nonempty.2 others)

end Receiver

/-! ## The channel of a relay -/

namespace Channel

/-- The channel as it is received from. -/
def receiver : Receiver Channel := fun channel => channel.receive.value

/-- What is gathered from a queue is the next message of it, three frames of which are kept. -/
theorem gathers_receiver (channel : Channel) (gathered : Array Bytes) (queue : List Arrival) :
    receiver.Gathers (gathered.toList.take 3) gathered.toList.length (channel.withQueue queue)
      ((nextMessage gathered queue).value.1.map fun message => (message.take 3, message.length))
      (channel.withQueue (nextMessage gathered queue).value.2) := by
  induction queue generalizing gathered with
  | nil => exact .failed rfl
  | cons arrival queue ih =>
    cases arrival with
    | failure fault => exact .failed rfl
    | interruption =>
      -- receiving is the same in front of an interruption and behind it
      have same : receiver (channel.withQueue (.interruption :: queue)) =
        receiver (channel.withQueue queue) := rfl
      exact Receiver.gathers_of_same same (ih gathered)
    | part part =>
      obtain ⟨data, more⟩ := part
      cases more with
      | true =>
        have later := ih (gathered.push data)
        rw [Array.toList_push] at later
        exact Receiver.gathers_of_more rfl later
      | false =>
        have received : receiver (channel.withQueue (.part ⟨data, false⟩ :: queue)) =
          (.ok ⟨data, false⟩, channel.withQueue queue) := rfl
        have whole := Receiver.gathers_of_last received gathered.toList
        rw [← Array.toList_push] at whole
        exact whole

/-- What is read is the next message of the queue, and what it is. -/
theorem value_read (role : Role) (channel : Channel) :
    (Received.read role channel).value =
      Prod.map (Except.map (Received.classify role)) channel.withQueue
        (nextMessage #[] channel.incoming).value := by
  simp only [Received.read, Logged.value_bind, value_receiveMessage]
  rcases (nextMessage #[] channel.incoming).value with ⟨result, rest⟩
  cases result with
  | error fault => rfl
  | ok message =>
    dsimp only
    split
    · rfl
    · rfl

theorem reads_receiver (role : Role) (channel : Channel) :
    receiver.Reads role channel (Received.read role channel).value.1
      (Received.read role channel).value.2 := by
  rw [value_read]
  refine ⟨_, gathers_receiver channel #[] channel.incoming, ?_⟩
  dsimp only [Prod.map]
  cases (nextMessage #[] channel.incoming).value.1 with
  | error fault => rfl
  | ok message => exact congrArg Except.ok (Received.ofKept_take role message).symm

/-- The reader of a relay is the reader of all channels, on the channel that the relay has. -/
theorem reads_receiver_iff {role : Role} {channel after : Channel}
    {result : Except TransportFault Received} :
    receiver.Reads role channel result after ↔ (Received.read role channel).value = (result, after) := by
  constructor
  · intro reads
    obtain ⟨same, last⟩ := reads.unique (reads_receiver role channel)
    exact Prod.ext same last
  · intro same
    have reads := reads_receiver role channel
    rw [same] at reads
    exact reads

theorem read_of_carries {message : Message} {taken : List Arrival} (carries : Carries message taken)
    (role : Role) (channel : Channel) (rest : List Arrival) :
    (Received.read role (channel.withQueue (taken ++ rest))).value =
      (.ok (.classify role message), channel.withQueue rest) := by
  rw [value_read, withQueue_incoming, nextMessage_of_carries carries]
  rfl

theorem read_of_begins {frames : Message} {front : List Arrival} (begins : Begins frames front)
    (role : Role) (channel : Channel) (fault : TransportFault) (rest : List Arrival) :
    (Received.read role (channel.withQueue (front ++ .failure fault :: rest))).value =
      (.error fault, channel.withQueue rest) := by
  rw [value_read, withQueue_incoming, nextMessage_of_begins begins]
  rfl

/-- A queue that ends inside a message is read as the end of the channel. -/
theorem read_of_cut {frames : Message} {front : List Arrival} (begins : Begins frames front)
    (role : Role) (channel : Channel) :
    (Received.read role (channel.withQueue front)).value =
      (.error .closed, channel.withQueue []) := by
  have cut := nextMessage_of_begins begins #[] []
  rw [List.append_nil] at cut
  rw [value_read, withQueue_incoming, cut]
  rfl

/-- Messages in a queue are read one by one, in order. -/
theorem readsEach_of_carriesEach {messages : List Message} {taken : List Arrival}
    (carries : CarriesEach messages taken) (role : Role) (channel : Channel) (rest : List Arrival) :
    receiver.ReadsEach role (channel.withQueue (taken ++ rest)) (messages.map (.classify role))
      (channel.withQueue rest) := by
  induction carries with
  | nothing => exact .nothing _
  | message first _ ih =>
    refine .message (reads_receiver_iff.mpr ?_) ih
    rw [List.append_assoc, read_of_carries first]

end Channel

/-! ## Readers keep to messages -/

/-- What a reader does on a channel, whatever the channel is. -/
structure Receiver.KeepsToMessages {σ : Type} (receive : Receiver σ) (role : Role) : Prop where
  /-- A message that arrives is read up to its last frame and no further. -/
  whole : ∀ {state after : σ} {message : Message}, message ≠ [] →
    receive.Delivers state message.parts after →
      receive.Reads role state (.ok (.classify role message)) after
  /-- Nothing that a message is makes the reader lose the others. -/
  inOrder : ∀ {state after : σ} {messages : List Message}, (∀ message ∈ messages, message ≠ []) →
    receive.Delivers state (messages.flatMap Message.parts) after →
      receive.ReadsEach role state (messages.map (.classify role)) after
  /-- A message that breaks off takes the frames that arrived with it, and is not read as a shorter
  one; the end of the channel is a way to break off. -/
  broken : ∀ {state middle after : σ} {frames : Message} {fault : TransportFault},
    receive.Delivers state (frames.map fun data => ⟨data, true⟩) middle →
      receive middle = (.error fault, after) → receive.Reads role state (.error fault) after
  /-- Reading comes to one thing only. -/
  unique : ∀ {state after other : σ} {one two : Except TransportFault Received},
    receive.Reads role state one after → receive.Reads role state two other →
      two = one ∧ other = after

/-- What the reader of a relay does on a channel with any queue. -/
structure Channel.KeepsToMessages (channel : Channel) (role : Role) : Prop where
  whole : ∀ {message : Message} {taken : List Arrival} (rest : List Arrival), Carries message taken →
    (Received.read role (channel.withQueue (taken ++ rest))).value =
      (.ok (.classify role message), channel.withQueue rest)
  inOrder : ∀ {messages : List Message} {taken : List Arrival} (rest : List Arrival),
    CarriesEach messages taken →
      receiver.ReadsEach role (channel.withQueue (taken ++ rest)) (messages.map (.classify role))
        (channel.withQueue rest)
  broken : ∀ {frames : Message} {front : List Arrival} (fault : TransportFault) (rest : List Arrival),
    Begins frames front →
      (Received.read role (channel.withQueue (front ++ .failure fault :: rest))).value =
        (.error fault, channel.withQueue rest)
  cut : ∀ {frames : Message} {front : List Arrival}, Begins frames front →
    (Received.read role (channel.withQueue front)).value = (.error .closed, channel.withQueue [])

/-- A reader keeps to messages on every channel: it neither leaves one half read nor looks past one. What
it reads is told by the role and by the frames of the message. The reader of a relay is this one. -/
theorem readers_keep_to_messages (role : Role) :
    (∀ message, Received.Describes role message (.classify role message)) ∧
      (∀ {σ : Type} (receive : Receiver σ), receive.KeepsToMessages role) ∧
      (∀ channel after result, Channel.receiver.Reads role channel result after ↔
        (Received.read role channel).value = (result, after)) ∧
      ∀ channel : Channel, channel.KeepsToMessages role := by
  refine ⟨Received.describes_classify role, ?_, fun _ _ _ => Channel.reads_receiver_iff, ?_⟩
  · intro σ receive
    constructor
    case whole =>
      intro state after message nonempty delivers
      exact Receiver.reads_of_delivers nonempty delivers role
    case inOrder =>
      intro state after messages nonempty delivers
      exact Receiver.readsEach_of_delivers nonempty delivers role
    case broken =>
      intro state middle after frames fault delivers failed
      exact Receiver.reads_of_failure delivers failed role
    case unique =>
      intro state after other one two first second
      exact first.unique second
  · intro channel
    constructor
    case whole =>
      intro message taken rest carries
      exact Channel.read_of_carries carries role channel rest
    case inOrder =>
      intro messages taken rest carries
      exact Channel.readsEach_of_carriesEach carries role channel rest
    case broken =>
      intro frames front fault rest begins
      exact Channel.read_of_begins begins role channel fault rest
    case cut =>
      intro frames front begins
      exact Channel.read_of_cut begins role channel

/-- An observer reads past a message of five frames and one of one to an acknowledgment, and finds the
end of the channel behind the first frame of the next message. -/
theorem observer_reads_past_malformed_messages :
    let channel (queue : List Arrival) : Channel := { incoming := queue }
    let five : Message := [[1], [2], [3], [], [5]]
    let rest : List Arrival := [.interruption, .part ⟨[9], true⟩]
    ∃ taken, Channel.CarriesEach [five, [[7]], [[1], [2], []]] taken ∧
      Channel.receiver.ReadsEach .passiveObserver (channel (taken ++ rest))
        [.rejected (.excessFrames 5), .rejected (.shortEnvelope 1), .acknowledgment [1] (some [2])]
        (channel rest) ∧
      (Received.read .passiveObserver (channel rest)).value = (.error .closed, channel []) := by
  intro channel five rest
  have carries : Channel.CarriesEach [five, [[7]], [[1], [2], []]] _ :=
    .message ⟨[[1], [2], [3], []], [5], _, rfl,
        .arrival _ (.interruption (.arrival _ (.arrival _ (.arrival _ .nothing)))), rfl⟩
      (.message ⟨[], [7], _, rfl, .interruption .nothing, rfl⟩
        (.message ⟨[[1], [2]], [], _, rfl, .arrival _ (.arrival _ .nothing), rfl⟩ .nothing))
  have begins : Channel.Begins [[9]] rest := .interruption (.arrival _ .nothing)
  obtain ⟨-, -, -, keeps⟩ := readers_keep_to_messages .passiveObserver
  exact ⟨_, carries, (keeps {}).inOrder rest carries, (keeps {}).cut begins⟩

end BurstRelay

import BurstRelay.Proofs.Message.Grouping

/-!
# What a channel owes to its history

A channel is queued for, received from and sent on, in any order, and at some point its sends may begin to
fail. What it sent is told by the frames that were sent until then, whatever else was done: they are
grouped by their flags alone (`grouped_useEach`), and from the point on where sends fail nothing is added
(`outgoing_useEach_of_fault`). On the other side, frames that wait in a queue are received as the messages
that they are grouped into (`useEach_receiveMessage`). Whole messages survive both sides, because their
frames are grouped into them again.
-/

namespace BurstRelay.Channel

/-! ## Histories -/

/-- What is done with a channel. -/
inductive Use where
  | pushPart (part : Part)
  | pushMessage (message : Message)
  | pushFailure (kind : FaultKind)
  | failSends (kind : FaultKind)
  | interruptSends (count : Nat)
  | receive
  | receiveMessage
  | send (part : Part)
  | sendMessage (message : Message)
  deriving DecidableEq, Repr

/-- The channel behind a use, whatever came of the use. -/
def use (channel : Channel) : Use → Channel
  | .pushPart part => channel.push [.part part]
  | .pushMessage message => channel.pushMessage message
  | .pushFailure kind => channel.pushFailure kind
  | .failSends kind => channel.failSends kind
  | .interruptSends count => channel.interruptSends count
  | .receive => channel.receive.value.2
  | .receiveMessage => channel.receiveMessage.value.2
  | .send part => (channel.send part).value.2
  | .sendMessage message => (channel.sendMessage message).value.2

/-- Uses a channel again and again. -/
def useEach (channel : Channel) (uses : List Use) : Channel := uses.foldl use channel

namespace Use

/-- The frames that a use sends, if sends work. -/
def frames : Use → List Part
  | send part => [part]
  | sendMessage message => message.flagged
  | _ => []

/-- Whether sends fail from a use on. -/
def failsSends : Use → Bool
  | failSends _ => true
  | _ => false

end Use

/-- The frames that are sent in a history: those of all uses in front of the first from which sends
fail. -/
def framesSent (uses : List Use) : List Part :=
  (uses.takeWhile fun use => !use.failsSends).flatMap Use.frames

theorem useEach_cons (channel : Channel) (use : Use) (uses : List Use) :
    channel.useEach (use :: uses) = (channel.use use).useEach uses := rfl

theorem useEach_append (channel : Channel) (uses others : List Use) :
    channel.useEach (uses ++ others) = (channel.useEach uses).useEach others := List.foldl_append

variable {channel : Channel} {parts : List Part} {messages : List Message} {uses : List Use}

/-! ## The side that goes out -/

theorem Use.failsSends_eq_true {use : Use} : use.failsSends = true ↔ ∃ kind, use = failSends kind := by
  cases use with
  | _ => simp [failsSends]

/-- Sends work behind a use exactly if they worked before and the use does not make them fail. -/
theorem sendFault_use (channel : Channel) (use : Use) :
    (channel.use use).sendFault = none ↔ channel.sendFault = none ∧ use.failsSends = false := by
  cases use with
  | failSends kind => simp [Channel.use, Channel.failSends, Use.failsSends]
  | send part => simp [Channel.use, Use.failsSends, frame_of_send]
  | sendMessage message => simp [Channel.use, Use.failsSends, sendMessage, frame_of_sendParts]
  | _ => exact (and_iff_left rfl).symm

/-- Sends work exactly if no use made them fail. -/
theorem sendFault_useEach (channel : Channel) (uses : List Use) :
    (channel.useEach uses).sendFault = none ↔
      channel.sendFault = none ∧ ∀ kind, .failSends kind ∉ uses := by
  induction uses generalizing channel with
  | nil => simp [useEach]
  | cons use uses ih =>
    have harmless : use.failsSends = false ↔ ∀ kind, .failSends kind ≠ use := by
      rw [← Bool.not_eq_true, Use.failsSends_eq_true, not_exists]
      exact forall_congr' fun kind => not_congr eq_comm
    rw [useEach_cons, ih, sendFault_use, harmless, and_assoc, ← forall_and]
    simp only [List.mem_cons, not_or, ne_eq]

/-- Where sends fail, nothing that is done adds to what was sent. -/
theorem outgoing_use_of_fault {kind : FaultKind} (fails : channel.sendFault = some kind) (use : Use) :
    (channel.use use).sent = channel.sent ∧ (channel.use use).unfinished = channel.unfinished := by
  cases use with
  | send part =>
    rw [Channel.use, value_send_of_fault fails]
    exact ⟨rfl, rfl⟩
  | sendMessage message =>
    rw [Channel.use]
    by_cases empty : message = []
    · rw [empty, value_sendMessage_nil]
      exact ⟨rfl, rfl⟩
    · rw [value_sendMessage_of_fault fails empty]
      exact ⟨rfl, rfl⟩
  | _ => exact ⟨rfl, rfl⟩

theorem outgoing_useEach_of_fault (fails : channel.sendFault ≠ none) (uses : List Use) :
    (channel.useEach uses).sent = channel.sent ∧
      (channel.useEach uses).unfinished = channel.unfinished := by
  induction uses generalizing channel with
  | nil => exact ⟨rfl, rfl⟩
  | cons use uses ih =>
    obtain ⟨kind, fault⟩ := Option.ne_none_iff_exists'.mp fails
    have here := outgoing_use_of_fault fault use
    have later := @ih (channel.use use) fun works => fails ((sendFault_use channel use).mp works).1
    exact ⟨later.1.trans here.1, later.2.trans here.2⟩

/-- From the point on where sends are made to fail nothing is added, and nothing is taken back. -/
theorem outgoing_of_failSends (channel : Channel) (kind : FaultKind) (uses : List Use) :
    (channel.useEach (.failSends kind :: uses)).sent = channel.sent ∧
      (channel.useEach (.failSends kind :: uses)).unfinished = channel.unfinished := by
  have fails : (channel.use (.failSends kind)).sendFault ≠ none := Option.some_ne_none kind
  exact outgoing_useEach_of_fault fails uses

/-- Where sends work, a use adds the frames that it sends. -/
theorem grouped_use (works : channel.sendFault = none)
    (before : Grouped parts channel.sent.toList channel.unfinished) {use : Use}
    (harmless : use.failsSends = false) :
    Grouped (parts ++ use.frames) (channel.use use).sent.toList (channel.use use).unfinished := by
  cases use with
  | failSends kind => cases harmless
  | send part =>
    rw [Channel.use, Use.frames, value_send works]
    dsimp only
    rw [apply_ite Array.toList, Array.toList_push]
    exact before.append_part part
  | sendMessage message =>
    rw [Channel.use, Use.frames]
    by_cases empty : message = []
    · rw [empty, value_sendMessage_nil]
      exact before.append_nil
    · rw [value_sendMessage works empty]
      dsimp only
      rw [Array.toList_push]
      exact before.append_flagged empty
  | _ => exact before.append_nil

/-- What was sent is grouped by the flags of the frames that were sent. -/
theorem grouped_useEach (works : channel.sendFault = none)
    (before : Grouped parts channel.sent.toList channel.unfinished) (uses : List Use) :
    Grouped (parts ++ framesSent uses) (channel.useEach uses).sent.toList
      (channel.useEach uses).unfinished := by
  induction uses generalizing channel parts with
  | nil => exact before.append_nil
  | cons use uses ih =>
    cases harmless : use.failsSends with
    | true =>
      -- no frame counts from here on, and none is added
      obtain ⟨kind, rfl⟩ := Use.failsSends_eq_true.mp harmless
      obtain ⟨sent, unfinished⟩ := channel.outgoing_of_failSends kind uses
      rw [sent, unfinished]
      exact before.append_nil
    | false =>
      have frames : framesSent (use :: uses) = use.frames ++ framesSent uses := by
        simp [framesSent, harmless]
      rw [useEach_cons, frames, ← List.append_assoc]
      exact ih ((sendFault_use channel use).mpr ⟨works, harmless⟩) (grouped_use works before harmless)

theorem framesSent_map_sendMessage (messages : List Message) :
    framesSent (messages.map .sendMessage) = messages.flatMap Message.flagged := by
  induction messages with
  | nil => rfl
  | cons message messages ih =>
    rw [List.flatMap_cons, ← ih]
    rfl

/-- Messages that are sent behind whole messages are the next ones that were sent. -/
theorem useEach_map_sendMessage (works : channel.sendFault = none)
    (before : Grouped parts channel.sent.toList channel.unfinished)
    (finished : channel.unfinished = []) (messages : List Message) :
    (channel.useEach (messages.map .sendMessage)).sent.toList =
        channel.sent.toList ++ messages.filter (· ≠ []) ∧
      (channel.useEach (messages.map .sendMessage)).unfinished = [] := by
  have sent := grouped_useEach works before (messages.map .sendMessage)
  rw [framesSent_map_sendMessage] at sent
  rw [finished] at before
  -- the frames are those of the messages, and there is one way to group them
  exact (before.append (grouped_flagged messages)).unique sent

/-! ## The side that comes in -/

theorem useEach_map_pushMessage (channel : Channel) (messages : List Message) :
    channel.useEach (messages.map .pushMessage) =
      channel.push ((messages.flatMap Message.flagged).map .part) := by
  induction messages generalizing channel with
  | nil => simp [useEach, push]
  | cons message messages ih =>
    rw [List.map_cons, useEach_cons, ih, List.flatMap_cons, List.map_append]
    simp [use, push, pushMessage, Message.parts_eq_flagged]

theorem remaining_of_grouped (channel : Channel) (grouped : Grouped parts messages []) :
    (channel.withQueue (parts.map .part)).remaining = messages.flatten.length := by
  have same := congrArg List.length grouped.flatten
  rw [List.append_nil, List.length_map] at same
  rw [same]
  simp [remaining, List.countP_map, Function.comp_def, Arrival.isPart]

/-- The first of the messages that the frames in a queue are grouped into is received, and the frames of
the others are left. -/
theorem receiveMessage_of_grouped (channel : Channel) (grouped : Grouped parts messages []) :
    ∃ behind, Grouped behind messages.tail [] ∧
      (channel.withQueue (parts.map .part)).receiveMessage.value =
        (messages.head?.elim (.error .closed) .ok, channel.withQueue (behind.map .part)) := by
  cases messages with
  | nil =>
    have nothing : parts = [] := List.map_eq_nil_iff.mp grouped.flatten.symm
    rw [nothing]
    exact ⟨[], .nothing, rfl⟩
  | cons message messages =>
    obtain ⟨behind, nonempty, rfl, others⟩ := grouped.split
    refine ⟨behind, others, ?_⟩
    rw [value_receiveMessage, withQueue_incoming, List.map_append, nextMessage_parts _ _ nonempty]
    rfl

theorem useEach_receiveMessage (channel : Channel) (grouped : Grouped parts messages [])
    (count : Nat) :
    ∃ left, Grouped left (messages.drop count) [] ∧
      (channel.withQueue (parts.map .part)).useEach (List.replicate count .receiveMessage) =
        channel.withQueue (left.map .part) := by
  induction count generalizing parts messages with
  | zero => exact ⟨parts, grouped, rfl⟩
  | succ count ih =>
    -- nothing is left of no messages, so that the queue may run out on the way
    obtain ⟨behind, others, received⟩ := channel.receiveMessage_of_grouped grouped
    rw [List.replicate_succ, useEach_cons, use, received, ← List.drop_tail]
    exact ih others

/-! ## Both sides -/

/-- What becomes of messages on a channel with a history. -/
structure KeepsMessages (uses : List Use) (channel : Channel) : Prop where
  /-- Each message that was sent is the frames up to the first that no other follows, and what is not
  finished are the frames behind the last such frame. -/
  grouped : ∀ messages rest, Grouped (framesSent uses) messages rest ↔
    channel.sent.toList = messages ∧ channel.unfinished = rest
  flattened : channel.sent.toList.flatten ++ channel.unfinished = (framesSent uses).map Part.data
  /-- Sends succeed unless they were made to fail. -/
  succeeds : (∀ kind, .failSends kind ∉ uses) →
    (∀ part, (channel.send part).value.1 = .ok ()) ∧
      ∀ message, (channel.sendMessage message).value.1 = .ok ()
  /-- Messages that are sent with nothing unfinished before them are sent as they are. -/
  sends : (∀ kind, .failSends kind ∉ uses) → channel.unfinished = [] → ∀ messages : List Message,
    let after := channel.useEach (messages.map .sendMessage)
    after.sent.toList = channel.sent.toList ++ messages.filter (· ≠ []) ∧ after.unfinished = []
  /-- Messages that are queued with nothing before them are received one by one, and then the end of the
  channel is, as often as it is asked for; their frames are counted down. -/
  receives : channel.incoming = [] → ∀ (messages : List Message) (count : Nat),
    let whole := messages.filter (· ≠ [])
    let after := channel.useEach
      (messages.map .pushMessage ++ List.replicate count .receiveMessage)
    after.remaining = (whole.drop count).flatten.length ∧
      after.receiveMessage.value.1 = whole[count]?.elim (.error .closed) .ok
  /-- Receiving a message is receiving frame by frame, up to the first that no other follows. -/
  gathers : channel.receiveMessage.value =
    match channel.receive.value with
    | (.error fault, after) => (.error fault, after)
    | (.ok part, after) =>
      if part.more then Prod.map (Except.map (part.data :: ·)) id after.receiveMessage.value
      else (.ok [part.data], after)
  /-- A message without frames adds nothing on either side. -/
  empty : (channel.sendMessage []).value = (.ok (), channel) ∧ channel.pushMessage [] = channel
  /-- Where sends fail, nothing that is done changes what was sent. -/
  fails : ∀ kind later,
    let after := channel.useEach (.failSends kind :: later)
    after.sent = channel.sent ∧ after.unfinished = channel.unfinished

/-- Messages survive a channel, whatever was done with it: the frames that are sent are grouped into
messages by their flags, the flags of whole messages make that these messages again, and so it is with
messages that are queued and received. -/
theorem messages_survive (uses : List Use) : KeepsMessages uses (useEach {} uses) := by
  have grouped : Grouped ([] ++ framesSent uses) (useEach {} uses).sent.toList
      (useEach {} uses).unfinished := grouped_useEach rfl .nothing uses
  have works (harmless : ∀ kind, .failSends kind ∉ uses) : (useEach {} uses).sendFault = none :=
    (sendFault_useEach {} uses).mpr ⟨rfl, harmless⟩
  constructor
  case grouped =>
    intro messages rest
    constructor
    · exact fun other => other.unique grouped
    · rintro ⟨rfl, rfl⟩
      exact grouped
  case flattened => exact grouped.flatten
  case succeeds =>
    intro harmless
    constructor
    · intro part
      rw [value_send (works harmless)]
    · intro message
      by_cases empty : message = []
      · rw [empty, value_sendMessage_nil]
      · rw [value_sendMessage (works harmless) empty]
  case sends =>
    intro harmless finished messages
    exact useEach_map_sendMessage (works harmless) grouped finished messages
  case receives =>
    intro nothing messages count
    have queued : (useEach {} uses).useEach (messages.map .pushMessage) =
        (useEach {} uses).withQueue ((messages.flatMap Message.flagged).map .part) := by
      rw [useEach_map_pushMessage]
      unfold push
      rw [nothing]
      rfl
    obtain ⟨left, whole, received⟩ :=
      (useEach {} uses).useEach_receiveMessage (grouped_flagged messages) count
    dsimp only
    rw [useEach_append, queued, received]
    refine ⟨remaining_of_grouped _ whole, ?_⟩
    obtain ⟨behind, -, next⟩ := (useEach {} uses).receiveMessage_of_grouped whole
    rw [next, List.head?_drop]
  case gathers => exact receiveMessage_eq_receive _
  case empty => exact ⟨value_sendMessage_nil _, by simp [pushMessage, push, Message.parts]⟩
  case fails =>
    intro kind later
    exact outgoing_of_failSends _ kind later

/-- A channel that was sent on frame by frame, in whole messages and between interruptions sends two
messages more as they are, and they come through its own queue one by one. -/
theorem messages_survive_behind_half_message :
    let uses : List Use :=
      [.send ⟨[1], true⟩, .interruptSends 2, .sendMessage [[2], []], .sendMessage [],
        .send ⟨[3], false⟩]
    let channel := useEach {} uses
    let messages : List Message := [[[4]], [], [[], [5]]]
    let queued (count : Nat) := channel.useEach
      (messages.map .pushMessage ++ List.replicate count .receiveMessage)
    (∀ kind, .failSends kind ∉ uses) ∧ channel.unfinished = [] ∧ channel.incoming = [] ∧
      channel.sent.toList = [[[1], [2], []], [[3]]] ∧
      (channel.useEach (messages.map .sendMessage)).sent.toList =
        [[[1], [2], []], [[3]], [[4]], [[], [5]]] ∧
      (queued 1).remaining = 2 ∧ (queued 1).receiveMessage.value.1 = .ok [[], [5]] ∧
      (queued 2).remaining = 0 ∧ (queued 2).receiveMessage.value.1 = .error .closed := by
  intro uses channel messages queued
  have keeps := messages_survive uses
  have harmless : ∀ kind, .failSends kind ∉ uses := by simp [uses]
  have second := keeps.receives rfl messages 1
  have ended := keeps.receives rfl messages 2
  exact ⟨harmless, rfl, rfl, rfl, (keeps.sends harmless rfl messages).1, second.1, second.2,
    ended.1, ended.2⟩

end BurstRelay.Channel

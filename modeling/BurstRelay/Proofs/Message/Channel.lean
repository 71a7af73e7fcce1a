import BurstRelay.Message.Channel

/-!
# Receiving and sending whole messages

Receiving looks at nothing but the queue, and leaves a shorter one (`length_lt_of_nextMessage`). A message
is received frame by frame, up to the first that no other follows (`receiveMessage_eq_receive`).
Sending looks at nothing but the side that goes out, and a whole message that is sent on a channel
whose sends work becomes one more message sent (`value_sendMessage`).
-/

namespace BurstRelay.Channel

/-! ## Receiving -/

/-- The channel with another queue. -/
def withQueue (channel : Channel) (queue : List Arrival) : Channel :=
  { channel with incoming := queue }

@[simp] theorem withQueue_incoming (channel : Channel) (queue : List Arrival) :
    (channel.withQueue queue).incoming = queue := rfl

/-- Receiving changes the queue alone. -/
theorem value_receiveMessage (channel : Channel) :
    channel.receiveMessage.value =
      ((nextMessage #[] channel.incoming).value.1,
        channel.withQueue (nextMessage #[] channel.incoming).value.2) := rfl

/-- The frames gathered before stand in front of those that the queue gives. -/
theorem nextMessage_gathered (gathered : Array Bytes) (queue : List Arrival) :
    (nextMessage gathered queue).value =
      Prod.map (Except.map (gathered.toList ++ ·)) id (nextMessage #[] queue).value := by
  induction queue generalizing gathered with
  | nil => rfl
  | cons arrival queue ih =>
    cases arrival with
    | failure fault => rfl
    | interruption => exact ih gathered
    | part part =>
      obtain ⟨data, more⟩ := part
      cases more with
      | false => simp [nextMessage, Except.map]
      | true =>
        rw [nextMessage, if_pos rfl, ih, nextMessage, if_pos rfl, ih (#[].push data)]
        rcases (nextMessage #[] queue).value with ⟨result, rest⟩
        cases result with
        | error fault => rfl
        | ok message => simp [Except.map]

/-- A message is received frame by frame, up to the first that no other follows. -/
theorem receiveMessage_eq_receive (channel : Channel) :
    channel.receiveMessage.value =
      match channel.receive.value with
      | (.error fault, after) => (.error fault, after)
      | (.ok part, after) =>
        if part.more then Prod.map (Except.map (part.data :: ·)) id after.receiveMessage.value
        else (.ok [part.data], after) := by
  rw [value_receiveMessage]
  simp only [receive, Logged.value_bind, Logged.value_pure]
  induction channel.incoming with
  | nil => rfl
  | cons arrival queue ih =>
    cases arrival with
    | failure fault => rfl
    | interruption => exact ih
    | part part =>
      obtain ⟨data, more⟩ := part
      cases more with
      | false => rfl
      | true =>
        rw [nextMessage, if_pos rfl, nextMessage_gathered]
        rfl

theorem length_lt_of_nextMessage {gathered : Array Bytes} {queue rest : List Arrival}
    {message : Message} (taken : (nextMessage gathered queue).value = (.ok message, rest)) :
    rest.length < queue.length := by
  induction queue generalizing gathered with
  | nil => simp [nextMessage] at taken
  | cons arrival queue ih =>
    rw [List.length_cons]
    cases arrival with
    | part part =>
      rw [nextMessage] at taken
      split at taken
      · have shorter := ih taken
        omega
      · simp only [Logged.value_pure, Prod.mk.injEq] at taken
        rw [← taken.2]
        omega
    | failure fault => simp [nextMessage] at taken
    | interruption =>
      have shorter := ih taken
      omega

/-! ## Sending -/

/-- Sending does not touch the queue, nor whether sends work. -/
theorem frame_of_send (channel : Channel) (part : Part) :
    (channel.send part).value.2.incoming = channel.incoming ∧
      (channel.send part).value.2.sendFault = channel.sendFault := by
  simp only [send, Logged.value_bind]
  split
  · exact ⟨rfl, rfl⟩
  · split
    · exact ⟨rfl, rfl⟩
    · exact ⟨rfl, rfl⟩

theorem frame_of_sendParts (channel : Channel) (parts : List Part) :
    (channel.sendParts parts).value.2.incoming = channel.incoming ∧
      (channel.sendParts parts).value.2.sendFault = channel.sendFault := by
  induction parts generalizing channel with
  | nil => exact ⟨rfl, rfl⟩
  | cons part parts ih =>
    have here := channel.frame_of_send part
    simp only [sendParts, Logged.value_bind]
    cases sent : (channel.send part).value with
    | mk result middle =>
      rw [sent] at here
      cases result with
      | error fault => exact here
      | ok done => exact ⟨(ih middle).1.trans here.1, (ih middle).2.trans here.2⟩

/-- A frame that is sent goes behind those of its message, and the last one completes the message. -/
theorem value_send {channel : Channel} (works : channel.sendFault = none) (part : Part) :
    (channel.send part).value = (.ok (), { channel with
      sendInterruptions := 0
      sent :=
        if part.more then channel.sent else channel.sent.push (channel.unfinished ++ [part.data])
      unfinished := if part.more then channel.unfinished ++ [part.data] else [] }) := by
  simp only [send, Logged.value_bind, works]
  cases part.more with
  | true => rfl
  | false => rfl

/-- A message without frames sends nothing. -/
theorem value_sendMessage_nil (channel : Channel) :
    (channel.sendMessage []).value = (.ok (), channel) := rfl

/-- A whole message that is sent completes what was not finished before. -/
theorem value_sendMessage {channel : Channel} (works : channel.sendFault = none) {message : Message}
    (nonempty : message ≠ []) :
    (channel.sendMessage message).value = (.ok (), { channel with
      sendInterruptions := 0
      sent := channel.sent.push (channel.unfinished ++ message)
      unfinished := [] }) := by
  unfold sendMessage
  induction message generalizing channel with
  | nil => exact absurd rfl nonempty
  | cons data message ih =>
    cases message with
    | nil =>
      simp only [Message.parts, sendParts, Logged.value_bind, value_send works]
      rfl
    | cons next message =>
      rw [Message.parts_cons_cons, sendParts, Logged.value_bind, value_send works]
      have others := @ih { channel with
        sendInterruptions := 0, unfinished := channel.unfinished ++ [data] } works (by simp)
      simpa using others

/-- Where sends fail, a frame that is sent is lost. -/
theorem value_send_of_fault {channel : Channel} {kind : FaultKind}
    (fails : channel.sendFault = some kind) (part : Part) :
    (channel.send part).value =
      (.error (.stream "scripted send failure" (.ofKind kind)),
        { channel with sendInterruptions := 0 }) := by
  simp only [send, Logged.value_bind, fails]
  rfl

/-- Where sends fail, the first frame of a message fails, and none is left half sent. -/
theorem value_sendMessage_of_fault {channel : Channel} {kind : FaultKind}
    (fails : channel.sendFault = some kind) {message : Message} (nonempty : message ≠ []) :
    (channel.sendMessage message).value =
      (.error (.stream "scripted send failure" (.ofKind kind)),
        { channel with sendInterruptions := 0 }) := by
  obtain ⟨part, parts, split⟩ : ∃ part parts, message.parts = part :: parts := by
    match message with
    | [] => exact absurd rfl nonempty
    | [_] => exact ⟨_, _, rfl⟩
    | _ :: _ :: _ => exact ⟨_, _, rfl⟩
  unfold sendMessage
  rw [split, sendParts, Logged.value_bind, value_send_of_fault fails]
  rfl

/-- A message can only be sent on a channel whose sends work. -/
theorem sent_of_sendMessage {channel after : Channel} {message : Message} (nonempty : message ≠ [])
    (sends : (channel.sendMessage message).value = (.ok (), after)) :
    after.sent = channel.sent.push (channel.unfinished ++ message) ∧ after.unfinished = [] := by
  cases works : channel.sendFault with
  | none =>
    rw [value_sendMessage works nonempty] at sends
    cases sends
    exact ⟨rfl, rfl⟩
  | some kind =>
    rw [value_sendMessage_of_fault works nonempty] at sends
    cases sends

/-- A message that fails to be sent leaves what was sent before as it is. -/
theorem sent_of_sendMessage_error {channel after : Channel} {message : Message}
    {fault : TransportFault} (nonempty : message ≠ [])
    (fails : (channel.sendMessage message).value = (.error fault, after)) :
    after.sent = channel.sent ∧ after.unfinished = channel.unfinished := by
  cases works : channel.sendFault with
  | none =>
    rw [value_sendMessage works nonempty] at fails
    cases fails
  | some kind =>
    rw [value_sendMessage_of_fault works nonempty] at fails
    cases fails
    exact ⟨rfl, rfl⟩

end BurstRelay.Channel

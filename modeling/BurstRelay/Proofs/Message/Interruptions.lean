import BurstRelay.Proofs.Message.Channel
import BurstRelay.Relay.Envelope

/-!
# Interrupted channels

`Channel.undisturbed` is a channel without the interruptions that wait in its queue and before its next
send. Receiving and sending come to the same on it, and leave what they leave on the channel itself,
again without interruptions (`receiveMessage_undisturbed`, `sendMessage_undisturbed`). A queue that
interruptions were put into, at any places, is the same queue without them
(`Interspersed.undisturbed_eq`).
-/

namespace BurstRelay

namespace Channel

/-! ## Queues -/

/-- What waits in a queue, without the interruptions. -/
def undisturbedQueue (queue : List Arrival) : List Arrival :=
  queue.filter fun arrival => arrival ≠ .interruption

/-- A queue with interruptions put into it at any places. -/
inductive Interspersed : List Arrival → List Arrival → Prop
  | nothing : Interspersed [] []
  | arrival {queue longer : List Arrival} (arrival : Arrival) (others : Interspersed queue longer) :
      Interspersed (arrival :: queue) (arrival :: longer)
  | interruption {queue longer : List Arrival} (others : Interspersed queue longer) :
      Interspersed queue (.interruption :: longer)

theorem Interspersed.undisturbed_eq {queue longer : List Arrival}
    (interspersed : Interspersed queue longer) :
    undisturbedQueue longer = undisturbedQueue queue := by
  induction interspersed with
  | nothing => rfl
  | arrival arrival _ ih =>
    unfold undisturbedQueue at ih ⊢
    rw [List.filter_cons, List.filter_cons, ih]
  | interruption _ ih => exact ih

/-- An interruption neither ends a message nor changes what is gathered of it. -/
theorem nextMessage_undisturbed (gathered : Array Bytes) (queue : List Arrival) :
    (nextMessage gathered (undisturbedQueue queue)).value =
      Prod.map id undisturbedQueue (nextMessage gathered queue).value := by
  induction queue generalizing gathered with
  | nil => rfl
  | cons arrival queue ih =>
    cases arrival with
    | interruption => exact ih gathered
    | failure fault => rfl
    | part part =>
      show (nextMessage gathered (.part part :: undisturbedQueue queue)).value = _
      rw [nextMessage, nextMessage]
      split
      · exact ih (gathered.push part.data)
      · rfl

theorem length_undisturbedQueue_le (queue : List Arrival) :
    (undisturbedQueue queue).length ≤ queue.length :=
  List.length_filter_le _ queue

/-- Interruptions are no frames. -/
theorem countP_undisturbedQueue (queue : List Arrival) :
    (undisturbedQueue queue).countP Arrival.isPart = queue.countP Arrival.isPart := by
  unfold undisturbedQueue
  rw [List.countP_filter]
  apply List.countP_congr
  intro arrival _
  cases arrival with
  | part part => simp [Arrival.isPart]
  | interruption => simp [Arrival.isPart]
  | failure fault => simp [Arrival.isPart]

/-! ## Channels -/

/-- The channel without the interruptions that are still to come. -/
def undisturbed (channel : Channel) : Channel :=
  { channel with incoming := undisturbedQueue channel.incoming, sendInterruptions := 0 }

theorem undisturbed_of_interspersed {channel : Channel} {queue : List Arrival} (count : Nat)
    (interspersed : Interspersed channel.incoming queue) :
    ((channel.withQueue queue).interruptSends count).undisturbed = channel.undisturbed := by
  unfold undisturbed
  dsimp only [interruptSends, withQueue]
  rw [interspersed.undisturbed_eq]

theorem receiveMessage_undisturbed (channel : Channel) :
    channel.undisturbed.receiveMessage.value =
      Prod.map id undisturbed channel.receiveMessage.value := by
  rw [value_receiveMessage, value_receiveMessage]
  dsimp only [undisturbed]
  rw [nextMessage_undisturbed]
  rfl

theorem send_undisturbed (channel : Channel) (part : Part) :
    (channel.undisturbed.send part).value = Prod.map id undisturbed (channel.send part).value := by
  simp only [send, Logged.value_bind]
  dsimp only [undisturbed]
  split
  · rfl
  · split
    · rfl
    · rfl

theorem sendParts_undisturbed (channel : Channel) (parts : List Part) :
    (channel.undisturbed.sendParts parts).value =
      Prod.map id undisturbed (channel.sendParts parts).value := by
  induction parts generalizing channel with
  | nil => rfl
  | cons part parts ih =>
    simp only [sendParts, Logged.value_bind]
    rw [send_undisturbed]
    rcases (channel.send part).value with ⟨result, after⟩
    cases result with
    | error fault => rfl
    | ok done => exact ih after

theorem sendMessage_undisturbed (channel : Channel) (message : Message) :
    (channel.undisturbed.sendMessage message).value =
      Prod.map id undisturbed (channel.sendMessage message).value :=
  sendParts_undisturbed channel message.parts

end Channel

/-- A message is received and classified as it is without interruptions. -/
theorem Received.read_undisturbed (role : Role) (channel : Channel) :
    (read role channel.undisturbed).value =
      Prod.map id Channel.undisturbed (read role channel).value := by
  simp only [read, Logged.value_bind]
  rw [Channel.receiveMessage_undisturbed]
  rcases channel.receiveMessage.value with ⟨result, after⟩
  cases result with
  | error fault => rfl
  | ok frames =>
    dsimp only [Prod.map_apply, id]
    split
    · rfl
    · rfl

end BurstRelay

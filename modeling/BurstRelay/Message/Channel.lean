import BurstRelay.Bytes.Basic
import BurstRelay.Log
import BurstRelay.Message.Fault

/-!
# Message channels

A message is a sequence of frames, sent and received one at a time; every frame says whether more
frames of its message follow. A channel receives what is queued for it, in order, and reports its
orderly end when nothing is left; what it sends is grouped into messages again by the same flag.

A queue can also hold interruptions, after which receiving goes on, and failures. Sending can be
made to be interrupted so many times, and to fail for good.
-/

namespace BurstRelay

/-- One frame of a message on its way. -/
structure Part where
  data : Bytes
  /-- Whether more frames of the same message follow. -/
  more : Bool
  deriving DecidableEq, Repr

/-- The frames of a whole message. -/
abbrev Message := List Bytes

/-- What is queued for a channel. -/
inductive Arrival where
  | part (part : Part)
  | interruption
  | failure (fault : TransportFault)
  deriving DecidableEq, Repr

def Arrival.isPart : Arrival → Bool
  | part _ => true
  | _ => false

/-- A message channel with what is queued for it and what it sent. -/
structure Channel where
  incoming : List Arrival := []
  /-- The complete messages sent. -/
  sent : Array Message := #[]
  /-- The frames of a message whose last frame was not sent yet. -/
  unfinished : Message := []
  /-- How every send fails, if it does. -/
  sendFault : Option FaultKind := none
  /-- The interruptions that the next send meets first. -/
  sendInterruptions : Nat := 0

/-- The frames of a message with their flags: all but the last are followed by more. -/
def Message.parts : Message → List Part
  | [] => []
  | [data] => [⟨data, false⟩]
  | data :: rest => ⟨data, true⟩ :: Message.parts rest

@[simp] theorem Message.parts_cons_cons (data next : Bytes) (rest : Message) :
    Message.parts (data :: next :: rest) = ⟨data, true⟩ :: Message.parts (next :: rest) := rfl

namespace Channel

/-! ## Queueing -/

/-- Queues arrivals behind those that are queued already. -/
def push (channel : Channel) (arrivals : List Arrival) : Channel :=
  { channel with incoming := channel.incoming ++ arrivals }

/-- Queues a whole message. -/
def pushMessage (channel : Channel) (message : Message) : Channel :=
  channel.push (message.parts.map .part)

/-- Queues a failure to receive. Interruptions are failures that receiving goes on after. -/
def pushFailure (channel : Channel) (kind : FaultKind) : Channel :=
  channel.push
    [if kind = .interrupted then .interruption
     else .failure (.stream "scripted receive failure" (.ofKind kind))]

/-- Makes every send from now on fail. -/
def failSends (channel : Channel) (kind : FaultKind) : Channel :=
  { channel with sendFault := some kind }

/-- Makes the next sends meet so many interruptions more. -/
def interruptSends (channel : Channel) (count : Nat) : Channel :=
  { channel with sendInterruptions := channel.sendInterruptions + count }

/-- The number of frames that wait to be received. -/
def remaining (channel : Channel) : Nat :=
  channel.incoming.countP Arrival.isPart

@[simp] theorem remaining_push (channel : Channel) (arrivals : List Arrival) :
    (channel.push arrivals).remaining = channel.remaining + arrivals.countP Arrival.isPart := by
  simp [push, remaining]

/-! ## Receiving -/

/-- The next frame of a queue, or why there is none, and what is queued behind it. -/
def nextPart : List Arrival → Logged (Except TransportFault Part × List Arrival)
  | [] => return (.error .closed, [])
  | .part part :: rest => return (.ok part, rest)
  | .failure fault :: rest => return (.error fault, rest)
  | .interruption :: rest => do
    Logged.report .trace "recv interrupted, retrying"
    nextPart rest

/-- Receives the next frame. -/
def receive (channel : Channel) : Logged (Except TransportFault Part × Channel) := do
  let (result, incoming) ← nextPart channel.incoming
  return (result, { channel with incoming })

/-- The frames of the next message of a queue, behind those gathered before, and what is queued
behind the message. A message that the channel fails in is lost. -/
def nextMessage (gathered : Array Bytes) :
    List Arrival → Logged (Except TransportFault Message × List Arrival)
  | [] => return (.error .closed, [])
  | .part ⟨data, more⟩ :: rest =>
    if more then nextMessage (gathered.push data) rest
    else return (.ok (gathered.push data).toList, rest)
  | .failure fault :: rest => return (.error fault, rest)
  | .interruption :: rest => do
    Logged.report .trace "recv interrupted, retrying"
    nextMessage gathered rest

/-- A message that is queued in front is the next one, and what is queued behind it stays. -/
theorem nextMessage_parts (gathered : Array Bytes) {message : Message} (rest : List Arrival)
    (nonempty : message ≠ []) :
    nextMessage gathered (message.parts.map .part ++ rest) =
      return (.ok (gathered.toList ++ message), rest) := by
  induction message generalizing gathered with
  | nil => exact absurd rfl nonempty
  | cons data message ih =>
    cases message with
    | nil => simp [Message.parts, nextMessage]
    | cons next message =>
      rw [Message.parts_cons_cons, List.map_cons, List.cons_append, nextMessage, if_pos rfl,
        ih (gathered.push data) (by simp)]
      simp

/-- Receives all frames of the next message. -/
def receiveMessage (channel : Channel) : Logged (Except TransportFault Message × Channel) := do
  let (result, incoming) ← nextMessage #[] channel.incoming
  return (result, { channel with incoming })

/-! ## Sending -/

/-- Meets the interruptions of a send. -/
def interrupted : Nat → Logged Unit
  | 0 => return ()
  | count + 1 => do
    Logged.report .trace "send interrupted, retrying"
    interrupted count

def send (channel : Channel) (part : Part) : Logged (Except TransportFault Unit × Channel) := do
  interrupted channel.sendInterruptions
  let channel := { channel with sendInterruptions := 0 }
  match channel.sendFault with
  | some kind => return (.error (.stream "scripted send failure" (.ofKind kind)), channel)
  | none =>
    let message := channel.unfinished ++ [part.data]
    if part.more then return (.ok (), { channel with unfinished := message })
    else return (.ok (), { channel with sent := channel.sent.push message, unfinished := [] })

/-- Sends frames in turn, up to the first that fails. -/
def sendParts (channel : Channel) : List Part → Logged (Except TransportFault Unit × Channel)
  | [] => return (.ok (), channel)
  | part :: parts => do
    match ← channel.send part with
    | (.ok (), channel) => channel.sendParts parts
    | (.error fault, channel) => return (.error fault, channel)

/-- Sends a whole message; one without frames sends nothing. -/
def sendMessage (channel : Channel) (message : Message) :
    Logged (Except TransportFault Unit × Channel) :=
  channel.sendParts message.parts

end Channel

end BurstRelay

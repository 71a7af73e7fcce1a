import BurstRelay.Message.Channel
import BurstRelay.Relay.Fault
import BurstRelay.Relay.Role

/-!
# Envelopes

A burst travels in an envelope of three frames: the identity of its producer, the id of the message,
and the payload. A passive observer also sees the acknowledgments that travel back, which end with
an empty frame. Everything else is rejected. A message is always received as a whole before it is
classified, so that the next one starts where it should.
-/

namespace BurstRelay

/-- A burst on its way. -/
structure Envelope where
  identity : Bytes
  messageId : Bytes
  payload : Bytes
  deriving DecidableEq, Repr

/-- What a received message is. -/
inductive Received where
  | envelope (envelope : Envelope)
  /-- The acknowledgment of a burst that an observer saw earlier. -/
  | acknowledgment (identity : Bytes) (messageId : Option Bytes)
  | rejected (fault : SkipFault)
  deriving DecidableEq, Repr

namespace Received

/-- What the frames of a message are to a role. -/
def classify (role : Role) (frames : Message) : Received :=
  match frames with
  | [identity, messageId, payload] =>
    if role = .passiveObserver ∧ payload = [] then .acknowledgment identity (some messageId)
    else .envelope ⟨identity, messageId, payload⟩
  | [identity, last] =>
    if role = .passiveObserver ∧ last = [] then .acknowledgment identity none
    else .rejected (.shortEnvelope 2)
  | frames =>
    if 3 < frames.length then .rejected (.excessFrames frames.length)
    else .rejected (.shortEnvelope frames.length)

/-- Receives and classifies the next message. -/
def read (role : Role) (channel : Channel) :
    Logged (Except TransportFault Received × Channel) := do
  match ← channel.receiveMessage with
  | (.error fault, channel) => return (.error fault, channel)
  | (.ok frames, channel) =>
    if 3 < frames.length then
      Logged.report .trace "drained oversized envelope" [("frames", toString frames.length)]
    return (.ok (classify role frames), channel)

end Received

end BurstRelay

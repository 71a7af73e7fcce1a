import BurstRelay.Bytes.Hex
import BurstRelay.Relay.Envelope

/-!
# Acknowledgments

A producer keeps a burst outstanding until a message with the same identity and message id and an
empty last frame comes back. Only the roles in the path of the burst send it. A configured delay
comes first, to stand for a slow consumer.
-/

namespace BurstRelay

/-- What sends acknowledgments for a role. -/
structure Acknowledger where
  role : Role
  delayMs : UInt64
  /-- The acknowledgments sent so far. -/
  sent : Nat := 0
  deriving DecidableEq, Repr

namespace Acknowledger

/-- The frames of the acknowledgment of an envelope. -/
def reply (envelope : Envelope) : Message := [envelope.identity, envelope.messageId, []]

/-- Acknowledges an envelope if the role does that, and says whether it did. -/
def acknowledge (acknowledger : Acknowledger) (channel : Channel) (envelope : Envelope) :
    Logged (Except TransportFault Bool × Acknowledger × Channel) := do
  if !acknowledger.role.acknowledges then
    Logged.report .trace "role never acknowledges" [("role", acknowledger.role.name)]
    return (.ok false, acknowledger, channel)
  else
    if acknowledger.delayMs ≠ 0 then
      Logged.report .trace "delaying acknowledgment"
        [("delay_ms", toString acknowledger.delayMs)]
    match ← channel.sendMessage (reply envelope) with
    | (.error fault, channel) => return (.error fault, acknowledger, channel)
    | (.ok (), channel) =>
      Logged.report .debug "acknowledgment sent" [("message_id", Hex.text envelope.messageId)]
      return (.ok true, { acknowledger with sent := acknowledger.sent + 1 }, channel)

end Acknowledger

end BurstRelay

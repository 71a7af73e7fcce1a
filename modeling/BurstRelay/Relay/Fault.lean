import BurstRelay.Burst.Fault
import BurstRelay.Buffer.Basic
import BurstRelay.Message.Fault

/-!
# Two tiers of faults

A `SkipFault` ends one message: the message is discarded and the relay goes on with the next. A
`RelayFault` ends the relay. The two are different types, so that neither can be taken for the other.
-/

namespace BurstRelay

/-- Why a message is skipped. -/
inductive SkipFault where
  /-- The message has fewer frames than an envelope. -/
  | shortEnvelope (frames : Nat)
  /-- The message has more frames than an envelope. -/
  | excessFrames (frames : Nat)
  /-- The burst in the message is no good. -/
  | burst (fault : BurstFault)
  deriving DecidableEq, Repr

namespace SkipFault

/-- The short, stable name of a fault, under which it is counted. -/
def kind : SkipFault → String
  | shortEnvelope _ => "short_envelope"
  | excessFrames _ => "excess_frames"
  | burst fault => fault.kind

def message : SkipFault → String
  | shortEnvelope frames => s!"Short envelope: {frames} frame(s), expected 3"
  | excessFrames frames => s!"Envelope carried {frames} frames, expected 3"
  | burst fault => fault.message

/-- Whether the message still says whom to send an acknowledgment to. -/
def hasRoutingFrames : SkipFault → Bool
  | burst _ => true
  | _ => false

end SkipFault

/-- Why a relay stops. -/
inductive RelayFault where
  | transport (fault : TransportFault)
  | allocation (fault : BufferFault)
  | sink (fault : Fault)
  deriving DecidableEq, Repr

namespace RelayFault

def message : RelayFault → String
  | transport fault => s!"Transport error: {fault.message}"
  | allocation fault => s!"Allocation error: {fault.message}"
  | sink fault => s!"Output sink error: {fault.message}"

/-- Whether the channel was shut down in an orderly way. -/
def isClosed : RelayFault → Bool
  | transport fault => fault.isClosed
  | _ => false

end RelayFault

end BurstRelay

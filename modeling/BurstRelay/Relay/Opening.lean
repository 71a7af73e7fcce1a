import BurstRelay.Message.Socket
import BurstRelay.Settings.Basic

/-!
# Opening the socket of a relay

The role of a relay decides which shape of socket it opens: one that producers connect to, one that
joins a publisher, or one that poses as a consumer.
-/

namespace BurstRelay

/-- A relay could not open its socket. -/
structure OpenFault where
  role : Role
  endpoint : String
  fault : TransportFault
  deriving DecidableEq, Repr

/-- A text that goes on with the cause of what it says, if there is one. -/
def withCause (text : String) (cause : Option String) : String :=
  match cause with
  | some cause => s!"{text}: {cause}"
  | none => text

def OpenFault.message (fault : OpenFault) : String :=
  withCause
    s!"Failed to open {fault.role.name} channel on {fault.endpoint}: {fault.fault.message}"
    fault.fault.source?

def RelaySection.openSocket (relay : RelaySection) : Logged (Except OpenFault Socket) := do
  let opened ← match relay.role with
    | .responder => Socket.bindRouter relay.endpoint
    | .passiveObserver => Socket.subscribe relay.endpoint (Bytes.ofString relay.subscribe)
    | .impersonator =>
      Socket.connectRouter relay.endpoint (relay.identity.map Bytes.ofString)
  return opened.mapError fun fault => ⟨relay.role, relay.endpoint, fault⟩

end BurstRelay

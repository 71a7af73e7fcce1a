import BurstRelay.Stream.Fault

/-!
# Transport faults

Sending and receiving can fail. The orderly end of a channel is a fault too, the only one that a
relay takes for a clean shutdown; all others stop it.
-/

namespace BurstRelay

/-- The error codes of sockets. -/
inductive SocketCode where
  | invalid
  | inUse
  | unavailable
  | interrupted
  | wrongState
  | notASocket
  | hostUnreachable
  | connectionRefused
  | protocolUnsupported
  | operationUnsupported
  | noThread
  | incompatibleProtocol
  | noDevice
  | terminated
  deriving DecidableEq, Repr

/-- The error codes by the symbols they are known by. -/
def SocketCode.symbols : List (String × SocketCode) :=
  [("EINVAL", invalid), ("EADDRINUSE", inUse), ("EAGAIN", unavailable), ("EINTR", interrupted),
    ("EFSM", wrongState), ("ENOTSOCK", notASocket), ("EHOSTUNREACH", hostUnreachable),
    ("ECONNREFUSED", connectionRefused), ("EPROTONOSUPPORT", protocolUnsupported),
    ("ENOTSUP", operationUnsupported), ("EMTHREAD", noThread),
    ("ENOCOMPATPROTO", incompatibleProtocol), ("ENODEV", noDevice), ("ETERM", terminated)]

def SocketCode.message : SocketCode → String
  | invalid => "Invalid argument"
  | inUse => "Address already in use"
  | unavailable => "Resource temporarily unavailable"
  | interrupted => "Interrupted system call"
  | wrongState => "Operation cannot be accomplished in current state"
  | notASocket => "Socket operation on non-socket"
  | hostUnreachable => "Host unreachable"
  | connectionRefused => "Connection refused"
  | protocolUnsupported => "Protocol not supported"
  | operationUnsupported => "Operation not supported"
  | noThread => "No thread available"
  | incompatibleProtocol => "The protocol is not compatible with the socket type"
  | noDevice => "No such device"
  | terminated => "Context was terminated"

/-- Why a frame could not be sent or received. -/
inductive TransportFault where
  /-- A socket operation failed. -/
  | socket (operation endpoint : String) (code : SocketCode)
  /-- The channel was shut down. -/
  | closed
  /-- A stream operation failed. -/
  | stream (context : String) (fault : Fault)
  deriving DecidableEq, Repr

namespace TransportFault

/-- The fault of a socket operation; a terminated context is the orderly end of the channel. -/
def ofSocket (operation endpoint : String) (code : SocketCode) : TransportFault :=
  if code = .terminated then .closed else .socket operation endpoint code

def message : TransportFault → String
  | socket operation endpoint code =>
    s!"ZMQ error during {operation} on {endpoint}: {code.message}"
  | closed => "Channel closed"
  | stream context _ => s!"I/O error: {context}"

/-- The wording of what lies behind a transport fault, if something does. -/
def source? : TransportFault → Option String
  | socket _ _ code => some code.message
  | closed => none
  | stream _ fault => some fault.message

/-- Whether this is the orderly end of the channel. -/
def isClosed (fault : TransportFault) : Bool := fault = .closed

end TransportFault

end BurstRelay

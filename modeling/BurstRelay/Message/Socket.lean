import BurstRelay.Bytes.Hex
import BurstRelay.Message.Channel
import BurstRelay.Text.Quoted
import BurstRelay.Text.Utf8

/-!
# Sockets without a peer

A socket is opened in one of four shapes on an endpoint. As long as nobody is attached to it, all
that can be seen of it is whether it opens, which depends on the endpoint and on the identity it
announces, and whether it takes what is sent: a router drops what it cannot route, a dealer queues,
and a subscriber cannot send.

An endpoint names a transport and an address in it. Inside the process every address opens. An
address of the network has a host and a service, and more is asked of them to bind the address than
to connect to it.
-/

namespace BurstRelay

/-- The shapes of sockets. -/
inductive SocketKind where
  | routerBind
  | routerConnect
  | subscriber
  | dealer
  deriving DecidableEq, Repr

namespace SocketKind

/-- All shapes, in the order in which they are listed. -/
def all : List SocketKind := [routerBind, routerConnect, subscriber, dealer]

/-- What a shape is called. -/
def label : SocketKind → String
  | routerBind => "router/bind"
  | routerConnect => "router/connect"
  | subscriber => "sub/connect"
  | dealer => "dealer/connect"

/-- The name of a shape in the description of a socket. -/
def title : SocketKind → String
  | routerBind => "RouterBind"
  | routerConnect => "RouterConnect"
  | subscriber => "Subscriber"
  | dealer => "Dealer"

/-- How a socket of a shape gets to its endpoint. -/
def operation : SocketKind → String
  | routerBind => "bind"
  | _ => "connect"

def sends : SocketKind → Bool
  | subscriber => false
  | _ => true

end SocketKind

/-- A socket that nobody is attached to. -/
structure Socket where
  kind : SocketKind
  endpoint : String
  deriving DecidableEq, Repr

namespace Socket

/-- The parts of an endpoint before and after the first `://`, if there is one. -/
def splitEndpoint (before : List Char) : List Char → Option (List Char × List Char)
  | ':' :: '/' :: '/' :: rest => some (before.reverse, rest)
  | letter :: rest => splitEndpoint (letter :: before) rest
  | [] => none

/-- The host and the service of an address, before and after its last colon, if it has one. -/
def splitAddress (address : List Char) : Option (List Char × List Char) :=
  let service := (address.reverse.takeWhile (· ≠ ':')).reverse
  let host := address.take (address.length - service.length)
  if host = [] then none else some (host.dropLast, service)

/-- The number of the service that a text stands for: the digits in front, in sixteen bits. -/
def serviceNumber (service : List Char) : Nat :=
  let digits := service.takeWhile Char.isDigit
  digits.foldl (fun number digit => 10 * number + (digit.toNat - 48)) 0 % UInt16.size

/-- Why an address of the network cannot be bound, if it cannot: it needs a service, any one with a star
or a zero, and a host that is a number or all hosts. -/
def bindRefusal? (address : List Char) : Option SocketCode :=
  match splitAddress address with
  | none => some .invalid
  | some (host, service) =>
    if service ≠ ['*'] ∧ service ≠ ['0'] ∧ serviceNumber service = 0 then some .invalid
    else if host = ['*'] ∨ (host ≠ [] ∧ host.all fun c => c.isDigit || c = '.') then none
    else some .noDevice

/-- Whether a character can stand in an address to connect to, behind the first. -/
def isAddressLetter (letter : Char) : Bool := letter.isAlphanum || ".-:%;[]_*".toList.contains letter

/-- Why an address of the network cannot be connected to, if it cannot: it needs a service that starts
with a digit. -/
def connectRefusal? (address : List Char) : Option SocketCode :=
  let startsWell := address.head?.any fun c => c.isAlphanum || c = '[' || c = ':'
  let hasService := (splitAddress address).any fun (_, service) => service.head?.any Char.isDigit
  if startsWell && address.tail.all isAddressLetter && hasService then none else some .invalid

/-- Why an endpoint is refused, if it is: it needs a transport and an address, the transport has to be
known and to suit the socket, and the address has to suit the transport. -/
def refusal? (kind : SocketKind) (endpoint : String) : Option SocketCode :=
  match splitEndpoint [] endpoint.toList with
  | none => some .invalid
  | some (transport, address) =>
    if transport = [] ∨ address = [] then some .invalid
    else if transport = "inproc".toList then none
    else if transport = "tcp".toList then
      if kind = .routerBind then bindRefusal? address else connectRefusal? address
    else if transport = "udp".toList then some .incompatibleProtocol
    else some .protocolUnsupported

/-- Goes to an endpoint. -/
def attach (kind : SocketKind) (endpoint : String) : Except TransportFault Socket :=
  match refusal? kind endpoint with
  | some code => .error (.ofSocket kind.operation endpoint code)
  | none => .ok ⟨kind, endpoint⟩

/-- Opens a socket that binds its endpoint; peers are told apart by their identities. -/
def bindRouter (endpoint : String) : Logged (Except TransportFault Socket) := do
  match attach .routerBind endpoint with
  | .error fault => return .error fault
  | .ok socket =>
    Logged.report .info "bound ROUTER socket" [("endpoint", endpoint)]
    return .ok socket

/-- Whether an identity can be announced: it has one to 255 bytes. -/
def isIdentity (identity : Bytes) : Bool := 1 ≤ identity.length && identity.length ≤ 255

/-- Opens a socket that connects as a peer, with an identity if one is given. -/
def connectRouter (endpoint : String) (identity : Option Bytes) :
    Logged (Except TransportFault Socket) := do
  if identity.any (!isIdentity ·) then
    return .error (.ofSocket "set_identity" endpoint .invalid)
  else
    match identity with
    | some identity =>
      Logged.report .debug "routing identity set" [("identity", Hex.text identity)]
    | none => pure ()
    match attach .routerConnect endpoint with
    | .error fault => return .error fault
    | .ok socket =>
      Logged.report .info "connected ROUTER socket" [("endpoint", endpoint)]
      return .ok socket

/-- Opens a socket that receives the messages starting with `topic`. -/
def subscribe (endpoint : String) (topic : Bytes) : Logged (Except TransportFault Socket) := do
  match attach .subscriber endpoint with
  | .error fault => return .error fault
  | .ok socket =>
    Logged.report .info "subscribed" [("endpoint", endpoint), ("prefix", Text.lossy topic)]
    return .ok socket

/-- Opens a socket that sends to a router. -/
def connectDealer (endpoint : String) : Logged (Except TransportFault Socket) := do
  match attach .dealer endpoint with
  | .error fault => return .error fault
  | .ok socket =>
    Logged.report .info "connected DEALER socket" [("endpoint", endpoint)]
    return .ok socket

def send (socket : Socket) (_part : Part) : Except TransportFault Unit :=
  if socket.kind.sends then .ok ()
  else .error (.ofSocket "send" socket.endpoint .operationUnsupported)

/-- Sends a whole message; one without frames sends nothing. -/
def sendMessage (socket : Socket) (message : Message) : Except TransportFault Unit :=
  message.parts.forM socket.send

/-- The longest endpoint that a socket tells, in bytes. -/
def longestEndpoint : Nat := 265

/-- The endpoint that a socket went to, as the socket tells it. -/
def lastEndpoint (socket : Socket) : Except TransportFault String :=
  if socket.endpoint.utf8ByteSize ≤ longestEndpoint then .ok socket.endpoint
  else .error (.ofSocket "last_endpoint" socket.endpoint .invalid)

/-- The description of a socket for a human reader. -/
def description (socket : Socket) : String :=
  "ZmqChannel \x7b kind: " ++ socket.kind.title ++ ", endpoint: " ++
    String.ofList (Text.quoted Text.escapeVisible socket.endpoint) ++ " \x7d"

end Socket

end BurstRelay

import BurstRelay.Relay.Acknowledgment
import BurstRelay.Relay.Output
import BurstRelay.Relay.Statistics

/-!
# The relay

A relay takes one message after the other from its channel. The burst in an envelope is checked,
decompressed into the buffer, written to the output, and only then acknowledged. What is wrong with
a message ends that message; what is wrong with the channel, the memory or the sink ends the relay,
and the orderly end of the channel ends it well.

`Relay.step` processes one message and `Relay.run` all of them. Both give the relay as it is
afterwards, whether they succeed or not. A step has two halves: `Relay.prepare` settles the message,
and `Relay.conclude` acknowledges it if that is called for.
-/

namespace BurstRelay

/-- What came of one message. -/
inductive Outcome where
  /-- The burst was verified and written as so many output records. -/
  | emitted (records : Nat) (acknowledged : Bool)
  /-- The header was checked, and nothing else was to be done. -/
  | admitted (acknowledged : Bool)
  /-- The message was discarded. -/
  | skipped (fault : SkipFault) (acknowledged : Bool)
  /-- An observer saw the acknowledgment of another. -/
  | ackEcho
  deriving DecidableEq, Repr

/-- A relay, with everything it holds. -/
structure Relay (State : Type) where
  codec : Codec State
  codecState : State
  /-- The bound on declared sizes. -/
  bound : UInt32
  ackSkipped : Bool
  dummy : Bool
  channel : Channel
  buffer : Buffer
  output : Output
  acknowledger : Acknowledger
  statistics : Statistics

/-- How far the record of an admitted burst got. -/
inductive Unpacking where
  | record (record : Bytes)
  | skip (fault : BurstFault)
  | stop (fault : RelayFault)
  deriving DecidableEq, Repr

/-- How far a burst got: what it was admitted as, why it was skipped, or why the relay stops. -/
inductive Verdict where
  | written (records : Nat)
  | headerOnly
  | skip (fault : BurstFault)
  | stop (fault : RelayFault)
  deriving DecidableEq, Repr

/-- What is left to do about a message when everything but its acknowledgment is done. -/
inductive Settlement where
  /-- The message calls for an acknowledgment, and the outcome says whether one was sent. -/
  | acknowledge (envelope : Envelope) (outcome : Bool → Outcome)
  /-- Nothing is sent for the message. -/
  | silent (outcome : Outcome)
  /-- The relay stops. -/
  | stop (fault : RelayFault)

namespace Relay

variable {State : Type}

def role (relay : Relay State) : Role := relay.acknowledger.role

/-- A relay with settings, which has not received anything yet. -/
def start (settings : Settings) (allocator : Allocator) (codec : Codec State) (codecState : State)
    (channel : Channel) (sink : Sink) : Logged (Except RelayFault (Relay State)) := do
  match Buffer.ofCapacity allocator settings.decompression.initialCapacity.toNat with
  | .error fault => return .error (.allocation fault)
  | .ok buffer =>
    if settings.relay.role = .impersonator then
      Logged.report .warn
        "impersonator acknowledgments make the broker discard every acknowledged burst"
    return .ok
      { codec, codecState, channel, buffer
        bound := settings.bound
        ackSkipped := settings.acknowledgment.ackSkipped
        dummy := settings.acknowledgment.dummy
        output := .ofSink sink settings.output.format
        acknowledger :=
          { role := settings.relay.role, delayMs := settings.acknowledgment.delayMs }
        statistics := ({} : Statistics).observeCapacity buffer.capacity }

/-- Checks the header of a payload. -/
def admission (relay : Relay State) (payload : Bytes) : Logged (Except BurstFault Payload) := do
  match Payload.parse payload with
  | .error fault => return .error fault
  | .ok burst =>
    match burst.header.checkDeclared relay.bound with
    | .error fault => return .error fault
    | .ok () =>
      Logged.report .debug "header admitted"
        [("declared_uncompressed", toString burst.header.declaredUncompressed),
          ("declared_compressed", toString burst.header.declaredCompressed)]
      return .ok burst

/-- Decompresses an admitted burst into the buffer, and gives its record. -/
def unpack (relay : Relay State) (burst : Payload) : Logged (Unpacking × Relay State) := do
  match ← relay.buffer.ensure burst.header.declaredUncompressed.toNat with
  | (.error fault, buffer) => return (.stop (.allocation fault), { relay with buffer })
  | (.ok (), buffer) =>
    -- growth counts even when the burst then fails to decode
    let statistics := relay.statistics.observeCapacity buffer.capacity
    let decompression := burst.decompress relay.codec relay.codecState buffer.region
    let buffer := { buffer with region := decompression.region }
    let relay := { relay with buffer, statistics, codecState := decompression.state }
    match decompression.outcome with
    | .error fault => return (.skip fault, relay)
    | .ok produced => return (.record (buffer.valid produced), relay)

/-- Writes a verified record. -/
def deliver (relay : Relay State) (record : Bytes) : Verdict × Relay State :=
  match relay.output.emit record with
  | (.undecodable fault, output) => (.skip fault, { relay with output })
  | (.failed fault, output) => (.stop (.sink fault), { relay with output })
  | (.wrote records, output) =>
    let statistics :=
      { relay.statistics with recordsEmitted := relay.statistics.recordsEmitted + records }
    (.written records, { relay with output, statistics })

/-- Decompresses an admitted burst and writes its record. -/
def verify (relay : Relay State) (burst : Payload) : Logged (Verdict × Relay State) := do
  match ← relay.unpack burst with
  | (.record record, relay) => return relay.deliver record
  | (.skip fault, relay) => return (.skip fault, relay)
  | (.stop fault, relay) => return (.stop fault, relay)

/-- Decides what becomes of the burst in an envelope, and writes its record if it is any good. -/
def judge (relay : Relay State) (envelope : Envelope) : Logged (Verdict × Relay State) := do
  match ← relay.admission envelope.payload with
  | .error fault => return (.skip fault, relay)
  | .ok burst => if relay.dummy then return (.headerOnly, relay) else relay.verify burst

/-- Acknowledges an envelope if the role does that, and counts it. -/
def acknowledge (relay : Relay State) (envelope : Envelope) :
    Logged (Except RelayFault Bool × Relay State) := do
  match ← relay.acknowledger.acknowledge relay.channel envelope with
  | (.error fault, acknowledger, channel) =>
    return (.error (.transport fault), { relay with acknowledger, channel })
  | (.ok acknowledged, acknowledger, channel) =>
    let acksSent := relay.statistics.acksSent + acknowledged.toNat
    return (.ok acknowledged,
      { relay with acknowledger, channel, statistics := { relay.statistics with acksSent } })

/-- Acknowledges an envelope, and reports the outcome that depends on it. -/
def conclude (relay : Relay State) (envelope : Envelope) (outcome : Bool → Outcome) :
    Logged (Except RelayFault Outcome × Relay State) := do
  match ← relay.acknowledge envelope with
  | (.error fault, relay) => return (.error fault, relay)
  | (.ok acknowledged, relay) => return (.ok (outcome acknowledged), relay)

/-- Counts a received message. -/
def countEnvelope (relay : Relay State) : Relay State :=
  { relay with
    statistics := { relay.statistics with envelopes := relay.statistics.envelopes + 1 } }

/-- Counts the acknowledgment of another that was seen. -/
def countEcho (relay : Relay State) : Relay State :=
  { relay with
    statistics := { relay.statistics with ackEchoes := relay.statistics.ackEchoes + 1 } }

/-- Counts a skipped message. -/
def countSkip (relay : Relay State) (kind : String) : Relay State :=
  { relay with statistics := relay.statistics.recordSkip kind }

/-- Settles the burst in an envelope. -/
def settle (relay : Relay State) (envelope : Envelope) : Logged (Settlement × Relay State) := do
  Logged.report .debug "received burst"
    [("bytes", toString envelope.payload.length),
      ("identity", Hex.text envelope.identity),
      ("message_id", Hex.text envelope.messageId)]
  match ← relay.judge envelope with
  | (.written records, relay) => return (.acknowledge envelope (.emitted records), relay)
  | (.headerOnly, relay) => return (.acknowledge envelope .admitted, relay)
  | (.stop fault, relay) => return (.stop fault, relay)
  | (.skip fault, relay) =>
    Logged.report .warn "skipping burst"
      [("kind", fault.kind),
        ("error", fault.message),
        ("message_id", Hex.text envelope.messageId)]
    let relay := relay.countSkip fault.kind
    if relay.ackSkipped then return (.acknowledge envelope (.skipped (.burst fault)), relay)
    else return (.silent (.skipped (.burst fault) false), relay)

/-- Settles a received message. -/
def treat (relay : Relay State) : Received → Logged (Settlement × Relay State)
  | .envelope envelope => relay.settle envelope
  | .acknowledgment identity messageId => do
    Logged.report .debug "acknowledgment echo"
      [("identity", Hex.text identity), ("message_id", Hex.text (messageId.getD []))]
    return (.silent .ackEcho, relay.countEcho)
  | .rejected fault => do
    Logged.report .warn "skipping envelope" [("kind", fault.kind), ("error", fault.message)]
    return (.silent (.skipped fault false), relay.countSkip fault.kind)

/-- Receives one message and settles it. -/
def prepare (relay : Relay State) : Logged (Settlement × Relay State) := do
  match ← Received.read relay.role relay.channel with
  | (.error fault, channel) => return (.stop (.transport fault), { relay with channel })
  | (.ok received, channel) => ({ relay with channel }).countEnvelope.treat received

/-- Receives and processes one message. Nothing is sent before the message is settled. -/
def step (relay : Relay State) : Logged (Except RelayFault Outcome × Relay State) := do
  match ← relay.prepare with
  | (.acknowledge envelope outcome, relay) => relay.conclude envelope outcome
  | (.silent outcome, relay) => return (.ok outcome, relay)
  | (.stop fault, relay) => return (.error fault, relay)

/-- What came of processing messages to the end. -/
structure Run (State : Type) where
  /-- What came of each message, in order. -/
  outcomes : List Outcome
  /-- Whether the end was the orderly one. -/
  result : Except RelayFault Unit
  /-- The relay at the end. -/
  relay : Relay State

/-- Processes messages until the relay stops. Each message takes something from the queue, so that
one step more than there are arrivals is enough. -/
def runFor : Nat → Relay State → Logged (Run State)
  | 0, relay => return ⟨[], .ok (), relay⟩
  | fuel + 1, relay => do
    match ← relay.step with
    | (.ok outcome, relay) =>
      relay.statistics.reportProgress
      let run ← runFor fuel relay
      return { run with outcomes := outcome :: run.outcomes }
    | (.error fault, relay) =>
      if fault.isClosed then
        Logged.report .info "channel closed, stopping"
        relay.statistics.reportSummary
        return ⟨[], .ok (), relay⟩
      else
        Logged.report .error "fatal relay error" [("error", fault.message)]
        relay.statistics.reportSummary
        return ⟨[], .error fault, relay⟩

/-- Processes all messages. -/
def run (relay : Relay State) : Logged (Run State) := do
  Logged.report .info "burst pipeline started"
    [("role", relay.role.name),
      ("format", relay.output.mode.title),
      ("capacity", toString relay.buffer.capacity),
      ("max_declared_size", toString relay.bound),
      ("dummy", toString relay.dummy)]
  runFor (relay.channel.incoming.length + 1) relay

end Relay

end BurstRelay

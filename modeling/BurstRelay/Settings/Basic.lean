import BurstRelay.Block.Codec
import BurstRelay.Buffer.Basic
import BurstRelay.Record.Framing
import BurstRelay.Relay.Role
import BurstRelay.Text.Blank

/-!
# Settings

The settings of a relay in four sections, with a default for each. `Settings.validate` checks what
has to hold between them, and reports the first thing that does not.
-/

namespace BurstRelay

/-- What a relay writes for each verified record. -/
inductive OutputMode where
  /-- The record in binary form. -/
  | binary
  /-- The record in hexadecimal form. -/
  | hex
  /-- Each frame of the record in binary form. -/
  | frames
  deriving DecidableEq, Repr

namespace OutputMode

def format : OutputMode → RecordFormat
  | hex => .hex
  | binary | frames => .binary

def name : OutputMode → String
  | binary => "binary"
  | hex => "hex"
  | frames => "frames"

/-- The name of a mode in log events. -/
def title : OutputMode → String
  | binary => "Binary"
  | hex => "Hex"
  | frames => "Frames"

end OutputMode

/-- How a relay is attached to the transport. -/
structure RelaySection where
  role : Role := .responder
  /-- The endpoint to bind or to connect to. -/
  endpoint : String := "tcp://*:5560"
  /-- The routing identity that an impersonator announces. -/
  identity : Option String := none
  /-- What the messages for a passive observer start with. -/
  subscribe : String := ""
  deriving DecidableEq, Repr

/-- What a relay writes. -/
structure OutputSection where
  format : OutputMode := .binary
  deriving DecidableEq, Repr

/-- How far a relay trusts declared sizes. -/
structure DecompressionSection where
  /-- The capacity of the buffer at the start. -/
  initialCapacity : UInt64 := 1024000
  /-- The bound on declared sizes; zero stands for the limit of the codec. -/
  maxDeclaredSize : UInt32 := 1073741824
  deriving DecidableEq, Repr

/-- When a relay acknowledges. -/
structure AcknowledgmentSection where
  /-- The delay before each acknowledgment, in milliseconds. -/
  delayMs : UInt64 := 0
  /-- Whether bursts that are skipped are acknowledged too. -/
  ackSkipped : Bool := false
  /-- Whether headers alone are checked, and nothing is decompressed or written. -/
  dummy : Bool := false
  deriving DecidableEq, Repr

/-- The settings of a relay. -/
structure Settings where
  relay : RelaySection := {}
  output : OutputSection := {}
  decompression : DecompressionSection := {}
  acknowledgment : AcknowledgmentSection := {}
  deriving DecidableEq, Repr

/-- What is wrong with settings that are complete. -/
inductive SettingsFault where
  | emptyEndpoint
  | noCapacity
  | boundBelowCapacity (bound : UInt32) (capacity : UInt64)
  | unusedIdentity (role : Role)
  | delayTooLong (delayMs : UInt64)
  deriving DecidableEq, Repr

/-- What is wrong with settings, in words. -/
def SettingsFault.reason : SettingsFault → String
  | emptyEndpoint => "relay.endpoint must not be empty"
  | noCapacity => "decompression.initial_capacity must be greater than zero"
  | boundBelowCapacity bound capacity =>
    s!"decompression.max_declared_size ({bound}) is smaller than initial_capacity ({capacity})"
  | unusedIdentity role =>
    s!"relay.identity is only used by the impersonator role (role is {role.name})"
  | delayTooLong delayMs => s!"acknowledgment.delay_ms ({delayMs}) exceeds one hour"

def SettingsFault.message (fault : SettingsFault) : String :=
  s!"Configuration error: {fault.reason}"

namespace Settings

/-- The longest delay before an acknowledgment: one hour. -/
def longestDelayMs : UInt64 := 3600000

/-- The largest bound on declared sizes: what the block format can be decoded into. -/
def codecLimit : UInt32 := 2147483647

/-- The bound on declared sizes that is enforced. -/
def bound (settings : Settings) : UInt32 :=
  let declared := settings.decompression.maxDeclaredSize
  if declared = 0 then codecLimit else min declared codecLimit

/-- Checks the settings against each other. -/
def validate (settings : Settings) : Except SettingsFault Unit :=
  if settings.relay.endpoint.toList.all Text.isBlank then .error .emptyEndpoint
  else if settings.decompression.initialCapacity = 0 then .error .noCapacity
  else if settings.bound.toUInt64 < settings.decompression.initialCapacity then
    .error (.boundBelowCapacity settings.bound settings.decompression.initialCapacity)
  else if settings.relay.identity.isSome ∧ settings.relay.role ≠ .impersonator then
    .error (.unusedIdentity settings.relay.role)
  else if longestDelayMs < settings.acknowledgment.delayMs then
    .error (.delayTooLong settings.acknowledgment.delayMs)
  else .ok ()

end Settings

end BurstRelay

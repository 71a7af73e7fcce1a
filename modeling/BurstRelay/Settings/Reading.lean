import BurstRelay.Decimal.Layout
import BurstRelay.Decimal.Numeral
import BurstRelay.Settings.Basic
import BurstRelay.Settings.Setting
import BurstRelay.Text.Quoted

/-!
# Reading settings

A setting is converted to the type that it is read as. The conversions are lenient: a number can be
read from a truth value, from another number by rounding, and from a text that spells it; a text can
be read from every scalar. What cannot be converted is reported with the path of the setting and with
its origin.
-/

namespace BurstRelay

/-- What a setting is read as. -/
inductive Expectation where
  | boolean
  /-- A whole number, of a text or of a setting that is no scalar. -/
  | integer
  /-- A number of sixty-four bits without sign. -/
  | word64
  /-- A number of thirty-two bits without sign. -/
  | word32
  | text
  deriving DecidableEq, Repr

def Expectation.message : Expectation → String
  | boolean => "a boolean"
  | integer => "an integer"
  | word64 => "an unsigned 64 bit or less integer"
  | word32 => "an unsigned 32 bit integer"
  | text => "a string"

/-- What was found in place of what a setting is read as. -/
inductive Finding where
  | nothing
  | negative (value : Int)
  | large (value : Nat)
  | text (value : String)
  | list
  | table
  deriving DecidableEq, Repr

def quotedInMessage (text : String) : String :=
  String.ofList (Text.quoted Text.escapeVisible text)

def Finding.message : Finding → String
  | nothing => "unit value"
  | negative value => s!"64-bit integer `{value}`"
  | large value => s!"64-bit unsigned integer `{value}`"
  | text value => "string " ++ quotedInMessage value
  | list => "sequence"
  | table => "map"

/-- Why settings cannot be read. -/
inductive ReadingFault where
  /-- A setting cannot be converted. -/
  | mismatch (found : Finding) (expected : Expectation) (path : List KeyStep) (origin : Origin)
  /-- A whole section is given as a scalar. -/
  | noSection (found : Scalar) (name : String)
  /-- A name is none of an enumeration. -/
  | unknownName (enumeration name : String)
  /-- A setting that is read as a name is neither a text nor a table with one entry. -/
  | noName (enumeration : String)
  deriving DecidableEq, Repr

/-- The text of a path: names with dots between them, and positions in brackets. -/
def KeyStep.pathText : List KeyStep → String
  | [] => ""
  | .name key :: .name next :: path => s!"{key}.{pathText (.name next :: path)}"
  | .name key :: path => s!"{key}{pathText path}"
  | .index position :: path => s!"[{position}]{pathText path}"

def Origin.message : Origin → String
  | unknown => ""
  | file name => " in " ++ name
  | environment => " in the environment"

/-- The wording of a scalar in place of a section. -/
def Scalar.message : Scalar → String
  | absent => "unit value"
  | boolean value => s!"boolean `{value}`"
  | integer value => s!"integer `{value}`"
  | real value =>
    "floating point `" ++ String.ofList (Decimal.Layout.pointed.text value) ++ "`"
  | text value => "string " ++ quotedInMessage value

namespace ReadingFault

def message : ReadingFault → String
  | mismatch found expected path origin =>
    s!"invalid type: {found.message}, expected {expected.message}" ++
      s!" for key `{KeyStep.pathText path}`{origin.message}"
  | noSection found name => s!"invalid type: {found.message}, expected struct {name}"
  | unknownName enumeration name =>
    s!"enum {enumeration} does not have variant constructor {name}"
  | noName enumeration =>
    s!"value of enum {enumeration} should be represented by either string or table with exactly one key"

/-- Notes that what could not be read was behind a step. -/
def behind (step : KeyStep) : ReadingFault → ReadingFault
  | mismatch found expected path origin => mismatch found expected (step :: path) origin
  | fault => fault

end ReadingFault

/-- A result of reading settings. -/
abbrev ReadAs (α : Type) := Except ReadingFault α

namespace Setting

/-! ## Scalars -/

/-- The fault of a setting that is not what it is read as. -/
def refuse {α : Type} (found : Finding) (expected : Expectation) (origin : Origin) : ReadAs α :=
  .error (.mismatch found expected [] origin)

def readBoolean : Setting → ReadAs Bool
  | .scalar _ (.boolean value) => .ok value
  | .scalar _ (.integer value) => .ok (value ≠ 0)
  | .scalar _ (.real value) => .ok !value.isZero
  | .scalar origin (.text value) =>
    let lowered := Text.lowercase value
    if lowered ∈ ["1", "true", "on", "yes"] then .ok true
    else if lowered ∈ ["0", "false", "off", "no"] then .ok false
    else refuse (.text lowered) .boolean origin
  | .scalar origin .absent => refuse .nothing .boolean origin
  | .list origin _ => refuse .list .boolean origin
  | .table origin _ => refuse .table .boolean origin

/-- Reads a number of sixty-four bits without sign. -/
def readWord64 : Setting → ReadAs UInt64
  | .scalar _ (.boolean value) => .ok (if value then 1 else 0)
  | .scalar origin (.integer value) =>
    if 0 ≤ value then .ok (UInt64.ofNat value.toNat) else refuse (.negative value) .word64 origin
  | .scalar _ (.real value) => .ok (UInt64.ofNat (value.saturate UInt64.size))
  | .scalar origin (.text value) =>
    let lowered := Text.lowercase value
    if lowered ∈ ["true", "on", "yes"] then .ok 1
    else if lowered ∈ ["false", "off", "no"] then .ok 0
    else
      match Numeral.below? UInt64.size value.toList with
      | some number => .ok (UInt64.ofNat number)
      | none => refuse (.text value) .integer origin
  | .scalar origin .absent => refuse .nothing .integer origin
  | .list origin _ => refuse .list .integer origin
  | .table origin _ => refuse .table .integer origin

/-- Reads a number of thirty-two bits without sign. -/
def readWord32 (setting : Setting) : ReadAs UInt32 := do
  let word ← readWord64 setting
  if word.toNat < UInt32.size then .ok word.toUInt32 else refuse (.large word.toNat) .word32 .unknown

def readText : Setting → ReadAs String
  | .scalar _ (.boolean value) => .ok (toString value)
  | .scalar _ (.integer value) => .ok (toString value)
  | .scalar _ (.real value) => .ok (String.ofList (Decimal.Layout.setting.text value))
  | .scalar _ (.text value) => .ok value
  | .scalar origin .absent => refuse .nothing .text origin
  | .list origin _ => refuse .list .text origin
  | .table origin _ => refuse .table .text origin

def readOptionalText : Setting → ReadAs (Option String)
  | .scalar _ .absent => .ok none
  | setting => some <$> readText setting

/-- Reads a name of an enumeration, in any case; it can also be the key of a table with one entry. -/
def readName {α : Type} (enumeration : String) (names : Keyed α) (setting : Setting) : ReadAs α :=
  let find (name : String) : ReadAs α :=
    match names.lookup (Text.lowercase name) with
    | some found => .ok found
    | none => .error (.unknownName enumeration name)
  match setting with
  | .scalar _ (.text name) => find name
  | .table _ [(name, _)] => find name
  | _ => .error (.noName enumeration)

/-! ## Sections -/

/-- What a section says about one of its keys: the step to it and the setting, if it is there. A
section that is given as a list has its settings in the order of the keys. -/
def part? (setting : Setting) (position : Nat) (key : String) : Option (KeyStep × Setting) :=
  match setting with
  | .table _ entries => (entries.lookup key).map fun setting => (.name key, setting)
  | .list _ items => items[position]?.map fun setting => (.index position, setting)
  | .scalar _ _ => none

/-- Reads one setting of a section, or its default if the section does not have it. -/
def readPart {α : Type} (setting : Setting) (position : Nat) (key : String) (default : α)
    (read : Setting → ReadAs α) : ReadAs α :=
  match setting.part? position key with
  | some (step, setting) => (read setting).mapError (ReadingFault.behind step)
  | none => .ok default

/-- Refuses a scalar in place of a section. -/
def checkSection (setting : Setting) (name : String) : ReadAs Unit :=
  match setting with
  | .scalar _ content => .error (.noSection content name)
  | _ => .ok ()

end Setting

/-! ## The settings of a relay -/

def Role.names : Keyed Role :=
  [(Role.responder.name, .responder), (Role.passiveObserver.name, .passiveObserver),
    (Role.impersonator.name, .impersonator)]

def OutputMode.names : Keyed OutputMode :=
  [(OutputMode.binary.name, .binary), (OutputMode.hex.name, .hex),
    (OutputMode.frames.name, .frames)]

def RelaySection.read (setting : Setting) : ReadAs RelaySection := do
  setting.checkSection "RelaySettings"
  let default : RelaySection := {}
  let role ← setting.readPart 0 "role" default.role (Setting.readName "ConnectionRole" Role.names)
  let endpoint ← setting.readPart 1 "endpoint" default.endpoint Setting.readText
  let identity ← setting.readPart 2 "identity" default.identity Setting.readOptionalText
  let subscribe ← setting.readPart 3 "subscribe" default.subscribe Setting.readText
  return { role, endpoint, identity, subscribe }

def OutputSection.read (setting : Setting) : ReadAs OutputSection := do
  setting.checkSection "OutputSettings"
  let default : OutputSection := {}
  let format ←
    setting.readPart 0 "format" default.format (Setting.readName "OutputMode" OutputMode.names)
  return { format }

def DecompressionSection.read (setting : Setting) : ReadAs DecompressionSection := do
  setting.checkSection "DecompressionSettings"
  let default : DecompressionSection := {}
  let initialCapacity ←
    setting.readPart 0 "initial_capacity" default.initialCapacity Setting.readWord64
  let maxDeclaredSize ←
    setting.readPart 1 "max_declared_size" default.maxDeclaredSize Setting.readWord32
  return { initialCapacity, maxDeclaredSize }

def AcknowledgmentSection.read (setting : Setting) : ReadAs AcknowledgmentSection := do
  setting.checkSection "AcknowledgmentSettings"
  let default : AcknowledgmentSection := {}
  let delayMs ← setting.readPart 0 "delay_ms" default.delayMs Setting.readWord64
  let ackSkipped ← setting.readPart 1 "ack_skipped" default.ackSkipped Setting.readBoolean
  let dummy ← setting.readPart 2 "dummy" default.dummy Setting.readBoolean
  return { delayMs, ackSkipped, dummy }

def Settings.read (setting : Setting) : ReadAs Settings := do
  let default : Settings := {}
  let relay ← setting.readPart 0 "relay" default.relay RelaySection.read
  let output ← setting.readPart 1 "output" default.output OutputSection.read
  let decompression ←
    setting.readPart 2 "decompression" default.decompression DecompressionSection.read
  let acknowledgment ←
    setting.readPart 3 "acknowledgment" default.acknowledgment AcknowledgmentSection.read
  return { relay, output, decompression, acknowledgment }

end BurstRelay

/-!
# Faults of the container encoding

A container is a sequence of keyed fields. What can be wrong with it is a cause, and the fields that
enclose the place where it is wrong, innermost first.
-/

namespace BurstRelay.Wire

/-- How the value of a field is laid out. -/
inductive Layout where
  | varint
  | sixtyFourBit
  | lengthDelimited
  | startGroup
  | endGroup
  | thirtyTwoBit
  deriving DecidableEq, Repr

namespace Layout

def number : Layout → Nat
  | varint => 0
  | sixtyFourBit => 1
  | lengthDelimited => 2
  | startGroup => 3
  | endGroup => 4
  | thirtyTwoBit => 5

def ofNumber? : Nat → Option Layout
  | 0 => some varint
  | 1 => some sixtyFourBit
  | 2 => some lengthDelimited
  | 3 => some startGroup
  | 4 => some endGroup
  | 5 => some thirtyTwoBit
  | _ => none

def name : Layout → String
  | varint => "Varint"
  | sixtyFourBit => "SixtyFourBit"
  | lengthDelimited => "LengthDelimited"
  | startGroup => "StartGroup"
  | endGroup => "EndGroup"
  | thirtyTwoBit => "ThirtyTwoBit"

@[simp] theorem ofNumber?_number (layout : Layout) : ofNumber? layout.number = some layout := by
  cases layout <;> rfl

end Layout

/-- What is wrong with a container. -/
inductive Cause where
  /-- A variable-length number does not end, or is above sixty-four bits. -/
  | malformedVarint
  /-- A key is above thirty-two bits. -/
  | malformedKey (key : Nat)
  /-- A key names no layout. -/
  | unknownLayout (number : Nat)
  /-- A key names field zero. -/
  | fieldZero
  /-- A field that the schema knows has another layout there. -/
  | unexpectedLayout (found expected : Layout)
  /-- A value reaches behind the end of the input. -/
  | inputTooShort
  /-- The fields of an embedded message reach behind its end. -/
  | messageTooShort
  /-- A group ends that did not begin. -/
  | strayGroupEnd
  /-- Messages and groups are nested too deeply. -/
  | nestedTooDeeply
  /-- A text is not UTF-8. -/
  | malformedText
  deriving DecidableEq, Repr

def Cause.message : Cause → String
  | malformedVarint => "invalid varint"
  | malformedKey key => s!"invalid key value: {key}"
  | unknownLayout number => s!"invalid wire type value: {number}"
  | fieldZero => "invalid tag value: 0"
  | unexpectedLayout found expected =>
    s!"invalid wire type: {found.name} (expected {expected.name})"
  | inputTooShort => "buffer underflow"
  | messageTooShort => "delimited length exceeded"
  | strayGroupEnd => "unexpected end group tag"
  | nestedTooDeeply => "recursion limit reached"
  | malformedText => "invalid string value: data is not UTF-8 encoded"

/-- A field of a message of the schema, by name. -/
structure Place where
  message : String
  field : String
  deriving DecidableEq, Repr

/-- A cause, with the fields around the place where it is found, innermost first. -/
structure Fault where
  cause : Cause
  places : List Place := []
  deriving DecidableEq, Repr

namespace Fault

def message (fault : Fault) : String :=
  fault.places.foldl (fun text place => s!"{text}{place.message}.{place.field}: ")
    "failed to decode Protobuf message: " ++ fault.cause.message

/-- Notes that what failed was inside a field. -/
def inside (place : Place) (fault : Fault) : Fault :=
  { fault with places := fault.places ++ [place] }

end Fault

end BurstRelay.Wire

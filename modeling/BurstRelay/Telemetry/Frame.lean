import BurstRelay.Decimal.Binary64

/-!
# Telemetry frames

The record inside a burst is a container: an ordered list of frames. A frame is one telemetry point:
tags that say where it comes from, a time, and a value of a declared kind. Which values are present
is up to the producer, whatever the declared kind.
-/

namespace BurstRelay

/-- A name and a value that say where a frame comes from. -/
structure SourceTag where
  field : String := ""
  value : String := ""
  deriving DecidableEq, Repr

/-- The kinds of values that a frame can declare. -/
inductive ValueKind where
  | empty
  | number
  | real
  | text
  | binary
  deriving DecidableEq, Repr

namespace ValueKind

/-- The number that declares a kind. -/
def code : ValueKind → Int32
  | empty => 0
  | number => 2
  | real => 3
  | text => 4
  | binary => 5

/-- The kind that a number declares. -/
def ofCode? (code : Int32) : Option ValueKind :=
  if code = 0 then some empty
  else if code = 2 then some number
  else if code = 3 then some real
  else if code = 4 then some text
  else if code = 5 then some binary
  else none

def name : ValueKind → String
  | empty => "Empty"
  | number => "Number"
  | real => "Real"
  | text => "Text"
  | binary => "Binary"

@[simp] theorem ofCode?_code (kind : ValueKind) : ofCode? kind.code = some kind := by
  cases kind <;> rfl

end ValueKind

/-- One telemetry point. -/
structure DataFrame where
  source : List SourceTag := []
  /-- Nanoseconds since the epoch. -/
  timestamp : UInt64 := 0
  /-- The declared kind of the value, as the producer wrote it. -/
  payload : Int32 := 0
  numeric : Option Int64 := none
  textual : Option String := none
  measurement : Option Binary64 := none
  blob : Option Bytes := none
  deriving DecidableEq, Repr

namespace DataFrame

/-- The declared kind of the value; a number that declares none counts as empty. -/
def kind (frame : DataFrame) : ValueKind := (ValueKind.ofCode? frame.payload).getD .empty

def ofNothing (source : List SourceTag) (timestamp : UInt64) : DataFrame :=
  { source, timestamp, payload := ValueKind.empty.code }

def ofNumber (source : List SourceTag) (timestamp : UInt64) (value : Int64) : DataFrame :=
  { source, timestamp, payload := ValueKind.number.code, numeric := some value }

def ofReal (source : List SourceTag) (timestamp : UInt64) (value : Binary64) : DataFrame :=
  { source, timestamp, payload := ValueKind.real.code, measurement := some value }

def ofText (source : List SourceTag) (timestamp : UInt64) (value : String) : DataFrame :=
  { source, timestamp, payload := ValueKind.text.code, textual := some value }

def ofBytes (source : List SourceTag) (timestamp : UInt64) (value : Bytes) : DataFrame :=
  { source, timestamp, payload := ValueKind.binary.code, blob := some value }

end DataFrame

/-- The frames of one burst, in order. -/
structure DataBurst where
  frames : List DataFrame := []
  deriving DecidableEq, Repr

end BurstRelay

import BurstRelay.Bytes.Word
import BurstRelay.Wire.Varint

/-!
# Keyed fields

A field is a key, which has the number and the layout of the field, and a value. A message is a
sequence of fields, and a message inside another is the value of a length-delimited field. A reader
knows the fields of its schema and passes over all others, whatever their layout.

The fields of an embedded message are not cut off at its end while they are read: a value may not
reach behind the end of the whole input, and only then is the end of the message checked.
-/

namespace BurstRelay.Wire

/-- The levels of messages and groups that a reader goes down. -/
def nestingLimit : Nat := 100

/-! ## Writing -/

def encodeKey (number : Nat) (layout : Layout) : Bytes := encodeVarint (8 * number + layout.number)

def varintField (number value : Nat) : Bytes := encodeKey number .varint ++ encodeVarint value

/-- A field whose value is a word of eight bytes, lowest first. -/
def wordField (number : Nat) (value : UInt64) : Bytes :=
  encodeKey number .sixtyFourBit ++ Bytes.littleEndian 8 value.toNat

/-- A field whose value is a byte string, a text or a message. -/
def bytesField (number : Nat) (value : Bytes) : Bytes :=
  encodeKey number .lengthDelimited ++ encodeVarint value.length ++ value

/-! ## Reading values -/

def key (cursor : Cursor) : Except Cause (Nat × Layout × Cursor) := do
  let (key, rest) ← varint cursor
  if UInt32.size ≤ key then .error (.malformedKey key)
  else
    match Layout.ofNumber? (key % 8) with
    | none => .error (.unknownLayout (key % 8))
    | some layout => if key / 8 = 0 then .error .fieldZero else .ok (key / 8, layout, rest)

/-- Checks that a field has the layout that the schema gives it. -/
def expect (expected found : Layout) : Except Cause Unit :=
  if found = expected then .ok () else .error (.unexpectedLayout found expected)

def exactly (count : Nat) (cursor : Cursor) : Except Cause (Bytes × Cursor) :=
  match cursor.take? count with
  | some result => .ok result
  | none => .error .inputTooShort

def varintValue (layout : Layout) (cursor : Cursor) : Except Cause (Nat × Cursor) := do
  expect .varint layout
  varint cursor

def wordValue (layout : Layout) (cursor : Cursor) : Except Cause (UInt64 × Cursor) := do
  expect .sixtyFourBit layout
  let (word, rest) ← exactly 8 cursor
  return (UInt64.ofNat (Bytes.ofLittleEndian word), rest)

/-- Reads the byte string of a field. -/
def bytesValue (layout : Layout) (cursor : Cursor) : Except Cause (Bytes × Cursor) := do
  expect .lengthDelimited layout
  let (length, rest) ← varint cursor
  exactly length rest

def textValue (layout : Layout) (cursor : Cursor) : Except Cause (String × Cursor) := do
  let (spelled, rest) ← bytesValue layout cursor
  match Bytes.toString? spelled with
  | some text => .ok (text, rest)
  | none => .error .malformedText

/-! ## Passing over unknown fields -/

/-- Passes over the fields of a group up to its end; `skip` passes over the value of one of them. -/
def skipGroup (skip : Layout → Nat → Cursor → Except Cause Cursor) (group : Nat) :
    Nat → Cursor → Except Cause Cursor
  | 0, _ => .error .malformedVarint
  | fuel + 1, cursor => do
    let (number, layout, rest) ← key cursor
    if layout = .endGroup then
      if number = group then .ok rest else .error .strayGroupEnd
    else
      let rest ← skip layout number rest
      skipGroup skip group fuel rest

/-- Passes over the value of a field, going down at most `levels` groups. -/
def skipValue : Nat → Layout → Nat → Cursor → Except Cause Cursor
  | 0, _, _, _ => .error .nestedTooDeeply
  | levels + 1, layout, number, cursor =>
    match layout with
    | .varint => do return (← varint cursor).2
    | .sixtyFourBit => do return (← exactly 8 cursor).2
    | .thirtyTwoBit => do return (← exactly 4 cursor).2
    | .lengthDelimited => do
      let (length, rest) ← varint cursor
      return (← exactly length rest).2
    | .startGroup => skipGroup (skipValue levels) number (cursor.left + 1) cursor
    | .endGroup => .error .strayGroupEnd

/-! ## Messages -/

/-- How a message takes in the value of one field. -/
abbrev Merge (α : Type) := α → Nat → Layout → Cursor → Except Fault (α × Cursor)

/-- A reader of a part of a message, as a reader of the message. -/
def lift {α : Type} (read : Except Cause α) : Except Fault α := read.mapError ({ cause := · })

/-- A reader of the value of a field of the schema. -/
def inside {α : Type} (message field : String) (read : Except Fault α) : Except Fault α :=
  read.mapError (Fault.inside ⟨message, field⟩)

/-- Reads fields until at most `stop` bytes of the input are left. Each field has at least one byte,
so that as many steps as there are bytes are enough. -/
def fieldsUntil {α : Type} (merge : Merge α) (stop : Nat) :
    Nat → α → Cursor → Except Fault (α × Cursor)
  | 0, message, cursor => .ok (message, cursor)
  | fuel + 1, message, cursor =>
    if cursor.left ≤ stop then .ok (message, cursor)
    else do
      let (number, layout, rest) ← lift (key cursor)
      let (message, rest) ← merge message number layout rest
      fieldsUntil merge stop fuel message rest

/-- Reads a message that takes up the whole input. -/
def messageOf {α : Type} (merge : Merge α) (empty : α) (input : Bytes) : Except Fault α := do
  let cursor := Cursor.of input
  return (← fieldsUntil merge 0 cursor.left empty cursor).1

/-- Reads the embedded message of a field, `levels` levels above the deepest that is allowed. -/
def messageValue {α : Type} (merge : Merge α) (empty : α) (levels : Nat) (layout : Layout)
    (cursor : Cursor) : Except Fault (α × Cursor) := do
  lift (expect .lengthDelimited layout)
  if levels = 0 then .error { cause := .nestedTooDeeply }
  else
    let (length, rest) ← lift (varint cursor)
    if rest.left < length then .error { cause := .inputTooShort }
    else
      let stop := rest.left - length
      let (message, rest) ← fieldsUntil merge stop rest.left empty rest
      if rest.left = stop then .ok (message, rest) else .error { cause := .messageTooShort }

end BurstRelay.Wire

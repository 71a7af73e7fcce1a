import BurstRelay.Decimal.Layout
import BurstRelay.Stream.Sink
import BurstRelay.Telemetry.Frame
import BurstRelay.Text.Quoted

/-!
# Telemetry frames as lines of text

A frame is printed on one line, as a JSON object or as a text for a human reader. Both show the same
fields in the same order; they differ in the names of fields, in quoting, in the layout of numbers
and in how they show an absent value.
-/

namespace BurstRelay

/-- How a frame is printed. -/
inductive TextStyle where
  | json
  | visible
  deriving DecidableEq, Repr

namespace TextStyle

/-- The text of a signed number. -/
def integerText (value : Int) : List Char := (toString value).toList

/-- The text of a number without sign. -/
def numberText (value : Nat) : List Char := Decimal.digitsOf value

/-- The texts in order, with a separator between each two. -/
def joined (separator : String) : List (List Char) → List Char
  | [] => []
  | [text] => text
  | text :: rest => text ++ separator.toList ++ joined separator rest

/-- A list of texts in square brackets. -/
def bracketed (separator : String) (texts : List (List Char)) : List Char :=
  '[' :: (joined separator texts ++ [']'])

end TextStyle

open TextStyle

/-! ## JSON -/

namespace DataFrame

def jsonOption {α : Type} (text : α → List Char) : Option α → List Char
  | some value => text value
  | none => "null".toList

def jsonField (name : String) (text : List Char) : List Char :=
  Text.quoted Text.escapeJson name ++ ':' :: text

def jsonObject (fields : List (List Char)) : List Char := '{' :: (joined "," fields ++ ['}'])

/-- The text of a measurement in JSON, which has no text for those that are not finite. -/
def jsonMeasurement (value : Binary64) : List Char :=
  match value.magnitude with
  | .finite .. => Decimal.Layout.json.text value
  | _ => "null".toList

/-- The text of a byte string in JSON. -/
def jsonBlob (blob : Bytes) : List Char :=
  bracketed "," (blob.map fun byte => numberText byte.toNat)

def jsonTag (tag : SourceTag) : List Char :=
  jsonObject
    [jsonField "field" (Text.quoted Text.escapeJson tag.field),
      jsonField "value" (Text.quoted Text.escapeJson tag.value)]

def jsonText (frame : DataFrame) : List Char :=
  jsonObject
    [jsonField "source" (bracketed "," (frame.source.map jsonTag)),
      jsonField "timestamp" (numberText frame.timestamp.toNat),
      jsonField "payload" (integerText frame.payload.toInt),
      jsonField "value_numeric" (jsonOption (fun value => integerText value.toInt) frame.numeric),
      jsonField "value_textual" (jsonOption (Text.quoted Text.escapeJson) frame.textual),
      jsonField "value_measurement" (jsonOption jsonMeasurement frame.measurement),
      jsonField "value_blob" (jsonOption jsonBlob frame.blob)]

/-! ## For a human reader -/

/-- The text of an optional value for a human reader. -/
def visibleOption {α : Type} (text : α → List Char) : Option α → List Char
  | some value => "Some(".toList ++ text value ++ [')']
  | none => "None".toList

/-- A field of a structure for a human reader. -/
def visibleField (name : String) (text : List Char) : List Char := name.toList ++ ": ".toList ++ text

/-- The text of a structure for a human reader. -/
def visibleStructure (name : String) (fields : List (List Char)) : List Char :=
  name.toList ++ [' ', '{', ' '] ++ joined ", " fields ++ [' ', '}']

/-- The text of a declared kind for a human reader: its name, or the number that declares none. -/
def visiblePayload (payload : Int32) : List Char :=
  match ValueKind.ofCode? payload with
  | some kind => kind.name.toList
  | none => integerText payload.toInt

/-- The text of a byte string for a human reader. -/
def visibleBlob (blob : Bytes) : List Char :=
  bracketed ", " (blob.map fun byte => numberText byte.toNat)

/-- The text of a tag for a human reader. -/
def visibleTag (tag : SourceTag) : List Char :=
  visibleStructure "SourceTag"
    [visibleField "field" (Text.quoted Text.escapeVisible tag.field),
      visibleField "value" (Text.quoted Text.escapeVisible tag.value)]

/-- The text of a frame for a human reader. -/
def visibleText (frame : DataFrame) : List Char :=
  visibleStructure "DataFrame"
    [visibleField "source" (bracketed ", " (frame.source.map visibleTag)),
      visibleField "timestamp" (numberText frame.timestamp.toNat),
      visibleField "payload" (visiblePayload frame.payload),
      visibleField "value_numeric"
        (visibleOption (fun value => integerText value.toInt) frame.numeric),
      visibleField "value_textual"
        (visibleOption (Text.quoted Text.escapeVisible) frame.textual),
      visibleField "value_measurement" (visibleOption Decimal.Layout.visible.text frame.measurement),
      visibleField "value_blob" (visibleOption visibleBlob frame.blob)]

/-! ## Lines -/

def text : TextStyle → DataFrame → List Char
  | .json, frame => frame.jsonText
  | .visible, frame => frame.visibleText

def line (style : TextStyle) (frame : DataFrame) : Bytes :=
  Bytes.ofString (String.ofList (text style frame ++ ['\n']))

/-- Writes the lines of frames to a sink, up to the first that fails. -/
def writeLines (style : TextStyle) (sink : Sink) : List DataFrame → Except Fault Unit × Sink
  | [] => (.ok (), sink)
  | frame :: frames =>
    match sink.writeAll (line style frame) with
    | (.ok (), sink) => writeLines style sink frames
    | (.error fault, sink) => (.error fault, sink)

end DataFrame

end BurstRelay

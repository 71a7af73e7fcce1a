import BurstRelay.Telemetry.Frame
import BurstRelay.Wire.Field
import BurstRelay.Burst.Fault

/-!
# The container encoding of telemetry

How frames and bursts are written as records, and how records are read:

* a tag has its field as field 1 and its value as field 2, both left out when empty;
* a frame has its tags as field 1, each an embedded message; its time as the word 2 and its declared
  kind as the number 3, both left out when zero; and the values that are present, zero or not, as
  fields 4, 5, 6 and 8;
* a burst has its frames as field 1, each an embedded message.

Reading takes fields in any order, keeps the last value of a field that is repeated, appends what is
a list, and passes over fields of other numbers.
-/

namespace BurstRelay

open Wire

/-! ## Writing -/

namespace SourceTag

/-- The text of a tag as a field, left out when empty. -/
def textField (number : Nat) (text : String) : Bytes :=
  if text = "" then [] else bytesField number (Bytes.ofString text)

def encode (tag : SourceTag) : Bytes := textField 1 tag.field ++ textField 2 tag.value

end SourceTag

namespace DataFrame

/-- The number that a declared kind is written as: a negative one as its complement to 2^64. -/
def payloadNumber (payload : Int32) : Nat := payload.toInt64.toUInt64.toNat

def toRecord (frame : DataFrame) : Bytes :=
  frame.source.flatMap (fun tag => bytesField 1 tag.encode) ++
  (if frame.timestamp = 0 then [] else wordField 2 frame.timestamp) ++
  (if frame.payload = 0 then [] else varintField 3 (payloadNumber frame.payload)) ++
  (frame.numeric.map fun value => varintField 4 (zigzag value)).getD [] ++
  (frame.textual.map fun value => bytesField 5 (Bytes.ofString value)).getD [] ++
  (frame.measurement.map fun value => wordField 6 value.bits).getD [] ++
  (frame.blob.map fun value => bytesField 8 value).getD []

end DataFrame

namespace DataBurst

def toRecord (burst : DataBurst) : Bytes :=
  burst.frames.flatMap fun frame => bytesField 1 frame.toRecord

end DataBurst

/-! ## Reading -/

namespace SourceTag

/-- Takes one field into a tag. -/
def merge (levels : Nat) : Merge SourceTag := fun tag number layout cursor =>
  match number with
  | 1 => inside "SourceTag" "field" do
    let (text, rest) ← lift (textValue layout cursor)
    return ({ tag with field := text }, rest)
  | 2 => inside "SourceTag" "value" do
    let (text, rest) ← lift (textValue layout cursor)
    return ({ tag with value := text }, rest)
  | _ => do
    let rest ← lift (skipValue levels layout number cursor)
    return (tag, rest)

end SourceTag

namespace DataFrame

/-- The declared kind that a number is read as: its lowest thirty-two bits, with a sign. -/
def ofPayloadNumber (number : Nat) : Int32 := (UInt32.ofNat number).toInt32

/-- Takes one field into a frame. -/
def merge (levels : Nat) : Merge DataFrame := fun frame number layout cursor =>
  match number with
  | 1 => inside "DataFrame" "source" do
    let (tag, rest) ← messageValue (SourceTag.merge (levels - 1)) {} levels layout cursor
    return ({ frame with source := frame.source ++ [tag] }, rest)
  | 2 => inside "DataFrame" "timestamp" do
    let (word, rest) ← lift (wordValue layout cursor)
    return ({ frame with timestamp := word }, rest)
  | 3 => inside "DataFrame" "payload" do
    let (value, rest) ← lift (varintValue layout cursor)
    return ({ frame with payload := ofPayloadNumber value }, rest)
  | 4 => inside "DataFrame" "value_numeric" do
    let (value, rest) ← lift (varintValue layout cursor)
    return ({ frame with numeric := some (unzigzag value) }, rest)
  | 5 => inside "DataFrame" "value_textual" do
    let (text, rest) ← lift (textValue layout cursor)
    return ({ frame with textual := some text }, rest)
  | 6 => inside "DataFrame" "value_measurement" do
    let (word, rest) ← lift (wordValue layout cursor)
    return ({ frame with measurement := some ⟨word⟩ }, rest)
  | 8 => inside "DataFrame" "value_blob" do
    let (blob, rest) ← lift (bytesValue layout cursor)
    return ({ frame with blob := some blob }, rest)
  | _ => do
    let rest ← lift (skipValue levels layout number cursor)
    return (frame, rest)

def decode (record : Bytes) : Except Wire.Fault DataFrame := messageOf (merge nestingLimit) {} record

/-- Reads the record of a frame, as a step of processing a burst. -/
def ofRecord (record : Bytes) : Except BurstFault DataFrame :=
  (decode record).mapError fun fault => .undecodable fault record.length

end DataFrame

namespace DataBurst

/-- Takes one field into the frames of a burst, of which the latest comes first. -/
def merge (levels : Nat) : Merge (List DataFrame) := fun latest number layout cursor =>
  match number with
  | 1 => inside "DataBurst" "frames" do
    let (frame, rest) ← messageValue (DataFrame.merge (levels - 1)) {} levels layout cursor
    return (frame :: latest, rest)
  | _ => do
    let rest ← lift (skipValue levels layout number cursor)
    return (latest, rest)

def decode (record : Bytes) : Except Wire.Fault DataBurst :=
  (messageOf (merge nestingLimit) [] record).map fun latest => ⟨latest.reverse⟩

/-- Reads the record of a burst, as a step of processing a burst. -/
def ofRecord (record : Bytes) : Except BurstFault DataBurst :=
  (decode record).mapError fun fault => .undecodable fault record.length

/-- The records of the frames of a burst, in order; duplicates are kept. -/
def split (record : Bytes) : Except BurstFault (List Bytes) :=
  (ofRecord record).map fun burst => burst.frames.map DataFrame.toRecord

end DataBurst

end BurstRelay

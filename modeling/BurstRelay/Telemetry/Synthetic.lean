import BurstRelay.Block.Decoder
import BurstRelay.Burst.Payload
import BurstRelay.Random.Source
import BurstRelay.Stream.Fault
import BurstRelay.Telemetry.Container

/-!
# Synthetic telemetry

Random frames, grouped into bursts, for trying relays out. What a frame holds is decided by a random
source; its time is a random while before the time of a clock, which is asked once for each frame.
Grouping draws nothing, so that the same source gives the same frames in groups of any size.
-/

namespace BurstRelay

/-- A clock, by the number of times it was asked before: nanoseconds since the epoch. -/
abbrev Clock := Nat → UInt64

namespace Synthetic

open RandomSource

variable {State : Type}

/-- Random texts are shorter than this. -/
def textBound : Nat := 20

/-- A frame has at most so many tags. -/
def mostTags : Nat := 4

/-- The random while is shorter than this: one second. -/
def delayBound : Nat := 1000000000

/-- Random byte strings are shorter than this. -/
def blobBound : Nat := 64

def letter (source : RandomSource State) : Draw State Char := do
  let index ← source.byteBelow 26
  return Char.ofNat (97 + index)

/-- Draws a text of lowercase letters. -/
def text (source : RandomSource State) : Draw State String := do
  let length ← source.below 64 textBound
  return String.ofList (← repeated (letter source) length)

def tag (source : RandomSource State) : Draw State SourceTag := do
  let field ← text source
  let value ← text source
  return { field, value }

def byte (source : RandomSource State) : Draw State UInt8 := do
  return UInt8.ofNat (← source.word 32)

/-- Draws a measurement: a random part of a thousand, in steps of two to the power minus fifty-three
before it is rounded. -/
def measurement (source : RandomSource State) : Draw State Binary64 := do
  let word ← source.word 64
  return Binary64.ofQuotient false ((word >>> 11) * 1000) (1 <<< 53)

/-- Draws a frame with a random value of a random kind. -/
def frame (source : RandomSource State) (now : UInt64) : Draw State DataFrame := do
  let tags ← repeated (tag source) (1 + (← source.below 32 mostTags))
  let delay ← source.below 64 delayBound
  let timestamp := UInt64.ofNat (now.toNat - delay)
  match ← source.below 32 5 with
  | 0 => return .ofNothing tags timestamp
  | 1 => return .ofNumber tags timestamp (UInt64.ofNat (← source.word 64)).toInt64
  | 2 => return .ofReal tags timestamp (← measurement source)
  | 3 => return .ofText tags timestamp (← text source)
  | _ =>
    let length ← source.below 32 blobBound
    return .ofBytes tags timestamp (← repeated (byte source) length)

/-- Draws so many frames, of which `asked` were drawn before. -/
def frames (source : RandomSource State) (clock : Clock) (asked : Nat) :
    Nat → Draw State (List DataFrame)
  | 0 => return []
  | count + 1 => do
    let first ← frame source (clock asked)
    let others ← frames source clock (asked + 1) count
    return first :: others

/-- The sizes of the bursts that so many frames are grouped into. A length of zero counts as one. -/
def burstSizes (total length : Nat) : List Nat :=
  let length := max length 1
  List.replicate (total / length) length ++
    if total % length = 0 then [] else [total % length]

def bursts (source : RandomSource State) (clock : Clock) (asked : Nat) :
    List Nat → Draw State (List DataBurst)
  | [] => return []
  | size :: sizes => do
    let first ← frames source clock asked size
    let others ← bursts source clock (asked + size) sizes
    return ⟨first⟩ :: others

end Synthetic

/-- The payload that a producer sends for a burst, with its body compressed. The header has four bytes
for the length of the record, and the compressor takes no more than makes a block. -/
def DataBurst.wire (compress : Bytes → Bytes) (burst : DataBurst) : Except Fault Bytes :=
  let record := burst.toRecord
  if UInt32.size ≤ record.length then
    .error ⟨.invalidInput, s!"burst record of {record.length} bytes exceeds u32"⟩
  else if Block.inputLimit < record.length then
    .error ⟨.invalidInput, "Compression input too long."⟩
  else .ok (Payload.encode (UInt32.ofNat record.length) (compress record))

theorem DataBurst.wire_of_le {compress : Bytes → Bytes} {burst : DataBurst}
    (fits : burst.toRecord.length ≤ Block.inputLimit) :
    burst.wire compress =
      .ok (Payload.encode (UInt32.ofNat burst.toRecord.length) (compress burst.toRecord)) := by
  have announced : Block.inputLimit < UInt32.size := by decide
  unfold wire
  dsimp only
  rw [if_neg (by omega), if_neg (by omega)]

/-- The bursts of payloads that stand back to back, up to the first that is none. Each payload takes
bytes, so that as many steps as there are bytes are enough. -/
def DataBurst.ofPayloads (payloads : Bytes) : List DataBurst :=
  go payloads.length payloads
where
  /-- The bursts of so many payloads at most. -/
  go : Nat → Bytes → List DataBurst
    | 0, _ => []
    | fuel + 1, payloads =>
      match Header.decode? payloads with
      | none => []
      | some header =>
        let body := (payloads.drop Header.size).take header.declaredCompressed.toNat
        match Block.decode header.declaredUncompressed.toNat body with
        | .error _ => []
        | .ok record =>
          match DataBurst.ofRecord record with
          | .error _ => []
          | .ok burst => burst :: go fuel (payloads.drop header.payloadLength)

end BurstRelay

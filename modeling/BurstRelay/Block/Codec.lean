import BurstRelay.Block.Decoder
import BurstRelay.Buffer.Region
import BurstRelay.Burst.Payload

/-!
# Codecs and checked decompression

A codec turns the body of a burst into a record, in a region it is given. It reports how many bytes
it produced or that it failed, and what it wrote from the start of the region on; it can carry a
state from one body to the next. Nothing that a codec reports is believed: `decompress` accepts a
burst only if the codec produced exactly the size that the header declares.
-/

namespace BurstRelay

/-- What came of decoding one body. -/
structure Decoding (State : Type) where
  /-- The number of bytes that the codec claims to have produced, or why it failed. -/
  outcome : Except String Nat
  /-- The bytes written from the start of the region on. -/
  written : Bytes
  /-- The state of the codec afterwards. -/
  state : State

/-- A way to decode bodies. -/
structure Codec (State : Type) where
  /-- The name of the codec in messages. -/
  name : String
  /-- Decodes a body into a region. -/
  decode : State → Bytes → Region → Decoding State

namespace Codec

/-- The largest output that the block format is decoded into. -/
def blockLimit : Nat := (1 <<< 31) - 1

/-- What a library leaves in a region beside a record, by the block and the region as it was before:
behind the record of a block that it accepts, and from the start of the region on if it refuses the
block. It copies in large steps, so that these bytes can be any. -/
abbrev Leavings := Bytes → Region → Bytes

/-- A library that writes nothing but records. -/
def Leavings.nothing : Leavings := fun _ _ => []

/-- The codec for compressed blocks, with a library that takes regions of up to a limit and does not
look at a block if the region is larger. It has no state. -/
def blockWithin (limit : Nat) (leavings : Leavings) : Codec Unit where
  name := "lz4"
  decode _ body region :=
    let capacity := min region.size blockLimit
    if limit < capacity then ⟨.error "Given size parameter is too big", [], ()⟩
    else
      match Block.decode capacity body with
      | .ok record => ⟨.ok record.length, record ++ leavings body region, ()⟩
      | .error _ =>
        ⟨.error "Decompression failed. Input invalid or too long?", leavings body region, ()⟩

/-- The codec for compressed blocks. Its library takes no region that is larger than the longest
content of a block. -/
def block (leavings : Leavings) : Codec Unit := blockWithin Block.inputLimit leavings

/-- What a scripted codec does with one body. -/
inductive Step where
  /-- It writes nothing, and claims so many bytes. -/
  | claim (count : Nat)
  | fail (reason : String)
  /-- It copies as much of the body as there is room for. -/
  | copy
  deriving DecidableEq, Repr

/-- The codec that follows a script, and copies when the script is used up. -/
def scripted : Codec (List Step) where
  name := "script"
  decode steps body region :=
    match steps with
    | .claim count :: rest => ⟨.ok count, [], rest⟩
    | .fail reason :: rest => ⟨.error reason, [], rest⟩
    | steps =>
      let written := body.take region.size
      ⟨.ok written.length, written, steps.tail⟩

end Codec

/-- What came of decompressing one burst: the number of bytes of its record or why it has none, the
region afterwards, and the state of the codec. -/
structure Decompression (State : Type) where
  outcome : Except BurstFault Nat
  region : Region
  state : State

/-- Whether a codec's report can be accepted for a burst that goes into a region of `room` bytes. -/
def Payload.checkProduced (payload : Payload) (codec : String) (room : Nat)
    (reported : Except String Nat) : Except BurstFault Nat :=
  let failure (cause : CodecFault) : BurstFault := .codecFailure codec cause payload.body.length
  match reported with
  | .error reason => .error (failure (.refused reason))
  | .ok produced =>
    if produced = 0 then .error (failure .nothingProduced)
    else if room < produced then .error (failure (.overreported produced room))
    else if produced ≠ payload.header.declaredUncompressed.toNat then
      .error (.sizeMismatch payload.header.declaredUncompressed produced)
    else .ok produced

/-- Decompresses the body of a burst into a region, and checks what the codec produced. -/
def Payload.decompress {State : Type} (payload : Payload) (codec : Codec State) (state : State)
    (region : Region) : Decompression State :=
  let decoding := codec.decode state payload.body region
  { outcome := payload.checkProduced codec.name region.size decoding.outcome
    region := region.write 0 decoding.written
    state := decoding.state }

end BurstRelay

import BurstRelay.Bytes.Cursor
import BurstRelay.Bytes.Word

/-!
# Decoding compressed blocks

A block is a list of sequences. A sequence is a token, a run of literal bytes, and a match, which
repeats bytes from some distance back in what was produced so far; the last sequence is literals
alone and ends with the block. The upper half of the token is the length of the run and the lower
half the length of the match beyond its least length; fifteen means that more bytes of length follow.

Some rules keep a distance from the ends of the input and of the output, because decoders copy in
large steps. They decide which blocks are valid, and they look at the capacity of the output, not at
the size that somebody declared:

* only a literal run that ends the block may come near the ends;
* a match may not reach into the last five bytes of the output, unless the sequence began far from
  both ends, was short, and did not overlap itself closely.

Every access is checked as well, and `BlockFault.outOfBounds` says that one failed. What is decoded
here is the record alone, byte by byte: what a library writes beside it is left open
(`Codec.Leavings`).
-/

namespace BurstRelay.Block

/-- Why a block is not decoded. -/
inductive BlockFault where
  /-- The block breaks a rule of the format, or does not fit the output. -/
  | malformed
  /-- An access outside the input or the output. -/
  | outOfBounds
  deriving DecidableEq, Repr

/-- The least length of a match. -/
def minimumMatch : Nat := 4

/-- The longest content that a block is made of. -/
def inputLimit : Nat := 0x7E000000

def nextByte (input : Cursor) : Except BlockFault (UInt8 × Cursor) :=
  match input.next? with
  | some result => .ok result
  | none => .error .outOfBounds

/-! ## Tokens and lengths -/

/-- The token that a sequence begins with. -/
structure Token where
  /-- The length of the run of literals, or fifteen if there is more of it. -/
  literals : Nat
  /-- The length of the match beyond the least length, or fifteen if there is more of it. -/
  repeats : Nat
  deriving DecidableEq, Repr

def nextToken (input : Cursor) : Except BlockFault (Token × Cursor) := do
  let (byte, rest) ← nextByte input
  return ({ literals := byte.toNat / 16, repeats := byte.toNat % 16 }, rest)

/-- Reads at most so many bytes of a length. -/
def lengthWithin (margin : Nat) : Nat → Cursor → Except BlockFault (Nat × Cursor)
  | 0, _ => .error .outOfBounds
  | count + 1, input => do
    let (byte, rest) ← nextByte input
    if rest.left < margin then .error .malformed
    else if byte = 255 then
      let (more, rest) ← lengthWithin margin count rest
      return (255 + more, rest)
    else return (byte.toNat, rest)

/-- Reads the bytes of a length, up to the first that is not 255, and adds them up. At least `margin`
bytes of the input have to be left behind each of them. -/
def length (margin : Nat) (input : Cursor) : Except BlockFault (Nat × Cursor) :=
  lengthWithin margin input.left input

/-- Reads what the token does not say about the length of the run of literals. -/
def literalLength (token : Token) (input : Cursor) : Except BlockFault (Nat × Cursor) :=
  if token.literals < 15 then .ok (token.literals, input)
  else if input.left ≤ 15 then .error .malformed
  else do
    let (more, rest) ← length 15 input
    return (15 + more, rest)

/-- Reads what the token does not say about the length of the match. -/
def matchLength (token : Token) (input : Cursor) : Except BlockFault (Nat × Cursor) :=
  if token.repeats < 15 then .ok (token.repeats + minimumMatch, input)
  else do
    let (more, rest) ← length 4 input
    return (15 + more + minimumMatch, rest)

def matchDistance (input : Cursor) : Except BlockFault (Nat × Cursor) := do
  let (low, input) ← nextByte input
  let (high, input) ← nextByte input
  return (Bytes.ofLittleEndian [low, high], input)

/-! ## Copying -/

/-- Appends literal bytes to the output. -/
def copyLiterals (capacity : Nat) (output : Array UInt8) (count : Nat) (input : Cursor) :
    Except BlockFault (Array UInt8 × Cursor) :=
  match input.take? count with
  | none => .error .outOfBounds
  | some (literals, rest) =>
    if capacity < output.size + count then .error .outOfBounds
    else .ok (output ++ literals, rest)

/-- Appends `count` bytes to the output, each the one `distance` back; distance zero gives zeros. -/
def repeatBack (distance : Nat) : Nat → Array UInt8 → Array UInt8
  | 0, output => output
  | count + 1, output =>
    let byte := if distance = 0 then 0 else output.getD (output.size - distance) 0
    repeatBack distance count (output.push byte)

@[simp] theorem size_repeatBack (distance count : Nat) (output : Array UInt8) :
    (repeatBack distance count output).size = output.size + count := by
  induction count generalizing output with
  | zero => rfl
  | succ count ih =>
    rw [repeatBack, ih, Array.size_push]
    omega

def copyMatch (capacity : Nat) (output : Array UInt8) (distance count : Nat) :
    Except BlockFault (Array UInt8) :=
  if output.size < distance ∨ capacity < output.size + count then .error .outOfBounds
  else .ok (repeatBack distance count output)

/-! ## Sequences -/

/-- What follows a sequence. -/
inductive Progress where
  /-- The block is at its end. -/
  | finished (output : Array UInt8)
  /-- More sequences follow. -/
  | continues (output : Array UInt8) (input : Cursor)

/-- Whether a sequence begins so far from both ends that a short one needs no further check. -/
def isRelaxed (capacity : Nat) (output : Array UInt8) (token : Token) (input : Cursor) : Bool :=
  token.literals < 15 && 17 ≤ input.left && output.size + 32 ≤ capacity

/-- Whether a run of literals comes so near to an end that no match can follow it. -/
def isLastRun (capacity : Nat) (output : Array UInt8) (literals : Nat) (input : Cursor) : Bool :=
  capacity < output.size + literals + 12 || input.left < literals + 8

/-- Appends the run of literals that ends the block: it has to be all that is left, and to fit. -/
def appendLastRun (capacity : Nat) (output : Array UInt8) (literals : Nat) (input : Cursor) :
    Except BlockFault (Array UInt8) :=
  if literals = input.left ∧ output.size + literals ≤ capacity then do
    let (output, _) ← copyLiterals capacity output literals input
    return output
  else .error .malformed

/-- Appends a match, which may not begin before the output does, nor come too near to the end. -/
def appendMatch (capacity : Nat) (relaxed : Bool) (token : Token) (output : Array UInt8)
    (distance count : Nat) : Except BlockFault (Array UInt8) :=
  if output.size < distance then .error .malformed
  else if capacity < output.size + count + 5 ∧ ¬ (relaxed ∧ token.repeats < 15 ∧ 8 ≤ distance) then
    .error .malformed
  else copyMatch capacity output distance count

def sequence (capacity : Nat) (output : Array UInt8) (input : Cursor) :
    Except BlockFault Progress := do
  let (token, input) ← nextToken input
  let relaxed := isRelaxed capacity output token input
  let (literals, input) ← literalLength token input
  if !relaxed && isLastRun capacity output literals input then
    return .finished (← appendLastRun capacity output literals input)
  else
    let (output, input) ← copyLiterals capacity output literals input
    let (distance, input) ← matchDistance input
    let (count, input) ← matchLength token input
    return .continues (← appendMatch capacity relaxed token output distance count) input

/-- Decodes sequences up to the end of the block. Each has at least one byte, so that as many steps
as there are bytes are enough. -/
def sequences (capacity : Nat) : Nat → Array UInt8 → Cursor → Except BlockFault (Array UInt8)
  | 0, _, _ => .error .outOfBounds
  | fuel + 1, output, input => do
    match ← sequence capacity output input with
    | .finished output => return output
    | .continues output input => sequences capacity fuel output input

/-- Decodes a block into an output of so many bytes, and gives the bytes it produced. -/
def decode (capacity : Nat) (block : Bytes) : Except BlockFault Bytes :=
  if capacity = 0 then
    if block = [0] then .ok [] else .error .malformed
  else if block = [] then .error .malformed
  else
    let input := Cursor.of block
    (sequences capacity input.left #[] input).map Array.toList

end BurstRelay.Block

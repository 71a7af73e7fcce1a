import BurstRelay.Bytes.Basic

/-!
# Reading text that may be damaged

Bytes that are not UTF-8 are read by putting a replacement character in the place of each part that
spells no character: the longest start of a character that is there, or one byte.
-/

namespace BurstRelay.Text

/-- What the first byte of a character says: the number of bytes that follow, and the bounds of the
first of them. -/
def leadByte? (byte : Nat) : Option (Nat × Nat × Nat) :=
  if 0xC2 ≤ byte ∧ byte ≤ 0xDF then some (1, 0x80, 0xBF)
  else if byte = 0xE0 then some (2, 0xA0, 0xBF)
  else if byte = 0xED then some (2, 0x80, 0x9F)
  else if 0xE1 ≤ byte ∧ byte ≤ 0xEF then some (2, 0x80, 0xBF)
  else if byte = 0xF0 then some (3, 0x90, 0xBF)
  else if 0xF1 ≤ byte ∧ byte ≤ 0xF3 then some (3, 0x80, 0xBF)
  else if byte = 0xF4 then some (3, 0x80, 0x8F)
  else none

/-- Reads the bytes that follow the first one of a character: the code point, if all of them are
there, and the bytes behind those that fit. -/
def tailBytes (code : Nat) : Nat → Nat → Nat → Bytes → Option Nat × Bytes
  | 0, _, _, bytes => (some code, bytes)
  | _ + 1, _, _, [] => (none, [])
  | count + 1, low, high, byte :: rest =>
    if low ≤ byte.toNat ∧ byte.toNat ≤ high then
      tailBytes (64 * code + byte.toNat % 64) count 0x80 0xBF rest
    else (none, byte :: rest)

/-- Reads characters, of which each takes a byte at least. -/
def lossyFor : Nat → Bytes → List Char
  | 0, _ => []
  | _, [] => []
  | fuel + 1, byte :: rest =>
    if byte.toNat < 0x80 then Char.ofNat byte.toNat :: lossyFor fuel rest
    else
      match leadByte? byte.toNat with
      | none => '\uFFFD' :: lossyFor fuel rest
      | some (count, low, high) =>
        let (code, rest) := tailBytes (byte.toNat % (1 <<< (6 - count))) count low high rest
        (code.map Char.ofNat).getD '\uFFFD' :: lossyFor fuel rest

/-- The text that the bytes spell, with damaged parts replaced. -/
def lossy (bytes : Bytes) : String := String.ofList (lossyFor bytes.length bytes)

end BurstRelay.Text

import BurstRelay.Bytes.Basic

/-!
# Hexadecimal text of byte strings

A byte is written as two lowercase digits, the high half first. `decode?` accepts exactly what
`encode` writes.
-/

namespace BurstRelay.Hex

/-- The lowercase digit of a number below sixteen. -/
def digit (value : Nat) : Char :=
  if value < 10 then Char.ofNat (48 + value) else Char.ofNat (87 + value)

def value? (digit : Char) : Option Nat :=
  if '0' ≤ digit ∧ digit ≤ '9' then some (digit.toNat - 48)
  else if 'a' ≤ digit ∧ digit ≤ 'f' then some (digit.toNat - 87)
  else none

/-- The digits of a byte string. -/
def encode (bytes : Bytes) : List Char :=
  bytes.flatMap fun byte => [digit (byte.toNat / 16), digit (byte.toNat % 16)]

/-- The byte string whose digits are given. -/
def decode? : List Char → Option Bytes
  | [] => some []
  | [_] => none
  | high :: low :: rest => do
    let high ← value? high
    let low ← value? low
    let rest ← decode? rest
    return UInt8.ofNat (16 * high + low) :: rest

def text (bytes : Bytes) : String := String.ofList (encode bytes)

/-- The digits of a byte string, as the bytes of their text. Every digit is one byte. -/
def ascii (bytes : Bytes) : Bytes := (encode bytes).map fun digit => UInt8.ofNat digit.toNat

end BurstRelay.Hex

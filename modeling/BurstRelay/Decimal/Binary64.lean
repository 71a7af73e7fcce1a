import BurstRelay.Bytes.Basic

/-!
# Binary floating-point numbers of sixty-four bits

A measurement is kept as its sixty-four bits, so that every pattern survives a round trip: signed
zeros, infinities, and every payload of a NaN. What the bits stand for is read from them in exact
arithmetic, and a quotient of natural numbers is rounded to the nearest such number, a tie going to
the even significand.
-/

namespace BurstRelay

/-- A floating-point number of sixty-four bits. -/
structure Binary64 where
  bits : UInt64
  deriving DecidableEq, Repr

namespace Binary64

/-- What the bits of a floating-point number stand for, up to the sign. -/
inductive Magnitude where
  | notANumber
  | infinite
  /-- The number `significand` times two to the power `exponent`. -/
  | finite (significand : Nat) (exponent : Int)
  deriving DecidableEq, Repr

/-- The weight of the bit that a normal significand has in front of its fraction. -/
def leadingBit : Nat := 1 <<< 52

/-- Whether the sign bit is set. -/
def negative (number : Binary64) : Bool := number.bits.toNat >>> 63 = 1

def exponentBits (number : Binary64) : Nat := number.bits.toNat / leadingBit % 2048

/-- The fifty-two bits of the fraction. -/
def fractionBits (number : Binary64) : Nat := number.bits.toNat % leadingBit

/-- What the bits stand for, up to the sign. -/
def magnitude (number : Binary64) : Magnitude :=
  if number.exponentBits = 2047 then
    if number.fractionBits = 0 then .infinite else .notANumber
  else if number.exponentBits = 0 then .finite number.fractionBits (-1074)
  else .finite (leadingBit + number.fractionBits) (number.exponentBits - 1075)

/-- The number with a sign and the bits of a magnitude. -/
def ofParts (negative : Bool) (magnitude : Nat) : Binary64 :=
  ⟨UInt64.ofNat (magnitude + if negative then 1 <<< 63 else 0)⟩

def infiniteBits : Nat := 2047 * leadingBit

/-- The bits of the plainest magnitude that is no number. -/
def undefinedBits : Nat := infiniteBits + leadingBit / 2

/-- The natural number nearest to a quotient; of two, the even one. -/
def roundQuotient (dividend divisor : Nat) : Nat :=
  let floor := dividend / divisor
  let twiceRest := 2 * (dividend % divisor)
  if twiceRest < divisor then floor
  else if divisor < twiceRest then floor + 1
  else floor + floor % 2

/-- The bits of the magnitude nearest to a positive quotient. The quotient is scaled by a power of
two so that its floor has fifty-three bits, or fewer where the smallest exponent forces it; after
rounding, adding to the exponent field also carries a significand that grew by one bit. -/
def roundToBits (dividend divisor : Nat) : Nat :=
  if dividend = 0 then 0
  else
    let estimate : Int := (dividend.log2 : Int) - divisor.log2
    let scale (exponent : Int) : Nat × Nat :=
      if 0 ≤ exponent then (dividend, divisor <<< exponent.toNat)
      else (dividend <<< (-exponent).toNat, divisor)
    let first : Int := max (estimate - 53) (-1074)
    let (high, low) := scale first
    let exponent : Int := if high / low < 2 * leadingBit then first else first + 1
    let (high, low) := scale exponent
    let significand := roundQuotient high low
    let field : Nat := if significand < leadingBit then 0 else (exponent + 1075).toNat
    let bits := if field = 0 then significand else field * leadingBit + (significand - leadingBit)
    min bits infiniteBits

/-- The number nearest to a quotient of natural numbers, with a sign. -/
def ofQuotient (negative : Bool) (dividend divisor : Nat) : Binary64 :=
  ofParts negative (roundToBits dividend divisor)

/-- The number nearest to a decimal one: `digits` times ten to the power `exponent`. -/
def ofDecimal (negative : Bool) (digits : Nat) (exponent : Int) : Binary64 :=
  if digits = 0 then ofParts negative 0
  else if 400 < exponent then ofParts negative infiniteBits
  else if exponent + (digits.log2 : Int) < -400 then ofParts negative 0
  else if 0 ≤ exponent then ofQuotient negative (digits * Nat.pow 10 exponent.toNat) 1
  else ofQuotient negative digits (Nat.pow 10 (-exponent).toNat)

/-- Whether a number is zero, with either sign. -/
def isZero (number : Binary64) : Bool := number.magnitude matches .finite 0 _

/-- The natural number nearest to a number, a half going away from zero, and the nearest of those
below the limit; a number that is negative or none at all counts as zero. -/
def saturate (limit : Nat) (number : Binary64) : Nat :=
  match number.magnitude with
  | .notANumber => 0
  | .infinite => if number.negative then 0 else limit - 1
  | .finite significand exponent =>
    if number.negative then 0
    else if 0 ≤ exponent then
      if 64 < exponent ∧ significand ≠ 0 then limit - 1
      else min (significand <<< exponent.toNat) (limit - 1)
    else
      let scale := 1 <<< (-exponent).toNat
      min ((2 * significand + scale) / (2 * scale)) (limit - 1)

end Binary64

end BurstRelay

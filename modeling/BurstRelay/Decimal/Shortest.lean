import BurstRelay.Decimal.Binary64

/-!
# The shortest decimal that reads back

A finite number stands for all reals that round to it: an interval around its value, whose ends
belong to it when the significand is even. Among the decimals in the interval the one with the fewest
digits is taken, and of those the one nearest to the value. If a decimal grid has a point in the
interval, then one of the value's two neighbours on the grid lies in it, so the grids are tried from
the coarsest on; one with seventeen digits always has a point.
-/

namespace BurstRelay

/-- A decimal: some digits, the first not zero, and the place of the point. The value is
`0.digits` times ten to the power `point`. -/
structure Decimal where
  digits : List Char
  point : Int
  deriving DecidableEq, Repr

namespace Decimal

def zero : Decimal := ⟨['0'], 1⟩

/-- The digits of a number to the base ten. -/
def digitsOf (number : Nat) : List Char := Nat.toDigits 10 number

/-- The place of the point in a positive quotient: ten to that power is the least power of ten above
the quotient. -/
def pointOf (dividend divisor : Nat) : Int :=
  if divisor ≤ dividend then (digitsOf (dividend / divisor)).length
  else
    let inverse := (divisor + dividend - 1) / dividend
    1 - ((digitsOf (inverse - 1)).length : Int)

/-- The reals that round to a number, times a common divisor. -/
structure Interval where
  low : Nat
  value : Nat
  high : Nat
  divisor : Nat
  closed : Bool

/-- The interval of `significand` times two to the power `exponent`. Below a power of two the next
number is half as far away, except at the least exponent. -/
def Interval.of (significand : Nat) (exponent : Int) : Interval :=
  let below := if significand = Binary64.leadingBit ∧ -1074 < exponent then 1 else 2
  let scale := 1 <<< (exponent - 2).toNat
  { low := (4 * significand - below) * scale
    value := 4 * significand * scale
    high := (4 * significand + 2) * scale
    divisor := 1 <<< (2 - exponent).toNat
    closed := significand % 2 = 0 }

/-- Whether `point / unit` lies in the interval. -/
def Interval.contains (interval : Interval) (point unit : Nat) : Bool :=
  let position := point * interval.divisor
  let low := interval.low * unit
  let high := interval.high * unit
  if interval.closed then low ≤ position && position ≤ high else low < position && position < high

/-- The point of a grid in the interval that is nearest to the value. The grid has the points
`n * step / unit` for all `n`, and of two points as near the even one is taken. -/
def Interval.nearest? (interval : Interval) (step unit : Nat) : Option Nat :=
  let floor := interval.value * unit / (interval.divisor * step)
  let below := interval.contains (floor * step) unit
  let above := interval.contains ((floor + 1) * step) unit
  if below && above then
    let distance := 2 * (interval.value * unit)
    let middle := (2 * floor + 1) * step * interval.divisor
    some (if distance < middle then floor
      else if middle < distance then floor + 1
      else floor + floor % 2)
  else if below then some floor
  else if above then some (floor + 1)
  else none

/-- Tries the grids of `count` digits and more. -/
def shortestFrom (interval : Interval) (point : Int) : Nat → Nat → Option (Nat × Int)
  | 0, _ => none
  | fuel + 1, count =>
    let exponent : Int := point - count
    let step := Nat.pow 10 exponent.toNat
    let unit := Nat.pow 10 (-exponent).toNat
    match interval.nearest? step unit with
    | some number => some (number, exponent)
    | none => shortestFrom interval point fuel (count + 1)

/-- The digits of a number without the zeros at its end. -/
def significantDigits (number : Nat) : List Char :=
  ((digitsOf number).reverse.dropWhile (· = '0')).reverse

/-- The shortest decimal that reads back as `significand` times two to the power `exponent`. -/
def shortest (significand : Nat) (exponent : Int) : Decimal :=
  if significand = 0 then .zero
  else
    let interval := Interval.of significand exponent
    match shortestFrom interval (pointOf interval.value interval.divisor) 17 1 with
    | some (number, exponent) =>
      ⟨significantDigits number, exponent + (digitsOf number).length⟩
    | none => .zero

end Decimal

end BurstRelay

import BurstRelay.Decimal.Shortest

/-!
# Texts of floating-point numbers

A number is written with the digits of the shortest decimal that reads back. How they are laid out
is a record: from where to where the point is written in its place, whether a whole number shows
a point, and how an exponent looks.
-/

namespace BurstRelay.Decimal

/-- How decimals are laid out. -/
structure Layout where
  /-- The places of the point that are written as such; all of them if there are no bounds. -/
  plain : Option (Int × Int)
  /-- Whether a whole number ends with a point and a zero. -/
  showsPoint : Bool
  /-- Whether a positive exponent has a sign. -/
  signsExponent : Bool

/-- The layout of JSON output: plain from 0.00001 up to sixteen places before the point. -/
def Layout.json : Layout := ⟨some (-4, 16), true, true⟩

/-- The layout for a human reader: plain from 0.0001 up to sixteen places before the point. -/
def Layout.visible : Layout := ⟨some (-3, 16), true, false⟩

/-- The layout of a number that becomes a text setting: always plain. -/
def Layout.setting : Layout := ⟨none, false, false⟩

/-- The layout of a number in a message: always plain, and with a point. -/
def Layout.pointed : Layout := ⟨none, true, false⟩

namespace Layout

/-- The digits with the point in its place. -/
def positional (layout : Layout) (decimal : Decimal) : List Char :=
  if decimal.point ≤ 0 then
    ['0', '.'] ++ List.replicate (-decimal.point).toNat '0' ++ decimal.digits
  else
    let place := decimal.point.toNat
    let count := decimal.digits.length
    if place < count then decimal.digits.take place ++ '.' :: decimal.digits.drop place
    else
      decimal.digits ++ List.replicate (place - count) '0' ++
        if layout.showsPoint then ['.', '0'] else []

/-- The digits with the point behind the first, and an exponent. -/
def scientific (layout : Layout) (decimal : Decimal) : List Char :=
  let exponent := decimal.point - 1
  let sign := if exponent < 0 then ['-'] else if layout.signsExponent then ['+'] else []
  let mantissa :=
    match decimal.digits with
    | [] => ['0']
    | [digit] => [digit]
    | digit :: rest => digit :: '.' :: rest
  mantissa ++ 'e' :: (sign ++ digitsOf exponent.natAbs)

def decimalText (layout : Layout) (decimal : Decimal) : List Char :=
  match layout.plain with
  | none => layout.positional decimal
  | some (least, most) =>
    if least ≤ decimal.point ∧ decimal.point ≤ most then layout.positional decimal
    else layout.scientific decimal

def text (layout : Layout) (number : Binary64) : List Char :=
  let sign := if number.negative then ['-'] else []
  match number.magnitude with
  | .notANumber => ['N', 'a', 'N']
  | .infinite => sign ++ ['i', 'n', 'f']
  | .finite significand exponent => sign ++ layout.decimalText (shortest significand exponent)

end Layout

end BurstRelay.Decimal

import BurstRelay.Decimal.Binary64

/-!
# Numerals

Texts that spell a number in full: digits with a sign in front for whole numbers, and digits with a
point and an exponent, or a name, for numbers that need not be whole.
-/

namespace BurstRelay.Numeral

def isDigit (letter : Char) : Bool := '0' ≤ letter && letter ≤ '9'

def ofDigits (digits : List Char) : Nat :=
  digits.foldl (fun number digit => 10 * number + (digit.toNat - 48)) 0

def digits? (text : List Char) : Option Nat :=
  if text ≠ [] ∧ text.all isDigit then some (ofDigits text) else none

/-- The natural number that a text spells, with or without a plus sign. -/
def natural? : List Char → Option Nat
  | '+' :: digits => digits? digits
  | digits => digits? digits

/-- The whole number that a text spells, with or without a sign. -/
def integer? : List Char → Option Int
  | '+' :: digits => (digits? digits).map Int.ofNat
  | '-' :: digits => (digits? digits).map fun number => -(number : Int)
  | digits => (digits? digits).map Int.ofNat

/-- The whole number of sixty-four bits with a sign that a text spells. -/
def integer64? (text : List Char) : Option Int :=
  (integer? text).filter fun number =>
    Int64.minValue.toInt ≤ number ∧ number ≤ Int64.maxValue.toInt

/-- The natural number below a limit that a text spells. -/
def below? (limit : Nat) (text : List Char) : Option Nat :=
  (natural? text).filter fun number => number < limit

/-- The exponent that a text spells, which is nothing or a letter with a whole number. -/
def exponent? : List Char → Option Int
  | [] => some 0
  | letter :: number => if letter = 'e' ∨ letter = 'E' then integer? number else none

/-- The number without a sign that a text spells by digits, of which at least one stands before or
behind the point. -/
def decimal? (negative : Bool) (text : List Char) : Option Binary64 :=
  let whole := text.takeWhile isDigit
  let rest := text.drop whole.length
  let part :=
    match rest with
    | '.' :: rest => rest.takeWhile isDigit
    | _ => []
  let rest :=
    match rest with
    | '.' :: rest => rest.drop part.length
    | rest => rest
  if whole = [] ∧ part = [] then none
  else
    (exponent? rest).map fun power =>
      Binary64.ofDecimal negative (ofDigits (whole ++ part)) (power - part.length)

/-- The names of numbers that have no digits. -/
def named? (negative : Bool) (text : List Char) : Option Binary64 :=
  let name := String.ofList (text.map Char.toLower)
  if name = "inf" ∨ name = "infinity" then some (.ofParts negative Binary64.infiniteBits)
  else if name = "nan" then some (.ofParts negative Binary64.undefinedBits)
  else none

/-- The floating-point number that a text spells. -/
def real? (text : List Char) : Option Binary64 :=
  match text with
  | '-' :: rest => named? true rest <|> decimal? true rest
  | '+' :: rest => named? false rest <|> decimal? false rest
  | rest => named? false rest <|> decimal? false rest

end BurstRelay.Numeral

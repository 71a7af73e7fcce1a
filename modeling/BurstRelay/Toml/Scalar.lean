import BurstRelay.Toml.Value

/-!
# Scalars of TOML

Readers of what has no parts: blanks, texts, numbers and truth values. A reader takes the characters
of a document and gives what it read with the characters behind it, or nothing if what is there is
not what it reads.
-/

namespace BurstRelay.TomlText

/-- A reader of a part of a document. -/
abbrev Reader (α : Type) := List Char → Option (α × List Char)

/-! ## Blanks -/

/-- Drops spaces and tabs. -/
def skipBlanks (input : List Char) : List Char := input.dropWhile fun c => c = ' ' || c = '\t'

/-- The characters behind the end of a line, if there is one. -/
def lineEnd? : List Char → Option (List Char)
  | '\n' :: rest => some rest
  | '\r' :: '\n' :: rest => some rest
  | _ => none

/-- Drops blanks and ends of lines. -/
def skipSpace : List Char → List Char
  | [] => []
  | '\r' :: '\n' :: rest => skipSpace rest
  | letter :: rest =>
    if letter = ' ' || letter = '\t' || letter = '\n' then skipSpace rest else letter :: rest

/-- Whether a character can stand in a comment or in a literal text: all but the controls, of which
the tab can. -/
def isPlain (letter : Char) : Bool :=
  letter = '\t' || (0x20 ≤ letter.toNat && letter.toNat ≠ 0x7F)

/-- Drops a comment up to the end of its line. -/
def skipComment : List Char → List Char
  | '#' :: rest => rest.dropWhile isPlain
  | input => input

/-- Drops blanks, ends of lines and comments, from inside a comment or not. -/
def skipLines (comment : Bool) : List Char → List Char
  | [] => []
  | '\r' :: '\n' :: rest => skipLines false rest
  | letter :: rest =>
    if letter = '\n' then skipLines false rest
    else if comment && isPlain letter then skipLines true rest
    else if comment then letter :: rest
    else if letter = ' ' || letter = '\t' then skipLines false rest
    else if letter = '#' then skipLines true rest
    else letter :: rest

/-- Drops blanks, ends of lines and comments. -/
def skipFiller (input : List Char) : List Char := skipLines false input

/-- Drops the characters of a text that the document has to go on with. -/
def expect (text : List Char) (input : List Char) : Option (List Char) :=
  if input.take text.length = text then some (input.drop text.length) else none

/-! ## Texts -/

/-- The value of a digit to the base sixteen. -/
def hexValue? (digit : Char) : Option Nat :=
  if '0' ≤ digit ∧ digit ≤ '9' then some (digit.toNat - 48)
  else if 'a' ≤ digit ∧ digit ≤ 'f' then some (digit.toNat - 87)
  else if 'A' ≤ digit ∧ digit ≤ 'F' then some (digit.toNat - 55)
  else none

/-- Reads a code point of so many digits. -/
def codePoint : Nat → Nat → Reader Char
  | 0, code, rest => if code.isValidChar then some (Char.ofNat code, rest) else none
  | count + 1, code, digit :: rest => do codePoint count (16 * code + (← hexValue? digit)) rest
  | _, _, [] => none

/-- Reads what follows a backslash. -/
def escape : Reader Char
  | 'b' :: rest => some ('\x08', rest)
  | 't' :: rest => some ('\t', rest)
  | 'n' :: rest => some ('\n', rest)
  | 'f' :: rest => some ('\x0c', rest)
  | 'r' :: rest => some ('\r', rest)
  | '"' :: rest => some ('"', rest)
  | '\\' :: rest => some ('\\', rest)
  | 'u' :: rest => codePoint 4 0 rest
  | 'U' :: rest => codePoint 8 0 rest
  | _ => none

/-- Reads a text on one line up to its quote, with escapes; what was read comes latest first. -/
def basicText : Nat → List Char → Reader String
  | 0, _, _ => none
  | _, _, [] => none
  | fuel + 1, before, letter :: rest =>
    if letter = '"' then some (String.ofList before.reverse, rest)
    else if letter = '\\' then do
      let (escaped, rest) ← escape rest
      basicText fuel (escaped :: before) rest
    else if isPlain letter then basicText fuel (letter :: before) rest
    else none

/-- Reads a text on one line up to its quote, without escapes. -/
def literalText : Reader String := fun input =>
  let content := input.takeWhile fun c => isPlain c && c ≠ '\''
  match input.drop content.length with
  | '\'' :: rest => some (String.ofList content, rest)
  | _ => none

/-- Drops the end of a line that a backslash takes away, with all blank space behind it. -/
def skipContinuation (input : List Char) : Option (List Char) :=
  (lineEnd? (skipBlanks input)).map skipSpace

/-- Reads a text on many lines up to its three quotes. Up to two quotes more can stand before them. -/
def longText (quote : Char) (escapes : Bool) : Nat → List Char → Reader String
  | 0, _, _ => none
  | _, _, [] => none
  | fuel + 1, before, letter :: rest =>
    if letter = quote then
      let quotes := (letter :: rest).takeWhile (· = quote)
      let count := min quotes.length 5
      if 3 ≤ count then
        some (String.ofList (List.replicate (count - 3) quote ++ before).reverse,
          (letter :: rest).drop count)
      else
        longText quote escapes fuel (quotes ++ before) ((letter :: rest).drop quotes.length)
    else if escapes && letter = '\\' then
      match skipContinuation rest with
      | some rest => longText quote escapes fuel before rest
      | none => do
        let (escaped, rest) ← escape rest
        longText quote escapes fuel (escaped :: before) rest
    else
      match lineEnd? (letter :: rest) with
      | some rest => longText quote escapes fuel ('\n' :: before) rest
      | none =>
        if isPlain letter then longText quote escapes fuel (letter :: before) rest else none

/-- Drops the end of the line at the start of a text on many lines. -/
def skipFirstEnd (input : List Char) : List Char := (lineEnd? input).getD input

/-- Reads a text in one quote at each end. -/
def shortText : Reader String
  | '"' :: rest => basicText (rest.length + 1) [] rest
  | '\'' :: rest => literalText rest
  | _ => none

def quotedText : Reader String
  | '"' :: '"' :: '"' :: rest => longText '"' true (rest.length + 1) [] (skipFirstEnd rest)
  | '\'' :: '\'' :: '\'' :: rest => longText '\'' false (rest.length + 1) [] (skipFirstEnd rest)
  | input => shortText input

/-! ## Numbers -/

def isDecimal (letter : Char) : Bool := '0' ≤ letter && letter ≤ '9'

/-- Reads digits, of which each but the first may come after an underscore. -/
def digits (isDigit : Char → Bool) : List Char → Option (List Char × List Char)
  | [] => none
  | [letter] => if isDigit letter then some ([letter], []) else none
  | letter :: '_' :: rest =>
    if isDigit letter then (digits isDigit rest).map fun (more, rest) => (letter :: more, rest)
    else none
  | letter :: next :: rest =>
    if isDigit letter then
      if isDigit next then
        (digits isDigit (next :: rest)).map fun (more, rest) => (letter :: more, rest)
      else some ([letter], next :: rest)
    else none

def numberOf (base : Nat) (spelled : List Char) : Nat :=
  spelled.foldl (fun number digit => base * number + (hexValue? digit).getD 0) 0

/-- Reads a sign, if there is one, and says whether it is negative. -/
def sign : List Char → Bool × List Char
  | '-' :: rest => (true, rest)
  | '+' :: rest => (false, rest)
  | input => (false, input)

/-- A number with a sign. -/
def signed (negative : Bool) (number : Nat) : Int := if negative then -number else number

/-- Reads a number in another base, behind a zero and the letter of the base. -/
def basedInteger : Reader Toml
  | '0' :: letter :: rest => do
    let (base, isDigit) : Nat × (Char → Bool) ←
      if letter = 'x' then some (16, fun c => (hexValue? c).isSome)
      else if letter = 'o' then some (8, fun c => '0' ≤ c && c ≤ '7')
      else if letter = 'b' then some (2, fun c => c = '0' || c = '1')
      else none
    let (spelled, rest) ← digits isDigit rest
    let value := numberOf base spelled
    if value ≤ Int64.maxValue.toInt then some (.integer value, rest) else none
  | _ => none

/-- Reads decimal digits without a zero in front of others. -/
def wholeDigits (input : List Char) : Option (List Char × List Char) :=
  match input with
  | '0' :: rest => some (['0'], rest)
  | input => digits isDecimal input

/-- Reads an exponent, if there is one: nothing if what starts as one is none. -/
def exponent : List Char → Option (Option Int × List Char)
  | letter :: rest =>
    if letter = 'e' || letter = 'E' then do
      let (negative, rest) := sign rest
      let (spelled, rest) ← digits isDecimal rest
      some (some (signed negative (numberOf 10 spelled)), rest)
    else some (none, letter :: rest)
  | [] => some (none, [])

/-- Reads the point of a number and the digits behind it, if there is one. -/
def fraction : List Char → Option (Option (List Char) × List Char)
  | '.' :: rest => (digits isDecimal rest).map fun (spelled, rest) => (some spelled, rest)
  | input => some (none, input)

/-- Reads a decimal number, whole or not. A number above all that can be kept is refused. -/
def decimalNumber : Reader Toml := fun input =>
  let (negative, rest) := sign input
  match rest with
  | 'i' :: 'n' :: 'f' :: rest => some (.real (.ofParts negative Binary64.infiniteBits), rest)
  | 'n' :: 'a' :: 'n' :: rest => some (.real (.ofParts negative Binary64.undefinedBits), rest)
  | _ => do
    let (whole, rest) ← wholeDigits rest
    let (part, rest) ← fraction rest
    let (power, rest) ← exponent rest
    match part, power with
    | none, none =>
      let value := signed negative (numberOf 10 whole)
      if Int64.minValue.toInt ≤ value ∧ value ≤ Int64.maxValue.toInt then
        some (.integer value, rest)
      else none
    | _, _ =>
      let part := part.getD []
      let value := Binary64.ofDecimal negative (numberOf 10 (whole ++ part))
        (power.getD 0 - part.length)
      if value = .ofParts false Binary64.infiniteBits then none else some (.real value, rest)

/-! ## Truth values -/

def truthValue : Reader Toml
  | 't' :: 'r' :: 'u' :: 'e' :: rest => some (.boolean true, rest)
  | 'f' :: 'a' :: 'l' :: 's' :: 'e' :: rest => some (.boolean false, rest)
  | _ => none

end BurstRelay.TomlText

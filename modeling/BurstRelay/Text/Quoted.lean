import BurstRelay.Bytes.Hex
import BurstRelay.Text.Hidden

/-!
# Quoted texts

A text in quotes has escapes for its quotes, its backslashes and whatever would break the line or
could not be seen. There are two styles, which differ in the characters they escape and in how:

* in JSON, the controls of ASCII are escaped, the five common ones by a letter and the others by
  four digits;
* for a human reader, all hidden characters are escaped, four of them by a letter and the others by
  as many digits as it takes, in braces.
-/

namespace BurstRelay.Text

/-- The digits of a number to the base sixteen. -/
def hexDigits (number : Nat) : List Char := Nat.toDigits 16 number

/-- A character inside a JSON string. -/
def escapeJson (letter : Char) : List Char :=
  if letter = '"' then ['\\', '"']
  else if letter = '\\' then ['\\', '\\']
  else if letter = '\n' then ['\\', 'n']
  else if letter = '\r' then ['\\', 'r']
  else if letter = '\t' then ['\\', 't']
  else if letter = '\x08' then ['\\', 'b']
  else if letter = '\x0c' then ['\\', 'f']
  else if letter.toNat < 0x20 then
    ['\\', 'u', '0', '0', Hex.digit (letter.toNat / 16), Hex.digit (letter.toNat % 16)]
  else [letter]

/-- A character inside a string for a human reader. -/
def escapeVisible (letter : Char) : List Char :=
  if letter = '"' then ['\\', '"']
  else if letter = '\\' then ['\\', '\\']
  else if letter = '\n' then ['\\', 'n']
  else if letter = '\r' then ['\\', 'r']
  else if letter = '\t' then ['\\', 't']
  else if letter = '\x00' then ['\\', '0']
  else if isHidden letter then ['\\', 'u', '{'] ++ hexDigits letter.toNat ++ ['}']
  else [letter]

def quoted (escape : Char → List Char) (text : String) : List Char :=
  '"' :: (text.toList.flatMap escape ++ ['"'])

end BurstRelay.Text

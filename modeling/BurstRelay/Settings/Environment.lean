import BurstRelay.Bytes.Basic
import BurstRelay.Decimal.Numeral
import BurstRelay.Settings.Setting

/-!
# Settings in the environment

A variable gives a setting if its name starts with the name of the program, in any case. What
follows is the path of the setting, with two underscores between its names. The text of the variable
is taken for what it looks like: a truth value, a whole number, a number, and else a text.
-/

namespace BurstRelay.Environment

/-- Variables with their texts. -/
abbrev Variables := Keyed String

/-- The pieces of a block, each of which ends with a zero byte. -/
def pieces (block : Bytes) : List Bytes :=
  block.foldr (fun byte pieces =>
    match byte, pieces with
    | 0, pieces => [] :: pieces
    | byte, [] => [[byte]]
    | byte, piece :: pieces => (byte :: piece) :: pieces) []

/-- The variables in the block that a process keeps its environment in. Each is a name and a text with
an equals sign between them; a variable that is not text is left out. -/
def ofBlock (block : Bytes) : Variables :=
  (pieces block).filterMap fun piece => do
    let text ← Bytes.toString? piece
    let name := text.toList.takeWhile (· ≠ '=')
    match text.toList.drop name.length with
    | _ :: value => return (String.ofList name, String.ofList value)
    | [] => none

/-- What the names of variables that give settings start with, in lower case. -/
def marker : List Char := "burst_relay__".toList

/-- A text with a dot in place of each two underscores. -/
def dotted : List Char → List Char
  | [] => []
  | '_' :: '_' :: rest => '.' :: dotted rest
  | letter :: rest => letter :: dotted rest

/-- The key of the setting that a variable of some name gives, if it gives one. -/
def key? (name : String) : Option String :=
  let letters := (Text.lowercase name).toList
  if letters.take marker.length = marker then
    some (String.ofList (dotted (letters.drop marker.length)))
  else none

/-- What the text of a variable is taken for. -/
def scalar (text : String) : Scalar :=
  let lowered := Text.lowercase text
  if lowered = "true" then .boolean true
  else if lowered = "false" then .boolean false
  else
    match Numeral.integer64? text.toList with
    | some number => .integer number
    | none =>
      match Numeral.real? text.toList with
      | some number => .real number
      | none => .text text

def layer (environment : Variables) : Layer :=
  environment.filterMap fun (name, text) =>
    (key? name).map fun key => (key, .scalar .environment (scalar text))

end BurstRelay.Environment

import BurstRelay.Toml.Draft
import BurstRelay.Toml.Moment

/-!
# Documents of TOML

A document is read as a sequence of statements, a line or more each: a key with a value, or a header.
Carrying the statements out in turn gives a table. What it stands for is settled last: a table that
starts with the key of moments stands for a moment, wherever it is.
-/

namespace BurstRelay.TomlText

/-! ## Keys -/

/-- Whether a character can stand in a key without quotes. -/
def isKeyLetter (letter : Char) : Bool := letter.isAlphanum || letter = '_' || letter = '-'

def keyPart : Reader String := fun input =>
  let bare := input.takeWhile isKeyLetter
  if bare = [] then shortText input else some (String.ofList bare, input.drop bare.length)

/-- The most parts that a key can have. -/
def longestKey : Nat := 79

/-- Reads a key of at most so many parts, with dots between them and blanks around the dots. -/
def keyParts : Nat → Reader (List String)
  | 0, _ => none
  | count + 1, input => do
    let (part, rest) ← keyPart (skipBlanks input)
    match skipBlanks rest with
    | '.' :: rest =>
      let (parts, rest) ← keyParts count rest
      return (part :: parts, rest)
    | rest => return ([part], rest)

/-- Reads a key: the parts before the last, and the last. -/
def key : Reader (List String × String) := fun input => do
  let (parts, rest) ← keyParts longestKey input
  match parts.getLast? with
  | some last => return ((parts.dropLast, last), rest)
  | none => none

/-! ## Values -/

/-- Reads a value without parts. -/
def scalar : Reader Toml := fun input =>
  match quotedText input, moment input with
  | some (text, rest), _ => some (.text text, rest)
  | none, some (written, rest) => some (.moment written, rest)
  | none, none => truthValue input <|> basedInteger input <|> decimalNumber input

mutual

/-- Reads a value that has at most so many levels. -/
def value : (fuel levels : Nat) → Reader Toml
  | 0, _, _ => none
  | fuel + 1, levels, '[' :: rest =>
    match levels with
    | 0 => none
    | levels + 1 => do
      let (items, rest) ← arrayItems fuel levels (skipFiller rest)
      return (.array items, rest)
  | fuel + 1, levels, '\x7b' :: rest =>
    match levels with
    | 0 => none
    | levels + 1 =>
      match skipBlanks rest with
      | '\x7d' :: rest => some (.table [], rest)
      | rest => do
        let (entries, rest) ← inlineEntries fuel levels [] rest
        return (.table (Draft.finishEntries entries), rest)
  | _ + 1, _, input => scalar input

def arrayItems : (fuel levels : Nat) → Reader (List Toml)
  | _, _, ']' :: rest => some ([], rest)
  | 0, _, _ => none
  | fuel + 1, levels, input => do
    let (item, rest) ← value fuel levels input
    match skipFiller rest with
    | ']' :: rest => return ([item], rest)
    | ',' :: rest =>
      let (items, rest) ← arrayItems fuel levels (skipFiller rest)
      return (item :: items, rest)
    | _ => none

/-- Reads the entries of a table on one line up to its end, behind those read before. -/
def inlineEntries : (fuel levels : Nat) → Draft.Entries → Reader Draft.Entries
  | 0, _, _, _ => none
  | fuel + 1, levels, entries, input => do
    let ((path, name), rest) ← key input
    let rest ← expect ['='] rest
    let (item, rest) ← value fuel levels (skipBlanks rest)
    let entries ← Draft.addValue path name item .header entries
    match skipBlanks rest with
    | '\x7d' :: rest => return (entries, rest)
    | ',' :: rest => inlineEntries fuel levels entries rest
    | _ => none

end

/-- The most levels of arrays and tables that a value can have. -/
def deepestValue : Nat := 79

/-! ## Statements -/

/-- A statement of a document. -/
inductive Statement where
  /-- A key, of which `path` are the parts before the last, and its value. -/
  | entry (path : List String) (key : String) (value : Toml)
  | header (path : List String) (key : String)
  | listHeader (path : List String) (key : String)

/-- Reads a statement, whose value takes at most so many steps to read. -/
def statement (fuel : Nat) : Reader Statement
  | '[' :: '[' :: rest => do
    let ((path, name), rest) ← key rest
    let rest ← expect [']', ']'] rest
    return (.listHeader path name, rest)
  | '[' :: rest => do
    let ((path, name), rest) ← key rest
    let rest ← expect [']'] rest
    return (.header path name, rest)
  | input => do
    let ((path, name), rest) ← key input
    let rest ← expect ['='] rest
    let (item, rest) ← value fuel deepestValue (skipBlanks rest)
    return (.entry path name item, rest)

/-- Reads the statements of a document, each of which ends with its line. There are at most as many as
there are characters, and a value takes at most two steps to read for each of its own. -/
def statements : Nat → List Char → Option (List Statement)
  | 0, _ => none
  | fuel + 1, input =>
    match skipFiller input with
    | [] => some []
    | input => do
      let (first, rest) ← statement (2 * fuel + 2) input
      let rest := skipComment (skipBlanks rest)
      if rest = [] then return [first]
      else
        let others ← statements fuel (← lineEnd? rest)
        return first :: others

/-- Carries out statements, in a document whose open table is at the end of `table`. -/
def carryOut (table : List String) (document : Draft.Entries) :
    List Statement → Option Draft.Entries
  | [] => some document
  | .entry path name item :: rest => do
    carryOut table (← Draft.addValueIn table path name item document) rest
  | .header path name :: rest => do
    carryOut (path ++ [name]) (← Draft.openTable path name document) rest
  | .listHeader path name :: rest => do
    carryOut (path ++ [name]) (← Draft.addTable path name document) rest

/-! ## What a document stands for -/

/-- The key of a moment that is spelled in quotes. -/
def momentKey : String := "$__toml_private_datetime"

/-- The value under the key of moments, if a table starts with it. -/
def markedValue? : List (String × Toml) → Option Toml
  | (key, value) :: _ => if key = momentKey then some value else none
  | [] => none

mutual

/-- What a value stands for. A table that starts with the key of moments stands for the moment that is
spelled there, and nothing else in it counts. -/
def settle? : Toml → Option Toml
  | .array items => .array <$> settleItems? items
  | .table entries =>
    match markedValue? entries with
    | some (.text spelled) => .moment <$> spelledMoment? spelled
    | some _ => none
    | none => .table <$> settleEntries? entries
  | value => some value

/-- What the items of an array stand for. -/
def settleItems? : List Toml → Option (List Toml)
  | [] => some []
  | item :: items => do return (← settle? item) :: (← settleItems? items)

/-- What the entries of a table stand for. -/
def settleEntries? : List (String × Toml) → Option (List (String × Toml))
  | [] => some []
  | (key, value) :: entries => do return (key, ← settle? value) :: (← settleEntries? entries)

end

/-- Drops the mark that can stand in front of a document. -/
def skipMark : List Char → List Char
  | '\uFEFF' :: rest => rest
  | input => input

/-- What a document stands for, if it is one: a table, or else a moment. -/
def document? (text : String) : Option Toml := do
  let input := skipMark text.toList
  let entries ← carryOut [] [] (← statements (input.length + 1) input)
  settle? (.table (Draft.finishEntries entries))

end BurstRelay.TomlText

import BurstRelay.Keyed
import BurstRelay.Text.Case
import BurstRelay.Toml.Value

/-!
# Settings without types

Before settings are read they are a tree: scalars, lists, and tables of keyed settings. Layers of
settings are laid over each other. A table is laid over a table entry by entry, with its keys in
lower case, so that every setting is decided on its own; anything else replaces what was there.
-/

namespace BurstRelay

/-- Where a setting was given. -/
inductive Origin where
  /-- Nowhere in particular: a default, or a table that several layers have a part in. -/
  | unknown
  | file (name : String)
  | environment
  deriving DecidableEq, Repr

/-- A setting without parts. -/
inductive Scalar where
  | absent
  | boolean (value : Bool)
  | integer (value : Int)
  | real (value : Binary64)
  | text (value : String)
  deriving DecidableEq, Repr

/-- A setting before it is read. -/
inductive Setting where
  | scalar (origin : Origin) (content : Scalar)
  | list (origin : Origin) (items : List Setting)
  | table (origin : Origin) (entries : List (String × Setting))
  deriving Repr

instance : Inhabited Setting := ⟨.scalar .unknown .absent⟩

namespace Setting

/-! ## Settings of a document -/

mutual

/-- The setting that a value of a document stands for. -/
def ofToml (origin : Origin) : Toml → Setting
  | .boolean value => .scalar origin (.boolean value)
  | .integer value => .scalar origin (.integer value)
  | .real value => .scalar origin (.real value)
  | .text value => .scalar origin (.text value)
  | .moment written => .scalar origin (.text written)
  | .array items => .list origin (ofItems origin items)
  | .table entries => .table origin (ofEntries origin entries)

/-- The settings that the items of an array stand for. -/
def ofItems (origin : Origin) : List Toml → List Setting
  | [] => []
  | item :: items => ofToml origin item :: ofItems origin items

/-- The settings that the entries of a table stand for. -/
def ofEntries (origin : Origin) : List (String × Toml) → Keyed Setting
  | [] => []
  | (key, value) :: entries => (key, ofToml origin value) :: ofEntries origin entries

end

/-! ## Laying settings over each other -/

/-- The origin and the entries of what is there, if it is a table, else of an empty table. -/
def asTable : Option Setting → Origin × Keyed Setting
  | some (.table origin entries) => (origin, entries)
  | _ => (.unknown, [])

/-- The origin and the items of what is there, if it is a list, else of an empty list. -/
def asList : Option Setting → Origin × List Setting
  | some (.list origin items) => (origin, items)
  | _ => (.unknown, [])

mutual

/-- Lays a setting over what is there. A table without entries leaves what is there as it is. -/
def overlay (below : Option Setting) : Setting → Setting
  | .scalar origin content => .scalar origin content
  | .list origin items => .list origin items
  | .table _ entries =>
    if entries.isEmpty then below.getD (.table .unknown [])
    else .table (asTable below).1 (overlayEntries (asTable below).2 entries)

/-- Lays entries over those of a table. -/
def overlayEntries (below : Keyed Setting) : List (String × Setting) → Keyed Setting
  | [] => below
  | (key, setting) :: rest =>
    let name := Text.lowercase key
    overlayEntries (Keyed.put name (overlay (below.lookup name) setting) below) rest

end

end Setting

/-- One step of the way to a setting. -/
inductive KeyStep where
  /-- To the entry of a table, whose key is the name in lower case. -/
  | name (key : String)
  /-- To the item at a place of a list, which counts from the end if it is negative. -/
  | index (position : Int)
  deriving DecidableEq, Repr

namespace KeyStep

/-- The most items that a list is made to have so that there is one at some place. -/
def longestList : Nat := 1 <<< 24

/-- The place that a position stands for in a list of some length, if it stands for one: a place of
the list, or one that the list can be made to have. -/
def placeOf? (length : Nat) : Int → Option Nat
  | .ofNat position => if position < longestList then some position else none
  | .negSucc back => if back < length then some (length - 1 - back) else none

end KeyStep

namespace Setting

/-- Lays a setting over what is at the end of a path, making the tables and lists on the way that are
not there. A list that cannot have the place stays as it is. -/
def overlayAt : List KeyStep → Setting → Option Setting → Setting
  | [], setting, below => overlay below setting
  | .name key :: path, setting, below =>
    let name := Text.lowercase key
    let (origin, entries) := asTable below
    .table origin (Keyed.put name (overlayAt path setting (entries.lookup name)) entries)
  | .index position :: path, setting, below =>
    let (origin, items) := asList below
    match KeyStep.placeOf? items.length position with
    | none => .list origin items
    | some place =>
      let filler := List.replicate (place + 1 - items.length) (.scalar .unknown .absent)
      let item := if path = [] then setting else overlayAt path setting items[place]?
      .list origin ((items ++ filler).set place item)

end Setting

/-! ## Paths -/

namespace KeyStep

/-- Whether a character can stand in a name of a path. -/
def isNameLetter (letter : Char) : Bool :=
  letter.isAlphanum || letter = '_' || letter = '-' || letter = ' '

/-- Drops spaces and tabs. -/
def skipBlanks (text : List Char) : List Char := text.dropWhile fun c => c = ' ' || c = '\t'

/-- The position that digits spell, behind a minus sign or not, if it is one of sixty-four bits, with
what follows the digits. -/
def position? (text : List Char) : Option (Int × List Char) :=
  let (negative, rest) := match text with
    | '-' :: rest => (true, rest)
    | rest => (false, rest)
  let digits := rest.takeWhile Char.isDigit
  let distance : Nat := digits.foldl (fun number digit => 10 * number + (digit.toNat - 48)) 0
  let position : Int := if negative then -distance else distance
  if digits = [] then none
  else if Int64.minValue.toInt ≤ position ∧ position ≤ Int64.maxValue.toInt then
    some (position, rest.drop digits.length)
  else none

/-- The steps that follow the first name of a path, if the text spells some. -/
def stepsOfText (fuel : Nat) (text : List Char) : Option (List KeyStep) :=
  match fuel, text with
  | _, [] => some []
  | 0, _ => none
  | fuel + 1, '.' :: rest =>
    let key := rest.takeWhile isNameLetter
    if key = [] then none
    else (stepsOfText fuel (rest.drop key.length)).map (.name (String.ofList key) :: ·)
  | fuel + 1, '[' :: rest => do
    let (position, rest) ← position? (skipBlanks rest)
    match skipBlanks rest with
    | ']' :: rest => (stepsOfText fuel rest).map (.index position :: ·)
    | _ => none
  | _, _ => none

/-- The path that a key of a layer spells: names with dots between them, and positions in brackets.
A key that spells no path is one name. -/
def pathOfKey (key : String) : List KeyStep :=
  (stepsOfText (key.length + 1) ('.' :: key.toList)).getD [.name key]

end KeyStep

/-- A layer of settings: each with the path it is laid over. -/
abbrev Layer := Keyed Setting

/-- Lays the settings of a layer over what is there, one after the other. -/
def Setting.overlayLayer (below : Setting) (layer : Layer) : Setting :=
  layer.foldl (fun below (key, setting) => overlayAt (KeyStep.pathOfKey key) setting (some below)) below

end BurstRelay

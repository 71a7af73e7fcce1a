import BurstRelay.Keyed
import BurstRelay.Toml.Value

/-!
# Tables in the making

A document defines its tables bit by bit, and no table may be defined twice. A draft is a table with
what is needed to tell: whether it has a header of its own, was only named on the way to another
table, or comes from a dotted key.

* A header opens a table that does not exist, or one that headers only named so far.
* A header in double brackets adds a table to a list of such tables.
* A dotted key goes through tables of dotted keys and through tables that headers only named, and
  ends in a table of dotted keys; a plain key ends in the open table.
-/

namespace BurstRelay

/-- How a table came to be. -/
inductive TableOrigin where
  /-- By its own header, or as the whole document. -/
  | header
  /-- By being named on the way to another table. -/
  | named
  /-- By a dotted key. -/
  | dotted
  deriving DecidableEq, Repr

/-- An entry of a table in the making. -/
inductive Draft where
  | value (value : Toml)
  | table (origin : TableOrigin) (entries : List (String × Draft))
  /-- The tables of one list, the latest first. -/
  | tables (items : List (List (String × Draft)))

namespace Draft

/-- The entries of a table. -/
abbrev Entries := Keyed Draft

/-- Changes the table at the end of a path, making the tables on the way that do not exist. A path of
a dotted key cannot go through a table that has a header. -/
def alter (dotted : Bool) (change : TableOrigin → Entries → Option Entries) :
    List String → TableOrigin → Entries → Option Entries
  | [], origin, entries => change origin entries
  | key :: path, _, entries =>
    match entries.lookup key with
    | none => do
      let origin : TableOrigin := if dotted then .dotted else .named
      let inner ← alter dotted change path origin []
      return Keyed.put key (.table origin inner) entries
    | some (.value _) => none
    | some (.tables []) => none
    | some (.tables (latest :: earlier)) => do
      let inner ← alter dotted change path .header latest
      return Keyed.put key (.tables (inner :: earlier)) entries
    | some (.table origin inner) =>
      if dotted ∧ origin = .header then none
      else do
        let inner ← alter dotted change path origin inner
        return Keyed.put key (.table origin inner) entries

/-- Adds a value under a key, of which `path` are the parts before the last. -/
def addValue (path : List String) (key : String) (value : Toml) (origin : TableOrigin)
    (entries : Entries) : Option Entries :=
  let add (origin : TableOrigin) (entries : Entries) : Option Entries :=
    if (origin = .dotted) = (path = []) then none
    else if (entries.lookup key).isSome then none
    else some (entries ++ [(key, .value value)])
  alter true add path origin entries

/-- Opens the table of a header. A table that was only named so far moves behind the other entries. -/
def openTable (path : List String) (key : String) (document : Entries) : Option Entries :=
  let add (_ : TableOrigin) (entries : Entries) : Option Entries :=
    match entries.lookup key with
    | none => some (entries ++ [(key, .table .header [])])
    | some (.table .named inner) =>
      some (entries.filter (fun entry => entry.1 ≠ key) ++ [(key, .table .header inner)])
    | some _ => none
  alter false add path .header document

/-- Adds a table to the list of a header in double brackets. -/
def addTable (path : List String) (key : String) (document : Entries) : Option Entries :=
  let add (_ : TableOrigin) (entries : Entries) : Option Entries :=
    match entries.lookup key with
    | none => some (Keyed.put key (.tables [[]]) entries)
    | some (.tables items) => some (Keyed.put key (.tables ([] :: items)) entries)
    | some _ => none
  alter false add path .header document

/-- Adds a value to the open table, which is the one at the end of `table`. -/
def addValueIn (table path : List String) (key : String) (value : Toml) (document : Entries) :
    Option Entries :=
  alter false (addValue path key value) table .header document

mutual

def finish : Draft → Toml
  | .value content => content
  | .table _ entries => .table (finishEntries entries)
  | .tables items => .array (finishTables items).reverse

def finishEntries : List (String × Draft) → List (String × Toml)
  | [] => []
  | (key, entry) :: rest => (key, finish entry) :: finishEntries rest

/-- The tables of a finished list. -/
def finishTables : List (List (String × Draft)) → List Toml
  | [] => []
  | entries :: rest => .table (finishEntries entries) :: finishTables rest

end

end Draft

end BurstRelay

import BurstRelay.Decimal.Binary64

/-!
# Values of a TOML document

What a document says: values, and tables of keyed values in the order of the document.
-/

namespace BurstRelay

/-- A value of a TOML document. -/
inductive Toml where
  | boolean (value : Bool)
  | integer (value : Int)
  | real (value : Binary64)
  | text (value : String)
  /-- A date, a time or both, as it is written. -/
  | moment (written : String)
  | array (items : List Toml)
  | table (entries : List (String × Toml))
  deriving Repr

end BurstRelay

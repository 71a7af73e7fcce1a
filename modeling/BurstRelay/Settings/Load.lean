import BurstRelay.Log
import BurstRelay.Settings.Environment
import BurstRelay.Settings.Reading
import BurstRelay.Toml.Document

/-!
# Loading settings

Settings come in three layers, each laid over the one before: the defaults, a configuration file if
one is named, and the variables of the environment. What results is read as a whole, and not checked
any further.
-/

namespace BurstRelay

/-! ## The layers -/

namespace Setting

/-- A truth value as a setting of no particular origin. -/
def ofBoolean (value : Bool) : Setting := .scalar .unknown (.boolean value)

/-- A number as a setting of no particular origin. -/
def ofNumber (value : Nat) : Setting := .scalar .unknown (.integer value)

/-- A text as a setting of no particular origin. -/
def ofText (value : String) : Setting := .scalar .unknown (.text value)

/-- A text that may be absent as a setting of no particular origin. -/
def ofOptionalText : Option String → Setting
  | some value => .ofText value
  | none => .scalar .unknown .absent

end Setting

def Settings.toSetting (settings : Settings) : Setting :=
  .table .unknown
    [("relay", .table .unknown
      [("role", .ofText settings.relay.role.name),
        ("endpoint", .ofText settings.relay.endpoint),
        ("identity", .ofOptionalText settings.relay.identity),
        ("subscribe", .ofText settings.relay.subscribe)]),
      ("output", .table .unknown [("format", .ofText settings.output.format.name)]),
      ("decompression", .table .unknown
        [("initial_capacity", .ofNumber settings.decompression.initialCapacity.toNat),
          ("max_declared_size", .ofNumber settings.decompression.maxDeclaredSize.toNat)]),
      ("acknowledgment", .table .unknown
        [("delay_ms", .ofNumber settings.acknowledgment.delayMs.toNat),
          ("ack_skipped", .ofBoolean settings.acknowledgment.ackSkipped),
          ("dummy", .ofBoolean settings.acknowledgment.dummy)])]

/-- The settings of the defaults with a file and the variables of the environment laid over them. -/
def Settings.ofLayers (file : Layer) (environment : Environment.Variables) : ReadAs Settings :=
  Settings.read ((({} : Settings).toSetting.overlayLayer file).overlayLayer (Environment.layer environment))

/-! ## The file -/

/-- The texts of files by their names. -/
abbrev TextFiles := String → Option String

/-- Why settings cannot be loaded. -/
inductive LoadFault where
  /-- There is no file of the name. -/
  | missing (name : String)
  /-- The name of the file does not say that it is a configuration file. -/
  | unregistered (name : String)
  /-- The file is not a document. -/
  | malformed
  /-- The document in the file is not a table, but the text of a moment. -/
  | noTable (name text : String)
  /-- The settings cannot be read. -/
  | unreadable (fault : ReadingFault)
  deriving DecidableEq, Repr

def LoadFault.message : LoadFault → String
  | missing name =>
    "Configuration error: Failed to build configuration: configuration file \"" ++ name ++
      "\" not found"
  | unregistered name =>
    "Configuration error: Failed to build configuration: configuration file \"" ++ name ++
      "\" is not of a registered file format"
  | malformed => "Configuration error: Failed to build configuration: TOML parse error"
  | noTable name text =>
    let found := (Finding.text text).message
    let origin := (Origin.file name).message
    "Configuration error: Failed to build configuration: " ++
      s!"invalid type: {found}, expected a map{origin}{origin}"
  | unreadable fault =>
    "Configuration error: Failed to parse configuration: " ++ fault.message

namespace ConfigurationFile

/-- What the name of a configuration file ends with. -/
def ending : List Char := ".toml".toList

/-- Whether a name is that of a configuration file. -/
def isRegistered (name : String) : Bool :=
  let base := (name.toList.reverse.takeWhile (· ≠ '/')).reverse
  ending.length < base.length && base.drop (base.length - ending.length) = ending

/-- The pieces of a name, between its slashes. -/
def pieces : List Char → List (List Char)
  | [] => [[]]
  | letter :: rest =>
    if letter = '/' then [] :: pieces rest
    else
      match pieces rest with
      | [] => [[letter]]
      | piece :: others => (letter :: piece) :: others

/-- Whether a piece of a name is that of a directory or a file, and does not stand for the directory
that it is in. -/
def isPart (piece : List Char) : Bool := piece ≠ [] && piece ≠ ['.']

/-- A name with one slash between its parts, and without what stands for the directory it is in. -/
def plainName (name : List Char) : List Char :=
  let parts := (pieces name).filter isPart
  (if name.head? = some '/' then ['/'] else []) ++ ['/'].intercalate parts

/-- The names that the configuration file of a name can have: the name itself, unless it can only be
that of a directory, and the name with the ending behind its last part. -/
def candidates (name : String) : List String :=
  let pieces := pieces name.toList
  let last := pieces.getLast?.getD []
  let lastPart := (pieces.filter isPart).getLast?.getD []
  let plain := plainName name.toList
  (if isPart last then [String.ofList plain] else []) ++
    if lastPart = [] || lastPart = ['.', '.'] then [] else [String.ofList (plain ++ ending)]

/-- The name and the text of the configuration file that a name stands for. A file of the name itself
is taken before one of the longer name. -/
def find (files : TextFiles) (name : String) : Except LoadFault (String × String) :=
  match (candidates name).findSome? fun found => (files found).map fun text => (found, text) with
  | some (found, text) =>
    if isRegistered found then .ok (found, text) else .error (.unregistered name)
  | none => .error (.missing name)

/-- The layer of settings in a configuration file. -/
def layer (files : TextFiles) (name : String) : Except LoadFault Layer := do
  let (found, text) ← find files name
  match TomlText.document? text with
  | some (.table entries) => .ok (Setting.ofEntries (.file found) entries)
  | some (.moment written) => .error (.noTable found written)
  | _ => .error .malformed

end ConfigurationFile

/-- Loads the settings of a relay, with a configuration file if one is named. -/
def Settings.load (files : TextFiles) (name : Option String)
    (environment : Environment.Variables) : Logged (Except LoadFault Settings) := do
  let file : Except LoadFault Layer ← match name with
    | some name => do
      Logged.report .debug "loading relay config file" [("path", name)]
      pure (ConfigurationFile.layer files name)
    | none => pure (.ok [])
  return do
    let file ← file
    (Settings.ofLayers file environment).mapError .unreadable

end BurstRelay

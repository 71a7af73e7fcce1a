import Mathlib
import BurstRelay.Proofs.Settings.Layers
import BurstRelay.Settings.Overrides

/-!
# Settings are resolved one by one

Each setting has the value that the highest layer which says something about it gives: its variable in
the environment, or else the file, or else the default. Nothing else in any layer has a part in it.
There is one thing that a file can put in the place of a setting without saying anything about it, and
that is a table without entries.
-/

namespace BurstRelay

/-! ## Variables -/

namespace SettingName

/-- The name of the variable that gives a setting, in lower case. -/
def variableName (name : SettingName) : String :=
  "burst_relay__" ++ name.sectionName ++ "__" ++ name.key

/-- What the environment says about a setting, whatever the case of the name of the variable. -/
def inEnvironment? (name : SettingName) (environment : Environment.Variables) : Option Setting :=
  (Keyed.spelled? name.variableName environment).map fun text =>
    .scalar .environment (Environment.scalar text)

theorem key?_of_variableName {name : SettingName} {spelling : String}
    (same : Text.lowercase spelling = name.variableName) :
    Environment.key? spelling = some (name.sectionName ++ "." ++ name.key) := by
  unfold Environment.key?
  rw [same]
  cases name <;> decide +kernel

theorem pathOfKey_variable (name : SettingName) :
    KeyStep.pathOfKey (name.sectionName ++ "." ++ name.key) = name.path := by
  cases name <;> decide +kernel

theorem variableName_injective {name other : SettingName}
    (same : name.variableName = other.variableName) : name = other := by
  cases name <;> cases other <;> first | rfl | exact absurd same (by decide)

end SettingName

/-- Whether an environment has for each setting one variable at most, and no others with the prefix. -/
structure Environment.IsPlain (environment : Environment.Variables) : Prop where
  /-- The names of the variables differ in lower case. -/
  apart : Keyed.IsApart environment
  /-- A variable lacks the prefix or gives a setting. -/
  named : ∀ entry ∈ environment, Environment.key? entry.1 = none ∨
    ∃ name : SettingName, Text.lowercase entry.1 = name.variableName

theorem Environment.IsPlain.tail {entry : String × String} {rest : Environment.Variables}
    (plain : IsPlain (entry :: rest)) : IsPlain rest where
  apart := plain.apart.tail
  named other among := plain.named other (List.mem_cons_of_mem _ among)

namespace Environment

theorem layer_cons_of_key {spelling key : String} (given : key? spelling = some key) (text : String)
    (rest : Variables) :
    layer ((spelling, text) :: rest) = (key, .scalar .environment (scalar text)) :: layer rest := by
  simp [layer, given]

theorem layer_cons_of_no_key {spelling : String} (none_given : key? spelling = none) (text : String)
    (rest : Variables) : layer ((spelling, text) :: rest) = layer rest := by
  simp [layer, none_given]

end Environment

namespace SettingName

theorem inEnvironment?_cons (name : SettingName) (spelling text : String)
    (rest : Environment.Variables) :
    name.inEnvironment? ((spelling, text) :: rest) =
      if Text.lowercase spelling = name.variableName then
        some (.scalar .environment (Environment.scalar text))
      else name.inEnvironment? rest := by
  unfold inEnvironment?
  rw [Keyed.spelled?_cons]
  split <;> rfl

end SettingName

/-- The variables of the environment replace what a tree says about the settings they name. -/
theorem Setting.States.overlay_environment {root : Setting} {content : SettingName → Option Setting}
    (states : root.States content) {environment : Environment.Variables}
    (plain : Environment.IsPlain environment) :
    (root.overlayLayer (Environment.layer environment)).States fun name =>
      (name.inEnvironment? environment).or (content name) := by
  induction environment generalizing root content with
  | nil => exact states
  | cons entry rest ih =>
    obtain ⟨spelling, text⟩ := entry
    rcases plain.named _ (List.mem_cons_self ..) with unprefixed | ⟨name, same⟩
    · rw [Environment.layer_cons_of_no_key unprefixed]
      refine (ih states plain.tail).congr fun other => ?_
      have differs : Text.lowercase spelling ≠ other.variableName := fun same => by
        simp [SettingName.key?_of_variableName same] at unprefixed
      rw [SettingName.inEnvironment?_cons, if_neg differs]
    · simp only at same
      rw [Environment.layer_cons_of_key (SettingName.key?_of_variableName same),
        overlayLayer_cons, SettingName.pathOfKey_variable]
      refine (ih (states.overlay_scalar name .environment (Environment.scalar text)) plain.tail).congr
        fun other => ?_
      rw [SettingName.inEnvironment?_cons, same]
      by_cases equal : other = name
      · subst equal
        have unrepeated : other.inEnvironment? rest = none := by
          rw [SettingName.inEnvironment?, ← same, Keyed.spelled?_of_isApart plain.apart, Option.map_none]
        rw [if_pos rfl, if_pos rfl, unrepeated]
        rfl
      · rw [if_neg equal, if_neg fun same => equal (SettingName.variableName_injective same).symm]

/-! ## Converting what was laid over a scalar

What a file says is laid over the default, which is a scalar. That is converted as it is in the file:
only a table can have changed, to one with keys in lower case.
-/

/-- Whether a value is a table without entries. -/
def Toml.isBlank : Toml → Bool
  | .table [] => true
  | _ => false

namespace Setting

/-- Only a table with one entry is read as a name. -/
theorem readName_table {α : Type} {enumeration : String} {names : Keyed α} {origin : Origin}
    {entries : Keyed Setting} {value : α} :
    readName enumeration names (.table origin entries) = .ok value ↔
      ∃ key setting, entries = [(key, setting)] ∧ names.lookup (Text.lowercase key) = some value := by
  match entries with
  | [] => simp [readName]
  | [(key, setting)] =>
    simp only [readName]
    cases found : names.lookup (Text.lowercase key) <;> simp [found]
  | _ :: _ :: _ => simp [readName]

/-- What was laid over an empty table has one entry only if the layer had. -/
theorem eq_singleton_of_overlayEntries {entries : Keyed Setting} (apart : Keyed.IsApart entries)
    {name : String} {result : Setting} (single : overlayEntries [] entries = [(name, result)]) :
    ∃ key setting, entries = [(key, setting)] ∧ name = Text.lowercase key := by
  have only (other : String) (setting : Setting)
      (found : Keyed.spelled? other entries = some setting) : other = name := by
    have there := lookup_overlayEntries apart [] other
    rw [single, found, List.lookup_cons] at there
    by_contra differs
    simp [beq_eq_false_iff_ne.mpr differs] at there
  match entries with
  | [] => cases single
  | [(key, setting)] =>
    refine ⟨key, setting, rfl, (only (Text.lowercase key) setting ?_).symm⟩
    rw [Keyed.spelled?_cons, if_pos rfl]
  | (first, setting) :: (second, other) :: rest =>
    have differ : Text.lowercase first ≠ Text.lowercase second := fun same =>
      (List.nodup_cons.mp apart).1 (by simp [same])
    have firstName := only (Text.lowercase first) setting (by rw [Keyed.spelled?_cons, if_pos rfl])
    have secondName := only (Text.lowercase second) other
      (by rw [Keyed.spelled?_cons, if_neg differ, Keyed.spelled?_cons, if_pos rfl])
    exact absurd (firstName.trans secondName.symm) differ

/-- A table that was laid over a scalar is read as the same name. -/
theorem readName_overlay {α : Type} {enumeration : String} {names : Keyed α}
    (plain : ∀ entry ∈ names, entry.1.toList.all Text.isPlain) {origin other : Origin}
    {entries : Keyed Setting} (apart : Keyed.IsApart entries) {value : α} :
    readName enumeration names (.table other (overlayEntries [] entries)) = .ok value ↔
      readName enumeration names (.table origin entries) = .ok value := by
  rw [readName_table, readName_table]
  constructor
  · rintro ⟨name, result, single, found⟩
    obtain ⟨key, setting, rfl, rfl⟩ := eq_singleton_of_overlayEntries apart single
    exact ⟨key, setting, rfl, by rw [← found, Text.lookup_lowercase plain]⟩
  · rintro ⟨key, setting, rfl, found⟩
    exact ⟨Text.lowercase key, overlay none setting, rfl, by rw [Text.lookup_lowercase plain, found]⟩

end Setting

namespace SettingName

theorem convert_table_iff {name : SettingName} {origin other : Origin} {entries : Keyed Setting}
    (apart : Keyed.IsApart entries) {value : name.Value} :
    name.convert (.table other (Setting.overlayEntries [] entries)) = .ok value ↔
      name.convert (.table origin entries) = .ok value := by
  cases name with
  | role => exact Setting.readName_overlay (by decide) apart
  | format => exact Setting.readName_overlay (by decide) apart
  | endpoint | subscribe => simp [convert, Setting.readText, Setting.refuse]
  | identity => simp [convert, Setting.readOptionalText, Setting.readText, Setting.refuse]
  | initialCapacity | delayMs => simp [convert, Setting.readWord64, Setting.refuse]
  | maxDeclaredSize =>
    simp [convert, Setting.readWord32, Setting.readWord64, Setting.refuse, Fallible.bind_eq_ok]
  | ackSkipped | dummy => simp [convert, Setting.readBoolean, Setting.refuse]

/-- What the file says, laid over a scalar that stands for the default, settles the setting as it does
on its own; a table without entries leaves the default. -/
theorem settle_overlay {name : SettingName} {value : Toml} (apart : value.IsApart) (origin : Origin)
    {default : Scalar} (reads : name.convert (.scalar .unknown default) = .ok (name.get {}))
    {result : name.Value} :
    name.settle (some (Setting.overlay (some (.scalar .unknown default))
        (Setting.ofToml origin value))) = .ok result ↔
      name.settle (((some value).filter fun value => !value.isBlank).map (Setting.ofToml origin)) =
        .ok result := by
  cases apart with
  | table keys each =>
    rename_i entries
    cases entries with
    | nil =>
      -- Nothing is laid over the default, and nothing is what the file says.
      show name.convert (.scalar .unknown default) = .ok result ↔ Except.ok (name.get {}) = .ok result
      rw [reads]
    | cons entry rest =>
      exact convert_table_iff (Setting.isApart_ofEntries.mpr keys)
  | _ => exact Iff.rfl

end SettingName

/-! ## Loading -/

/-- What a configuration file says; nothing, if none is named. -/
inductive ConfigurationFile.States (files : TextFiles) :
    Option String → Origin → List (String × Toml) → Prop where
  | nothing (origin : Origin) : States files none origin []
  | document {name found text : String} {entries : List (String × Toml)}
      (there : find files name = .ok (found, text))
      (parsed : TomlText.document? text = some (.table entries)) :
      States files (some name) (.file found) entries

/-- The layer of the configuration file that is named; an empty one, if none is. -/
def ConfigurationFile.layerOf (files : TextFiles) : Option String → Except LoadFault Layer
  | some name => layer files name
  | none => .ok []

/-- Loading is laying the file over the defaults, and the environment over that. -/
theorem Settings.load_eq_ok {files : TextFiles} {file : Option String}
    {environment : Environment.Variables} {settings : Settings} :
    (Settings.load files file environment).value = .ok settings ↔
      ∃ layer, ConfigurationFile.layerOf files file = .ok layer ∧
        Settings.ofLayers layer environment = .ok settings := by
  cases file <;>
    simp only [Settings.load, Logged.value_bind, Logged.value_pure, Fallible.bind_eq_ok,
      Fallible.mapError_eq_ok, ConfigurationFile.layerOf]

theorem ConfigurationFile.States.layerOf {files : TextFiles} {file : Option String} {origin : Origin}
    {entries : List (String × Toml)} (states : States files file origin entries) :
    ConfigurationFile.layerOf files file = .ok (Setting.ofEntries origin entries) := by
  cases states with
  | nothing => rfl
  | document there parsed =>
    rw [ConfigurationFile.layerOf, layer, Fallible.bind_eq_ok]
    exact ⟨_, there, by simp only [parsed]⟩

theorem ConfigurationFile.IsPlain.apart_of_inFile? {entries : List (String × Toml)}
    (plain : IsPlain entries) {name : SettingName} {value : Toml}
    (given : name.inFile? entries = some value) : value.IsApart := by
  unfold SettingName.inFile? at given
  split at given
  next part found =>
    obtain ⟨_, among, -⟩ := Keyed.mem_of_spelled? found
    obtain ⟨_, inside, -⟩ := Keyed.mem_of_spelled? given
    cases plain.apart with
    | table _ each =>
      cases each _ among with
      | table _ each => exact each _ inside
  next => cases given

/-- What the layers define a setting as: the environment, or else the file. A table without entries
defines nothing. -/
def SettingName.defined? (name : SettingName) (origin : Origin) (entries : List (String × Toml))
    (environment : Environment.Variables) : Option Setting :=
  (name.inEnvironment? environment).or
    (((name.inFile? entries).filter fun value => !value.isBlank).map (Setting.ofToml origin))

/-- Settings are what the highest layer that defines each of them says. -/
theorem Settings.ofLayers_eq_ok {entries : List (String × Toml)}
    (plain : ConfigurationFile.IsPlain entries) (origin : Origin)
    {environment : Environment.Variables} (named : Environment.IsPlain environment)
    {settings : Settings} :
    Settings.ofLayers (Setting.ofEntries origin entries) environment = .ok settings ↔
      ∀ name : SettingName,
        name.settle (name.defined? origin entries environment) = .ok (name.get settings) := by
  have states := ((({} : Settings).toSetting_states).overlay_file plain origin).overlay_environment named
  rw [ofLayers, states.read_eq_ok]
  refine forall_congr' fun name => ?_
  unfold SettingName.defined?
  cases name.inEnvironment? environment with
  | some setting => rfl
  | none =>
    have default := name.convert_written (name.get {}) .unknown
    rw [Option.none_or, Option.none_or]
    cases given : name.inFile? entries with
    | none =>
      show name.convert (.scalar .unknown (name.written (name.get {}))) = .ok (name.get settings) ↔
        Except.ok (name.get {}) = .ok (name.get settings)
      rw [default]
    | some value => exact SettingName.settle_overlay (plain.apart_of_inFile? given) origin default

/-! ## Overriding -/

namespace Overrides

/-- The settings that are overridden: those of the command line, and those that the purpose of the
program fixes. -/
def override (overrides : Overrides) (format : Option OutputMode) (dummy : Bool)
    (settings : Settings) : Settings :=
  applyPurpose format dummy (overrides.apply settings)

/-- What a setting is overridden with, if its flag is given. -/
def given? (overrides : Overrides) (format : Option OutputMode) (dummy : Bool) :
    (name : SettingName) → Option name.Value
  | .role =>
    if overrides.impersonate then some .impersonator
    else if overrides.passive then some .passiveObserver
    else none
  | .endpoint => overrides.endpoint
  | .identity => overrides.identity.map some
  | .subscribe => overrides.subscribe
  | .format => format
  | .initialCapacity => none
  | .maxDeclaredSize => overrides.maxDeclaredSize
  | .delayMs => if overrides.slow then some slowDelayMs else none
  | .ackSkipped => if overrides.ackSkipped then some true else none
  | .dummy => if dummy then some true else none

/-- Each setting is overridden if its flag is given, and stays what it is if not. -/
theorem get_override (overrides : Overrides) (format : Option OutputMode) (dummy : Bool)
    (settings : Settings) (name : SettingName) :
    name.get (overrides.override format dummy settings) =
      (overrides.given? format dummy name).getD (name.get settings) := by
  cases name with
  | role =>
    show (if overrides.impersonate then _ else if overrides.passive then _ else _) = _
    unfold given?
    split
    · rfl
    · split <;> rfl
  | identity =>
    show (overrides.identity <|> settings.relay.identity) = (overrides.identity.map some).getD _
    cases overrides.identity <;> rfl
  | delayMs =>
    show (if overrides.slow then _ else _) = _
    unfold given?
    split <;> rfl
  | ackSkipped =>
    show (overrides.ackSkipped || settings.acknowledgment.ackSkipped) = _
    unfold given?
    cases overrides.ackSkipped <;> rfl
  | dummy => cases dummy <;> rfl
  | _ => rfl

/-- What is resolved is what was loaded, overridden and only then checked. -/
theorem resolve_eq_ok {overrides : Overrides} {format : Option OutputMode} {dummy : Bool}
    {files : TextFiles} {environment : Environment.Variables} {settings : Settings} :
    (overrides.resolve format dummy files environment).value = .ok settings ↔
      ∃ loaded, (Settings.load files overrides.config environment).value = .ok loaded ∧
        settings = overrides.override format dummy loaded ∧ settings.validate = .ok () := by
  unfold resolve
  rw [Logged.value_bind]
  cases (Settings.load files overrides.config environment).value with
  | error fault => simp
  | ok loaded =>
    simp only [Logged.value_pure, Fallible.map_eq_ok, Fallible.mapError_eq_ok, Except.ok.injEq,
      exists_eq_left']
    constructor
    · rintro ⟨⟨⟩, valid, rfl⟩
      exact ⟨rfl, valid⟩
    · rintro ⟨rfl, valid⟩
      exact ⟨(), valid, rfl⟩

end Overrides

/-! ## The whole -/

/-- Settings are resolved one by one. They can be loaded exactly when for each setting what the highest
layer says can be converted, and each is that conversion. Flags then change the settings they are for
and no others, and what is checked is the outcome of that. -/
theorem Settings.resolved_one_by_one {files : TextFiles} {file : Option String} {origin : Origin}
    {entries : List (String × Toml)} (states : ConfigurationFile.States files file origin entries)
    (plain : ConfigurationFile.IsPlain entries) {environment : Environment.Variables}
    (named : Environment.IsPlain environment) :
    (∀ settings, (Settings.load files file environment).value = .ok settings ↔
      ∀ name : SettingName,
        name.settle (name.defined? origin entries environment) = .ok (name.get settings)) ∧
    ((∃ settings, (Settings.load files file environment).value = .ok settings) ↔
      ∀ name : SettingName, ∃ value,
        name.settle (name.defined? origin entries environment) = .ok value) ∧
    ∀ (overrides : Overrides) (format : Option OutputMode) (dummy : Bool),
      (∀ settings name, name.get (overrides.override format dummy settings) =
        (overrides.given? format dummy name).getD (name.get settings)) ∧
      (overrides.config = file → ∀ settings,
        (overrides.resolve format dummy files environment).value = .ok settings ↔
          ∃ loaded, (Settings.load files file environment).value = .ok loaded ∧
            settings = overrides.override format dummy loaded ∧ settings.validate = .ok ()) := by
  have loads (settings : Settings) : (Settings.load files file environment).value = .ok settings ↔
      ∀ name : SettingName,
        name.settle (name.defined? origin entries environment) = .ok (name.get settings) := by
    rw [← ofLayers_eq_ok plain origin named, load_eq_ok]
    simp only [states.layerOf, Except.ok.injEq, exists_eq_left']
  refine ⟨loads, ⟨?_, ?_⟩, fun overrides format dummy =>
    ⟨overrides.get_override format dummy, ?_⟩⟩
  · rintro ⟨settings, loaded⟩ name
    exact ⟨_, (loads settings).mp loaded name⟩
  · intro each
    obtain ⟨settings, settled⟩ := exists_of_each each
    exact ⟨settings, (loads settings).mpr settled⟩
  · rintro rfl settings
    exact Overrides.resolve_eq_ok

/-- The files of which one is a configuration file, with some text. -/
def ConfigurationFile.single (text : String) : TextFiles := fun name =>
  if name = "relay.toml" then some text else none

theorem ConfigurationFile.find_single (text : String) :
    find (single text) "relay.toml" = .ok ("relay.toml", text) := rfl

/-- A file with a key in capitals and a delay that is a list, and a variable that gives the delay: the
list does not matter. Then the relay is slowed down on the command line. -/
theorem Settings.resolved_with_list_for_delay :
    let files := ConfigurationFile.single
      "[relay]\nENDPOINT = 17\n[acknowledgment]\ndelay_ms = []\nother = 1\n"
    let environment := [("Burst_Relay__Acknowledgment__DELAY_MS", "250"), ("HOME", "/root")]
    let loaded : Settings := { relay := { endpoint := "17" }, acknowledgment := { delayMs := 250 } }
    let slow : Overrides := { config := some "relay.toml", slow := true }
    (Settings.load files (some "relay.toml") environment).value = .ok loaded ∧
      (slow.resolve none false files environment).value =
        .ok { loaded with acknowledgment := { delayMs := 1000 } } := by
  intro files environment loaded slow
  have states : ConfigurationFile.States files (some "relay.toml") (.file "relay.toml")
      [("relay", .table [("ENDPOINT", .integer 17)]),
        ("acknowledgment", .table [("delay_ms", .array []), ("other", .integer 1)])] :=
    .document (ConfigurationFile.find_single _) (by cbv)
  have plain : ConfigurationFile.IsPlain
      [("relay", .table [("ENDPOINT", .integer 17)]),
        ("acknowledgment", .table [("delay_ms", .array []), ("other", .integer 1)])] := by
    refine ⟨.table (by unfold Keyed.IsApart; decide +kernel) ?_, by decide, ?_⟩
    · refine List.forall_mem_cons.mpr ⟨.table (List.nodup_singleton _) ?_,
        List.forall_mem_singleton.mpr (.table (by unfold Keyed.IsApart; decide +kernel) ?_)⟩
      · exact List.forall_mem_singleton.mpr (.integer 17)
      · exact List.forall_mem_cons.mpr ⟨.array (List.forall_mem_nil _),
          List.forall_mem_singleton.mpr (.integer 1)⟩
    · intro name value found
      obtain ⟨key, among, -⟩ := Keyed.mem_of_spelled? found
      simp only [List.mem_cons, Prod.mk.injEq, List.not_mem_nil, or_false] at among
      obtain ⟨-, rfl⟩ | ⟨-, rfl⟩ := among <;> exact ⟨_, rfl⟩
  have named : Environment.IsPlain environment := by
    refine ⟨by unfold Keyed.IsApart; decide +kernel, ?_⟩
    exact List.forall_mem_cons.mpr ⟨.inr ⟨.delayMs, by decide +kernel⟩,
      List.forall_mem_singleton.mpr (.inl (by decide +kernel))⟩
  obtain ⟨loads, -, overrides⟩ := Settings.resolved_one_by_one states plain named
  have load := (loads loaded).mpr (SettingName.forall_iff.mpr (by decide +kernel))
  exact ⟨load, ((overrides slow none false).2 rfl _).mpr
    ⟨loaded, load, by decide +kernel, by decide +kernel⟩⟩

/-- A table without entries in place of the endpoint: it is no text, and yet the settings can be loaded,
with the default for the endpoint. -/
theorem Settings.blank_table_is_passed_over :
    let files := ConfigurationFile.single "[relay]\nendpoint = \x7b\x7d\n"
    let entries := [("relay", Toml.table [("endpoint", .table [])])]
    (ConfigurationFile.States files (some "relay.toml") (.file "relay.toml") entries ∧
        ConfigurationFile.IsPlain entries ∧ Environment.IsPlain []) ∧
      (SettingName.endpoint.inEnvironment? [] = none ∧
        SettingName.endpoint.inFile? entries = some (.table []) ∧
        ∀ value, SettingName.endpoint.convert
          (Setting.ofToml (.file "relay.toml") (.table [])) ≠ .ok value) ∧
      (Settings.load files (some "relay.toml") []).value = .ok {} := by
  intro files entries
  have states : ConfigurationFile.States files (some "relay.toml") (.file "relay.toml") entries :=
    .document (ConfigurationFile.find_single _) (by cbv)
  have plain : ConfigurationFile.IsPlain entries := by
    refine ⟨.table (List.nodup_singleton _) ?_, by decide, ?_⟩
    · exact List.forall_mem_singleton.mpr (.table (List.nodup_singleton _)
        (List.forall_mem_singleton.mpr (.table List.nodup_nil (List.forall_mem_nil _))))
    · intro name value found
      obtain ⟨key, among, -⟩ := Keyed.mem_of_spelled? found
      obtain ⟨-, rfl⟩ : key = "relay" ∧ value = .table [("endpoint", .table [])] := by
        simpa [entries] using among
      exact ⟨_, rfl⟩
  have named : Environment.IsPlain [] := ⟨List.nodup_nil, List.forall_mem_nil _⟩
  refine ⟨⟨states, plain, named⟩, ⟨rfl, ?_, fun value => ?_⟩, ?_⟩
  · have part : Keyed.spelled? SettingName.endpoint.sectionName entries =
        some (.table [("endpoint", .table [])]) :=
      (Keyed.spelled?_cons ..).trans (if_pos (SettingName.lowercase_sectionName .endpoint))
    exact (SettingName.inFile?_of_table part).trans
      ((Keyed.spelled?_cons ..).trans (if_pos (SettingName.lowercase_key .endpoint)))
  · simp [SettingName.convert, Setting.ofToml, Setting.readText, Setting.refuse]
  · exact load_eq_ok.mpr ⟨_, states.layerOf, (ofLayers_eq_ok plain _ named).mpr
      (SettingName.forall_iff.mpr (by decide +kernel))⟩

end BurstRelay

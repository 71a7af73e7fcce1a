import BurstRelay.Proofs.Settings.Names
import BurstRelay.Proofs.Text.Case
import Mathlib.Data.List.TakeWhile

/-!
# What a layer changes

Trees of settings are compared by what they say about each of the ten settings. The tree of the
defaults says something about all of them, in sections that are tables, and both kinds of layers keep
it that way: a file, whose keys are looked at in lower case, changes what is said about the settings it
names, and a variable of the environment what is said about its one.
-/

namespace BurstRelay

/-! ## Keys in lower case -/

namespace Keyed

variable {α β : Type}

/-- Whether the keys of a table differ in lower case. -/
def IsApart (table : Keyed α) : Prop := (table.map fun entry => Text.lowercase entry.1).Nodup

/-- What a table has under the key with some lower case, if it has one. -/
def spelled? (name : String) (table : Keyed α) : Option α :=
  (table.find? fun entry => Text.lowercase entry.1 = name).map Prod.snd

theorem spelled?_cons (name key : String) (value : α) (rest : Keyed α) :
    spelled? name ((key, value) :: rest) =
      if Text.lowercase key = name then some value else spelled? name rest := by
  unfold spelled?
  rw [List.find?_cons]
  by_cases same : Text.lowercase key = name
  · simp only [same, decide_true, if_true, Option.map_some]
  · simp only [same, decide_false, if_false]

theorem spelled?_map (change : α → β) (name : String) (table : Keyed α) :
    spelled? name (table.map fun entry => (entry.1, change entry.2)) =
      (spelled? name table).map change := by
  induction table with
  | nil => rfl
  | cons entry rest ih =>
    obtain ⟨key, value⟩ := entry
    rw [List.map_cons, spelled?_cons, spelled?_cons, ih]
    split <;> rfl

theorem mem_of_spelled? {name : String} {table : Keyed α} {value : α}
    (found : spelled? name table = some value) :
    ∃ key, (key, value) ∈ table ∧ Text.lowercase key = name := by
  obtain ⟨⟨key, _⟩, first, rfl⟩ := Option.map_eq_some_iff.mp found
  exact ⟨key, List.mem_of_find?_eq_some first, by simpa using List.find?_some first⟩

/-- A key that differs from all others in lower case is not found among those. -/
theorem spelled?_of_isApart {key : String} {value : α} {rest : Keyed α}
    (apart : IsApart ((key, value) :: rest)) : spelled? (Text.lowercase key) rest = none := by
  cases found : spelled? (Text.lowercase key) rest with
  | none => rfl
  | some other =>
    obtain ⟨again, among, same⟩ := mem_of_spelled? found
    exact absurd (List.mem_map.mpr ⟨_, among, same⟩) (List.nodup_cons.mp apart).1

theorem IsApart.tail {entry : String × α} {rest : Keyed α} (apart : IsApart (entry :: rest)) :
    IsApart rest :=
  (List.nodup_cons.mp apart).2

theorem isApart_map {change : α → β} {table : Keyed α} :
    IsApart (table.map fun entry => (entry.1, change entry.2)) ↔ IsApart table := by
  simp [IsApart, Function.comp_def]

theorem lookup_put (key other : String) (value : α) (table : Keyed α) :
    List.lookup other (put key value table) =
      if other = key then some value else List.lookup other table := by
  split
  next same => rw [same, lookup_put_self]
  next differ => exact lookup_put_of_ne differ value table

end Keyed

/-! ## Laying tables over tables -/

namespace Setting

theorem ofEntries_eq_map (origin : Origin) (entries : List (String × Toml)) :
    ofEntries origin entries = entries.map fun entry => (entry.1, ofToml origin entry.2) := by
  induction entries with
  | nil => rfl
  | cons entry rest ih =>
    obtain ⟨key, value⟩ := entry
    rw [ofEntries, ih, List.map_cons]

@[simp] theorem spelled?_ofEntries (origin : Origin) (name : String)
    (entries : List (String × Toml)) :
    Keyed.spelled? name (ofEntries origin entries) =
      (Keyed.spelled? name entries).map (ofToml origin) := by
  rw [ofEntries_eq_map, Keyed.spelled?_map]

theorem isApart_ofEntries {origin : Origin} {entries : List (String × Toml)} :
    Keyed.IsApart (ofEntries origin entries) ↔ Keyed.IsApart entries := by
  rw [ofEntries_eq_map, Keyed.isApart_map]

/-- Under each key there is what was there with what the layer has for it laid over. -/
theorem lookup_overlayEntries {entries : Keyed Setting} (apart : Keyed.IsApart entries)
    (below : Keyed Setting) (name : String) :
    (overlayEntries below entries).lookup name =
      ((Keyed.spelled? name entries).map (overlay (below.lookup name))).or (below.lookup name) := by
  induction entries generalizing below with
  | nil => rfl
  | cons entry rest ih =>
    obtain ⟨key, setting⟩ := entry
    rw [overlayEntries, ih apart.tail, Keyed.spelled?_cons, Keyed.lookup_put]
    by_cases same : Text.lowercase key = name
    · subst same
      rw [if_pos rfl, if_pos rfl, Keyed.spelled?_of_isApart apart]
      rfl
    · rw [if_neg same, if_neg (Ne.symm same)]

theorem overlayLayer_cons (below : Setting) (key : String) (setting : Setting) (rest : Layer) :
    below.overlayLayer ((key, setting) :: rest) =
      (overlayAt (KeyStep.pathOfKey key) setting (some below)).overlayLayer rest := rfl

/-- A layer of plain names is laid over a table like a table. -/
theorem overlayLayer_table {layer : Layer} (origin : Origin) (below : Keyed Setting)
    (plain : ∀ entry ∈ layer, KeyStep.pathOfKey entry.1 = [.name entry.1]) :
    (Setting.table origin below).overlayLayer layer =
      .table origin (overlayEntries below layer) := by
  induction layer generalizing below with
  | nil => rfl
  | cons entry rest ih =>
    obtain ⟨key, setting⟩ := entry
    have head := plain (key, setting) (List.mem_cons_self ..)
    have tail := ih (Keyed.put (Text.lowercase key) (overlay (below.lookup (Text.lowercase key)) setting)
      below) fun entry among => plain entry (List.mem_cons_of_mem _ among)
    rw [overlayEntries, ← tail, overlayLayer_cons, head]
    rfl

end Setting

/-- A name of letters that can stand in the names of a path is a path of one step. -/
theorem KeyStep.pathOfKey_of_name {key : String} (some_letter : key ≠ "")
    (letters : key.toList.all KeyStep.isNameLetter) : KeyStep.pathOfKey key = [.name key] := by
  have whole : key.toList.takeWhile isNameLetter = key.toList :=
    List.takeWhile_eq_self_iff.mpr (List.all_eq_true.mp letters)
  have nonempty : key.toList ≠ [] := by simpa using some_letter
  unfold pathOfKey
  rw [stepsOfText]
  simp [whole, nonempty, stepsOfText]

/-! ## What a tree says -/

namespace Setting

/-- Whether a tree has every section as a table, and says of each setting what `content` does. -/
def States (root : Setting) (content : SettingName → Option Setting) : Prop :=
  ∃ origin sections, root = .table origin sections ∧
    ∀ name : SettingName, ∃ origin entries,
      sections.lookup name.sectionName = some (.table origin entries) ∧
        entries.lookup name.key = content name

variable {root : Setting} {content : SettingName → Option Setting}

theorem States.congr (states : root.States content) {others : SettingName → Option Setting}
    (same : ∀ name, content name = others name) : root.States others := by
  rwa [← funext same]

/-- Such a tree is read setting by setting. -/
theorem States.read_eq_ok (states : root.States content) {settings : Settings} :
    Settings.read root = .ok settings ↔
      ∀ name : SettingName, name.settle (content name) = .ok (name.get settings) := by
  obtain ⟨origin, sections, rfl, states⟩ := states
  have sections_tables : ∀ name : SettingName, ∀ part ∈ name.sectionOf? (.table origin sections),
      part.IsSection := by
    intro name part among
    obtain ⟨_, entries, found, -⟩ := states name
    rw [SettingName.sectionOf?, item?_table, found] at among
    obtain rfl := Option.mem_some_iff.mp among
    trivial
  have within (name : SettingName) : name.within? (.table origin sections) = content name := by
    obtain ⟨_, entries, found, inside⟩ := states name
    rw [SettingName.within?, SettingName.sectionOf?, item?_table, found, Option.bind_some,
      item?_table, inside]
  simp only [Settings.read_eq_ok, within]
  exact ⟨And.right, And.intro sections_tables⟩

end Setting

/-! ## The defaults -/

namespace SettingName

/-- How a value of a setting is written in a tree. -/
def written : (name : SettingName) → name.Value → Scalar
  | role, value => .text value.name
  | endpoint, value | subscribe, value => .text value
  | identity, some value => .text value
  | identity, none => .absent
  | format, value => .text value.name
  | initialCapacity, value | delayMs, value => .integer (value.toNat : Nat)
  | maxDeclaredSize, value => .integer (value.toNat : Nat)
  | ackSkipped, value | dummy, value => .boolean value

end SettingName

/-- A tree of settings says of each the value that it has. -/
theorem Settings.toSetting_states (settings : Settings) :
    settings.toSetting.States fun name =>
      some (.scalar .unknown (name.written (name.get settings))) := by
  refine ⟨_, _, rfl, fun name => ?_⟩
  cases name with
  | identity =>
    refine ⟨_, _, rfl, ?_⟩
    show some (Setting.ofOptionalText settings.relay.identity) =
      some (.scalar .unknown (SettingName.written .identity settings.relay.identity))
    cases settings.relay.identity <;> rfl
  | _ => exact ⟨_, _, rfl, rfl⟩

theorem Role.names_lookup (role : Role) :
    Role.names.lookup (Text.lowercase role.name) = some role := by
  cases role <;> decide +kernel

theorem OutputMode.names_lookup (mode : OutputMode) :
    OutputMode.names.lookup (Text.lowercase mode.name) = some mode := by
  cases mode <;> decide +kernel

/-- What is written for a value is converted to that value. -/
theorem SettingName.convert_written (name : SettingName) (value : name.Value) (origin : Origin) :
    name.convert (.scalar origin (name.written value)) = .ok value := by
  cases name with
  | role => simp only [convert, written, Setting.readName, Role.names_lookup]
  | format => simp only [convert, written, Setting.readName, OutputMode.names_lookup]
  | endpoint | subscribe | ackSkipped | dummy => rfl
  | identity => cases value <;> rfl
  | initialCapacity | delayMs => simp [convert, written, Setting.readWord64]
  | maxDeclaredSize =>
    have small : (UInt64.ofNat value.toNat).toNat = value.toNat := by
      rw [UInt64.toNat_ofNat']
      have := value.toNat_lt
      omega
    have word : Setting.readWord64 (.scalar origin (written maxDeclaredSize value)) =
        .ok (UInt64.ofNat value.toNat) := by
      simp [written, Setting.readWord64]
    simp only [convert, Setting.readWord32, Fallible.bind_eq_ok]
    refine ⟨_, word, ?_⟩
    rw [small, if_pos value.toNat_lt]
    have back : (UInt64.ofNat value.toNat).toUInt32 = value := by
      apply UInt32.toNat_inj.mp
      rw [UInt64.toNat_toUInt32, small]
      exact Nat.mod_eq_of_lt value.toNat_lt
    rw [back]

/-- Settings are read back from their tree. -/
theorem Settings.read_toSetting (settings : Settings) :
    Settings.read settings.toSetting = .ok settings :=
  settings.toSetting_states.read_eq_ok.mpr fun name => name.convert_written _ .unknown

/-! ## A file over a tree -/

/-- What the entries of a file say about a setting, whatever the case of its section and its key. -/
def SettingName.inFile? (name : SettingName) (entries : List (String × Toml)) : Option Toml :=
  match Keyed.spelled? name.sectionName entries with
  | some (.table part) => Keyed.spelled? name.key part
  | _ => none

theorem SettingName.inFile?_of_table {name : SettingName} {entries part : List (String × Toml)}
    (given : Keyed.spelled? name.sectionName entries = some (.table part)) :
    name.inFile? entries = Keyed.spelled? name.key part := by
  simp only [inFile?, given]

/-- Whether a value is a table with entries that differ in lower case, at every level. -/
inductive Toml.IsApart : Toml → Prop where
  | boolean (value : Bool) : IsApart (.boolean value)
  | integer (value : Int) : IsApart (.integer value)
  | real (value : Binary64) : IsApart (.real value)
  | text (value : String) : IsApart (.text value)
  | moment (written : String) : IsApart (.moment written)
  | array {items : List Toml} (each : ∀ item ∈ items, IsApart item) : IsApart (.array items)
  | table {entries : List (String × Toml)} (keys : Keyed.IsApart entries)
      (each : ∀ entry ∈ entries, IsApart entry.2) : IsApart (.table entries)

/-- Whether a file is one whose settings are laid over others one by one. -/
structure ConfigurationFile.IsPlain (entries : List (String × Toml)) : Prop where
  /-- The keys of its tables differ in lower case. -/
  apart : Toml.IsApart (.table entries)
  /-- What is not in a section has a key that is a name. -/
  names : ∀ entry ∈ entries, entry.1 ≠ "" ∧ entry.1.toList.all KeyStep.isNameLetter
  /-- The sections are tables. -/
  sections : ∀ (name : SettingName) (value : Toml),
    Keyed.spelled? name.sectionName entries = some value → ∃ part, value = .table part

namespace Setting

variable {root : Setting} {content : SettingName → Option Setting}

/-- A file is laid over what a tree says about each of the settings it has something to say about. -/
theorem States.overlay_file (states : root.States content) {entries : List (String × Toml)}
    (plain : ConfigurationFile.IsPlain entries) (origin : Origin) :
    (root.overlayLayer (ofEntries origin entries)).States fun name =>
      (((name.inFile? entries).map (ofToml origin)).map (overlay (content name))).or
        (content name) := by
  obtain ⟨rootOrigin, sections, rfl, states⟩ := states
  obtain ⟨keys, each⟩ : Keyed.IsApart entries ∧ ∀ entry ∈ entries, Toml.IsApart entry.2 := by
    cases plain.apart with
    | table keys each => exact ⟨keys, each⟩
  have paths : ∀ entry ∈ ofEntries origin entries, KeyStep.pathOfKey entry.1 = [.name entry.1] := by
    intro entry among
    rw [ofEntries_eq_map] at among
    obtain ⟨given, inside, rfl⟩ := List.mem_map.mp among
    exact KeyStep.pathOfKey_of_name (plain.names given inside).1 (plain.names given inside).2
  refine ⟨rootOrigin, _, overlayLayer_table rootOrigin sections paths, fun name => ?_⟩
  obtain ⟨partOrigin, below, found, inside⟩ := states name
  rw [lookup_overlayEntries (isApart_ofEntries.mpr keys), spelled?_ofEntries, found]
  cases given : Keyed.spelled? name.sectionName entries with
  | none =>
    refine ⟨partOrigin, below, rfl, ?_⟩
    simp [inside, SettingName.inFile?, given]
  | some value =>
    obtain ⟨part, rfl⟩ := plain.sections name value given
    simp only [SettingName.inFile?_of_table given]
    obtain ⟨_, among, -⟩ := Keyed.mem_of_spelled? given
    have partKeys : Keyed.IsApart part := by
      cases each _ among with
      | table keys _ => exact keys
    cases part with
    | nil => exact ⟨partOrigin, below, rfl, inside⟩
    | cons entry rest =>
      refine ⟨partOrigin, overlayEntries below (ofEntries origin (entry :: rest)), rfl, ?_⟩
      rw [lookup_overlayEntries (isApart_ofEntries.mpr partKeys), spelled?_ofEntries, inside]

end Setting

/-! ## A variable over a tree -/

namespace SettingName

theorem lowercase_sectionName (name : SettingName) :
    Text.lowercase name.sectionName = name.sectionName :=
  Text.lowercase_of_isPlain (by cases name <;> decide)

theorem lowercase_key (name : SettingName) : Text.lowercase name.key = name.key :=
  Text.lowercase_of_isPlain (by cases name <;> decide)

/-- The way to a setting. -/
def path (name : SettingName) : List KeyStep := [.name name.sectionName, .name name.key]

end SettingName

namespace Setting

variable {root : Setting} {content : SettingName → Option Setting}

/-- A scalar at the end of the way to a setting is put into its section, which is made if it is not a
table. -/
theorem overlayAt_path (name : SettingName) (origin : Origin) (scalar : Scalar) (rootOrigin : Origin)
    (sections : Keyed Setting) :
    overlayAt name.path (.scalar origin scalar) (some (.table rootOrigin sections)) =
      .table rootOrigin (Keyed.put name.sectionName
        (.table (asTable (sections.lookup name.sectionName)).1
          (Keyed.put name.key (.scalar origin scalar)
            (asTable (sections.lookup name.sectionName)).2)) sections) := by
  simp only [SettingName.path, overlayAt, SettingName.lowercase_sectionName,
    SettingName.lowercase_key, overlay]
  rfl

/-- A scalar at the end of the way to a setting replaces what a tree says about that setting. -/
theorem States.overlay_scalar (states : root.States content) (name : SettingName) (origin : Origin)
    (scalar : Scalar) :
    (overlayAt name.path (.scalar origin scalar) (some root)).States fun other =>
      if other = name then some (.scalar origin scalar) else content other := by
  obtain ⟨rootOrigin, sections, rfl, states⟩ := states
  obtain ⟨partOrigin, below, found, -⟩ := states name
  rw [overlayAt_path, found]
  refine ⟨rootOrigin, _, rfl, fun other => ?_⟩
  obtain ⟨otherOrigin, entries, otherFound, otherInside⟩ := states other
  rw [Keyed.lookup_put]
  by_cases same : other.sectionName = name.sectionName
  · rw [same, found] at otherFound
    obtain ⟨rfl, rfl⟩ : partOrigin = otherOrigin ∧ below = entries := by simpa using otherFound
    refine ⟨_, _, by rw [if_pos same], ?_⟩
    rw [asTable, Keyed.lookup_put, otherInside]
    exact if_congr ⟨SettingName.key_injective, congrArg _⟩ rfl rfl
  · refine ⟨otherOrigin, entries, by rw [if_neg same]; exact otherFound, ?_⟩
    exact otherInside.trans (if_neg fun equal => same (congrArg _ equal)).symm

end Setting

end BurstRelay

import BurstRelay.Proofs.Settings.OneByOne
import BurstRelay.Proofs.Settings.Spelling

/-!
# Texts from the environment

A variable gives its setting whatever the file is: the file can have given the whole section as a list,
and then the other settings of the section get their defaults. For a setting that is a text, what the
variable gives is the text as it is respelled. The same text in quotes in a file is taken as it is.
-/

namespace BurstRelay

/-! ## One variable over any file -/

theorem KeyStep.pathOfKey_starts_with_name (key : String) :
    ∃ name path, KeyStep.pathOfKey key = .name name :: path := by
  unfold pathOfKey
  rw [stepsOfText]
  split
  · exact ⟨key, [], rfl⟩
  · cases stepsOfText key.length (key.toList.drop (key.toList.takeWhile isNameLetter).length) with
    | none => exact ⟨key, [], rfl⟩
    | some path => exact ⟨_, path, rfl⟩

namespace Setting

/-- A table is a table whatever is laid over it. -/
theorem overlayLayer_eq_table (origin : Origin) (sections : Keyed Setting) (layer : Layer) :
    ∃ after sections', (Setting.table origin sections).overlayLayer layer = .table after sections' := by
  induction layer generalizing origin sections with
  | nil => exact ⟨origin, sections, rfl⟩
  | cons entry rest ih =>
    obtain ⟨key, setting⟩ := entry
    obtain ⟨name, path, steps⟩ := KeyStep.pathOfKey_starts_with_name key
    rw [overlayLayer_cons, steps]
    exact ih _ _

end Setting

namespace SettingName

variable (name other : SettingName) (origin rootOrigin : Origin) (scalar : Scalar)
  (sections : Keyed Setting)

/-- What a tree says when a scalar is put at the end of the way to a setting: of the other settings in
the section it says what it did if the section was a table, and else nothing. -/
theorem within?_overlayAt :
    other.within? (Setting.overlayAt name.path (.scalar origin scalar)
        (some (.table rootOrigin sections))) =
      if other = name then some (.scalar origin scalar)
      else if other.sectionName = name.sectionName then
        (Setting.asTable (sections.lookup name.sectionName)).2.lookup other.key
      else other.within? (.table rootOrigin sections) := by
  rw [Setting.overlayAt_path]
  simp only [within?, sectionOf?, Setting.item?_table, Keyed.lookup_put]
  by_cases same : other.sectionName = name.sectionName
  · rw [if_pos same, if_pos same, Option.bind_some, Setting.item?_table, Keyed.lookup_put]
    exact if_congr ⟨key_injective, congrArg _⟩ rfl rfl
  · rw [if_neg same, if_neg fun equal => same (congrArg _ equal), if_neg same]

/-- No section becomes a scalar by that. -/
theorem isSection_overlayAt
    (before : ∀ part ∈ other.sectionOf? (.table rootOrigin sections), part.IsSection) :
    ∀ part ∈ other.sectionOf? (Setting.overlayAt name.path (.scalar origin scalar)
      (some (.table rootOrigin sections))), part.IsSection := by
  intro part among
  rw [Setting.overlayAt_path, sectionOf?, Setting.item?_table, Keyed.lookup_put] at among
  split at among
  · obtain rfl := Option.mem_some_iff.mp among
    trivial
  · exact before part (by rwa [sectionOf?, Setting.item?_table])

/-- A section that is made a table gives its settings as it did, or if it was none their defaults. -/
theorem settle_asTable {part? : Option Setting} {value : name.Value}
    (before : name.settle (part?.bind (·.item? name.place name.key)) = .ok value) :
    ∃ result, name.settle ((Setting.asTable part?).2.lookup name.key) = .ok result := by
  cases part? with
  | none => exact ⟨_, rfl⟩
  | some part =>
    cases part with
    | table origin entries =>
      rw [Option.bind_some, Setting.item?_table] at before
      exact ⟨value, before⟩
    | list | scalar => exact ⟨_, rfl⟩

end SettingName

/-- A scalar at the end of the way to a setting does no harm to the others: where the section was a
list, they get their defaults. -/
theorem Settings.read_overlayAt {rootOrigin : Origin} {sections : Keyed Setting} {base : Settings}
    (reads : Settings.read (.table rootOrigin sections) = .ok base) (name : SettingName)
    {origin : Origin} {scalar : Scalar} {value : name.Value}
    (converts : name.convert (.scalar origin scalar) = .ok value) :
    ∃ settings,
      Settings.read (Setting.overlayAt name.path (.scalar origin scalar)
        (some (.table rootOrigin sections))) = .ok settings ∧ name.get settings = value := by
  obtain ⟨noScalars, settles⟩ := read_eq_ok.mp reads
  have each (other : SettingName) : ∃ result, other.settle (other.within?
      (Setting.overlayAt name.path (.scalar origin scalar) (some (.table rootOrigin sections)))) =
        .ok result := by
    rw [SettingName.within?_overlayAt]
    split
    next same => subst same; exact ⟨value, converts⟩
    next =>
      split
      next same =>
        have before := settles other
        rw [SettingName.within?, SettingName.sectionOf?, Setting.item?_table, same] at before
        exact SettingName.settle_asTable other before
      next => exact ⟨_, settles other⟩
  obtain ⟨settings, settled⟩ := exists_of_each each
  refine ⟨settings, read_eq_ok.mpr ⟨fun other => SettingName.isSection_overlayAt name other origin
    rootOrigin scalar sections (noScalars other), settled⟩, ?_⟩
  have here := settled name
  rw [SettingName.within?_overlayAt, if_pos rfl] at here
  exact Except.ok.inj (here.symm.trans converts)

theorem Environment.layer_append (before after : Variables) :
    layer (before ++ after) = layer before ++ layer after :=
  List.filterMap_append

theorem Environment.layer_of_unprefixed {environment : Variables}
    (unprefixed : ∀ entry ∈ environment, key? entry.1 = none) : layer environment = [] := by
  refine List.filterMap_eq_nil_iff.mpr fun entry among => ?_
  obtain ⟨spelling, text⟩ := entry
  simp only [unprefixed _ among, Option.map_none]

/-- The layer of an environment in which one variable gives a setting. -/
theorem Environment.layer_of_one {before after : Variables}
    (unprefixed : ∀ entry ∈ before ++ after, key? entry.1 = none) {name : SettingName}
    {spelling : String} (same : Text.lowercase spelling = name.variableName) (text : String) :
    layer (before ++ (spelling, text) :: after) =
      [(name.sectionName ++ "." ++ name.key, .scalar .environment (scalar text))] := by
  obtain ⟨noneBefore, noneAfter⟩ := List.append_eq_nil_iff.mp
    ((layer_append before after).symm.trans (layer_of_unprefixed unprefixed))
  rw [layer_append, layer_cons_of_key (SettingName.key?_of_variableName same), noneBefore, noneAfter,
    List.nil_append]

theorem Settings.ofLayers_of_unprefixed {environment : Environment.Variables}
    (unprefixed : ∀ entry ∈ environment, Environment.key? entry.1 = none) (layer : Layer) :
    ofLayers layer environment = Settings.read (({} : Settings).toSetting.overlayLayer layer) := by
  rw [ofLayers, Environment.layer_of_unprefixed unprefixed]
  rfl

/-! ## One setting in a file -/

namespace SettingName

/-- The entries of a file that gives one setting. -/
def alone (name : SettingName) (value : Toml) : List (String × Toml) :=
  [(name.sectionName, .table [(name.key, value)])]

theorem inFile?_alone (name other : SettingName) (value : Toml) :
    other.inFile? (name.alone value) = if other = name then some value else none := by
  by_cases same : name.sectionName = other.sectionName
  · have part : Keyed.spelled? other.sectionName (name.alone value) =
        some (.table [(name.key, value)]) := by
      rw [alone, Keyed.spelled?_cons, lowercase_sectionName, if_pos same]
    rw [inFile?_of_table part, Keyed.spelled?_cons, lowercase_key]
    exact if_congr ⟨fun equal => (key_injective equal).symm, fun equal => (congrArg _ equal).symm⟩
      rfl rfl
  · have part : Keyed.spelled? other.sectionName (name.alone value) = none := by
      rw [alone, Keyed.spelled?_cons, lowercase_sectionName, if_neg same]
      rfl
    rw [if_neg fun equal => same (congrArg _ equal.symm)]
    simp only [inFile?, part]

theorem sectionName_isName (name : SettingName) :
    name.sectionName ≠ "" ∧ name.sectionName.toList.all KeyStep.isNameLetter := by
  cases name <;> decide

theorem isPlain_alone (name : SettingName) {value : Toml} (apart : value.IsApart) :
    ConfigurationFile.IsPlain (name.alone value) where
  apart := .table (List.nodup_singleton _) (List.forall_mem_singleton.mpr
    (.table (List.nodup_singleton _) (List.forall_mem_singleton.mpr apart)))
  names := List.forall_mem_singleton.mpr name.sectionName_isName
  sections other found among := by
    obtain ⟨key, inside, -⟩ := Keyed.mem_of_spelled? among
    rw [alone, List.mem_singleton, Prod.mk.injEq] at inside
    exact ⟨_, inside.2⟩

end SettingName

/-- Over the defaults, a file that gives one setting gives just that. -/
theorem Settings.ofLayers_alone (name : SettingName) {value : Toml} (apart : value.IsApart)
    (filled : value.isBlank = false) (origin : Origin) {result : name.Value}
    (converts : name.convert (Setting.ofToml origin value) = .ok result) :
    ∃ settings, ofLayers (Setting.ofEntries origin (name.alone value)) [] = .ok settings ∧
      name.get settings = result := by
  have defined (other : SettingName) : other.defined? origin (name.alone value) [] =
      if other = name then some (Setting.ofToml origin value) else none := by
    rw [SettingName.defined?, SettingName.inFile?_alone]
    split
    · rw [Option.filter_some, filled]
      rfl
    · rfl
  have each (other : SettingName) :
      ∃ result, other.settle (other.defined? origin (name.alone value) []) = .ok result := by
    rw [defined]
    split
    next same => subst same; exact ⟨result, converts⟩
    next => exact ⟨_, rfl⟩
  obtain ⟨settings, settled⟩ := exists_of_each each
  have named : Environment.IsPlain [] := ⟨List.nodup_nil, List.forall_mem_nil _⟩
  refine ⟨settings, (ofLayers_eq_ok (name.isPlain_alone apart) origin named).mpr settled, ?_⟩
  have here := settled name
  rw [defined, if_pos rfl] at here
  exact Except.ok.inj (here.symm.trans converts)

/-! ## Settings that are texts -/

/-- The settings that are texts. -/
inductive TextSetting where
  | endpoint | identity | subscribe
  deriving DecidableEq, Repr

namespace TextSetting

def name : TextSetting → SettingName
  | endpoint => .endpoint
  | identity => .identity
  | subscribe => .subscribe

/-- The text of a setting; the identity need not have one. -/
def get (settings : Settings) : TextSetting → Option String
  | endpoint => some settings.relay.endpoint
  | identity => settings.relay.identity
  | subscribe => some settings.relay.subscribe

/-- Such a setting is converted by reading a text. -/
theorem convert_eq_ok (setting : TextSetting) (given : Setting) (text : String)
    (reads : given.readText = .ok text) :
    ∃ value, setting.name.convert given = .ok value ∧
      ∀ settings, setting.name.get settings = value → setting.get settings = some text := by
  cases setting with
  | endpoint => exact ⟨text, reads, fun _ same => congrArg some same⟩
  | subscribe => exact ⟨text, reads, fun _ same => congrArg some same⟩
  | identity =>
    refine ⟨some text, ?_, fun _ same => same⟩
    match given with
    | .scalar _ .absent => cases reads
    | .scalar _ (.boolean _) | .scalar _ (.integer _) | .scalar _ (.real _) | .scalar _ (.text _) =>
      exact congrArg (some <$> ·) reads
    | .list _ _ | .table _ _ => cases reads

end TextSetting

/-- Whatever the file is, a text from the environment becomes its respelling, so that it is taken as it
is exactly when it is its own spelling; a word is, and so is a whole number of sixty-four bits as it is
written. The same text in quotes in a file is always taken as it is. -/
theorem Settings.texts_of_variables_are_respelled {files : TextFiles} {file : Option String}
    (before after : Environment.Variables)
    (unprefixed : ∀ entry ∈ before ++ after, Environment.key? entry.1 = none) {base : Settings}
    (loads : (Settings.load files file (before ++ after)).value = .ok base) (setting : TextSetting)
    {spelling : String} (same : Text.lowercase spelling = setting.name.variableName)
    (text : String) :
    (∃ settings,
      (Settings.load files file (before ++ (spelling, text) :: after)).value = .ok settings ∧
        setting.get settings = some (Environment.respelled text) ∧
        (setting.get settings = some text ↔ Environment.IsOwnSpelling text)) ∧
    (Environment.IsWord text ∨ (∃ number : Int64, text = toString number.toInt) →
      Environment.IsOwnSpelling text) ∧
    ∀ {path : Option String} {origin : Origin},
      ConfigurationFile.States files path origin (setting.name.alone (.text text)) →
        ∃ settings, (Settings.load files path (before ++ after)).value = .ok settings ∧
          setting.get settings = some text := by
  refine ⟨?_, ?_, fun {path origin} states => ?_⟩
  · obtain ⟨layer, isLayer, reads⟩ := load_eq_ok.mp loads
    rw [ofLayers_of_unprefixed unprefixed] at reads
    obtain ⟨rootOrigin, sections, root⟩ := Setting.overlayLayer_eq_table _ _ layer
    obtain ⟨value, converts, isText⟩ :=
      setting.convert_eq_ok _ _ (Environment.readText_scalar .environment text)
    obtain ⟨settings, read, isValue⟩ := read_overlayAt (root ▸ reads) setting.name converts
    have is_respelled := isText settings isValue
    refine ⟨settings, load_eq_ok.mpr ⟨layer, isLayer, ?_⟩, is_respelled, ?_⟩
    · rw [ofLayers, Environment.layer_of_one unprefixed same, Setting.overlayLayer_cons,
        SettingName.pathOfKey_variable]
      exact root ▸ read
    · rw [is_respelled, Option.some_inj, Environment.respelled_eq_self_iff]
  · rintro (word | ⟨number, rfl⟩)
    · exact word.isOwnSpelling
    · exact Environment.isOwnSpelling_integer number
  · obtain ⟨value, converts, isText⟩ :=
      setting.convert_eq_ok (.scalar origin (.text text)) text rfl
    obtain ⟨settings, read, isValue⟩ :=
      ofLayers_alone setting.name (.text text) rfl origin converts
    refine ⟨settings, load_eq_ok.mpr ⟨_, states.layerOf, ?_⟩, isText settings isValue⟩
    rwa [ofLayers_of_unprefixed unprefixed, ← ofLayers_of_unprefixed (List.forall_mem_nil _)]

/-- The identity `1e3`, from a variable and from a file: only the file keeps it. -/
theorem Settings.identity_of_variable_is_respelled :
    let environment := [("Burst_Relay__Relay__Identity", "1e3")]
    let files := ConfigurationFile.single "[relay]\nidentity = '1e3'\n"
    (∃ settings, (Settings.load files none environment).value = .ok settings ∧
        settings.relay.identity = some "1000") ∧
      ∃ settings, (Settings.load files (some "relay.toml") []).value = .ok settings ∧
        settings.relay.identity = some "1e3" := by
  intro environment files
  have defaults : (Settings.load files none []).value = .ok {} :=
    load_eq_ok.mpr ⟨[], rfl, read_toSetting {}⟩
  have named : Text.lowercase "Burst_Relay__Relay__Identity" = SettingName.identity.variableName := by
    decide +kernel
  obtain ⟨⟨settings, loaded, given, -⟩, -, inFile⟩ := texts_of_variables_are_respelled
    [] [] (List.forall_mem_nil _) defaults .identity named "1e3"
  have states : ConfigurationFile.States files (some "relay.toml") (.file "relay.toml")
      (SettingName.identity.alone (.text "1e3")) :=
    .document (ConfigurationFile.find_single _) (by cbv)
  obtain ⟨others, fileLoaded, fileGiven⟩ := inFile states
  refine ⟨⟨settings, loaded, given.trans (congrArg some ?_)⟩, others, fileLoaded, fileGiven⟩
  decide +kernel

/-- A subscription to what starts with `007` becomes one to what starts with `7`. -/
theorem Settings.zeros_of_subscription_are_lost :
    (Settings.load (fun _ => none) none [("BURST_RELAY__RELAY__SUBSCRIBE", "007")]).value =
      .ok { relay := { subscribe := "7" } } := by
  decide +kernel

end BurstRelay

import BurstRelay.Proofs.Fallible
import BurstRelay.Settings.Load

/-!
# The settings one by one

There are ten settings, each with a name: the section it is in, its key there, the type it is read as
and how. What is read from a tree of settings is here taken apart into the ten: reading succeeds exactly
when no section is a scalar and every setting can be converted, and gives the ten conversions.
-/

namespace BurstRelay

/-- The settings of a relay. -/
inductive SettingName where
  | role | endpoint | identity | subscribe
  | format
  | initialCapacity | maxDeclaredSize
  | delayMs | ackSkipped | dummy
  deriving DecidableEq, Repr

namespace SettingName

/-- The section of a setting. -/
def sectionName : SettingName → String
  | role | endpoint | identity | subscribe => "relay"
  | format => "output"
  | initialCapacity | maxDeclaredSize => "decompression"
  | delayMs | ackSkipped | dummy => "acknowledgment"

/-- Where the section of a setting is, if the sections are given as a list. -/
def sectionPlace : SettingName → Nat
  | role | endpoint | identity | subscribe => 0
  | format => 1
  | initialCapacity | maxDeclaredSize => 2
  | delayMs | ackSkipped | dummy => 3

/-- The key of a setting in its section. -/
def key : SettingName → String
  | role => "role"
  | endpoint => "endpoint"
  | identity => "identity"
  | subscribe => "subscribe"
  | format => "format"
  | initialCapacity => "initial_capacity"
  | maxDeclaredSize => "max_declared_size"
  | delayMs => "delay_ms"
  | ackSkipped => "ack_skipped"
  | dummy => "dummy"

/-- Where a setting is in its section, if that is given as a list. -/
def place : SettingName → Nat
  | role | format | initialCapacity | delayMs => 0
  | endpoint | maxDeclaredSize | ackSkipped => 1
  | identity | dummy => 2
  | subscribe => 3

/-- What a setting is read as. -/
abbrev Value : SettingName → Type
  | role => Role
  | endpoint | subscribe => String
  | identity => Option String
  | format => OutputMode
  | initialCapacity | delayMs => UInt64
  | maxDeclaredSize => UInt32
  | ackSkipped | dummy => Bool

/-- The value of a setting. -/
def get (settings : Settings) : (name : SettingName) → name.Value
  | role => settings.relay.role
  | endpoint => settings.relay.endpoint
  | identity => settings.relay.identity
  | subscribe => settings.relay.subscribe
  | format => settings.output.format
  | initialCapacity => settings.decompression.initialCapacity
  | maxDeclaredSize => settings.decompression.maxDeclaredSize
  | delayMs => settings.acknowledgment.delayMs
  | ackSkipped => settings.acknowledgment.ackSkipped
  | dummy => settings.acknowledgment.dummy

/-- Converts what a layer says about a setting to the type of the setting. -/
def convert : (name : SettingName) → Setting → ReadAs name.Value
  | role => Setting.readName "ConnectionRole" Role.names
  | endpoint | subscribe => Setting.readText
  | identity => Setting.readOptionalText
  | format => Setting.readName "OutputMode" OutputMode.names
  | initialCapacity | delayMs => Setting.readWord64
  | maxDeclaredSize => Setting.readWord32
  | ackSkipped | dummy => Setting.readBoolean

theorem key_injective {name other : SettingName} (same : name.key = other.key) : name = other := by
  cases name <;> cases other <;> first | rfl | simp [key] at same

theorem forall_iff {p : SettingName → Prop} :
    (∀ name, p name) ↔
      (p role ∧ p endpoint ∧ p identity ∧ p subscribe) ∧ p format ∧
        (p initialCapacity ∧ p maxDeclaredSize) ∧ p delayMs ∧ p ackSkipped ∧ p dummy :=
  ⟨fun all => ⟨⟨all _, all _, all _, all _⟩, all _, ⟨all _, all _⟩, all _, all _, all _⟩,
    fun ⟨⟨h₁, h₂, h₃, h₄⟩, h₅, ⟨h₆, h₇⟩, h₈, h₉, h₁₀⟩ name => by cases name <;> assumption⟩

end SettingName

namespace Settings

/-- The settings that have some values. -/
def ofValues (values : (name : SettingName) → name.Value) : Settings where
  relay :=
    { role := values .role, endpoint := values .endpoint, identity := values .identity
      subscribe := values .subscribe }
  output := { format := values .format }
  decompression :=
    { initialCapacity := values .initialCapacity, maxDeclaredSize := values .maxDeclaredSize }
  acknowledgment :=
    { delayMs := values .delayMs, ackSkipped := values .ackSkipped, dummy := values .dummy }

@[simp] theorem get_ofValues (values : (name : SettingName) → name.Value) (name : SettingName) :
    name.get (ofValues values) = values name := by
  cases name <;> rfl

/-- Settings can be put together from a value for each. -/
theorem exists_of_each {p : (name : SettingName) → name.Value → Prop}
    (each : ∀ name, ∃ value, p name value) : ∃ settings, ∀ name, p name (name.get settings) := by
  refine ⟨ofValues fun name => (each name).choose, fun name => ?_⟩
  rw [get_ofValues]
  exact (each name).choose_spec

end Settings

/-! ## Reading one setting -/

namespace Setting

/-- What a section says about one of its keys, if it has it. -/
def item? (setting : Setting) (position : Nat) (key : String) : Option Setting :=
  (setting.part? position key).map Prod.snd

@[simp] theorem item?_table (origin : Origin) (entries : Keyed Setting) (position : Nat)
    (key : String) : (Setting.table origin entries).item? position key = entries.lookup key := by
  simp [item?, part?, Function.comp_def]

/-- Whether a setting can be a section. -/
def IsSection : Setting → Prop
  | .scalar _ _ => False
  | _ => True

/-- Reads a setting, or takes the default if it is not there. -/
def readOr {α : Type} (default : α) (read : Setting → ReadAs α) : Option Setting → ReadAs α
  | some setting => read setting
  | none => .ok default

theorem readPart_eq_ok {α : Type} {setting : Setting} {position : Nat} {key : String} {default : α}
    {read : Setting → ReadAs α} {value : α} :
    setting.readPart position key default read = .ok value ↔
      readOr default read (setting.item? position key) = .ok value := by
  unfold readPart item?
  cases setting.part? position key with
  | none => rfl
  | some part => exact Fallible.mapError_eq_ok

theorem checkSection_eq_ok {setting : Setting} {name : String} {value : Unit} :
    setting.checkSection name = .ok value ↔ setting.IsSection := by
  cases setting <;> simp [checkSection, IsSection]

end Setting

namespace SettingName

/-- What a tree of settings says about the whole section of a setting, if it says anything. -/
def sectionOf? (name : SettingName) (root : Setting) : Option Setting :=
  root.item? name.sectionPlace name.sectionName

/-- What a tree of settings says about a setting, if it says anything. -/
def within? (name : SettingName) (root : Setting) : Option Setting :=
  (name.sectionOf? root).bind (·.item? name.place name.key)

/-- The value that a setting gets from what is said about it: the default if nothing is. -/
def settle (name : SettingName) : Option Setting → ReadAs name.Value :=
  Setting.readOr (name.get {}) name.convert

end SettingName

/-! ## Reading sections -/

namespace SettingName

/-! A section that is not there is read as its defaults, which is what each of its settings gets then. -/

variable {part? : Option Setting}

theorem relay_eq_ok {result : RelaySection} :
    Setting.readOr {} RelaySection.read part? = .ok result ↔
      (∀ part ∈ part?, part.IsSection) ∧
        role.settle (part?.bind (·.item? 0 "role")) = .ok result.role ∧
        endpoint.settle (part?.bind (·.item? 1 "endpoint")) = .ok result.endpoint ∧
        identity.settle (part?.bind (·.item? 2 "identity")) = .ok result.identity ∧
        subscribe.settle (part?.bind (·.item? 3 "subscribe")) = .ok result.subscribe := by
  cases part? with
  | none =>
    obtain ⟨role, endpoint, identity, subscribe⟩ := result
    simp [Setting.readOr, settle, SettingName.get]
  | some part =>
    simp only [Setting.readOr, RelaySection.read, Fallible.bind_eq_ok, Fallible.pure_eq_ok,
      Setting.readPart_eq_ok, Setting.checkSection_eq_ok, Option.mem_some_iff, forall_eq',
      Option.bind_some]
    constructor
    · rintro ⟨-, checked, _, role, _, endpoint, _, identity, _, subscribe, rfl⟩
      exact ⟨checked, role, endpoint, identity, subscribe⟩
    · rintro ⟨checked, role, endpoint, identity, subscribe⟩
      exact ⟨(), checked, _, role, _, endpoint, _, identity, _, subscribe, rfl⟩

theorem output_eq_ok {result : OutputSection} :
    Setting.readOr {} OutputSection.read part? = .ok result ↔
      (∀ part ∈ part?, part.IsSection) ∧
        format.settle (part?.bind (·.item? 0 "format")) = .ok result.format := by
  cases part? with
  | none =>
    obtain ⟨format⟩ := result
    simp [Setting.readOr, settle, SettingName.get]
  | some part =>
    simp only [Setting.readOr, OutputSection.read, Fallible.bind_eq_ok, Fallible.pure_eq_ok,
      Setting.readPart_eq_ok, Setting.checkSection_eq_ok, Option.mem_some_iff, forall_eq',
      Option.bind_some]
    constructor
    · rintro ⟨-, checked, _, format, rfl⟩
      exact ⟨checked, format⟩
    · rintro ⟨checked, format⟩
      exact ⟨(), checked, _, format, rfl⟩

theorem decompression_eq_ok {result : DecompressionSection} :
    Setting.readOr {} DecompressionSection.read part? = .ok result ↔
      (∀ part ∈ part?, part.IsSection) ∧
        initialCapacity.settle (part?.bind (·.item? 0 "initial_capacity")) =
          .ok result.initialCapacity ∧
        maxDeclaredSize.settle (part?.bind (·.item? 1 "max_declared_size")) =
          .ok result.maxDeclaredSize := by
  cases part? with
  | none =>
    obtain ⟨capacity, size⟩ := result
    simp [Setting.readOr, settle, SettingName.get]
  | some part =>
    simp only [Setting.readOr, DecompressionSection.read, Fallible.bind_eq_ok, Fallible.pure_eq_ok,
      Setting.readPart_eq_ok, Setting.checkSection_eq_ok, Option.mem_some_iff, forall_eq',
      Option.bind_some]
    constructor
    · rintro ⟨-, checked, _, capacity, _, size, rfl⟩
      exact ⟨checked, capacity, size⟩
    · rintro ⟨checked, capacity, size⟩
      exact ⟨(), checked, _, capacity, _, size, rfl⟩

theorem acknowledgment_eq_ok {result : AcknowledgmentSection} :
    Setting.readOr {} AcknowledgmentSection.read part? = .ok result ↔
      (∀ part ∈ part?, part.IsSection) ∧
        delayMs.settle (part?.bind (·.item? 0 "delay_ms")) = .ok result.delayMs ∧
        ackSkipped.settle (part?.bind (·.item? 1 "ack_skipped")) = .ok result.ackSkipped ∧
        dummy.settle (part?.bind (·.item? 2 "dummy")) = .ok result.dummy := by
  cases part? with
  | none =>
    obtain ⟨delay, skipped, dummy⟩ := result
    simp [Setting.readOr, settle, SettingName.get]
  | some part =>
    simp only [Setting.readOr, AcknowledgmentSection.read, Fallible.bind_eq_ok, Fallible.pure_eq_ok,
      Setting.readPart_eq_ok, Setting.checkSection_eq_ok, Option.mem_some_iff, forall_eq',
      Option.bind_some]
    constructor
    · rintro ⟨-, checked, _, delay, _, skipped, _, dummy, rfl⟩
      exact ⟨checked, delay, skipped, dummy⟩
    · rintro ⟨checked, delay, skipped, dummy⟩
      exact ⟨(), checked, _, delay, _, skipped, _, dummy, rfl⟩

end SettingName

/-! ## Reading a tree -/

/-- Reading succeeds exactly when no section is a scalar and every setting has a value, and gives
those values. -/
theorem Settings.read_eq_ok {root : Setting} {settings : Settings} :
    Settings.read root = .ok settings ↔
      (∀ name : SettingName, ∀ part ∈ name.sectionOf? root, part.IsSection) ∧
        ∀ name : SettingName, name.settle (name.within? root) = .ok (name.get settings) := by
  simp only [Settings.read, Fallible.bind_eq_ok, Fallible.pure_eq_ok, Setting.readPart_eq_ok,
    SettingName.relay_eq_ok, SettingName.output_eq_ok, SettingName.decompression_eq_ok,
    SettingName.acknowledgment_eq_ok, SettingName.forall_iff]
  constructor
  · rintro ⟨_, ⟨relay, h₁, h₂, h₃, h₄⟩, _, ⟨output, h₅⟩, _, ⟨decompression, h₆, h₇⟩, _,
      ⟨acknowledgment, h₈, h₉, h₁₀⟩, rfl⟩
    exact ⟨⟨⟨relay, relay, relay, relay⟩, output, ⟨decompression, decompression⟩, acknowledgment,
      acknowledgment, acknowledgment⟩, ⟨h₁, h₂, h₃, h₄⟩, h₅, ⟨h₆, h₇⟩, h₈, h₉, h₁₀⟩
  · rintro ⟨⟨⟨relay, -⟩, output, ⟨decompression, -⟩, acknowledgment, -⟩, ⟨h₁, h₂, h₃, h₄⟩, h₅,
      ⟨h₆, h₇⟩, h₈, h₉, h₁₀⟩
    exact ⟨_, ⟨relay, h₁, h₂, h₃, h₄⟩, _, ⟨output, h₅⟩, _, ⟨decompression, h₆, h₇⟩, _,
      ⟨acknowledgment, h₈, h₉, h₁₀⟩, rfl⟩

end BurstRelay

import BurstRelay.Proofs.Text.Case
import BurstRelay.Proofs.Text.Lines
import BurstRelay.Settings.Environment
import BurstRelay.Settings.Reading

/-!
# How values are spelled

The text of a variable is first taken for what it looks like, and turned back into a text where a
setting is one. That gives the text as it was only if its value is spelled that way: `007` comes back as
`7`, and `TRUE` as `true`. Words are spelled that way, and so are whole numbers as they are written.
-/

namespace BurstRelay.Environment

/-! ## What a text is taken for -/

/-- Whether a text is no truth value in any case. -/
def IsNoTruth (text : String) : Prop := ∀ value : Bool, Text.lowercase text ≠ toString value

/-- A text is taken for a truth value, or else for a whole number, or else for a number, or else for
itself. -/
theorem scalar_cases (text : String) :
    (∃ value : Bool, Text.lowercase text = toString value ∧ scalar text = .boolean value) ∨
      IsNoTruth text ∧
        ((∃ number, Numeral.integer64? text.toList = some number ∧ scalar text = .integer number) ∨
          Numeral.integer64? text.toList = none ∧
            ((∃ number, Numeral.real? text.toList = some number ∧ scalar text = .real number) ∨
              Numeral.real? text.toList = none ∧ scalar text = .text text)) := by
  by_cases isTrue : Text.lowercase text = "true"
  · exact .inl ⟨true, isTrue, by simp [scalar, isTrue]⟩
  by_cases isFalse : Text.lowercase text = "false"
  · exact .inl ⟨false, isFalse, by simp [scalar, isFalse]⟩
  refine .inr ⟨fun value => by cases value <;> assumption, ?_⟩
  cases whole : Numeral.integer64? text.toList with
  | some number => exact .inl ⟨number, rfl, by simp [scalar, isTrue, isFalse, whole]⟩
  | none =>
    refine .inr ⟨rfl, ?_⟩
    cases real : Numeral.real? text.toList with
    | some number => exact .inl ⟨number, rfl, by simp [scalar, isTrue, isFalse, whole, real]⟩
    | none => exact .inr ⟨rfl, by simp [scalar, isTrue, isFalse, whole, real]⟩

/-! ## What it comes back as -/

/-- The text that the text of a variable comes back as. -/
def respelled (text : String) : String :=
  match scalar text with
  | .boolean value => toString value
  | .integer value => toString value
  | .real value => String.ofList (Decimal.Layout.setting.text value)
  | .text value => value
  | .absent => ""

theorem readText_scalar (origin : Origin) (text : String) :
    Setting.readText (.scalar origin (scalar text)) = .ok (respelled text) := by
  unfold respelled
  obtain ⟨_, -, taken⟩ | ⟨-, ⟨_, -, taken⟩ | ⟨-, ⟨_, -, taken⟩ | ⟨-, taken⟩⟩⟩ := scalar_cases text <;>
    rw [taken] <;> rfl

/-- Whether a text is spelled as its value is: a truth value in lower case, a number with no more than
its digits. -/
structure IsOwnSpelling (text : String) : Prop where
  truth : ∀ value : Bool, Text.lowercase text = toString value → text = toString value
  whole : ∀ number, Numeral.integer64? text.toList = some number → text = toString number
  real : ∀ number, Numeral.integer64? text.toList = none →
    Numeral.real? text.toList = some number →
      text = String.ofList (Decimal.Layout.setting.text number)

theorem isOwnSpelling_iff_of_whole {text : String} (noTruth : IsNoTruth text) {number : Int}
    (whole : Numeral.integer64? text.toList = some number) :
    IsOwnSpelling text ↔ text = toString number := by
  refine ⟨fun own => own.whole number whole, fun same =>
    ⟨fun value truth => absurd truth (noTruth value), fun other found => ?_, fun _ noWhole => ?_⟩⟩
  · cases found.symm.trans whole
    exact same
  · cases noWhole.symm.trans whole

theorem isOwnSpelling_iff_of_real {text : String} (noTruth : IsNoTruth text)
    (noWhole : Numeral.integer64? text.toList = none) {number : Binary64}
    (real : Numeral.real? text.toList = some number) :
    IsOwnSpelling text ↔ text = String.ofList (Decimal.Layout.setting.text number) := by
  refine ⟨fun own => own.real number noWhole real, fun same =>
    ⟨fun value truth => absurd truth (noTruth value), fun other found => ?_, fun other _ found => ?_⟩⟩
  · cases found.symm.trans noWhole
  · cases found.symm.trans real
    exact same

theorem isOwnSpelling_of_neither {text : String}
    (truth : ∀ value : Bool, Text.lowercase text = toString value → text = toString value)
    (noWhole : Numeral.integer64? text.toList = none) (noReal : Numeral.real? text.toList = none) :
    IsOwnSpelling text := by
  refine ⟨truth, fun other found => ?_, fun other _ found => ?_⟩
  · cases found.symm.trans noWhole
  · cases found.symm.trans noReal

theorem isOwnSpelling_truth (value : Bool) : IsOwnSpelling (toString value) :=
  isOwnSpelling_of_neither (by cases value <;> decide +kernel) (by cases value <;> decide +kernel)
    (by cases value <;> decide +kernel)

/-- Just such texts come back as they were. -/
theorem respelled_eq_self_iff {text : String} : respelled text = text ↔ IsOwnSpelling text := by
  unfold respelled
  obtain ⟨value, truth, taken⟩ |
    ⟨noTruth, ⟨number, whole, taken⟩ | ⟨noWhole, ⟨number, real, taken⟩ | ⟨noReal, taken⟩⟩⟩ :=
    scalar_cases text
  · rw [taken]
    refine ⟨fun same => ?_, fun own => (own.truth value truth).symm⟩
    rw [← show toString value = text from same]
    exact isOwnSpelling_truth value
  · rw [taken, isOwnSpelling_iff_of_whole noTruth whole]
    exact eq_comm
  · rw [taken, isOwnSpelling_iff_of_real noTruth noWhole real]
    exact eq_comm
  · rw [taken]
    exact iff_of_true rfl (isOwnSpelling_of_neither
      (fun value truth => absurd truth (noTruth value)) noWhole noReal)

/-! ## Texts that are their own spelling -/

theorem digits?_toDigits (number : Nat) :
    Numeral.digits? (Nat.toDigits 10 number) = some number := by
  have all : (Nat.toDigits 10 number).all Numeral.isDigit :=
    List.all_eq_true.mpr fun _ among =>
      (Nat.isDigit_of_mem_toDigits (by decide) (by decide) among :)
  rw [Numeral.digits?, if_pos ⟨Nat.toDigits_ne_nil, all⟩]
  exact congrArg some (Nat.ofDigitChars_toDigits (by decide) (by decide))

theorem isDigit_of_toDigits {number : Nat} {first : Char} {rest : List Char}
    (letters : Nat.toDigits 10 number = first :: rest) : first.isDigit :=
  Nat.isDigit_of_mem_toDigits (by decide) (by decide)
    (letters ▸ List.mem_cons_self .. : first ∈ Nat.toDigits 10 number)

theorem integer?_toString (number : Int) :
    Numeral.integer? (toString number).toList = some number := by
  cases number with
  | ofNat number =>
    rw [Text.toList_toString_ofNat]
    unfold Numeral.integer?
    split
    next rest same => exact absurd (isDigit_of_toDigits same) (by decide)
    next rest same => exact absurd (isDigit_of_toDigits same) (by decide)
    next => rw [digits?_toDigits, Option.map_some]
  | negSucc number =>
    rw [Text.toList_toString_negSucc]
    simp only [Numeral.integer?, digits?_toDigits]
    rfl

/-- A text that does not start with a letter is no truth value. -/
theorem isNoTruth_of_head {text : String} {first : Char} {rest : List Char}
    (letters : text.toList = first :: rest) (before : first.toNat < 0x41) : IsNoTruth text := by
  intro value same
  have same := congrArg String.toList same
  have noSigma : first ≠ 'Σ' := fun same => absurd before (by rw [same]; decide)
  have noDot : first ≠ 'İ' := fun same => absurd before (by rw [same]; decide)
  rw [Text.lowercase, String.toList_ofList, letters, Text.lowerAfter, if_neg noSigma, if_neg noDot]
    at same
  have lowered : (Text.lower first).toNat = first.toNat := by
    rw [Text.lower, if_pos (by omega), Text.toNat_toLower, if_neg (by omega)]
  cases value with
  | false =>
    rw [show Text.lower first = 'f' from (List.cons.inj same).1] at lowered
    exact absurd before (by rw [← lowered]; decide)
  | true =>
    rw [show Text.lower first = 't' from (List.cons.inj same).1] at lowered
    exact absurd before (by rw [← lowered]; decide)

/-- The digits of a number are no letters, and neither is its sign. -/
theorem isNoTruth_toString (number : Int) : IsNoTruth (toString number) := by
  cases number with
  | ofNat number =>
    cases letters : Nat.toDigits 10 number with
    | nil => exact absurd letters Nat.toDigits_ne_nil
    | cons first rest =>
      refine isNoTruth_of_head ((Text.toList_toString_ofNat number).trans letters) ?_
      have digit := isDigit_of_toDigits letters
      simp only [Char.isDigit, Bool.and_eq_true, decide_eq_true_eq] at digit
      exact Nat.lt_of_le_of_lt (UInt32.le_iff_toNat_le.mp digit.2) (by decide)
  | negSucc number => exact isNoTruth_of_head (Text.toList_toString_negSucc number) (by decide)

/-- A whole number of sixty-four bits is spelled by its digits. -/
theorem isOwnSpelling_integer (number : Int64) : IsOwnSpelling (toString number.toInt) := by
  have whole : Numeral.integer64? (toString number.toInt).toList = some number.toInt := by
    rw [Numeral.integer64?, integer?_toString, Option.filter_some,
      if_pos (decide_eq_true ⟨number.minValue_le_toInt, number.toInt_le⟩)]
  exact (isOwnSpelling_iff_of_whole (isNoTruth_toString _) whole).mpr rfl

/-- Whether a numeral can start with a letter. -/
def startsNumeral (letter : Char) : Bool := Numeral.isDigit letter || letter ∈ ['+', '-', '.']

theorem integer?_of_word {text : List Char}
    (word : ∀ first ∈ text.head?, ¬ startsNumeral first) : Numeral.integer? text = none := by
  unfold Numeral.integer?
  split
  next => exact absurd rfl (word '+' rfl)
  next => exact absurd rfl (word '-' rfl)
  next =>
    cases text with
    | nil => rfl
    | cons first rest =>
      have noDigit : Numeral.isDigit first = false := by
        have := word first rfl
        simp only [startsNumeral, Bool.or_eq_true, not_or, Bool.not_eq_true] at this
        exact this.1
      simp [Numeral.digits?, noDigit]

theorem decimal?_of_word {text : List Char} (negative : Bool)
    (word : ∀ first ∈ text.head?, ¬ startsNumeral first) :
    Numeral.decimal? negative text = none := by
  cases text with
  | nil => rfl
  | cons first rest =>
    have other := word first rfl
    simp only [startsNumeral, Bool.or_eq_true, not_or, Bool.not_eq_true, decide_eq_true_eq] at other
    have noPoint : first ≠ '.' := fun same => other.2 (by simp [same])
    simp [Numeral.decimal?, other.1, noPoint]

/-- Whether a text is a word: it starts like no numeral, and is neither a truth value nor the name of a
number. -/
structure IsWord (text : String) : Prop where
  start : ∀ first ∈ text.toList.head?, ¬ startsNumeral first
  noTruth : IsNoTruth text
  unnamed : String.ofList (text.toList.map Char.toLower) ∉ ["inf", "infinity", "nan"]

/-- A word is its own spelling. -/
theorem IsWord.isOwnSpelling {text : String} (word : IsWord text) : IsOwnSpelling text := by
  have noWhole : Numeral.integer64? text.toList = none := by
    rw [Numeral.integer64?, integer?_of_word word.start]
    rfl
  have noReal : Numeral.real? text.toList = none := by
    unfold Numeral.real?
    split
    next same => exact absurd rfl (word.start '-' (by rw [same]; rfl))
    next same => exact absurd rfl (word.start '+' (by rw [same]; rfl))
    next =>
      have unnamed := word.unnamed
      simp only [List.mem_cons, List.not_mem_nil, or_false, not_or] at unnamed
      rw [decimal?_of_word false word.start]
      simp [Numeral.named?, unnamed]
  exact isOwnSpelling_of_neither (fun value truth => absurd truth (word.noTruth value)) noWhole noReal

end BurstRelay.Environment

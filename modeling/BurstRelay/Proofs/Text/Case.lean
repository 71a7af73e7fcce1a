import BurstRelay.Text.Case

/-!
# Names in lower case

Names of settings are compared in lower case, and some of them pass through the lower case twice.
That makes no difference to a name of plain letters: what has it for its lower case has no letter left
that would move again. The ranges of letters with a lower case need to be looked at for that only once,
for where they lead: none but the first leads to plain letters, apart from the sign for kelvin.
-/

namespace BurstRelay.Text

/-- Whether a letter is one that the names of settings are made of. -/
def isPlain (letter : Char) : Bool := ('a' ≤ letter && letter ≤ 'z') || letter = '_'

/-- The sign for kelvin, the one letter beyond the first 128 whose lower case is among them. -/
def kelvin : Nat := 0x212A

/-- Whether a letter stays what it is wherever its lower case would be a plain letter. -/
def IsSettled (letter : Char) : Prop :=
  ¬ (0x41 ≤ letter.toNat ∧ letter.toNat ≤ 0x5A) ∧ letter.toNat ≠ kelvin

instance (letter : Char) : Decidable (IsSettled letter) := inferInstanceAs (Decidable (_ ∧ _))

/-! ## Single letters -/

/-- Whether the letters of a range lie where nothing needs to be known about them: among the first 128,
or on the sign for kelvin, or else they lead to other letters than those. -/
def CaseRange.isDistant (range : CaseRange) : Bool :=
  range.last < 0x80 || (range.first = kelvin && range.last = kelvin) ||
    (0x80 ≤ (range.first : Int) + range.distance &&
      ((range.last : Int) + range.distance < kelvin || (kelvin : Int) < range.first + range.distance))

theorem caseRanges_distant : ∀ range ∈ caseRanges, range.isDistant := by
  have all : caseRanges.all CaseRange.isDistant := by decide +kernel
  exact Array.all_eq_true_iff_forall_mem.mp all

/-- A letter beyond the first 128 moves to another such letter. -/
theorem caseDistance_distant {code : Nat} {distance : Int}
    (moves : caseDistance? code = some distance) (beyond : 0x80 ≤ code) (other : code ≠ kelvin) :
    0x80 ≤ (code : Int) + distance ∧ (code : Int) + distance ≠ kelvin := by
  obtain ⟨range, found, rfl⟩ := Option.map_eq_some_iff.mp moves
  have inside := Array.find?_some found
  have distant := caseRanges_distant range (Array.mem_of_find?_eq_some found)
  simp only [Bool.and_eq_true, decide_eq_true_eq, CaseRange.isDistant, Bool.or_eq_true] at inside distant
  omega

theorem toNat_ofNat (code : Nat) : (Char.ofNat code).toNat = code ∨ (Char.ofNat code).toNat = 0 := by
  unfold Char.ofNat
  by_cases valid : code.isValidChar
  · rw [dif_pos valid]
    exact .inl rfl
  · rw [dif_neg valid]
    exact .inr rfl

theorem isPlain_iff {letter : Char} :
    isPlain letter ↔ 0x61 ≤ letter.toNat ∧ letter.toNat ≤ 0x7A ∨ letter.toNat = 0x5F := by
  have same : letter = '_' ↔ letter.toNat = 0x5F :=
    ⟨fun same => by rw [same]; rfl, fun same => Char.toNat_inj.mp same⟩
  simp only [isPlain, Bool.or_eq_true, Bool.and_eq_true, decide_eq_true_eq, same]
  rfl

/-- Where the lower case of a letter beyond the first 128 is not the letter itself, it is no plain
letter and no letter that moves to one. -/
theorem lower_distant {letter : Char} (beyond : 0x80 ≤ letter.toNat) (other : letter.toNat ≠ kelvin) :
    ¬ isPlain (lower letter) ∧ IsSettled (lower letter) := by
  rw [isPlain_iff]
  unfold IsSettled lower
  rw [if_neg (by omega)]
  cases moves : caseDistance? letter.toNat with
  | none => simp only; omega
  | some distance =>
    obtain ⟨far, away⟩ := caseDistance_distant moves beyond other
    rcases toNat_ofNat ((letter.toNat : Int) + distance).toNat with at_it | at_zero
    · simp only [at_it]
      omega
    · simp only [at_zero]
      decide

theorem toNat_toLower (letter : Char) :
    letter.toLower.toNat =
      if 0x41 ≤ letter.toNat ∧ letter.toNat ≤ 0x5A then letter.toNat + 32 else letter.toNat := by
  have capital : letter.val ≥ 'A'.val ∧ letter.val ≤ 'Z'.val ↔
      0x41 ≤ letter.toNat ∧ letter.toNat ≤ 0x5A := Iff.rfl
  have shift : ('a'.val - 'A'.val).toNat = 32 := rfl
  unfold Char.toLower
  split
  next upper =>
    have bounds := capital.mp upper
    rw [if_pos bounds]
    simp only [Char.toNat] at bounds ⊢
    rw [UInt32.toNat_add, shift]
    omega
  next lower => rw [if_neg (mt capital.mpr lower)]

/-- A lower case is settled. -/
theorem lower_settled (letter : Char) : IsSettled (lower letter) := by
  by_cases beyond : 0x80 ≤ letter.toNat
  · by_cases other : letter.toNat = kelvin
    · obtain rfl : letter = '\u212A' := Char.toNat_inj.mp other
      decide +kernel
    · exact (lower_distant beyond other).2
  · rw [IsSettled, lower, if_pos (by omega), toNat_toLower]
    split <;> simp only [kelvin] <;> omega

/-- A settled letter that becomes a plain one is that letter already. -/
theorem lower_eq_self {letter : Char} (settled : IsSettled letter) (plain : isPlain (lower letter)) :
    lower letter = letter := by
  by_cases beyond : 0x80 ≤ letter.toNat
  · exact absurd plain (lower_distant beyond settled.2).1
  · rw [lower, if_pos (by omega)]
    apply Char.toNat_inj.mp
    rw [toNat_toLower, if_neg settled.1]

/-! ## Texts -/

/-- A lower case has settled letters only. -/
theorem lowerAfter_settled (before text : List Char) :
    ∀ letter ∈ lowerAfter before text, IsSettled letter := by
  induction text generalizing before with
  | nil => simp [lowerAfter]
  | cons first rest ih =>
    intro letter among
    simp only [lowerAfter, List.mem_append] at among
    rcases among with among | among
    · split at among
      · split at among <;> (obtain rfl := List.mem_singleton.mp among; decide)
      · split at among
        · simp only [List.mem_cons, List.not_mem_nil, or_false] at among
          rcases among with rfl | rfl <;> decide
        · obtain rfl := List.mem_singleton.mp among
          exact lower_settled first
    · exact ih _ letter among

/-- A text of settled letters whose lower case has plain letters only is its own lower case. -/
theorem lowerAfter_eq_self {text : List Char} (settled : ∀ letter ∈ text, IsSettled letter)
    (before : List Char) (plain : ∀ letter ∈ lowerAfter before text, isPlain letter) :
    lowerAfter before text = text := by
  induction text generalizing before with
  | nil => rfl
  | cons first rest ih =>
    have tail := ih (fun letter among => settled letter (List.mem_cons_of_mem _ among)) (first :: before)
      fun letter among => plain letter (by simp only [lowerAfter]; exact List.mem_append_right _ among)
    have head : ∀ letter ∈ (if first = 'Σ' then
          if startsCased before && !startsCased rest then ['ς'] else ['σ']
        else if first = 'İ' then ['i', '\u0307'] else [lower first]), isPlain letter :=
      fun letter among => plain letter (List.mem_append_left _ among)
    simp only [lowerAfter]
    split at head
    · split at head <;> exact absurd (head _ (List.mem_singleton_self _)) (by decide)
    · split at head
      · exact absurd (head '\u0307' (by simp)) (by decide)
      · rename_i noSigma noDot
        rw [if_neg noSigma, if_neg noDot, tail,
          lower_eq_self (settled first (List.mem_cons_self ..)) (head _ (List.mem_singleton_self _))]
        rfl

theorem lower_of_isPlain {letter : Char} (plain : isPlain letter) : lower letter = letter := by
  have small := isPlain_iff.mp plain
  rw [lower, if_pos (by omega)]
  apply Char.toNat_inj.mp
  rw [toNat_toLower, if_neg (by omega)]

theorem lowerAfter_of_isPlain {text : List Char} (plain : ∀ letter ∈ text, isPlain letter)
    (before : List Char) : lowerAfter before text = text := by
  induction text generalizing before with
  | nil => rfl
  | cons first rest ih =>
    have head := plain first (List.mem_cons_self ..)
    have noSigma : first ≠ 'Σ' := fun same => absurd head (by rw [same]; decide)
    have noDot : first ≠ 'İ' := fun same => absurd head (by rw [same]; decide)
    simp only [lowerAfter, if_neg noSigma, if_neg noDot, lower_of_isPlain head,
      ih fun letter among => plain letter (List.mem_cons_of_mem _ among), List.cons_append,
      List.nil_append]

/-- A name of plain letters is in lower case. -/
theorem lowercase_of_isPlain {name : String} (plain : name.toList.all isPlain) :
    lowercase name = name := by
  rw [lowercase, lowerAfter_of_isPlain (List.all_eq_true.mp plain), String.ofList_toList]

/-- The lower case of a lower case is a plain name only if the lower case is. -/
theorem lowercase_lowercase_eq_iff {name : String} (plain : name.toList.all isPlain) (text : String) :
    lowercase (lowercase text) = name ↔ lowercase text = name := by
  refine ⟨fun twice => ?_, fun once => by rw [once, lowercase_of_isPlain plain]⟩
  have letters : lowerAfter [] (lowercase text).toList = name.toList := by
    rw [← twice]
    exact String.toList_ofList.symm
  have settled : ∀ letter ∈ (lowercase text).toList, IsSettled letter := by
    rw [lowercase, String.toList_ofList]
    exact lowerAfter_settled [] text.toList
  have same := lowerAfter_eq_self settled [] (by rw [letters]; exact List.all_eq_true.mp plain)
  exact String.toList_inj.mp (same.symm.trans letters)

/-- So plain names are found under a lower case as well as under its lower case. -/
theorem lookup_lowercase {α : Type} {names : List (String × α)}
    (plain : ∀ entry ∈ names, entry.1.toList.all isPlain) (text : String) :
    names.lookup (lowercase (lowercase text)) = names.lookup (lowercase text) := by
  induction names with
  | nil => rfl
  | cons entry rest ih =>
    obtain ⟨name, value⟩ := entry
    have same : (lowercase (lowercase text) == name) = (lowercase text == name) := by
      rw [Bool.eq_iff_iff, beq_iff_eq, beq_iff_eq]
      exact lowercase_lowercase_eq_iff (plain _ (List.mem_cons_self ..)) text
    rw [List.lookup_cons, List.lookup_cons, same,
      ih fun entry among => plain entry (List.mem_cons_of_mem _ among)]

end BurstRelay.Text

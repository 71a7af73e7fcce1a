import BurstRelay.Bytes.Basic

/-!
# Texts that stay on a line

A line feed is one byte in UTF-8, and no other character has that byte in it
(`newline_mem_encodeChar`). So a text has a line feed among its characters just if it has one among its
bytes, and lines whose texts have none are told apart by their ends (`splitOn_lines`). Numbers are
written without one.
-/

namespace BurstRelay

/-! ## The bytes of a text -/

namespace Bytes

/-- The bytes of a text are those of its characters, one behind the other. -/
theorem ofString_ofList (letters : List Char) :
    ofString (String.ofList letters) = letters.flatMap String.utf8EncodeChar := by
  unfold ofString
  rw [String.toByteArray_ofList, List.utf8Encode, List.data_toByteArray]

theorem ofString_append (first second : List Char) :
    ofString (String.ofList (first ++ second)) =
      ofString (String.ofList first) ++ ofString (String.ofList second) := by
  rw [ofString_ofList, ofString_ofList, ofString_ofList, List.flatMap_append]

/-- The byte of a line feed stands in no other character: the bytes of all others are either above
it or the character itself. -/
theorem newline_mem_encodeChar (letter : Char) :
    (10 : UInt8) ∈ String.utf8EncodeChar letter ↔ letter = '\n' := by
  constructor
  · intro member
    unfold String.utf8EncodeChar at member
    dsimp only at member
    have small (number : Nat) : (10 : UInt8) = UInt8.ofNat number ↔ number % 256 = 10 := by
      rw [← UInt8.toNat_inj, UInt8.toNat_ofNat']
      exact eq_comm
    split at member
    · rename_i ascii
      rw [List.mem_singleton, small, Nat.mod_eq_of_lt (by omega)] at member
      exact Char.ext (UInt32.toNat_inj.mp member)
    · -- what begins or goes on with a character of several bytes is 128 at least
      split at member
      · simp only [List.mem_cons, List.not_mem_nil, or_false, small] at member
        omega
      · split at member
        · simp only [List.mem_cons, List.not_mem_nil, or_false, small] at member
          omega
        · simp only [List.mem_cons, List.not_mem_nil, or_false, small] at member
          omega
  · rintro rfl
    decide

end Bytes

/-! ## Texts without a line feed -/

namespace Text

/-- Whether a text stays on its line. -/
def IsInline (text : List Char) : Prop := '\n' ∉ text

instance (text : List Char) : Decidable (IsInline text) := inferInstanceAs (Decidable ('\n' ∉ text))

@[simp] theorem isInline_nil : IsInline [] := List.not_mem_nil

@[simp] theorem isInline_cons {letter : Char} {text : List Char} :
    IsInline (letter :: text) ↔ letter ≠ '\n' ∧ IsInline text := by
  unfold IsInline
  rw [List.mem_cons, not_or]
  exact and_congr_left fun _ => ne_comm

@[simp] theorem isInline_append {first second : List Char} :
    IsInline (first ++ second) ↔ IsInline first ∧ IsInline second := by
  unfold IsInline
  rw [List.mem_append, not_or]

theorem isInline_flatMap {α : Type} {text : α → List Char} {values : List α}
    (each : ∀ value ∈ values, IsInline (text value)) : IsInline (values.flatMap text) := by
  intro member
  obtain ⟨value, among, newline⟩ := List.mem_flatMap.mp member
  exact each value among newline

/-- A part of a text that stays on its line stays there. -/
theorem IsInline.subset {text part : List Char} (inline : IsInline text)
    (within : ∀ letter ∈ part, letter ∈ text) : IsInline part :=
  fun member => inline (within '\n' member)

theorem isInline_replicate {letter : Char} (count : Nat) (other : letter ≠ '\n') :
    IsInline (List.replicate count letter) := by
  intro member
  exact other (List.mem_replicate.mp member).2.symm

/-- A text stays on its line just if its bytes do. -/
theorem isInline_iff_bytes (text : List Char) :
    IsInline text ↔ 10 ∉ Bytes.ofString (String.ofList text) := by
  unfold IsInline
  rw [Bytes.ofString_ofList, List.mem_flatMap]
  apply not_congr
  constructor
  · intro member
    exact ⟨_, member, (Bytes.newline_mem_encodeChar _).mpr rfl⟩
  · rintro ⟨letter, member, newline⟩
    rwa [(Bytes.newline_mem_encodeChar letter).mp newline] at member

/-! ## Numbers -/

/-- No digit up to the base sixteen is a line feed. -/
theorem digitChar_ne_newline : ∀ digit < 16, Nat.digitChar digit ≠ '\n' := by decide

theorem isInline_toDigits {base : Nat} (several : 1 < base) (known : base ≤ 16) (number : Nat) :
    IsInline (Nat.toDigits base number) := by
  induction number using Nat.strongRecOn with
  | ind number ih =>
    by_cases single : number < base
    · rw [Nat.toDigits_of_lt_base single, isInline_cons]
      exact ⟨digitChar_ne_newline _ (Nat.lt_of_lt_of_le single known), isInline_nil⟩
    · have left : 0 < number := Nat.lt_of_lt_of_le (by omega) (Nat.le_of_not_lt single)
      have digit : number % base < base := Nat.mod_lt _ (by omega)
      rw [Nat.toDigits_of_base_le several (Nat.le_of_not_lt single), isInline_append, isInline_cons]
      exact ⟨ih _ (Nat.div_lt_self left several),
        digitChar_ne_newline _ (Nat.lt_of_lt_of_le digit known), isInline_nil⟩

theorem toList_toString_ofNat (number : Nat) :
    (toString (Int.ofNat number)).toList = Nat.toDigits 10 number :=
  String.toList_ofList

theorem toList_toString_negSucc (number : Nat) :
    (toString (Int.negSucc number)).toList = '-' :: Nat.toDigits 10 (number + 1) := by
  show ("-" ++ String.ofList (Nat.toDigits 10 (number + 1))).toList = _
  rw [String.toList_append, String.toList_ofList, String.toList_ofList]
  rfl

theorem isInline_toString (number : Int) : IsInline (toString number).toList := by
  cases number with
  | ofNat number =>
    rw [toList_toString_ofNat]
    exact isInline_toDigits (by decide) (by decide) number
  | negSucc number =>
    rw [toList_toString_negSucc, isInline_cons]
    exact ⟨by decide, isInline_toDigits (by decide) (by decide) _⟩

/-! ## Lines -/

/-- Lines that are ended by line feeds and have none inside are told apart by them. -/
theorem splitOn_lines {lines : List Bytes} (inline : ∀ line ∈ lines, 10 ∉ line) :
    (lines.flatMap fun line => line ++ [10]).splitOn 10 = lines ++ [[]] := by
  induction lines with
  | nil => rfl
  | cons line lines ih =>
    rw [List.forall_mem_cons] at inline
    have single : line.splitOn 10 = [line] := by
      rw [List.splitOn_eq_splitOnP]
      apply List.splitOnP_eq_singleton
      intro byte member
      rw [beq_eq_false_iff_ne]
      rintro rfl
      exact inline.1 member
    rw [List.flatMap_cons, List.append_assoc, List.singleton_append,
      List.splitOn_append_cons_of_beq _ _ (beq_self_eq_true 10), single, ih inline.2]
    rfl

/-- There are as many line feeds as lines. -/
theorem count_lines {lines : List Bytes} (inline : ∀ line ∈ lines, 10 ∉ line) :
    (lines.flatMap fun line => line ++ [10]).count 10 = lines.length := by
  induction lines with
  | nil => rfl
  | cons line lines ih =>
    rw [List.forall_mem_cons] at inline
    rw [List.flatMap_cons, List.count_append, List.count_append, ih inline.2,
      List.count_eq_zero_of_not_mem inline.1, List.length_cons]
    exact Nat.add_comm ..

end Text

end BurstRelay

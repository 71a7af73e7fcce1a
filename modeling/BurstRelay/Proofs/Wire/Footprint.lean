import BurstRelay.Proofs.Fallible
import BurstRelay.Wire.Field

/-!
# How much of the input a value takes

Whatever a reader accepts, it takes at least as many bytes of the input as writing the value anew
would take: a number may be padded, but never shorter than its shortest form. The lemmas say so for
each reader, as an inequality between the bytes left before and behind, and `fieldsUntil_invariant`
carries such an inequality through the fields of a message.
-/

namespace BurstRelay.Wire

open Fallible

/-! ## Lengths of what is written -/

theorem length_encodeVarint_of_lt {value : Nat} (small : value < 128) :
    (encodeVarint value).length = 1 := by
  rw [encodeVarint, if_pos small]
  rfl

theorem length_encodeVarint_of_ge {value : Nat} (large : 128 ≤ value) :
    (encodeVarint value).length = (encodeVarint (value / 128)).length + 1 := by
  rw [encodeVarint, if_neg (by omega), List.length_cons]

theorem length_encodeVarint_pos (value : Nat) : 1 ≤ (encodeVarint value).length := by
  by_cases small : value < 128
  · exact Nat.le_of_eq (length_encodeVarint_of_lt small).symm
  · rw [length_encodeVarint_of_ge (by omega)]
    omega

/-- A larger number takes no fewer bytes. -/
theorem length_encodeVarint_mono {small large : Nat} (le : small ≤ large) :
    (encodeVarint small).length ≤ (encodeVarint large).length := by
  induction large using Nat.strongRecOn generalizing small with
  | ind large ih =>
    by_cases little : small < 128
    · rw [length_encodeVarint_of_lt little]
      exact length_encodeVarint_pos large
    · have higher : small / 128 ≤ large / 128 := Nat.div_le_div_right le
      rw [length_encodeVarint_of_ge (by omega : 128 ≤ small),
        length_encodeVarint_of_ge (by omega : 128 ≤ large)]
      exact Nat.succ_le_succ (ih (large / 128) (by omega) higher)

/-- A number of so many groups of seven bits takes no more bytes than groups. -/
theorem length_encodeVarint_le {groups value : Nat} (fits : value < Nat.pow 128 groups)
    (positive : 0 < groups) : (encodeVarint value).length ≤ groups := by
  induction groups generalizing value with
  | zero => omega
  | succ groups ih =>
    by_cases small : value < 128
    · rw [length_encodeVarint_of_lt small]
      omega
    · rw [length_encodeVarint_of_ge (by omega)]
      cases groups with
      | zero => exact absurd fits small
      | succ groups =>
        have higher : value / 128 < Nat.pow 128 (groups + 1) :=
          Nat.div_lt_of_lt_mul (by rw [Nat.mul_comm]; exact fits)
        exact Nat.succ_le_succ (ih higher (by omega))

/-- A number that does not fit so many groups of seven bits takes more bytes than groups. -/
theorem lt_length_encodeVarint {groups value : Nat} (large : Nat.pow 128 groups ≤ value) :
    groups < (encodeVarint value).length := by
  induction groups generalizing value with
  | zero => exact length_encodeVarint_pos value
  | succ groups ih =>
    have positive : 0 < Nat.pow 128 groups := Nat.pow_pos (by omega)
    have power : Nat.pow 128 (groups + 1) = Nat.pow 128 groups * 128 := rfl
    rw [length_encodeVarint_of_ge (by omega)]
    exact Nat.succ_lt_succ (ih (by omega))

/-- The key of a field with a small number is one byte. -/
theorem length_encodeKey {number : Nat} (small : number < 15) (layout : Layout) :
    (encodeKey number layout).length = 1 := by
  have low : layout.number ≤ 5 := by cases layout <;> decide
  exact length_encodeVarint_of_lt (by omega)

theorem length_varintField {number : Nat} (small : number < 15) (value : Nat) :
    (varintField number value).length = 1 + (encodeVarint value).length := by
  rw [varintField, List.length_append, length_encodeKey small]

theorem length_wordField {number : Nat} (small : number < 15) (value : UInt64) :
    (wordField number value).length = 9 := by
  rw [wordField, List.length_append, length_encodeKey small, Bytes.length_littleEndian]

theorem length_bytesField {number : Nat} (small : number < 15) (value : Bytes) :
    (bytesField number value).length = 1 + (encodeVarint value.length).length + value.length := by
  rw [bytesField, List.length_append, List.length_append, length_encodeKey small]

/-! ## Bytes taken by what is read -/

/-- A number that is read takes at least the bytes of its shortest form, and is below the bound of
the bits that it may have. -/
theorem left_of_varintWithin? {more value : Nat} {cursor rest : Cursor}
    (read : varintWithin? more cursor = some (value, rest)) :
    (encodeVarint value).length + rest.left ≤ cursor.left ∧ value < Nat.pow 2 (7 * more + 1) := by
  induction more generalizing value cursor with
  | zero =>
    unfold varintWithin? at read
    split at read
    · simp at read
    · rename_i byte behind next
      have taken := Cursor.left_of_next? next
      split at read
      · rename_i small
        simp only [Option.some.injEq, Prod.mk.injEq] at read
        obtain ⟨rfl, rfl⟩ := read
        rw [length_encodeVarint_of_lt (by omega)]
        exact ⟨by omega, Nat.lt_succ_of_le small⟩
      · simp at read
  | succ more ih =>
    unfold varintWithin? at read
    have power : Nat.pow 2 (7 * (more + 1) + 1) = 128 * Nat.pow 2 (7 * more + 1) := by
      rw [Nat.pow_eq, Nat.pow_eq, show 7 * (more + 1) + 1 = 7 + (7 * more + 1) by omega,
        Nat.pow_add]
    have positive : 0 < Nat.pow 2 (7 * more + 1) := Nat.pow_pos (by omega)
    split at read
    · simp at read
    · rename_i byte behind next
      have taken := Cursor.left_of_next? next
      have byteLt := byte.toNat_lt
      split at read
      · rename_i small
        simp only [Option.some.injEq, Prod.mk.injEq] at read
        obtain ⟨rfl, rfl⟩ := read
        rw [length_encodeVarint_of_lt small]
        exact ⟨by omega, by omega⟩
      · obtain ⟨⟨high, behindHigh⟩, readHigh, same⟩ := Option.map_eq_some_iff.mp read
        simp only [Prod.mk.injEq] at same
        obtain ⟨rfl, rfl⟩ := same
        obtain ⟨left, fits⟩ := ih readHigh
        refine ⟨?_, by omega⟩
        -- a group of zeros at the end pads the number, and then its shortest form is shorter
        by_cases short : byte.toNat - 128 + 128 * high < 128
        · have some := length_encodeVarint_pos high
          rw [length_encodeVarint_of_lt short]
          omega
        · rw [length_encodeVarint_of_ge (by omega),
            show (byte.toNat - 128 + 128 * high) / 128 = high by omega]
          omega

theorem left_of_varint {cursor rest : Cursor} {value : Nat}
    (read : varint cursor = .ok (value, rest)) :
    (encodeVarint value).length + rest.left ≤ cursor.left ∧ value < UInt64.size := by
  unfold varint at read
  split at read
  · rename_i result found
    simp only [Except.ok.injEq] at read
    subst read
    exact left_of_varintWithin? found
  · simp at read

theorem left_of_key {cursor rest : Cursor} {number : Nat} {layout : Layout}
    (read : key cursor = .ok (number, layout, rest)) : rest.left + 1 ≤ cursor.left := by
  unfold key at read
  obtain ⟨⟨value, behind⟩, readValue, result⟩ := bind_eq_ok.mp read
  have taken := (left_of_varint readValue).1
  have some := length_encodeVarint_pos value
  dsimp only at result
  split at result
  · simp at result
  · split at result
    · simp at result
    · split at result
      · simp at result
      · simp only [Except.ok.injEq, Prod.mk.injEq] at result
        obtain ⟨-, -, rfl⟩ := result
        omega

theorem left_of_exactly {cursor rest : Cursor} {count : Nat} {taken : Bytes}
    (read : exactly count cursor = .ok (taken, rest)) :
    taken.length = count ∧ cursor.left = count + rest.left := by
  unfold exactly at read
  split at read
  · rename_i result found
    simp only [Except.ok.injEq] at read
    subst read
    obtain ⟨parts, size⟩ := Cursor.rest_of_take? found
    refine ⟨size, ?_⟩
    rw [cursor.left_eq, rest.left_eq, parts, List.length_append, size]
  · simp at read

theorem left_of_varintValue {layout : Layout} {cursor rest : Cursor} {value : Nat}
    (read : varintValue layout cursor = .ok (value, rest)) :
    (encodeVarint value).length + rest.left ≤ cursor.left ∧ value < UInt64.size := by
  unfold varintValue at read
  obtain ⟨-, -, readValue⟩ := bind_eq_ok.mp read
  exact left_of_varint readValue

theorem left_of_wordValue {layout : Layout} {cursor rest : Cursor} {value : UInt64}
    (read : wordValue layout cursor = .ok (value, rest)) : cursor.left = 8 + rest.left := by
  unfold wordValue at read
  obtain ⟨-, -, read⟩ := bind_eq_ok.mp read
  obtain ⟨⟨word, behind⟩, readWord, same⟩ := bind_eq_ok.mp read
  obtain ⟨-, rfl⟩ := pure_pair_eq_ok.mp same
  exact (left_of_exactly readWord).2

theorem left_of_bytesValue {layout : Layout} {cursor rest : Cursor} {value : Bytes}
    (read : bytesValue layout cursor = .ok (value, rest)) :
    (encodeVarint value.length).length + value.length + rest.left ≤ cursor.left := by
  unfold bytesValue at read
  obtain ⟨-, -, read⟩ := bind_eq_ok.mp read
  obtain ⟨⟨length, behind⟩, readLength, readBytes⟩ := bind_eq_ok.mp read
  obtain ⟨same, left⟩ := left_of_exactly readBytes
  have taken := (left_of_varint readLength).1
  subst same
  omega

theorem left_of_textValue {layout : Layout} {cursor rest : Cursor} {value : String}
    (read : textValue layout cursor = .ok (value, rest)) :
    (encodeVarint (Bytes.ofString value).length).length + (Bytes.ofString value).length +
      rest.left ≤ cursor.left := by
  unfold textValue at read
  obtain ⟨⟨spelled, behind⟩, readBytes, result⟩ := bind_eq_ok.mp read
  dsimp only at result
  split at result
  · rename_i text found
    simp only [Except.ok.injEq, Prod.mk.injEq] at result
    obtain ⟨rfl, rfl⟩ := result
    rw [Bytes.ofString_of_toString? found]
    exact left_of_bytesValue readBytes
  · simp at result

/-- Every number of sixty-four bits stands for a signed one, which is written as that number. -/
theorem zigzag_unzigzag {value : Nat} (fits : value < UInt64.size) :
    zigzag (unzigzag value) = value := by
  have bound : value < 18446744073709551616 := fits
  unfold unzigzag
  split
  · have same : (Int64.ofNat (value / 2)).toInt = (value / 2 : Nat) :=
      Int64.toInt_ofNat_of_lt (by omega)
    have positive : ¬ Int64.ofNat (value / 2) < 0 := by
      rw [Int64.lt_iff_toInt_lt, Int64.toInt_zero, same]
      omega
    rw [zigzag, if_neg positive, same]
    omega
  · have same : (Int64.ofInt (-(value / 2) - 1)).toInt = -(value / 2) - 1 :=
      Int64.toInt_ofInt_of_le (by omega) (by omega)
    have negative : Int64.ofInt (-(value / 2) - 1) < 0 := by
      rw [Int64.lt_iff_toInt_lt, Int64.toInt_zero, same]
      omega
    rw [zigzag, if_pos negative, same]
    omega

/-! ## Passing over unknown fields -/

theorem left_of_skipGroup {skip : Layout → Nat → Cursor → Except Cause Cursor} {group fuel : Nat}
    {cursor rest : Cursor}
    (skipLeft : ∀ {layout number cursor rest}, skip layout number cursor = .ok rest →
      rest.left ≤ cursor.left)
    (read : skipGroup skip group fuel cursor = .ok rest) : rest.left ≤ cursor.left := by
  induction fuel generalizing cursor with
  | zero => simp [skipGroup] at read
  | succ fuel ih =>
    unfold skipGroup at read
    obtain ⟨⟨number, layout, behind⟩, readKey, result⟩ := bind_eq_ok.mp read
    have taken := left_of_key readKey
    dsimp only at result
    split at result
    · split at result
      · simp only [Except.ok.injEq] at result
        subst result
        omega
      · simp at result
    · obtain ⟨behindValue, skipped, later⟩ := bind_eq_ok.mp result
      have here := skipLeft skipped
      have behindGroup := ih later
      omega

theorem left_of_skipValue {levels number : Nat} {layout : Layout} {cursor rest : Cursor}
    (read : skipValue levels layout number cursor = .ok rest) : rest.left ≤ cursor.left := by
  induction levels generalizing layout number cursor rest with
  | zero => simp [skipValue] at read
  | succ levels ih =>
    cases layout with
    | varint =>
      obtain ⟨⟨value, behind⟩, readValue, same⟩ := bind_eq_ok.mp read
      rw [pure_eq_ok] at same
      subst same
      have taken := (left_of_varint readValue).1
      simp only
      omega
    | sixtyFourBit =>
      obtain ⟨⟨value, behind⟩, readValue, same⟩ := bind_eq_ok.mp read
      rw [pure_eq_ok] at same
      subst same
      have taken := (left_of_exactly readValue).2
      simp only
      omega
    | thirtyTwoBit =>
      obtain ⟨⟨value, behind⟩, readValue, same⟩ := bind_eq_ok.mp read
      rw [pure_eq_ok] at same
      subst same
      have taken := (left_of_exactly readValue).2
      simp only
      omega
    | lengthDelimited =>
      obtain ⟨⟨length, behind⟩, readLength, read⟩ := bind_eq_ok.mp read
      obtain ⟨⟨value, behindValue⟩, readValue, same⟩ := bind_eq_ok.mp read
      rw [pure_eq_ok] at same
      subst same
      have first := (left_of_varint readLength).1
      have second := (left_of_exactly readValue).2
      simp only at second ⊢
      omega
    | startGroup => exact left_of_skipGroup (fun skipped => ih skipped) read
    | endGroup => simp [skipValue] at read

/-! ## Messages -/

theorem lift_eq_ok {α : Type} {read : Except Cause α} {result : α} :
    lift read = .ok result ↔ read = .ok result := mapError_eq_ok

theorem inside_eq_ok {α : Type} {message field : String} {read : Except Fault α} {result : α} :
    inside message field read = .ok result ↔ read = .ok result := mapError_eq_ok

/-- What holds of a message and of the input behind it, and is kept by every field, holds behind the
fields. -/
theorem fieldsUntil_invariant {α : Type} {merge : Merge α} {stop fuel : Nat}
    {message result : α} {cursor rest : Cursor} (holds : α → Cursor → Prop)
    (kept : ∀ {message cursor number layout behind result rest}, holds message cursor →
      key cursor = .ok (number, layout, behind) →
      merge message number layout behind = .ok (result, rest) → holds result rest)
    (read : fieldsUntil merge stop fuel message cursor = .ok (result, rest))
    (initially : holds message cursor) : holds result rest := by
  induction fuel generalizing message cursor with
  | zero =>
    simp only [fieldsUntil, Except.ok.injEq, Prod.mk.injEq] at read
    obtain ⟨rfl, rfl⟩ := read
    exact initially
  | succ fuel ih =>
    unfold fieldsUntil at read
    split at read
    · simp only [Except.ok.injEq, Prod.mk.injEq] at read
      obtain ⟨rfl, rfl⟩ := read
      exact initially
    · obtain ⟨⟨number, layout, behind⟩, readKey, read⟩ := bind_eq_ok.mp read
      obtain ⟨⟨merged, behindValue⟩, readValue, later⟩ := bind_eq_ok.mp read
      exact ih later (kept initially (lift_eq_ok.mp readKey) readValue)

/-- A size of messages that no field raises by more than the bytes it takes, its key among them. -/
def Bounded {α : Type} (size : α → Nat) (merge : Merge α) : Prop :=
  ∀ {message number layout cursor result rest},
    merge message number layout cursor = .ok (result, rest) →
      size result + rest.left ≤ size message + cursor.left + 1

theorem size_of_fieldsUntil {α : Type} {size : α → Nat} {merge : Merge α} {stop fuel : Nat}
    {message result : α} {cursor rest : Cursor} (bounded : Bounded size merge)
    (read : fieldsUntil merge stop fuel message cursor = .ok (result, rest)) :
    size result + rest.left ≤ size message + cursor.left := by
  refine fieldsUntil_invariant
    (fun later behind => size later + behind.left ≤ size message + cursor.left)
    ?_ read (Nat.le_refl _)
  intro earlier before number layout behind later after holds readKey readValue
  have taken := left_of_key readKey
  have value := bounded readValue
  omega

/-- An embedded message takes at least the bytes of its size and of the length in front of it. -/
theorem size_of_messageValue {α : Type} {size : α → Nat} {merge : Merge α} {empty result : α}
    {levels : Nat} {layout : Layout} {cursor rest : Cursor} (bounded : Bounded size merge)
    (none : size empty = 0)
    (read : messageValue merge empty levels layout cursor = .ok (result, rest)) :
    (encodeVarint (size result)).length + size result + rest.left ≤ cursor.left := by
  unfold messageValue at read
  obtain ⟨-, -, read⟩ := bind_eq_ok.mp read
  split at read
  · simp at read
  · obtain ⟨⟨length, behind⟩, readLength, read⟩ := bind_eq_ok.mp read
    have taken := (left_of_varint (lift_eq_ok.mp readLength)).1
    dsimp only at read
    split at read
    · simp at read
    · rename_i long
      obtain ⟨⟨message, behindMessage⟩, readFields, read⟩ := bind_eq_ok.mp read
      dsimp only at read
      split at read
      · rename_i whole
        simp only [Except.ok.injEq, Prod.mk.injEq] at read
        obtain ⟨rfl, rfl⟩ := read
        -- the length in front is that of the input, which may be longer than the message needs
        have fields := size_of_fieldsUntil bounded readFields
        have fits : size message ≤ length := by omega
        have shorter := length_encodeVarint_mono fits
        omega
      · simp at read

end BurstRelay.Wire

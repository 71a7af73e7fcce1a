import BurstRelay.Proofs.Wire.RoundTrip

/-!
# Fields that a reader does not know

A writer with a newer schema puts fields between those that a reader knows. `Foreign` says what such a
field may be: any number that the reader's schema leaves free, any layout, any content, groups in groups
down to some depth, and every number on the way in any of its spellings. A reader passes over exactly
the bytes of such a field (`skipValue_of_isValue`), so that reading goes on where it would have without
it (`Takes.foreign`), and fields with others between them are read as they are alone
(`Takes.interleaved`).
-/

namespace BurstRelay.Wire

open Fallible

/-! ## Spellings -/

/-- The bytes spell a number, with at most `more` bytes before the tenth: seven bits in each byte, the
lowest first, and the high bit in all but the last. A number may be longer than it has to be. -/
inductive Numeral : Nat → Nat → Bytes → Prop
  | tenth {byte : UInt8} (low : byte.toNat ≤ 1) : Numeral 0 byte.toNat [byte]
  | last {more : Nat} {byte : UInt8} (low : byte.toNat < 128) :
    Numeral (more + 1) byte.toNat [byte]
  | next {more high : Nat} {byte : UInt8} {rest : Bytes} (marked : 128 ≤ byte.toNat)
    (behind : Numeral more high rest) :
    Numeral (more + 1) (byte.toNat - 128 + 128 * high) (byte :: rest)

namespace Numeral

variable {more value : Nat} {spelled : Bytes}

theorem length_pos (numeral : Numeral more value spelled) : 1 ≤ spelled.length := by
  cases numeral <;> simp

theorem varintWithin?_eq (numeral : Numeral more value spelled) (rest : Bytes) :
    varintWithin? more (.of (spelled ++ rest)) = some (value, .of rest) := by
  induction numeral with
  | tenth low =>
    simp only [varintWithin?, List.cons_append, List.nil_append, Cursor.next?_of_cons]
    exact if_pos low
  | last low =>
    simp only [varintWithin?, List.cons_append, List.nil_append, Cursor.next?_of_cons]
    exact if_pos low
  | next marked behind ih =>
    simp only [varintWithin?, List.cons_append, Cursor.next?_of_cons, ih, Option.map_some]
    exact if_neg (Nat.not_lt_of_le marked)

/-- However a number is spelled, it is read, and what follows it is left. -/
theorem varint_eq (numeral : Numeral 9 value spelled) (rest : Bytes) :
    varint (.of (spelled ++ rest)) = .ok (value, .of rest) := by
  rw [varint, numeral.varintWithin?_eq]

end Numeral

/-- The bytes are the key of a field, in any spelling. -/
structure IsKey (number : Nat) (layout : Layout) (spelled : Bytes) : Prop where
  positive : 0 < number
  small : number < 536870912
  numeral : Numeral 9 (8 * number + layout.number) spelled

theorem IsKey.key_eq {number : Nat} {layout : Layout} {spelled : Bytes}
    (isKey : IsKey number layout spelled) (rest : Bytes) :
    key (.of (spelled ++ rest)) = .ok (number, layout, .of rest) :=
  key_of_varint isKey.positive isKey.small (isKey.numeral.varint_eq rest)

/-- The key of a field with a small number can be one byte. -/
theorem IsKey.of_byte {number : Nat} {layout : Layout} {byte : UInt8} (positive : 0 < number)
    (low : byte.toNat < 128) (same : 8 * number + layout.number = byte.toNat) :
    IsKey number layout [byte] := by
  refine ⟨positive, by omega, ?_⟩
  rw [same]
  exact .last low

/-! ## Values of any layout -/

/-- The bytes are the value of a group: fields of any numbers, whose values are as `isValue` says, and
the key that ends the group. -/
inductive IsGroup (isValue : Nat → Layout → Bytes → Prop) (group : Nat) : Bytes → Prop
  | finish {spelled : Bytes} (ends : IsKey group .endGroup spelled) : IsGroup isValue group spelled
  | field {number : Nat} {layout : Layout} {spelled value rest : Bytes}
    (keyed : IsKey number layout spelled) (valued : isValue number layout value)
    (behind : IsGroup isValue group rest) : IsGroup isValue group (spelled ++ value ++ rest)

/-- The bytes are the value of a field of the number and layout, in which groups are nested at most
`depth` deep. The end of a group is no value. -/
def IsValue : Nat → Nat → Layout → Bytes → Prop
  | _, _, .varint, value => ∃ number, Numeral 9 number value
  | _, _, .sixtyFourBit, value => value.length = 8
  | _, _, .thirtyTwoBit, value => value.length = 4
  | _, _, .lengthDelimited, value => ∃ spelled content,
      Numeral 9 content.length spelled ∧ value = spelled ++ content
  | 0, _, .startGroup, _ => False
  | depth + 1, number, .startGroup, value => IsGroup (IsValue depth) number value
  | _, _, .endGroup, _ => False

theorem skipGroup_of_isGroup {isValue : Nat → Layout → Bytes → Prop} {group fuel : Nat}
    {bytes : Bytes} {skip : Layout → Nat → Cursor → Except Cause Cursor}
    (skips : ∀ number layout value, isValue number layout value → layout ≠ .endGroup ∧
      ∀ rest, skip layout number (.of (value ++ rest)) = .ok (.of rest))
    (isGroup : IsGroup isValue group bytes) (enough : bytes.length ≤ fuel) (rest : Bytes) :
    skipGroup skip group fuel (.of (bytes ++ rest)) = .ok (.of rest) := by
  induction isGroup generalizing fuel with
  | finish ends =>
    have some := ends.numeral.length_pos
    obtain ⟨fuel, rfl⟩ : ∃ less, fuel = less + 1 := ⟨fuel - 1, by omega⟩
    unfold skipGroup
    rw [ends.key_eq rest]
    exact if_pos rfl
  | field keyed valued _ ih =>
    have some := keyed.numeral.length_pos
    simp only [List.length_append] at enough
    obtain ⟨fuel, rfl⟩ : ∃ less, fuel = less + 1 := ⟨fuel - 1, by omega⟩
    obtain ⟨notEnd, skipped⟩ := skips _ _ _ valued
    unfold skipGroup
    rw [List.append_assoc, List.append_assoc, keyed.key_eq]
    refine bind_eq_ok.mpr ⟨_, rfl, ?_⟩
    dsimp only
    rw [if_neg notEnd, skipped]
    exact ih (by omega)

theorem IsValue.ne_endGroup {depth number : Nat} {layout : Layout} {value : Bytes}
    (isValue : IsValue depth number layout value) : layout ≠ .endGroup := by
  rintro rfl
  simp only [IsValue] at isValue

/-- Values that are no groups are passed over by their lengths. -/
theorem skipValue_of_scalar {depth levels number : Nat} {layout : Layout} {value : Bytes}
    (isValue : IsValue depth number layout value) (scalar : layout ≠ .startGroup) (rest : Bytes) :
    skipValue (levels + 1) layout number (.of (value ++ rest)) = .ok (.of rest) := by
  cases layout with
  | varint =>
    simp only [IsValue] at isValue
    obtain ⟨number, numeral⟩ := isValue
    exact bind_eq_ok.mpr ⟨_, numeral.varint_eq rest, rfl⟩
  | sixtyFourBit =>
    simp only [IsValue] at isValue
    have taken := exactly_append value rest
    rw [isValue] at taken
    exact bind_eq_ok.mpr ⟨_, taken, rfl⟩
  | thirtyTwoBit =>
    simp only [IsValue] at isValue
    have taken := exactly_append value rest
    rw [isValue] at taken
    exact bind_eq_ok.mpr ⟨_, taken, rfl⟩
  | lengthDelimited =>
    simp only [IsValue] at isValue
    obtain ⟨spelled, content, numeral, rfl⟩ := isValue
    rw [List.append_assoc]
    exact bind_eq_ok.mpr ⟨_, numeral.varint_eq (content ++ rest),
      bind_eq_ok.mpr ⟨_, exactly_append content rest, rfl⟩⟩
  | startGroup => exact absurd rfl scalar
  | endGroup => exact absurd rfl isValue.ne_endGroup

/-- A reader passes over a value and over nothing else, if it may go down deeper than the value does. -/
theorem skipValue_of_isValue {depth levels number : Nat} {layout : Layout} {value : Bytes}
    (isValue : IsValue depth number layout value) (deep : depth < levels) (rest : Bytes) :
    skipValue levels layout number (.of (value ++ rest)) = .ok (.of rest) := by
  -- on the depth: the fields of a group are one level above those of the groups in it
  induction depth generalizing levels number layout value rest with
  | zero =>
    obtain ⟨levels, rfl⟩ : ∃ less, levels = less + 1 := ⟨levels - 1, by omega⟩
    refine skipValue_of_scalar isValue ?_ rest
    rintro rfl
    simp only [IsValue] at isValue
  | succ depth ih =>
    obtain ⟨levels, rfl⟩ : ∃ less, levels = less + 1 := ⟨levels - 1, by omega⟩
    by_cases group : layout = .startGroup
    · subst group
      simp only [IsValue] at isValue
      refine skipGroup_of_isGroup ?_ isValue ?_ rest
      · intro number layout value inner
        exact ⟨inner.ne_endGroup, ih inner (by omega)⟩
      · simp only [Cursor.left_of, List.length_append]
        omega
    · exact skipValue_of_scalar isValue group rest

/-! ## Fields between fields -/

/-- The bytes are one field whose number a reader does not use. -/
def Foreign (depth : Nat) (used : List Nat) (bytes : Bytes) : Prop :=
  ∃ number layout spelled value, number ∉ used ∧ IsKey number layout spelled ∧
    IsValue depth number layout value ∧ bytes = spelled ++ value

/-- A field whose key is one byte. -/
theorem Foreign.of_byte {depth : Nat} {used : List Nat} {byte : UInt8} {value : Bytes} (number : Nat)
    (layout : Layout) (isValue : IsValue depth number layout value) (unused : number ∉ used)
    (positive : 0 < number) (low : byte.toNat < 128)
    (same : 8 * number + layout.number = byte.toNat) : Foreign depth used (byte :: value) :=
  ⟨number, layout, [byte], value, unused, .of_byte positive low same, isValue, rfl⟩

/-- The bytes are the fields of a list, in their order, with others before, between and behind them. -/
inductive Interleaved (other : Bytes → Prop) : List Bytes → Bytes → Prop
  | nil : Interleaved other [] []
  | field {field : Bytes} {fields : List Bytes} {bytes : Bytes} :
    Interleaved other fields bytes → Interleaved other (field :: fields) (field ++ bytes)
  | other {extra : Bytes} {fields : List Bytes} {bytes : Bytes} :
    other extra → Interleaved other fields bytes → Interleaved other fields (extra ++ bytes)

namespace Interleaved

variable {other : Bytes → Prop} {field bytes : Bytes} {fields : List Bytes}

theorem length_flatten_le (interleaved : Interleaved other fields bytes) :
    fields.flatten.length ≤ bytes.length := by
  induction interleaved with
  | nil => exact Nat.le_refl 0
  | field _ ih =>
    simp only [List.flatten_cons, List.length_append]
    omega
  | other _ _ ih =>
    rw [List.length_append]
    omega

theorem length_le (interleaved : Interleaved other fields bytes) (member : field ∈ fields) :
    field.length ≤ bytes.length :=
  Nat.le_trans (List.sublist_flatten_of_mem member).length_le interleaved.length_flatten_le

end Interleaved

variable {α : Type} {merge : Merge α}

/-- A field that a message does not know leaves it as it is, if the message passes over what it does not
know. -/
theorem Takes.foreign {depth levels : Nat} {used : List Nat} {bytes : Bytes}
    (passes : ∀ message number layout cursor rest, number ∉ used →
      skipValue levels layout number cursor = .ok rest →
      merge message number layout cursor = .ok (message, rest))
    (deep : depth < levels) (foreign : Foreign depth used bytes) (message : α) :
    Takes merge bytes message message := by
  obtain ⟨number, layout, spelled, value, unused, isKey, isValue, rfl⟩ := foreign
  refine .keyed isKey.numeral.length_pos isKey.key_eq ?_
  intro rest
  exact passes message number layout _ _ unused (skipValue_of_isValue isValue deep rest)

/-- Fields are taken as they are alone, if those between them change nothing. -/
theorem Takes.interleaved {other : Bytes → Prop} {fields : List Bytes} {bytes : Bytes}
    {message result : α} (harmless : ∀ extra, other extra → ∀ message, Takes merge extra message message)
    (interleaved : Interleaved other fields bytes) (takes : TakesEach merge fields message result) :
    Takes merge bytes message result := by
  induction interleaved generalizing message with
  | nil =>
    cases takes
    exact .nothing _
  | field _ ih =>
    cases takes with
    | cons here behind => exact here.append (ih behind)
  | other foreign _ ih => exact (harmless _ foreign _).append (ih takes)

end BurstRelay.Wire

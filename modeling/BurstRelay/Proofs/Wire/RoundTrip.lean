import Mathlib.Data.List.Forall2
import BurstRelay.Proofs.Wire.Footprint

/-!
# Fields are read back

What the writers of fields write, the readers of fields read back, whatever follows it in the input.
`Takes` says so of a string of fields and of the message that the fields are taken into: it composes,
so that a message is read back because each of its fields is. `messageOf_of_takes` and
`messageValue_of_takes` turn it into a statement about a message that takes up the whole input and
about one that is embedded in another.

A text or a message has to be shorter than 2^64 bytes, which is what its length can say.
-/

namespace BurstRelay.Wire

open Fallible

/-! ## Values -/

/-- A key says its number and its layout, however it is spelled. -/
theorem key_of_varint {number : Nat} (positive : 0 < number) (small : number < 536870912)
    {layout : Layout} {cursor rest : Cursor}
    (reads : varint cursor = .ok (8 * number + layout.number, rest)) :
    key cursor = .ok (number, layout, rest) := by
  have low : layout.number ≤ 5 := by cases layout <;> decide
  have below : 8 * number + layout.number < UInt32.size := by
    have size : UInt32.size = 4294967296 := rfl
    omega
  have layoutPart : (8 * number + layout.number) % 8 = layout.number := by omega
  have numberPart : (8 * number + layout.number) / 8 = number := by omega
  refine bind_eq_ok.mpr ⟨_, reads, ?_⟩
  dsimp only
  rw [if_neg (by omega), layoutPart, numberPart, Layout.ofNumber?_number]
  exact if_neg (by omega)

theorem key_encodeKey {number : Nat} (positive : 0 < number) (small : number < 536870912)
    (layout : Layout) (rest : Bytes) :
    key (.of (encodeKey number layout ++ rest)) = .ok (number, layout, .of rest) := by
  have low : layout.number ≤ 5 := by cases layout <;> decide
  have size : UInt64.size = 18446744073709551616 := rfl
  exact key_of_varint positive small (varint_encodeVarint rest (by omega))

theorem varintValue_encodeVarint {value : Nat} (fits : value < UInt64.size) (rest : Bytes) :
    varintValue .varint (.of (encodeVarint value ++ rest)) = .ok (value, .of rest) :=
  varint_encodeVarint rest fits

theorem exactly_append (taken rest : Bytes) :
    exactly taken.length (.of (taken ++ rest)) = .ok (taken, .of rest) := by
  unfold exactly
  rw [Cursor.take?_of_append]

theorem wordValue_littleEndian (value : UInt64) (rest : Bytes) :
    wordValue .sixtyFourBit (.of (Bytes.littleEndian 8 value.toNat ++ rest)) =
      .ok (value, .of rest) := by
  have taken := exactly_append (Bytes.littleEndian 8 value.toNat) rest
  have whole : value.toNat % Nat.pow 256 8 = value.toNat := Nat.mod_eq_of_lt value.toNat_lt
  rw [Bytes.length_littleEndian] at taken
  refine bind_eq_ok.mpr ⟨(), rfl, bind_eq_ok.mpr ⟨_, taken, pure_pair_eq_ok.mpr ⟨?_, rfl⟩⟩⟩
  rw [Bytes.ofLittleEndian_littleEndian, whole, UInt64.ofNat_toNat]

theorem bytesValue_written {value : Bytes} (short : value.length < UInt64.size) (rest : Bytes) :
    bytesValue .lengthDelimited (.of (encodeVarint value.length ++ value ++ rest)) =
      .ok (value, .of rest) := by
  rw [List.append_assoc]
  exact bind_eq_ok.mpr ⟨(), rfl, bind_eq_ok.mpr
    ⟨_, varint_encodeVarint (value ++ rest) short, exactly_append value rest⟩⟩

theorem textValue_written {text : String} (short : (Bytes.ofString text).length < UInt64.size)
    (rest : Bytes) :
    textValue .lengthDelimited
        (.of (encodeVarint (Bytes.ofString text).length ++ Bytes.ofString text ++ rest)) =
      .ok (text, .of rest) := by
  refine bind_eq_ok.mpr ⟨_, bytesValue_written short rest, ?_⟩
  dsimp only
  rw [Bytes.toString?_ofString]

/-! ## Strings of fields -/

variable {α β : Type} {merge : Merge α}

/-- Fields turn one message into another: a reader that comes to them with the one goes on behind
them with the other, whatever is there. It takes no more steps than the fields have bytes. -/
def Takes (merge : Merge α) (fields : Bytes) (message result : α) : Prop :=
  ∃ steps ≤ fields.length, ∀ stop fuel rest, stop ≤ rest.length →
    fieldsUntil merge stop (fuel + steps) message (.of (fields ++ rest)) =
      fieldsUntil merge stop fuel result (.of rest)

theorem Takes.nothing (message : α) : Takes merge [] message message :=
  ⟨0, Nat.le_refl 0, fun _ _ _ _ => rfl⟩

theorem Takes.append {first second : Bytes} {message middle result : α}
    (here : Takes merge first message middle) (behind : Takes merge second middle result) :
    Takes merge (first ++ second) message result := by
  obtain ⟨steps, few, reads⟩ := here
  obtain ⟨more, fewMore, readsMore⟩ := behind
  refine ⟨more + steps, by rw [List.length_append]; omega, ?_⟩
  intro stop fuel rest within
  have longer : stop ≤ (second ++ rest).length := by rw [List.length_append]; omega
  rw [List.append_assoc, ← Nat.add_assoc, reads stop (fuel + more) (second ++ rest) longer,
    readsMore stop fuel rest within]

/-- A field is taken as its value is, however its key is spelled. -/
theorem Takes.keyed {number : Nat} {layout : Layout} {spelled value : Bytes} {message result : α}
    (some : 1 ≤ spelled.length)
    (keyed : ∀ rest, key (.of (spelled ++ rest)) = .ok (number, layout, .of rest))
    (reads : ∀ rest, merge message number layout (.of (value ++ rest)) = .ok (result, .of rest)) :
    Takes merge (spelled ++ value) message result := by
  refine ⟨1, by rw [List.length_append]; omega, ?_⟩
  intro stop fuel rest within
  have left : ¬ (Cursor.of (spelled ++ value ++ rest)).left ≤ stop := by
    simp only [Cursor.left_of, List.length_append]
    omega
  rw [fieldsUntil, if_neg left, List.append_assoc, keyed]
  show (merge message number layout (.of (value ++ rest)) >>= _) = _
  rw [reads rest]
  rfl

theorem Takes.field {number : Nat} {layout : Layout} {value : Bytes} {message result : α}
    (positive : 0 < number) (small : number < 536870912)
    (reads : ∀ rest, merge message number layout (.of (value ++ rest)) = .ok (result, .of rest)) :
    Takes merge (encodeKey number layout ++ value) message result :=
  .keyed (length_encodeVarint_pos _) (key_encodeKey positive small layout) reads

/-- What is left out when it has its default is taken as well: it is there already. -/
theorem Takes.unless {absent : Prop} [Decidable absent] {fields : Bytes} {message result : α}
    (same : absent → result = message) (present : Takes merge fields message result) :
    Takes merge (if absent then [] else fields) message result := by
  split
  · rename_i default
    rw [same default]
    exact .nothing message
  · exact present

/-- What is left out when there is none of it is taken as well. -/
theorem Takes.option {fields : β → Bytes} {value : Option β} {message : α} (set : Option β → α)
    (same : set none = message)
    (present : ∀ content, value = some content → Takes merge (fields content) message
      (set (some content))) :
    Takes merge ((value.map fields).getD []) message (set value) := by
  cases value with
  | none =>
    rw [same]
    exact .nothing message
  | some content => exact present content rfl

/-- Every field of a list is taken, and each into the message that the fields before it made. -/
inductive TakesEach (merge : Merge α) : List Bytes → α → α → Prop
  | nil (message : α) : TakesEach merge [] message message
  | cons {field : Bytes} {fields : List Bytes} {message middle result : α} :
    Takes merge field message middle → TakesEach merge fields middle result →
    TakesEach merge (field :: fields) message result

namespace TakesEach

theorem append {first second : List Bytes} {message middle result : α}
    (here : TakesEach merge first message middle) (behind : TakesEach merge second middle result) :
    TakesEach merge (first ++ second) message result := by
  induction here with
  | nil => exact behind
  | cons takes _ ih => exact .cons takes (ih behind)

/-- One field for each item of a list. -/
theorem repeated {field : Bytes → Bytes} {add : α → β → α} {written : List Bytes} {items : List β}
    (each : List.Forall₂
      (fun value item => ∀ message, Takes merge (field value) message (add message item))
      written items) (message : α) :
    TakesEach merge (written.map field) message (items.foldl add message) := by
  induction each generalizing message with
  | nil => exact .nil message
  | cons takes _ ih => exact .cons (takes message) (ih _)

theorem flatten {fields : List Bytes} {message result : α}
    (takes : TakesEach merge fields message result) : Takes merge fields.flatten message result := by
  induction takes with
  | nil message => exact .nothing message
  | cons takes _ ih => exact takes.append ih

end TakesEach

/-! ## Messages -/

/-- A reader that has come to the end of its message stops there. -/
theorem fieldsUntil_end (fuel : Nat) (message : α) (rest : Bytes) :
    fieldsUntil merge rest.length fuel message (.of rest) = .ok (message, .of rest) := by
  cases fuel with
  | zero => rfl
  | succ fuel => exact if_pos (Nat.le_refl rest.length)

/-- A message that takes up the whole input is read back. -/
theorem messageOf_of_takes {fields : Bytes} {empty result : α}
    (takes : Takes merge fields empty result) : messageOf merge empty fields = .ok result := by
  obtain ⟨steps, few, reads⟩ := takes
  have enough : fields.length - steps + steps = fields.length := by omega
  have whole := reads ([] : Bytes).length (fields.length - steps) [] (Nat.le_refl _)
  rw [enough, List.append_nil, fieldsUntil_end] at whole
  exact bind_eq_ok.mpr ⟨_, whole, rfl⟩

/-- A message that is embedded in another is read back, and what follows it is left. -/
theorem messageValue_of_takes {fields : Bytes} {empty result : α} {levels : Nat}
    (takes : Takes merge fields empty result) (deep : 0 < levels)
    (short : fields.length < UInt64.size) (rest : Bytes) :
    messageValue merge empty levels .lengthDelimited
        (.of (encodeVarint fields.length ++ fields ++ rest)) = .ok (result, .of rest) := by
  obtain ⟨steps, few, reads⟩ := takes
  have left : (Cursor.of (fields ++ rest)).left = fields.length + rest.length := by simp
  have stop : fields.length + rest.length - fields.length = rest.length := by omega
  have enough : fields.length + rest.length - steps + steps = fields.length + rest.length := by omega
  have whole := reads rest.length (fields.length + rest.length - steps) rest (Nat.le_refl _)
  rw [enough, fieldsUntil_end] at whole
  rw [List.append_assoc]
  refine bind_eq_ok.mpr ⟨(), rfl, ?_⟩
  rw [if_neg (by omega)]
  refine bind_eq_ok.mpr ⟨_, lift_eq_ok.mpr (varint_encodeVarint (fields ++ rest) short), ?_⟩
  dsimp only
  rw [if_neg (by omega), left, stop]
  exact bind_eq_ok.mpr ⟨_, whole, if_pos rfl⟩

end BurstRelay.Wire

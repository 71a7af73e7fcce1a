import BurstRelay.Bytes.Basic

/-!
# Reading positions

A cursor is what is left of an input, together with its length, so that a decoder can compare
lengths without walking the input. The cursor on a byte string is `Cursor.of`; every cursor is the
cursor on its rest, so statements about decoders are statements about byte strings.
-/

namespace BurstRelay

/-- What is left of an input, with its length at hand. -/
structure Cursor where
  /-- The bytes not read yet. -/
  rest : Bytes
  /-- How many bytes are not read yet. -/
  left : Nat
  left_eq : left = rest.length

namespace Cursor

/-- The cursor at the start of a byte string. -/
def of (bytes : Bytes) : Cursor := ⟨bytes, bytes.length, rfl⟩

@[simp] theorem rest_of (bytes : Bytes) : (of bytes).rest = bytes := rfl

@[simp] theorem left_of (bytes : Bytes) : (of bytes).left = bytes.length := rfl

@[simp] theorem of_rest (cursor : Cursor) : of cursor.rest = cursor := by
  cases cursor with
  | mk rest left left_eq => subst left_eq; rfl

@[ext] theorem ext {first second : Cursor} (same : first.rest = second.rest) : first = second := by
  rw [← of_rest first, ← of_rest second, same]

/-- The next byte, and the cursor behind it. -/
def next? (cursor : Cursor) : Option (UInt8 × Cursor) :=
  match cursor with
  | ⟨[], _, _⟩ => none
  | ⟨byte :: rest, left, left_eq⟩ => some (byte, ⟨rest, left - 1, by simp [left_eq]⟩)

@[simp] theorem next?_of_nil : (of []).next? = none := rfl

@[simp] theorem next?_of_cons (byte : UInt8) (rest : Bytes) :
    (of (byte :: rest)).next? = some (byte, of rest) := rfl

/-- The next `count` bytes, and the cursor behind them. -/
def take? (cursor : Cursor) (count : Nat) : Option (Bytes × Cursor) :=
  if count ≤ cursor.left then
    some (cursor.rest.take count,
      ⟨cursor.rest.drop count, cursor.left - count, by simp [cursor.left_eq]⟩)
  else none

@[simp] theorem take?_of_append (taken rest : Bytes) :
    (of (taken ++ rest)).take? taken.length = some (taken, of rest) := by
  have fits : taken.length ≤ (of (taken ++ rest)).left := by simp
  simp only [take?, fits, ↓reduceIte, Option.some.injEq, Prod.mk.injEq]
  exact ⟨by simp, Cursor.ext (by simp)⟩

/-- What was taken and what is left make up what there was. -/
theorem rest_of_take? {cursor behind : Cursor} {count : Nat} {taken : Bytes}
    (read : cursor.take? count = some (taken, behind)) :
    cursor.rest = taken ++ behind.rest ∧ taken.length = count := by
  simp only [take?] at read
  split at read
  · rename_i fits
    simp only [Option.some.injEq, Prod.mk.injEq] at read
    obtain ⟨rfl, rfl⟩ := read
    rw [cursor.left_eq] at fits
    exact ⟨by simp, by simp [fits]⟩
  · simp at read

theorem left_of_next? {cursor behind : Cursor} {byte : UInt8}
    (read : cursor.next? = some (byte, behind)) : behind.left + 1 = cursor.left := by
  rcases cursor with ⟨_ | ⟨head, rest⟩, left, left_eq⟩
  · simp [next?] at read
  · simp only [next?, Option.some.injEq, Prod.mk.injEq] at read
    obtain ⟨-, rfl⟩ := read
    simp [left_eq]

end Cursor

end BurstRelay

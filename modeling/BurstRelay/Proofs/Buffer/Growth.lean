import BurstRelay.Buffer.Basic

/-!
# Making room

What a region holds when it was written to or has grown, byte by byte, and all that can happen when a
buffer is made (`Buffer.Made`) and when it is asked for room (`Buffer.Ensured`): it has the room, or it
grows by zeros to the size it was asked for, or it is refused the memory and stays as it was.
-/

namespace BurstRelay

/-! ## Regions -/

namespace Region

theorem getElem?_toList (region : Region) (index : Nat) :
    region.toList[index]? =
      if index < region.size then some (region.stored.getD index 0) else none := by
  have fits := region.stored_le
  simp only [toList, List.getElem?_append, List.getElem?_replicate]
  grind

/-- What is written at the start of a region is read back from it, whatever the region held and
whatever is written behind it. -/
theorem first_write_append (region : Region) {bytes : Bytes} (fits : bytes.length ≤ region.size)
    (rest : Bytes) : (region.write 0 (bytes ++ rest)).first bytes.length = bytes := by
  have start : (region.write 0 (bytes ++ rest)).stored =
      (bytes ++ (rest ++ region.stored.drop (bytes ++ rest).length)).take region.size := by
    simp [write]
  unfold first
  dsimp only
  rw [size_write, Nat.min_eq_left fits, start, List.take_take, Nat.min_eq_left fits, List.take_left,
    List.length_take, List.length_append, Nat.sub_eq_zero_of_le (by omega), List.replicate_zero,
    List.append_nil]

/-- A byte of a region that was written to is the one that was written there, if one was, and
otherwise the one that was there. Bytes that would lie behind the end are dropped. -/
theorem getD_write (region : Region) (offset : Nat) (bytes : Bytes) (place : Nat) :
    (region.write offset bytes).toList.getD place 0 =
      (if place < region.size ∧ offset ≤ place then bytes[place - offset]? else none).getD
        (region.toList.getD place 0) := by
  have held := region.stored_le
  rw [List.getD_eq_getElem?_getD, List.getD_eq_getElem?_getD, getElem?_toList, getElem?_toList,
    size_write]
  by_cases inside : place < region.size
  · simp only [write, inside, if_true, true_and, List.getD_eq_getElem?_getD, List.getElem?_append,
      List.getElem?_take, List.getElem?_drop, List.getElem?_replicate, List.length_append,
      List.length_take, List.length_replicate]
    grind
  · simp only [inside, if_false, false_and, Option.getD_none]

theorem grow_of_le {region : Region} {size : Nat} (le : size ≤ region.size) :
    region.grow size = region := by
  cases region with
  | mk held stored fits =>
    unfold grow
    congr
    exact Nat.max_eq_left le

@[simp] theorem size_grow (region : Region) (size : Nat) :
    (region.grow size).size = max region.size size := rfl

/-- A region grows by zeros behind its end. -/
theorem toList_grow (region : Region) (size : Nat) :
    (region.grow size).toList = region.toList ++ List.replicate (size - region.size) 0 := by
  have held := region.stored_le
  simp only [toList, grow]
  rw [List.append_assoc, List.replicate_append_replicate]
  congr 2
  omega

theorem getD_grow (region : Region) (size place : Nat) :
    (region.grow size).toList.getD place 0 = region.toList.getD place 0 := by
  rw [toList_grow, List.getD_eq_getElem?_getD, List.getD_eq_getElem?_getD, List.getElem?_append]
  split
  · rfl
  · rename_i behind
    rw [List.getElem?_eq_none (Nat.not_lt.mp behind), List.getElem?_replicate]
    split <;> rfl

end Region

/-! ## Buffers -/

namespace Buffer

variable {buffer after : Buffer} {needed : Nat} {result : Except BufferFault Unit}

/-- All that can happen when a buffer is asked for room. -/
inductive Ensured (buffer : Buffer) (needed : Nat) : Except BufferFault Unit → Buffer → Prop
  | roomy (fits : needed ≤ buffer.capacity) : Ensured buffer needed (.ok ()) buffer
  | grown (short : buffer.capacity < needed)
      (granted : buffer.allocator buffer.requests needed = none) :
      Ensured buffer needed (.ok ()) { buffer with
        region := buffer.region.grow needed
        growths := buffer.growths + 1
        requests := buffer.requests + 1 }
  | refused {refusal : Refusal} (short : buffer.capacity < needed)
      (refused : buffer.allocator buffer.requests needed = some refusal) :
      Ensured buffer needed (.error ⟨buffer.capacity, needed, refusal⟩)
        { buffer with requests := buffer.requests + 1 }

theorem ensured (buffer : Buffer) (needed : Nat) :
    Ensured buffer needed (buffer.ensure needed).value.1 (buffer.ensure needed).value.2 := by
  unfold ensure
  by_cases short : buffer.capacity < needed
  · rw [if_pos short]
    cases answer : buffer.allocator buffer.requests needed with
    | none =>
      simp only [Logged.value_bind, reserve, answer]
      exact .grown short answer
    | some refusal =>
      simp only [Logged.value_bind, reserve, answer]
      exact .refused short answer
  · rw [if_neg short]
    exact .roomy (Nat.not_lt.mp short)

theorem ensured_of_value (asked : (buffer.ensure needed).value = (result, after)) :
    Ensured buffer needed result after := by
  have ensured := buffer.ensured needed
  rwa [asked] at ensured

/-- Making room touches nothing but the region and the counts of the buffer. -/
theorem allocator_of_ensure (buffer : Buffer) (needed : Nat) :
    (buffer.ensure needed).value.2.allocator = buffer.allocator := by
  rcases asked : (buffer.ensure needed).value with ⟨result, after⟩
  cases ensured_of_value asked with
  | roomy fits => rfl
  | grown short granted => rfl
  | refused short refused => rfl

/-- A buffer has room for so many bytes, or is granted it when it asks. -/
def Granted (buffer : Buffer) (needed : Nat) : Prop :=
  buffer.capacity < needed → buffer.allocator buffer.requests needed = none

instance (buffer : Buffer) (needed : Nat) : Decidable (buffer.Granted needed) :=
  inferInstanceAs (Decidable (_ → _))

theorem ensure_of_granted (granted : buffer.Granted needed) :
    ∃ grown, (buffer.ensure needed).value = (.ok (), grown) ∧
      grown.region = buffer.region.grow needed := by
  rcases asked : (buffer.ensure needed).value with ⟨result, after⟩
  cases ensured_of_value asked with
  | roomy fits => exact ⟨_, rfl, (Region.grow_of_le fits).symm⟩
  | grown short answer => exact ⟨_, rfl, rfl⟩
  | refused short answer => cases (granted short).symm.trans answer

/-- A refused request leaves the region as it was. -/
theorem ensure_of_refused (refused : ¬ buffer.Granted needed) :
    ∃ fault same, (buffer.ensure needed).value = (.error fault, same) ∧
      same.region = buffer.region := by
  obtain ⟨short, refusal⟩ := Classical.not_imp.mp refused
  rcases asked : (buffer.ensure needed).value with ⟨result, after⟩
  cases ensured_of_value asked with
  | roomy fits => exact absurd short (Nat.not_lt.mpr fits)
  | grown short answer => exact absurd answer refusal
  | refused short answer => exact ⟨_, _, rfl, rfl⟩

/-- All that can happen when a buffer is made. -/
inductive Made (allocator : Allocator) (capacity : Nat) : Except BufferFault Buffer → Prop
  | empty (nothing : capacity = 0) : Made allocator capacity (.ok { allocator })
  | granted (something : capacity ≠ 0) (granted : allocator 0 capacity = none) :
      Made allocator capacity
        (.ok { allocator, region := (Region.zeros 0).grow capacity, requests := 1 })
  | refused {refusal : Refusal} (something : capacity ≠ 0)
      (refused : allocator 0 capacity = some refusal) :
      Made allocator capacity (.error ⟨0, capacity, refusal⟩)

theorem made (allocator : Allocator) (capacity : Nat) :
    Made allocator capacity (ofCapacity allocator capacity) := by
  unfold ofCapacity
  by_cases nothing : capacity = 0
  · rw [if_pos nothing]
    exact .empty nothing
  · rw [if_neg nothing]
    cases answer : allocator 0 capacity with
    | none =>
      simp only [reserve, answer]
      exact .granted nothing answer
    | some refusal =>
      simp only [reserve, answer]
      exact .refused nothing answer

theorem made_of_ofCapacity {allocator : Allocator} {capacity : Nat} {outcome : Except BufferFault Buffer}
    (asked : ofCapacity allocator capacity = outcome) : Made allocator capacity outcome :=
  asked ▸ made allocator capacity

/-- A buffer that was made has the capacity it was asked for. -/
theorem frame_of_ofCapacity {allocator : Allocator} {capacity : Nat}
    (asked : ofCapacity allocator capacity = .ok buffer) :
    buffer.allocator = allocator ∧ buffer.capacity = capacity := by
  cases made_of_ofCapacity asked with
  | empty nothing => exact ⟨rfl, nothing.symm⟩
  | granted something granted => exact ⟨rfl, Nat.zero_max capacity⟩

end Buffer

end BurstRelay

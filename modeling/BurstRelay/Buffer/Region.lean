import BurstRelay.Bytes.Basic

/-!
# Memory regions

A region is so many addressable bytes. Only the bytes up to the last one written are stored; all
behind them are zero, as fresh memory is. `Region.toList` is the whole content.
-/

namespace BurstRelay

/-- So many addressable bytes. -/
structure Region where
  /-- The number of addressable bytes. -/
  size : Nat
  /-- The bytes at the start; those behind them are zero. -/
  stored : Bytes
  stored_le : stored.length ≤ size

namespace Region

def zeros (size : Nat) : Region := ⟨size, [], by simp⟩

def toList (region : Region) : Bytes :=
  region.stored ++ List.replicate (region.size - region.stored.length) 0

@[simp] theorem length_toList (region : Region) : region.toList.length = region.size := by
  have fits := region.stored_le
  simp only [toList, List.length_append, List.length_replicate]
  omega

/-- The first `count` bytes, or all if there are fewer. -/
def first (region : Region) (count : Nat) : Bytes :=
  let count := min count region.size
  region.stored.take count ++ List.replicate (count - region.stored.length) 0

theorem first_eq_take (region : Region) (count : Nat) :
    region.first count = region.toList.take count := by
  have fits := region.stored_le
  simp only [first, toList, List.take_append, List.take_replicate]
  congr 1
  · rcases Nat.le_total count region.size with within | beyond
    · rw [Nat.min_eq_left within]
    · rw [Nat.min_eq_right beyond, List.take_of_length_le fits,
        List.take_of_length_le (by omega)]
  · congr 1
    omega

/-- Writes bytes over those from an offset on; bytes that would lie behind the end are dropped. -/
def write (region : Region) (offset : Nat) (bytes : Bytes) : Region where
  size := region.size
  stored :=
    (region.stored.take offset ++ List.replicate (min offset region.size - region.stored.length) 0 ++
      bytes ++ region.stored.drop (offset + bytes.length)).take region.size
  stored_le := List.length_take_le _ _

@[simp] theorem size_write (region : Region) (offset : Nat) (bytes : Bytes) :
    (region.write offset bytes).size = region.size := rfl

/-- Adds zeros behind the end, up to a size; a region that has the size already stays as it is. -/
def grow (region : Region) (size : Nat) : Region where
  size := max region.size size
  stored := region.stored
  stored_le := by have fits := region.stored_le; omega

end Region

end BurstRelay

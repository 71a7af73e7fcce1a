import BurstRelay.Bytes.Cursor
import BurstRelay.Wire.Fault

/-!
# Numbers of variable length

A number below 2^64 takes one to ten bytes: seven bits in each, the lowest first, and every byte but
the last has its high bit set. A reader accepts a number that is longer than it needs to be, but no
tenth byte above one.
-/

namespace BurstRelay.Wire

def encodeVarint (value : Nat) : Bytes :=
  if value < 128 then [UInt8.ofNat value]
  else UInt8.ofNat (value % 128 + 128) :: encodeVarint (value / 128)
termination_by value

/-- Reads a number that has at most `more` bytes before the tenth. -/
def varintWithin? : Nat → Cursor → Option (Nat × Cursor)
  | 0, cursor =>
    match cursor.next? with
    | none => none
    | some (byte, rest) => if byte.toNat ≤ 1 then some (byte.toNat, rest) else none
  | more + 1, cursor =>
    match cursor.next? with
    | none => none
    | some (byte, rest) =>
      if byte.toNat < 128 then some (byte.toNat, rest)
      else (varintWithin? more rest).map fun (high, rest) => (byte.toNat - 128 + 128 * high, rest)

def varint (cursor : Cursor) : Except Cause (Nat × Cursor) :=
  match varintWithin? 9 cursor with
  | some result => .ok result
  | none => .error .malformedVarint

/-- A number that fits the bytes that are allowed is read back, and what follows it is left. -/
theorem varintWithin?_encodeVarint {value more : Nat} (rest : Bytes)
    (fits : value < Nat.pow 2 (7 * more + 1)) :
    varintWithin? more (.of (encodeVarint value ++ rest)) = some (value, .of rest) := by
  induction more generalizing value with
  | zero =>
    have small : value < 2 := fits
    rw [encodeVarint, if_pos (by omega)]
    have same : (UInt8.ofNat value).toNat = value := by simp; omega
    simp only [varintWithin?, List.cons_append, List.nil_append, Cursor.next?_of_cons, same]
    rw [if_pos (by omega)]
  | succ more ih =>
    rw [encodeVarint]
    split
    · rename_i small
      have same : (UInt8.ofNat value).toNat = value := by simp; omega
      simp only [varintWithin?, List.cons_append, List.nil_append, Cursor.next?_of_cons, same]
      rw [if_pos small]
    · have low : (UInt8.ofNat (value % 128 + 128)).toNat = value % 128 + 128 := by simp; omega
      have high : value / 128 < Nat.pow 2 (7 * more + 1) := by
        apply Nat.div_lt_of_lt_mul
        calc
          value < Nat.pow 2 (7 * (more + 1) + 1) := fits
          _ = 128 * Nat.pow 2 (7 * more + 1) := by
            rw [show 7 * (more + 1) + 1 = 7 + (7 * more + 1) by omega, Nat.pow_eq, Nat.pow_eq,
              Nat.pow_add]
      have sum : value % 128 + 128 - 128 + 128 * (value / 128) = value := by omega
      simp only [varintWithin?, List.cons_append, Cursor.next?_of_cons, low, ih high,
        Option.map_some]
      rw [if_neg (by omega), sum]

/-- A number of sixty-four bits is read back, and what follows it is left. -/
theorem varint_encodeVarint {value : Nat} (rest : Bytes) (fits : value < UInt64.size) :
    varint (.of (encodeVarint value ++ rest)) = .ok (value, .of rest) := by
  rw [varint, varintWithin?_encodeVarint rest (by simpa using fits)]

/-- The number that stands for a signed one: those near zero are small, whatever their sign. -/
def zigzag (value : Int64) : Nat :=
  if value < 0 then (-2 * value.toInt - 1).toNat else (2 * value.toInt).toNat

/-- The signed number that a number below 2^64 stands for. -/
def unzigzag (value : Nat) : Int64 :=
  if value % 2 = 0 then Int64.ofNat (value / 2) else Int64.ofInt (-(value / 2) - 1)

theorem zigzag_lt (value : Int64) : zigzag value < UInt64.size := by
  have low := value.le_toInt
  have high := value.toInt_lt
  unfold zigzag UInt64.size
  split <;> omega

/-- The number that stands for a signed one stands for no other. -/
@[simp] theorem unzigzag_zigzag (value : Int64) : unzigzag (zigzag value) = value := by
  have low := value.le_toInt
  have high := value.toInt_lt
  unfold zigzag
  split
  · rename_i negative
    rw [Int64.lt_iff_toInt_lt, Int64.toInt_zero] at negative
    rw [unzigzag, if_neg (by omega)]
    have same : -((((-2 * value.toInt - 1).toNat : Nat) : Int) / 2) - 1 = value.toInt := by omega
    rw [same, Int64.ofInt_toInt]
  · rename_i positive
    rw [Int64.lt_iff_toInt_lt, Int64.toInt_zero] at positive
    rw [unzigzag, if_pos (by omega)]
    have same : (2 * value.toInt).toNat / 2 = value.toInt.toNat := by omega
    rw [same, ← Int64.ofInt_eq_ofNat, Int.toNat_of_nonneg (by omega), Int64.ofInt_toInt]

end BurstRelay.Wire

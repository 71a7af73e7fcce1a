import BurstRelay.Burst.Payload

/-!
# The slices of a payload

Reading a payload takes three slices of it: two numbers and the body (`parse_of_lt`). `Payload.parse?`
reads a payload with slices that may not exist, and `parse?_eq` says that they always do, for any bytes:
the length is checked before the first slice is taken.
-/

namespace BurstRelay

namespace Bytes

/-- The bytes from an offset up to another one, if there are that many. -/
def slice? (bytes : Bytes) (start stop : Nat) : Option Bytes :=
  if start ≤ stop ∧ stop ≤ bytes.length then some ((bytes.drop start).take (stop - start)) else none

theorem slice?_of_le {bytes : Bytes} {start stop : Nat} (ordered : start ≤ stop)
    (within : stop ≤ bytes.length) :
    slice? bytes start stop = some ((bytes.drop start).take (stop - start)) :=
  if_pos ⟨ordered, within⟩

/-- The number in the four bytes at an offset, lowest first. -/
def word (bytes : Bytes) (offset : Nat) : Nat := ofLittleEndian ((bytes.drop offset).take 4)

theorem word_lt (bytes : Bytes) (offset : Nat) : word bytes offset < UInt32.size := by
  have below := ofLittleEndian_lt ((bytes.drop offset).take 4)
  have short : ((bytes.drop offset).take 4).length ≤ 4 := List.length_take_le _ _
  have most : Nat.pow 256 ((bytes.drop offset).take 4).length ≤ Nat.pow 256 4 :=
    Nat.pow_le_pow_right (by omega) short
  exact Nat.lt_of_lt_of_le below most

end Bytes

/-- The header at the start of a payload that is longer than one. -/
theorem Header.decode?_of_lt {payload : Bytes} (long : Header.size < payload.length) :
    Header.decode? payload = some
      { declaredUncompressed := .ofNat (Bytes.word payload 0)
        declaredCompressed := .ofNat (Bytes.word payload 4) } := by
  match payload, long with
  | a :: b :: c :: d :: e :: f :: g :: h :: rest, _ => rfl

namespace Payload

/-- Reads a payload, or nothing if a slice of it does not exist. -/
def parse? (payload : Bytes) : Option (Except BurstFault Payload) :=
  if payload.length ≤ Header.size then some (.error (.shortPayload payload.length))
  else do
    let declared ← Bytes.slice? payload 0 4
    let sent ← Bytes.slice? payload 4 8
    let body ← Bytes.slice? payload Header.size payload.length
    let header : Header :=
      { declaredUncompressed := .ofNat (Bytes.ofLittleEndian declared)
        declaredCompressed := .ofNat (Bytes.ofLittleEndian sent) }
    return if payload.length = header.payloadLength then .ok ⟨header, body⟩
      else .error (.lengthMismatch payload.length header.declaredCompressed)

theorem parse_of_le {payload : Bytes} (short : payload.length ≤ Header.size) :
    parse payload = .error (.shortPayload payload.length) := if_pos short

/-- A payload that is longer than a header is read by the two numbers in front of its body. -/
theorem parse_of_lt {payload : Bytes} (long : Header.size < payload.length) :
    parse payload =
      if payload.length = Header.size + Bytes.word payload 4 then
        .ok ⟨⟨.ofNat (Bytes.word payload 0), .ofNat (Bytes.word payload 4)⟩,
          payload.drop Header.size⟩
      else .error (.lengthMismatch payload.length (.ofNat (Bytes.word payload 4))) := by
  unfold parse Header.payloadLength
  dsimp only
  rw [if_neg (Nat.not_le_of_lt long), Header.decode?_of_lt long]
  dsimp only
  rw [UInt32.toNat_ofNat_of_lt' (Bytes.word_lt payload 4), Nat.add_comm]

/-- Every slice that reading a payload takes lies inside the payload. -/
theorem parse?_eq (payload : Bytes) : parse? payload = some (parse payload) := by
  unfold parse? parse
  dsimp only
  by_cases short : payload.length ≤ Header.size
  · rw [if_pos short, if_pos short]
  · have long : Header.size < payload.length := Nat.lt_of_not_le short
    have size : Header.size = 8 := rfl
    have whole : (payload.drop Header.size).take (payload.length - Header.size) =
        payload.drop Header.size := by
      rw [← List.length_drop, List.take_length]
    rw [if_neg short, if_neg short, Header.decode?_of_lt long,
      Bytes.slice?_of_le (by omega) (by omega), Bytes.slice?_of_le (by omega) (by omega),
      Bytes.slice?_of_le (by omega) (by omega), whole]
    rfl

end Payload

end BurstRelay

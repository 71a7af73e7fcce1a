import BurstRelay.Proofs.Record.Delivery

/-!
# Lines of hexadecimal digits

A record in hexadecimal form is a line of lowercase digits. A reader of such lines has back all
records of a stream of them (`readLines_stream`): no digit ends a line, so that every line is one
record, and two digits are one byte.
-/

namespace BurstRelay

/-! ## Digits -/

namespace Hex

/-- Each of the sixteen digits has its value, is a single byte, and does not end a line. -/
theorem digit_spec : ∀ value < 16, value? (digit value) = some value ∧
    Char.ofNat (UInt8.ofNat (digit value).toNat).toNat = digit value ∧
    UInt8.ofNat (digit value).toNat ≠ 10 := by
  decide

theorem halves_lt (byte : UInt8) : byte.toNat / 16 < 16 ∧ byte.toNat % 16 < 16 := by
  have small := byte.toNat_lt
  constructor
  · omega
  · omega

@[simp] theorem decode?_encode (bytes : Bytes) : decode? (encode bytes) = some bytes := by
  induction bytes with
  | nil => rfl
  | cons byte bytes ih =>
    obtain ⟨high, low⟩ := halves_lt byte
    have halves : 16 * (byte.toNat / 16) + byte.toNat % 16 = byte.toNat := by omega
    show decode? (digit (byte.toNat / 16) :: digit (byte.toNat % 16) :: encode bytes) = _
    rw [decode?, (digit_spec _ high).1, (digit_spec _ low).1, ih]
    show some (UInt8.ofNat (16 * (byte.toNat / 16) + byte.toNat % 16) :: bytes) = _
    rw [halves, UInt8.ofNat_toNat]

theorem digit_of_mem_encode {bytes : Bytes} {char : Char} (member : char ∈ encode bytes) :
    ∃ value < 16, char = digit value := by
  obtain ⟨byte, -, pair⟩ := List.mem_flatMap.mp member
  obtain ⟨high, low⟩ := halves_lt byte
  simp only [List.mem_cons, List.not_mem_nil, or_false] at pair
  rcases pair with rfl | rfl
  · exact ⟨_, high, rfl⟩
  · exact ⟨_, low, rfl⟩

/-- The characters of the bytes of a text in digits are the digits. -/
theorem chars_ascii (bytes : Bytes) :
    (ascii bytes).map (fun byte => Char.ofNat byte.toNat) = encode bytes := by
  unfold ascii
  rw [List.map_map]
  refine (List.map_congr_left ?_).trans (List.map_id _)
  intro char member
  obtain ⟨value, small, rfl⟩ := digit_of_mem_encode member
  exact (digit_spec value small).2.1

theorem newline_not_mem_ascii (bytes : Bytes) : 10 ∉ ascii bytes := by
  intro member
  obtain ⟨char, digits, newline⟩ := List.mem_map.mp member
  obtain ⟨value, small, rfl⟩ := digit_of_mem_encode digits
  exact (digit_spec value small).2.2 newline

end Hex

/-! ## Lines -/

namespace Record

/-- The records of a text whose lines are records in lowercase digits, behind what was read of a line
before; there are none if a line has no end or is something else. -/
def readLines? (line : Bytes) : Bytes → Option (List Bytes)
  | [] => if line = [] then some [] else none
  | byte :: rest =>
    if byte = 10 then do
      let record ← Hex.decode? (line.map fun digit => Char.ofNat digit.toNat)
      let records ← readLines? [] rest
      return record :: records
    else readLines? (line ++ [byte]) rest

/-- Bytes that do not end a line are gathered up to the end of the line. -/
theorem readLines_append {digits : Bytes} (inline : 10 ∉ digits) (line rest : Bytes) :
    readLines? line (digits ++ 10 :: rest) = readLines? (line ++ digits) (10 :: rest) := by
  induction digits generalizing line with
  | nil => rw [List.append_nil, List.nil_append]
  | cons digit digits ih =>
    have here : digit ≠ 10 := by
      rintro rfl
      exact inline (List.mem_cons_self ..)
    have behind : 10 ∉ digits := by
      intro member
      exact inline (List.mem_cons_of_mem _ member)
    rw [List.cons_append, readLines?, if_neg here, ih behind, List.append_assoc]
    rfl

/-- The records of a stream of lines are read back. -/
theorem readLines_stream (records : List Bytes) :
    readLines? [] (stream .hex records) = some records := by
  induction records with
  | nil => rfl
  | cons record records ih =>
    show readLines? [] ((Hex.ascii record ++ [10]) ++ stream .hex records) = _
    rw [List.append_assoc, List.singleton_append, readLines_append (Hex.newline_not_mem_ascii record),
      List.nil_append, readLines?, if_pos rfl, Hex.chars_ascii, Hex.decode?_encode, ih]
    rfl

end Record

end BurstRelay

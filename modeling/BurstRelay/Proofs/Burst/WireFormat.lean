import BurstRelay.Proofs.Burst.RoundTrip

/-!
# The wire format of bursts

A byte string is a payload exactly when it was written for some body and some declared size, which it
then says without doubt (`parse_eq_ok`, `Spells.unique`). Every other byte string is refused with its
length and with what its header says, and with a diagnosis that is a matter of three lengths: the one
that arrived, the one declared, and the one that the same four bytes declare in the other order
(`refused_of_parse`).

The length that a header describes fits sixty-four bits whatever is declared, so that comparing it with
a length of a machine is comparing numbers (`Header.eq_payloadLength_iff`).
-/

namespace BurstRelay

namespace Bytes

theorem littleEndian_word {bytes : Bytes} {offset : Nat} (within : offset + 4 ≤ bytes.length) :
    littleEndian 4 (word bytes offset) = (bytes.drop offset).take 4 := by
  have four : ((bytes.drop offset).take 4).length = 4 := by
    rw [List.length_take, List.length_drop]
    omega
  have spelled := littleEndian_ofLittleEndian ((bytes.drop offset).take 4)
  rw [four] at spelled
  exact spelled

end Bytes

namespace Header

/-- The header at the start of a payload is written as the first eight bytes of it. -/
theorem encode_words {payload : Bytes} (long : Header.size < payload.length) :
    encode ⟨.ofNat (Bytes.word payload 0), .ofNat (Bytes.word payload 4)⟩ =
      payload.take Header.size := by
  have size : Header.size = 8 := rfl
  unfold encode
  dsimp only
  rw [UInt32.toNat_ofNat_of_lt' (Bytes.word_lt payload 0),
    UInt32.toNat_ofNat_of_lt' (Bytes.word_lt payload 4), Bytes.littleEndian_word (by omega),
    Bytes.littleEndian_word (by omega), List.drop_zero, ← List.take_add, size]

/-- In sixty-four bits no declared size makes the length that a header describes wrap. -/
theorem eq_payloadLength_iff (header : Header) {length : Nat} (fits : length < UInt64.size) :
    UInt64.ofNat length = header.declaredCompressed.toUInt64 + UInt64.ofNat Header.size ↔
      length = header.payloadLength := by
  have declared : header.declaredCompressed.toNat < 4294967296 := header.declaredCompressed.toNat_lt
  have exact : (header.declaredCompressed.toUInt64 + UInt64.ofNat size).toNat =
      header.payloadLength := by
    rw [UInt64.toNat_add, UInt32.toNat_toUInt64]
    exact Nat.mod_eq_of_lt (by show header.declaredCompressed.toNat + 8 < _; omega)
  rw [← UInt64.toNat_inj, UInt64.toNat_ofNat_of_lt' fits, exact]

end Header

namespace Payload

variable {payload body otherBody : Bytes} {declared otherDeclared : UInt32} {burst : Payload}

/-- A payload that was written for a body, which is not empty and not longer than four bytes can say. -/
structure Spells (payload : Bytes) (declared : UInt32) (body : Bytes) : Prop where
  nonempty : body ≠ []
  short : body.length < UInt32.size
  written : payload = encode declared body

/-- The burst of a body and of the size of the record inside it. -/
def ofBody (declared : UInt32) (body : Bytes) : Payload := ⟨⟨declared, .ofNat body.length⟩, body⟩

theorem parse_of_spells (spells : Spells payload declared body) :
    parse payload = .ok (ofBody declared body) := by
  rw [spells.written]
  exact parse_encode spells.nonempty spells.short

/-- A payload that has the length that its header describes was written for the bytes behind its
header. -/
theorem spells_of_length (long : Header.size < payload.length)
    (whole : payload.length = Header.size + Bytes.word payload 4) :
    Spells payload (.ofNat (Bytes.word payload 0)) (payload.drop Header.size) := by
  have body : (payload.drop Header.size).length = Bytes.word payload 4 := by
    rw [List.length_drop]
    omega
  constructor
  case nonempty =>
    apply List.ne_nil_of_length_pos
    omega
  case short =>
    rw [body]
    exact Bytes.word_lt payload 4
  case written =>
    rw [encode, body, Header.encode_words long, List.take_append_drop]

/-- What is read is what was written, and nothing else is read. -/
theorem parse_eq_ok : parse payload = .ok burst ↔
    ∃ declared body, Spells payload declared body ∧ burst = ofBody declared body := by
  constructor
  · intro read
    rcases Nat.lt_or_ge Header.size payload.length with long | short
    · by_cases whole : payload.length = Header.size + Bytes.word payload 4
      · have spells := spells_of_length long whole
        refine ⟨_, _, spells, ?_⟩
        rw [parse_of_spells spells] at read
        exact (Except.ok.inj read).symm
      · rw [parse_of_lt long, if_neg whole] at read
        cases read
    · rw [parse_of_le short] at read
      cases read
  · rintro ⟨declared, body, spells, rfl⟩
    exact parse_of_spells spells

/-- A payload says its body and the declared size without doubt. -/
theorem Spells.unique (first : Spells payload declared body)
    (second : Spells payload otherDeclared otherBody) :
    otherDeclared = declared ∧ otherBody = body := by
  have same := (parse_of_spells first).symm.trans (parse_of_spells second)
  simp only [ofBody, Except.ok.injEq, Payload.mk.injEq, Header.mk.injEq] at same
  obtain ⟨⟨rfl, -⟩, rfl⟩ := same
  exact ⟨rfl, rfl⟩

/-- What the diagnosis of a payload is, by the size that its header declares, by the size that the same
four bytes declare in the other order, and by the number of bytes behind the header. -/
structure Diagnosed (declared reversed carried : Nat) (diagnosis : Diagnosis) : Prop where
  byteOrder : diagnosis = .byteOrder ↔ reversed = carried
  truncated : diagnosis = .truncated ↔ reversed ≠ carried ∧ carried < declared
  trailing : diagnosis = .trailing ↔ reversed ≠ carried ∧ ¬carried < declared

theorem diagnosed (declared reversed carried : Nat) : Diagnosed declared reversed carried
    (if reversed = carried then .byteOrder else if carried < declared then .truncated
      else .trailing) := by
  by_cases swapped : reversed = carried
  · constructor <;> simp [swapped]
  · by_cases cut : carried < declared
    · constructor <;> simp [swapped, cut]
    · constructor <;> simp [swapped, cut]

/-- The size that bytes five to eight of a payload declare. -/
def declaredSize (payload : Bytes) : Nat := Bytes.ofLittleEndian ((payload.drop 4).take 4)

/-- The size that the same four bytes declare when the highest of them stands first. -/
def reversedSize (payload : Bytes) : Nat := Bytes.ofBigEndian ((payload.drop 4).take 4)

/-- What the fault of a payload says: its length, and beyond a bare header what was declared. -/
structure Refused (payload : Bytes) (fault : BurstFault) : Prop where
  short : payload.length ≤ Header.size → fault =
    .malformedHeader payload.length none (if payload.length = 0 then .empty else .headerOnly)
  long : Header.size < payload.length → ∃ declared diagnosis,
    fault = .malformedHeader payload.length (some declared) diagnosis ∧
      declared.toNat = declaredSize payload ∧
      Diagnosed (declaredSize payload) (reversedSize payload) (payload.length - Header.size) diagnosis

theorem reversedWord_word (long : Header.size < payload.length) :
    BurstFault.reversedWord (.ofNat (Bytes.word payload 4)) = reversedSize payload := by
  have size : Header.size = 8 := rfl
  unfold BurstFault.reversedWord reversedSize
  rw [UInt32.toNat_ofNat_of_lt' (Bytes.word_lt payload 4), Bytes.littleEndian_word (by omega)]

/-- The faults of payloads that are longer than their headers, by what the diagnosis compares. -/
theorem refused_lengthMismatch (long : Header.size < payload.length) :
    Refused payload (.lengthMismatch payload.length (.ofNat (Bytes.word payload 4))) := by
  constructor
  case short =>
    intro short
    exact absurd long (Nat.not_lt_of_le short)
  case long =>
    intro _
    refine ⟨_, _, rfl, UInt32.toNat_ofNat_of_lt' (Bytes.word_lt payload 4), ?_⟩
    rw [reversedWord_word long, UInt32.toNat_ofNat_of_lt' (Bytes.word_lt payload 4)]
    exact diagnosed (declaredSize payload) _ _

/-- A payload that is not read is refused for its own length and header. -/
theorem refused_of_parse {fault : BurstFault} (refused : parse payload = .error fault) :
    Refused payload fault := by
  rcases Nat.lt_or_ge Header.size payload.length with long | short
  · rw [parse_of_lt long] at refused
    split at refused
    · cases refused
    · cases refused
      exact refused_lengthMismatch long
  · rw [parse_of_le short] at refused
    cases refused
    constructor
    case short => exact fun _ => rfl
    case long =>
      intro long
      exact absurd long (Nat.not_lt_of_le short)

end Payload

/-- Writing and reading bursts are inverse to each other, and every other byte string is refused. What was
written is read back; what is read was written, for one body and one declared size; the rest is refused
with a fault that says what was wrong; and comparing lengths in sixty-four bits compares them. -/
theorem burst_wire_format :
    (∀ (declared : UInt32) (body : Bytes), body ≠ [] → body.length < UInt32.size →
      Payload.parse (Payload.encode declared body) =
        .ok ⟨⟨declared, .ofNat body.length⟩, body⟩ ∧
      (UInt32.ofNat body.length).toNat = body.length) ∧
    (∀ (payload : Bytes) (burst : Payload), Payload.parse payload = .ok burst ↔
      ∃ declared body, Payload.Spells payload declared body ∧
        burst = Payload.ofBody declared body) ∧
    (∀ (payload body otherBody : Bytes) (declared otherDeclared : UInt32),
      Payload.Spells payload declared body → Payload.Spells payload otherDeclared otherBody →
      otherDeclared = declared ∧ otherBody = body) ∧
    (∀ payload : Bytes, (¬∃ declared body, Payload.Spells payload declared body) →
      ∃ fault, Payload.parse payload = .error fault ∧ Payload.Refused payload fault) ∧
    (∀ (header : Header) (length : Nat), length < UInt64.size →
      (UInt64.ofNat length = header.declaredCompressed.toUInt64 + UInt64.ofNat Header.size ↔
        length = header.payloadLength)) := by
  refine ⟨?_, fun payload burst => Payload.parse_eq_ok, ?_, ?_,
    fun header length fits => header.eq_payloadLength_iff fits⟩
  · intro declared body nonempty short
    exact ⟨Payload.parse_encode nonempty short, UInt32.toNat_ofNat_of_lt' short⟩
  · intro payload body otherBody declared otherDeclared first second
    exact first.unique second
  · intro payload unspelled
    cases read : Payload.parse payload with
    | ok burst =>
      obtain ⟨declared, body, spells, -⟩ := Payload.parse_eq_ok.mp read
      exact absurd ⟨declared, body, spells⟩ unspelled
    | error fault => exact ⟨fault, rfl, Payload.refused_of_parse read⟩

/-- A burst is read back, the same burst with the size of its body written the other way round is refused
for that, and a header that declares the most is not taken for one that declares nothing. -/
theorem reversed_burst_is_refused :
    Payload.parse (Payload.encode 300 [16, 32]) = .ok ⟨⟨300, 2⟩, [16, 32]⟩ ∧
    (∃ fault, Payload.parse [44, 1, 0, 0, 0, 0, 0, 2, 16, 32] = .error fault ∧
      Payload.Refused [44, 1, 0, 0, 0, 0, 0, 2, 16, 32] fault) ∧
    UInt64.ofNat 7 ≠ (Header.mk 300 4294967295).declaredCompressed.toUInt64 +
      UInt64.ofNat Header.size := by
  obtain ⟨writes, reads, -, refuses, compares⟩ := burst_wire_format
  refine ⟨(writes 300 [16, 32] (by decide) (by decide)).1, refuses _ ?_, ?_⟩
  · rintro ⟨declared, body, spells⟩
    have read := (reads _ _).mpr ⟨declared, body, spells, rfl⟩
    have refused : Payload.parse [44, 1, 0, 0, 0, 0, 0, 2, 16, 32] =
        .error (.malformedHeader 10 (some 33554432) .byteOrder) := rfl
    rw [refused] at read
    cases read
  · rw [Ne, compares ⟨300, 4294967295⟩ 7 (by decide)]
    decide

end BurstRelay

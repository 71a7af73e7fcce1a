import BurstRelay.Proofs.Burst.Slices

/-!
# Payloads are read back

A payload that was written for a body is read as that body, with the declared size that was given.
The body has at least one byte, and not more than four bytes of length can say.
-/

namespace BurstRelay

namespace Bytes

theorem word_littleEndian {value : Nat} (fits : value < UInt32.size) (rest : Bytes) :
    word (littleEndian 4 value ++ rest) 0 = value := by
  have spelled : (littleEndian 4 value ++ rest).take 4 = littleEndian 4 value :=
    List.take_left' (length_littleEndian 4 value)
  show ofLittleEndian (((littleEndian 4 value ++ rest).drop 0).take 4) = value
  rw [List.drop_zero, spelled, ofLittleEndian_littleEndian]
  exact Nat.mod_eq_of_lt fits

theorem word_behind {first : Bytes} (four : first.length = 4) (rest : Bytes) :
    word (first ++ rest) 4 = word rest 0 := by
  show ofLittleEndian (((first ++ rest).drop 4).take 4) = _
  rw [List.drop_left' four]
  rfl

end Bytes

namespace Payload

variable {declared : UInt32} {body : Bytes}

theorem length_encode (declared : UInt32) (body : Bytes) :
    (encode declared body).length = 8 + body.length := by
  simp only [encode, Header.encode, List.length_append, Bytes.length_littleEndian]

theorem word_zero_encode (declared : UInt32) (body : Bytes) :
    Bytes.word (encode declared body) 0 = declared.toNat := by
  unfold encode Header.encode
  rw [List.append_assoc]
  exact Bytes.word_littleEndian declared.toNat_lt _

theorem word_four_encode (declared : UInt32) (short : body.length < UInt32.size) :
    Bytes.word (encode declared body) 4 = body.length := by
  unfold encode Header.encode
  rw [List.append_assoc, Bytes.word_behind (Bytes.length_littleEndian 4 _)]
  dsimp only
  rw [UInt32.toNat_ofNat_of_lt' short]
  exact Bytes.word_littleEndian short body

theorem drop_encode (declared : UInt32) (body : Bytes) : (encode declared body).drop 8 = body :=
  List.drop_left' (by simp [Header.encode])

/-- A payload is read as it was written. -/
theorem parse_encode (some : body ≠ []) (short : body.length < UInt32.size) :
    parse (encode declared body) = .ok ⟨⟨declared, .ofNat body.length⟩, body⟩ := by
  have bytes := List.length_pos_iff.mpr some
  have long : Header.size < (encode declared body).length := by
    rw [length_encode]
    show 8 < 8 + body.length
    omega
  have whole : (encode declared body).length =
      Header.size + Bytes.word (encode declared body) 4 := by
    rw [length_encode, word_four_encode declared short]
    rfl
  rw [parse_of_lt long, if_pos whole, word_zero_encode, word_four_encode declared short,
    UInt32.ofNat_toNat]
  exact congrArg (fun bytes => Except.ok (Payload.mk _ bytes)) (drop_encode declared body)

end Payload

end BurstRelay

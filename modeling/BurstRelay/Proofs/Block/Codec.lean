import BurstRelay.Block.Codec
import BurstRelay.Proofs.Block.Capacity
import BurstRelay.Proofs.Buffer.Growth

/-!
# Bursts of compressed blocks

What the codec for compressed blocks makes of a burst depends on the burst and on the size of the
region alone: not on what the region held before, because the record is read back from the bytes
that were just written (`Region.first_write_append`), and not on what the library leaves behind them.
`Block.recordIn` is that function, and `decompress_block` says that it is what checked decompression
computes.
-/

namespace BurstRelay

namespace Block

/-- The fault of a body that the decoder refuses. -/
def refusal (body : Bytes) : BurstFault :=
  .codecFailure "lz4" (.refused "Decompression failed. Input invalid or too long?") body.length

/-- The fault of a body, whatever it is, in a region that the library does not take. -/
def oversized (body : Bytes) : BurstFault :=
  .codecFailure "lz4" (.refused "Given size parameter is too big") body.length

/-- A library with this limit takes regions of so many bytes. -/
def Takes (limit size : Nat) : Prop := min size Codec.blockLimit ≤ limit

instance (limit size : Nat) : Decidable (Takes limit size) :=
  inferInstanceAs (Decidable (_ ≤ _))

theorem Takes.shrink {limit small large : Nat} (le : small ≤ large) (takes : Takes limit large) :
    Takes limit small := by
  unfold Takes at takes ⊢
  omega

/-- A library that takes whatever the format has takes every region. -/
theorem takes_blockLimit (size : Nat) : Takes Codec.blockLimit size := Nat.min_le_right _ _

theorem takes_inputLimit {size : Nat} : Takes inputLimit size ↔ size ≤ inputLimit := by
  have limit : inputLimit < Codec.blockLimit := by decide
  unfold Takes
  omega

/-- The record of a body that is decoded into a region of so many bytes, by a library with this limit:
exactly the declared number of bytes, and not none. -/
def recordIn (limit : Nat) (declared : UInt32) (size : Nat) (body : Bytes) :
    Except BurstFault Bytes :=
  if Takes limit size then
    match decode (min size Codec.blockLimit) body with
    | .error _ => .error (refusal body)
    | .ok record =>
      if record = [] then .error (.codecFailure "lz4" .nothingProduced body.length)
      else if record.length = declared.toNat then .ok record
      else .error (.sizeMismatch declared record.length)
  else .error (oversized body)

variable {limit : Nat} {declared : UInt32} {body record : Bytes}

theorem recordIn_of_not_takes {size : Nat} (beyond : ¬ Takes limit size) :
    recordIn limit declared size body = .error (oversized body) := if_neg beyond

theorem recordIn_eq_ok {size : Nat} :
    recordIn limit declared size body = .ok record ↔
      Takes limit size ∧ decode (min size Codec.blockLimit) body = .ok record ∧ record ≠ [] ∧
        record.length = declared.toNat := by
  unfold recordIn
  constructor
  · intro done
    split at done
    · rename_i takes
      split at done
      · cases done
      · rename_i produced decoded
        split at done
        · cases done
        · rename_i some
          split at done
          · rename_i whole
            cases done
            exact ⟨takes, decoded, some, whole⟩
          · cases done
    · cases done
  · rintro ⟨takes, decoded, some, whole⟩
    rw [if_pos takes, decoded]
    dsimp only
    rw [if_neg some, if_pos whole]

/-- A record that is decoded into some region is decoded into every larger one that is taken. -/
theorem recordIn_grow {otherLimit small large : Nat} (le : small ≤ large)
    (takes : Takes otherLimit large) (done : recordIn limit declared small body = .ok record) :
    recordIn otherLimit declared large body = .ok record := by
  obtain ⟨-, decoded, some, whole⟩ := recordIn_eq_ok.mp done
  exact recordIn_eq_ok.mpr ⟨takes, decode_grow (by omega) decoded, some, whole⟩

/-- A record is decoded into every region that has `spare` bytes more than it. -/
theorem recordIn_shrink {small large : Nat} (free : declared.toNat + spare ≤ small)
    (le : small ≤ large) (done : recordIn limit declared large body = .ok record) :
    recordIn limit declared small body = .ok record := by
  obtain ⟨takes, decoded, some, whole⟩ := recordIn_eq_ok.mp done
  refine recordIn_eq_ok.mpr ⟨takes.shrink le, ?_, some, whole⟩
  by_cases beyond : Codec.blockLimit ≤ small
  · -- above the limit of the format all regions are the same to the decoder
    rw [Nat.min_eq_right beyond]
    rw [Nat.min_eq_right (Nat.le_trans beyond le)] at decoded
    exact decoded
  · refine decode_shrink decoded ?_
    rw [whole]
    omega

/-- A body that is a record in a larger region and none in a smaller one is refused there, and it is
too near to the end of the smaller region. -/
theorem refused_of_recordIn {small large : Nat} {fault : BurstFault} (le : small ≤ large)
    (done : recordIn limit declared large body = .ok record)
    (failed : recordIn limit declared small body = .error fault) :
    fault = refusal body ∧ small < declared.toNat + spare ∧ small < large := by
  refine ⟨?_, ?_, ?_⟩
  · obtain ⟨takes, decodedLarge, some, whole⟩ := recordIn_eq_ok.mp done
    have within := takes.shrink le
    cases decoded : decode (min small Codec.blockLimit) body with
    | error cause =>
      unfold recordIn at failed
      rw [if_pos within, decoded] at failed
      cases failed
      rfl
    | ok found =>
      -- what the smaller region gives is what the larger one gives, and that is a record
      have grown : decode (min large Codec.blockLimit) body = .ok found :=
        decode_grow (by omega) decoded
      cases decodedLarge.symm.trans grown
      have succeeds := recordIn_eq_ok.mpr ⟨within, decoded, some, whole⟩
      cases failed.symm.trans succeeds
  · refine Nat.lt_of_not_le ?_
    intro free
    cases failed.symm.trans (recordIn_shrink free le done)
  · refine Nat.lt_of_le_of_ne le ?_
    rintro rfl
    cases failed.symm.trans done

end Block

/-! ## Checked decompression -/

/-- A codec that stays inside its region is checked against the declared size alone. -/
theorem Payload.checkProduced_of_le {payload : Payload} {codec : String} {room produced : Nat}
    (within : produced ≤ room) :
    payload.checkProduced codec room (.ok produced) =
      if produced = 0 then .error (.codecFailure codec .nothingProduced payload.body.length)
      else if produced = payload.header.declaredUncompressed.toNat then .ok produced
      else .error (.sizeMismatch payload.header.declaredUncompressed produced) := by
  unfold checkProduced
  dsimp only
  rw [if_neg (Nat.not_lt.mpr within)]
  by_cases whole : produced = payload.header.declaredUncompressed.toNat
  · rw [if_neg (not_not_intro whole), if_pos whole]
  · rw [if_pos whole, if_neg whole]

/-- Checked decompression of a compressed block gives the record of its body in a region of that
size, wherever the region comes from and whatever the library leaves in it. -/
theorem Payload.decompress_block (payload : Payload) (region : Region) (limit : Nat)
    (leavings : Codec.Leavings) :
    let done := payload.decompress (Codec.blockWithin limit leavings) () region
    done.region.size = region.size ∧
      match Block.recordIn limit payload.header.declaredUncompressed region.size payload.body with
      | .error fault => done.outcome = .error fault
      | .ok record => done.outcome = .ok record.length ∧ done.region.first record.length = record := by
  intro done
  refine ⟨rfl, ?_⟩
  unfold Block.recordIn done decompress Codec.blockWithin
  dsimp only
  by_cases takes : Block.Takes limit region.size
  · rw [if_pos takes, if_neg (Nat.not_lt.mpr takes)]
    cases decoded : Block.decode (min region.size Codec.blockLimit) payload.body with
    | error fault => rfl
    | ok record =>
      have fits : record.length ≤ region.size := by
        have within := Block.length_le_of_decode decoded
        omega
      dsimp only
      rw [checkProduced_of_le fits]
      by_cases none : record = []
      · subst none
        rfl
      · have some : record.length ≠ 0 := by simpa using none
        rw [if_neg none, if_neg some]
        by_cases whole : record.length = payload.header.declaredUncompressed.toNat
        · rw [if_pos whole]
          exact ⟨if_pos whole, region.first_write_append fits _⟩
        · rw [if_neg whole]
          exact if_neg whole
  · rw [if_neg takes, if_pos (Nat.lt_of_not_le takes)]
    rfl

end BurstRelay

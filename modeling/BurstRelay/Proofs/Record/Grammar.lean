import BurstRelay.Proofs.Record.Delivery

/-!
# The grammar of framings

A stream of bytes is taken apart into the framings of records of an accepted length, as many as there
are, and a tail that no further one begins (`Record.Splits`). There is one way to do so for every stream
(`exists_splits`) and no other (`Splits.unique`), because no framing is the start of another one
(`eq_of_frames`).
-/

namespace BurstRelay

namespace Record

/-! ## Framings -/

theorem ofBigEndian_length {record : Bytes} (fits : record.length < UInt32.size) :
    Bytes.ofBigEndian (Bytes.bigEndian lengthSize record.length) = record.length := by
  rw [Bytes.ofBigEndian_bigEndian]
  exact Nat.mod_eq_of_lt fits

theorem length_lt_length_frame_append (record rest : Bytes) :
    rest.length < (frame record ++ rest).length := by
  have word : lengthSize = 4 := rfl
  unfold frame
  rw [List.length_append, List.length_append, Bytes.length_bigEndian]
  omega

/-- The length that the first bytes of a stream announce. -/
def announced (bytes : Bytes) : Nat := Bytes.ofBigEndian (bytes.take lengthSize)

theorem announced_frame {record : Bytes} (rest : Bytes) (fits : record.length < UInt32.size) :
    announced (frame record ++ rest) = record.length := by
  have word : (Bytes.bigEndian lengthSize record.length).length = lengthSize :=
    Bytes.length_bigEndian _ _
  unfold announced frame
  rw [List.append_assoc, List.take_left' word, ofBigEndian_length fits]

/-- No framing is the start of another one. -/
theorem eq_of_frames {first second rest behind : Bytes} (firstFits : first.length < UInt32.size)
    (secondFits : second.length < UInt32.size)
    (same : frame first ++ rest = frame second ++ behind) : first = second ∧ rest = behind := by
  have length : first.length = second.length := by
    rw [← announced_frame rest firstFits, same, announced_frame behind secondFits]
  unfold frame at same
  rw [length, List.append_assoc, List.append_assoc, List.append_cancel_left_eq] at same
  exact List.append_inj same length

/-- Bytes that announce a record and have as many bytes behind the length begin with its framing. -/
theorem frame_prefix_of_announced {bytes : Bytes} (word : lengthSize ≤ bytes.length)
    (enough : lengthSize + announced bytes ≤ bytes.length) :
    ∃ record, record.length = announced bytes ∧ frame record <+: bytes := by
  have size : (bytes.take lengthSize).length = lengthSize := by
    rw [List.length_take, Nat.min_eq_left word]
  have length : ((bytes.drop lengthSize).take (announced bytes)).length = announced bytes := by
    rw [List.length_take, List.length_drop]
    omega
  refine ⟨_, length, ?_⟩
  have start : Bytes.bigEndian lengthSize (announced bytes) = bytes.take lengthSize := by
    have same := Bytes.bigEndian_ofBigEndian (bytes.take lengthSize)
    rwa [size] at same
  unfold frame
  rw [length, start, ← List.take_add]
  exact List.take_prefix _ _

/-! ## Taking a stream apart -/

/-- A stream is taken apart into records of an accepted length and a tail that no further record of
an accepted length begins. -/
structure Splits (longest : Nat) (bytes : Bytes) (records : List Bytes) (tail : Bytes) : Prop where
  parts : bytes = stream .binary records ++ tail
  fit : ∀ record ∈ records, record.length ≤ longest
  maximal : ∀ record, record.length ≤ longest → ¬ frame record <+: tail

variable {longest : Nat} {bytes tail otherTail record : Bytes} {records others : List Bytes}

theorem splits_nil_iff : Splits longest bytes [] tail ↔
    bytes = tail ∧ ∀ record, record.length ≤ longest → ¬ frame record <+: tail := by
  constructor
  · intro splits
    exact ⟨splits.parts, splits.maximal⟩
  · rintro ⟨rfl, maximal⟩
    exact ⟨rfl, by simp, maximal⟩

theorem splits_cons_iff : Splits longest bytes (record :: records) tail ↔
    record.length ≤ longest ∧
      ∃ rest, bytes = frame record ++ rest ∧ Splits longest rest records tail := by
  constructor
  · rintro ⟨parts, fit, maximal⟩
    rw [stream_cons, List.append_assoc] at parts
    rw [List.forall_mem_cons] at fit
    exact ⟨fit.1, _, parts, rfl, fit.2, maximal⟩
  · rintro ⟨fits, rest, rfl, rfl, fit, maximal⟩
    refine ⟨?_, List.forall_mem_cons.mpr ⟨fits, fit⟩, maximal⟩
    rw [stream_cons, List.append_assoc]
    rfl

/-- A stream is taken apart in one way at most. -/
theorem Splits.unique (limit : longest < UInt32.size) (first : Splits longest bytes records tail)
    (second : Splits longest bytes others otherTail) : others = records ∧ otherTail = tail := by
  induction records generalizing bytes others with
  | nil =>
    obtain ⟨rfl, maximal⟩ := splits_nil_iff.mp first
    cases others with
    | nil => exact ⟨rfl, (splits_nil_iff.mp second).1.symm⟩
    | cons other others =>
      -- the other way finds a record where there is none
      obtain ⟨fits, rest, same, -⟩ := splits_cons_iff.mp second
      exact absurd ⟨rest, same.symm⟩ (maximal other fits)
  | cons record records ih =>
    obtain ⟨fits, rest, rfl, splits⟩ := splits_cons_iff.mp first
    cases others with
    | nil =>
      obtain ⟨rfl, maximal⟩ := splits_nil_iff.mp second
      exact absurd (List.prefix_append _ _) (maximal record fits)
    | cons other others =>
      obtain ⟨otherFits, otherRest, same, otherSplits⟩ := splits_cons_iff.mp second
      obtain ⟨rfl, rfl⟩ := eq_of_frames (by omega) (by omega) same
      obtain ⟨rfl, rfl⟩ := ih splits otherSplits
      exact ⟨rfl, rfl⟩

/-- Every stream is taken apart. -/
theorem exists_splits (longest : Nat) (bytes : Bytes) :
    ∃ records tail, Splits longest bytes records tail := by
  -- on the bytes that are left: a framing takes the bytes of its length at least
  induction size : bytes.length using Nat.strongRecOn generalizing bytes with
  | ind left ih =>
    by_cases begins : ∃ record, record.length ≤ longest ∧ frame record <+: bytes
    · obtain ⟨record, fits, rest, rfl⟩ := begins
      have shorter : rest.length < left := size ▸ length_lt_length_frame_append record rest
      obtain ⟨records, tail, splits⟩ := ih rest.length shorter rest rfl
      exact ⟨record :: records, tail, splits_cons_iff.mpr ⟨fits, rest, rfl, splits⟩⟩
    · refine ⟨[], bytes, splits_nil_iff.mpr ⟨rfl, ?_⟩⟩
      intro record fits starts
      exact begins ⟨record, fits, starts⟩

end Record

end BurstRelay

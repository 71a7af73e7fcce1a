import BurstRelay.Block.Stored
import BurstRelay.Proofs.Block.Capacity

/-!
# Stored blocks, and how long a block can be

A stored block is valid: it is decoded into every output that has room for its content
(`decode_store`). It is nearly the longest block that is: whatever a block repeats, it takes hardly
more than one byte in 255 beyond what it produces (`length_of_decode`). The length of a block is
bounded by that of its record, then, and nothing has to be known of the compressor that made it.
-/

namespace BurstRelay.Block

open Fallible

/-! ## Stored blocks -/

/-- The bytes of a length are read back if enough of the input is behind them. -/
theorem lengthWithin_written {margin count last fuel : Nat} {rest : Bytes} (below : last < 255)
    (enough : count < fuel) (behind : margin ≤ rest.length) :
    lengthWithin margin fuel (.of (List.replicate count 255 ++ UInt8.ofNat last :: rest)) =
      .ok (255 * count + last, .of rest) := by
  induction count generalizing fuel with
  | zero =>
    obtain ⟨fuel, rfl⟩ : ∃ less, fuel = less + 1 := ⟨fuel - 1, by omega⟩
    have fits : last < UInt8.size := Nat.lt_trans below (by decide)
    have small : (UInt8.ofNat last).toNat = last := UInt8.toNat_ofNat_of_lt' fits
    have differs : UInt8.ofNat last ≠ 255 := by
      intro same
      rw [same] at small
      exact absurd small (Nat.ne_of_gt below)
    refine bind_eq_ok.mpr ⟨(UInt8.ofNat last, .of rest), rfl, ?_⟩
    dsimp only
    rw [Cursor.left_of, if_neg (by omega), if_neg differs, small, Nat.mul_zero, Nat.zero_add]
    rfl
  | succ count ih =>
    obtain ⟨fuel, rfl⟩ : ∃ less, fuel = less + 1 := ⟨fuel - 1, by omega⟩
    have more := ih (show count < fuel by omega)
    have total : 255 + (255 * count + last) = 255 * (count + 1) + last := by omega
    have left : margin ≤ (List.replicate count 255 ++ UInt8.ofNat last :: rest).length := by
      rw [List.length_append, List.length_cons]
      omega
    rw [List.replicate_succ, ← total]
    refine bind_eq_ok.mpr ⟨(255, .of (List.replicate count 255 ++ UInt8.ofNat last :: rest)), rfl, ?_⟩
    dsimp only
    rw [Cursor.left_of, if_neg (by omega), if_pos rfl, more]
    rfl

theorem length_lengthTail {beyond : Nat} {content : Bytes} {margin : Nat}
    (behind : margin ≤ content.length) :
    length margin (.of (lengthTail beyond ++ content)) = .ok (beyond, .of content) := by
  have split : lengthTail beyond ++ content =
      List.replicate (beyond / 255) 255 ++ UInt8.ofNat (beyond % 255) :: content := by
    simp [lengthTail]
  have enough : beyond / 255 < (Cursor.of (lengthTail beyond ++ content)).left := by
    rw [split, Cursor.left_of, List.length_append, List.length_replicate, List.length_cons]
    omega
  unfold length
  rw [split] at enough ⊢
  rw [lengthWithin_written (Nat.mod_lt _ (by decide)) enough behind, Nat.div_add_mod]

/-- The one run of a stored block is the content. -/
theorem readsRun_store (content : Bytes) :
    ∃ token behind,
      ReadsRun (.of (store content)) token behind content.length (.of content) := by
  unfold store
  dsimp only
  split
  · rename_i short
    have fits : 16 * content.length < UInt8.size := by
      have size : UInt8.size = 256 := rfl
      omega
    have token := UInt8.toNat_ofNat_of_lt' fits
    refine ⟨⟨content.length, 0⟩, .of content, ?_, if_pos short⟩
    refine bind_eq_ok.mpr ⟨(UInt8.ofNat (16 * content.length), .of content), rfl, ?_⟩
    dsimp only
    rw [token, Nat.mul_div_cancel_left _ (by decide), Nat.mul_mod_right]
    rfl
  · rename_i long
    refine ⟨⟨15, 0⟩, .of (lengthTail (content.length - 15) ++ content), rfl, ?_⟩
    have behind : 15 ≤ content.length := by omega
    have whole : 15 + (content.length - 15) = content.length := by omega
    have some : ¬ (Cursor.of (lengthTail (content.length - 15) ++ content)).left ≤ 15 := by
      simp [lengthTail]
      omega
    unfold literalLength
    rw [if_neg (by decide), if_neg some, length_lengthTail behind]
    show Except.ok (15 + (content.length - 15), Cursor.of content) = _
    rw [whole]

/-- A stored block is decoded to its content, wherever that fits. -/
theorem decode_store {capacity : Nat} {content : Bytes} (fits : content.length ≤ capacity) :
    decode capacity (store content) = .ok content := by
  by_cases none : content = []
  · subst none
    exact decode_empty capacity
  · have some : 0 < content.length := List.length_pos_iff.mpr none
    obtain ⟨token, behind, reads⟩ := readsRun_store content
    have filled : store content ≠ [] := by
      unfold store
      dsimp only
      split <;> simp
    obtain ⟨fuel, positive⟩ := Nat.exists_eq_add_one.mpr (List.length_pos_iff.mpr filled)
    refine (decode_eq_ok (by omega)).mpr ⟨filled, (#[] : Array UInt8) ++ content, ?_, by simp⟩
    rw [positive]
    refine sequences_succ_eq_ok.mpr (.inl (sequence_finished_iff.mpr ?_))
    exact ⟨token, behind, .of content, reads, by simpa using fits, rfl⟩

/-! ## The length of a block -/

/-- The bytes of a length are few for what they spell: each but the last stands for 255. -/
theorem left_le_of_lengthWithin {margin fuel value : Nat} {input rest : Cursor}
    (read : lengthWithin margin fuel input = .ok (value, rest)) :
    255 * input.left ≤ value + 255 + 255 * rest.left := by
  induction fuel generalizing value input with
  | zero => simp [lengthWithin] at read
  | succ fuel ih =>
    obtain ⟨⟨byte, behind⟩, readByte, result⟩ := bind_eq_ok.mp read
    have shorter := left_of_nextByte readByte
    dsimp only at result
    split at result
    · simp at result
    · split at result
      · obtain ⟨⟨more, behindMore⟩, readMore, same⟩ := bind_eq_ok.mp result
        obtain ⟨rfl, rfl⟩ := pure_pair_eq_ok.mp same
        have later := ih readMore
        omega
      · obtain ⟨-, rfl⟩ := pure_pair_eq_ok.mp result
        omega

/-- What stands before a run of literals is little for a run of its length. -/
theorem ReadsRun.left_le {input behind run : Cursor} {token : Token} {literals : Nat}
    (reads : ReadsRun input token behind literals run) :
    255 * input.left ≤ literals + 495 + 255 * run.left := by
  have first := left_of_nextToken reads.token_eq
  have read := reads.literals_eq
  unfold literalLength at read
  split at read
  · simp only [Except.ok.injEq, Prod.mk.injEq] at read
    obtain ⟨-, rfl⟩ := read
    omega
  · split at read
    · simp at read
    · obtain ⟨⟨more, rest⟩, readMore, same⟩ := bind_eq_ok.mp read
      obtain ⟨rfl, rfl⟩ := pure_pair_eq_ok.mp same
      have few := left_le_of_lengthWithin readMore
      omega

/-- What spells a match is little for a match of its length. -/
theorem ReadsMatch.left_le {token : Token} {literals distance count : Nat} {run rest : Cursor}
    {taken : Bytes} (reads : ReadsMatch token literals run taken distance count rest) :
    255 * run.left + 495 ≤ 255 * literals + 256 * count + 255 * rest.left := by
  obtain ⟨-, least, short | long⟩ := reads.length
  · omega
  · obtain ⟨behindRun, behindDistance, take, distanceRead, lengthRead⟩ := reads.reads
    obtain ⟨parts, size⟩ := Cursor.rest_of_take? take
    have runLeft : run.left = literals + behindRun.left := by
      rw [run.left_eq, behindRun.left_eq, parts, List.length_append, size]
    have behind := left_of_matchDistance distanceRead
    unfold matchLength at lengthRead
    rw [if_neg long.1] at lengthRead
    obtain ⟨⟨more, restMore⟩, readMore, same⟩ := bind_eq_ok.mp lengthRead
    obtain ⟨rfl, rfl⟩ := pure_pair_eq_ok.mp same
    have few := left_le_of_lengthWithin readMore
    have four : minimumMatch = 4 := rfl
    omega

theorem left_le_of_sequences {capacity fuel : Nat} {output final : Array UInt8} {input : Cursor}
    (read : sequences capacity fuel output input = .ok final) :
    255 * input.left + 256 * output.size ≤ 256 * final.size + 495 := by
  induction fuel generalizing output input with
  | zero => simp [sequences] at read
  | succ fuel ih =>
    rcases sequences_succ_eq_ok.mp read with last | ⟨grown, rest, first, later⟩
    · obtain ⟨token, behind, run, reads, -, rfl⟩ := sequence_finished_iff.mp last
      have few := reads.left_le
      rw [size_append, ← run.left_eq]
      omega
    · obtain ⟨token, behind, literals, run, taken, distance, count, reads, readsMatch, -, -, rfl⟩ :=
        sequence_continues_iff.mp first
      have fewRun := reads.left_le
      have fewMatch := readsMatch.left_le
      have others := ih later
      rw [size_repeatBack, size_append, readsMatch.length.1] at others
      omega

/-- A block has at most one byte in 255 more than its record, and two. -/
theorem length_of_decode {capacity : Nat} {block record : Bytes}
    (done : decode capacity block = .ok record) :
    255 * block.length ≤ 256 * record.length + 495 := by
  by_cases positive : 0 < capacity
  · obtain ⟨-, final, read, rfl⟩ := (decode_eq_ok positive).mp done
    have few := left_le_of_sequences read
    rw [Cursor.left_of] at few
    rw [Array.length_toList]
    exact few
  · unfold decode at done
    rw [if_pos (by omega)] at done
    split at done
    · rename_i empty
      subst empty
      simp
    · simp at done

/-- The length of a block with a record of no more than the longest content fits in thirty-one bits, in
which libraries are told it. -/
theorem length_lt_of_decode {capacity : Nat} {block record : Bytes}
    (done : decode capacity block = .ok record) (short : record.length ≤ inputLimit) :
    block.length < 1 <<< 31 := by
  have few := length_of_decode done
  have limit : inputLimit = 2113929216 := rfl
  have size : 1 <<< 31 = 2147483648 := rfl
  omega

end BurstRelay.Block

import BurstRelay.Proofs.Block.Sequence

/-!
# What the capacity of the output decides

A block is decoded against the capacity of the whole output, not against the size that somebody
declared, and the rules about the end of the output look at that capacity. Two laws say how far it
matters:

* a block that is decoded into some output is decoded to the same bytes into every larger one
  (`decode_grow`);
* a block that is decoded into some output is decoded to the same bytes into a smaller one that has
  `spare` bytes more than are produced (`decode_shrink`).

Between the two lie outputs that are large enough for the bytes and still refuse the block
(`spare_least`).
-/

namespace BurstRelay.Block

open Fallible

/-- The bytes that an output has to have beyond those produced for its end to be out of reach. -/
def spare : Nat := 14

/-! ## Chains of sequences -/

theorem sequences_succ_eq_ok {capacity fuel : Nat} {output final : Array UInt8} {input : Cursor} :
    sequences capacity (fuel + 1) output input = .ok final ↔
      sequence capacity output input = .ok (.finished final) ∨
        ∃ grown rest, sequence capacity output input = .ok (.continues grown rest) ∧
          sequences capacity fuel grown rest = .ok final := by
  rw [sequences, bind_eq_ok]
  constructor
  · rintro ⟨progress, first, later⟩
    cases progress with
    | finished output =>
      rw [pure_eq_ok] at later
      exact .inl (by rw [first, later])
    | continues grown rest => exact .inr ⟨grown, rest, first, later⟩
  · rintro (first | ⟨grown, rest, first, later⟩)
    · exact ⟨_, first, rfl⟩
    · exact ⟨_, first, later⟩

/-- A sequence that others follow appends its run and its match. -/
theorem size_of_sequence_continues {capacity : Nat} {output final : Array UInt8}
    {input rest : Cursor} (read : sequence capacity output input = .ok (.continues final rest)) :
    output.size ≤ final.size ∧ final.size ≤ capacity := by
  obtain ⟨token, behind, literals, run, taken, distance, count, -, readsMatch, room, -, rfl⟩ :=
    sequence_continues_iff.mp read
  have fits := room.fits
  rw [size_repeatBack, size_append, readsMatch.length.1]
  omega

/-- Decoding only appends, and never beyond the capacity. -/
theorem size_of_sequences {capacity fuel : Nat} {output final : Array UInt8} {input : Cursor}
    (read : sequences capacity fuel output input = .ok final) :
    output.size ≤ final.size ∧ final.size ≤ capacity := by
  induction fuel generalizing output input with
  | zero => simp [sequences] at read
  | succ fuel ih =>
    rcases sequences_succ_eq_ok.mp read with last | ⟨grown, rest, first, later⟩
    · obtain ⟨token, behind, run, -, fits, rfl⟩ := sequence_finished_iff.mp last
      rw [size_append, ← run.left_eq]
      omega
    · have here := size_of_sequence_continues first
      have behind := ih later
      omega

/-! ## Larger outputs -/

theorem isRelaxed_grow {small large : Nat} {output : Array UInt8} {token : Token} {behind : Cursor}
    (le : small ≤ large) (relaxed : isRelaxed small output token behind = true) :
    isRelaxed large output token behind = true := by
  simp only [isRelaxed, Bool.and_eq_true, decide_eq_true_eq] at relaxed ⊢
  omega

theorem Room.grow {small large : Nat} {output : Array UInt8} {token : Token} {behind run : Cursor}
    {literals distance count : Nat} (le : small ≤ large)
    (room : Room small output token behind literals run distance count) :
    Room large output token behind literals run distance count where
  inner := by
    rcases room.inner with relaxed | ⟨fits, whole⟩
    · exact .inl (isRelaxed_grow le relaxed)
    · exact .inr ⟨by omega, whole⟩
  away := by
    rcases room.away with away | ⟨relaxed, short, far⟩
    · exact .inl (by omega)
    · exact .inr ⟨isRelaxed_grow le relaxed, short, far⟩
  fits := Nat.le_trans room.fits le

theorem sequences_grow {small large fuel : Nat} {output final : Array UInt8} {input : Cursor}
    (le : small ≤ large) (read : sequences small fuel output input = .ok final) :
    sequences large fuel output input = .ok final := by
  induction fuel generalizing output input with
  | zero => simp [sequences] at read
  | succ fuel ih =>
    rcases sequences_succ_eq_ok.mp read with last | ⟨grown, rest, first, later⟩
    · obtain ⟨token, behind, run, reads, fits, rfl⟩ := sequence_finished_iff.mp last
      refine sequences_succ_eq_ok.mpr (.inl (sequence_finished_iff.mpr ?_))
      exact ⟨token, behind, run, reads, by omega, rfl⟩
    · obtain ⟨token, behind, literals, run, taken, distance, count, reads, readsMatch, room, near,
        rfl⟩ := sequence_continues_iff.mp first
      refine sequences_succ_eq_ok.mpr (.inr ⟨_, _, sequence_continues_iff.mpr ?_, ih later⟩)
      exact ⟨token, behind, literals, run, taken, distance, count, reads, readsMatch,
        room.grow le, near, rfl⟩

/-! ## Smaller outputs -/

/-- So near to the end of the input, only a last run can follow, and it is all that is left. -/
theorem size_of_short_sequences {capacity fuel : Nat} {output final : Array UInt8} {input : Cursor}
    (read : sequences capacity fuel output input = .ok final) (short : input.left ≤ 8) :
    final.size + 1 = output.size + input.left := by
  cases fuel with
  | zero => simp [sequences] at read
  | succ fuel =>
    rcases sequences_succ_eq_ok.mp read with last | ⟨grown, rest, first, -⟩
    · obtain ⟨token, behind, run, reads, -, rfl⟩ := sequence_finished_iff.mp last
      have readToken := left_of_nextToken reads.token_eq
      rw [size_append, ← run.left_eq]
      rcases reads.length with ⟨-, -, rfl⟩ | ⟨-, long, -, shorter⟩ <;> omega
    · obtain ⟨token, behind, literals, run, taken, distance, count, reads, -, room, -⟩ :=
        sequence_continues_iff.mp first
      have readToken := left_of_nextToken reads.token_eq
      rcases room.inner with relaxed | ⟨-, whole⟩
      · simp only [isRelaxed, Bool.and_eq_true, decide_eq_true_eq] at relaxed
        omega
      · have shorter := reads.left_lt
        omega

/-- A sequence with a match keeps its room in a smaller output if enough bytes stay free there
beyond all that the block produces. -/
theorem Room.shrink {small large fuel : Nat} {output final : Array UInt8} {token : Token}
    {input behind run rest : Cursor} {taken : Bytes} {literals distance count : Nat}
    (reads : ReadsRun input token behind literals run)
    (readsMatch : ReadsMatch token literals run taken distance count rest)
    (room : Room large output token behind literals run distance count)
    (later : sequences large fuel (repeatBack distance count (output ++ taken)) rest = .ok final)
    (free : final.size + spare ≤ small) :
    Room small output token behind literals run distance count := by
  obtain ⟨takenLength, least, matchLeft⟩ := readsMatch.length
  have reached := (size_of_sequences later).1
  rw [size_repeatBack, size_append, takenLength] at reached
  have spareBytes : spare = 14 := rfl
  refine ⟨?_, .inl (by omega), by omega⟩
  by_cases whole : literals + 8 ≤ run.left
  · exact .inr ⟨by omega, whole⟩
  · -- The run ends near the end of the input, so the larger output accepts it for being far from
    -- both ends, and the rest of the input is a short last run.
    rcases room.inner with relaxed | ⟨-, whole'⟩
    · refine .inl ?_
      simp only [isRelaxed, Bool.and_eq_true, decide_eq_true_eq] at relaxed ⊢
      obtain ⟨⟨shortRun, deep⟩, -⟩ := relaxed
      refine ⟨⟨shortRun, deep⟩, ?_⟩
      obtain ⟨-, rfl, rfl⟩ | ⟨long, -⟩ := reads.length
      · rcases matchLeft with ⟨-, left⟩ | ⟨-, longMatch, -⟩
        · have size := size_of_short_sequences later (by omega)
          rw [size_repeatBack, size_append, takenLength] at size
          omega
        · omega
      · exact absurd shortRun long
    · exact absurd whole' whole

theorem sequences_shrink {small large fuel : Nat} {output final : Array UInt8} {input : Cursor}
    (read : sequences large fuel output input = .ok final) (free : final.size + spare ≤ small) :
    sequences small fuel output input = .ok final := by
  induction fuel generalizing output input with
  | zero => simp [sequences] at read
  | succ fuel ih =>
    rcases sequences_succ_eq_ok.mp read with last | ⟨grown, rest, first, later⟩
    · obtain ⟨token, behind, run, reads, fits, rfl⟩ := sequence_finished_iff.mp last
      rw [size_append, ← run.left_eq] at free
      refine sequences_succ_eq_ok.mpr (.inl (sequence_finished_iff.mpr ?_))
      exact ⟨token, behind, run, reads, by omega, rfl⟩
    · obtain ⟨token, behind, literals, run, taken, distance, count, reads, readsMatch, room, near,
        rfl⟩ := sequence_continues_iff.mp first
      refine sequences_succ_eq_ok.mpr (.inr ⟨_, _, sequence_continues_iff.mpr ?_, ih later⟩)
      exact ⟨token, behind, literals, run, taken, distance, count, reads, readsMatch,
        Room.shrink reads readsMatch room later free, near, rfl⟩

/-! ## Blocks -/

theorem decode_eq_ok {capacity : Nat} {block record : Bytes} (positive : 0 < capacity) :
    decode capacity block = .ok record ↔
      block ≠ [] ∧ ∃ final, sequences capacity block.length #[] (.of block) = .ok final ∧
        final.toList = record := by
  unfold decode
  rw [if_neg (by omega)]
  by_cases none : block = []
  · simp [none]
  · rw [if_neg none, map_eq_ok, Cursor.left_of]
    exact ⟨fun done => ⟨none, done⟩, fun done => done.2⟩

/-- A block never produces more than the capacity. -/
theorem length_le_of_decode {capacity : Nat} {block record : Bytes}
    (done : decode capacity block = .ok record) : record.length ≤ capacity := by
  by_cases positive : 0 < capacity
  · obtain ⟨-, final, read, rfl⟩ := (decode_eq_ok positive).mp done
    rw [Array.length_toList]
    exact (size_of_sequences read).2
  · unfold decode at done
    rw [if_pos (by omega)] at done
    split at done
    · simp only [Except.ok.injEq] at done
      simp [← done]
    · simp at done

/-- The block of no bytes is the same for every output. -/
theorem decode_empty (capacity : Nat) : decode capacity [0] = .ok [] := by
  by_cases positive : 0 < capacity
  · refine (decode_eq_ok positive).mpr ⟨by simp, #[], ?_, rfl⟩
    refine sequences_succ_eq_ok.mpr (.inl (sequence_finished_iff.mpr ?_))
    exact ⟨⟨0, 0⟩, .of [], .of [], ⟨rfl, rfl⟩, by simp, rfl⟩
  · unfold decode
    rw [if_pos (by omega), if_pos rfl]

theorem decode_grow {small large : Nat} {block record : Bytes} (le : small ≤ large)
    (done : decode small block = .ok record) : decode large block = .ok record := by
  by_cases positive : 0 < small
  · obtain ⟨nonempty, final, read, same⟩ := (decode_eq_ok positive).mp done
    exact (decode_eq_ok (by omega)).mpr ⟨nonempty, final, sequences_grow le read, same⟩
  · unfold decode at done
    rw [if_pos (by omega)] at done
    split at done
    · rename_i empty
      rw [empty, ← done]
      exact decode_empty large
    · simp at done

theorem decode_shrink {small large : Nat} {block record : Bytes}
    (done : decode large block = .ok record) (free : record.length + spare ≤ small) :
    decode small block = .ok record := by
  -- an output of no bytes has rules of its own, and no smaller one
  by_cases positive : 0 < large
  · have spareBytes : spare = 14 := rfl
    obtain ⟨nonempty, final, read, rfl⟩ := (decode_eq_ok positive).mp done
    rw [Array.length_toList] at free
    exact (decode_eq_ok (by omega)).mpr ⟨nonempty, final, sequences_shrink read free, rfl⟩
  · exact decode_grow (by omega) done

/-- No smaller number of free bytes would do: a block can be decoded with `spare` bytes to spare and
be refused with any fewer. -/
theorem spare_least {fewer : Nat} (lt : fewer < spare) :
    ∃ block record, decode (record.length + spare) block = .ok record ∧
      decode (record.length + fewer) block ≠ .ok record := by
  refine ⟨[224, 1, 2, 3, 4, 5, 6, 7, 8, 9, 10, 11, 12, 13, 14, 8, 0, 0],
    [1, 2, 3, 4, 5, 6, 7, 8, 9, 10, 11, 12, 13, 14, 7, 8, 9, 10], rfl, ?_⟩
  have refused : ∀ fewer < spare, (decode (18 + fewer)
      [224, 1, 2, 3, 4, 5, 6, 7, 8, 9, 10, 11, 12, 13, 14, 8, 0, 0]).toOption = none := by decide
  intro accepted
  have none := (congrArg Except.toOption accepted).symm.trans (refused fewer lt)
  simp [Except.toOption] at none

end BurstRelay.Block

import BurstRelay.Block.Decoder
import BurstRelay.Proofs.Fallible

/-!
# What a sequence is read as

A sequence is read in two parts. `ReadsRun` is the first: the token and the length of the run of
literals. `ReadsMatch` is the second: the literals, and the distance and the length of the match.
Neither of them looks at the capacity of the output. The capacity decides afterwards whether the
sequence is accepted, and `sequence_finished_iff` and `sequence_continues_iff` say when it is.
-/

namespace BurstRelay.Block

open Fallible

/-! ## Reading the parts -/

/-- The beginning of a sequence: its token with the input behind it, and the length of its run of
literals with the input from the run on. -/
structure ReadsRun (input : Cursor) (token : Token) (behind : Cursor) (literals : Nat)
    (run : Cursor) : Prop where
  token_eq : nextToken input = .ok (token, behind)
  literals_eq : literalLength token behind = .ok (literals, run)

/-- The rest of a sequence that has a match: the literals, and the distance and the length of the
match, with the input behind the sequence. -/
structure ReadsMatch (token : Token) (literals : Nat) (run : Cursor) (taken : Bytes)
    (distance count : Nat) (rest : Cursor) : Prop where
  reads : ∃ behindRun behindDistance,
    run.take? literals = some (taken, behindRun) ∧
      matchDistance behindRun = .ok (distance, behindDistance) ∧
      matchLength token behindDistance = .ok (count, rest)

theorem nextByte_eq_ok {input rest : Cursor} {byte : UInt8} :
    nextByte input = .ok (byte, rest) ↔ input.next? = some (byte, rest) := by
  unfold nextByte
  split
  · rename_i result read
    simp [read]
  · rename_i read
    simp [read]

theorem left_of_nextByte {input rest : Cursor} {byte : UInt8}
    (read : nextByte input = .ok (byte, rest)) : rest.left + 1 = input.left :=
  Cursor.left_of_next? (nextByte_eq_ok.mp read)

theorem left_of_nextToken {input rest : Cursor} {token : Token}
    (read : nextToken input = .ok (token, rest)) : rest.left + 1 = input.left := by
  unfold nextToken at read
  obtain ⟨⟨byte, behind⟩, readByte, result⟩ := bind_eq_ok.mp read
  obtain ⟨-, rfl⟩ := pure_pair_eq_ok.mp result
  exact left_of_nextByte readByte

/-- The bytes of a length are taken from the input, at least one of them, and as many as asked for
stay behind them. -/
theorem left_of_lengthWithin {margin fuel value : Nat} {input rest : Cursor}
    (read : lengthWithin margin fuel input = .ok (value, rest)) :
    rest.left < input.left ∧ margin ≤ rest.left := by
  induction fuel generalizing value input with
  | zero => simp [lengthWithin] at read
  | succ fuel ih =>
    unfold lengthWithin at read
    obtain ⟨⟨byte, behind⟩, readByte, result⟩ := bind_eq_ok.mp read
    have shorter := left_of_nextByte readByte
    dsimp only at result
    split at result
    · simp at result
    · rename_i enough
      split at result
      · obtain ⟨⟨more, behindMore⟩, readMore, same⟩ := bind_eq_ok.mp result
        obtain ⟨-, rfl⟩ := pure_pair_eq_ok.mp same
        have later := ih readMore
        omega
      · obtain ⟨-, rfl⟩ := pure_pair_eq_ok.mp result
        omega

/-- A run whose length the token says in full begins right behind the token; any other takes more
bytes of the input and is at least fifteen bytes long. -/
theorem ReadsRun.length {input behind run : Cursor} {token : Token} {literals : Nat}
    (reads : ReadsRun input token behind literals run) :
    (token.literals < 15 ∧ literals = token.literals ∧ run = behind) ∨
      (¬ token.literals < 15 ∧ 15 ≤ literals ∧ 15 ≤ run.left ∧ run.left < behind.left) := by
  have read := reads.literals_eq
  unfold literalLength at read
  split at read
  · rename_i short
    simp only [Except.ok.injEq, Prod.mk.injEq] at read
    exact .inl ⟨short, read.1.symm, read.2.symm⟩
  · rename_i long
    split at read
    · simp at read
    · obtain ⟨⟨more, rest⟩, readMore, same⟩ := bind_eq_ok.mp read
      obtain ⟨rfl, rfl⟩ := pure_pair_eq_ok.mp same
      have within := left_of_lengthWithin readMore
      exact .inr ⟨long, by omega, within.2, within.1⟩

theorem ReadsRun.left_lt {input behind run : Cursor} {token : Token} {literals : Nat}
    (reads : ReadsRun input token behind literals run) : run.left < input.left := by
  have first := left_of_nextToken reads.token_eq
  rcases reads.length with ⟨-, -, rfl⟩ | ⟨-, -, -, shorter⟩ <;> omega

theorem left_of_matchDistance {input rest : Cursor} {distance : Nat}
    (read : matchDistance input = .ok (distance, rest)) : rest.left + 2 = input.left := by
  unfold matchDistance at read
  obtain ⟨⟨low, behindLow⟩, readLow, more⟩ := bind_eq_ok.mp read
  obtain ⟨⟨high, behindHigh⟩, readHigh, same⟩ := bind_eq_ok.mp more
  obtain ⟨-, rfl⟩ := pure_pair_eq_ok.mp same
  have first := left_of_nextByte readLow
  have second := left_of_nextByte readHigh
  omega

/-- A match whose length the token says in full takes two bytes of the input behind the literals;
any other takes more and is at least nineteen bytes long. -/
theorem ReadsMatch.length {token : Token} {literals distance count : Nat} {run rest : Cursor}
    {taken : Bytes} (reads : ReadsMatch token literals run taken distance count rest) :
    taken.length = literals ∧ 4 ≤ count ∧
      ((token.repeats < 15 ∧ run.left = literals + 2 + rest.left) ∨
        (¬ token.repeats < 15 ∧ 19 ≤ count ∧ literals + 2 + rest.left < run.left)) := by
  obtain ⟨behindRun, behindDistance, take, distanceRead, lengthRead⟩ := reads.reads
  obtain ⟨parts, size⟩ := Cursor.rest_of_take? take
  have runLeft : run.left = literals + behindRun.left := by
    rw [run.left_eq, behindRun.left_eq, parts, List.length_append, size]
  have behind := left_of_matchDistance distanceRead
  unfold matchLength at lengthRead
  split at lengthRead
  · rename_i short
    simp only [Except.ok.injEq, Prod.mk.injEq] at lengthRead
    obtain ⟨rfl, rfl⟩ := lengthRead
    exact ⟨size, by simp [minimumMatch], .inl ⟨short, by omega⟩⟩
  · rename_i long
    obtain ⟨⟨more, restMore⟩, readMore, same⟩ := bind_eq_ok.mp lengthRead
    obtain ⟨rfl, rfl⟩ := pure_pair_eq_ok.mp same
    have within := left_of_lengthWithin readMore
    have least : minimumMatch = 4 := rfl
    exact ⟨size, by omega, .inr ⟨long, by omega, by omega⟩⟩

/-! ## When a sequence is accepted -/

theorem size_append (output : Array UInt8) (taken : Bytes) :
    (output ++ taken).size = output.size + taken.length := by
  rw [← Array.length_toList, Array.toList_appendList, List.length_append, Array.length_toList]

/-- What the capacity has to leave room for when a sequence has a match. -/
structure Room (capacity : Nat) (output : Array UInt8) (token : Token) (behind : Cursor)
    (literals : Nat) (run : Cursor) (distance count : Nat) : Prop where
  /-- The run is not one that only the end of the block may have. -/
  inner : isRelaxed capacity output token behind = true ∨
    (output.size + literals + 12 ≤ capacity ∧ literals + 8 ≤ run.left)
  /-- The match stays away from the end of the output, or need not. -/
  away : output.size + literals + count + 5 ≤ capacity ∨
    (isRelaxed capacity output token behind = true ∧ token.repeats < 15 ∧ 8 ≤ distance)
  fits : output.size + literals + count ≤ capacity

theorem copyLiterals_eq_ok {capacity count : Nat} {output final : Array UInt8}
    {input rest : Cursor} :
    copyLiterals capacity output count input = .ok (final, rest) ↔
      ∃ taken, input.take? count = some (taken, rest) ∧ output.size + count ≤ capacity ∧
        final = output ++ taken := by
  unfold copyLiterals
  split
  · rename_i none
    simp [none]
  · rename_i literals behind read
    rw [read]
    split
    · rename_i tight
      simp only [reduceCtorEq, Option.some.injEq, Prod.mk.injEq, false_iff, not_exists, not_and]
      intro taken _ fits
      omega
    · rename_i fits
      simp only [Except.ok.injEq, Prod.mk.injEq, Option.some.injEq]
      constructor
      · rintro ⟨rfl, rfl⟩
        exact ⟨literals, ⟨rfl, rfl⟩, by omega, rfl⟩
      · rintro ⟨taken, ⟨rfl, rfl⟩, -, rfl⟩
        exact ⟨rfl, rfl⟩

/-- A last run is accepted when it is all that is left and fits. -/
theorem appendLastRun_eq_ok {capacity literals : Nat} {output final : Array UInt8}
    {input : Cursor} :
    appendLastRun capacity output literals input = .ok final ↔
      literals = input.left ∧ output.size + literals ≤ capacity ∧ final = output ++ input.rest := by
  unfold appendLastRun
  split
  · rename_i whole
    obtain ⟨rfl, fits⟩ := whole
    have take : input.take? input.left = some (input.rest, .of []) := by
      have same := Cursor.take?_of_append input.rest []
      rwa [List.append_nil, Cursor.of_rest, ← input.left_eq] at same
    constructor
    · intro done
      obtain ⟨⟨copied, rest⟩, copy, same⟩ := bind_eq_ok.mp done
      rw [pure_eq_ok] at same
      subst same
      obtain ⟨taken, read, -, rfl⟩ := copyLiterals_eq_ok.mp copy
      rw [take, Option.some.injEq, Prod.mk.injEq] at read
      exact ⟨rfl, fits, by rw [read.1]⟩
    · rintro ⟨-, -, rfl⟩
      exact bind_eq_ok.mpr ⟨_, copyLiterals_eq_ok.mpr ⟨_, take, fits, rfl⟩, rfl⟩
  · rename_i partly
    simp only [reduceCtorEq, false_iff]
    rintro ⟨same, fits, -⟩
    exact partly ⟨same, fits⟩

theorem appendMatch_eq_ok {capacity distance count : Nat} {relaxed : Bool} {token : Token}
    {output final : Array UInt8} :
    appendMatch capacity relaxed token output distance count = .ok final ↔
      distance ≤ output.size ∧
        (output.size + count + 5 ≤ capacity ∨
          (relaxed = true ∧ token.repeats < 15 ∧ 8 ≤ distance)) ∧
        output.size + count ≤ capacity ∧ final = repeatBack distance count output := by
  unfold appendMatch copyMatch
  split
  · simp; omega
  · split
    · rename_i near
      simp only [reduceCtorEq, false_iff]
      rintro ⟨-, away, -⟩
      rcases away with away | away
      · omega
      · exact near.2 away
    · rename_i away
      split
      · simp; omega
      · simp only [Except.ok.injEq]
        constructor
        · rintro rfl
          refine ⟨by omega, ?_, by omega, rfl⟩
          by_cases near : capacity < output.size + count + 5
          · exact .inr (Classical.byContradiction fun allowed => away ⟨near, allowed⟩)
          · exact .inl (by omega)
        · rintro ⟨-, -, -, rfl⟩
          rfl

/-- A sequence ends the block exactly when its run is all that is left and fits, whatever the rules
about the ends say. -/
theorem sequence_finished_iff {capacity : Nat} {output final : Array UInt8} {input : Cursor} :
    sequence capacity output input = .ok (.finished final) ↔
      ∃ token behind run, ReadsRun input token behind run.left run ∧
        output.size + run.left ≤ capacity ∧ final = output ++ run.rest := by
  unfold sequence
  constructor
  · intro done
    obtain ⟨⟨token, behind⟩, readToken, done⟩ := bind_eq_ok.mp done
    obtain ⟨⟨literals, run⟩, readLength, done⟩ := bind_eq_ok.mp done
    dsimp only at done
    split at done
    · obtain ⟨output', append, same⟩ := bind_eq_ok.mp done
      rw [pure_eq_ok, Progress.finished.injEq] at same
      subst same
      obtain ⟨rfl, fits, rfl⟩ := appendLastRun_eq_ok.mp append
      exact ⟨token, behind, run, ⟨readToken, readLength⟩, fits, rfl⟩
    · obtain ⟨_, -, done⟩ := bind_eq_ok.mp done
      obtain ⟨_, -, done⟩ := bind_eq_ok.mp done
      obtain ⟨_, -, done⟩ := bind_eq_ok.mp done
      obtain ⟨_, -, done⟩ := bind_eq_ok.mp done
      simp [pure_eq_ok] at done
  · rintro ⟨token, behind, run, reads, fits, rfl⟩
    refine bind_eq_ok.mpr ⟨_, reads.token_eq, bind_eq_ok.mpr ⟨_, reads.literals_eq, ?_⟩⟩
    -- a short run at the end leaves nothing behind it, so the shortcut for short runs is not taken
    have last : isLastRun capacity output run.left run = true := by simp [isLastRun]
    have strict : isRelaxed capacity output token behind = false := by
      rcases reads.length with ⟨short, same, rfl⟩ | ⟨long, -⟩
      · simp only [isRelaxed, Bool.and_eq_false_iff, decide_eq_false_iff_not]
        omega
      · simp [isRelaxed, long]
    dsimp only
    rw [strict, last]
    exact bind_eq_ok.mpr ⟨_, appendLastRun_eq_ok.mpr ⟨rfl, fits, rfl⟩, rfl⟩

/-- A sequence that others follow, as it is read, and what the capacity has to leave room for. -/
theorem sequence_continues_iff {capacity : Nat} {output final : Array UInt8}
    {input rest : Cursor} :
    sequence capacity output input = .ok (.continues final rest) ↔
      ∃ token behind literals run taken distance count,
        ReadsRun input token behind literals run ∧
          ReadsMatch token literals run taken distance count rest ∧
          Room capacity output token behind literals run distance count ∧
          distance ≤ output.size + literals ∧
          final = repeatBack distance count (output ++ taken) := by
  unfold sequence
  constructor
  · intro done
    obtain ⟨⟨token, behind⟩, readToken, done⟩ := bind_eq_ok.mp done
    obtain ⟨⟨literals, run⟩, readLength, done⟩ := bind_eq_ok.mp done
    dsimp only at done
    split at done
    · obtain ⟨_, -, same⟩ := bind_eq_ok.mp done
      simp [pure_eq_ok] at same
    · rename_i inner
      obtain ⟨⟨copied, behindRun⟩, copy, done⟩ := bind_eq_ok.mp done
      obtain ⟨⟨distance, behindDistance⟩, readDistance, done⟩ := bind_eq_ok.mp done
      obtain ⟨⟨count, rest'⟩, readCount, done⟩ := bind_eq_ok.mp done
      obtain ⟨output', append, same⟩ := bind_eq_ok.mp done
      rw [pure_eq_ok, Progress.continues.injEq] at same
      obtain ⟨rfl, rfl⟩ := same
      obtain ⟨taken, take, -, rfl⟩ := copyLiterals_eq_ok.mp copy
      have reads : ReadsMatch token literals run taken distance count rest' :=
        ⟨_, _, take, readDistance, readCount⟩
      have size : (output ++ taken).size = output.size + literals := by
        rw [size_append, reads.length.1]
      obtain ⟨near, away, fits, rfl⟩ := appendMatch_eq_ok.mp append
      rw [size] at near away fits
      refine ⟨token, behind, literals, run, taken, distance, count, ⟨readToken, readLength⟩, reads,
        ⟨?_, away, fits⟩, near, rfl⟩
      simp only [isLastRun, Bool.and_eq_true, Bool.not_eq_true', Bool.or_eq_true,
        decide_eq_true_eq, not_and, not_or, Nat.not_lt] at inner
      cases relaxed : isRelaxed capacity output token behind with
      | true => exact .inl rfl
      | false => exact .inr (inner relaxed)
  · rintro ⟨token, behind, literals, run, taken, distance, count, reads, readsMatch, room, near, rfl⟩
    refine bind_eq_ok.mpr ⟨_, reads.token_eq, bind_eq_ok.mpr ⟨_, reads.literals_eq, ?_⟩⟩
    have size : (output ++ taken).size = output.size + literals := by
      rw [size_append, readsMatch.length.1]
    have inner : (!isRelaxed capacity output token behind &&
        isLastRun capacity output literals run) = false := by
      rcases room.inner with relaxed | ⟨fits, whole⟩
      · simp [relaxed]
      · simp only [isLastRun, Bool.and_eq_false_iff, Bool.or_eq_false_iff, decide_eq_false_iff_not]
        omega
    have fits := room.fits
    obtain ⟨behindRun, behindDistance, take, readDistance, readCount⟩ := readsMatch.reads
    dsimp only
    rw [inner]
    refine bind_eq_ok.mpr ⟨_, copyLiterals_eq_ok.mpr ⟨_, take, by omega, rfl⟩, ?_⟩
    refine bind_eq_ok.mpr ⟨_, readDistance, bind_eq_ok.mpr ⟨_, readCount, ?_⟩⟩
    refine bind_eq_ok.mpr ⟨_, appendMatch_eq_ok.mpr ⟨?_, ?_, ?_, rfl⟩, rfl⟩
    · rw [size]; exact near
    · rw [size]; exact room.away
    · rw [size]; exact fits

end BurstRelay.Block

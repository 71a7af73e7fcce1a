import BurstRelay.Proofs.Record.Grammar
import BurstRelay.Record.Reader

/-!
# Records are read back

What a reader gives for a stream. The source may hand out its bytes in portions of any size and be
interrupted as often as it likes, as long as it hands them all out (`Source.Behaviour.Delivers`). Then
a reader takes any stream apart as the grammar of framings does, and the tail says how reading ends
(`recognises_framings`). So a stream of whole records is read back and ends well (`readAll_stream`), and
a record that breaks off behind them gives a fault and no record (`readAll_torn`).
-/

namespace BurstRelay

/-! ## Sources that deliver all they have -/

/-- A source that delivers all its bytes: each read that is answered gives some of those left, and
behind them comes the end. -/
structure Source.Behaviour.Delivers (behaviour : Source.Behaviour) : Prop where
  gives : ∀ reads, 0 < behaviour.portion reads
  ends : behaviour.ending = none

namespace Source

theorem Behaviour.delivers_willing : Behaviour.willing.Delivers :=
  ⟨fun _ => show 0 < UInt64.size - 1 by decide, rfl⟩

/-- A read that is answered gives bytes unless there are none left. -/
theorem read_of_delivers {source after : Source} {wanted : Nat} {outcome : ReadOutcome}
    (delivers : source.behaviour.Delivers) (result : source.read (wanted + 1) = (outcome, after)) :
    after.behaviour = source.behaviour ∧
      (outcome = .interrupted ∨ ∃ bytes, outcome = .gave bytes ∧ (bytes = [] → source.rest = [])) := by
  unfold read at result
  split at result
  · cases result
    exact ⟨rfl, .inl rfl⟩
  · have some := delivers.gives source.reads
    dsimp only at result
    rw [delivers.ends] at result
    split at result
    · rename_i absent
      cases absent
    · cases result
      refine ⟨rfl, .inr ⟨_, rfl, ?_⟩⟩
      intro none
      rcases List.take_eq_nil_iff.mp none with zero | none
      · omega
      · exact none

/-- Filling takes as many bytes as are asked for, or all there are. -/
theorem fillFrom_of_delivers {source : Source} (delivers : source.behaviour.Delivers)
    (got : Array UInt8) (wanted : Nat) :
    (source.fillFrom got wanted).1 = (if wanted ≤ source.rest.length then .full else .ended) ∧
      (source.fillFrom got wanted).2.1.toList = got.toList ++ source.rest.take wanted ∧
      (source.fillFrom got wanted).2.2.rest = source.rest.drop wanted ∧
      (source.fillFrom got wanted).2.2.behaviour = source.behaviour := by
  fun_induction fillFrom source got wanted with
  | case1 source got => simp
  | case2 source got wanted after result _ ih =>
    have same := (read_of_delivers delivers result).1
    rcases rest_of_read result with ⟨bytes, gave, -⟩ | ⟨-, rest⟩
    · cases gave
    · rw [same, rest] at ih
      exact ih delivers
  | case3 source got wanted after result =>
    obtain ⟨same, interrupted | ⟨bytes, gave, none⟩⟩ := read_of_delivers delivers result
    · cases interrupted
    · -- no byte was given, so there was none left
      cases gave
      rcases rest_of_read result with ⟨bytes, gave, -, parts⟩ | ⟨-, rest⟩
      · cases gave
        have left : after.rest = [] := parts.symm.trans (none rfl)
        simp [none rfl, left, same]
      · simp [none rfl, rest, same]
  | case4 source got wanted byte bytes after result ih =>
    have same := (read_of_delivers delivers result).1
    rcases rest_of_read result with ⟨given, gave, within, parts⟩ | ⟨differs, -⟩
    · cases gave
      rw [List.length_cons] at within
      have count : wanted.succ = (byte :: bytes).length + (wanted - bytes.length) := by
        rw [List.length_cons]
        omega
      obtain ⟨status, gotAfter, rest, behaviour⟩ := ih (same ▸ delivers)
      refine ⟨?_, ?_, ?_, behaviour.trans same⟩
      · rw [status, parts, List.length_append, count]
        simp only [Nat.add_le_add_iff_left]
      · rw [gotAfter, parts, count, List.take_length_add_append]
        simp
      · rw [rest, parts, count, List.drop_length_add_append]
    · exact absurd rfl (differs (byte :: bytes))
  | case5 source got wanted fault after result =>
    obtain ⟨-, interrupted | ⟨bytes, gave, -⟩⟩ := read_of_delivers delivers result
    · cases interrupted
    · cases gave

/-- What is asked for is filled in if it is there. -/
theorem fill_of_append {source : Source} {taken rest : Bytes}
    (delivers : source.behaviour.Delivers) (left : source.rest = taken ++ rest) :
    ∃ after, source.fill taken.length = (.full, taken, after) ∧ after.rest = rest ∧
      after.behaviour = source.behaviour := by
  obtain ⟨status, got, behind, behaviour⟩ := fillFrom_of_delivers delivers #[] taken.length
  rw [left, List.length_append, if_pos (by omega)] at status
  rw [left, List.take_left] at got
  rw [left, List.drop_left] at behind
  refine ⟨(source.fillFrom #[] taken.length).2.2, ?_, behind, behaviour⟩
  simp only [fill, status, got, List.nil_append]

/-- What is left is all that is filled in if more is asked for. -/
theorem fill_of_short {source : Source} {wanted : Nat} (delivers : source.behaviour.Delivers)
    (short : source.rest.length < wanted) :
    ∃ after, source.fill wanted = (.ended, source.rest, after) := by
  obtain ⟨status, got, -⟩ := fillFrom_of_delivers delivers #[] wanted
  rw [if_neg (by omega)] at status
  rw [List.take_of_length_le (by omega)] at got
  refine ⟨(source.fillFrom #[] wanted).2.2, ?_⟩
  simp only [fill, status, got, List.nil_append]

end Source

/-! ## Records -/

namespace RecordReader

/-- A reader of records up to some length, with so many bytes of a source left. -/
structure Faces (reader : RecordReader) (longest : Nat) (rest : Bytes) : Prop where
  rest : reader.source.rest = rest
  delivers : reader.source.behaviour.Delivers
  longest : reader.longest = longest

theorem faces_of_bytes {behaviour : Source.Behaviour} (delivers : behaviour.Delivers)
    (bytes : Bytes) : Faces { source := .ofBytes bytes behaviour } (UInt32.size - 1) bytes :=
  ⟨rfl, delivers, rfl⟩

/-- How reading ends at bytes that no record of an accepted length begins: well if there are none, and
otherwise inside a length, with a length that is not accepted, or inside a record. -/
def ending (longest : Nat) (tail : Bytes) : Except Fault Unit :=
  if tail = [] then .ok ()
  else if tail.length < Record.lengthSize then .error cutLength
  else if longest < Record.announced tail then .error (tooLong (Record.announced tail) longest)
  else .error .endedEarly

variable {reader : RecordReader} {longest : Nat} {tail : Bytes}

theorem ending_of_above (word : Record.lengthSize ≤ tail.length)
    (above : longest < Record.announced tail) :
    ending longest tail = .error (tooLong (Record.announced tail) longest) := by
  have some : tail ≠ [] := by
    rintro rfl
    exact absurd word (by decide)
  unfold ending
  rw [if_neg some, if_neg (Nat.not_lt.mpr word), if_pos above]

/-- Whatever else is left over breaks off, in its length or behind it. -/
theorem ending_of_cut (some : tail ≠ [])
    (cut : ¬ (Record.lengthSize ≤ tail.length ∧ longest < Record.announced tail)) :
    ∃ message, ending longest tail = .error ⟨.unexpectedEnd, message⟩ := by
  unfold ending
  rw [if_neg some]
  by_cases short : tail.length < Record.lengthSize
  · exact ⟨_, if_pos short⟩
  · have accepted : ¬ longest < Record.announced tail := by
      intro above
      exact cut ⟨Nat.le_of_not_lt short, above⟩
    rw [if_neg short, if_neg accepted]
    exact ⟨_, rfl⟩

/-- The three ways to end are told apart by the tail. -/
theorem ending_iff (longest : Nat) (tail : Bytes) :
    (ending longest tail = .ok () ↔ tail = []) ∧
      ((∃ message, ending longest tail = .error ⟨.invalidData, message⟩) ↔
        Record.lengthSize ≤ tail.length ∧ longest < Record.announced tail) ∧
      ((∃ message, ending longest tail = .error ⟨.unexpectedEnd, message⟩) ↔
        tail ≠ [] ∧ ¬ (Record.lengthSize ≤ tail.length ∧ longest < Record.announced tail)) := by
  by_cases none : tail = []
  · subst none
    refine ⟨iff_of_true rfl rfl, iff_of_false (by simp [ending]) ?_,
      iff_of_false (by simp [ending]) ?_⟩
    · rintro ⟨word, -⟩
      exact absurd word (by decide)
    · rintro ⟨some, -⟩
      exact some rfl
  · by_cases above : Record.lengthSize ≤ tail.length ∧ longest < Record.announced tail
    · rw [ending_of_above above.1 above.2]
      refine ⟨iff_of_false (by simp) none, iff_of_true ⟨_, rfl⟩ above, iff_of_false ?_ ?_⟩
      · simp [tooLong]
      · intro cut
        exact cut.2 above
    · obtain ⟨message, cut⟩ := ending_of_cut none above
      rw [cut]
      exact ⟨iff_of_false (by simp) none, iff_of_false (by simp) above,
        iff_of_true ⟨message, rfl⟩ ⟨none, above⟩⟩

/-- Behind a length that is accepted, as many bytes are taken as the length says. -/
theorem read_of_length {word rest : Bytes} (faces : reader.Faces longest (word ++ rest))
    (size : word.length = Record.lengthSize) :
    ∃ behind : Source, behind.rest = rest ∧ behind.behaviour.Delivers ∧
      reader.read =
        if longest < Bytes.ofBigEndian word then
          (.error (tooLong (Bytes.ofBigEndian word) longest), { reader with source := behind })
        else
          match behind.fill (Bytes.ofBigEndian word) with
          | (.full, record, source) => (.ok (some record), { reader with source })
          | (.ended, _, source) => (.error .endedEarly, { reader with source })
          | (.failed fault, _, source) => (.error fault, { reader with source }) := by
  obtain ⟨behind, filled, left, same⟩ := Source.fill_of_append faces.delivers faces.rest
  rw [size] at filled
  refine ⟨behind, left, same ▸ faces.delivers, ?_⟩
  unfold read
  rcases result : behind.fill (Bytes.ofBigEndian word) with ⟨status, got, after⟩
  cases status with
  | full => simp only [filled, faces.longest, result]
  | ended => simp only [filled, faces.longest, result]
  | failed fault => simp only [filled, faces.longest, result]

/-- A whole record is read, and the reader faces what is behind it. -/
theorem read_of_frame {record rest : Bytes} (faces : reader.Faces longest (Record.frame record ++ rest))
    (fits : record.length ≤ longest) (limit : longest < UInt32.size) :
    ∃ after, reader.read = (.ok (some record), after) ∧ after.Faces longest rest := by
  unfold Record.frame at faces
  rw [List.append_assoc] at faces
  obtain ⟨middle, left, delivers, result⟩ := read_of_length faces (Bytes.length_bigEndian _ _)
  obtain ⟨behind, filled, leftBehind, same⟩ := Source.fill_of_append delivers left
  rw [Record.ofBigEndian_length (by omega), if_neg (by omega), filled] at result
  exact ⟨_, result, leftBehind, same ▸ delivers, faces.longest⟩

/-- At bytes that no record begins, reading ends. -/
theorem read_of_tail {tail : Bytes} (faces : reader.Faces longest tail)
    (maximal : ∀ record, record.length ≤ longest → ¬ Record.frame record <+: tail) :
    ∃ after, reader.read = ((ending longest tail).map fun () => none, after) := by
  by_cases cut : tail.length < Record.lengthSize
  · obtain ⟨behind, filled⟩ := Source.fill_of_short faces.delivers (faces.rest ▸ cut)
    rw [faces.rest] at filled
    refine ⟨{ reader with source := behind }, ?_⟩
    unfold read ending
    rw [filled, if_pos cut]
    cases tail with
    | nil => rfl
    | cons byte bytes => rfl
  · have some : tail ≠ [] := by
      rintro rfl
      exact cut (by decide)
    have size : (tail.take Record.lengthSize).length = Record.lengthSize := by
      rw [List.length_take]
      omega
    rw [← List.take_append_drop Record.lengthSize tail] at faces
    obtain ⟨middle, left, delivers, result⟩ := read_of_length faces size
    unfold ending
    rw [if_neg some, if_neg cut]
    change reader.read = if longest < Record.announced tail then _ else _ at result
    by_cases long : longest < Record.announced tail
    · rw [if_pos long] at result ⊢
      exact ⟨_, result⟩
    · -- the length is accepted, so there are fewer bytes behind it than it says
      have short : middle.rest.length < Record.announced tail := by
        rw [left, List.length_drop]
        apply Nat.lt_of_not_le
        intro enough
        obtain ⟨record, length, begins⟩ :=
          Record.frame_prefix_of_announced (Nat.le_of_not_lt cut) (by omega)
        exact maximal record (by omega) begins
      obtain ⟨behind, filled⟩ := Source.fill_of_short delivers short
      rw [if_neg long] at result ⊢
      change reader.read = match middle.fill (Record.announced tail) with
        | (.full, record, source) => _
        | (.ended, _, source) => _
        | (.failed fault, _, source) => _ at result
      rw [filled] at result
      exact ⟨_, result⟩

/-! ## Streams -/

theorem length_le_stream (records : List Bytes) :
    records.length ≤ (Record.stream .binary records).length := by
  induction records with
  | nil => exact Nat.le_refl 0
  | cons record records ih =>
    have shorter := Record.length_lt_length_frame_append record (Record.stream .binary records)
    show records.length + 1 ≤ (Record.frame record ++ Record.stream .binary records).length
    omega

/-- Whole records are read one after the other, and reading ends at the tail behind them. -/
theorem readEach_of_splits {bytes tail : Bytes} {records : List Bytes} {fuel : Nat}
    (faces : reader.Faces longest bytes) (limit : longest < UInt32.size)
    (splits : Record.Splits longest bytes records tail) (enough : records.length < fuel) :
    reader.readEach fuel = (records, ending longest tail) := by
  induction records generalizing reader bytes fuel with
  | nil =>
    obtain ⟨rfl, maximal⟩ := Record.splits_nil_iff.mp splits
    obtain ⟨after, ended⟩ := read_of_tail faces maximal
    cases fuel with
    | zero => omega
    | succ fuel =>
      rw [readEach, ended]
      cases ending longest bytes with
      | ok done => rfl
      | error fault => rfl
  | cons record records ih =>
    obtain ⟨fits, rest, rfl, others⟩ := Record.splits_cons_iff.mp splits
    obtain ⟨after, taken, facesAfter⟩ := read_of_frame faces fits limit
    rw [List.length_cons] at enough
    cases fuel with
    | zero => omega
    | succ fuel =>
      rw [readEach, taken]
      dsimp only
      rw [ih facesAfter others (by omega)]

theorem readAll_of_splits {bytes tail : Bytes} {records : List Bytes}
    (faces : reader.Faces longest bytes) (limit : longest < UInt32.size)
    (splits : Record.Splits longest bytes records tail) :
    reader.readAll = (records, ending longest tail) := by
  -- there are fewer records than bytes, so that the steps are enough for all of them and one more
  have few := length_le_stream records
  refine readEach_of_splits faces limit splits ?_
  rw [faces.rest, splits.parts, List.length_append]
  omega

/-- A reader takes every stream apart in the one way there is, and the tail says how it ends: well if
there is nothing left, with a length that is refused if a whole one is there and above the limit, and as
a stream that breaks off otherwise. How the source delivers the stream makes no difference. -/
theorem recognises_framings (longest : Nat) (bytes : Bytes) (limit : longest < UInt32.size) :
    ∃ records tail outcome,
      (∀ others otherTail, Record.Splits longest bytes others otherTail ↔
        others = records ∧ otherTail = tail) ∧
      (∀ reader : RecordReader, reader.Faces longest bytes →
        reader.readAll = (records, outcome) ∧
          ∀ fuel, records.length < fuel → reader.readEach fuel = (records, outcome)) ∧
      (outcome = .ok () ↔ tail = []) ∧
      ((∃ message, outcome = .error ⟨.invalidData, message⟩) ↔
        Record.lengthSize ≤ tail.length ∧ longest < Record.announced tail) ∧
      ((∃ message, outcome = .error ⟨.unexpectedEnd, message⟩) ↔
        tail ≠ [] ∧ ¬ (Record.lengthSize ≤ tail.length ∧ longest < Record.announced tail)) := by
  obtain ⟨records, tail, splits⟩ := Record.exists_splits longest bytes
  refine ⟨records, tail, ending longest tail, ?_, ?_, ending_iff longest tail⟩
  · intro others otherTail
    constructor
    · exact splits.unique limit
    · rintro ⟨rfl, rfl⟩
      exact splits
  · intro reader faces
    refine ⟨readAll_of_splits faces limit splits, ?_⟩
    intro fuel enough
    exact readEach_of_splits faces limit splits enough

/-- A record, an empty one and a length above the limit, in portions of three bytes and with more
interruptions before each. -/
theorem recognises_framings_above_limit :
    let bytes : Bytes := [0, 0, 0, 1, 7, 0, 0, 0, 0, 0, 0, 0, 9, 1]
    let reader : RecordReader :=
      { source := .ofBytes bytes ⟨fun reads => reads + 1, fun _ => 3, none⟩, longest := 2 }
    reader.Faces 2 bytes ∧ Record.Splits 2 bytes [[7], []] [0, 0, 0, 9, 1] ∧
      ∃ message, reader.readAll = ([[7], []], .error ⟨.invalidData, message⟩) := by
  intro bytes reader
  have faces : reader.Faces 2 bytes := ⟨rfl, ⟨fun _ => show 0 < 3 by decide, rfl⟩, rfl⟩
  have splits : Record.Splits 2 bytes [[7], []] [0, 0, 0, 9, 1] := by
    refine ⟨rfl, by decide, ?_⟩
    rintro record fits ⟨rest, begins⟩
    -- the tail announces nine bytes, more than a record may have
    have announced : Record.announced (Record.frame record ++ rest) = 9 := by
      rw [begins]
      rfl
    rw [Record.announced_frame rest (Nat.lt_of_le_of_lt fits (by decide))] at announced
    omega
  obtain ⟨records, tail, outcome, unique, reads, -, invalid, -⟩ :=
    recognises_framings 2 bytes (by decide)
  obtain ⟨rfl, rfl⟩ := (unique _ _).mp splits
  obtain ⟨message, rfl⟩ := invalid.mpr (by decide)
  exact ⟨faces, splits, message, (reads reader faces).1⟩

/-- A stream of whole records is read back, and ends well. -/
theorem readAll_stream {records : List Bytes}
    (faces : reader.Faces (UInt32.size - 1) (Record.stream .binary records))
    (fit : ∀ record ∈ records, record.length < UInt32.size) :
    reader.readAll = (records, .ok ()) := by
  have splits : Record.Splits (UInt32.size - 1) (Record.stream .binary records) records [] := by
    refine ⟨by rw [List.append_nil], ?_, ?_⟩
    · intro record member
      exact Nat.le_pred_of_lt (fit record member)
    · intro record _ begins
      have empty := begins.length_le
      simp [Record.frame, Record.lengthSize] at empty
  exact readAll_of_splits faces (by decide) splits

/-- The fault of a record of which so many bytes are left: it breaks off in its length or behind
it. -/
def tornFault (left : Nat) : Fault := if left < Record.lengthSize then cutLength else .endedEarly

/-- Behind whole records, the start of another gives a fault and no record. -/
theorem readAll_torn {records : List Bytes} {record torn : Bytes}
    (faces : reader.Faces (UInt32.size - 1) (Record.stream .binary records ++ torn))
    (fit : ∀ record ∈ records, record.length < UInt32.size) (fits : record.length < UInt32.size)
    (within : torn <+: Record.frame record) (some : torn ≠ [])
    (partly : torn ≠ Record.frame record) :
    reader.readAll = (records, .error (tornFault torn.length)) := by
  obtain ⟨missing, whole⟩ := within
  have splits : Record.Splits (UInt32.size - 1) (Record.stream .binary records ++ torn) records
      torn := by
    refine ⟨rfl, ?_, ?_⟩
    · intro record member
      exact Nat.le_pred_of_lt (fit record member)
    · rintro other otherFits ⟨rest, begins⟩
      have otherShort : other.length < UInt32.size := Nat.lt_of_le_pred (by decide) otherFits
      have same : Record.frame other ++ (rest ++ missing) = Record.frame record ++ [] := by
        rw [← List.append_assoc, begins, whole, List.append_nil]
      obtain ⟨rfl, none⟩ := Record.eq_of_frames otherShort fits same
      obtain ⟨rfl, -⟩ := List.append_eq_nil_iff.mp none
      exact partly (by rw [← begins, List.append_nil])
  rw [readAll_of_splits faces (by decide) splits]
  unfold ending tornFault
  rw [if_neg some]
  split
  · rfl
  · rename_i word
    have announced : Record.announced torn = record.length := by
      have same := Record.announced_frame [] fits
      rw [List.append_nil, ← whole] at same
      rw [← same, Record.announced, Record.announced,
        List.take_append_of_le_length (Nat.le_of_not_lt word)]
    rw [announced, if_neg (by omega)]

end RecordReader

end BurstRelay

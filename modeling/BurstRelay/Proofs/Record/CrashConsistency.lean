import BurstRelay.Proofs.Record.Reading

/-!
# What is left when a writer breaks off

A writer writes record after record until one fails. Whatever the sink does to it, with short writes,
interruptions and faults at any byte and at any flush, what the sink took is the framings of the records
that were reported as written, and behind them the start of the framing of the one that failed
(`crash_consistent`). A reader of that finds the former, and the latter only if all of it was
taken.

One call is described by `Attempt`. It succeeds exactly when the sink took the whole framing and then
the flush worked, and the writer counts it exactly then.
-/

namespace BurstRelay

namespace RecordWriter

/-! ## Offering -/

theorem tried_of_offer (sink : Sink) (pieces : List Bytes) :
    (offer sink pieces).2.flushesTried = sink.flushesTried := by
  induction pieces generalizing sink with
  | nil => rfl
  | cons piece pieces ih =>
    have here := sink.tried_of_writeAll piece
    rw [offer]
    cases wrote : sink.writeAll piece with
    | mk result after =>
      rw [wrote] at here
      cases result with
      | error fault => exact here
      | ok done => exact (ih after).trans here

/-- If offering fails, something of the pieces is missing. -/
theorem length_lt_of_offer {sink : Sink} {pieces : List Bytes}
    (failed : (offer sink pieces).1 ≠ .ok ()) :
    (offer sink pieces).2.bytes.length < sink.bytes.length + pieces.flatten.length := by
  induction pieces generalizing sink with
  | nil => exact absurd rfl failed
  | cons piece pieces ih =>
    obtain ⟨accepted, within, bytes, whole⟩ := sink.bytes_of_writeAll piece
    rw [offer] at failed ⊢
    rw [List.flatten_cons, List.length_append]
    cases wrote : sink.writeAll piece with
    | mk result after =>
      rw [wrote] at bytes whole failed
      cases result with
      | error fault =>
        have torn : (sink.writeAll piece).1 ≠ .ok () := by
          rw [wrote]
          simp
        have fewer := Sink.length_lt_of_writeAll torn
        rw [wrote] at fewer
        dsimp only at fewer ⊢
        omega
      | ok done =>
        have fewer := ih failed
        rw [whole rfl] at bytes
        simp only [bytes, List.length_append] at fewer
        show (offer after pieces).2.bytes.length < _
        omega

/-! ## One call -/

/-- What came of one attempt to write a record: what of its framing the sink took, and what the writer
and the sink counted. -/
structure Attempt (writer : RecordWriter) (record : Bytes) (accepted : Bytes)
    (result : Except Fault Unit) (after : RecordWriter) : Prop where
  within : accepted <+: Record.framed writer.format record
  bytes : after.sink.bytes = writer.sink.bytes ++ accepted
  /-- The attempt succeeds exactly when the whole framing was taken and the flush behind it worked. -/
  succeeds : result = .ok () ↔ accepted = Record.framed writer.format record ∧
    writer.sink.behaviour.flushFault writer.sink.flushesTried = none
  /-- Nothing is taken of a record that cannot be framed. -/
  fits : accepted ≠ [] → Record.Fits writer.format record
  written : after.written = writer.written + result.isOk.toNat
  flushes : after.sink.flushes = writer.sink.flushes + result.isOk.toNat
  /-- A flush was tried exactly when the whole framing was taken. -/
  tried : after.sink.flushesTried =
    writer.sink.flushesTried + if accepted = Record.framed writer.format record then 1 else 0

theorem framed_ne_nil (format : RecordFormat) (record : Bytes) : Record.framed format record ≠ [] := by
  intro none
  have length := congrArg List.length none
  cases format with
  | binary =>
    simp only [Record.framed, Record.frame, List.length_append, Bytes.length_bigEndian] at length
    exact absurd length (by show ¬ 4 + record.length = 0; omega)
  | hex => simp [Record.framed, Record.hexLine] at length

theorem attempt_of_write {writer after : RecordWriter} {record : Bytes}
    {result : Except Fault Unit} (wrote : writer.write record = (result, after)) :
    ∃ accepted, Attempt writer record accepted result after := by
  have some := framed_ne_nil writer.format record
  unfold write at wrote
  cases parted : parts writer.format record with
  | error fault =>
    rw [parted] at wrote
    cases wrote
    refine ⟨[], List.nil_prefix, (List.append_nil _).symm, ?_, fun none => absurd rfl none, rfl, rfl,
      ?_⟩
    · constructor
      · intro ok
        cases ok
      · rintro ⟨none, -⟩
        exact absurd none.symm some
    · rw [if_neg some.symm, Nat.add_zero]
  | ok pieces =>
    obtain ⟨fits, flat⟩ := parts_eq_ok parted
    obtain ⟨accepted, within, bytes, whole⟩ := bytes_of_offer writer.sink pieces
    obtain ⟨behaviour, flushes⟩ := frame_of_offer writer.sink pieces
    have tried := tried_of_offer writer.sink pieces
    rw [flat] at within whole
    rw [parted] at wrote
    refine ⟨accepted, ?_⟩
    cases offered : offer writer.sink pieces with
    | mk result taken =>
      rw [offered] at bytes whole behaviour flushes tried
      simp only [offered] at wrote
      cases result with
      | error fault =>
        -- the sink failed, so that something of the framing is missing
        have torn : (offer writer.sink pieces).1 ≠ .ok () := by
          rw [offered]
          simp
        have fewer := length_lt_of_offer torn
        rw [offered, bytes, flat, List.length_append] at fewer
        have partly : accepted ≠ Record.framed writer.format record := by
          rintro rfl
          omega
        cases wrote
        refine ⟨within, bytes, ?_, fun _ => fits, rfl, flushes, ?_⟩
        · constructor
          · intro ok
            cases ok
          · rintro ⟨all, -⟩
            exact absurd all partly
        · rw [if_neg partly]
          exact tried
      | ok done =>
        cases whole rfl
        cases flushed : taken.flush with
        | mk result synced =>
          have works := Sink.flush_eq_ok flushed
          have more := Sink.tried_of_flush flushed
          have same := (Sink.frame_of_flush flushed).2.trans bytes
          rw [behaviour, tried] at works
          rw [tried] at more
          simp only [flushed] at wrote
          cases result with
          | error fault =>
            have uncounted := (Sink.flushes_of_flush_error flushed).trans flushes
            cases wrote
            refine ⟨within, same, ?_, fun _ => fits, rfl, uncounted, ?_⟩
            · constructor
              · intro ok
                cases ok
              · rintro ⟨-, fine⟩
                exact works.mpr fine
            · rw [if_pos rfl]
              exact more
          | ok done =>
            have counted := Sink.flushes_of_flush flushed
            rw [flushes] at counted
            cases wrote
            refine ⟨within, same, ?_, fun _ => fits, rfl, counted, ?_⟩
            · exact ⟨fun _ => ⟨rfl, works.mp rfl⟩, fun _ => rfl⟩
            · rw [if_pos rfl]
              exact more

/-! ## Calls in a row -/

/-- A writer that wrote nothing yet, to a sink that nothing happened to. -/
def fresh (behaviour : Sink.Behaviour) (format : RecordFormat) : RecordWriter :=
  { sink := .ofBehaviour behaviour, format }

/-- Calls in a row that all succeeded, one for each record. -/
inductive Writes : RecordWriter → List Bytes → RecordWriter → Prop
  | nothing (writer : RecordWriter) : Writes writer [] writer
  | record {writer middle after : RecordWriter} {record : Bytes} {records : List Bytes}
      (call : writer.write record = (.ok (), middle)) (others : Writes middle records after) :
      Writes writer (record :: records) after

/-- Where a writer stands that began fresh and wrote so many records. -/
structure Stands (behaviour : Sink.Behaviour) (format : RecordFormat) (done : List Bytes)
    (writer : RecordWriter) : Prop where
  behaves : writer.sink.behaviour = behaviour
  frames : writer.format = format
  bytes : writer.sink.bytes = Record.stream format done
  written : writer.written = done.length
  flushes : writer.sink.flushes = done.length
  tried : writer.sink.flushesTried = done.length
  worked : ∀ flush < done.length, behaviour.flushFault flush = none
  fit : ∀ record ∈ done, Record.Fits format record

variable {behaviour : Sink.Behaviour} {format : RecordFormat} {done records : List Bytes}
  {writer last : RecordWriter}

theorem stands_fresh (behaviour : Sink.Behaviour) (format : RecordFormat) :
    Stands behaviour format [] (fresh behaviour format) :=
  ⟨rfl, rfl, rfl, rfl, rfl, rfl, by simp, by simp⟩

/-- A call that succeeds brings a writer to where it stands with one record more. -/
theorem Stands.write {after : RecordWriter} {record : Bytes}
    (stands : Stands behaviour format done writer)
    (wrote : writer.write record = (.ok (), after)) :
    Stands behaviour format (done ++ [record]) after := by
  obtain ⟨accepted, attempt⟩ := attempt_of_write wrote
  obtain ⟨whole, works⟩ := attempt.succeeds.mp rfl
  have keeps := (write_cases wrote).1
  have some := framed_ne_nil writer.format record
  have bytes := attempt.bytes
  have written := attempt.written
  have flushes := attempt.flushes
  have tried := attempt.tried
  have fits := attempt.fits (whole ▸ some)
  rw [whole, stands.bytes, stands.frames] at bytes
  rw [if_pos whole, stands.tried] at tried
  rw [stands.behaves, stands.tried] at works
  rw [stands.written] at written
  rw [stands.flushes] at flushes
  rw [stands.frames] at fits
  have one : (done ++ [record]).length = done.length + 1 := by simp
  refine ⟨keeps.behaviour.trans stands.behaves, keeps.format.trans stands.frames, ?_, ?_, ?_, ?_,
    ?_, ?_⟩
  · rw [bytes]
    simp [Record.stream]
  · rw [written, one]
    rfl
  · rw [flushes, one]
    rfl
  · rw [tried, one]
  · intro flush before
    rw [one] at before
    rcases Nat.lt_succ_iff_lt_or_eq.mp before with earlier | rfl
    · exact stands.worked flush earlier
    · exact works
  · intro other member
    rcases List.mem_append.mp member with earlier | latest
    · exact stands.fit other earlier
    · rw [List.mem_singleton.mp latest]
      exact fits

theorem Stands.writes (stands : Stands behaviour format done writer)
    (writes : Writes writer records last) : Stands behaviour format (done ++ records) last := by
  induction writes generalizing done with
  | nothing writer =>
    rw [List.append_nil]
    exact stands
  | @record _ _ _ record records call _ ih =>
    have more := ih (stands.write call)
    rw [List.append_assoc] at more
    exact more

/-- Records are written up to the first that fails. -/
theorem exists_writes (writer : RecordWriter) (records : List Bytes) :
    ∃ done last, Writes writer done last ∧
      ((done = records ∧ writer.writeEach records = (.ok (), last)) ∨
        ∃ record rest fault after, records = done ++ record :: rest ∧
          last.write record = (.error fault, after) ∧
          writer.writeEach records = (.error fault, after)) := by
  induction records generalizing writer with
  | nil => exact ⟨[], writer, .nothing writer, .inl ⟨rfl, rfl⟩⟩
  | cons record records ih =>
    cases wrote : writer.write record with
    | mk result middle =>
      cases result with
      | error fault =>
        refine ⟨[], writer, .nothing writer, .inr ⟨record, records, fault, middle, rfl, wrote, ?_⟩⟩
        rw [writeEach, wrote]
      | ok succeeded =>
        have next : writer.writeEach (record :: records) = middle.writeEach records := by
          rw [writeEach, wrote]
        obtain ⟨done, last, writes, ⟨rfl, ended⟩ | ⟨failing, rest, fault, after, rfl, failed, ended⟩⟩ :=
          ih middle
        · exact ⟨_, last, .record wrote writes, .inl ⟨rfl, next.trans ended⟩⟩
        · exact ⟨_, last, .record wrote writes,
            .inr ⟨failing, rest, fault, after, rfl, failed, next.trans ended⟩⟩

/-! ## What a reader finds -/

/-- What one more call leaves behind the records that were written: the start of a framing, with what
the call reported and counted, and what a reader finds in it. -/
structure Leaves (behaviour : Sink.Behaviour) (format : RecordFormat) (done : List Bytes)
    (record accepted : Bytes) (result : Except Fault Unit) (after : RecordWriter) : Prop where
  within : accepted <+: Record.framed format record
  bytes : after.sink.bytes = Record.stream format done ++ accepted
  succeeds : result = .ok () ↔
    accepted = Record.framed format record ∧ behaviour.flushFault done.length = none
  written : after.written = done.length + result.isOk.toNat
  flushes : after.sink.flushes = done.length + result.isOk.toNat
  reads : format = .binary → ∀ source : Source.Behaviour, source.Delivers →
    ∃ ending, RecordReader.readAll { source := .ofBytes after.sink.bytes source } =
        (done ++ (if accepted = Record.framed format record then [record] else []), ending) ∧
      (ending = .ok () ↔ accepted = [] ∨ accepted = Record.framed format record)

/-- What holds when so many calls succeeded: the sink has the framings of their records and nothing
else, each call was counted and flushed, and one more call, whether it fails or not, adds the start of
the framing of its record at most. -/
structure Consistent (behaviour : Sink.Behaviour) (format : RecordFormat) (done : List Bytes)
    (last : RecordWriter) : Prop where
  bytes : last.sink.bytes = Record.stream format done
  written : last.written = done.length
  flushes : last.sink.flushes = done.length
  worked : ∀ flush < done.length, behaviour.flushFault flush = none
  reads : format = .binary → ∀ source : Source.Behaviour, source.Delivers →
    RecordReader.readAll { source := .ofBytes last.sink.bytes source } = (done, .ok ())
  next : ∀ record result after, last.write record = (result, after) →
    ∃ accepted, Leaves behaviour format done record accepted result after

/-- Behind whole records, a reader finds another exactly if the whole of it is there. -/
theorem readAll_of_accepted {source : Source.Behaviour} {record accepted : Bytes}
    (delivers : source.Delivers) (fit : ∀ record ∈ done, record.length < UInt32.size)
    (fits : accepted ≠ [] → record.length < UInt32.size) (within : accepted <+: Record.frame record) :
    ∃ ending, RecordReader.readAll
        { source := .ofBytes (Record.stream .binary done ++ accepted) source } =
        (done ++ (if accepted = Record.frame record then [record] else []), ending) ∧
      (ending = .ok () ↔ accepted = [] ∨ accepted = Record.frame record) := by
  have some : Record.frame record ≠ [] := framed_ne_nil .binary record
  have faces := RecordReader.faces_of_bytes delivers (Record.stream .binary done ++ accepted)
  by_cases none : accepted = []
  · subst none
    rw [List.append_nil] at faces ⊢
    refine ⟨.ok (), ?_, by simp⟩
    rw [RecordReader.readAll_stream faces fit, if_neg some.symm, List.append_nil]
  · by_cases whole : accepted = Record.frame record
    · have more : Record.stream .binary done ++ accepted = Record.stream .binary (done ++ [record]) := by
        rw [whole]
        simp [Record.stream, Record.framed]
      have fitMore : ∀ other ∈ done ++ [record], other.length < UInt32.size := by
        intro other member
        rcases List.mem_append.mp member with earlier | latest
        · exact fit other earlier
        · rw [List.mem_singleton.mp latest]
          exact fits none
      rw [more] at faces ⊢
      refine ⟨.ok (), ?_, by simp [whole]⟩
      rw [RecordReader.readAll_stream faces fitMore, if_pos whole]
    · refine ⟨.error (RecordReader.tornFault accepted.length), ?_, ?_⟩
      · rw [RecordReader.readAll_torn faces fit (fits none) within none whole, if_neg whole,
          List.append_nil]
      · simp [none, whole]

theorem Stands.leaves {after : RecordWriter} {record : Bytes} {result : Except Fault Unit}
    (stands : Stands behaviour format done last) (wrote : last.write record = (result, after)) :
    ∃ accepted, Leaves behaviour format done record accepted result after := by
  obtain ⟨accepted, attempt⟩ := attempt_of_write wrote
  have bytes := attempt.bytes
  have succeeds := attempt.succeeds
  have within := attempt.within
  rw [stands.bytes] at bytes
  rw [stands.frames, stands.behaves, stands.tried] at succeeds
  rw [stands.frames] at within
  refine ⟨accepted, within, bytes, succeeds, ?_, ?_, ?_⟩
  · rw [attempt.written, stands.written]
  · rw [attempt.flushes, stands.flushes]
  · rintro rfl source delivers
    rw [bytes]
    refine readAll_of_accepted delivers (fun other member => stands.fit other member rfl) ?_ within
    intro some
    exact attempt.fits some stands.frames

theorem Stands.consistent (stands : Stands behaviour format done last) :
    Consistent behaviour format done last where
  bytes := stands.bytes
  written := stands.written
  flushes := stands.flushes
  worked := stands.worked
  reads := by
    rintro rfl source delivers
    rw [stands.bytes]
    exact RecordReader.readAll_stream (RecordReader.faces_of_bytes delivers _)
      fun record member => stands.fit record member rfl
  next := fun _ _ _ wrote => stands.leaves wrote

/-- Whatever a sink does, records are written to it up to the first call that fails, if one does, and
what it has by then is consistent with what the calls reported. -/
theorem crash_consistent (behaviour : Sink.Behaviour) (format : RecordFormat)
    (records : List Bytes) :
    ∃ done last, Writes (fresh behaviour format) done last ∧
      Consistent behaviour format done last ∧
      ((done = records ∧ (fresh behaviour format).writeEach records = (.ok (), last)) ∨
        ∃ record rest fault after, records = done ++ record :: rest ∧
          last.write record = (.error fault, after) ∧
          (fresh behaviour format).writeEach records = (.error fault, after)) := by
  obtain ⟨done, last, writes, ended⟩ := exists_writes (fresh behaviour format) records
  exact ⟨done, last, writes, ((stands_fresh behaviour format).writes writes).consistent, ended⟩

end RecordWriter

end BurstRelay

import BurstRelay.Proofs.Stream.Accepting
import BurstRelay.Record.Writer

/-!
# Delivery of records

What a sink holds when a writer comes back to its caller, whatever the sink did meanwhile
(`writeEach_cases`):

* after a success every record is *stored* (`Stored`): the sink took its whole framing, and a flush
  that came behind it succeeded;
* after a failure the records are *torn* (`Torn`): those before one of them are stored, and of that
  one the sink took the start of its framing at most.

A sink that accepts everything fails no record that can be framed (`writeEach_of_accepts`).
-/

namespace BurstRelay

/-- The framings of records, one behind the other. -/
def Record.stream (format : RecordFormat) (records : List Bytes) : Bytes :=
  records.flatMap (Record.framed format)

/-- A record can be framed: in binary form its length has to fit four bytes. -/
def Record.Fits (format : RecordFormat) (record : Bytes) : Prop :=
  format = .binary → record.length < UInt32.size

/-- Records are stored one after the other: the framing of each was taken, and flushed before
anything of the next was offered. -/
inductive Stored (format : RecordFormat) : Sink → List Bytes → Sink → Prop
  | nothing (sink : Sink) : Stored format sink [] sink
  | record {sink taken flushed after : Sink} {record : Bytes} {records : List Bytes}
      (fits : Record.Fits format record)
      (bytes : taken.bytes = sink.bytes ++ Record.framed format record)
      (flushes : taken.flushes = sink.flushes)
      (flush : taken.flush = (.ok (), flushed))
      (others : Stored format flushed records after) : Stored format sink (record :: records) after

/-- Records broke off: of one of them the sink took the start of its framing at most, those before
it are stored, and nothing of those behind it was offered. -/
inductive Torn (format : RecordFormat) : Sink → List Bytes → Sink → Prop
  | here {sink after : Sink} {record accepted : Bytes} {records : List Bytes}
      (within : accepted <+: Record.framed format record)
      (bytes : after.bytes = sink.bytes ++ accepted)
      (flushes : after.flushes = sink.flushes) : Torn format sink (record :: records) after
  | later {sink middle after : Sink} {record : Bytes} {records : List Bytes}
      (first : Stored format sink [record] middle)
      (others : Torn format middle records after) : Torn format sink (record :: records) after

namespace Record

@[simp] theorem stream_nil (format : RecordFormat) : stream format [] = [] := rfl

@[simp] theorem stream_cons (format : RecordFormat) (record : Bytes) (records : List Bytes) :
    stream format (record :: records) = framed format record ++ stream format records := rfl

end Record

/-! ## What the sink holds -/

namespace Stored

variable {format : RecordFormat} {sink middle after : Sink} {records : List Bytes}

theorem bytes_eq (stored : Stored format sink records after) :
    after.bytes = sink.bytes ++ Record.stream format records := by
  induction stored with
  | nothing sink => simp
  | record _ bytes _ flush _ ih =>
    rw [ih, (Sink.frame_of_flush flush).2, bytes, Record.stream_cons, List.append_assoc]

/-- Each stored record was flushed on its own. -/
theorem flushes_eq (stored : Stored format sink records after) :
    after.flushes = sink.flushes + records.length := by
  induction stored with
  | nothing sink => rfl
  | record _ _ flushes flush _ ih =>
    rw [ih, Sink.flushes_of_flush flush, flushes, List.length_cons]
    omega

theorem fits (stored : Stored format sink records after) :
    ∀ record ∈ records, Record.Fits format record := by
  induction stored with
  | nothing sink => simp
  | record fits _ _ _ _ ih => exact List.forall_mem_cons.mpr ⟨fits, ih⟩

theorem append {others : List Bytes} (first : Stored format sink records middle)
    (second : Stored format middle others after) : Stored format sink (records ++ others) after := by
  induction first with
  | nothing sink => exact second
  | record fits bytes flushes flush _ ih => exact .record fits bytes flushes flush (ih second)

end Stored

theorem Torn.widen {format : RecordFormat} {sink after : Sink} {records : List Bytes}
    (others : List Bytes) (torn : Torn format sink records after) :
    Torn format sink (records ++ others) after := by
  induction torn with
  | here within bytes flushes => exact .here within bytes flushes
  | later first _ ih => exact .later first ih

/-- What was taken of torn records is the start of their framings, and not all are flushed. -/
theorem Torn.bytes_eq {format : RecordFormat} {sink after : Sink} {records : List Bytes}
    (torn : Torn format sink records after) :
    ∃ accepted, accepted <+: Record.stream format records ∧
      after.bytes = sink.bytes ++ accepted ∧ after.flushes < sink.flushes + records.length := by
  induction torn with
  | here within bytes flushes =>
    refine ⟨_, within.trans (List.prefix_append _ _), bytes, ?_⟩
    rw [flushes, List.length_cons]
    omega
  | later first others ih =>
    obtain ⟨accepted, within, bytes, flushes⟩ := ih
    have whole := first.bytes_eq
    have once := first.flushes_eq
    simp only [Record.stream_cons, Record.stream_nil, List.append_nil] at whole
    refine ⟨_, (List.prefix_append_right_inj _).mpr within, ?_, ?_⟩
    · rw [bytes, whole, List.append_assoc]
    · simp only [List.length_cons, List.length_nil] at once ⊢
      omega

/-! ## Writers -/

namespace RecordWriter

theorem parts_eq_ok {format : RecordFormat} {record : Bytes} {pieces : List Bytes} :
    parts format record = .ok pieces →
      Record.Fits format record ∧ pieces.flatten = Record.framed format record := by
  intro parted
  unfold parts at parted
  cases format with
  | binary =>
    dsimp only at parted
    split at parted
    · rename_i fits
      simp only [Except.ok.injEq] at parted
      subst parted
      exact ⟨fun _ => fits, by simp [Record.framed, Record.frame]⟩
    · simp at parted
  | hex =>
    simp only [Except.ok.injEq] at parted
    subst parted
    exact ⟨by simp [Record.Fits], by simp [Record.framed, Record.hexLine]⟩

theorem exists_parts {format : RecordFormat} {record : Bytes} (fits : Record.Fits format record) :
    ∃ pieces, parts format record = .ok pieces := by
  unfold parts
  cases format with
  | binary => exact ⟨_, if_pos (fits rfl)⟩
  | hex => exact ⟨_, rfl⟩

/-- Offering parts appends the start of them, and all of them if it succeeds. -/
theorem bytes_of_offer (sink : Sink) (pieces : List Bytes) :
    ∃ accepted, accepted <+: pieces.flatten ∧
      (offer sink pieces).2.bytes = sink.bytes ++ accepted ∧
      ((offer sink pieces).1 = .ok () → accepted = pieces.flatten) := by
  induction pieces generalizing sink with
  | nil => exact ⟨[], List.prefix_rfl, by simp [offer], fun _ => rfl⟩
  | cons piece pieces ih =>
    obtain ⟨accepted, within, bytes, whole⟩ := sink.bytes_of_writeAll piece
    rw [offer, List.flatten_cons]
    cases wrote : sink.writeAll piece with
    | mk result after =>
      rw [wrote] at bytes whole
      cases result with
      | error fault =>
        exact ⟨accepted, within.trans (List.prefix_append _ _), bytes, by simp⟩
      | ok done =>
        obtain ⟨others, withinOthers, bytesOthers, wholeOthers⟩ := ih after
        rw [whole rfl] at bytes
        refine ⟨piece ++ others, (List.prefix_append_right_inj _).mpr withinOthers, ?_, ?_⟩
        · rw [bytesOthers, bytes, List.append_assoc]
        · intro succeeded
          rw [wholeOthers succeeded]

theorem frame_of_offer (sink : Sink) (pieces : List Bytes) :
    (offer sink pieces).2.behaviour = sink.behaviour ∧
      (offer sink pieces).2.flushes = sink.flushes := by
  induction pieces generalizing sink with
  | nil => exact ⟨rfl, rfl⟩
  | cons piece pieces ih =>
    have here := sink.frame_of_writeAll piece
    rw [offer]
    cases wrote : sink.writeAll piece with
    | mk result after =>
      rw [wrote] at here
      cases result with
      | error fault => exact here
      | ok done => exact ⟨(ih after).1.trans here.1, (ih after).2.trans here.2⟩

theorem offer_of_accepts (sink : Sink) (pieces : List Bytes) (accepts : sink.behaviour.Accepts) :
    (offer sink pieces).1 = .ok () := by
  induction pieces generalizing sink with
  | nil => rfl
  | cons piece pieces ih =>
    have here := sink.writeAll_of_accepts piece accepts
    have same := (sink.frame_of_writeAll piece).1
    rw [offer]
    cases wrote : sink.writeAll piece with
    | mk result after =>
      rw [wrote] at here same
      cases here
      exact ih after (same ▸ accepts)

/-- What a writer keeps, whatever its sink does. -/
structure Keeps (writer after : RecordWriter) : Prop where
  format : after.format = writer.format
  behaviour : after.sink.behaviour = writer.sink.behaviour

theorem Keeps.refl (writer : RecordWriter) : Keeps writer writer := ⟨rfl, rfl⟩

theorem Keeps.trans {writer middle after : RecordWriter} (first : Keeps writer middle)
    (second : Keeps middle after) : Keeps writer after :=
  ⟨second.format.trans first.format, second.behaviour.trans first.behaviour⟩

/-- All that writing one record can come to. -/
theorem write_cases {writer after : RecordWriter} {record : Bytes} {result : Except Fault Unit}
    (wrote : writer.write record = (result, after)) :
    Keeps writer after ∧
      ((result = .ok () ∧ after.written = writer.written + 1 ∧
          Stored writer.format writer.sink [record] after.sink) ∨
        (∃ fault, result = .error fault) ∧ after.written = writer.written ∧
          Torn writer.format writer.sink [record] after.sink) := by
  unfold write at wrote
  cases parted : parts writer.format record with
  | error fault =>
    rw [parted] at wrote
    cases wrote
    exact ⟨.refl writer, .inr ⟨⟨fault, rfl⟩, rfl, .here List.nil_prefix (by simp) rfl⟩⟩
  | ok pieces =>
    obtain ⟨fits, whole⟩ := parts_eq_ok parted
    obtain ⟨accepted, within, bytes, all⟩ := bytes_of_offer writer.sink pieces
    obtain ⟨behaviour, flushes⟩ := frame_of_offer writer.sink pieces
    rw [whole] at within all
    rw [parted] at wrote
    cases offered : offer writer.sink pieces with
    | mk result taken =>
      rw [offered] at bytes all behaviour flushes
      simp only [offered] at wrote
      cases result with
      | error fault =>
        cases wrote
        exact ⟨⟨rfl, behaviour⟩, .inr ⟨⟨fault, rfl⟩, rfl, .here within bytes flushes⟩⟩
      | ok done =>
        rw [all rfl] at bytes
        cases flushed : taken.flush with
        | mk result synced =>
          have same := (Sink.frame_of_flush flushed).1.trans behaviour
          simp only [flushed] at wrote
          cases result with
          | error fault =>
            -- everything was taken, but the record does not count
            have kept := Sink.flushes_of_flush_error flushed
            cases wrote
            refine ⟨⟨rfl, same⟩, .inr ⟨⟨fault, rfl⟩, rfl, .here List.prefix_rfl ?_ ?_⟩⟩
            · exact (Sink.frame_of_flush flushed).2.trans bytes
            · exact kept.trans flushes
          | ok done =>
            cases wrote
            exact ⟨⟨rfl, same⟩,
              .inl ⟨rfl, rfl, .record fits bytes flushes flushed (.nothing synced)⟩⟩

/-- All that writing records can come to. -/
theorem writeEach_cases {writer after : RecordWriter} {records : List Bytes}
    {result : Except Fault Unit} (wrote : writer.writeEach records = (result, after)) :
    Keeps writer after ∧
      ((result = .ok () ∧ after.written = writer.written + records.length ∧
          Stored writer.format writer.sink records after.sink) ∨
        (∃ fault, result = .error fault) ∧ Torn writer.format writer.sink records after.sink) := by
  induction records generalizing writer with
  | nil =>
    cases wrote
    exact ⟨.refl _, .inl ⟨rfl, rfl, .nothing _⟩⟩
  | cons record records ih =>
    rw [writeEach] at wrote
    cases first : writer.write record with
    | mk outcome middle =>
      rw [first] at wrote
      obtain ⟨keeps, ⟨rfl, counted, stored⟩ | ⟨⟨fault, rfl⟩, -, torn⟩⟩ := write_cases first
      · obtain ⟨keepsOthers, ⟨rfl, countedOthers, others⟩ | ⟨fault, torn⟩⟩ := ih wrote
        · rw [keeps.format] at others
          refine ⟨keeps.trans keepsOthers, .inl ⟨rfl, ?_, stored.append others⟩⟩
          rw [countedOthers, counted, List.length_cons]
          omega
        · rw [keeps.format] at torn
          exact ⟨keeps.trans keepsOthers, .inr ⟨fault, .later stored torn⟩⟩
      · cases wrote
        exact ⟨keeps, .inr ⟨⟨fault, rfl⟩, torn.widen records⟩⟩

/-- Writing records fails with the first of them that fails, when those before it are written. -/
theorem writeEach_of_error {writer after : RecordWriter} {records : List Bytes} {fault : Fault}
    (failed : writer.writeEach records = (.error fault, after)) :
    ∃ first record others middle, records = first ++ record :: others ∧
      writer.writeEach first = (.ok (), middle) ∧ middle.write record = (.error fault, after) := by
  induction records generalizing writer with
  | nil => cases failed
  | cons record records ih =>
    rw [writeEach] at failed
    cases wrote : writer.write record with
    | mk result next =>
      rw [wrote] at failed
      cases result with
      | error cause =>
        cases failed
        exact ⟨[], record, records, writer, rfl, rfl, wrote⟩
      | ok done =>
        obtain ⟨first, last, others, middle, split, succeeded, failure⟩ := ih failed
        refine ⟨record :: first, last, others, middle, ?_, ?_, failure⟩
        · rw [split, List.cons_append]
        · rw [writeEach, wrote]
          exact succeeded

/-- A record that can be framed is written to a sink that accepts everything. -/
theorem write_of_accepts (writer : RecordWriter) {record : Bytes}
    (accepts : writer.sink.behaviour.Accepts) (fits : Record.Fits writer.format record) :
    (writer.write record).1 = .ok () := by
  obtain ⟨pieces, parted⟩ := exists_parts fits
  have taken := offer_of_accepts writer.sink pieces accepts
  have same := (frame_of_offer writer.sink pieces).1
  unfold write
  rw [parted]
  cases offered : offer writer.sink pieces with
  | mk result sink =>
    rw [offered] at taken same
    cases taken
    have flushes := sink.flush_of_accepts (same ▸ accepts)
    cases flushed : sink.flush with
    | mk result synced =>
      rw [flushed] at flushes
      cases flushes
      simp [offered, flushed]

theorem writeEach_of_accepts (writer : RecordWriter) {records : List Bytes}
    (accepts : writer.sink.behaviour.Accepts)
    (fits : ∀ record ∈ records, Record.Fits writer.format record) :
    (writer.writeEach records).1 = .ok () := by
  induction records generalizing writer with
  | nil => rfl
  | cons record records ih =>
    rw [List.forall_mem_cons] at fits
    have here := writer.write_of_accepts accepts fits.1
    rw [writeEach]
    cases wrote : writer.write record with
    | mk result middle =>
      rw [wrote] at here
      cases here
      have keeps := (write_cases wrote).1
      exact ih middle (keeps.behaviour ▸ accepts) (keeps.format ▸ fits.2)

end RecordWriter

end BurstRelay

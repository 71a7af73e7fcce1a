import BurstRelay.Proofs.Relay.Accounts

/-!
# Records written and records counted

The records that a relay wrote are counted twice: by its writer, which counts each record when it is
flushed, and by the relay, which counts all records of a message when the last of them is written. The
two agree as long as the sink works. When it fails in a message whose first records are stored by then,
the relay ends with these records written and not counted.

`Tallies` is what a call does to the two counts, and `recorded_of_serves` says exactly when they agree
behind a call. That they do not always is shown by a burst of two frames whose second one the sink
refuses (`counts_differ`); they always do when a message is one record at most.
-/

namespace BurstRelay

namespace RecordWriter

/-- Records that broke off are written up to the one that failed, and those before it are counted. -/
theorem written_of_error {writer after : RecordWriter} {records : List Bytes} {fault : Fault}
    (failed : writer.writeEach records = (.error fault, after)) :
    ∃ (count : Nat) (middle : Sink), count < records.length ∧
      Stored writer.format writer.sink (records.take count) middle ∧
      after.written = writer.written + count ∧
      after.sink.flushes = writer.sink.flushes + count := by
  obtain ⟨first, record, others, middle, rfl, succeeded, failure⟩ := writeEach_of_error failed
  obtain ⟨-, ⟨-, counted, stored⟩ | ⟨⟨cause, impossible⟩, -⟩⟩ := writeEach_cases succeeded
  · obtain ⟨-, ⟨impossible, -, -⟩ | ⟨-, uncounted, torn⟩⟩ := write_cases failure
    · cases impossible
    · have unflushed : after.sink.flushes = middle.sink.flushes := by
        cases torn with
        | here _ _ flushes => exact flushes
        | later _ nothing => cases nothing
      refine ⟨first.length, middle.sink, ?_, ?_, ?_, ?_⟩
      · rw [List.length_append, List.length_cons]
        omega
      · rw [List.take_left]
        exact stored
      · rw [uncounted, counted]
      · rw [unflushed, stored.flushes_eq]
  · cases impossible

end RecordWriter

/-- A mode that writes records whole writes one for each. -/
theorem Output.length_records_of_whole {mode : OutputMode} {record : Bytes} {parts : List Bytes}
    (whole : mode ≠ .frames) (split : records mode record = .ok parts) : parts.length = 1 := by
  cases mode with
  | binary =>
    cases split
    rfl
  | hex =>
    cases split
    rfl
  | frames => exact absurd rfl whole

namespace Relay

variable {State : Type}

/-- The output records that a relay counts. -/
def counted (relay : Relay State) : Nat := relay.statistics.recordsEmitted

/-- The output records that its writer counts. -/
def written (relay : Relay State) : Nat := relay.output.writer.written

/-- What happens to the two counts over a message that is worth these records, if the sink fails in it
or not. Every record that the writer counts was flushed. -/
inductive Tallies (records : List Bytes) (failed : Prop) (relay after : Relay State) : Prop
  /-- Both counts are raised to the same extent. -/
  | level (count : Nat) (unfailed : ¬ failed) (counts : after.counted = relay.counted + count)
      (writes : after.written = relay.written + count)
      (flushes : after.sink.flushes = relay.sink.flushes + count)
  /-- Some records are stored when the sink fails, and the relay counts none. -/
  | behind (count : Nat) {middle : Sink} (failure : failed) (short : count < records.length)
      (stored : Stored relay.format relay.sink (records.take count) middle)
      (counts : after.counted = relay.counted) (writes : after.written = relay.written + count)
      (flushes : after.sink.flushes = relay.sink.flushes + count)

/-- Who writes nothing and counts nothing leaves both counts alone. -/
theorem Tallies.of_same {records : List Bytes} {failed : Prop} {relay after : Relay State}
    (unfailed : ¬ failed) (counts : after.counted = relay.counted)
    (output : after.output = relay.output) : Tallies records failed relay after := by
  refine .level 0 unfailed counts ?_ ?_
  · unfold written
    rw [output]
    rfl
  · rw [sink_of_output output]
    rfl

/-- What leaves the output and the count of the relay alone has no part in it. -/
theorem Tallies.congr {records : List Bytes} {failed failed' : Prop}
    {relay middle after : Relay State} (tallies : Tallies records failed relay middle)
    (alike : failed' ↔ failed) (counts : after.counted = middle.counted)
    (output : after.output = middle.output) : Tallies records failed' relay after := by
  have writes : after.written = middle.written := by
    unfold written
    rw [output]
  have sinks := sink_of_output output
  cases tallies with
  | level count unfailed counted written flushes =>
    refine .level count (mt alike.mp unfailed) (counts.trans counted) (writes.trans written) ?_
    rw [sinks]
    exact flushes
  | behind count failure short stored uncounted written flushes =>
    refine .behind count (alike.mpr failure) short stored (counts.trans uncounted)
      (writes.trans written) ?_
    rw [sinks]
    exact flushes

/-- Taking a message from the queue has no part in it either. -/
theorem Tallies.of_taking {records : List Bytes} {failed : Prop} {relay after : Relay State}
    {rest : List Arrival} (tallies : Tallies records failed (relay.taking rest) after) :
    Tallies records failed relay after := by
  cases tallies with
  | level count unfailed counted written flushes =>
    exact .level count unfailed counted written flushes
  | behind count failure short stored uncounted written flushes =>
    exact .behind count failure short stored uncounted written flushes

/-! ## One call -/

theorem counted_of_unpack {relay unpacked : Relay State} {burst : Payload} {unpacking : Unpacking}
    (unpack : (relay.unpack burst).value = (unpacking, unpacked)) :
    unpacked.counted = relay.counted := by
  obtain ⟨peak, statistics⟩ := relay.statistics_unpacked burst
  unfold counted
  rw [(eq_unpacked unpack).2, statistics]

theorem Judged.tallies {relay after : Relay State} {payload : Bytes} {verdict : Verdict}
    (judged : Judged relay payload verdict after) :
    Tallies (relay.recordsOf payload) (∃ fault, verdict = .stop (.sink fault)) relay after := by
  cases judged with
  | refused _ => exact .of_same nofun rfl rfl
  | header _ _ => exact .of_same nofun rfl rfl
  | full admitted full verified =>
    cases verified with
    | starved unpack =>
      exact .of_same nofun (counted_of_unpack unpack) (frame_of_unpack unpack).2.2
    | unsound unpack =>
      exact .of_same nofun (counted_of_unpack unpack) (frame_of_unpack unpack).2.2
    | undecodable unpack _ =>
      exact .of_same nofun (counted_of_unpack unpack) (frame_of_unpack unpack).2.2
    | @written record parts unpacked writer unpack _ _ increases stored =>
      have before := counted_of_unpack unpack
      refine .level parts.length nofun ?_ increases stored.flushes_eq
      show unpacked.statistics.recordsEmitted + parts.length = _
      exact congrArg (fun count => count + parts.length) before
    | @torn record parts unpacked writer fault unpack split _ failure _ =>
      -- the writer counts as it goes, and the relay would have counted at the end
      obtain ⟨count, middle, short, stored, writes, flushes⟩ :=
        RecordWriter.written_of_error failure
      rw [recordsOf_eq admitted full unpack split]
      have uncounted := counted_of_unpack unpack
      exact .behind count ⟨fault, rfl⟩ short stored uncounted writes flushes

/-- What judging a burst does to the counts is all that settling its message does to them. -/
theorem tallies_of_judged {relay after ready : Relay State} {frames : Message}
    {rest : List Arrival} {envelope : Envelope} {verdict : Verdict} {failed : Prop}
    (next : (Channel.nextMessage #[] relay.channel.incoming).value = (.ok frames, rest))
    (kind : Received.classify relay.role frames = .envelope envelope)
    (judged : Judged (relay.taking rest) envelope.payload verdict after)
    (alike : failed ↔ ∃ fault, verdict = .stop (.sink fault))
    (counts : ready.counted = after.counted) (output : ready.output = after.output) :
    Tallies relay.nextRecords failed relay ready := by
  rw [nextRecords_of_envelope next kind]
  exact (judged.tallies.congr alike counts output).of_taking

theorem Settled.tallies {relay ready : Relay State} {settlement : Settlement}
    (settled : Settled relay settlement ready) :
    Tallies relay.nextRecords (∃ fault, settlement = .stop (.sink fault)) relay ready := by
  cases settled with
  | lost _ => exact .of_same nofun rfl rfl
  | echo _ _ => exact .of_same nofun rfl rfl
  | rejected _ _ => exact .of_same nofun rfl rfl
  | written next kind judged => exact tallies_of_judged next kind judged ⟨nofun, nofun⟩ rfl rfl
  | admitted next kind judged => exact tallies_of_judged next kind judged ⟨nofun, nofun⟩ rfl rfl
  | stopped next kind judged => exact tallies_of_judged next kind judged (by simp) rfl rfl
  | skipped next kind judged _ => exact tallies_of_judged next kind judged ⟨nofun, nofun⟩ rfl rfl
  | forgiven next kind judged _ => exact tallies_of_judged next kind judged ⟨nofun, nofun⟩ rfl rfl

/-- What a call does to the counts. -/
theorem tallies_of_step {relay after : Relay State} {result : Except RelayFault Outcome}
    (called : relay.step.value = (result, after)) :
    Tallies relay.nextRecords (∃ fault, result = .error (.sink fault)) relay after := by
  cases called_of_step called with
  | stopped settled =>
    have tallies := settled.tallies
    simp only [Settlement.stop.injEq] at tallies
    simp only [Except.error.injEq]
    exact tallies
  | silent settled =>
    have tallies := settled.tallies
    simp only [reduceCtorEq, exists_false] at tallies ⊢
    exact tallies
  | @concluded _ _ ready _ _ settled concluded =>
    -- the message is written by now, and the acknowledgment has no part in the counts
    have output := concluded.frame.2.1
    have counts : after.counted = ready.counted := by
      cases concluded with
      | withheld _ => rfl
      | sent _ _ => rfl
      | failed _ _ => rfl
    refine settled.tallies.congr ⟨?_, nofun⟩ counts output
    rintro ⟨fault, rfl⟩
    cases concluded

/-! ## Calls in a row -/

/-- The two counts agree as long as calls succeed, and every record that the writer counts was
flushed. -/
theorem counts_of_serves {relay last : Relay State} {history : List (Relay State × Outcome)}
    (serves : Serves relay history last) :
    last.counted + relay.written = relay.counted + last.written ∧
      last.sink.flushes + relay.written = relay.sink.flushes + last.written := by
  -- on the calls; one that falls behind fails in the sink, and none of these fails
  induction serves with
  | nothing relay => exact ⟨rfl, rfl⟩
  | call called _ ih =>
    cases tallies_of_step called with
    | level count _ counts writes flushes => omega
    | behind _ failure _ _ _ _ _ =>
      obtain ⟨fault, impossible⟩ := failure
      cases impossible

/-- How the two counts stand behind calls that succeeded, and behind the next call. -/
structure Recorded (sink : Sink) (relay : Relay State) : Prop where
  level : relay.counted = relay.written
  /-- What the writer counts is what was written and flushed. -/
  flushed : relay.sink.flushes = sink.flushes + relay.written
  flushedNext : ∀ result after, relay.step.value = (result, after) →
    after.sink.flushes = sink.flushes + after.written
  /-- Behind the next call the counts agree, unless the sink failed in it when a record of the message
  was flushed already. -/
  agree : ∀ result after, relay.step.value = (result, after) →
    (after.counted = after.written ↔
      ∀ fault, result = .error (.sink fault) → after.sink.flushes = relay.sink.flushes)
  /-- What is not counted then are the first records of the message, which are all stored. -/
  behind : ∀ fault after, relay.step.value = (.error (.sink fault), after) →
    ∃ count middle, count < relay.nextRecords.length ∧
      Stored relay.format relay.sink (relay.nextRecords.take count) middle ∧
      after.written = after.counted + count
  /-- The counts always agree if a message is one record at most. -/
  whole : relay.output.mode ≠ .frames → ∀ result after, relay.step.value = (result, after) →
    after.counted = after.written

/-- A relay that writes its records whole has one for a message at most. -/
theorem length_nextRecords_of_whole {relay : Relay State} (whole : relay.output.mode ≠ .frames) :
    relay.nextRecords.length ≤ 1 := by
  unfold nextRecords
  split
  · exact Nat.zero_le 1
  · split
    · unfold recordsOf
      split
      · exact Nat.zero_le 1
      · split
        · exact Nat.zero_le 1
        · split
          · rename_i record _
            show ((Output.records relay.output.mode record).toOption.getD []).length ≤ 1
            cases split : Output.records relay.output.mode record with
            | error fault => exact Nat.zero_le 1
            | ok parts => exact Nat.le_of_eq (Output.length_records_of_whole whole split)
          · exact Nat.zero_le 1
          · exact Nat.zero_le 1
    · exact Nat.zero_le 1
    · exact Nat.zero_le 1

/-- The records counted are the records written, as long as calls succeed; and behind the first call
that does not, they are unless the sink failed behind a record of the message that was flushed. -/
theorem recorded_of_serves {settings : Settings} {allocator : Allocator} {codec : Codec State}
    {codecState : State} {channel : Channel} {sink : Sink} {relay last : Relay State}
    {history : List (Relay State × Outcome)}
    (started : (start settings allocator codec codecState channel sink).value = .ok relay)
    (serves : Serves relay history last) : Recorded sink last := by
  obtain ⟨buffer, -, rfl⟩ := eq_of_start started
  obtain ⟨counts, flushes⟩ := counts_of_serves serves
  have level : last.counted = last.written := by
    have fresh : last.counted + 0 = 0 + last.written := counts
    omega
  have flushed : last.sink.flushes = sink.flushes + last.written := flushes
  refine ⟨level, flushed, ?_, ?_, ?_, ?_⟩
  · intro result after called
    cases tallies_of_step called with
    | level count _ _ writes more => omega
    | behind count _ _ _ _ writes more => omega
  · intro result after called
    cases tallies_of_step called with
    | level count unfailed counts writes more =>
      refine ⟨?_, by omega⟩
      intro _ fault failed
      exact absurd ⟨fault, failed⟩ unfailed
    | behind count failure _ _ uncounted writes more =>
      obtain ⟨fault, failed⟩ := failure
      constructor
      · intro agree _ _
        omega
      · intro unflushed
        have same := unflushed fault failed
        omega
  · intro fault after called
    cases tallies_of_step called with
    | level _ unfailed _ _ _ => exact absurd ⟨fault, rfl⟩ unfailed
    | @behind count middle _ short stored uncounted writes _ =>
      exact ⟨count, middle, short, stored, by omega⟩
  · intro whole result after called
    have short := length_nextRecords_of_whole whole
    cases tallies_of_step called with
    | level count _ counts writes _ => omega
    | behind count _ less _ uncounted writes _ => omega

/-! ## Two frames and a sink with room for one -/

/-- Settings that write frames. -/
def framing : Settings := { decompression := { initialCapacity := 4 }, output := { format := .frames } }

/-- A sink that takes the four bytes of one empty record. -/
def narrow : Sink := .ofBehaviour (.limited { total := some 4 })

/-- A burst of two frames without content. -/
def pair : Message := [[7], [8], [4, 0, 0, 0, 5, 0, 0, 0, 64, 10, 0, 10, 0]]

/-- The first frame is written and flushed when the sink fails on the second, and it is not counted. -/
theorem exists_torn_pair :
    ∃ (relay after : Relay Unit) (fault : Fault),
      (start framing .willing (.block .nothing) () (Channel.pushMessage {} pair) narrow).value =
        .ok relay ∧
      relay.step.value = (.error (.sink fault), after) ∧ after.counted = 0 ∧ after.written = 1 := by
  obtain ⟨relay, started, failed, counted, written⟩ : ∃ relay : Relay Unit,
      (start framing .willing (.block .nothing) () (Channel.pushMessage {} pair) narrow).value =
        .ok relay ∧
      relay.step.value.1 = .error (.sink ⟨.writeZero, "failed to write whole buffer"⟩) ∧
      relay.step.value.2.counted = 0 ∧ relay.step.value.2.written = 1 :=
    ⟨_, rfl, by cbv, by cbv, by cbv⟩
  exact ⟨relay, _, _, started, Prod.ext failed rfl, counted, written⟩

/-- The records counted are not always the records written, when a call fails. -/
theorem counts_differ :
    ¬ ∀ (settings : Settings) (allocator : Allocator) (channel : Channel) (sink : Sink)
        (relay last after : Relay Unit) (history : List (Relay Unit × Outcome)) (fault : RelayFault),
      (start settings allocator (.block .nothing) () channel sink).value = .ok relay →
      Serves relay history last → last.step.value = (.error fault, after) →
        after.counted = after.written := by
  intro same
  obtain ⟨relay, after, fault, started, failed, counted, written⟩ := exists_torn_pair
  have agree := same _ _ _ _ relay relay after [] _ started (.nothing relay) failed
  rw [counted, written] at agree
  cases agree

/-- Behind the torn burst of two frames, one record is stored that is not counted. -/
theorem recorded_behind_pair :
    ∃ (relay after : Relay Unit) (fault : Fault) (middle : Sink),
      (start framing .willing (.block .nothing) () (Channel.pushMessage {} pair) narrow).value =
        .ok relay ∧
      relay.step.value = (.error (.sink fault), after) ∧ Recorded narrow relay ∧
      Stored relay.format narrow (relay.nextRecords.take 1) middle ∧
      after.written = after.counted + 1 := by
  obtain ⟨relay, after, fault, started, failed, counted, written⟩ := exists_torn_pair
  have recorded := recorded_of_serves started (.nothing relay)
  obtain ⟨count, middle, -, stored, lag⟩ := recorded.behind fault after failed
  have one : count = 1 := by omega
  have fresh : relay.sink = narrow := by
    obtain ⟨buffer, -, rfl⟩ := eq_of_start started
    rfl
  rw [one, fresh] at stored
  exact ⟨relay, after, fault, middle, started, failed, recorded, stored, by omega⟩

end Relay

end BurstRelay

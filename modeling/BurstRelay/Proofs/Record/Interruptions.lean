import BurstRelay.Relay.Output

/-!
# Interrupted sinks

`Sink.undisturbed` is a sink without the interruptions that are still to come. To write to it comes to
the same as to write to the sink itself, and leaves what that leaves, again without interruptions:
taking them out commutes with writing (`Sink.writeAll_undisturbed`), and so with everything that
writes, up to a verified record (`Output.emit_undisturbed`).
-/

namespace BurstRelay

/-! ## Sinks -/

namespace Sink

/-- The sink without the interruptions that are still to come. -/
def undisturbed (sink : Sink) : Sink :=
  { sink with behaviour := { sink.behaviour with interruptions := fun _ => 0 }, pending := 0 }

/-- The sink with as many interruptions before each answer as are given for it. -/
def withInterruptions (sink : Sink) (interruptions : Nat → Nat) : Sink :=
  { sink with
    behaviour := { sink.behaviour with interruptions }
    pending := interruptions sink.answers }

/-- An interruption changes nothing but how many are still to come. -/
theorem undisturbed_of_interrupted {sink after : Sink} {offered : Bytes}
    (wrote : sink.write offered = (.interrupted, after)) : after.undisturbed = sink.undisturbed := by
  unfold write at wrote
  split at wrote
  · cases wrote
    rfl
  · dsimp only at wrote
    split at wrote
    · cases wrote
    · cases wrote

/-- What a sink answers it answers without interruptions as well. -/
theorem write_undisturbed {sink after : Sink} {offered : Bytes} {outcome : WriteOutcome}
    (wrote : sink.write offered = (outcome, after)) (answered : outcome ≠ .interrupted) :
    sink.undisturbed.write offered = (outcome, after.undisturbed) := by
  unfold write at wrote
  split at wrote
  · cases wrote
    exact absurd rfl answered
  · dsimp only at wrote
    unfold write undisturbed
    split at wrote
    · rename_i takes
      cases wrote
      dsimp only
      rw [takes]
    · rename_i fails
      cases wrote
      dsimp only
      rw [fails]

/-- How offering bytes goes on is decided by what came of the first write. -/
theorem writeAll_cons (sink : Sink) (byte : UInt8) (rest : Bytes) :
    sink.writeAll (byte :: rest) =
      match sink.write (byte :: rest) with
      | (.interrupted, after) => after.writeAll (byte :: rest)
      | (.wrote 0, after) => (.error .tookNothing, after)
      | (.wrote (count + 1), after) => after.writeAll (rest.drop count)
      | (.failed fault, after) => (.error fault, after) := by
  rw [writeAll]
  split <;> simp_all

theorem writeAll_undisturbed (sink : Sink) (offered : Bytes) :
    sink.undisturbed.writeAll offered = Prod.map id undisturbed (sink.writeAll offered) := by
  fun_induction writeAll sink offered with
  | case1 =>
    rw [writeAll]
    rfl
  | case2 sink byte rest after result _ ih => rw [← undisturbed_of_interrupted result, ih]
  | case3 sink byte rest after result =>
    rw [writeAll_cons, write_undisturbed result (by simp)]
    rfl
  | case4 sink byte rest count after result ih =>
    rw [writeAll_cons, write_undisturbed result (by simp)]
    exact ih
  | case5 sink byte rest fault after result =>
    rw [writeAll_cons, write_undisturbed result (by simp)]
    rfl

theorem flush_undisturbed (sink : Sink) :
    sink.undisturbed.flush = Prod.map id undisturbed sink.flush := by
  unfold flush
  dsimp only [undisturbed]
  split
  · rfl
  · rfl

end Sink

/-! ## Writers -/

namespace RecordWriter

/-- The writer on its sink without interruptions. -/
def undisturbed (writer : RecordWriter) : RecordWriter :=
  { writer with sink := writer.sink.undisturbed }

theorem offer_undisturbed (sink : Sink) (parts : List Bytes) :
    offer sink.undisturbed parts = Prod.map id Sink.undisturbed (offer sink parts) := by
  induction parts generalizing sink with
  | nil => rfl
  | cons part parts ih =>
    rw [offer, offer, Sink.writeAll_undisturbed]
    rcases sink.writeAll part with ⟨result, after⟩
    cases result with
    | error fault => rfl
    | ok done => exact ih after

theorem write_undisturbed (writer : RecordWriter) (record : Bytes) :
    writer.undisturbed.write record = Prod.map id undisturbed (writer.write record) := by
  unfold write
  dsimp only [undisturbed]
  cases parts writer.format record with
  | error fault => rfl
  | ok parts =>
    dsimp only
    rw [offer_undisturbed]
    rcases offer writer.sink parts with ⟨result, sink⟩
    cases result with
    | error fault => rfl
    | ok done =>
      dsimp only [Prod.map_apply, id]
      rw [Sink.flush_undisturbed]
      rcases sink.flush with ⟨flushed, sink⟩
      cases flushed with
      | error fault => rfl
      | ok done => rfl

theorem writeEach_undisturbed (writer : RecordWriter) (records : List Bytes) :
    writer.undisturbed.writeEach records = Prod.map id undisturbed (writer.writeEach records) := by
  induction records generalizing writer with
  | nil => rfl
  | cons record records ih =>
    rw [writeEach, writeEach, write_undisturbed]
    rcases writer.write record with ⟨result, after⟩
    cases result with
    | error fault => rfl
    | ok done => exact ih after

end RecordWriter

/-! ## Outputs -/

namespace Output

/-- The output on its sink without interruptions. -/
def undisturbed (output : Output) : Output :=
  { output with writer := output.writer.undisturbed }

theorem emit_undisturbed (output : Output) (record : Bytes) :
    output.undisturbed.emit record = Prod.map id undisturbed (output.emit record) := by
  unfold emit
  dsimp only [undisturbed]
  cases records output.mode record with
  | error fault => rfl
  | ok records =>
    dsimp only
    rw [RecordWriter.writeEach_undisturbed]
    rcases output.writer.writeEach records with ⟨result, writer⟩
    cases result with
    | error fault => rfl
    | ok done => rfl

end Output

end BurstRelay

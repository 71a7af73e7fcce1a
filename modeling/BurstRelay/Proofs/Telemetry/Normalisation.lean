import BurstRelay.Proofs.Telemetry.Footprint
import BurstRelay.Proofs.Telemetry.RoundTrip
import BurstRelay.Telemetry.Inspection

/-!
# Splitting a record settles its form

There are many ways to write one burst: numbers may be padded, a value may be written more than once
and only the last counts, and fields that nobody knows may stand between the others. Splitting a
record reads all that and writes each frame anew, in the one way in which this library writes it.

What is lost is the way of writing and nothing else (`split_settles`): the parts are read as the
frames of the burst, one by one and in order, the burst written anew is read as the same burst and
split into the same parts, and no part is much longer than the record. A record is refused by
splitting it exactly when it is refused by reading it.
-/

namespace BurstRelay

open Fallible

namespace DataBurst

variable {record : Bytes} {burst : DataBurst}

/-- A record that is short enough for its length to be written decodes to the frames in it. -/
theorem frames_toRecord {frames : List DataFrame}
    (short : (toRecord ⟨frames⟩).length < UInt32.size) :
    RecordLayout.burst.frames (toRecord ⟨frames⟩) = .ok frames := by
  show (ofRecord (toRecord ⟨frames⟩)).map DataBurst.frames = _
  rw [ofRecord_toRecord (Nat.lt_trans short (by decide))]
  rfl

/-- The parts of a record have settled: they say what the record says, and writing the burst anew and
splitting that changes neither. -/
structure Settles (record : Bytes) (burst : DataBurst) (parts : List Bytes) : Prop where
  frames_eq : RecordLayout.burst.frames record = .ok burst.frames
  split_eq : split record = .ok parts
  /-- There is one part for each frame, in order, and it is read as that frame. -/
  parts_read : parts.map RecordLayout.frame.frames = burst.frames.map fun frame => .ok [frame]
  parts_again : ∀ part ∈ parts, (DataFrame.ofRecord part).map DataFrame.toRecord = .ok part
  read_again : ofRecord burst.toRecord = .ok burst
  split_again : split burst.toRecord = .ok parts
  parts_short : ∀ part ∈ parts, part.length ≤ record.length + 5

theorem split_of_ofRecord (read : ofRecord record = .ok burst) :
    split record = .ok (burst.frames.map DataFrame.toRecord) := by
  unfold split
  rw [read]
  rfl

/-- Splitting fails as reading does, and never otherwise. -/
theorem split_eq_error {fault : BurstFault} :
    split record = .error fault ↔ ofRecord record = .error fault := by
  cases read : ofRecord record with
  | ok burst => simp [split_of_ofRecord read]
  | error cause => simp [split, read, Except.map]

/-- Each frame of a burst that was read is written in at most five bytes more than the whole
record: only a negative declared kind takes more bytes than it came in. -/
theorem length_toRecord_le_of_ofRecord (read : ofRecord record = .ok burst) :
    ∀ frame ∈ burst.frames, frame.toRecord.length ≤ record.length + 5 := by
  intro frame member
  apply length_le_of_split (split_of_ofRecord read)
  exact List.mem_map_of_mem member

/-- A record that is split is settled by it. The record is a byte string in memory, and so far
shorter than 2^64 bytes: were it nearly as long, the length of a frame that is written anew might not
fit the number in front of it. -/
theorem split_settles (record : Bytes) (short : record.length + 5 < UInt64.size) :
    (∀ fault, split record = .error fault ↔ ofRecord record = .error fault) ∧
      ∀ burst, ofRecord record = .ok burst → ∃ parts, Settles record burst parts := by
  refine ⟨fun fault => split_eq_error, ?_⟩
  intro burst read
  have grown := length_toRecord_le_of_ofRecord read
  have writable : ∀ frame ∈ burst.frames, frame.toRecord.length < UInt64.size := by
    intro frame member
    exact Nat.lt_of_le_of_lt (grown frame member) short
  have again : ofRecord burst.toRecord = .ok burst :=
    mapError_eq_ok.mpr (decode_toRecord_of_frames writable)
  refine ⟨burst.frames.map DataFrame.toRecord, ?_⟩
  constructor
  case frames_eq =>
    show (ofRecord record).map frames = _
    rw [read]
    rfl
  case split_eq => exact split_of_ofRecord read
  case parts_read =>
    rw [List.map_map]
    apply List.map_congr_left
    intro frame member
    show (DataFrame.ofRecord frame.toRecord).map (fun frame => [frame]) = _
    rw [DataFrame.ofRecord_toRecord (writable frame member)]
    rfl
  case parts_again =>
    intro part member
    obtain ⟨frame, inside, rfl⟩ := List.mem_map.mp member
    rw [DataFrame.ofRecord_toRecord (writable frame inside)]
    rfl
  case read_again => exact again
  case split_again => exact split_of_ofRecord again
  case parts_short => exact length_le_of_split (split_of_ofRecord read)

/-- A burst of one frame that is written as no writer of this library would: the key of the declared
kind in two bytes instead of one, a time that is overwritten, an unknown group, and a negative kind in
five bytes. The part has ten bytes for the kind and still none that the frame does not need. -/
theorem split_settles_padded_frame :
    let record : Bytes :=
      [10, 29, 17, 9, 0, 0, 0, 0, 0, 0, 0, 123, 8, 1, 124, 17, 0, 0, 0, 0, 0, 0, 0, 0,
        152, 0, 249, 255, 255, 255, 15]
    record.length + 5 < UInt64.size ∧
      ofRecord record = .ok ⟨[{ payload := -7 }]⟩ ∧
      ∃ parts, Settles record ⟨[{ payload := -7 }]⟩ parts := by
  intro record
  have read : ofRecord record = .ok ⟨[{ payload := -7 }]⟩ := by rfl
  exact ⟨by decide, read, (split_settles record (by decide)).2 _ read⟩

end DataBurst

end BurstRelay

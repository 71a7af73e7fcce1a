import BurstRelay.Proofs.Telemetry.Normalisation
import BurstRelay.Proofs.Wire.Foreign

/-!
# Records of newer producers

A producer with a newer schema writes a burst with fields that this one does not know, in the burst, in
its frames and in their tags. `Extends` says of a byte string that it is the record of a burst with any
such fields put between its own, each enclosing length being that of what it encloses. Such a record is
read as the burst, and split into the records that it is split into without them: what is new is dropped
and nothing else is.
-/

namespace BurstRelay

open Fallible Wire

/-! ## Tags -/

namespace SourceTag

/-- The bytes are the fields of a tag, with others between them. -/
def Extends (depth : Nat) (bytes : Bytes) (tag : SourceTag) : Prop :=
  Interleaved (Foreign depth [1, 2]) tag.fields bytes

theorem merge_unused {levels number : Nat} {tag : SourceTag} {layout : Layout} {cursor rest : Cursor}
    (unused : number ∉ [1, 2]) (skipped : skipValue levels layout number cursor = .ok rest) :
    merge levels tag number layout cursor = .ok (tag, rest) := by
  unfold merge
  split
  · exact absurd (by decide) unused
  · exact absurd (by decide) unused
  · rw [skipped]
    rfl

theorem takes_of_extends {depth levels : Nat} {bytes : Bytes} {tag : SourceTag}
    (extended : Extends depth bytes tag) (deep : depth < levels)
    (short : bytes.length < UInt64.size) : Takes (merge levels) bytes {} tag := by
  refine .interleaved ?_ extended (takesEach_fields levels ?_)
  · intro extra foreign message
    exact .foreign (fun _ _ _ _ _ => merge_unused) deep foreign message
  · intro field member
    exact Nat.lt_of_le_of_lt (extended.length_le member) short

end SourceTag

/-! ## Frames -/

namespace DataFrame

/-- The bytes are the fields of a frame, its tags extended, with others between them. -/
def Extends (depth : Nat) (bytes : Bytes) (frame : DataFrame) : Prop :=
  ∃ tags : List Bytes, List.Forall₂ (SourceTag.Extends depth) tags frame.source ∧
    Interleaved (Foreign depth [1, 2, 3, 4, 5, 6, 8]) (frame.fields tags) bytes

theorem merge_unused {levels number : Nat} {frame : DataFrame} {layout : Layout}
    {cursor rest : Cursor} (unused : number ∉ [1, 2, 3, 4, 5, 6, 8])
    (skipped : skipValue levels layout number cursor = .ok rest) :
    merge levels frame number layout cursor = .ok (frame, rest) := by
  unfold merge
  split
  case h_8 =>
    rw [skipped]
    rfl
  all_goals exact absurd (by decide) unused

/-- The tags of a frame are shorter than its record. -/
theorem length_tag_lt {tags : List Bytes} {bytes written : Bytes} {frame : DataFrame}
    {other : Bytes → Prop} (interleaved : Interleaved other (frame.fields tags) bytes)
    (member : written ∈ tags) : written.length < bytes.length :=
  Nat.lt_of_lt_of_le (length_lt_bytesField 1 written)
    (interleaved.length_le (List.mem_append_left _ (List.mem_map_of_mem member)))

theorem takes_of_extends {depth levels : Nat} {bytes : Bytes} {frame : DataFrame}
    (extended : Extends depth bytes frame) (deep : depth + 1 < levels)
    (short : bytes.length < UInt64.size) : Takes (merge levels) bytes {} frame := by
  obtain ⟨tags, each, interleaved⟩ := extended
  refine .interleaved ?_ interleaved (takesEach_fields (by omega) ?_ ?_)
  · intro extra foreign message
    exact .foreign (fun _ _ _ _ _ => merge_unused) (by omega) foreign message
  · have shortTags : ∀ written ∈ tags, written.length < UInt64.size := by
      intro written member
      exact Nat.lt_trans (length_tag_lt interleaved member) short
    refine ((List.forall₂_and_left _ _).mpr ⟨shortTags, each⟩).imp ?_
    rintro written tag ⟨shortTag, tagged⟩
    exact SourceTag.takes_of_extends tagged (by omega) shortTag
  · intro field member
    exact Nat.lt_of_le_of_lt (interleaved.length_le member) short

end DataFrame

/-! ## Bursts -/

namespace DataBurst

/-- The bytes are the fields of a burst, its frames extended, with others between them. -/
def Extends (depth : Nat) (bytes : Bytes) (burst : DataBurst) : Prop :=
  ∃ records : List Bytes, List.Forall₂ (DataFrame.Extends depth) records burst.frames ∧
    Interleaved (Foreign depth [1]) (records.map (bytesField 1)) bytes

theorem merge_unused {levels number : Nat} {latest : List DataFrame} {layout : Layout}
    {cursor rest : Cursor} (unused : number ∉ [1])
    (skipped : skipValue levels layout number cursor = .ok rest) :
    merge levels latest number layout cursor = .ok (latest, rest) := by
  unfold merge
  split
  · exact absurd (by decide) unused
  · rw [skipped]
    rfl

theorem decode_of_extends {depth : Nat} {bytes : Bytes} {burst : DataBurst}
    (extended : Extends depth bytes burst) (deep : depth + 2 < nestingLimit)
    (short : bytes.length < UInt64.size) : decode bytes = .ok burst := by
  obtain ⟨records, each, interleaved⟩ := extended
  have shortRecords : ∀ record ∈ records, record.length < UInt64.size := by
    intro record member
    have within := interleaved.length_le (List.mem_map_of_mem member)
    exact Nat.lt_of_lt_of_le (Nat.lt_of_lt_of_le (length_lt_bytesField 1 record) within)
      (Nat.le_of_lt short)
  refine decode_of_takes (.interleaved ?_ interleaved (takesEach_frames (by decide) ?_ shortRecords))
  · intro extra foreign message
    exact .foreign (fun _ _ _ _ _ => merge_unused) (by omega) foreign message
  · refine ((List.forall₂_and_left _ _).mpr ⟨shortRecords, each⟩).imp ?_
    rintro record frame ⟨shortRecord, framed⟩
    exact DataFrame.takes_of_extends framed (by omega) shortRecord

/-- What a newer producer puts between the fields of a burst, of its frames and of their tags changes
nothing: the burst is read as if it were not there, and split into the same parts. Groups may be nested
in it down to the level where a reader gives up. The record is a byte string in memory, and so far
shorter than 2^64 bytes. -/
theorem extended_records_are_read {depth : Nat} {bytes : Bytes} {burst : DataBurst}
    (extended : Extends depth bytes burst) (deep : depth + 2 < Wire.nestingLimit)
    (short : bytes.length + 5 < UInt64.size) :
    ofRecord bytes = .ok burst ∧ split bytes = split burst.toRecord ∧
      split burst.toRecord = .ok (burst.frames.map DataFrame.toRecord) := by
  have read : ofRecord bytes = .ok burst :=
    mapError_eq_ok.mpr (decode_of_extends extended deep (by omega))
  have again : ofRecord burst.toRecord = .ok burst := by
    refine mapError_eq_ok.mpr (decode_toRecord_of_frames ?_)
    intro frame member
    exact Nat.lt_of_le_of_lt (length_toRecord_le_of_ofRecord read frame member) short
  refine ⟨read, ?_, split_of_ofRecord again⟩
  rw [split_of_ofRecord read, split_of_ofRecord again]

/-- A burst of one frame, extended at every level: a word of eight bytes in front of the frame; in the
frame, behind its tag, a group that has a field of a known number and another group in it, and a word of
four bytes at the end; in the tag a number whose key is longer than it has to be. -/
theorem record_extended_at_every_level_is_read :
    let bytes : Bytes :=
      [17, 1, 2, 3, 4, 5, 6, 7, 8, 10, 30, 10, 6, 152, 0, 5, 10, 1, 97,
        59, 10, 2, 255, 0, 75, 76, 60, 17, 5, 0, 0, 0, 0, 0, 0, 0, 77, 1, 2, 3, 4]
    let burst : DataBurst := ⟨[{ source := [{ field := "a" }], timestamp := 5 }]⟩
    Extends 2 bytes burst ∧ 2 + 2 < Wire.nestingLimit ∧ bytes.length + 5 < UInt64.size ∧
      ofRecord bytes = .ok burst ∧ split bytes = split burst.toRecord := by
  intro bytes burst
  -- the fields of the three levels, from the inside
  have tagFields : ({ field := "a" } : SourceTag).fields = [[10, 1, 97], []] := by decide +kernel
  have frameFields : ({ source := [{ field := "a" }], timestamp := 5 } : DataFrame).fields
      [[152, 0, 5, 10, 1, 97]] =
      [[10, 6, 152, 0, 5, 10, 1, 97], [17, 5, 0, 0, 0, 0, 0, 0, 0], [], [], [], [], []] := by
    decide +kernel
  have burstFields : ([bytes.drop 11]).map (bytesField 1) = [bytes.drop 9] := by decide +kernel
  have number : Foreign 2 [1, 2] ([152, 0] ++ [5]) := by
    refine ⟨3, .varint, _, _, by decide, ⟨by decide, by decide, ?_⟩, ?_, rfl⟩
    · exact @Numeral.next 8 0 152 _ (by decide) (@Numeral.last 7 0 (by decide))
    · simp only [IsValue]
      exact ⟨_, @Numeral.last 8 5 (by decide)⟩
  have tag : SourceTag.Extends 2 [152, 0, 5, 10, 1, 97] { field := "a" } := by
    unfold SourceTag.Extends
    rw [tagFields]
    exact .other number (.field (.field .nil))
  have group : IsValue 2 7 .startGroup [10, 2, 255, 0, 75, 76, 60] := by
    simp only [IsValue]
    have text : IsValue 1 1 .lengthDelimited [2, 255, 0] := by
      simp only [IsValue]
      exact ⟨[2], [255, 0], @Numeral.last 8 2 (by decide), rfl⟩
    have inner : IsValue 1 9 .startGroup [76] := by
      simp only [IsValue]
      exact .finish (.of_byte (by decide) (by decide) (by decide))
    show IsGroup (IsValue 1) 7 ([10] ++ [2, 255, 0] ++ ([75] ++ [76] ++ [60]))
    exact .field (.of_byte (by decide) (by decide) (by decide)) text
      (.field (.of_byte (by decide) (by decide) (by decide)) inner
        (.finish (.of_byte (by decide) (by decide) (by decide))))
  have short : IsValue 2 9 .thirtyTwoBit [1, 2, 3, 4] := by simp [IsValue]
  have frame : DataFrame.Extends 2 (bytes.drop 11)
      { source := [{ field := "a" }], timestamp := 5 } := by
    refine ⟨[[152, 0, 5, 10, 1, 97]], .cons tag .nil, ?_⟩
    rw [frameFields]
    have behindTag : Foreign 2 [1, 2, 3, 4, 5, 6, 8] (59 :: [10, 2, 255, 0, 75, 76, 60]) :=
      .of_byte 7 .startGroup group (by decide) (by decide) (by decide) (by decide)
    have atEnd : Foreign 2 [1, 2, 3, 4, 5, 6, 8] (77 :: [1, 2, 3, 4]) :=
      .of_byte 9 .thirtyTwoBit short (by decide) (by decide) (by decide) (by decide)
    exact .field (.other behindTag (.field (.field (.field (.field (.field (.field
      (.other atEnd .nil))))))))
  have word : IsValue 2 2 .sixtyFourBit [1, 2, 3, 4, 5, 6, 7, 8] := by simp [IsValue]
  have extended : Extends 2 bytes burst := by
    refine ⟨[bytes.drop 11], .cons frame .nil, ?_⟩
    rw [burstFields]
    have inFront : Foreign 2 [1] (17 :: [1, 2, 3, 4, 5, 6, 7, 8]) :=
      .of_byte 2 .sixtyFourBit word (by decide) (by decide) (by decide) (by decide)
    exact .other inFront (.field .nil)
  have read := extended_records_are_read extended (by decide) (by decide)
  exact ⟨extended, by decide, by decide, read.1, read.2.1⟩

end DataBurst

end BurstRelay

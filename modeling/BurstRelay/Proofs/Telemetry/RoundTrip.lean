import BurstRelay.Proofs.Wire.RoundTrip
import BurstRelay.Telemetry.Container

/-!
# Frames and bursts are read back

A frame or a burst that is written as a record is read back from the record, whatever is in it: tags
with empty texts, values that are present and empty or zero, undeclared and negative kinds, and every
pattern of bits of a measurement (`decode_toRecord`). Fields that were left out need no step of the
reader, since the frame that it begins with has their defaults.
-/

namespace BurstRelay

open Fallible Wire

theorem Wire.length_lt_bytesField (number : Nat) (value : Bytes) :
    value.length < (bytesField number value).length := by
  have key : 0 < (encodeKey number .lengthDelimited).length := length_encodeVarint_pos _
  simp only [bytesField, List.length_append]
  omega

/-- What sets a part of a message to a value gives the message with the value that is read. -/
theorem Wire.inside_lift_of_read {α β : Type} {read : Except Cause (β × Cursor)} {value : β}
    {rest : Cursor} (reads : read = .ok (value, rest)) (message field : String) (set : β → α) :
    inside message field (do
      let (value, rest) ← lift read
      return (set value, rest)) = .ok (set value, rest) :=
  inside_eq_ok.mpr (bind_eq_ok.mpr ⟨_, lift_eq_ok.mpr reads, rfl⟩)

/-! ## Tags -/

namespace SourceTag

variable {levels number : Nat} {tag result : SourceTag} {text : String}

/-- The fields of a tag, of which an empty text is none. -/
def fields (tag : SourceTag) : List Bytes := [textField 1 tag.field, textField 2 tag.value]

theorem length_le_textField (number : Nat) (text : String) :
    (Bytes.ofString text).length ≤ (textField number text).length := by
  unfold textField
  split
  · rename_i empty
    subst empty
    exact Nat.le_refl 0
  · exact Nat.le_of_lt (length_lt_bytesField number _)

/-- A text is taken into a tag as the field of its number is, and an empty one by doing nothing. -/
theorem takes_textField (positive : 0 < number) (small : number < 536870912)
    (short : (Bytes.ofString text).length < UInt64.size) (same : text = "" → result = tag)
    (merges : ∀ cursor rest, textValue .lengthDelimited cursor = .ok (text, rest) →
      merge levels tag number .lengthDelimited cursor = .ok (result, rest)) :
    Takes (merge levels) (textField number text) tag result := by
  unfold textField bytesField
  rw [List.append_assoc]
  refine .unless same (.field positive small ?_)
  intro rest
  exact merges _ _ (textValue_written short rest)

theorem takesEach_fields {tag : SourceTag} (levels : Nat)
    (short : ∀ field ∈ tag.fields, field.length < UInt64.size) :
    TakesEach (merge levels) tag.fields {} tag := by
  have shortField := short (textField 1 tag.field) (by simp [fields])
  have shortValue := short (textField 2 tag.value) (by simp [fields])
  have takesField : Takes (merge levels) (textField 1 tag.field) {} { field := tag.field } := by
    refine takes_textField (by omega) (by omega)
      (Nat.lt_of_le_of_lt (length_le_textField 1 _) shortField) ?_ ?_
    · intro empty
      rw [empty]
    · intro cursor rest reads
      exact inside_eq_ok.mpr (bind_eq_ok.mpr ⟨_, lift_eq_ok.mpr reads, rfl⟩)
  have takesValue : Takes (merge levels) (textField 2 tag.value) { field := tag.field } tag := by
    refine takes_textField (by omega) (by omega)
      (Nat.lt_of_le_of_lt (length_le_textField 2 _) shortValue) ?_ ?_
    · intro empty
      rw [← empty]
    · intro cursor rest reads
      exact inside_eq_ok.mpr (bind_eq_ok.mpr ⟨_, lift_eq_ok.mpr reads, rfl⟩)
  exact .cons takesField (.cons takesValue (.nil tag))

theorem flatten_fields (tag : SourceTag) : tag.fields.flatten = tag.encode := by
  simp [fields, encode]

theorem takes_encode {tag : SourceTag} (levels : Nat) (short : tag.encode.length < UInt64.size) :
    Takes (merge levels) tag.encode {} tag := by
  rw [← flatten_fields] at short ⊢
  refine (takesEach_fields levels ?_).flatten
  intro field member
  exact Nat.lt_of_le_of_lt (List.sublist_flatten_of_mem member).length_le short

end SourceTag

/-! ## Frames -/

namespace DataFrame

variable {levels : Nat} {frame : DataFrame}

/-- A declared kind is the lowest thirty-two bits of the number that it is written as. -/
theorem ofPayloadNumber_payloadNumber (payload : Int32) :
    ofPayloadNumber (payloadNumber payload) = payload := by
  apply Int32.toBitVec_inj.mp
  show BitVec.ofNat 32 (payload.toBitVec.signExtend 64).toNat = payload.toBitVec
  rw [BitVec.ofNat_toNat]
  ext bit within
  have wide : bit < 64 := by omega
  rw [BitVec.getElem_setWidth, BitVec.getLsbD_signExtend, if_pos within, decide_eq_true wide,
    Bool.true_and, BitVec.getLsbD_eq_getElem]

/-- The fields of a frame whose tags are written in some way. What is left out is no field. -/
def fields (frame : DataFrame) (tags : List Bytes) : List Bytes :=
  tags.map (bytesField 1) ++
    [if frame.timestamp = 0 then [] else wordField 2 frame.timestamp,
      if frame.payload = 0 then [] else varintField 3 (payloadNumber frame.payload),
      (frame.numeric.map fun value => varintField 4 (zigzag value)).getD [],
      (frame.textual.map fun value => bytesField 5 (Bytes.ofString value)).getD [],
      (frame.measurement.map fun value => wordField 6 value.bits).getD [],
      (frame.blob.map fun value => bytesField 8 value).getD []]

theorem flatten_fields (frame : DataFrame) :
    (frame.fields (frame.source.map SourceTag.encode)).flatten = frame.toRecord := by
  simp [fields, toRecord, List.flatMap_def, Function.comp_def]

/-- A tag is taken into a frame however it is written. -/
theorem takes_tag {written : Bytes} {tag : SourceTag} (deep : 0 < levels)
    (takes : Takes (SourceTag.merge (levels - 1)) written {} tag)
    (short : written.length < UInt64.size) :
    Takes (merge levels) (bytesField 1 written) frame
      { frame with source := frame.source ++ [tag] } := by
  unfold bytesField
  rw [List.append_assoc]
  refine .field (by omega) (by omega) ?_
  intro rest
  exact inside_eq_ok.mpr (bind_eq_ok.mpr ⟨_, messageValue_of_takes takes deep short rest, rfl⟩)

theorem takes_timestamp (timestamp : UInt64) :
    Takes (merge levels) (wordField 2 timestamp) frame { frame with timestamp } := by
  refine .field (by omega) (by omega) ?_
  intro rest
  exact inside_lift_of_read (wordValue_littleEndian timestamp rest) "DataFrame" "timestamp"
    fun timestamp => { frame with timestamp }

theorem takes_payload (payload : Int32) :
    Takes (merge levels) (varintField 3 (payloadNumber payload)) frame { frame with payload } := by
  refine .field (by omega) (by omega) ?_
  intro rest
  have fits : payloadNumber payload < UInt64.size := UInt64.toNat_lt _
  have taken := inside_lift_of_read (varintValue_encodeVarint fits rest) "DataFrame" "payload"
    fun number => { frame with payload := ofPayloadNumber number }
  rw [ofPayloadNumber_payloadNumber] at taken
  exact taken

theorem takes_numeric (value : Int64) :
    Takes (merge levels) (varintField 4 (zigzag value)) frame
      { frame with numeric := some value } := by
  refine .field (by omega) (by omega) ?_
  intro rest
  have taken := inside_lift_of_read (varintValue_encodeVarint (zigzag_lt value) rest) "DataFrame"
    "value_numeric" fun number => { frame with numeric := some (unzigzag number) }
  rw [unzigzag_zigzag] at taken
  exact taken

theorem takes_textual {text : String} (short : (Bytes.ofString text).length < UInt64.size) :
    Takes (merge levels) (bytesField 5 (Bytes.ofString text)) frame
      { frame with textual := some text } := by
  unfold bytesField
  rw [List.append_assoc]
  refine .field (by omega) (by omega) ?_
  intro rest
  exact inside_lift_of_read (textValue_written short rest) "DataFrame" "value_textual"
    fun text => { frame with textual := some text }

theorem takes_measurement (value : Binary64) :
    Takes (merge levels) (wordField 6 value.bits) frame
      { frame with measurement := some value } := by
  refine .field (by omega) (by omega) ?_
  intro rest
  exact inside_lift_of_read (wordValue_littleEndian value.bits rest) "DataFrame"
    "value_measurement" fun word => { frame with measurement := some ⟨word⟩ }

theorem takes_blob {blob : Bytes} (short : blob.length < UInt64.size) :
    Takes (merge levels) (bytesField 8 blob) frame { frame with blob := some blob } := by
  unfold bytesField
  rw [List.append_assoc]
  refine .field (by omega) (by omega) ?_
  intro rest
  exact inside_lift_of_read (bytesValue_written short rest) "DataFrame" "value_blob"
    fun blob => { frame with blob := some blob }

theorem foldl_tags (source : List SourceTag) (frame : DataFrame) :
    source.foldl (fun frame tag => { frame with source := frame.source ++ [tag] }) frame =
      { frame with source := frame.source ++ source } := by
  induction source generalizing frame with
  | nil => simp
  | cons tag source ih =>
    rw [List.foldl_cons, ih]
    simp

theorem takesEach_fields {tags : List Bytes} (deep : 0 < levels)
    (each : List.Forall₂ (fun written tag => Takes (SourceTag.merge (levels - 1)) written {} tag)
      tags frame.source)
    (short : ∀ field ∈ frame.fields tags, field.length < UInt64.size) :
    TakesEach (merge levels) (frame.fields tags) {} frame := by
  obtain ⟨source, timestamp, payload, numeric, textual, measurement, blob⟩ := frame
  rw [fields, List.forall_mem_append, List.forall_mem_map] at short
  obtain ⟨shortTags, shortValues⟩ := short
  dsimp only at each shortValues
  have takesSource : TakesEach (merge levels) (tags.map (bytesField 1)) {}
      ({ source } : DataFrame) := by
    have tagged := foldl_tags source {}
    rw [List.nil_append] at tagged
    rw [← tagged]
    refine .repeated (((List.forall₂_and_left _ _).mpr ⟨shortTags, each⟩).imp ?_) _
    rintro written tag ⟨shortTag, takes⟩ before
    exact takes_tag deep takes (Nat.lt_trans (length_lt_bytesField 1 written) shortTag)
  -- each field is taken into the frame that has the fields before it, and the defaults behind it
  refine takesSource.append
    (.cons (.unless ?_ (takes_timestamp timestamp))
    (.cons (.unless ?_ (takes_payload payload))
    (.cons (.option (fun numeric : Option Int64 =>
      ({ source, timestamp, payload, numeric } : DataFrame)) rfl ?_)
    (.cons (.option (fun textual : Option String =>
      ({ source, timestamp, payload, numeric, textual } : DataFrame)) rfl ?_)
    (.cons (.option (fun measurement : Option Binary64 =>
      ({ source, timestamp, payload, numeric, textual, measurement } : DataFrame)) rfl ?_)
    (.cons (.option (fun blob : Option Bytes =>
      ({ source, timestamp, payload, numeric, textual, measurement, blob } : DataFrame)) rfl ?_)
    (.nil _)))))))
  · intro zero
    obtain rfl : timestamp = 0 := zero
    rfl
  · intro zero
    obtain rfl : payload = 0 := zero
    rfl
  · intro value _
    exact takes_numeric value
  · intro text present
    subst present
    have within := shortValues (bytesField 5 (Bytes.ofString text)) (by simp)
    exact takes_textual (Nat.lt_trans (length_lt_bytesField 5 _) within)
  · intro value _
    exact takes_measurement value
  · intro value present
    subst present
    have within := shortValues (bytesField 8 value) (by simp)
    exact takes_blob (Nat.lt_trans (length_lt_bytesField 8 value) within)

theorem takes_toRecord (deep : 0 < levels) (short : frame.toRecord.length < UInt64.size) :
    Takes (merge levels) frame.toRecord {} frame := by
  rw [← flatten_fields] at short ⊢
  have shortFields : ∀ field ∈ frame.fields (frame.source.map SourceTag.encode),
      field.length < UInt64.size := by
    intro field member
    exact Nat.lt_of_le_of_lt (List.sublist_flatten_of_mem member).length_le short
  refine (takesEach_fields deep ?_ shortFields).flatten
  rw [List.forall₂_map_left_iff, List.forall₂_same]
  intro tag member
  have within := shortFields (bytesField 1 tag.encode)
    (List.mem_append_left _ (List.mem_map_of_mem (List.mem_map_of_mem member)))
  exact SourceTag.takes_encode _ (Nat.lt_trans (length_lt_bytesField 1 tag.encode) within)

/-- A frame whose record is short enough for lengths to be written is read back from it. -/
theorem decode_toRecord (short : frame.toRecord.length < UInt64.size) :
    decode frame.toRecord = .ok frame :=
  messageOf_of_takes (takes_toRecord (by decide) short)

theorem ofRecord_toRecord (short : frame.toRecord.length < UInt64.size) :
    ofRecord frame.toRecord = .ok frame := by
  unfold ofRecord
  rw [decode_toRecord short]
  rfl

end DataFrame

/-! ## Bursts -/

namespace DataBurst

variable {levels : Nat} {burst : DataBurst}

/-- A frame is taken into a burst however it is written. -/
theorem takes_frame {written : Bytes} {frame : DataFrame} (deep : 0 < levels)
    (takes : Takes (DataFrame.merge (levels - 1)) written {} frame)
    (short : written.length < UInt64.size) (latest : List DataFrame) :
    Takes (merge levels) (bytesField 1 written) latest (frame :: latest) := by
  unfold bytesField
  rw [List.append_assoc]
  refine .field (by omega) (by omega) ?_
  intro rest
  exact inside_eq_ok.mpr (bind_eq_ok.mpr ⟨_, messageValue_of_takes takes deep short rest, rfl⟩)

theorem takesEach_frames {written : List Bytes} {frames : List DataFrame} (deep : 0 < levels)
    (each : List.Forall₂ (fun record frame => Takes (DataFrame.merge (levels - 1)) record {} frame)
      written frames)
    (short : ∀ record ∈ written, record.length < UInt64.size) :
    TakesEach (merge levels) (written.map (bytesField 1)) [] frames.reverse := by
  have stacked : frames.foldl (fun latest frame => frame :: latest) [] = frames.reverse := by
    rw [List.foldl_flip_cons_eq_append', List.append_nil]
  rw [← stacked]
  refine .repeated (((List.forall₂_and_left _ _).mpr ⟨short, each⟩).imp ?_) []
  rintro record frame ⟨shortFrame, takes⟩ latest
  exact takes_frame deep takes shortFrame latest

/-- A burst is read from the fields that are taken into its frames. -/
theorem decode_of_takes {record : Bytes}
    (takes : Takes (merge nestingLimit) record [] burst.frames.reverse) :
    decode record = .ok burst := by
  unfold decode
  rw [messageOf_of_takes takes]
  show Except.ok (DataBurst.mk burst.frames.reverse.reverse) = _
  rw [List.reverse_reverse]

theorem flatten_frames (burst : DataBurst) :
    ((burst.frames.map DataFrame.toRecord).map (bytesField 1)).flatten = burst.toRecord := by
  rw [List.map_map]
  rfl

theorem length_toRecord_lt {frame : DataFrame} (member : frame ∈ burst.frames) :
    frame.toRecord.length < burst.toRecord.length := by
  have inside : bytesField 1 frame.toRecord ∈
      (burst.frames.map DataFrame.toRecord).map (bytesField 1) :=
    List.mem_map_of_mem (List.mem_map_of_mem member)
  have within := (List.sublist_flatten_of_mem inside).length_le
  rw [flatten_frames] at within
  exact Nat.lt_of_lt_of_le (length_lt_bytesField 1 frame.toRecord) within

/-- A burst is read back from its record if the record of each of its frames is short enough for its
length to be written. -/
theorem decode_toRecord_of_frames
    (short : ∀ frame ∈ burst.frames, frame.toRecord.length < UInt64.size) :
    decode burst.toRecord = .ok burst := by
  refine decode_of_takes ?_
  rw [← flatten_frames]
  refine (takesEach_frames (by decide) ?_ ?_).flatten
  · rw [List.forall₂_map_left_iff, List.forall₂_same]
    intro frame member
    exact DataFrame.takes_toRecord (by decide) (short frame member)
  · rw [List.forall_mem_map]
    exact short

/-- A burst whose record is short enough for lengths to be written is read back from it. -/
theorem decode_toRecord (short : burst.toRecord.length < UInt64.size) :
    decode burst.toRecord = .ok burst := by
  apply decode_toRecord_of_frames
  intro frame member
  exact Nat.lt_trans (length_toRecord_lt member) short

theorem ofRecord_toRecord (short : burst.toRecord.length < UInt64.size) :
    ofRecord burst.toRecord = .ok burst := by
  unfold ofRecord
  rw [decode_toRecord short]
  rfl

end DataBurst

/-! ## Records -/

/-- Whatever is in a burst or in a frame, it is read back from its record: every text, every number and
every measurement, bit by bit, whether it is there and empty or zero, or is not there. A record is a
byte string in memory, and so shorter than 2^64 bytes. -/
theorem records_are_read_back (burst : DataBurst) (frame : DataFrame) :
    (burst.toRecord.length < UInt64.size → DataBurst.ofRecord burst.toRecord = .ok burst) ∧
      (frame.toRecord.length < UInt64.size → DataFrame.ofRecord frame.toRecord = .ok frame) :=
  ⟨DataBurst.ofRecord_toRecord, DataFrame.ofRecord_toRecord⟩

/-- A burst of a frame with nothing in it and of one with an empty tag, an undeclared negative kind,
values that are there and empty or zero, and a measurement that is no number. -/
theorem records_of_hard_frames_are_read_back :
    let frame : DataFrame :=
      { source := [{}, { field := "ä" }]
        payload := -7
        numeric := some 0
        textual := some ""
        measurement := some ⟨0x7FF8000000000001⟩
        blob := some [] }
    (DataBurst.mk [{}, frame]).toRecord.length < UInt64.size ∧
      frame.toRecord.length < UInt64.size ∧
      DataBurst.ofRecord (DataBurst.mk [{}, frame]).toRecord = .ok ⟨[{}, frame]⟩ ∧
      DataFrame.ofRecord frame.toRecord = .ok frame := by
  intro frame
  have shortFrame : frame.toRecord.length < UInt64.size := by decide +kernel
  have short : (DataBurst.mk [{}, frame]).toRecord.length < UInt64.size := by decide +kernel
  exact ⟨short, shortFrame, (records_are_read_back _ {}).1 short,
    (records_are_read_back {} frame).2 shortFrame⟩

end BurstRelay

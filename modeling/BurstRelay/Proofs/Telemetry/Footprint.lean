import BurstRelay.Proofs.Wire.Footprint
import BurstRelay.Telemetry.Container

/-!
# How much longer a frame gets when it is written anew

The frames of a record are written anew when they are output one by one. Padded numbers, repeated
and unknown fields get lost on the way, so that a frame only gets shorter; a negative declared kind
alone can get longer, because it may come in five bytes and is written in ten. `footprint` is the
length of a frame with its declared kind in the shortest form, and no frame that is read has a
longer one than its record. So a record is split into records that are at most five bytes longer
than itself (`length_le_of_split`).
-/

namespace BurstRelay

open Fallible Wire

/-! ## Tags -/

theorem SourceTag.length_textField_le {number : Nat} (small : number < 15) (text : String) :
    (textField number text).length ≤
      1 + (encodeVarint (Bytes.ofString text).length).length + (Bytes.ofString text).length := by
  unfold textField
  split
  · simp
  · exact Nat.le_of_eq (length_bytesField small _)

/-- Taking a field into a tag lengthens the tag by no more than the bytes of the field. -/
theorem SourceTag.bounded_merge (levels : Nat) :
    Bounded (fun tag => (encode tag).length) (merge levels) := by
  intro tag number layout cursor result rest read
  dsimp only
  unfold merge at read
  split at read
  · obtain ⟨⟨text, behind⟩, readText, same⟩ := bind_eq_ok.mp (inside_eq_ok.mp read)
    obtain ⟨rfl, rfl⟩ := pure_pair_eq_ok.mp same
    have taken := left_of_textValue (lift_eq_ok.mp readText)
    have grown := length_textField_le (by omega : 1 < 15) text
    simp only [encode, List.length_append]
    omega
  · obtain ⟨⟨text, behind⟩, readText, same⟩ := bind_eq_ok.mp (inside_eq_ok.mp read)
    obtain ⟨rfl, rfl⟩ := pure_pair_eq_ok.mp same
    have taken := left_of_textValue (lift_eq_ok.mp readText)
    have grown := length_textField_le (by omega : 2 < 15) text
    simp only [encode, List.length_append]
    omega
  · obtain ⟨behind, skipped, same⟩ := bind_eq_ok.mp read
    obtain ⟨rfl, rfl⟩ := pure_pair_eq_ok.mp same
    have taken := left_of_skipValue (lift_eq_ok.mp skipped)
    omega

/-! ## Frames -/

namespace DataFrame

/-- The bytes of the tags of a frame. -/
def tagsSize (source : List SourceTag) : Nat :=
  (source.flatMap fun tag => bytesField 1 tag.encode).length

/-- The bytes of a time. -/
def timestampSize (timestamp : UInt64) : Nat := if timestamp = 0 then 0 else 9

/-- The bytes of a declared kind in its shortest form, which has thirty-two bits. -/
def payloadSize (payload : Int32) : Nat :=
  if payload = 0 then 0 else 1 + (encodeVarint payload.toUInt32.toNat).length

/-- The bytes of a number that is present or not. -/
def numericSize : Option Int64 → Nat
  | none => 0
  | some value => 1 + (encodeVarint (zigzag value)).length

/-- The bytes of a byte string or a text that is present or not. -/
def stringSize : Option Bytes → Nat
  | none => 0
  | some value => 1 + (encodeVarint value.length).length + value.length

/-- The bytes of a measurement that is present or not. -/
def measurementSize : Option Binary64 → Nat
  | none => 0
  | some _ => 9

/-- The length of a frame with its declared kind in the shortest form. -/
def footprint (frame : DataFrame) : Nat :=
  tagsSize frame.source + timestampSize frame.timestamp + payloadSize frame.payload +
    numericSize frame.numeric + stringSize (frame.textual.map Bytes.ofString) +
    measurementSize frame.measurement + stringSize frame.blob

/-- A declared kind that is not negative is the number that it is written as. -/
theorem payloadNumber_of_lt {payload : Int32} (small : payload.toUInt32.toNat < 2147483648) :
    payloadNumber payload = payload.toUInt32.toNat := by
  have positive : payload.toBitVec.msb = false :=
    BitVec.msb_eq_false_iff_two_mul_lt.mpr (Nat.mul_lt_mul_of_pos_left small (by omega))
  show (payload.toBitVec.signExtend 64).toNat = payload.toBitVec.toNat
  rw [BitVec.signExtend_eq_setWidth_of_msb_false positive, BitVec.toNat_setWidth]
  exact Nat.mod_eq_of_lt (Nat.lt_trans small (by decide))

/-- A declared kind is written in at most five bytes more than its shortest form. -/
theorem length_payloadNumber_le (payload : Int32) :
    (encodeVarint (payloadNumber payload)).length ≤
      (encodeVarint payload.toUInt32.toNat).length + 5 := by
  by_cases small : payload.toUInt32.toNat < 2147483648
  · rw [payloadNumber_of_lt small]
    omega
  · -- a negative kind takes five bytes even in thirty-two bits, and ten in sixty-four
    have least : 4 < (encodeVarint payload.toUInt32.toNat).length :=
      lt_length_encodeVarint (Nat.le_trans (by decide) (Nat.le_of_not_lt small))
    have most : (encodeVarint (payloadNumber payload)).length ≤ 10 :=
      length_encodeVarint_le (Nat.lt_of_lt_of_le (UInt64.toNat_lt _) (by decide)) (by omega)
    omega

theorem tagsSize_append (source : List SourceTag) (tag : SourceTag) :
    tagsSize (source ++ [tag]) =
      tagsSize source + (1 + (encodeVarint tag.encode.length).length + tag.encode.length) := by
  simp only [tagsSize, List.flatMap_append, List.flatMap_cons, List.flatMap_nil, List.append_nil,
    List.length_append, length_bytesField (by omega : 1 < 15)]

theorem timestampSize_le (timestamp : UInt64) : timestampSize timestamp ≤ 9 := by
  unfold timestampSize
  split <;> omega

/-- A number that is read as a declared kind is no shorter than the kind. -/
theorem payloadSize_ofPayloadNumber (number : Nat) :
    payloadSize (ofPayloadNumber number) ≤ 1 + (encodeVarint number).length := by
  unfold payloadSize
  split
  · omega
  · have same : (ofPayloadNumber number).toUInt32.toNat = number % UInt32.size := rfl
    have shorter := length_encodeVarint_mono (Nat.mod_le number UInt32.size)
    rw [same]
    omega

/-- A record of a frame is at most five bytes longer than the footprint of the frame. -/
theorem length_toRecord_le (frame : DataFrame) : frame.toRecord.length ≤ frame.footprint + 5 := by
  have timestamp : (if frame.timestamp = 0 then [] else wordField 2 frame.timestamp).length ≤
      timestampSize frame.timestamp := by
    unfold timestampSize
    split
    · simp
    · exact Nat.le_of_eq (length_wordField (by omega) _)
  have payload : (if frame.payload = 0 then []
      else varintField 3 (payloadNumber frame.payload)).length ≤ payloadSize frame.payload + 5 := by
    unfold payloadSize
    split
    · simp
    · have longer := length_payloadNumber_le frame.payload
      rw [length_varintField (by omega)]
      omega
  have numeric : ((frame.numeric.map fun value => varintField 4 (zigzag value)).getD []).length =
      numericSize frame.numeric := by
    cases frame.numeric with
    | none => rfl
    | some value => exact length_varintField (by omega) _
  have textual : ((frame.textual.map fun value =>
      bytesField 5 (Bytes.ofString value)).getD []).length =
        stringSize (frame.textual.map Bytes.ofString) := by
    cases frame.textual with
    | none => rfl
    | some value => exact length_bytesField (by omega) _
  have measurement : ((frame.measurement.map fun value =>
      wordField 6 value.bits).getD []).length = measurementSize frame.measurement := by
    cases frame.measurement with
    | none => rfl
    | some value => exact length_wordField (by omega) _
  have blob : ((frame.blob.map fun value => bytesField 8 value).getD []).length =
      stringSize frame.blob := by
    cases frame.blob with
    | none => rfl
    | some value => exact length_bytesField (by omega) _
  simp only [toRecord, List.length_append, footprint, tagsSize]
  omega

/-- Taking a field into a frame lengthens its footprint by no more than the bytes of the field. -/
theorem bounded_merge (levels : Nat) : Bounded footprint (merge levels) := by
  intro frame number layout cursor result rest read
  -- a tag is one more tag, and any other field takes the place of an earlier one
  unfold merge at read
  split at read
  · obtain ⟨⟨tag, behind⟩, readTag, same⟩ := bind_eq_ok.mp (inside_eq_ok.mp read)
    obtain ⟨rfl, rfl⟩ := pure_pair_eq_ok.mp same
    have taken := size_of_messageValue (SourceTag.bounded_merge (levels - 1)) rfl readTag
    simp only [footprint, tagsSize_append] at taken ⊢
    omega
  · obtain ⟨⟨word, behind⟩, readWord, same⟩ := bind_eq_ok.mp (inside_eq_ok.mp read)
    obtain ⟨rfl, rfl⟩ := pure_pair_eq_ok.mp same
    have taken := left_of_wordValue (lift_eq_ok.mp readWord)
    have written := timestampSize_le word
    simp only [footprint]
    omega
  · obtain ⟨⟨value, behind⟩, readValue, same⟩ := bind_eq_ok.mp (inside_eq_ok.mp read)
    obtain ⟨rfl, rfl⟩ := pure_pair_eq_ok.mp same
    have taken := (left_of_varintValue (lift_eq_ok.mp readValue)).1
    have written := payloadSize_ofPayloadNumber value
    simp only [footprint]
    omega
  · obtain ⟨⟨value, behind⟩, readValue, same⟩ := bind_eq_ok.mp (inside_eq_ok.mp read)
    obtain ⟨rfl, rfl⟩ := pure_pair_eq_ok.mp same
    obtain ⟨taken, fits⟩ := left_of_varintValue (lift_eq_ok.mp readValue)
    simp only [footprint, numericSize, zigzag_unzigzag fits]
    omega
  · obtain ⟨⟨text, behind⟩, readText, same⟩ := bind_eq_ok.mp (inside_eq_ok.mp read)
    obtain ⟨rfl, rfl⟩ := pure_pair_eq_ok.mp same
    have taken := left_of_textValue (lift_eq_ok.mp readText)
    simp only [footprint, Option.map_some, stringSize]
    omega
  · obtain ⟨⟨word, behind⟩, readWord, same⟩ := bind_eq_ok.mp (inside_eq_ok.mp read)
    obtain ⟨rfl, rfl⟩ := pure_pair_eq_ok.mp same
    have taken := left_of_wordValue (lift_eq_ok.mp readWord)
    simp only [footprint, measurementSize]
    omega
  · obtain ⟨⟨blob, behind⟩, readBlob, same⟩ := bind_eq_ok.mp (inside_eq_ok.mp read)
    obtain ⟨rfl, rfl⟩ := pure_pair_eq_ok.mp same
    have taken := left_of_bytesValue (lift_eq_ok.mp readBlob)
    simp only [footprint, stringSize]
    omega
  · obtain ⟨behind, skipped, same⟩ := bind_eq_ok.mp read
    obtain ⟨rfl, rfl⟩ := pure_pair_eq_ok.mp same
    have taken := left_of_skipValue (lift_eq_ok.mp skipped)
    omega

end DataFrame

/-! ## Bursts -/

namespace DataBurst

/-- A frame that is read out of a record has no longer footprint than the record. -/
theorem footprint_le_of_decode {record : Bytes} {burst : DataBurst}
    (read : decode record = .ok burst) :
    ∀ frame ∈ burst.frames, frame.footprint ≤ record.length := by
  unfold decode at read
  obtain ⟨latest, readFields, rfl⟩ := map_eq_ok.mp read
  obtain ⟨⟨frames, rest⟩, readUntil, same⟩ := bind_eq_ok.mp readFields
  rw [pure_eq_ok] at same
  subst same
  have fits : rest.left ≤ record.length ∧
      ∀ frame ∈ frames, frame.footprint ≤ record.length := by
    refine fieldsUntil_invariant (fun latest behind => behind.left ≤ record.length ∧
      ∀ frame ∈ latest, DataFrame.footprint frame ≤ record.length) ?_ readUntil (by simp)
    intro latest before number layout behind result rest holds readKey readValue
    have key := left_of_key readKey
    unfold merge at readValue
    split at readValue
    · obtain ⟨⟨frame, behindFrame⟩, readFrame, same⟩ :=
        bind_eq_ok.mp (inside_eq_ok.mp readValue)
      obtain ⟨rfl, rfl⟩ := pure_pair_eq_ok.mp same
      have taken := size_of_messageValue (DataFrame.bounded_merge _) rfl readFrame
      refine ⟨by omega, ?_⟩
      intro later member
      rcases List.mem_cons.mp member with rfl | member
      · omega
      · exact holds.2 later member
    · obtain ⟨behindValue, skipped, same⟩ := bind_eq_ok.mp readValue
      obtain ⟨rfl, rfl⟩ := pure_pair_eq_ok.mp same
      have taken := left_of_skipValue (lift_eq_ok.mp skipped)
      exact ⟨by omega, holds.2⟩
  intro frame member
  exact fits.2 frame (List.mem_reverse.mp member)

/-- Each record that a record is split into is at most five bytes longer than it. -/
theorem length_le_of_split {record : Bytes} {records : List Bytes}
    (done : split record = .ok records) :
    ∀ part ∈ records, part.length ≤ record.length + 5 := by
  unfold split ofRecord at done
  obtain ⟨burst, read, rfl⟩ := map_eq_ok.mp done
  intro part member
  obtain ⟨frame, inside, rfl⟩ := List.mem_map.mp member
  have fits := footprint_le_of_decode (mapError_eq_ok.mp read) frame inside
  have longer := frame.length_toRecord_le
  omega

end DataBurst

end BurstRelay

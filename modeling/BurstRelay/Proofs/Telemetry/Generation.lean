import BurstRelay.Proofs.Random.Draws
import BurstRelay.Proofs.Telemetry.Footprint
import BurstRelay.Proofs.Text.Lines
import BurstRelay.Telemetry.Synthetic

/-!
# What is drawn

Frames are drawn one after the other from one random source, and a frame draws the same words whatever
time it is (`alike_frame`). Bursts are groups of the frames that are drawn without any grouping
(`frames_of_bursts`), so that a source gives the same frames in groups of any size.
-/

namespace BurstRelay

namespace DataFrame

/-- A frame without its time. -/
def untimed (frame : DataFrame) : DataFrame := { frame with timestamp := 0 }

end DataFrame

namespace Synthetic

open RandomSource

variable {State : Type}

/-- Whether two frames differ in their times at most. -/
def SameBesideTime (frame other : DataFrame) : Prop := frame.untimed = other.untimed

/-- A frame is drawn alike at any time. -/
theorem alike_frame (source : RandomSource State) (now other : UInt64) :
    Alike (frame source now) (frame source other) SameBesideTime := by
  unfold frame
  refine .bind_same fun count => .bind_same fun tags => .bind_same fun delay => .bind_same ?_
  intro kind
  split
  · exact .pure rfl
  · exact .bind_same fun value => .pure rfl
  · exact .bind_same fun value => .pure rfl
  · exact .bind_same fun value => .pure rfl
  · exact .bind_same fun length => .bind_same fun blob => .pure rfl

/-- So many frames are drawn alike whatever clocks are asked. -/
theorem alike_frames (source : RandomSource State) (clock other : Clock) (asked otherAsked count : Nat) :
    Alike (frames source clock asked count) (frames source other otherAsked count)
      fun drawn otherDrawn => drawn.map DataFrame.untimed = otherDrawn.map DataFrame.untimed := by
  induction count generalizing asked otherAsked with
  | zero => exact .pure rfl
  | succ count ih =>
    unfold frames
    refine (alike_frame source _ _).bind fun first otherFirst same => ?_
    refine (ih (asked + 1) (otherAsked + 1)).bind fun rest otherRest sames => .pure ?_
    rw [List.map_cons, List.map_cons, sames]
    exact congrArg (· :: _) same

theorem frames_succ (source : RandomSource State) (clock : Clock) (asked count : Nat) (state : State) :
    frames source clock asked (count + 1) state =
      let drawn := frame source (clock asked) state
      let behind := frames source clock (asked + 1) count drawn.2
      (drawn.1 :: behind.1, behind.2) := by
  rw [frames]
  generalize frame source (clock asked) = first
  rfl

theorem length_frames (source : RandomSource State) (clock : Clock) (asked count : Nat)
    (state : State) : (frames source clock asked count state).1.length = count := by
  induction count generalizing asked state with
  | zero => rfl
  | succ count ih => rw [frames_succ, List.length_cons, ih]

/-- Frames are drawn one after the other, in one go or in two. -/
theorem frames_add (source : RandomSource State) (clock : Clock) (asked first second : Nat)
    (state : State) :
    frames source clock asked (first + second) state =
      let drawn := frames source clock asked first state
      let behind := frames source clock (asked + first) second drawn.2
      (drawn.1 ++ behind.1, behind.2) := by
  induction first generalizing asked state with
  | zero =>
    rw [Nat.zero_add]
    rfl
  | succ first ih =>
    rw [Nat.succ_add, frames_succ, frames_succ]
    dsimp only
    rw [ih, Nat.add_assoc, Nat.add_comm 1 first]
    rfl

/-! ## How long a frame gets -/

/-- Parts of so many bytes at most, and how many there are, bound the whole. -/
theorem length_flatMap_le {α : Type} {part : α → Bytes} {most : Nat} {values : List α}
    (within : ∀ value ∈ values, (part value).length ≤ most) :
    (values.flatMap part).length ≤ most * values.length := by
  induction values with
  | nil => exact Nat.zero_le _
  | cons value values ih =>
    rw [List.forall_mem_cons] at within
    have others := ih within.2
    rw [List.flatMap_cons, List.length_append, List.length_cons, Nat.mul_succ]
    omega

/-- Lowercase letters are one byte each. -/
theorem length_letter : ∀ index < 26,
    (String.utf8EncodeChar (Char.ofNat (97 + index))).length ≤ 1 := by
  decide

theorem always_letter (source : RandomSource State) :
    Always (letter source) fun drawn => (String.utf8EncodeChar drawn).length ≤ 1 :=
  (source.byteBelow_lt (by decide)).bind fun index within => .pure (length_letter index within)

theorem always_text (source : RandomSource State) :
    Always (text source) fun drawn => (Bytes.ofString drawn).length < textBound := by
  refine (source.below_lt (.inr rfl) (by decide)).bind fun length within => ?_
  refine ((always_letter source).repeated length).bind fun letters known => .pure ?_
  have short := length_flatMap_le known.2
  rw [Bytes.ofString_ofList]
  omega

/-- The most bytes of a drawn tag. -/
def longestTag : Nat := 2 * (textBound + 1)

theorem always_tag (source : RandomSource State) :
    Always (tag source) fun drawn => drawn.encode.length ≤ longestTag := by
  refine (always_text source).bind fun field shortField => ?_
  refine (always_text source).bind fun value shortValue => .pure ?_
  have bound : textBound = 20 := rfl
  have fieldSize := SourceTag.length_textField_le (by decide : 1 < 15) field
  have valueSize := SourceTag.length_textField_le (by decide : 2 < 15) value
  rw [Wire.length_encodeVarint_of_lt (by omega)] at fieldSize valueSize
  show (SourceTag.textField 1 field ++ SourceTag.textField 2 value).length ≤ _
  rw [List.length_append, longestTag]
  omega

/-- The most bytes of the tags of a drawn frame. -/
def longestTags : Nat := (longestTag + 2) * mostTags

theorem tagsSize_le {tags : List SourceTag} (few : tags.length ≤ mostTags)
    (short : ∀ tag ∈ tags, tag.encode.length ≤ longestTag) :
    DataFrame.tagsSize tags ≤ longestTags := by
  have bound : longestTag = 42 := rfl
  have each : ∀ tag ∈ tags, (Wire.bytesField 1 tag.encode).length ≤ longestTag + 2 := by
    intro tag member
    have within := short tag member
    rw [Wire.length_bytesField (by decide), Wire.length_encodeVarint_of_lt (by omega)]
    omega
  exact Nat.le_trans (length_flatMap_le each) (Nat.mul_le_mul_left _ few)

/-- The most bytes of the values of a drawn frame: of a blob with its key and its length. -/
def longestValue : Nat := blobBound + 1

/-- The most bytes of a drawn frame. -/
def longestFrame : Nat := longestTags + 9 + 2 + longestValue + 5

/-- A declared kind takes two bytes at most. -/
theorem payloadSize_code_le (kind : ValueKind) : DataFrame.payloadSize kind.code ≤ 2 := by
  have small : kind.code.toUInt32.toNat < 128 := by cases kind <;> decide
  unfold DataFrame.payloadSize
  split
  · omega
  · have single := Wire.length_encodeVarint_of_lt small
    omega

/-- A frame of drawn tags, a declared kind and values of few bytes is no longer than the longest. -/
theorem length_toRecord_le {frame : DataFrame} (kind : ValueKind)
    (tags : DataFrame.tagsSize frame.source ≤ longestTags) (declared : frame.payload = kind.code)
    (values : DataFrame.numericSize frame.numeric +
      DataFrame.stringSize (frame.textual.map Bytes.ofString) +
      DataFrame.measurementSize frame.measurement + DataFrame.stringSize frame.blob ≤ longestValue) :
    frame.toRecord.length ≤ longestFrame := by
  have written := frame.length_toRecord_le
  have timestamp := DataFrame.timestampSize_le frame.timestamp
  have payload := payloadSize_code_le kind
  unfold DataFrame.footprint at written
  rw [declared] at written
  unfold longestFrame
  omega

/-- A number takes at most as many bytes as it has groups of seven bits. -/
theorem numericSize_le (value : Int64) : DataFrame.numericSize (some value) ≤ 11 := by
  have groups : (Wire.encodeVarint (Wire.zigzag value)).length ≤ 10 :=
    Wire.length_encodeVarint_le (Nat.lt_of_lt_of_le (Wire.zigzag_lt value) (by decide)) (by decide)
  show 1 + (Wire.encodeVarint (Wire.zigzag value)).length ≤ 11
  omega

theorem stringSize_le {value : Bytes} (short : value.length < blobBound) :
    DataFrame.stringSize (some value) ≤ longestValue := by
  have bound : blobBound = 64 := rfl
  show 1 + (Wire.encodeVarint value.length).length + value.length ≤ longestValue
  rw [Wire.length_encodeVarint_of_lt (by omega), longestValue]
  omega

/-- Whatever words are drawn, a frame is not longer than the longest. -/
theorem always_frame (source : RandomSource State) (now : UInt64) :
    Always (frame source now) fun drawn => drawn.toRecord.length ≤ longestFrame := by
  have bound : longestValue = 65 := rfl
  unfold frame
  refine (source.below_lt (.inl rfl) (by decide)).bind fun count few => ?_
  refine ((always_tag source).repeated (1 + count)).bind fun tags known => ?_
  have size := tagsSize_le (by rw [known.1]; omega) known.2
  refine .bind_any fun delay => .bind_any fun kind => ?_
  split
  · refine .pure (length_toRecord_le .empty size rfl ?_)
    exact (by decide : 0 + 0 + 0 + 0 ≤ longestValue)
  · refine .bind_any fun value => .pure (length_toRecord_le .number size rfl ?_)
    have number := numericSize_le (UInt64.ofNat value).toInt64
    show DataFrame.numericSize (some (UInt64.ofNat value).toInt64) + 0 + 0 + 0 ≤ longestValue
    omega
  · refine .bind_any fun value => .pure (length_toRecord_le .real size rfl ?_)
    exact (by decide : 0 + 0 + 9 + 0 ≤ longestValue)
  · refine (always_text source).bind fun value short => .pure ?_
    refine length_toRecord_le .text size rfl ?_
    have text := stringSize_le (Nat.lt_trans short (by decide))
    show 0 + DataFrame.stringSize (some (Bytes.ofString value)) + 0 + 0 ≤ longestValue
    omega
  · refine (source.below_lt (.inl rfl) (by decide)).bind fun length short => ?_
    have any : Always (byte source) fun _ => True := fun _ => trivial
    refine (any.repeated length).bind fun blob known => .pure ?_
    refine length_toRecord_le .binary size rfl ?_
    have bytes := stringSize_le (known.1 ▸ short)
    show 0 + 0 + 0 + DataFrame.stringSize (some blob) ≤ longestValue
    omega

theorem always_frames (source : RandomSource State) (clock : Clock) (asked count : Nat) :
    Always (frames source clock asked count) fun drawn =>
      ∀ frame ∈ drawn, frame.toRecord.length ≤ longestFrame := by
  induction count generalizing asked with
  | zero => exact .pure (by simp)
  | succ count ih =>
    unfold frames
    refine (always_frame source _).bind fun first here => (ih (asked + 1)).bind fun others behind => ?_
    exact .pure (List.forall_mem_cons.mpr ⟨here, behind⟩)

/-! ## Bursts -/

/-- The number of frames in groups of the sizes. -/
def grouped (sizes : List Nat) : Nat := sizes.foldr (· + ·) 0

theorem bursts_cons (source : RandomSource State) (clock : Clock) (asked size : Nat)
    (sizes : List Nat) (state : State) :
    bursts source clock asked (size :: sizes) state =
      let drawn := frames source clock asked size state
      let behind := bursts source clock (asked + size) sizes drawn.2
      (⟨drawn.1⟩ :: behind.1, behind.2) := by
  rw [bursts]
  generalize frames source clock asked size = first
  rfl

/-- Grouping draws nothing: the frames of all bursts are those drawn without grouping. -/
theorem frames_of_bursts (source : RandomSource State) (clock : Clock) (asked : Nat)
    (sizes : List Nat) (state : State) :
    (bursts source clock asked sizes state).1.flatMap DataBurst.frames =
        (frames source clock asked (grouped sizes) state).1 ∧
      (bursts source clock asked sizes state).2 =
        (frames source clock asked (grouped sizes) state).2 := by
  induction sizes generalizing asked state with
  | nil => exact ⟨rfl, rfl⟩
  | cons size sizes ih =>
    obtain ⟨same, states⟩ := ih (asked + size) (frames source clock asked size state).2
    rw [show grouped (size :: sizes) = size + grouped sizes from rfl, frames_add, bursts_cons]
    dsimp only
    rw [List.flatMap_cons, same, states]
    exact ⟨rfl, rfl⟩

/-- The bursts have the sizes that were asked for. -/
theorem sizes_of_bursts (source : RandomSource State) (clock : Clock) (asked : Nat)
    (sizes : List Nat) (state : State) :
    (bursts source clock asked sizes state).1.map (fun burst => burst.frames.length) = sizes := by
  induction sizes generalizing asked state with
  | nil => rfl
  | cons size sizes ih =>
    rw [bursts_cons, List.map_cons, ih, length_frames]

/-- A burst has so many bytes for each of its frames at most: the frame, its key and its length. -/
theorem length_toRecord_of_bursts (source : RandomSource State) (clock : Clock) (asked : Nat)
    (sizes : List Nat) (state : State) :
    ∀ burst ∈ (bursts source clock asked sizes state).1,
      burst.toRecord.length ≤ (longestFrame + 3) * burst.frames.length := by
  have short := always_frames source clock asked (grouped sizes) state
  rw [← (frames_of_bursts source clock asked sizes state).1] at short
  intro burst member
  refine length_flatMap_le fun frame inside => ?_
  have bound : longestFrame = 257 := rfl
  have within := short frame (List.mem_flatMap.mpr ⟨burst, member, inside⟩)
  have groups : (Wire.encodeVarint frame.toRecord.length).length ≤ 2 :=
    Wire.length_encodeVarint_le (Nat.lt_of_le_of_lt within (by decide)) (by decide)
  rw [Wire.length_bytesField (by decide)]
  omega

theorem grouped_append (sizes others : List Nat) :
    grouped (sizes ++ others) = grouped sizes + grouped others := by
  induction sizes with
  | nil => exact (Nat.zero_add _).symm
  | cons size sizes ih =>
    show size + grouped (sizes ++ others) = size + grouped sizes + _
    rw [ih, Nat.add_assoc]

theorem grouped_replicate (count size : Nat) : grouped (List.replicate count size) = count * size := by
  induction count with
  | zero => exact (Nat.zero_mul _).symm
  | succ count ih =>
    show size + grouped (List.replicate count size) = _
    rw [ih, Nat.succ_mul, Nat.add_comm]

/-- Groups of some size hold all frames there are. -/
theorem grouped_burstSizes (total length : Nat) : grouped (burstSizes total length) = total := by
  unfold burstSizes
  rw [grouped_append, grouped_replicate]
  have parts := Nat.div_add_mod' total (max length 1)
  split
  · rename_i even
    rw [even] at parts
    exact parts
  · exact parts

/-- All groups are full but the last, which is not empty either. -/
theorem full_of_burstSizes (total length : Nat) :
    (∀ size ∈ burstSizes total length, 1 ≤ size ∧ size ≤ max length 1) ∧
      ∀ size ∈ (burstSizes total length).dropLast, size = max length 1 := by
  have some : 1 ≤ max length 1 := Nat.le_max_right _ _
  have rest : total % max length 1 < max length 1 := Nat.mod_lt _ some
  unfold burstSizes
  dsimp only
  split
  · rw [List.append_nil]
    refine ⟨?_, ?_⟩
    · intro size member
      obtain ⟨-, rfl⟩ := List.mem_replicate.mp member
      exact ⟨some, Nat.le_refl _⟩
    · intro size member
      exact (List.mem_replicate.mp (List.dropLast_subset _ member)).2
  · rename_i uneven
    rw [List.dropLast_concat]
    refine ⟨?_, ?_⟩
    · intro size member
      rcases List.mem_append.mp member with full | last
      · obtain ⟨-, rfl⟩ := List.mem_replicate.mp full
        exact ⟨some, Nat.le_refl _⟩
      · obtain rfl := List.mem_singleton.mp last
        exact ⟨Nat.pos_of_ne_zero uneven, Nat.le_of_lt rest⟩
    · intro size member
      exact (List.mem_replicate.mp member).2

end Synthetic

end BurstRelay

import BurstRelay.Proofs.Record.CrashConsistency
import BurstRelay.Proofs.Text.Lines
import BurstRelay.Telemetry.Text

/-!
# One frame, one line

Whatever is in a frame, it is printed on one line, in JSON and for a human reader
(`isInline_text`): a line feed in a text is escaped, and neither numbers nor what stands between the
values have one. So the lines of an output are the frames that were printed, and a reader of lines has
them all (`one_frame_one_line`). If the sink fails, it has the start of the output.
-/

namespace BurstRelay

open Text

/-! ## Quoted texts -/

namespace Hex

theorem digit_ne_newline : ∀ value < 16, digit value ≠ '\n' := by decide

end Hex

namespace Text

/-- A character is escaped in JSON without a line feed: the only one that is a line feed has an
escape, and the controls are spelled by their digits. -/
theorem isInline_escapeJson (letter : Char) : IsInline (escapeJson letter) := by
  by_cases newline : letter = '\n'
  · subst newline
    decide
  by_cases control : letter.toNat < 0x20
  · have high := Hex.digit_ne_newline (letter.toNat / 16) (by omega)
    have low := Hex.digit_ne_newline (letter.toNat % 16) (Nat.mod_lt _ (by decide))
    unfold escapeJson
    rw [if_neg newline, if_pos control]
    repeat' split
    all_goals simp [high, low]
  · unfold escapeJson
    rw [if_neg newline, if_neg control]
    repeat' split
    all_goals simp [newline]

theorem isInline_escapeVisible (letter : Char) : IsInline (escapeVisible letter) := by
  by_cases newline : letter = '\n'
  · subst newline
    decide
  have digits : IsInline (Nat.toDigits 16 letter.toNat) :=
    isInline_toDigits (by decide) (by decide) letter.toNat
  unfold escapeVisible
  rw [if_neg newline]
  repeat' split
  all_goals simp [newline, hexDigits, digits]

theorem isInline_quoted {escape : Char → List Char} (inline : ∀ letter, IsInline (escape letter))
    (text : String) : IsInline (quoted escape text) := by
  unfold quoted
  have inside := isInline_flatMap fun letter (_ : letter ∈ text.toList) => inline letter
  simp [inside]

end Text

/-! ## Numbers -/

namespace TextStyle

theorem isInline_integerText (value : Int) : IsInline (integerText value) := isInline_toString value

theorem isInline_numberText (value : Nat) : IsInline (numberText value) :=
  isInline_toDigits (by decide) (by decide) value

end TextStyle

namespace Decimal

theorem isInline_digitsOf (number : Nat) : IsInline (digitsOf number) :=
  isInline_toDigits (by decide) (by decide) number

theorem isInline_significantDigits (number : Nat) : IsInline (significantDigits number) := by
  refine (isInline_digitsOf number).subset fun letter member => ?_
  unfold significantDigits at member
  rw [List.mem_reverse] at member
  exact List.mem_reverse.mp ((List.dropWhile_sublist _).subset member)

theorem isInline_shortest (significand : Nat) (exponent : Int) :
    IsInline (shortest significand exponent).digits := by
  have zero : IsInline Decimal.zero.digits := by simp [Decimal.zero]
  unfold shortest
  split
  · exact zero
  · dsimp only
    split
    · exact isInline_significantDigits _
    · exact zero

namespace Layout

variable (layout : Layout) {decimal : Decimal}

theorem isInline_positional (digits : IsInline decimal.digits) :
    IsInline (layout.positional decimal) := by
  have zeros (count : Nat) : IsInline (List.replicate count '0') :=
    isInline_replicate count (by decide)
  have before (count : Nat) : IsInline (decimal.digits.take count) :=
    digits.subset fun _ => List.mem_of_mem_take
  have behind (count : Nat) : IsInline (decimal.digits.drop count) :=
    digits.subset fun _ => List.mem_of_mem_drop
  unfold positional
  dsimp only
  repeat' split
  all_goals simp [digits, zeros, before, behind]

theorem isInline_scientific (digits : IsInline decimal.digits) :
    IsInline (layout.scientific decimal) := by
  have exponent (number : Nat) := isInline_digitsOf number
  unfold scientific
  dsimp only
  rw [isInline_append, isInline_cons, isInline_append]
  refine ⟨?_, by decide, ?_, exponent _⟩
  · split
    · decide
    · rename_i single
      rwa [single] at digits
    · rename_i first rest _ several
      rw [several, isInline_cons] at digits
      simp [digits]
  · repeat' split
    all_goals decide

theorem isInline_decimalText (digits : IsInline decimal.digits) :
    IsInline (layout.decimalText decimal) := by
  unfold decimalText
  repeat' split
  · exact layout.isInline_positional digits
  · exact layout.isInline_positional digits
  · exact layout.isInline_scientific digits

theorem isInline_text (number : Binary64) : IsInline (layout.text number) := by
  have finite (significand : Nat) (exponent : Int) :=
    layout.isInline_decimalText (isInline_shortest significand exponent)
  unfold text
  dsimp only
  repeat' split
  all_goals simp [finite]

end Layout

end Decimal

/-! ## Lists and structures -/

namespace TextStyle

theorem isInline_joined {separator : String} (between : IsInline separator.toList)
    {texts : List (List Char)} (each : ∀ text ∈ texts, IsInline text) :
    IsInline (joined separator texts) := by
  fun_induction joined separator texts with
  | case1 => exact isInline_nil
  | case2 text => exact each text (List.mem_singleton_self text)
  | case3 text rest _ ih =>
    rw [List.forall_mem_cons] at each
    simp [each.1, between, ih each.2]

theorem isInline_bracketed {α : Type} {separator : String} {text : α → List Char}
    (between : IsInline separator.toList) (inline : ∀ value, IsInline (text value))
    (values : List α) : IsInline (bracketed separator (values.map text)) := by
  unfold bracketed
  have each : ∀ shown ∈ values.map text, IsInline shown :=
    List.forall_mem_map.mpr fun value _ => inline value
  have inside := isInline_joined between each
  simp [inside]

end TextStyle

namespace DataFrame

open TextStyle

/-! ## JSON -/

theorem isInline_jsonObject {fields : List (List Char)} (each : ∀ field ∈ fields, IsInline field) :
    IsInline (jsonObject fields) := by
  unfold jsonObject
  have inside := isInline_joined (by decide : IsInline ",".toList) each
  simp [inside]

theorem isInline_jsonField (name : String) {text : List Char} (inline : IsInline text) :
    IsInline (jsonField name text) := by
  unfold jsonField
  have named := isInline_quoted isInline_escapeJson name
  simp [named, inline]

theorem isInline_jsonOption {α : Type} {text : α → List Char} (inline : ∀ value, IsInline (text value))
    (value : Option α) : IsInline (jsonOption text value) := by
  cases value with
  | none => exact (by decide : IsInline "null".toList)
  | some value => exact inline value

theorem isInline_jsonMeasurement (value : Binary64) : IsInline (jsonMeasurement value) := by
  unfold jsonMeasurement
  split
  · exact Decimal.Layout.json.isInline_text value
  · decide

theorem isInline_jsonTag (tag : SourceTag) : IsInline (jsonTag tag) := by
  apply isInline_jsonObject
  simp only [List.forall_mem_cons]
  exact ⟨isInline_jsonField _ (isInline_quoted isInline_escapeJson _),
    isInline_jsonField _ (isInline_quoted isInline_escapeJson _), by simp⟩

theorem isInline_jsonText (frame : DataFrame) : IsInline frame.jsonText := by
  apply isInline_jsonObject
  simp only [List.forall_mem_cons]
  refine ⟨isInline_jsonField _ ?source, isInline_jsonField _ ?timestamp,
    isInline_jsonField _ ?payload, isInline_jsonField _ ?numeric, isInline_jsonField _ ?textual,
    isInline_jsonField _ ?measurement, isInline_jsonField _ ?blob, by simp⟩
  case source => exact isInline_bracketed (by decide) isInline_jsonTag _
  case timestamp => exact isInline_numberText _
  case payload => exact isInline_integerText _
  case numeric => exact isInline_jsonOption (fun value => isInline_integerText _) _
  case textual => exact isInline_jsonOption (isInline_quoted isInline_escapeJson) _
  case measurement => exact isInline_jsonOption isInline_jsonMeasurement _
  case blob =>
    refine isInline_jsonOption (fun blob => ?_) _
    exact isInline_bracketed (by decide) (fun byte => isInline_numberText _) blob

/-! ## For a human reader -/

theorem isInline_visibleStructure {name : String} {fields : List (List Char)}
    (named : IsInline name.toList) (each : ∀ field ∈ fields, IsInline field) :
    IsInline (visibleStructure name fields) := by
  unfold visibleStructure
  have inside := isInline_joined (by decide : IsInline ", ".toList) each
  simp [named, inside]

theorem isInline_visibleField {name : String} {text : List Char} (named : IsInline name.toList)
    (inline : IsInline text) : IsInline (visibleField name text) := by
  unfold visibleField
  simp only [isInline_append]
  exact ⟨⟨named, by decide⟩, inline⟩

theorem isInline_visibleOption {α : Type} {text : α → List Char}
    (inline : ∀ value, IsInline (text value)) (value : Option α) :
    IsInline (visibleOption text value) := by
  cases value with
  | none => exact (by decide : IsInline "None".toList)
  | some value =>
    unfold visibleOption
    simp only [isInline_append]
    exact ⟨⟨by decide, inline value⟩, by decide⟩

theorem isInline_visiblePayload (payload : Int32) : IsInline (visiblePayload payload) := by
  unfold visiblePayload
  split
  · rename_i kind _
    cases kind <;> decide
  · exact isInline_integerText _

theorem isInline_visibleTag (tag : SourceTag) : IsInline (visibleTag tag) := by
  apply isInline_visibleStructure (by decide)
  simp only [List.forall_mem_cons]
  exact ⟨isInline_visibleField (by decide) (isInline_quoted isInline_escapeVisible _),
    isInline_visibleField (by decide) (isInline_quoted isInline_escapeVisible _), by simp⟩

theorem isInline_visibleText (frame : DataFrame) : IsInline frame.visibleText := by
  apply isInline_visibleStructure (by decide)
  simp only [List.forall_mem_cons]
  refine ⟨isInline_visibleField (by decide) ?source, isInline_visibleField (by decide) ?timestamp,
    isInline_visibleField (by decide) ?payload, isInline_visibleField (by decide) ?numeric,
    isInline_visibleField (by decide) ?textual, isInline_visibleField (by decide) ?measurement,
    isInline_visibleField (by decide) ?blob, by simp⟩
  case source => exact isInline_bracketed (by decide) isInline_visibleTag _
  case timestamp => exact isInline_numberText _
  case payload => exact isInline_visiblePayload _
  case numeric => exact isInline_visibleOption (fun value => isInline_integerText _) _
  case textual => exact isInline_visibleOption (isInline_quoted isInline_escapeVisible) _
  case measurement => exact isInline_visibleOption Decimal.Layout.visible.isInline_text _
  case blob =>
    refine isInline_visibleOption (fun blob => ?_) _
    exact isInline_bracketed (by decide) (fun byte => isInline_numberText _) blob

/-! ## Lines -/

theorem isInline_text (style : TextStyle) (frame : DataFrame) : IsInline (text style frame) := by
  cases style with
  | json => exact isInline_jsonText frame
  | visible => exact isInline_visibleText frame

/-- The bytes of a frame as it is printed, without the end of the line. -/
def rendering (style : TextStyle) (frame : DataFrame) : Bytes :=
  Bytes.ofString (String.ofList (text style frame))

theorem line_eq (style : TextStyle) (frame : DataFrame) :
    line style frame = rendering style frame ++ [10] := by
  unfold line
  rw [Bytes.ofString_append]
  rfl

theorem newline_not_mem_rendering (style : TextStyle) (frame : DataFrame) :
    10 ∉ rendering style frame :=
  (isInline_iff_bytes _).mp (isInline_text style frame)

theorem rendering_ne_nil (style : TextStyle) (frame : DataFrame) : rendering style frame ≠ [] := by
  unfold rendering
  rw [Bytes.ofString_ofList]
  cases style with
  | json =>
    show String.utf8EncodeChar '{' ++ _ ≠ []
    simp [String.utf8EncodeChar]
  | visible =>
    show String.utf8EncodeChar 'D' ++ _ ≠ []
    simp [String.utf8EncodeChar]

/-- What has come of writing an output to a sink: the sink took the start of it, and all of it just if
writing succeeded. A sink that accepts everything is no reason to fail. -/
structure Reaches (sink : Sink) (output : Bytes) (attempt : Except Fault Unit × Sink) : Prop where
  taken : ∃ accepted, accepted <+: output ∧ attempt.2.bytes = sink.bytes ++ accepted ∧
    (attempt.1 = .ok () ↔ accepted = output)
  succeeds : sink.behaviour.Accepts → attempt.1 = .ok ()

theorem reaches_of_offer (sink : Sink) (pieces : List Bytes) :
    Reaches sink pieces.flatten (RecordWriter.offer sink pieces) := by
  refine ⟨?taken, RecordWriter.offer_of_accepts sink pieces⟩
  case taken =>
    obtain ⟨accepted, within, bytes, whole⟩ := RecordWriter.bytes_of_offer sink pieces
    refine ⟨accepted, within, bytes, whole, ?_⟩
    rintro rfl
    -- had writing failed, a byte at least would be missing
    apply Classical.byContradiction
    intro failed
    have fewer := RecordWriter.length_lt_of_offer failed
    rw [bytes, List.length_append] at fewer
    omega

/-- The lines of frames are offered to the sink one by one. -/
theorem writeLines_eq_offer (style : TextStyle) (sink : Sink) (frames : List DataFrame) :
    writeLines style sink frames = RecordWriter.offer sink (frames.map (line style)) := by
  induction frames generalizing sink with
  | nil => rfl
  | cons frame frames ih =>
    rw [writeLines, List.map_cons, RecordWriter.offer]
    cases sink.writeAll (line style frame) with
    | mk result after =>
      cases result with
      | error fault => rfl
      | ok done => exact ih after

/-- Frames are printed on a line each, whatever is in them: a rendering is not empty and has no line
feed, and the line feeds of an output tell the renderings apart. However the output is cut into the
pieces that are offered to a sink, the sink takes the start of it, and all of it just if writing
succeeds. -/
theorem one_frame_one_line (style : TextStyle) (frames : List DataFrame) :
    let output := frames.flatMap (line style)
    (∀ frame, line style frame = rendering style frame ++ [10] ∧ rendering style frame ≠ [] ∧
        10 ∉ rendering style frame) ∧
      output.count 10 = frames.length ∧
      output.splitOn 10 = frames.map (rendering style) ++ [[]] ∧
      ∀ sink : Sink, Reaches sink output (writeLines style sink frames) ∧
        ∀ pieces : List Bytes, pieces.flatten = output →
          Reaches sink output (RecordWriter.offer sink pieces) := by
  intro output
  have lines : output = (frames.map (rendering style)).flatMap fun line => line ++ [10] := by
    rw [List.flatMap_map]
    exact congrArg (frames.flatMap ·) (funext (line_eq style))
  have inline : ∀ line ∈ frames.map (rendering style), 10 ∉ line :=
    List.forall_mem_map.mpr fun frame _ => newline_not_mem_rendering style frame
  refine ⟨?shown, ?count, ?split, ?written⟩
  case shown =>
    intro frame
    exact ⟨line_eq style frame, rendering_ne_nil style frame, newline_not_mem_rendering style frame⟩
  case count => rw [lines, count_lines inline, List.length_map]
  case split => rw [lines, splitOn_lines inline]
  case written =>
    intro sink
    constructor
    · rw [writeLines_eq_offer]
      exact reaches_of_offer sink (frames.map (line style))
    · intro pieces whole
      rw [← whole]
      exact reaches_of_offer sink pieces

/-- A frame whose texts are full of line feeds, quotes and controls and whose measurement is no
number, and one with nothing in it, byte by byte to a sink that takes everything. -/
theorem one_line_of_frame_of_line_feeds :
    let frame : DataFrame :=
      { source := [{ field := "\n\r", value := "\"\\\x00\n" }]
        textual := some "\n"
        measurement := some ⟨0x7FF8000000000000⟩
        blob := some [10] }
    let output := [frame, {}].flatMap (line .visible)
    let pieces := output.map fun byte => [byte]
    pieces.flatten = output ∧ Sink.Behaviour.willing.Accepts ∧
      output.splitOn 10 = [rendering .visible frame, rendering .visible {}, []] ∧
      (RecordWriter.offer (.ofBehaviour .willing) pieces).1 = .ok () := by
  intro frame output pieces
  obtain ⟨-, -, split, written⟩ := one_frame_one_line .visible [frame, {}]
  have whole : pieces.flatten = output := by
    show (output.map fun byte => [byte]).flatten = output
    rw [← List.flatMap_def]
    exact List.flatMap_singleton' output
  have accepts := Sink.Behaviour.accepts_willing
  exact ⟨whole, accepts, split, ((written (.ofBehaviour .willing)).2 pieces whole).succeeds accepts⟩

end DataFrame

end BurstRelay

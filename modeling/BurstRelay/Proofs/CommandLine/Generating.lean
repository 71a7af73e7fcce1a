import Mathlib.Data.List.Nodup
import BurstRelay.CommandLine.Run
import BurstRelay.Proofs.Record.Reading
import BurstRelay.Proofs.Telemetry.Generation
import BurstRelay.Proofs.Telemetry.Normalisation

/-!
# Generated bursts

How long the bursts are changes nothing about the frames in them but their times, and no burst is
empty (`Synthetic.grouping_keeps_frames`). Bursts that are written to files have files of their own
(`fileName_injective`), up to the first burst that cannot be written.

Bursts that are written as records are read back one by one just if four bytes can say how long each
record is (`readsBack_iff`). That holds of all bursts of up to sixteen million frames. It does not hold of
bursts of two thousand million (`long_bursts_are_not_read_back`): the length in front of a record is cut
to four bytes where the payload of such a burst is refused.
-/

namespace BurstRelay

/-! ## Groups of frames -/

namespace DataBurst

/-- A frame takes two bytes of a record at least: its key and its length. -/
theorem length_frames_le (burst : DataBurst) :
    2 * burst.frames.length ≤ burst.toRecord.length := by
  obtain ⟨frames⟩ := burst
  show 2 * frames.length ≤ (frames.flatMap fun frame => Wire.bytesField 1 frame.toRecord).length
  induction frames with
  | nil => exact Nat.le_refl _
  | cons frame frames ih =>
    have announced := Wire.length_encodeVarint_pos frame.toRecord.length
    rw [List.flatMap_cons, List.length_append, Wire.length_bytesField (by decide), List.length_cons]
    omega

theorem toRecord_ne_nil {burst : DataBurst} (some : burst.frames ≠ []) : burst.toRecord ≠ [] := by
  have held := List.length_pos_iff.mpr some
  have longer := burst.length_frames_le
  exact List.length_pos_iff.mp (by omega)

end DataBurst

namespace Synthetic

variable {State : Type}

/-- Bursts are frames in groups: all but the last are full, and the last is not empty, so that no burst
has an empty record. -/
structure IsGrouped (count length : Nat) (bursts : List DataBurst) : Prop where
  count_eq : (bursts.flatMap DataBurst.frames).length = count
  some : ∀ burst ∈ bursts, 1 ≤ burst.frames.length
  few : ∀ burst ∈ bursts, burst.frames.length ≤ max length 1
  full : ∀ burst ∈ bursts.dropLast, burst.frames.length = max length 1
  record_ne_nil : ∀ burst ∈ bursts, burst.toRecord ≠ []

theorem isGrouped_bursts (source : RandomSource State) (clock : Clock) (count length : Nat)
    (state : State) :
    IsGrouped count length (bursts source clock 0 (burstSizes count length) state).1 := by
  obtain ⟨within, full⟩ := full_of_burstSizes count length
  have sizes := sizes_of_bursts source clock 0 (burstSizes count length) state
  have flat := (frames_of_bursts source clock 0 (burstSizes count length) state).1
  generalize (bursts source clock 0 (burstSizes count length) state).1 = drawn at sizes flat ⊢
  rw [← sizes, List.forall_mem_map] at within
  rw [← sizes, ← List.map_dropLast, List.forall_mem_map] at full
  constructor
  case count_eq => rw [flat, length_frames, grouped_burstSizes]
  case some => exact fun burst member => (within burst member).1
  case few => exact fun burst member => (within burst member).2
  case full => exact full
  case record_ne_nil =>
    intro burst member
    exact DataBurst.toRecord_ne_nil (List.ne_nil_of_length_pos (within burst member).1)

/-- Whatever the groups and whenever it is, the same frames are drawn, but for their times. -/
theorem grouping_keeps_frames (source : RandomSource State) (clock otherClock : Clock)
    (count length otherLength : Nat) (state : State) :
    ((bursts source clock 0 (burstSizes count length) state).1.flatMap DataBurst.frames).map
        DataFrame.untimed =
      ((bursts source otherClock 0 (burstSizes count otherLength) state).1.flatMap
        DataBurst.frames).map DataFrame.untimed := by
  rw [(frames_of_bursts source clock 0 _ state).1, (frames_of_bursts source otherClock 0 _ state).1,
    grouped_burstSizes, grouped_burstSizes]
  exact (alike_frames source clock otherClock 0 0 count state).1

/-- The most frames of a burst whose record is certain to have so many bytes at most. -/
def safeLength (most : Nat) : Nat := most / (longestFrame + 3)

/-- Bursts of few frames have short records. -/
theorem length_toRecord_le_of_safe (source : RandomSource State) (clock : Clock)
    {count length most : Nat} (state : State)
    (safe : min count (max length 1) ≤ safeLength most) :
    ∀ burst ∈ (bursts source clock 0 (burstSizes count length) state).1,
      burst.toRecord.length ≤ most := by
  intro burst member
  have grouped := isGrouped_bursts source clock count length state
  have size := length_toRecord_of_bursts source clock 0 (burstSizes count length) state burst member
  have whole : burst.frames.length ≤ count := by
    have part : burst.frames.Sublist
        ((bursts source clock 0 (burstSizes count length) state).1.flatMap DataBurst.frames) :=
      List.sublist_flatten_of_mem (List.mem_map_of_mem member)
    exact grouped.count_eq ▸ part.length_le
  have few : burst.frames.length ≤ safeLength most :=
    Nat.le_trans (Nat.le_min.mpr ⟨whole, grouped.few burst member⟩) safe
  calc burst.toRecord.length
      _ ≤ (longestFrame + 3) * burst.frames.length := size
      _ ≤ (longestFrame + 3) * safeLength most := Nat.mul_le_mul_left _ few
      _ ≤ most := Nat.mul_div_le _ _

/-- If there are frames at all, some burst has as many as there are, or as a burst can have. -/
theorem exists_full (source : RandomSource State) (clock : Clock) {count : Nat} (some : 0 < count)
    (length : Nat) (state : State) :
    ∃ burst ∈ (bursts source clock 0 (burstSizes count length) state).1,
      burst.frames.length = min count (max length 1) := by
  have member : min count (max length 1) ∈ burstSizes count length := by
    unfold burstSizes
    dsimp only
    rcases Nat.lt_or_ge count (max length 1) with few | many
    · rw [Nat.div_eq_of_lt few, Nat.mod_eq_of_lt few, if_neg (by omega),
        Nat.min_eq_left (Nat.le_of_lt few)]
      exact List.mem_singleton_self _
    · rw [Nat.min_eq_right many]
      have full : count / max length 1 ≠ 0 := by
        have positive : 0 < max length 1 := Nat.lt_of_lt_of_le Nat.one_pos (Nat.le_max_right _ _)
        exact Nat.ne_of_gt (Nat.div_pos many positive)
      exact List.mem_append_left _ (List.mem_replicate.mpr ⟨full, rfl⟩)
  rw [← sizes_of_bursts source clock 0 (burstSizes count length) state] at member
  obtain ⟨burst, drawn, size⟩ := List.mem_map.mp member
  exact ⟨burst, drawn, size⟩

end Synthetic

/-! ## Bursts as records -/

namespace CommandLine.GenArguments

variable {bursts : List DataBurst}

/-- An output is read back as bursts: there is one record for each, and it decodes to the frames. -/
def ReadsBack (output : Bytes) (bursts : List DataBurst) : Prop :=
  ∀ behaviour : Source.Behaviour, behaviour.Delivers →
    RecordReader.readAll { source := .ofBytes output behaviour } =
        (bursts.map DataBurst.toRecord, .ok ()) ∧
      ∀ burst ∈ bursts, RecordLayout.burst.frames burst.toRecord = .ok burst.frames

/-- Bursts are read back from their records just if four bytes can say how long each record is. -/
theorem readsBack_iff : ReadsBack (bursts.flatMap fun burst => Record.frame burst.toRecord) bursts ↔
    ∀ burst ∈ bursts, burst.toRecord.length < UInt32.size := by
  have output : (bursts.flatMap fun burst => Record.frame burst.toRecord) =
      Record.stream .binary (bursts.map DataBurst.toRecord) := by
    unfold Record.stream
    rw [List.flatMap_map]
    rfl
  rw [output]
  constructor
  · intro reads burst member
    -- no reader gives a record that is longer than can be announced
    obtain ⟨records, tail, splits⟩ := Record.exists_splits (UInt32.size - 1)
      (Record.stream .binary (bursts.map DataBurst.toRecord))
    have faces := RecordReader.faces_of_bytes Source.Behaviour.delivers_willing
      (Record.stream .binary (bursts.map DataBurst.toRecord))
    have same := (reads _ Source.Behaviour.delivers_willing).1
    rw [RecordReader.readAll_of_splits faces (by decide) splits, Prod.mk.injEq] at same
    exact Nat.lt_of_le_pred (by decide)
      (splits.fit _ (same.1 ▸ List.mem_map_of_mem member))
  · intro fit behaviour delivers
    have fits : ∀ record ∈ bursts.map DataBurst.toRecord, record.length < UInt32.size :=
      List.forall_mem_map.mpr fit
    refine ⟨RecordReader.readAll_stream (RecordReader.faces_of_bytes delivers _) fits, ?_⟩
    intro burst member
    exact DataBurst.frames_toRecord (fit burst member)

/-! ## Bursts as files -/

theorem toList_fileName (stem : String) (index : Nat) :
    (fileName stem index).toList = stem.toList ++ (['.'] ++
      (List.replicate (2 - (Nat.toDigits 10 index).length) '0' ++ Nat.toDigits 10 index)) := by
  unfold fileName
  rw [String.toList_append, String.toList_append, List.append_assoc, String.toList_ofList,
    String.toList_ofList]

/-- Files of different numbers have different names. The zeros in front of a short number say nothing
about its value, and neither do they make it another number. -/
theorem fileName_injective {stem : String} {index other : Nat}
    (same : fileName stem index = fileName stem other) : index = other := by
  have value (number : Nat) : Nat.ofDigitChars 10
      (List.replicate (2 - (Nat.toDigits 10 number).length) '0' ++ Nat.toDigits 10 number) 0 =
        number := by
    rw [Nat.ofDigitChars_append, Nat.ofDigitChars_replicate_zero, Nat.mul_zero,
      Nat.ofDigitChars_ten_toDigits]
  have letters := congrArg String.toList same
  rw [toList_fileName, toList_fileName, List.append_cancel_left_eq, List.append_cancel_left_eq]
    at letters
  rw [← value index, letters, value other]

/-- Payloads in files with numbers from an index on. -/
def numbered (stem : String) (index : Nat) (payloads : List Bytes) : List (String × Bytes) :=
  (payloads.zipIdx index).map fun entry => (fileName stem entry.2, entry.1)

theorem nodup_numbered (stem : String) (index : Nat) (payloads : List Bytes) :
    ((numbered stem index payloads).map Prod.fst).Nodup := by
  have names : (numbered stem index payloads).map Prod.fst =
      (List.range' index payloads.length).map (fileName stem) := by
    unfold numbered
    rw [List.map_map, ← List.zipIdx_map_snd, List.map_map]
    rfl
  rw [names]
  exact (List.nodup_range' 1).map fun _ _ same => fileName_injective same

/-! ## The program -/

/-- Payloads of bursts, one of each. -/
def Payloads (compress : Bytes → Bytes) : List DataBurst → List Bytes → Prop :=
  List.Forall₂ fun burst payload => burst.wire compress = .ok payload

theorem deliverFrom_records (surroundings : Surroundings) (index : Nat) (bursts : List DataBurst) :
    deliverFrom surroundings .records index bursts =
      { status := some 0, output := bursts.flatMap fun burst => Record.frame burst.toRecord } := by
  induction bursts generalizing index with
  | nil => rfl
  | cons burst bursts ih =>
    show (deliverFrom surroundings .records (index + 1) bursts).behind _ [] = _
    rw [ih]
    rfl

/-- A burst goes to the file of its number, if it has a payload and the file can be created. -/
theorem deliver_split {surroundings : Surroundings} {stem : String} {index : Nat}
    {burst : DataBurst} :
    (∃ payload, burst.wire surroundings.compress = .ok payload ∧
        surroundings.creates (fileName stem index) = true ∧
        deliver surroundings (.split stem) index burst = .ok ([], [(fileName stem index, payload)])) ∨
      ((∃ fault, burst.wire surroundings.compress = .error fault) ∨
          surroundings.creates (fileName stem index) = false) ∧
        ∃ complaint, deliver surroundings (.split stem) index burst = .error (.failed complaint) := by
  unfold deliver payload
  dsimp only
  cases wired : burst.wire surroundings.compress with
  | error fault => exact .inr ⟨.inl ⟨fault, rfl⟩, _, rfl⟩
  | ok payload =>
    cases created : surroundings.creates (fileName stem index) with
    | true => exact .inl ⟨payload, rfl, rfl, rfl⟩
    | false => exact .inr ⟨.inr rfl, _, rfl⟩

/-- The files that are written are those of the first bursts: of all, if all bursts have payloads and
all files can be created. -/
theorem deliverFrom_split (surroundings : Surroundings) (stem : String) (index : Nat)
    (bursts : List DataBurst) :
    ∃ sent payloads, sent <+: bursts ∧ Payloads surroundings.compress sent payloads ∧
      (deliverFrom surroundings (.split stem) index bursts).files = numbered stem index payloads ∧
      ((∀ name, surroundings.creates name = true) →
        (∀ burst ∈ bursts, burst.toRecord.length ≤ Block.inputLimit) →
          sent = bursts ∧
            (deliverFrom surroundings (.split stem) index bursts).status = some 0) := by
  induction bursts generalizing index with
  | nil => exact ⟨[], [], List.prefix_refl _, .nil, rfl, fun _ _ => ⟨rfl, rfl⟩⟩
  | cons burst bursts ih =>
    unfold deliverFrom
    rcases @deliver_split surroundings stem index burst with
      ⟨payload, wired, created, delivered⟩ | ⟨hindered, complaint, delivered⟩
    · obtain ⟨sent, payloads, within, sentAs, files, all⟩ := ih (index + 1)
      rw [delivered]
      refine ⟨burst :: sent, payload :: payloads, List.cons_prefix_cons.mpr ⟨rfl, within⟩,
        .cons wired sentAs, ?_, ?_⟩
      · show (fileName stem index, payload) ::
          (deliverFrom surroundings (.split stem) (index + 1) bursts).files = _
        rw [files]
        rfl
      · intro creating short
        rw [List.forall_mem_cons] at short
        obtain ⟨rfl, status⟩ := all creating short.2
        exact ⟨rfl, status⟩
    · rw [delivered]
      refine ⟨[], [], List.nil_prefix, .nil, rfl, ?_⟩
      intro creating short
      rcases hindered with ⟨fault, refused⟩ | missing
      · cases (DataBurst.wire_of_le (short burst List.mem_cons_self)).symm.trans refused
      · cases (creating _).symm.trans missing

variable {surroundings : Surroundings} {arguments : GenArguments}

theorem run_of_records (records : arguments.destination = .records) :
    arguments.run surroundings =
      { status := some 0
        output := (arguments.generate surroundings).flatMap fun burst =>
          Record.frame burst.toRecord } := by
  unfold run
  rw [records]
  exact deliverFrom_records surroundings 0 _

theorem run_of_split {stem : String} (splitting : arguments.destination = .split stem) :
    arguments.run surroundings =
      deliverFrom surroundings (.split stem) 0 (arguments.generate surroundings) := by
  unfold run
  rw [splitting]

/-- Records of so many frames that four bytes cannot say how long they are, are not read back. -/
theorem not_readsBack_of_long (records : arguments.destination = .records)
    (long : UInt32.size ≤ 2 * min arguments.count (max arguments.burstLength 1)) :
    ¬ ReadsBack (arguments.run surroundings).output (arguments.generate surroundings) := by
  intro reads
  have size : UInt32.size = 4294967296 := rfl
  obtain ⟨burst, member, full⟩ := Synthetic.exists_full ChaCha.source surroundings.clock
    (show 0 < arguments.count by omega) arguments.burstLength (arguments.source surroundings)
  rw [run_of_records records] at reads
  have short := readsBack_iff.mp reads burst member
  have longer := burst.length_frames_le
  omega

/-- Bursts of any length hold the same frames, and every file has a name of its own. The records of an
output are read back as the bursts just if four bytes can say how long each is. -/
theorem grouping_changes_nothing_else {State : Type} (source : RandomSource State) (state : State)
    (clock otherClock : Clock) (count length otherLength : Nat) (surroundings : Surroundings)
    (arguments : GenArguments) :
    let drawn := (Synthetic.bursts source clock 0 (Synthetic.burstSizes count length) state).1
    let otherDrawn := (Synthetic.bursts source otherClock 0
      (Synthetic.burstSizes count otherLength) state).1
    let bursts := arguments.generate surroundings
    let done := arguments.run surroundings
    let most := min arguments.count (max arguments.burstLength 1)
    (drawn.flatMap DataBurst.frames).map DataFrame.untimed =
        (otherDrawn.flatMap DataBurst.frames).map DataFrame.untimed ∧
      Synthetic.IsGrouped count length drawn ∧
      Synthetic.IsGrouped arguments.count arguments.burstLength bursts ∧
      (arguments.destination = .records →
        done.status = some 0 ∧
          (ReadsBack done.output bursts ↔
            ∀ burst ∈ bursts, burst.toRecord.length < UInt32.size) ∧
          (most ≤ Synthetic.safeLength (UInt32.size - 1) → ReadsBack done.output bursts) ∧
          (UInt32.size ≤ 2 * most → ¬ ReadsBack done.output bursts)) ∧
      (∀ stem index other, index ≠ other → fileName stem index ≠ fileName stem other) ∧
      ∀ stem, arguments.destination = .split stem →
        (done.files.map Prod.fst).Nodup ∧
          (∃ sent payloads, sent <+: bursts ∧ Payloads surroundings.compress sent payloads ∧
            done.files = numbered stem 0 payloads ∧
            ((∀ name, surroundings.creates name = true) →
              (∀ burst ∈ bursts, burst.toRecord.length ≤ Block.inputLimit) →
                sent = bursts ∧ done.status = some 0)) ∧
          (most ≤ Synthetic.safeLength Block.inputLimit →
            ∀ burst ∈ bursts, burst.toRecord.length ≤ Block.inputLimit) := by
  intro drawn otherDrawn bursts done most
  have fits {limit : Nat} : most ≤ Synthetic.safeLength limit →
      ∀ burst ∈ bursts, burst.toRecord.length ≤ limit :=
    Synthetic.length_toRecord_le_of_safe ChaCha.source surroundings.clock _
  refine ⟨Synthetic.grouping_keeps_frames source clock otherClock count length otherLength state,
    Synthetic.isGrouped_bursts source clock count length state,
    Synthetic.isGrouped_bursts ChaCha.source _ _ _ _, ?records, ?names, ?files⟩
  case records =>
    intro records
    have reads : ReadsBack done.output bursts ↔
        ∀ burst ∈ bursts, burst.toRecord.length < UInt32.size := by
      unfold done
      rw [run_of_records records]
      exact readsBack_iff
    refine ⟨by unfold done; rw [run_of_records records], reads, ?_, not_readsBack_of_long records⟩
    intro safe
    exact reads.mpr fun burst member => Nat.lt_of_le_pred (by decide) (fits safe burst member)
  case names =>
    intro stem index other differ same
    exact differ (fileName_injective same)
  case files =>
    intro stem splitting
    have split := deliverFrom_split surroundings stem 0 bursts
    unfold done
    rw [run_of_split splitting]
    refine ⟨?_, split, fits⟩
    obtain ⟨sent, payloads, -, -, files, -⟩ := split
    rw [files]
    exact nodup_numbered stem 0 payloads

/-- Three frames in groups of two and, with a length of zero, one by one: as records, and in files of
which none can take the place of another. -/
theorem grouping_three_frames :
    let logging : LoggingArguments := ⟨false, false⟩
    let pairs : GenArguments := ⟨3, 2, some 7, .records, logging⟩
    let singles : GenArguments := ⟨3, 0, some 7, .split "split", logging⟩
    ((pairs.generate {}).flatMap DataBurst.frames).map DataFrame.untimed =
        ((singles.generate { clock := fun _ => 1 }).flatMap DataBurst.frames).map
          DataFrame.untimed ∧
      ReadsBack (pairs.run {}).output (pairs.generate {}) ∧
      ((singles.run {}).files.map Prod.fst).Nodup ∧
      (singles.run {}).status = some 0 ∧
      fileName "split" 7 ≠ fileName "split" 107 := by
  intro logging pairs singles
  obtain ⟨same, -, -, records, -, -⟩ := grouping_changes_nothing_else ChaCha.source (.ofSeed 7)
    (fun _ => 0) (fun _ => 1) 3 2 0 {} pairs
  obtain ⟨-, -, -, -, names, files⟩ := grouping_changes_nothing_else ChaCha.source (.ofSeed 7)
    (fun _ => 0) (fun _ => 1) 3 2 0 {} singles
  obtain ⟨distinct, ⟨_, _, -, -, -, all⟩, fits⟩ := files "split" rfl
  exact ⟨same, (records rfl).2.2.1 (by decide), distinct,
    (all (fun _ => rfl) (fits (by decide))).2, names "split" 7 107 (by decide)⟩

/-- Not all records are read back: one of two thousand million frames is not, whatever is in them. -/
theorem long_bursts_are_not_read_back :
    ¬ ∀ (surroundings : Surroundings) (arguments : GenArguments),
      arguments.destination = .records →
        ReadsBack (arguments.run surroundings).output (arguments.generate surroundings) := by
  intro reads
  let long : GenArguments := ⟨2147483648, 2147483648, some 1, .records, ⟨false, false⟩⟩
  exact not_readsBack_of_long (show long.destination = .records from rfl) (by decide)
    (reads {} long rfl)

end CommandLine.GenArguments

end BurstRelay

import BurstRelay.Proofs.Buffer.Growth

/-!
# What a buffer owes to its history

A buffer is asked for room and written to, in any order, and every request for memory may be granted or
refused. What it is at the end is told by its history alone (`Recorded`): the capacity is the largest
size that it grew to, the growths are counted one by one, and each byte is the last one that was
written in its place, or zero. One use keeps that (`Recorded.use`), and so do all of them
(`Recorded.useEach`). What comes of the next request follows from what the buffer is (`Answered`).

Sizes are natural numbers here and words on a machine. A buffer whose sizes are words never adds two of
them to a sum that is none (`ensureWord_eq`).
-/

namespace BurstRelay.Buffer

/-! ## Histories -/

/-- What is done with a buffer. -/
inductive Use where
  /-- Room for so many bytes is asked for. -/
  | ensure (needed : Nat)
  /-- Bytes are written into the region, from an offset on. -/
  | write (offset : Nat) (bytes : Bytes)
  deriving DecidableEq, Repr

/-- What came of a use. -/
inductive Trace where
  /-- A buffer of a capacity was asked for room. -/
  | asked (capacity needed : Nat) (result : Except BufferFault Unit)
  /-- Bytes were written into a region of a capacity. -/
  | wrote (capacity offset : Nat) (bytes : Bytes)

/-- Uses a buffer once. -/
def use (buffer : Buffer) : Use → Trace × Buffer
  | .ensure needed =>
    let (result, after) := (buffer.ensure needed).value
    (.asked buffer.capacity needed result, after)
  | .write offset bytes => (.wrote buffer.capacity offset bytes, buffer.write offset bytes)

/-- Uses a buffer again and again. A refused request ends nothing. -/
def useEach (buffer : Buffer) : List Use → List Trace × Buffer
  | [] => ([], buffer)
  | first :: uses =>
    let (trace, after) := buffer.use first
    let (traces, last) := after.useEach uses
    (trace :: traces, last)

/-- The size that was asked for and grown to, if the capacity had to be raised and was. -/
def Trace.raised? : Trace → Option Nat
  | asked capacity needed (.ok ()) => if capacity < needed then some needed else none
  | asked _ _ (.error _) | wrote .. => none

/-- The byte that was written in a place, if one was. -/
def Trace.byte? (place : Nat) : Trace → Option UInt8
  | wrote capacity offset bytes =>
    if place < capacity ∧ offset ≤ place then bytes[place - offset]? else none
  | asked .. => none

/-- The sizes that a buffer grew to, in order. -/
def raises (traces : List Trace) : List Nat := traces.filterMap Trace.raised?

/-- The last byte that was written in a place; zero if there is none. -/
def lastByte (traces : List Trace) (place : Nat) : UInt8 :=
  traces.foldl (fun byte trace => (trace.byte? place).getD byte) 0

/-- A buffer is what its history says, if it was made with an initial capacity. -/
structure Recorded (initial : Nat) (traces : List Trace) (buffer : Buffer) : Prop where
  capacity : buffer.capacity = (raises traces).foldl max initial
  growths : buffer.growths = (raises traces).length
  /-- A place behind the end counts as zero, so that it is zero when it gets inside. -/
  bytes : ∀ place, buffer.region.toList.getD place 0 = lastByte traces place

/-- What comes of asking a buffer for room. -/
structure Answered (buffer : Buffer) (needed : Nat) (result : Except BufferFault Unit)
    (after : Buffer) : Prop where
  fails_iff : ∀ fault, result = .error fault ↔ buffer.capacity < needed ∧
    ∃ refusal, buffer.allocator buffer.requests needed = some refusal ∧
      fault = ⟨buffer.capacity, needed, refusal⟩
  of_failure : result ≠ .ok () →
    after.capacity = buffer.capacity ∧ after.region = buffer.region ∧ after.growths = buffer.growths
  of_success : result = .ok () →
    after.region.toList.length = after.capacity ∧ needed ≤ after.capacity ∧
      after.capacity = max buffer.capacity needed ∧
      after.region.toList =
        buffer.region.toList ++ List.replicate (after.capacity - buffer.capacity) 0 ∧
      after.growths = buffer.growths + if buffer.capacity < needed then 1 else 0

variable {allocator : Allocator} {initial needed : Nat} {traces : List Trace} {buffer after : Buffer}
  {result : Except BufferFault Unit}

theorem Ensured.answered (ensured : Ensured buffer needed result after) :
    Answered buffer needed result after := by
  cases ensured with
  | roomy fits =>
    have level : max buffer.capacity needed = buffer.capacity := Nat.max_eq_left fits
    refine ⟨?_, fun failed => absurd rfl failed, fun _ => ?_⟩
    · intro fault
      refine iff_of_false (by simp) ?_
      rintro ⟨short, -⟩
      exact Nat.not_lt.mpr fits short
    · refine ⟨Region.length_toList _, fits, level.symm, by simp, ?_⟩
      rw [if_neg (Nat.not_lt.mpr fits), Nat.add_zero]
  | grown short granted =>
    have level : max buffer.capacity needed = needed := Nat.max_eq_right (Nat.le_of_lt short)
    refine ⟨?_, fun failed => absurd rfl failed, fun _ => ?_⟩
    · intro fault
      refine iff_of_false (by simp) ?_
      rintro ⟨-, refusal, refused, -⟩
      cases granted.symm.trans refused
    · refine ⟨Region.length_toList _, Nat.le_max_right _ _, rfl, ?_, by rw [if_pos short]⟩
      show (buffer.region.grow needed).toList = _ ++ List.replicate (max buffer.capacity needed - _) 0
      rw [Region.toList_grow, level]
      rfl
  | @refused refusal short refused =>
    refine ⟨?_, fun _ => ⟨rfl, rfl, rfl⟩, by simp⟩
    intro fault
    constructor
    · intro same
      cases same
      exact ⟨short, refusal, refused, rfl⟩
    · rintro ⟨-, other, answer, rfl⟩
      cases refused.symm.trans answer
      rfl

/-! ## One use -/

theorem raises_append (traces : List Trace) (trace : Trace) :
    raises (traces ++ [trace]) = raises traces ++ trace.raised?.toList := by
  unfold raises
  rw [List.filterMap_append]
  congr 1

theorem lastByte_append (traces : List Trace) (trace : Trace) (place : Nat) :
    lastByte (traces ++ [trace]) place = (trace.byte? place).getD (lastByte traces place) := by
  unfold lastByte
  rw [List.foldl_append]
  rfl

/-- A use that raises nothing and writes nothing may come later in the history. -/
theorem Recorded.of_same (recorded : Recorded initial traces buffer) {trace : Trace}
    (region : after.region = buffer.region) (growths : after.growths = buffer.growths)
    (level : trace.raised? = none) (silent : ∀ place, trace.byte? place = none) :
    Recorded initial (traces ++ [trace]) after where
  capacity := by
    rw [raises_append, level, Option.toList_none, List.append_nil, ← recorded.capacity]
    exact congrArg Region.size region
  growths := by
    rw [raises_append, level, Option.toList_none, List.append_nil, growths]
    exact recorded.growths
  bytes := by
    intro place
    rw [lastByte_append, silent, region]
    exact recorded.bytes place

theorem Recorded.ensure (recorded : Recorded initial traces buffer)
    (ensured : Ensured buffer needed result after) :
    Recorded initial (traces ++ [.asked buffer.capacity needed result]) after := by
  cases ensured with
  | roomy fits => exact recorded.of_same rfl rfl (if_neg (Nat.not_lt.mpr fits)) fun _ => rfl
  | refused short refused => exact recorded.of_same rfl rfl rfl fun _ => rfl
  | grown short granted =>
    have raised : Trace.raised? (.asked buffer.capacity needed (.ok ())) = some needed := if_pos short
    constructor
    · rw [raises_append, raised, Option.toList_some, List.foldl_append, ← recorded.capacity]
      rfl
    · rw [raises_append, raised, List.length_append, ← recorded.growths]
      rfl
    · intro place
      rw [lastByte_append]
      exact (Region.getD_grow _ _ _).trans (recorded.bytes place)

theorem Recorded.write (recorded : Recorded initial traces buffer) (offset : Nat) (bytes : Bytes) :
    Recorded initial (traces ++ [.wrote buffer.capacity offset bytes])
      (buffer.write offset bytes) where
  capacity := by
    rw [raises_append, Trace.raised?, Option.toList_none, List.append_nil]
    exact recorded.capacity
  growths := by
    rw [raises_append, Trace.raised?, Option.toList_none, List.append_nil]
    exact recorded.growths
  bytes := by
    intro place
    rw [lastByte_append, ← recorded.bytes place]
    exact Region.getD_write buffer.region offset bytes place

theorem Recorded.use (recorded : Recorded initial traces buffer) (first : Use) :
    Recorded initial (traces ++ [(buffer.use first).1]) (buffer.use first).2 := by
  cases first with
  | ensure needed => exact recorded.ensure (buffer.ensured needed)
  | write offset bytes => exact recorded.write offset bytes

/-! ## All uses -/

/-- A buffer is what its history says however long it is used. -/
theorem Recorded.useEach (recorded : Recorded initial traces buffer) (uses : List Use) :
    Recorded initial (traces ++ (buffer.useEach uses).1) (buffer.useEach uses).2 := by
  induction uses generalizing traces buffer with
  | nil =>
    show Recorded initial (traces ++ []) buffer
    rwa [List.append_nil]
  | cons first uses ih =>
    have later := ih (recorded.use first)
    rw [List.append_assoc] at later
    exact later

/-- The capacity is a word if it was one and only words were asked for. -/
theorem capacity_of_words {uses : List Use} (word : buffer.capacity < UInt64.size)
    (words : ∀ needed, .ensure needed ∈ uses → needed < UInt64.size) :
    (buffer.useEach uses).2.capacity < UInt64.size := by
  induction uses generalizing buffer with
  | nil => exact word
  | cons first uses ih =>
    refine ih ?_ fun needed member => words needed (List.mem_cons_of_mem _ member)
    cases first with
    | write offset bytes => exact word
    | ensure needed =>
      have asked := words needed (List.mem_cons_self ..)
      rcases value : (buffer.ensure needed).value with ⟨result, after⟩
      show (buffer.ensure needed).value.2.capacity < _
      rw [value]
      cases ensured_of_value value with
      | roomy fits => exact word
      | grown short granted => exact Nat.max_lt.mpr ⟨word, asked⟩
      | refused short refused => exact word

/-! ## Sizes as words -/

/-- The bytes that are missing from a capacity, as a word: a difference that stops at zero. -/
def missing (capacity needed : UInt64) : UInt64 :=
  if needed ≤ capacity then 0 else needed - capacity

/-- Makes room as a machine does, with sizes that are words. Memory is reserved for what there is and
what is missing together, which is refused if it is no word. -/
def ensureWord (buffer : Buffer) (needed : UInt64) : Except BufferFault Unit × Buffer :=
  let capacity := UInt64.ofNat buffer.capacity
  if capacity < needed then
    let size := capacity + missing capacity needed
    if size < capacity then (.error ⟨capacity.toNat, needed.toNat, .tooLarge⟩, buffer)
    else
      match buffer.reserve size.toNat with
      | (.ok (), grown) => (.ok (), { grown with growths := grown.growths + 1 })
      | (.error fault, same) => (.error fault, same)
  else (.ok (), buffer)

theorem add_missing {capacity needed : UInt64} (short : capacity < needed) :
    capacity + missing capacity needed = needed := by
  unfold missing
  rw [if_neg (UInt64.not_le.mpr short), UInt64.add_comm, UInt64.sub_add_cancel]

/-- Words do as well as numbers, because the sum is the size that was asked for. -/
theorem ensureWord_eq (word : buffer.capacity < UInt64.size) (needed : UInt64) :
    buffer.ensureWord needed = (buffer.ensure needed.toNat).value := by
  have capacity : (UInt64.ofNat buffer.capacity).toNat = buffer.capacity :=
    UInt64.toNat_ofNat_of_lt' word
  unfold ensureWord ensure
  dsimp only
  by_cases short : UInt64.ofNat buffer.capacity < needed
  · have longer : buffer.capacity < needed.toNat := capacity ▸ UInt64.lt_iff_toNat_lt.mp short
    rw [if_pos short, if_pos longer, add_missing short,
      if_neg (UInt64.not_lt.mpr (UInt64.le_of_lt short))]
    simp only [Logged.value_bind]
    rcases buffer.reserve needed.toNat with ⟨result, after⟩
    cases result with
    | ok done => rfl
    | error fault => rfl
  · have enough : ¬ buffer.capacity < needed.toNat := by
      rw [← capacity]
      exact fun longer => short (UInt64.lt_iff_toNat_lt.mpr longer)
    rw [if_neg short, if_neg enough]
    rfl

/-! ## The law -/

/-- A buffer that was made has the capacity that it was made with, and nothing in it. -/
theorem recorded_of_made (asked : ofCapacity allocator initial = .ok buffer) :
    Recorded initial [] buffer := by
  cases made_of_ofCapacity asked with
  | empty nothing => exact ⟨nothing.symm, rfl, fun _ => rfl⟩
  | granted something granted =>
    exact ⟨Nat.zero_max initial, rfl, fun place => Region.getD_grow (.zeros 0) initial place⟩

/-- A buffer can be refused its first memory, and nothing else keeps it from being made. -/
theorem ofCapacity_eq_error {fault : BufferFault} :
    ofCapacity allocator initial = .error fault ↔ initial ≠ 0 ∧
      ∃ refusal, allocator 0 initial = some refusal ∧ fault = ⟨0, initial, refusal⟩ := by
  constructor
  · intro asked
    cases made_of_ofCapacity asked with
    | refused something refused => exact ⟨something, _, refused, rfl⟩
  · rintro ⟨something, refusal, refused, rfl⟩
    rcases asked : ofCapacity allocator initial with fault | fresh
    · cases made_of_ofCapacity asked with
      | refused _ answer =>
        cases answer.symm.trans refused
        rfl
    · cases made_of_ofCapacity asked with
      | empty nothing => exact absurd nothing something
      | granted _ granted => cases granted.symm.trans refused

/-- Whatever is done with a buffer and whatever memory it is granted, it is what its history says: its
capacity, its growths and every byte. What comes of the next request is settled by the capacity and the
allocator: a refused one changes nothing that can be seen, and any other leaves a region of exactly the
capacity, in which only zeros are new. Sizes as words do as well as numbers. -/
theorem keeps_its_books (allocator : Allocator) (initial : Nat) :
    (∀ fault, ofCapacity allocator initial = .error fault ↔ initial ≠ 0 ∧
      ∃ refusal, allocator 0 initial = some refusal ∧ fault = ⟨0, initial, refusal⟩) ∧
    ∀ fresh, ofCapacity allocator initial = .ok fresh → ∀ uses : List Use,
      let traces := (fresh.useEach uses).1
      let buffer := (fresh.useEach uses).2
      Recorded initial traces buffer ∧
        (∀ needed, Answered buffer needed (buffer.ensure needed).value.1
          (buffer.ensure needed).value.2) ∧
        (∀ count, buffer.valid count = buffer.region.toList.take (min count buffer.capacity)) ∧
        (initial < UInt64.size → (∀ needed, .ensure needed ∈ uses → needed < UInt64.size) →
          ∀ needed : UInt64, buffer.ensureWord needed = (buffer.ensure needed.toNat).value) := by
  refine ⟨fun fault => ofCapacity_eq_error, ?_⟩
  intro fresh asked uses
  have recorded := recorded_of_made asked
  refine ⟨recorded.useEach uses, ?_, ?_, ?_⟩
  · intro needed
    exact (ensured _ needed).answered
  · intro count
    show (fresh.useEach uses).2.region.first count = _
    rw [Region.first_eq_take, List.take_eq_take_min, Region.length_toList]
    rfl
  · intro word words needed
    refine ensureWord_eq (capacity_of_words ?_ words) needed
    rw [recorded.capacity]
    exact word

/-- A buffer of two bytes that is written to behind its end, grows twice, and is refused once in
between. -/
theorem books_of_refused_buffer :
    let uses : List Use :=
      [.write 0 [1, 2, 3], .ensure 4, .write 3 [9], .ensure (1 <<< 62), .ensure 3, .write 1 [7],
        .ensure 5]
    ∃ fresh, ofCapacity .machine 2 = .ok fresh ∧ 2 < UInt64.size ∧
      (∀ needed, .ensure needed ∈ uses → needed < UInt64.size) ∧
      let traces := (fresh.useEach uses).1
      let buffer := (fresh.useEach uses).2
      raises traces = [4, 5] ∧ buffer.capacity = 5 ∧ buffer.growths = 2 ∧
        buffer.region.toList = [1, 7, 0, 9, 0] ∧ Recorded 2 traces buffer ∧
        (buffer.ensure (1 <<< 62)).value.1 = .error ⟨5, 1 <<< 62, .noRoom⟩ ∧
        buffer.ensureWord 6 = (buffer.ensure 6).value := by
  intro uses
  have words : ∀ needed, .ensure needed ∈ uses → needed < UInt64.size := by
    simp [uses, UInt64.size]
  obtain ⟨recorded, answered, -, alike⟩ := (keeps_its_books .machine 2).2 _ rfl uses
  refine ⟨_, rfl, by decide, words, rfl, rfl, rfl, rfl, recorded, ?_, ?_⟩
  · exact ((answered (1 <<< 62)).fails_iff _).mpr ⟨by decide, .noRoom, rfl, rfl⟩
  · exact alike (by decide) words 6

end BurstRelay.Buffer

import BurstRelay.Bytes.Basic
import BurstRelay.Stream.Fault

/-!
# Byte sources

A source delivers a byte string in portions of its own choosing. A read gives some of the next
bytes, and any number of interruptions may come before it; once the bytes are used up, every read
reports the end or a fault. How a source delivers is a value, `Source.Behaviour`.

`Source.fill` reads until it has the bytes it was asked for, until the source ends, or until it
fails, and reads again after an interruption.
-/

namespace BurstRelay

/-- How a source delivers its bytes. -/
structure Source.Behaviour where
  /-- The interruptions that come before each read, by the number of reads before. -/
  interruptions : Nat → Nat
  /-- The most bytes that each read gives, by the number of reads before. -/
  portion : Nat → Nat
  /-- The fault of a read when the bytes are used up; the end of the stream if there is none. -/
  ending : Option FaultKind

/-- A source with what it has still to deliver. -/
structure Source where
  behaviour : Source.Behaviour
  /-- The bytes not delivered yet. -/
  rest : Bytes
  /-- The reads answered so far. -/
  reads : Nat := 0
  /-- The interruptions still to come before the next read is answered. -/
  pending : Nat := behaviour.interruptions 0

/-- What came of one read. A read that gives no byte means the end of the stream. -/
inductive ReadOutcome where
  | interrupted
  | gave (bytes : Bytes)
  | failed (fault : Fault)
  deriving DecidableEq, Repr

/-- How filling a buffer came to its end. -/
inductive FillEnd where
  | full
  | ended
  | failed (fault : Fault)
  deriving DecidableEq, Repr

namespace Source

/-- The source that gives as much as it is asked for. -/
def Behaviour.willing : Behaviour where
  interruptions _ := 0
  portion _ := UInt64.size - 1
  ending := none

/-- The source that is interrupted so many times first, and gives so much at most. -/
def Behaviour.limited (interruptions portion : Nat) (ending : Option FaultKind) : Behaviour where
  interruptions reads := if reads = 0 then interruptions else 0
  portion _ := portion
  ending := ending

/-- A source that has delivered nothing yet. -/
def ofBytes (bytes : Bytes) (behaviour : Behaviour := .willing) : Source :=
  { behaviour, rest := bytes }

/-- Asks the source for at most `wanted` bytes once. -/
def read (source : Source) (wanted : Nat) : ReadOutcome × Source :=
  match source.pending with
  | pending + 1 => (.interrupted, { source with pending })
  | 0 =>
    let count := min wanted (source.behaviour.portion source.reads)
    let answered := { source with
      reads := source.reads + 1
      pending := source.behaviour.interruptions (source.reads + 1) }
    match source.rest, source.behaviour.ending with
    | [], some kind => (.failed (.ofKind kind), answered)
    | rest, _ => (.gave (rest.take count), { answered with rest := rest.drop count })

theorem pending_lt_of_interrupted {source after : Source} {wanted : Nat}
    (result : source.read wanted = (.interrupted, after)) : after.pending < source.pending := by
  unfold read at result
  split at result
  · simp only [Prod.mk.injEq, true_and] at result
    subst result
    simp_all
  · dsimp only at result
    split at result <;> simp at result

/-- A read gives the next bytes, at most as many as are asked for, and otherwise leaves all. -/
theorem rest_of_read {source after : Source} {wanted : Nat} {outcome : ReadOutcome}
    (result : source.read wanted = (outcome, after)) :
    (∃ bytes, outcome = .gave bytes ∧ bytes.length ≤ wanted ∧ source.rest = bytes ++ after.rest) ∨
      ((∀ bytes, outcome ≠ .gave bytes) ∧ after.rest = source.rest) := by
  unfold read at result
  split at result
  · simp only [Prod.mk.injEq] at result
    obtain ⟨rfl, rfl⟩ := result
    exact .inr ⟨by simp, rfl⟩
  · dsimp only at result
    split at result
    · simp only [Prod.mk.injEq] at result
      obtain ⟨rfl, rfl⟩ := result
      exact .inr ⟨by simp, rfl⟩
    · simp only [Prod.mk.injEq] at result
      obtain ⟨rfl, rfl⟩ := result
      exact .inl ⟨_, rfl, Nat.le_trans (List.length_take_le _ _) (Nat.min_le_left _ _), by simp⟩

/-- Reads until `wanted` bytes more are there; `got` holds the bytes read before. -/
def fillFrom (source : Source) (got : Array UInt8) (wanted : Nat) :
    FillEnd × Array UInt8 × Source :=
  match wanted with
  | 0 => (.full, got, source)
  | wanted + 1 =>
    match result : source.read (wanted + 1) with
    | (.interrupted, after) =>
      have : after.pending < source.pending := pending_lt_of_interrupted result
      after.fillFrom got (wanted + 1)
    | (.gave [], after) => (.ended, got, after)
    | (.gave (byte :: more), after) =>
      after.fillFrom (got ++ byte :: more) (wanted - more.length)
    | (.failed fault, after) => (.failed fault, got, after)
termination_by (wanted, source.pending)

/-- Reads until `wanted` bytes are there. -/
def fill (source : Source) (wanted : Nat) : FillEnd × Bytes × Source :=
  match source.fillFrom #[] wanted with
  | (status, got, after) => (status, got.toList, after)

end Source

end BurstRelay

import BurstRelay.Bytes.Basic
import BurstRelay.Stream.Fault

/-!
# Byte sinks

A sink takes bytes, at its own pace. A write is answered by taking some of the bytes offered or by a
fault, and any number of interruptions may come before the answer; a flush succeeds or fails. How a
sink behaves is a value, `Sink.Behaviour`, so that a statement can be made for every sink: short
writes, interruptions, writes that take nothing, and faults at any byte or at any flush.

`Sink.writeAll` offers the same bytes again after an interruption and the remaining bytes after a
short write, until everything was taken or the sink fails.
-/

namespace BurstRelay

/-- How a sink answers a write. -/
inductive WriteAnswer where
  /-- The sink takes at most so many of the bytes offered. -/
  | takes (atMost : Nat)
  /-- The sink takes nothing and reports a fault. -/
  | fails (kind : FaultKind)
  deriving DecidableEq, Repr

/-- How a sink behaves in its lifetime. -/
structure Sink.Behaviour where
  /-- The interruptions that come before the answer to each write, by the number of answers before. -/
  interruptions : Nat → Nat
  /-- The answer to each write, by the number of answers before and of bytes taken before. -/
  answer : Nat → Nat → WriteAnswer
  /-- The fault of each flush, by the number of flushes tried before; none if the flush succeeds. -/
  flushFault : Nat → Option FaultKind

/-- A sink with what happened to it so far. -/
structure Sink where
  behaviour : Sink.Behaviour
  /-- The bytes taken so far. -/
  taken : Array UInt8 := #[]
  /-- The writes answered so far. -/
  answers : Nat := 0
  /-- The interruptions still to come before the next answer. -/
  pending : Nat := behaviour.interruptions 0
  /-- The flushes tried so far. -/
  flushesTried : Nat := 0
  /-- The flushes that succeeded so far. -/
  flushes : Nat := 0

/-- What came of one write. -/
inductive WriteOutcome where
  | interrupted
  | wrote (count : Nat)
  | failed (fault : Fault)
  deriving DecidableEq, Repr

namespace Sink

/-- The sink that takes everything at once. -/
def Behaviour.willing : Behaviour where
  interruptions _ := 0
  answer _ _ := .takes (UInt64.size - 1)
  flushFault _ := none

/-- Where a limited sink stops. -/
structure Limits where
  /-- The most bytes of one write that are taken. -/
  portion : Option Nat := none
  /-- The most bytes that are taken in all. -/
  total : Option Nat := none
  /-- What becomes of a write when there is no room left. -/
  whenFull : WriteAnswer := .takes 0
  /-- The interruptions before the first answer. -/
  interruptions : Nat := 0
  /-- The flushes that succeed before the first that can fail. -/
  flushes : Nat := 0
  flushFault : Option FaultKind := none
  deriving DecidableEq, Repr

/-- The sink that stops at its limits. -/
def Behaviour.limited (limits : Limits) : Behaviour where
  interruptions answers := if answers = 0 then limits.interruptions else 0
  answer _ taken :=
    let room := match limits.total with
      | some total => total - taken
      | none => UInt64.size - 1
    if room = 0 then limits.whenFull else .takes (min room (limits.portion.getD room))
  flushFault tried := if tried < limits.flushes then none else limits.flushFault

/-- A sink that nothing happened to yet. -/
def ofBehaviour (behaviour : Behaviour) : Sink := { behaviour }

def bytes (sink : Sink) : Bytes := sink.taken.toList

/-- Offers bytes to the sink once. -/
def write (sink : Sink) (offered : Bytes) : WriteOutcome × Sink :=
  match sink.pending with
  | pending + 1 => (.interrupted, { sink with pending })
  | 0 =>
    match sink.behaviour.answer sink.answers sink.taken.size with
    | .takes atMost =>
      let portion := offered.take atMost
      (.wrote portion.length, { sink with
        taken := sink.taken ++ portion
        answers := sink.answers + 1
        pending := sink.behaviour.interruptions (sink.answers + 1) })
    | .fails kind => (.failed (.ofKind kind), { sink with
        answers := sink.answers + 1
        pending := sink.behaviour.interruptions (sink.answers + 1) })

/-- Flushes the sink once. -/
def flush (sink : Sink) : Except Fault Unit × Sink :=
  let tried := { sink with flushesTried := sink.flushesTried + 1 }
  match sink.behaviour.flushFault sink.flushesTried with
  | some kind => (.error (.ofKind kind), tried)
  | none => (.ok (), { tried with flushes := sink.flushes + 1 })

/-- A write takes a prefix of what is offered, as long as it says, and nothing if it does not succeed. -/
theorem bytes_of_write {sink after : Sink} {offered : Bytes} {outcome : WriteOutcome}
    (wrote : sink.write offered = (outcome, after)) :
    (∃ count, outcome = .wrote count ∧ count ≤ offered.length ∧
        after.bytes = sink.bytes ++ offered.take count) ∨
      ((∀ count, outcome ≠ .wrote count) ∧ after.bytes = sink.bytes) := by
  unfold write at wrote
  split at wrote
  · simp only [Prod.mk.injEq] at wrote
    obtain ⟨rfl, rfl⟩ := wrote
    exact .inr ⟨by simp, rfl⟩
  · dsimp only at wrote
    split at wrote
    · simp only [Prod.mk.injEq] at wrote
      obtain ⟨rfl, rfl⟩ := wrote
      refine .inl ⟨_, rfl, List.length_take_le' _ _, ?_⟩
      simp [bytes, List.take_eq_take_iff]
    · simp only [Prod.mk.injEq] at wrote
      obtain ⟨rfl, rfl⟩ := wrote
      exact .inr ⟨by simp, rfl⟩

theorem pending_lt_of_interrupted {sink after : Sink} {offered : Bytes}
    (wrote : sink.write offered = (.interrupted, after)) : after.pending < sink.pending := by
  unfold write at wrote
  split at wrote
  · simp only [Prod.mk.injEq, true_and] at wrote
    subst wrote
    simp_all
  · dsimp only at wrote
    split at wrote <;> simp at wrote

/-- Offers bytes to the sink until it took all of them or fails. -/
def writeAll (sink : Sink) (offered : Bytes) : Except Fault Unit × Sink :=
  match offered with
  | [] => (.ok (), sink)
  | byte :: rest =>
    match result : sink.write (byte :: rest) with
    | (.interrupted, after) =>
      have : after.pending < sink.pending := pending_lt_of_interrupted result
      after.writeAll (byte :: rest)
    | (.wrote 0, after) => (.error .tookNothing, after)
    | (.wrote (count + 1), after) => after.writeAll (rest.drop count)
    | (.failed fault, after) => (.error fault, after)
termination_by (offered.length, sink.pending)

/-- Whatever a sink does, it keeps what it had and takes a prefix of what is offered; it succeeds only
with all of it. -/
theorem bytes_of_writeAll (sink : Sink) (offered : Bytes) :
    ∃ accepted, accepted <+: offered ∧
      (sink.writeAll offered).2.bytes = sink.bytes ++ accepted ∧
      ((sink.writeAll offered).1 = .ok () → accepted = offered) := by
  fun_induction writeAll sink offered with
  | case1 sink => exact ⟨[], List.prefix_rfl, by simp, fun _ => rfl⟩
  | case2 sink byte rest after result _ ih =>
    obtain ⟨accepted, within, bytesAfter, whole⟩ := ih
    rcases bytes_of_write result with ⟨count, same, _⟩ | ⟨_, same⟩
    · simp at same
    · exact ⟨accepted, within, by rw [bytesAfter, same], whole⟩
  | case3 sink byte rest after result =>
    rcases bytes_of_write result with ⟨count, same, _, bytesAfter⟩ | ⟨differs, _⟩
    · simp only [WriteOutcome.wrote.injEq] at same
      subst same
      exact ⟨[], List.nil_prefix, by simpa using bytesAfter, by simp⟩
    · exact absurd rfl (differs 0)
  | case4 sink byte rest count after result ih =>
    obtain ⟨accepted, within, bytesAfter, whole⟩ := ih
    rcases bytes_of_write result with ⟨taken, same, _, bytesWrote⟩ | ⟨differs, _⟩
    · simp only [WriteOutcome.wrote.injEq] at same
      subst same
      have parts : byte :: rest = byte :: rest.take count ++ rest.drop count := by simp
      refine ⟨byte :: rest.take count ++ accepted, ?_, ?_, ?_⟩
      · rw [parts]
        exact (List.prefix_append_right_inj _).mpr within
      · rw [bytesAfter, bytesWrote]
        simp
      · intro succeeded
        rw [whole succeeded, ← parts]
    · exact absurd rfl (differs (count + 1))
  | case5 sink byte rest fault after result =>
    rcases bytes_of_write result with ⟨count, same, _⟩ | ⟨_, same⟩
    · simp at same
    · exact ⟨[], List.nil_prefix, by simpa using same, by simp⟩

end Sink

end BurstRelay

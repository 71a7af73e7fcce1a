import BurstRelay.Stream.Sink

/-!
# Sinks that accept everything

What writing and flushing leave as it was, what a failure leaves out, and what they do with a sink
that never fails. Such a sink may take its time: short writes and interruptions are as good as taking
everything at once, because `Sink.writeAll` comes back with the rest.
-/

namespace BurstRelay.Sink

/-- A sink that accepts everything: each write takes at least a byte, and each flush succeeds. -/
structure Behaviour.Accepts (behaviour : Behaviour) : Prop where
  takes : ∀ answers taken, ∃ count, 0 < count ∧ behaviour.answer answers taken = .takes count
  flushes : ∀ tried, behaviour.flushFault tried = none

theorem Behaviour.accepts_willing : Behaviour.willing.Accepts :=
  ⟨fun _ _ => ⟨_, by decide, rfl⟩, fun _ => rfl⟩

/-! ## What a write leaves as it was -/

/-- A write changes neither the behaviour of a sink nor its flushes. -/
theorem frame_of_write {sink after : Sink} {offered : Bytes} {outcome : WriteOutcome}
    (wrote : sink.write offered = (outcome, after)) :
    after.behaviour = sink.behaviour ∧ after.flushes = sink.flushes := by
  unfold write at wrote
  split at wrote
  · simp only [Prod.mk.injEq] at wrote
    obtain ⟨-, rfl⟩ := wrote
    exact ⟨rfl, rfl⟩
  · dsimp only at wrote
    split at wrote
    · simp only [Prod.mk.injEq] at wrote
      obtain ⟨-, rfl⟩ := wrote
      exact ⟨rfl, rfl⟩
    · simp only [Prod.mk.injEq] at wrote
      obtain ⟨-, rfl⟩ := wrote
      exact ⟨rfl, rfl⟩

theorem frame_of_writeAll (sink : Sink) (offered : Bytes) :
    (sink.writeAll offered).2.behaviour = sink.behaviour ∧
      (sink.writeAll offered).2.flushes = sink.flushes := by
  fun_induction writeAll sink offered with
  | case1 => exact ⟨rfl, rfl⟩
  | case2 sink byte rest after result _ ih =>
    have here := frame_of_write result
    exact ⟨ih.1.trans here.1, ih.2.trans here.2⟩
  | case3 sink byte rest after result => exact frame_of_write result
  | case4 sink byte rest count after result ih =>
    have here := frame_of_write result
    exact ⟨ih.1.trans here.1, ih.2.trans here.2⟩
  | case5 sink byte rest fault after result => exact frame_of_write result

/-- A flush changes neither the behaviour of a sink nor its bytes. -/
theorem frame_of_flush {sink after : Sink} {result : Except Fault Unit}
    (flushed : sink.flush = (result, after)) :
    after.behaviour = sink.behaviour ∧ after.bytes = sink.bytes := by
  unfold flush at flushed
  dsimp only at flushed
  split at flushed
  · simp only [Prod.mk.injEq] at flushed
    obtain ⟨-, rfl⟩ := flushed
    exact ⟨rfl, rfl⟩
  · simp only [Prod.mk.injEq] at flushed
    obtain ⟨-, rfl⟩ := flushed
    exact ⟨rfl, rfl⟩

/-- A flush that succeeds is counted. -/
theorem flushes_of_flush {sink after : Sink} (flushed : sink.flush = (.ok (), after)) :
    after.flushes = sink.flushes + 1 := by
  unfold flush at flushed
  dsimp only at flushed
  split at flushed
  · simp at flushed
  · simp only [Prod.mk.injEq, true_and] at flushed
    rw [← flushed]

theorem flushes_of_flush_error {sink after : Sink} {fault : Fault}
    (flushed : sink.flush = (.error fault, after)) : after.flushes = sink.flushes := by
  unfold flush at flushed
  dsimp only at flushed
  split at flushed
  · simp only [Prod.mk.injEq] at flushed
    rw [← flushed.2]
  · simp at flushed

/-- Flushes are tried by flushing alone. -/
theorem tried_of_write {sink after : Sink} {offered : Bytes} {outcome : WriteOutcome}
    (wrote : sink.write offered = (outcome, after)) : after.flushesTried = sink.flushesTried := by
  unfold write at wrote
  split at wrote
  · cases wrote
    rfl
  · dsimp only at wrote
    split at wrote
    · cases wrote
      rfl
    · cases wrote
      rfl

theorem tried_of_writeAll (sink : Sink) (offered : Bytes) :
    (sink.writeAll offered).2.flushesTried = sink.flushesTried := by
  fun_induction writeAll sink offered with
  | case1 => rfl
  | case2 sink byte rest after result _ ih => exact ih.trans (tried_of_write result)
  | case3 sink byte rest after result => exact tried_of_write result
  | case4 sink byte rest count after result ih => exact ih.trans (tried_of_write result)
  | case5 sink byte rest fault after result => exact tried_of_write result

theorem tried_of_flush {sink after : Sink} {result : Except Fault Unit}
    (flushed : sink.flush = (result, after)) : after.flushesTried = sink.flushesTried + 1 := by
  unfold flush at flushed
  dsimp only at flushed
  split at flushed
  · cases flushed
    rfl
  · cases flushed
    rfl

/-- A flush succeeds unless the sink has a fault for it. -/
theorem flush_eq_ok {sink after : Sink} {result : Except Fault Unit}
    (flushed : sink.flush = (result, after)) :
    result = .ok () ↔ sink.behaviour.flushFault sink.flushesTried = none := by
  unfold flush at flushed
  dsimp only at flushed
  split at flushed
  · rename_i kind fails
    cases flushed
    rw [fails]
    constructor
    · intro ok
      cases ok
    · intro none
      cases none
  · rename_i works
    cases flushed
    rw [works]
    exact ⟨fun _ => rfl, fun _ => rfl⟩

/-! ## What a failure leaves out -/

/-- A sink that fails did not take all that was offered. -/
theorem length_lt_of_writeAll {sink : Sink} {offered : Bytes}
    (failed : (sink.writeAll offered).1 ≠ .ok ()) :
    (sink.writeAll offered).2.bytes.length < sink.bytes.length + offered.length := by
  fun_induction writeAll sink offered with
  | case1 => exact absurd rfl failed
  | case2 sink byte rest after result _ ih =>
    rcases bytes_of_write result with ⟨count, wrote, -⟩ | ⟨-, same⟩
    · cases wrote
    · rw [← same]
      exact ih failed
  | case3 sink byte rest after result =>
    rcases bytes_of_write result with ⟨count, wrote, -, bytes⟩ | ⟨differs, -⟩
    · cases wrote
      simp [bytes]
    · exact absurd rfl (differs 0)
  | case4 sink byte rest count after result ih =>
    rcases bytes_of_write result with ⟨taken, wrote, within, bytes⟩ | ⟨differs, -⟩
    · cases wrote
      have fewer := ih failed
      simp only [bytes, List.length_append, List.length_take, List.length_drop,
        List.length_cons] at fewer within ⊢
      omega
    · exact absurd rfl (differs (count + 1))
  | case5 sink byte rest fault after result =>
    rcases bytes_of_write result with ⟨count, wrote, -⟩ | ⟨-, same⟩
    · cases wrote
    · simp [same]

/-! ## What never fails -/

/-- A sink that accepts everything is either interrupted or takes at least a byte. -/
theorem write_of_accepts {sink after : Sink} {byte : UInt8} {rest : Bytes} {outcome : WriteOutcome}
    (accepts : sink.behaviour.Accepts) (wrote : sink.write (byte :: rest) = (outcome, after)) :
    outcome = .interrupted ∨ ∃ count, outcome = .wrote (count + 1) := by
  unfold write at wrote
  split at wrote
  · simp only [Prod.mk.injEq] at wrote
    exact .inl wrote.1.symm
  · dsimp only at wrote
    obtain ⟨count, positive, takes⟩ := accepts.takes sink.answers sink.taken.size
    rw [takes] at wrote
    simp only [Prod.mk.injEq] at wrote
    obtain ⟨rfl, -⟩ := wrote
    obtain ⟨less, rfl⟩ : ∃ less, count = less + 1 := ⟨count - 1, by omega⟩
    exact .inr ⟨_, by rw [List.take_succ_cons, List.length_cons]⟩

theorem writeAll_of_accepts (sink : Sink) (offered : Bytes) (accepts : sink.behaviour.Accepts) :
    (sink.writeAll offered).1 = .ok () := by
  fun_induction writeAll sink offered with
  | case1 => rfl
  | case2 sink byte rest after result _ ih => exact ih ((frame_of_write result).1 ▸ accepts)
  | case3 sink byte rest after result =>
    rcases write_of_accepts accepts result with same | ⟨count, same⟩ <;> simp at same
  | case4 sink byte rest count after result ih => exact ih ((frame_of_write result).1 ▸ accepts)
  | case5 sink byte rest fault after result =>
    rcases write_of_accepts accepts result with same | ⟨count, same⟩ <;> simp at same

theorem flush_of_accepts (sink : Sink) (accepts : sink.behaviour.Accepts) :
    sink.flush.1 = .ok () := by
  unfold flush
  rw [accepts.flushes]

end BurstRelay.Sink

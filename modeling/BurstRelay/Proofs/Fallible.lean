/-!
# Chains of steps that can fail

A decoder is a chain of steps, and it succeeds exactly when each of its steps does. The lemmas here
take such a chain apart, so that no proof about a decoder opens the monad it is written in.
-/

namespace BurstRelay.Fallible

variable {ε ε' α β : Type}

/-- A chain succeeds exactly when its first step does and the others do on what it gives. -/
theorem bind_eq_ok {first : Except ε α} {next : α → Except ε β} {result : β} :
    (first >>= next) = .ok result ↔ ∃ value, first = .ok value ∧ next value = .ok result := by
  cases first with
  | error fault => simp [bind, Except.bind]
  | ok value => simp [bind, Except.bind]

theorem pure_eq_ok {value result : α} :
    (pure value : Except ε α) = .ok result ↔ value = result := by
  simp [pure, Except.pure]

theorem pure_pair_eq_ok {value result : α} {rest behind : β} :
    (pure (value, rest) : Except ε (α × β)) = .ok (result, behind) ↔
      value = result ∧ rest = behind := by
  rw [pure_eq_ok, Prod.mk.injEq]

theorem map_eq_ok {change : α → β} {first : Except ε α} {result : β} :
    first.map change = .ok result ↔ ∃ value, first = .ok value ∧ change value = result := by
  cases first with
  | error fault => simp [Except.map]
  | ok value => simp [Except.map]

theorem mapError_eq_ok {change : ε → ε'} {first : Except ε α} {result : α} :
    first.mapError change = .ok result ↔ first = .ok result := by
  cases first with
  | error fault =>
    show Except.error (change fault) = .ok result ↔ Except.error fault = .ok result
    simp
  | ok value =>
    show Except.ok value = .ok result ↔ Except.ok value = .ok result
    simp

/-- A step that succeeds on each value of a list does so on all of them in turn. -/
theorem mapM_of_ok {step : α → Except ε β} {result : α → β} {values : List α}
    (each : ∀ value ∈ values, step value = .ok (result value)) :
    values.mapM step = .ok (values.map result) := by
  induction values with
  | nil => rfl
  | cons value values ih =>
    rw [List.forall_mem_cons] at each
    rw [List.mapM_cons, each.1, ih each.2]
    rfl

end BurstRelay.Fallible

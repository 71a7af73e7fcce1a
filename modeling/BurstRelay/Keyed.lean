/-!
# Keyed values

A table of keyed values is a list of pairs in the order in which their keys came first. Putting a
value under a key replaces the value that is there, or adds the pair at the end.
-/

namespace BurstRelay

/-- A table of keyed values. -/
abbrev Keyed (α : Type) := List (String × α)

namespace Keyed

variable {α : Type}

def put (key : String) (value : α) : Keyed α → Keyed α
  | [] => [(key, value)]
  | (first, old) :: rest =>
    if first = key then (first, value) :: rest else (first, old) :: put key value rest

/-- What was put under a key is there. -/
@[simp] theorem lookup_put_self (key : String) (value : α) (table : Keyed α) :
    List.lookup key (put key value table) = some value := by
  induction table with
  | nil => simp [put]
  | cons entry rest ih =>
    obtain ⟨first, old⟩ := entry
    by_cases same : first = key
    · simp [put, same]
    · have other : (key == first) = false := by simpa using Ne.symm same
      simp [put, same, List.lookup_cons, other, ih]

/-- What is under other keys stays there. -/
theorem lookup_put_of_ne {key other : String} (differ : other ≠ key) (value : α)
    (table : Keyed α) : List.lookup other (put key value table) = List.lookup other table := by
  induction table with
  | nil => simp [put, List.lookup_cons, beq_eq_false_iff_ne.mpr differ]
  | cons entry rest ih =>
    obtain ⟨first, old⟩ := entry
    by_cases same : first = key
    · subst same
      simp [put, List.lookup_cons, beq_eq_false_iff_ne.mpr differ]
    · simp only [put, same, if_false, List.lookup_cons, ih]

end Keyed

end BurstRelay

import Mathlib.Data.String.Basic
import BurstRelay.Relay.Statistics

/-!
# Tallies

A tally is kept by adding one kind after the other. `Tally.Counts` says that it is right about a list
of kinds: it has each kind that occurs in the list, with the number of times it does, and no other
one. The order of the kinds is what makes that a statement about all of the tally and not only about
what looking up finds, since a kind that stood in it twice would be counted twice in the total.

`Tally.Counts.foldl` is the invariant: adding kinds to a tally that is right leaves one that is right
about them too.
-/

namespace BurstRelay

namespace Tally

/-- The kinds of a tally are in order, so that none of them stands in it twice. -/
def Ordered (tally : Tally) : Prop := tally.Pairwise fun first second => first.1 < second.1

/-- A tally counts kinds: each kind that occurs has an entry, and no other one has. -/
structure Counts (kinds : List String) (tally : Tally) : Prop where
  ordered : tally.Ordered
  /-- What looking up a kind finds. -/
  lookup : ∀ kind, List.lookup kind tally =
    if kinds.count kind = 0 then none else some (kinds.count kind)
  total : tally.total = kinds.length

/-! ## Looking up -/

theorem lookup_cons_of_ne {kind first : String} (differs : kind ≠ first) (count : Nat)
    (rest : Tally) : List.lookup kind ((first, count) :: rest) = List.lookup kind rest := by
  have unequal : (kind == first) = false := by simpa using differs
  rw [List.lookup_cons, unequal]

theorem lookup_cons_self (kind : String) (count : Nat) (rest : Tally) :
    List.lookup kind ((kind, count) :: rest) = some count := by
  rw [List.lookup_cons, beq_self_eq_true]

/-- A kind that comes before all kinds of a tally is not in it. -/
theorem lookup_of_lt {kind : String} {tally : Tally} (before : ∀ entry ∈ tally, kind < entry.1) :
    List.lookup kind tally = none := by
  induction tally with
  | nil => rfl
  | cons entry rest ih =>
    rw [List.forall_mem_cons] at before
    rw [lookup_cons_of_ne before.1.ne]
    exact ih before.2

theorem count_cons_of_ne {kind first : String} (differs : kind ≠ first) (count : Nat)
    (rest : Tally) : Tally.count kind ((first, count) :: rest) = Tally.count kind rest := by
  unfold Tally.count
  rw [lookup_cons_of_ne differs]

/-! ## Adding a kind -/

/-- Adding a kind changes what looking up that kind finds, and nothing else. -/
theorem lookup_add (kind other : String) {tally : Tally} (ordered : tally.Ordered) :
    List.lookup other (tally.add kind) =
      if other = kind then some (tally.count kind + 1) else List.lookup other tally := by
  -- on the entries: the kind is the first one, comes before it, or is added behind it
  induction tally with
  | nil =>
    show List.lookup other [(kind, 1)] = _
    by_cases same : other = kind
    · subst same
      rw [lookup_cons_self, if_pos rfl]
      rfl
    · rw [lookup_cons_of_ne same, if_neg same]
  | cons entry rest ih =>
    obtain ⟨first, count⟩ := entry
    obtain ⟨before, orderedRest⟩ := List.pairwise_cons.mp ordered
    unfold add
    by_cases here : kind = first
    · subst here
      rw [if_pos rfl]
      by_cases same : other = kind
      · subst same
        rw [lookup_cons_self, if_pos rfl, Tally.count, lookup_cons_self]
        rfl
      · rw [lookup_cons_of_ne same, if_neg same, lookup_cons_of_ne same]
    · rw [if_neg here]
      by_cases earlier : kind < first
      · rw [if_pos earlier]
        by_cases same : other = kind
        · -- the tally is in order, so that the kind cannot come later
          subst same
          have absent : List.lookup other ((first, count) :: rest) = none := by
            apply lookup_of_lt
            rw [List.forall_mem_cons]
            refine ⟨earlier, ?_⟩
            intro entry member
            exact earlier.trans (before entry member)
          rw [lookup_cons_self, if_pos rfl, Tally.count, absent]
          rfl
        · rw [lookup_cons_of_ne same, if_neg same]
      · rw [if_neg earlier]
        by_cases atFirst : other = first
        · subst atFirst
          rw [lookup_cons_self, lookup_cons_self, if_neg (Ne.symm here)]
        · rw [lookup_cons_of_ne atFirst, lookup_cons_of_ne atFirst, ih orderedRest,
            count_cons_of_ne here]

/-- Adding a kind adds no other kind. -/
theorem mem_add {kind : String} {tally : Tally} {entry : String × Nat}
    (member : entry ∈ tally.add kind) :
    entry.1 = kind ∨ ∃ before ∈ tally, entry.1 = before.1 := by
  induction tally with
  | nil =>
    have only : entry = (kind, 1) := List.mem_singleton.mp member
    exact .inl (congrArg Prod.fst only)
  | cons head rest ih =>
    obtain ⟨first, count⟩ := head
    unfold add at member
    split at member
    · rename_i here
      rcases List.mem_cons.mp member with rfl | later
      · exact .inl here.symm
      · exact .inr ⟨entry, List.mem_cons_of_mem _ later, rfl⟩
    · split at member
      · rcases List.mem_cons.mp member with rfl | later
        · exact .inl rfl
        · exact .inr ⟨entry, later, rfl⟩
      · rcases List.mem_cons.mp member with rfl | later
        · exact .inr ⟨_, List.mem_cons_self, rfl⟩
        · rcases ih later with same | ⟨before, among, same⟩
          · exact .inl same
          · exact .inr ⟨before, List.mem_cons_of_mem _ among, same⟩

theorem ordered_add (kind : String) {tally : Tally} (ordered : tally.Ordered) :
    (tally.add kind).Ordered := by
  induction tally with
  | nil => exact List.pairwise_singleton _ _
  | cons head rest ih =>
    obtain ⟨first, count⟩ := head
    obtain ⟨before, orderedRest⟩ := List.pairwise_cons.mp ordered
    unfold add
    by_cases here : kind = first
    · rw [if_pos here]
      exact List.pairwise_cons.mpr ⟨before, orderedRest⟩
    · rw [if_neg here]
      by_cases earlier : kind < first
      · rw [if_pos earlier]
        refine List.pairwise_cons.mpr ⟨?_, ordered⟩
        rw [List.forall_mem_cons]
        refine ⟨earlier, ?_⟩
        intro entry member
        exact earlier.trans (before entry member)
      · rw [if_neg earlier]
        -- the first entry stays first, because it comes before the kind as well
        have later : first < kind := lt_of_le_of_ne (not_lt.mp earlier) (Ne.symm here)
        refine List.pairwise_cons.mpr ⟨?_, ih orderedRest⟩
        intro entry member
        rcases mem_add member with same | ⟨old, among, same⟩
        · rw [same]
          exact later
        · rw [same]
          exact before old among

theorem ordered_foldl (kinds : List String) {tally : Tally} (ordered : tally.Ordered) :
    (kinds.foldl (fun tally kind => tally.add kind) tally).Ordered := by
  induction kinds generalizing tally with
  | nil => exact ordered
  | cons kind kinds ih => exact ih (ordered_add kind ordered)

theorem total_add (kind : String) (tally : Tally) : (tally.add kind).total = tally.total + 1 := by
  induction tally with
  | nil => rfl
  | cons head rest ih =>
    obtain ⟨first, count⟩ := head
    unfold add
    split
    · show count + 1 + Tally.total rest = count + Tally.total rest + 1
      omega
    · split
      · show 1 + (count + Tally.total rest) = count + Tally.total rest + 1
        omega
      · show count + Tally.total (Tally.add kind rest) = count + Tally.total rest + 1
        omega

/-! ## Tallies that are right -/

namespace Counts

variable {kinds : List String} {tally : Tally}

theorem nil : Counts [] [] := ⟨List.Pairwise.nil, fun _ => rfl, rfl⟩

theorem count_eq (counts : Counts kinds tally) (kind : String) :
    tally.count kind = kinds.count kind := by
  unfold Tally.count
  rw [counts.lookup]
  split
  · rename_i absent
    exact absent.symm
  · rfl

theorem add (counts : Counts kinds tally) (kind : String) :
    Counts (kinds ++ [kind]) (tally.add kind) where
  ordered := ordered_add kind counts.ordered
  lookup := by
    intro other
    rw [lookup_add kind other counts.ordered, List.count_append]
    by_cases same : other = kind
    · subst same
      rw [if_pos rfl, counts.count_eq, List.count_singleton_self, if_neg (by omega)]
    · have unequal : ¬ (kind == other) = true := by simpa using Ne.symm same
      rw [if_neg same, counts.lookup, List.count_singleton, if_neg unequal, Nat.add_zero]
  total := by
    rw [total_add, counts.total, List.length_append, List.length_singleton]

/-- A tally stays right when more kinds are added. -/
theorem foldl (counts : Counts kinds tally) (more : List String) :
    Counts (kinds ++ more) (more.foldl (fun tally kind => tally.add kind) tally) := by
  induction more generalizing kinds tally with
  | nil =>
    rw [List.append_nil]
    exact counts
  | cons kind more ih =>
    have next := ih (counts.add kind)
    rw [List.append_assoc] at next
    exact next

end Counts

end Tally

end BurstRelay

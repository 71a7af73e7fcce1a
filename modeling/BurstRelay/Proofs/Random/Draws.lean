import BurstRelay.Random.Source

/-!
# Draws from a random source

Two draws are alike if they draw the same words and give related values (`Alike`). What is always so
of a draw is so whatever the words are (`Always`): a number that is drawn below a bound is below it.
-/

namespace BurstRelay.RandomSource

variable {State α β : Type} {draw other : Draw State α}

/-! ## Draws that are alike -/

/-- Two draws draw the same words, and what they give is related. -/
def Alike (draw other : Draw State α) (related : α → α → Prop) : Prop :=
  ∀ state, related (draw state).1 (other state).1 ∧ (draw state).2 = (other state).2

theorem Alike.bind {related : α → α → Prop} {next otherNext : α → Draw State β}
    {relatedNext : β → β → Prop} (first : Alike draw other related)
    (later : ∀ value otherValue, related value otherValue →
      Alike (next value) (otherNext otherValue) relatedNext) :
    Alike (draw >>= next) (other >>= otherNext) relatedNext := by
  intro state
  obtain ⟨values, states⟩ := first state
  have behind := later _ _ values (draw state).2
  show relatedNext (next (draw state).1 (draw state).2).1
      (otherNext (other state).1 (other state).2).1 ∧
    (next (draw state).1 (draw state).2).2 = (otherNext (other state).1 (other state).2).2
  rwa [← states]

/-- Two draws that begin with the same draw are alike if they go on alike. -/
theorem Alike.bind_same {next otherNext : α → Draw State β} {relatedNext : β → β → Prop}
    (later : ∀ value, Alike (next value) (otherNext value) relatedNext) :
    Alike (draw >>= next) (draw >>= otherNext) relatedNext := by
  intro state
  exact later (draw state).1 (draw state).2

theorem Alike.pure {value otherValue : α} {related : α → α → Prop}
    (values : related value otherValue) :
    Alike (pure value : Draw State α) (pure otherValue) related :=
  fun _ => ⟨values, rfl⟩

/-! ## What is always drawn -/

/-- What is drawn has a property, whatever the state of the source. -/
def Always (draw : Draw State α) (holds : α → Prop) : Prop := ∀ state, holds (draw state).1

variable {holds : α → Prop}

theorem Always.bind {next : α → Draw State β} {after : β → Prop} (first : Always draw holds)
    (later : ∀ value, holds value → Always (next value) after) : Always (draw >>= next) after := by
  intro state
  exact later _ (first state) (draw state).2

/-- Nothing has to be known of what is drawn first if what follows has the property anyway. -/
theorem Always.bind_any {next : α → Draw State β} {after : β → Prop}
    (later : ∀ value, Always (next value) after) : Always (draw >>= next) after := by
  intro state
  exact later _ (draw state).2

theorem Always.pure {value : α} (known : holds value) : Always (pure value : Draw State α) holds :=
  fun _ => known

theorem Always.repeated (each : Always draw holds) (count : Nat) :
    Always (repeated draw count) fun values =>
      values.length = count ∧ ∀ value ∈ values, holds value := by
  induction count with
  | zero => exact .pure ⟨rfl, by simp⟩
  | succ count ih =>
    refine each.bind fun first here => ih.bind fun others behind => .pure ⟨?_, ?_⟩
    · rw [List.length_cons, behind.1]
    · exact List.forall_mem_cons.mpr ⟨here, behind.2⟩

/-! ## Numbers -/

variable (source : RandomSource State) {width bound : Nat}

theorem word_lt (known : width = 32 ∨ width = 64) :
    Always (source.word width) fun word => word < 1 <<< width := by
  intro state
  rcases known with rfl | rfl
  · exact UInt32.toNat_lt _
  · exact UInt64.toNat_lt _

/-- The high half of the product of a word and the bound is below the bound. -/
theorem tryBelow_lt (known : width = 32 ∨ width = 64) (some : 0 < bound) (zone tries : Nat) :
    Always (source.tryBelow width bound zone tries) fun number => number < bound := by
  induction tries with
  | zero => exact .pure some
  | succ tries ih =>
    refine (source.word_lt known).bind fun word within => ?_
    dsimp only
    split
    · refine .pure ?_
      rw [Nat.shiftRight_eq_div_pow]
      rw [Nat.one_shiftLeft] at within
      apply Nat.div_lt_of_lt_mul
      exact Nat.mul_lt_mul_of_pos_right within some
    · exact ih

theorem below_lt (known : width = 32 ∨ width = 64) (some : 0 < bound) :
    Always (source.below width bound) fun number => number < bound :=
  source.tryBelow_lt known some _ _

theorem byteBelow_lt (some : 0 < bound) :
    Always (source.byteBelow bound) fun number => number < bound :=
  source.tryBelow_lt (.inl rfl) some _ _

end BurstRelay.RandomSource

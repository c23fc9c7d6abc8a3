import Mathlib.Algebra.BigOperators.Intervals
import Mathlib.Algebra.Order.BigOperators.Group.Finset
import Mathlib.Tactic.Abel

/-! Staircases: what a total buys when each step has its own cost.

Step `level` costs `cost level`. A total spent from a starting step buys the steps up to some
level and leaves a rest that does not pay for the next one. Level and rest are determined by the
total, so it does not matter in how many parts the total comes.
-/

set_option autoImplicit false

namespace Staircase

variable {R : Type} [AddCommGroup R] [LinearOrder R]

/-- A total spent from step `start` on reaches `level` and leaves `rest`. -/
structure Reaches (cost : ℕ → R) (start : ℕ) (total : R) (level : ℕ) (rest : R) : Prop where
  climbed : start ≤ level
  paid : ∑ step ∈ Finset.Ico start level, cost step + rest = total
  nonneg : 0 ≤ rest
  below : rest < cost level

variable {cost : ℕ → R} {start level other : ℕ} {total rest left more : R}

theorem Reaches.stay (nonneg : 0 ≤ total) (below : total < cost start) :
    Reaches cost start total start total :=
  ⟨le_rfl, by simp, nonneg, below⟩

theorem Reaches.step (rising : Reaches cost (start + 1) (total - cost start) level rest) :
    Reaches cost start total level rest where
  climbed := (Nat.le_succ start).trans rising.climbed
  paid := by
    rw [Finset.sum_eq_sum_Ico_succ_bot (Nat.lt_of_succ_le rising.climbed), add_assoc, rising.paid,
      add_sub_cancel]
  nonneg := rising.nonneg
  below := rising.below

theorem Reaches.trans (first : Reaches cost start total level rest)
    (second : Reaches cost level (rest + more) other left) : Reaches cost start (total + more) other left where
  climbed := first.climbed.trans second.climbed
  paid := by
    rw [← Finset.sum_Ico_consecutive cost first.climbed second.climbed, add_assoc, second.paid, ← add_assoc,
      first.paid]
  nonneg := second.nonneg
  below := second.below

variable [IsOrderedAddMonoid R]

theorem Reaches.level_le (nonneg : ∀ step, 0 ≤ cost step) (low : Reaches cost start total level rest)
    (high : Reaches cost start total other left) : other ≤ level := by
  by_contra above
  have next : level + 1 ≤ other := by omega
  have steps : ∑ step ∈ Finset.Ico start level, cost step + cost level ≤
      ∑ step ∈ Finset.Ico start other, cost step := by
    rw [← Finset.sum_Ico_succ_top low.climbed]
    exact Finset.sum_le_sum_of_subset_of_nonneg (Finset.Ico_subset_Ico le_rfl next) fun step _ _ => nonneg step
  have more : ∑ step ∈ Finset.Ico start level, cost step + rest <
      ∑ step ∈ Finset.Ico start other, cost step + left :=
    calc
      _ < ∑ step ∈ Finset.Ico start level, cost step + cost level := by gcongr; exact low.below
      _ ≤ ∑ step ∈ Finset.Ico start other, cost step := steps
      _ ≤ _ := le_add_of_nonneg_right high.nonneg
  rw [low.paid, high.paid] at more
  exact lt_irrefl _ more

theorem Reaches.unique (nonneg : ∀ step, 0 ≤ cost step) (one : Reaches cost start total level rest)
    (two : Reaches cost start total other left) : level = other ∧ rest = left := by
  have same : level = other := le_antisymm (two.level_le nonneg one) (one.level_le nonneg two)
  refine ⟨same, ?_⟩
  have paid := one.paid.trans two.paid.symm
  rw [same] at paid
  exact add_left_cancel paid

end Staircase

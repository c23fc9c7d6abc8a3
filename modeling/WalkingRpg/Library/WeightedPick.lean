import Mathlib.Algebra.Order.BigOperators.Group.List
import Mathlib.Algebra.Order.Field.Basic
import Mathlib.Order.Interval.Set.Defs
import Mathlib.Tactic.Linarith
import WalkingRpg.Library.Sampling

/-! Weighted picks: at which entry the subtract-and-test loop stops.

The weights cut the range from zero to their sum into intervals, one for each entry. The loop stops
at the entry whose interval holds the roll, and an interval holds its upper end. So a draw scaled
by the sum picks an entry in proportion to its weight, and a table that moves weight to its later
entries never picks an earlier one.
-/

set_option autoImplicit false

namespace WeightedPick

open Sampling (pickLoop)

variable {K : Type} [Field K] {weights : List K} {roll draw : K} {i j : ℕ}

def before (weights : List K) (i : ℕ) : K := (weights.take i).sum

def share (weights : List K) (i : ℕ) : K := before weights i / weights.sum

@[simp] theorem before_zero (weights : List K) : before weights 0 = 0 := by simp [before]

@[simp] theorem before_cons (weight : K) (rest : List K) (i : ℕ) :
    before (weight :: rest) (i + 1) = weight + before rest i := by
  simp [before]

theorem before_succ (inside : i < weights.length) :
    before weights (i + 1) = before weights i + weights[i] :=
  List.sum_take_succ weights i inside

theorem before_of_length_le (long : weights.length ≤ i) : before weights i = weights.sum := by
  rw [before, List.take_of_length_le long]

theorem share_of_length_le (total : weights.sum ≠ 0) (long : weights.length ≤ i) : share weights i = 1 := by
  rw [share, before_of_length_le long, div_self total]

variable [LinearOrder K]

/-- The index at which the loop stops. -/
def pickIndex : List K → K → Option ℕ
  | [], _ => none
  | weight :: rest, roll =>
    if roll - weight ≤ 0 then some 0 else (pickIndex rest (roll - weight)).map Nat.succ

variable [IsStrictOrderedRing K]

theorem before_le (nonneg : ∀ weight ∈ weights, 0 ≤ weight) (le : i ≤ j) :
    before weights i ≤ before weights j := by
  induction j, le using Nat.le_induction with
  | base => exact le_rfl
  | succ j _ ih =>
    refine ih.trans ?_
    by_cases inside : j < weights.length
    · have weight := nonneg _ (List.getElem_mem inside)
      rw [before_succ inside]
      linarith
    · rw [before_of_length_le (not_lt.mp inside), before_of_length_le (by omega)]

theorem pickLoop_eq {α : Type} (entries : List (α × ℚ)) (roll : ℚ) :
    pickLoop entries roll =
      (pickIndex (entries.map Prod.snd) roll).bind fun i => entries[i]?.map Prod.fst := by
  induction entries generalizing roll with
  | nil => rfl
  | cons entry rest ih =>
    unfold pickLoop
    simp only [List.map_cons, pickIndex]
    split
    · rfl
    · rw [ih, Option.bind_map]
      rfl

theorem pickIndex_eq_some_iff :
    pickIndex weights roll = some i ↔
      i < weights.length ∧ (∀ j, 0 < j → j ≤ i → before weights j < roll) ∧
        roll ≤ before weights (i + 1) := by
  induction weights generalizing roll i with
  | nil => simp [pickIndex]
  | cons weight rest ih =>
    unfold pickIndex
    split
    · rename_i reached
      have stops : roll ≤ before (weight :: rest) (0 + 1) := by simpa using reached
      constructor
      · intro here
        cases Option.some.inj here
        exact ⟨Nat.succ_pos _, fun j positive atMost => absurd positive (by omega), stops⟩
      · rintro ⟨_, passed, _⟩
        cases i with
        | zero => rfl
        | succ i => exact absurd stops (not_le.mpr (passed 1 Nat.one_pos (by omega)))
    · rename_i short
      have goes : weight < roll := by linarith
      cases i with
      | zero =>
        have beyond : ¬roll ≤ before (weight :: rest) (0 + 1) := by simpa using goes
        exact ⟨fun here => by simp at here, fun ⟨_, _, within⟩ => absurd within beyond⟩
      | succ i =>
        have shift : ((pickIndex rest (roll - weight)).map Nat.succ = some (i + 1)) ↔
            pickIndex rest (roll - weight) = some i := by
          simp
        rw [shift, ih, List.length_cons, before_cons, Nat.add_lt_add_iff_right, sub_le_iff_le_add']
        refine and_congr_right fun _ => and_congr_left fun _ => ⟨fun passed j positive atMost => ?_,
          fun passed j positive atMost => ?_⟩
        · -- The head is passed, and what is behind it by the rest of the loop.
          cases j with
          | zero => exact absurd positive (lt_irrefl 0)
          | succ j =>
            rw [before_cons]
            cases j with
            | zero => simpa using goes
            | succ j => exact lt_sub_iff_add_lt'.mp (passed (j + 1) (by omega) (by omega))
        · have later := passed (j + 1) (by omega) (by omega)
          rw [before_cons] at later
          exact lt_sub_iff_add_lt'.mpr later

theorem exists_pickIndex (stocked : weights ≠ []) (within : roll ≤ weights.sum) :
    ∃ i, pickIndex weights roll = some i := by
  induction weights generalizing roll with
  | nil => exact absurd rfl stocked
  | cons weight rest ih =>
    unfold pickIndex
    split
    · exact ⟨0, rfl⟩
    · rename_i short
      rw [List.sum_cons] at within
      have more : rest ≠ [] := by
        rintro rfl
        rw [List.sum_nil] at within
        linarith
      obtain ⟨i, found⟩ := ih more (by linarith : roll - weight ≤ rest.sum)
      exact ⟨i + 1, by rw [found]; rfl⟩

theorem weight_pos_of_pickIndex (first : ∀ weight ∈ weights.head?, 0 < weight)
    (picked : pickIndex weights roll = some i) (inside : i < weights.length) : 0 < weights[i] := by
  obtain ⟨_, passed, within⟩ := pickIndex_eq_some_iff.mp picked
  cases i with
  | zero => exact first _ (by rw [List.head?_eq_getElem?, List.getElem?_eq_getElem inside]; rfl)
  | succ i =>
    have below := passed (i + 1) (Nat.succ_pos i) le_rfl
    rw [before_succ inside] at within
    linarith

/-- The draw falls into the interval of the entry. A draw of zero belongs to the first. -/
structure Chosen (weights : List K) (draw : K) (i : ℕ) : Prop where
  inside : i < weights.length
  above : share weights i < draw ∨ i = 0 ∧ draw = 0
  within : draw ≤ share weights (i + 1)

theorem le_share_iff (total : 0 < weights.sum) :
    draw ≤ share weights i ↔ draw * weights.sum ≤ before weights i :=
  le_div_iff₀ total

theorem share_lt_iff (total : 0 < weights.sum) :
    share weights i < draw ↔ before weights i < draw * weights.sum :=
  div_lt_iff₀ total

theorem share_le_one (nonneg : ∀ weight ∈ weights, 0 ≤ weight) (i : ℕ) : share weights i ≤ 1 := by
  have all : before weights i ≤ weights.sum := by
    rw [← before_of_length_le (le_max_right i weights.length)]
    exact before_le nonneg (le_max_left _ _)
  exact div_le_one_of_le₀ all (List.sum_nonneg nonneg)

theorem share_nonneg (nonneg : ∀ weight ∈ weights, 0 ≤ weight) (i : ℕ) : 0 ≤ share weights i := by
  have none : before weights 0 ≤ before weights i := before_le nonneg (Nat.zero_le i)
  rw [before_zero] at none
  exact div_nonneg none (List.sum_nonneg nonneg)

section Draws

variable (nonneg : ∀ weight ∈ weights, 0 ≤ weight) (total : 0 < weights.sum) (drawn : 0 ≤ draw)

include nonneg total drawn

theorem pickIndex_iff_chosen : pickIndex weights (draw * weights.sum) = some i ↔ Chosen weights draw i := by
  rw [pickIndex_eq_some_iff]
  constructor
  · rintro ⟨inside, passed, within⟩
    refine ⟨inside, ?_, (le_share_iff total).mpr within⟩
    cases i with
    | succ i => exact .inl ((share_lt_iff total).mpr (passed _ (Nat.succ_pos i) le_rfl))
    | zero =>
      rcases drawn.eq_or_lt with zero | positive
      · exact .inr ⟨rfl, zero.symm⟩
      · exact .inl (by rwa [share, before_zero, zero_div])
  · rintro ⟨inside, above, within⟩
    refine ⟨inside, fun j positive atMost => ?_, (le_share_iff total).mp within⟩
    rcases above with above | ⟨first, _⟩
    · exact (before_le nonneg atMost).trans_lt ((share_lt_iff total).mp above)
    · omega

/-- Every draw up to one falls to exactly one entry, and that is the one picked. -/
theorem exists_chosen (below : draw ≤ 1) :
    ∃ i, pickIndex weights (draw * weights.sum) = some i ∧ ∀ j, Chosen weights draw j ↔ j = i := by
  have stocked : weights ≠ [] := by
    rintro rfl
    exact absurd total (by simp)
  obtain ⟨i, picked⟩ := exists_pickIndex stocked (mul_le_of_le_one_left total.le below)
  refine ⟨i, picked, fun j => ?_⟩
  rw [← pickIndex_iff_chosen nonneg total drawn, picked, Option.some.injEq]
  exact eq_comm

end Draws

theorem pickLoop_chosen {α : Type} {entries : List (α × ℚ)} (stocked : entries ≠ [])
    (positive : ∀ entry ∈ entries, 0 < entry.2) {draw : ℚ} (drawn : 0 ≤ draw) (below : draw ≤ 1) :
    ∃ i entry, entries[i]? = some entry ∧
      pickLoop entries (draw * (entries.map Prod.snd).sum) = some entry.1 ∧
      ∀ j, Chosen (entries.map Prod.snd) draw j ↔ j = i := by
  have weights : ∀ weight ∈ entries.map Prod.snd, 0 < weight := by
    intro weight listed
    obtain ⟨entry, present, rfl⟩ := List.mem_map.mp listed
    exact positive entry present
  have total : 0 < (entries.map Prod.snd).sum := List.sum_pos _ weights (by simpa using stocked)
  obtain ⟨i, picked, unique⟩ := exists_chosen (fun weight listed => (weights weight listed).le) total drawn below
  have inside : i < entries.length := by simpa using ((unique i).mpr rfl).inside
  refine ⟨i, entries[i], List.getElem?_eq_getElem inside, ?_, unique⟩
  rw [pickLoop_eq, picked, Option.bind_some, List.getElem?_eq_getElem inside]
  rfl

def IsIntervalOfLength (draws : Set K) (length : K) : Prop :=
  ∃ low high, high - low = length ∧ Set.Ioo low high ⊆ draws ∧ draws ⊆ Set.Icc low high

theorem isIntervalOfLength_chosen (nonneg : ∀ weight ∈ weights, 0 ≤ weight)
    (inside : i < weights.length) :
    IsIntervalOfLength {draw | 0 ≤ draw ∧ draw < 1 ∧ Chosen weights draw i} (weights[i] / weights.sum) := by
  refine ⟨share weights i, share weights (i + 1), ?_, ?_, ?_⟩
  · rw [share, share, before_succ inside, add_div, add_sub_cancel_left]
  · rintro draw ⟨above, below⟩
    exact ⟨(share_nonneg nonneg i).trans above.le, below.trans_le (share_le_one nonneg _), inside, .inl above,
      below.le⟩
  · rintro draw ⟨drawn, _, chosen⟩
    refine ⟨?_, chosen.within⟩
    rcases chosen.above with above | ⟨rfl, rfl⟩
    · exact above.le
    · simp [share]

/-- The second table has at no index more of its sum before it than the first. -/
def RisesTo (low high : List K) : Prop := ∀ i, share high i ≤ share low i

variable {low high : List K}

omit [IsStrictOrderedRing K] in
theorem risesTo_of_lt {bound : ℕ} (lowTotal : low.sum ≠ 0) (highTotal : high.sum ≠ 0)
    (lowBound : low.length ≤ bound) (highBound : high.length ≤ bound)
    (check : ∀ i < bound, share high i ≤ share low i) : RisesTo low high := by
  intro i
  by_cases inside : i < bound
  · exact check i inside
  · rw [share_of_length_le lowTotal (by omega), share_of_length_le highTotal (by omega)]

theorem RisesTo.index_le (rises : RisesTo low high) (lowTotal : 0 < low.sum) (highTotal : 0 < high.sum)
    (lowPick : pickIndex low (draw * low.sum) = some i)
    (highPick : pickIndex high (draw * high.sum) = some j) : i ≤ j := by
  by_contra earlier
  obtain ⟨_, passed, _⟩ := pickIndex_eq_some_iff.mp lowPick
  obtain ⟨_, _, reached⟩ := pickIndex_eq_some_iff.mp highPick
  have beyond := (share_lt_iff lowTotal).mpr (passed (j + 1) (Nat.succ_pos j) (by omega))
  have within := (le_share_iff highTotal).mpr reached
  exact absurd (within.trans (rises (j + 1))) (not_le.mpr beyond)

section Bands

variable {α : Type}

/-- The band of a table: the first that passes a test, and the last if none does. -/
def firstOrLast (test : α → Bool) (table : List α) : Option α := (table.find? test).or table.getLast?

theorem firstOrLast_singleton (test : α → Bool) (entry : α) : firstOrLast test [entry] = some entry := by
  by_cases passes : test entry = true <;> simp [firstOrLast, passes]

theorem firstOrLast_cons (test : α → Bool) (entry next : α) (rest : List α) :
    firstOrLast test (entry :: next :: rest) =
      if test entry = true then some entry else firstOrLast test (next :: rest) := by
  by_cases passes : test entry = true
  · simp [firstOrLast, List.find?_cons_of_pos passes, passes]
  · simp [firstOrLast, List.find?_cons_of_neg passes, passes]

theorem mem_of_firstOrLast {test : α → Bool} {table : List α} {band : α}
    (found : firstOrLast test table = some band) : band ∈ table := by
  rcases Option.or_eq_some_iff.mp found with first | ⟨_, last⟩
  · exact List.mem_of_find?_eq_some first
  · exact List.mem_of_getLast? last

theorem firstOrLast_earlier {earlier : α → α → Prop} {table : List α} (ordered : table.Pairwise earlier)
    {strict lax : α → Bool} (weaker : ∀ entry, strict entry = true → lax entry = true) {first second : α}
    (strictly : firstOrLast strict table = some first) (laxly : firstOrLast lax table = some second) :
    second = first ∨ earlier second first := by
  induction table with
  | nil => cases strictly
  | cons entry rest ih =>
    obtain ⟨head, tail⟩ := List.pairwise_cons.mp ordered
    cases rest with
    | nil =>
      rw [firstOrLast_singleton] at strictly laxly
      exact .inl (Option.some.inj (laxly.symm.trans strictly))
    | cons next rest =>
      rw [firstOrLast_cons] at strictly laxly
      by_cases passes : strict entry = true
      · rw [if_pos passes] at strictly
        rw [if_pos (weaker entry passes)] at laxly
        exact .inl (Option.some.inj (laxly.symm.trans strictly))
      · rw [if_neg passes] at strictly
        by_cases stops : lax entry = true
        · rw [if_pos stops] at laxly
          cases Option.some.inj laxly
          exact .inr (head first (mem_of_firstOrLast strictly))
        · rw [if_neg stops] at laxly
          exact ih tail strictly laxly

end Bands

end WeightedPick

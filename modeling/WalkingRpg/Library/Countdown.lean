import Mathlib.Algebra.BigOperators.Fin
import Mathlib.Algebra.BigOperators.Group.List.Basic

/-! Entries that expire.

A list of entries is ticked as a whole: each entry passes to its next state or expires. Items cast
at different times leave their entries in one list, newest last; each entry is found there in the
state that the ticks since its cast have left it in.
-/

set_option autoImplicit false

namespace Countdown

variable {Entry Item : Type}

def after (tick : Entry → Option Entry) : ℕ → Entry → Option Entry
  | 0, entry => some entry
  | count + 1, entry => (after tick count entry).bind tick

/-- What is left of the entries that the items cast, when the list is ticked before each cast. -/
def standing (tick : Entry → Option Entry) (cast : Item → List Entry) : List Item → List Entry
  | [] => []
  | item :: later => (cast item).filterMap (after tick later.length) ++ standing tick cast later

variable {tick : Entry → Option Entry} {cast : Item → List Entry}

theorem filterMap_after_succ (entries : List Entry) (count : ℕ) :
    (entries.filterMap (after tick count)).filterMap tick = entries.filterMap (after tick (count + 1)) := by
  rw [List.filterMap_filterMap]
  rfl

theorem standing_snoc (items : List Item) (item : Item) :
    standing tick cast (items ++ [item]) = (standing tick cast items).filterMap tick ++ cast item := by
  induction items with
  | nil => simp [standing, after]
  | cons first later ih =>
    simp only [List.cons_append, standing, ih, List.length_append, List.length_singleton, List.filterMap_append,
      filterMap_after_succ, List.append_assoc]

theorem iterate_filterMap (entries : List Entry) (count : ℕ) :
    (List.filterMap tick)^[count] entries = entries.filterMap (after tick count) := by
  induction count with
  | zero => simp [after]
  | succ count ih => rw [Function.iterate_succ_apply', ih, filterMap_after_succ]

section Worth

variable {M : Type} [AddCommMonoid M] (worth : Entry → M)

/-- What an entry is worth after a number of ticks; an expired one is worth nothing. -/
def worthAfter (tick : Entry → Option Entry) (count : ℕ) (entry : Entry) : M :=
  ((after tick count entry).map worth).getD 0

theorem sum_filterMap_after (entries : List Entry) (count : ℕ) :
    ((entries.filterMap (after tick count)).map worth).sum = (entries.map (worthAfter worth tick count)).sum := by
  induction entries with
  | nil => rfl
  | cons entry entries ih =>
    rw [List.map_cons, List.sum_cons, ← ih, worthAfter]
    cases left : after tick count entry with
    | none => simp [left]
    | some remaining => simp [left]

theorem sum_standing (items : List Item) :
    ((standing tick cast items).map worth).sum =
      ∑ i : Fin items.length, ((cast (items.get i)).map (worthAfter worth tick (items.length - 1 - i))).sum := by
  induction items with
  | nil => rfl
  | cons item later ih =>
    rw [standing, List.map_append, List.sum_append, ih, sum_filterMap_after]
    simp only [List.length_cons]
    rw [Fin.sum_univ_succ]
    have shift : ∀ i : Fin later.length, later.length - ((i : ℕ) + 1) = later.length - 1 - i := by
      intro i
      omega
    simp [shift]

theorem sum_range_standing (entries : List Entry) (count : ℕ) :
    ∑ j ∈ Finset.range count, (((List.filterMap tick)^[j] entries).map worth).sum =
      (entries.map fun entry => ∑ j ∈ Finset.range count, worthAfter worth tick j entry).sum := by
  induction count with
  | zero => simp
  | succ count ih =>
    rw [Finset.sum_range_succ, ih, iterate_filterMap, sum_filterMap_after, ← List.sum_map_add]
    simp only [Finset.sum_range_succ]

end Worth

end Countdown

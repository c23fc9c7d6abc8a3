import Mathlib.Algebra.BigOperators.Group.Multiset.Basic
import Mathlib.Tactic.Abel

/-! Rows of optional slots and the multiset of what they hold.

Conservation arguments compare multisets before and after a slot is written.
The laws are additive: what the slot held moves to the other side.
-/

set_option autoImplicit false

namespace Slots

variable {α : Type}

/-- What one slot holds, as a multiset of at most one element. -/
def held : Option α → Multiset α
  | none => 0
  | some item => {item}

def contents (slots : List (Option α)) : Multiset α := (slots.map held).sum

def firstEmpty (slots : List (Option α)) : Option Nat := slots.findIdx? Option.isNone

@[simp] theorem held_none : held (none : Option α) = 0 := rfl

@[simp] theorem held_some (item : α) : held (some item) = {item} := rfl

@[simp] theorem contents_nil : contents ([] : List (Option α)) = 0 := rfl

@[simp] theorem contents_cons (slot : Option α) (slots : List (Option α)) :
    contents (slot :: slots) = held slot + contents slots := by
  simp [contents]

@[simp] theorem contents_replicate_none (n : Nat) :
    contents (List.replicate n (none : Option α)) = 0 := by
  simp [contents]

theorem length_filled {β : Type} (row : List β) (filler : β) (size : Nat) :
    ((row ++ List.replicate (size - row.length) filler).take size).length = size := by
  simp only [List.length_take, List.length_append, List.length_replicate]
  omega

theorem contents_set {slots : List (Option α)} {i : Nat} {old : Option α} (new : Option α)
    (found : slots[i]? = some old) :
    contents (slots.set i new) + held old = contents slots + held new := by
  induction slots generalizing i with
  | nil => simp at found
  | cons slot slots ih =>
    cases i with
    | zero =>
      have same : slot = old := by simpa using found
      simp only [List.set_cons_zero, contents_cons, same]
      abel
    | succ i =>
      have rest := ih (i := i) (by simpa using found)
      simp only [List.set_cons_succ, contents_cons, add_assoc, rest]

theorem mem_contents {slots : List (Option α)} {item : α} :
    item ∈ contents slots ↔ some item ∈ slots := by
  induction slots with
  | nil => simp
  | cons slot slots ih =>
    cases slot with
    | none => simp [ih]
    | some other => simp [ih]

theorem getElem?_firstEmpty {slots : List (Option α)} {i : Nat} (found : firstEmpty slots = some i) :
    slots[i]? = some none := by
  obtain ⟨bound, empty, _⟩ := List.findIdx?_eq_some_iff_getElem.mp found
  rw [List.getElem?_eq_getElem bound]
  simpa using empty

theorem exists_firstEmpty {slots : List (Option α)} {i : Nat} (empty : slots[i]? = some none) :
    ∃ j, firstEmpty slots = some j := by
  apply Option.isSome_iff_exists.mp
  rw [firstEmpty, List.findIdx?_isSome]
  exact List.any_eq_true.mpr ⟨none, List.mem_of_getElem? empty, rfl⟩

end Slots

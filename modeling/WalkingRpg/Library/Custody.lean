import Mathlib.Logic.ExistsUnique

/-! Tokens that are in one place each.

A step of a system moves at most one token, along a relation of legal moves, or lets a
new one enter. Whatever was in exactly one place then stays in exactly one place.
-/

set_option autoImplicit false

namespace Custody

variable {Token Place : Type} {before after : Token → Place → Prop}

/-- One token goes from one place to another; nothing else changes. -/
structure Transfer (before after : Token → Place → Prop) (token : Token) (source target : Place) : Prop where
  left : before token source
  places : ∀ other place, after other place ↔
    before other place ∧ ¬(other = token ∧ place = source) ∨ other = token ∧ place = target

structure Entry (before after : Token → Place → Prop) (token : Token) (target : Place) : Prop where
  absent : ∀ place, ¬before token place
  places : ∀ other place, after other place ↔ before other place ∨ other = token ∧ place = target

/-- What one step does to the tokens that are there. -/
inductive Step (legal : Place → Place → Prop) (before after : Token → Place → Prop) : Prop where
  | stay (same : ∀ token place, after token place ↔ before token place) : Step legal before after
  | moved {token : Token} {source target : Place} (allowed : legal source target)
      (transfer : Transfer before after token source target) : Step legal before after

variable {legal : Place → Place → Prop} {token other : Token} {source target place : Place}

theorem Transfer.arrived (transfer : Transfer before after token source target) : after token target :=
  (transfer.places token target).mpr (.inr ⟨rfl, rfl⟩)

theorem Transfer.others (transfer : Transfer before after token source target) (apart : other ≠ token) :
    after other place ↔ before other place := by
  simp [transfer.places, apart]

theorem Transfer.existsUnique (transfer : Transfer before after token source target)
    (placed : ∃! place, before token place) : ∃! place, after token place := by
  refine ⟨target, transfer.arrived, fun place present => ?_⟩
  rcases (transfer.places token place).mp present with ⟨stayed, elsewhere⟩ | ⟨_, here⟩
  · exact absurd ⟨rfl, placed.unique stayed transfer.left⟩ elsewhere
  · exact here

theorem Step.existsUnique (step : Step legal before after) (placed : ∃! place, before token place) :
    ∃! place, after token place := by
  cases step with
  | stay same => exact (existsUnique_congr (same token)).mpr placed
  | @moved moving _ _ _ transfer =>
    by_cases same : token = moving
    · subst same
      exact transfer.existsUnique placed
    · exact (existsUnique_congr fun _ => transfer.others same).mpr placed

theorem Step.follows (step : Step legal before after) (placed : ∃! place, before token place)
    (present : before token source) :
    after token source ∨ ∃ next, legal source next ∧ after token next := by
  cases step with
  | stay same => exact .inl ((same token source).mpr present)
  | @moved moving origin next allowed transfer =>
    by_cases same : token = moving
    · subst same
      cases placed.unique present transfer.left
      exact .inr ⟨next, allowed, transfer.arrived⟩
    · exact .inl ((transfer.others same).mpr present)

theorem Step.known (step : Step legal before after) (present : after token target) :
    ∃ place, before token place := by
  cases step with
  | stay same => exact ⟨target, (same token target).mp present⟩
  | @moved moving origin next _ transfer =>
    by_cases same : token = moving
    · exact ⟨origin, same ▸ transfer.left⟩
    · exact ⟨target, (transfer.others same).mp present⟩

theorem Entry.existsUnique (entry : Entry before after token target) : ∃! place, after token place := by
  refine ⟨target, (entry.places token target).mpr (.inr ⟨rfl, rfl⟩), fun place present => ?_⟩
  rcases (entry.places token place).mp present with old | ⟨_, here⟩
  · exact absurd old (entry.absent place)
  · exact here

theorem Entry.others (entry : Entry before after token target) (apart : other ≠ token) :
    after other place ↔ before other place := by
  simp [entry.places, apart]

end Custody

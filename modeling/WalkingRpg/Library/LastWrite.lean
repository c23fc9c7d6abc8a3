import Mathlib.Algebra.Order.Ring.Defs
import Mathlib.Order.Lattice

/-! A register that accepts a write only with a newer stamp.

Writes may arrive in any order, late or not at all. What the register holds in the end
is the newest of those that did arrive, so the order of arrival does not matter. A writer
stamps its writes with the time, or just after its last stamp where the time is behind it.
-/

set_option autoImplicit false

namespace LastWrite

variable {Write Stamp : Type} [LinearOrder Stamp] (stamp : Write → Stamp)

/-- An empty register takes any write, another one only a newer write. -/
def accept (register : Option Write) (write : Write) : Option Write :=
  match register with
  | none => some write
  | some current => if stamp current < stamp write then some write else some current

variable {stamp} {register : Option Write} {write last : Write} {writes : List Write}

theorem accept_of_older (older : ∀ current ∈ register, stamp current < stamp write) :
    accept stamp register write = some write := by
  cases register with
  | none => rfl
  | some current => exact if_pos (older current rfl)

theorem accept_of_not_newer (held : ¬stamp last < stamp write) :
    accept stamp (some last) write = some last :=
  if_neg held

theorem accept_eq_or (register : Option Write) (write : Write) :
    accept stamp register write = register ∨ accept stamp register write = some write := by
  cases register with
  | none => exact .inr rfl
  | some current =>
    unfold accept
    dsimp only
    split
    · exact .inr rfl
    · exact .inl rfl

theorem eq_or_mem_of_mem_accept {held : Write} (inside : held ∈ accept stamp register write) :
    held = write ∨ held ∈ register := by
  rcases @accept_eq_or _ _ _ stamp register write with same | taken
  · exact .inr (same ▸ inside)
  · exact .inl (Option.some.inj (taken.symm.trans inside)).symm

theorem foldl_accept_of_newest (newest : ∀ write ∈ writes, ¬stamp last < stamp write) :
    writes.foldl (accept stamp) (some last) = some last := by
  induction writes with
  | nil => rfl
  | cons write rest ih =>
    rw [List.foldl_cons, accept_of_not_newer (newest write List.mem_cons_self)]
    exact ih fun other member => newest other (List.mem_cons_of_mem write member)

theorem foldl_accept (arrived : last ∈ writes) (older : ∀ current ∈ register, stamp current < stamp last)
    (newest : ∀ write ∈ writes, write = last ∨ stamp write < stamp last) :
    writes.foldl (accept stamp) register = some last := by
  induction writes generalizing register with
  | nil => cases arrived
  | cons write rest ih =>
    have others : ∀ other ∈ rest, other = last ∨ stamp other < stamp last :=
      fun other member => newest other (List.mem_cons_of_mem write member)
    rw [List.foldl_cons]
    rcases newest write List.mem_cons_self with rfl | below
    · -- The newest write arrives now, and nothing after it is newer.
      rw [accept_of_older older]
      refine foldl_accept_of_newest fun other member newer => ?_
      rcases others other member with rfl | below
      · exact lt_irrefl _ newer
      · exact lt_asymm newer below
    · have still : last ∈ rest := by
        rcases List.mem_cons.mp arrived with rfl | later
        · exact absurd below (lt_irrefl _)
        · exact later
      refine ih still (fun current inside => ?_) others
      rcases eq_or_mem_of_mem_accept inside with rfl | before
      · exact below
      · exact older current before

section Stamps

variable {Time : Type} [Ring Time] [LinearOrder Time]

/-- The stamp of a write at a time, after a write with the last stamp. -/
def nextStamp (last time : Time) : Time := max time (last + 1)

variable (last time : Time)

theorem le_nextStamp : time ≤ nextStamp last time := le_max_left _ _

theorem lt_nextStamp [IsStrictOrderedRing Time] : last < nextStamp last time :=
  (lt_add_one last).trans_le (le_max_right _ _)

end Stamps

end LastWrite

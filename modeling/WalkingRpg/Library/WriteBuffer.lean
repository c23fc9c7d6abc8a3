import Mathlib.Data.List.Basic
import Mathlib.Order.Defs.PartialOrder

/-! Writes issued to a store and carried out in the order of their issue.

An entry stays in the list until its caller goes on, so some entries at the front
may have been carried out already. What the store holds in the end depends only on
the entries that are still pending.
-/

set_option autoImplicit false

namespace WriteBuffer

variable {E V R : Type} (pending : E → Bool) (value : E → V)

/-- What the store holds once every pending write has been carried out. -/
def settled (entries : List E) (store : V) : V :=
  ((entries.filter pending).getLast?.map value).getD store

/-- The ranks of the store and of the pending writes, in the order of their issue, do not decrease. -/
def Ascending [LE R] (rank : V → R) (entries : List E) (store : V) : Prop :=
  (rank store :: (entries.filter pending).map fun entry => rank (value entry)).Pairwise (· ≤ ·)

variable {pending} {entries : List E} {entry done : E} {i : Nat}

theorem filter_eq_cons_of_first (found : entries[i]? = some entry) (waits : pending entry = true)
    (first : ∀ earlier ∈ entries.take i, pending earlier = false) (carried : pending done = false) :
    entries.filter pending = entry :: (entries.set i done).filter pending := by
  induction entries generalizing i with
  | nil => simp at found
  | cons head rest ih =>
    cases i with
    | zero =>
      obtain rfl : head = entry := by simpa using found
      simp [waits, carried]
    | succ i =>
      have idle : pending head = false := first head (by simp)
      have tail := ih (i := i) (by simpa using found) (fun earlier member => first earlier (by simp [member]))
      simpa [idle] using tail

theorem filter_eraseIdx_of_done (found : entries[i]? = some done) (carried : pending done = false) :
    (entries.eraseIdx i).filter pending = entries.filter pending := by
  induction entries generalizing i with
  | nil => simp at found
  | cons head rest ih =>
    cases i with
    | zero =>
      obtain rfl : head = done := by simpa using found
      simp [carried]
    | succ i =>
      have tail := ih (i := i) (by simpa using found)
      simp [List.filter_cons, tail]

variable {value} {store : V}

theorem settled_issue (waits : pending entry = true) :
    settled pending value (entries ++ [entry]) store = value entry := by
  simp [settled, waits]

theorem settled_carryOut (found : entries[i]? = some entry) (waits : pending entry = true)
    (first : ∀ earlier ∈ entries.take i, pending earlier = false) (carried : pending done = false) :
    settled pending value (entries.set i done) (value entry) = settled pending value entries store := by
  unfold settled
  rw [filter_eq_cons_of_first found waits first carried]
  cases (entries.set i done).filter pending with
  | nil => simp
  | cons next rest =>
    rw [List.getLast?_cons_cons, List.getLast?_eq_some_getLast (List.cons_ne_nil next rest)]
    rfl

theorem settled_retire (found : entries[i]? = some done) (carried : pending done = false) :
    settled pending value (entries.eraseIdx i) store = settled pending value entries store := by
  unfold settled
  rw [filter_eraseIdx_of_done found carried]

theorem settled_of_done (carried : ∀ entry ∈ entries, pending entry = false) :
    settled pending value entries store = store := by
  have none_left : entries.filter pending = [] := by simpa using carried
  simp [settled, none_left]

section Order

variable [Preorder R] {rank : V → R}

theorem Ascending.issue (ordered : Ascending pending value rank entries store)
    (store_le : rank store ≤ rank (value entry))
    (le : ∀ earlier ∈ entries, rank (value earlier) ≤ rank (value entry)) :
    Ascending pending value rank (entries ++ [entry]) store := by
  unfold Ascending at *
  rw [List.filter_append, List.map_append, ← List.cons_append, List.pairwise_append]
  refine ⟨ordered, ?_, ?_⟩
  · cases waits : pending entry <;> simp [waits]
  · intro earlier member last isLast
    have isEntry : last = rank (value entry) := by
      cases waits : pending entry <;> simp [waits] at isLast
      exact isLast
    subst isEntry
    simp only [List.mem_cons, List.mem_map, List.mem_filter] at member
    obtain rfl | ⟨older, ⟨issued, _⟩, rfl⟩ := member
    · exact store_le
    · exact le older issued

theorem Ascending.store_le (ordered : Ascending pending value rank entries store)
    (found : entries[i]? = some entry) (waits : pending entry = true) :
    rank store ≤ rank (value entry) := by
  have member : entry ∈ entries.filter pending := by
    simpa [waits] using List.mem_of_getElem? found
  exact (List.pairwise_cons.mp ordered).1 _ (List.mem_map_of_mem member)

theorem Ascending.carryOut (ordered : Ascending pending value rank entries store)
    (found : entries[i]? = some entry) (waits : pending entry = true)
    (first : ∀ earlier ∈ entries.take i, pending earlier = false) (carried : pending done = false) :
    Ascending pending value rank (entries.set i done) (value entry) := by
  unfold Ascending at *
  rw [filter_eq_cons_of_first found waits first carried] at ordered
  exact (List.pairwise_cons.mp ordered).2

theorem Ascending.retire (ordered : Ascending pending value rank entries store)
    (found : entries[i]? = some done) (carried : pending done = false) :
    Ascending pending value rank (entries.eraseIdx i) store := by
  unfold Ascending at *
  rwa [filter_eraseIdx_of_done found carried]

theorem Ascending.nil : Ascending pending value rank [] store := by
  simp [Ascending]

end Order

end WriteBuffer

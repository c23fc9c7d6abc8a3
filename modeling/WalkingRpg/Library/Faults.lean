import Mathlib.Data.Nat.Notation

/-! Programs over a store whose operations may fail.

Whether an operation succeeds is decided from outside, by its kind and by its number in the run. An
operation that fails throws and leaves the store alone. What a run returns and what it leaves of the
store are then calculated from these decisions.
-/

set_option autoImplicit false

namespace Faults

/-- Which operations succeed. -/
def Oracle (Kind : Type) : Type := Kind → ℕ → Bool

/-- From the number of operations so far and a store to the value returned, `none` if an error was
thrown, the number of operations and the store. -/
def Program (Kind Store α : Type) : Type := Oracle Kind → ℕ → Store → Option α × ℕ × Store

variable {Kind Store α β : Type}

namespace Program

def pure (value : α) : Program Kind Store α := fun _ count store => (some value, count, store)

def bind (first : Program Kind Store α) (next : α → Program Kind Store β) : Program Kind Store β :=
  fun oracle count store =>
    match first oracle count store with
    | (some value, count, store) => next value oracle count store
    | (none, count, store) => (none, count, store)

instance : Monad (Program Kind Store) where
  pure := pure
  bind := bind

def throw : Program Kind Store α := fun _ count store => (none, count, store)

def operation (kind : Kind) (act : Store → α × Store) : Program Kind Store α := fun oracle count store =>
  if oracle kind count then (some (act store).1, count + 1, (act store).2) else (none, count + 1, store)

/-- `try body catch handler`. -/
def attempt (body handler : Program Kind Store α) : Program Kind Store α := fun oracle count store =>
  match body oracle count store with
  | (some value, count, store) => (some value, count, store)
  | (none, count, store) => handler oracle count store

theorem bind_of_returns {first : Program Kind Store α} {next : α → Program Kind Store β} {oracle : Oracle Kind}
    {count later : ℕ} {store after : Store} {value : α}
    (returns : first oracle count store = (some value, later, after)) :
    (first >>= next) oracle count store = next value oracle later after := by
  show bind first next oracle count store = _
  unfold bind
  rw [returns]

theorem attempt_operation (kind : Kind) (effect : Store → Store) (oracle : Oracle Kind) (count : ℕ) (store : Store) :
    attempt (operation kind fun store => ((), effect store)) (Pure.pure ()) oracle count store =
      (some (), count + 1, if oracle kind count then effect store else store) := by
  unfold attempt operation
  cases oracle kind count <;> rfl

end Program

end Faults

import Mathlib.Algebra.Order.Ring.Rat

/-! Computations that draw from a fixed stream of random numbers.

The state is the number of draws consumed so far, so that the draws a
computation takes are part of its meaning.
-/

set_option autoImplicit false

namespace Sampling

/-- A computation reading the stream from a position and returning the next position. -/
def Sampler (α : Type) : Type := (ℕ → ℚ) → ℕ → α × ℕ

namespace Sampler

variable {α β : Type}

def pure (value : α) : Sampler α := fun _ position => (value, position)

def bind (first : Sampler α) (next : α → Sampler β) : Sampler β := fun stream position =>
  let drawn := first stream position
  next drawn.1 stream drawn.2

instance : Monad Sampler where
  pure := pure
  bind := bind

def random : Sampler ℚ := fun stream position => (stream position, position + 1)

variable {stream : ℕ → ℚ} {position : ℕ}

@[simp] theorem pure_apply (value : α) : (Pure.pure value : Sampler α) stream position = (value, position) := rfl

@[simp] theorem bind_apply (first : Sampler α) (next : α → Sampler β) :
    (first >>= next) stream position =
      next (first stream position).1 stream (first stream position).2 := rfl

@[simp] theorem random_apply : random stream position = (stream position, position + 1) := rfl

@[simp] theorem ite_apply (condition : Prop) [Decidable condition] (first second : Sampler α) :
    (if condition then first else second) stream position =
      if condition then first stream position else second stream position := by
  split <;> rfl

end Sampler

/-- The subtract-and-test loop of a weighted pick: the first entry whose weight
takes the remaining roll to zero or below. -/
def pickLoop {α : Type} : List (α × ℚ) → ℚ → Option α
  | [], _ => none
  | (value, weight) :: rest, roll =>
    if roll - weight ≤ 0 then some value else pickLoop rest (roll - weight)

theorem mem_of_pickLoop {α : Type} {entries : List (α × ℚ)} {roll : ℚ} {value : α}
    (picked : pickLoop entries roll = some value) : value ∈ entries.map Prod.fst := by
  induction entries generalizing roll with
  | nil => cases picked
  | cons entry rest ih =>
    unfold pickLoop at picked
    split at picked
    · cases picked
      exact List.mem_cons_self
    · exact List.mem_cons_of_mem _ (ih picked)

end Sampling

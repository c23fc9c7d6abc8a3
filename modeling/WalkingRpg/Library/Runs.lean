import Mathlib.Data.List.Basic

/-! Finite runs of a partial step function.

A run records its actions in order. Every action has to meet a guard in the
state it is taken in, so that "every run whose steps all meet a condition" and
"every run" are the same notion at two guards.
-/

set_option autoImplicit false

namespace Runs

variable {State Action : Type}

/-- A run from `start` through `actions`; each action is allowed where it is taken. -/
inductive Run (step : State → Action → Option State) (allowed : State → Action → Prop) :
    State → List Action → State → Prop where
  | nil (start : State) : Run step allowed start [] start
  | snoc {start before after : State} {actions : List Action} {action : Action} :
      Run step allowed start actions before → allowed before action →
      step before action = some after → Run step allowed start (actions ++ [action]) after

variable {step : State → Action → Option State} {allowed : State → Action → Prop}
variable {start final : State} {actions : List Action}

/-- What holds at the start and is kept by every allowed step holds at the end.
The predicate may read the actions taken so far. -/
theorem Run.history (run : Run step allowed start actions final) (holds : List Action → State → Prop)
    (initial : holds [] start)
    (kept : ∀ taken before action after, holds taken before → allowed before action →
      step before action = some after → holds (taken ++ [action]) after) :
    holds actions final := by
  induction run with
  | nil => exact initial
  | snoc _ admitted taken ih => exact kept _ _ _ _ ih admitted taken

theorem Run.invariant (run : Run step allowed start actions final) (holds : State → Prop)
    (initial : holds start)
    (kept : ∀ before action after, holds before → allowed before action →
      step before action = some after → holds after) :
    holds final :=
  run.history (fun _ state => holds state) initial
    (fun _ before action after held admitted taken => kept before action after held admitted taken)

theorem Run.append {middle : State} {more : List Action} (first : Run step allowed start actions middle)
    (second : Run step allowed middle more final) : Run step allowed start (actions ++ more) final := by
  induction second with
  | nil => simpa using first
  | snoc _ admitted taken ih =>
    rw [← List.append_assoc]
    exact .snoc ih admitted taken

theorem Run.single {before after : State} {action : Action} (admitted : allowed before action)
    (taken : step before action = some after) : Run step allowed before [action] after :=
  .snoc (.nil before) admitted taken

theorem Run.exchange {other : State → Action → Prop} (run : Run step allowed start actions final)
    (holds : State → Prop) (initial : holds start)
    (kept : ∀ before action after, holds before → allowed before action → step before action = some after →
      holds after ∧ other before action) : Run step other start actions final := by
  have carried := run.history (fun taken state => Run step other start taken state ∧ holds state)
    ⟨.nil start, initial⟩ fun taken before action after held admitted stepped =>
      ⟨.snoc held.1 (kept before action after held.2 admitted stepped).2 stepped,
        (kept before action after held.2 admitted stepped).1⟩
  exact carried.1

def exec (step : State → Action → Option State) (allowed : State → Action → Prop)
    [∀ state action, Decidable (allowed state action)] : State → List Action → Option State
  | state, [] => some state
  | state, action :: rest =>
    if allowed state action then (step state action).bind fun next => exec step allowed next rest
    else none

theorem Run.of_exec [∀ state action, Decidable (allowed state action)]
    (executed : exec step allowed start actions = some final) : Run step allowed start actions final := by
  induction actions generalizing start with
  | nil =>
    cases Option.some.inj executed
    exact .nil _
  | cons action rest ih =>
    simp only [exec] at executed
    split at executed
    · rename_i admitted
      obtain ⟨next, taken, continued⟩ := Option.bind_eq_some_iff.mp executed
      exact (Run.single admitted taken).append (ih continued)
    · cases executed

/-- A run that ends in a state with a decided property, by evaluation. -/
theorem Run.exists_of_exec [∀ state action, Decidable (allowed state action)] {holds : State → Prop}
    [DecidablePred holds]
    (executed : (exec step allowed start actions).any (fun state => decide (holds state)) = true) :
    ∃ final, Run step allowed start actions final ∧ holds final := by
  obtain ⟨final, reached, held⟩ := (Option.any_eq_true _ _).mp executed
  exact ⟨final, .of_exec reached, of_decide_eq_true held⟩

end Runs

import WalkingRpg.Library.Tasks

/-! Callbacks that run on the first of two occasions.

An armed callback waits for a timeout and listens for an event. Whichever comes first runs it, and
it can be cancelled until then. The flag `fired` is what makes the occasions exclude each other.
`ran` and `cancelled` record the numbers of the callbacks; nothing reads them.
-/

set_option autoImplicit false

namespace OneShot

structure Shot (Callback : Type) where
  callback : Callback
  fired : Bool
  /-- The timeout is still to come. -/
  timer : Bool
  /-- The subscription has not been removed. -/
  listening : Bool

structure Shots (Callback : Type) where
  armed : List (Shot Callback)
  ran : List Nat
  cancelled : List Nat

variable {Callback : Type}

def Shot.spent (shot : Shot Callback) : Shot Callback :=
  { shot with fired := true, timer := false, listening := false }

namespace Shots

def empty : Shots Callback := ⟨[], [], []⟩

variable (shots : Shots Callback)

def arm (callback : Callback) : Shots Callback :=
  { shots with armed := shots.armed ++ [⟨callback, false, true, true⟩] }

def cancel (i : Nat) : Shots Callback :=
  match shots.armed[i]? with
  | some shot =>
    if shot.fired then shots
    else { shots with armed := shots.armed.set i shot.spent, cancelled := shots.cancelled ++ [i] }
  | none => shots

def fire (i : Nat) (shot : Shot Callback) : Shots Callback :=
  { shots with armed := shots.armed.set i shot.spent, ran := shots.ran ++ [i] }

def timeout (i : Nat) (ready : Bool) : Option (Shots Callback × Option Callback) :=
  match shots.armed[i]? with
  | some shot =>
    if shot.timer then
      if !shot.fired && ready then some (shots.fire i shot, some shot.callback)
      else some ({ shots with armed := shots.armed.set i { shot with timer := false } }, none)
    else none
  | none => none

def notify (i : Nat) : Shots Callback × Option Callback :=
  match shots.armed[i]? with
  | some shot =>
    if shot.listening && !shot.fired then (shots.fire i shot, some shot.callback) else (shots, none)
  | none => (shots, none)

def waiting (handle : Option Nat) : Option Callback :=
  handle.bind fun i => shots.armed[i]?.bind fun shot => if shot.fired then none else some shot.callback

variable {shots} {i : Nat} {shot : Shot Callback} {outcome : Shots Callback × Option Callback}

/-- What an occasion does: nothing, or the timeout alone passes, or the callback runs. -/
inductive Tries (shots : Shots Callback) (i : Nat) : Shots Callback × Option Callback → Prop where
  | idle : Tries shots i (shots, none)
  | expires {shot : Shot Callback} (found : shots.armed[i]? = some shot) :
      Tries shots i ({ shots with armed := shots.armed.set i { shot with timer := false } }, none)
  | runs {shot : Shot Callback} (found : shots.armed[i]? = some shot) (unfired : shot.fired = false) :
      Tries shots i (shots.fire i shot, some shot.callback)

theorem tries_of_timeout {ready : Bool} (passed : shots.timeout i ready = some outcome) :
    Tries shots i outcome := by
  unfold timeout at passed
  split at passed
  · rename_i shot found
    split at passed
    · split at passed
      · rename_i may
        cases Option.some.inj passed
        exact .runs found (by simpa using (Bool.and_eq_true_iff.mp may).1)
      · cases Option.some.inj passed
        exact .expires found
    · cases passed
  · cases passed

theorem tries_notify (shots : Shots Callback) (i : Nat) : Tries shots i (shots.notify i) := by
  unfold notify
  split
  · rename_i shot found
    split
    · rename_i may
      exact .runs found (by simpa using (Bool.and_eq_true_iff.mp may).2)
    · exact .idle
  · exact .idle

/-- A callback has fired when it has run or has been cancelled, and never both. -/
structure Accounted (shots : Shots Callback) : Prop where
  fired : ∀ i shot, shots.armed[i]? = some shot → (shot.fired = true ↔ i ∈ shots.ran ∨ i ∈ shots.cancelled)
  bounded : ∀ i, i ∈ shots.ran ∨ i ∈ shots.cancelled → i < shots.armed.length
  once : shots.ran.Nodup
  apart : ∀ i ∈ shots.cancelled, i ∉ shots.ran

theorem accounted_empty : Accounted (empty : Shots Callback) where
  fired := fun _ _ found => (by cases found)
  bounded := fun _ listed => (by rcases listed with ran | cancelled <;> contradiction)
  once := List.nodup_nil
  apart := fun _ member => (by cases member)

namespace Accounted

theorem arm (accounted : Accounted shots) (callback : Callback) : Accounted (shots.arm callback) where
  fired := by
    intro i shot found
    rcases Tasks.found_of_concat found with old | ⟨rfl, rfl⟩
    · exact accounted.fired i shot old
    · -- The new callback has not fired, and no list knows its number.
      have unlisted := mt (accounted.bounded shots.armed.length) (Nat.lt_irrefl _)
      simpa [Shots.arm] using unlisted
  bounded := by
    intro i listed
    have before := accounted.bounded i listed
    simp only [Shots.arm, List.length_append, List.length_singleton]
    omega
  once := accounted.once
  apart := accounted.apart

theorem unlisted (accounted : Accounted shots) (found : shots.armed[i]? = some shot)
    (unfired : shot.fired = false) : i ∉ shots.ran ∧ i ∉ shots.cancelled := by
  have out := mt (accounted.fired i shot found).mpr (by simp [unfired])
  exact not_or.mp out

theorem spend (accounted : Accounted shots) (found : shots.armed[i]? = some shot) {ran cancelled : List Nat}
    (listed : ∀ j, (j ∈ ran ∨ j ∈ cancelled) ↔ (j ∈ shots.ran ∨ j ∈ shots.cancelled) ∨ j = i)
    (once : ran.Nodup) (apart : ∀ j ∈ cancelled, j ∉ ran) :
    Accounted ⟨shots.armed.set i shot.spent, ran, cancelled⟩ where
  fired := by
    intro j other there
    rcases Tasks.found_of_set there with ⟨rfl, rfl⟩ | ⟨apart, old⟩
    · simp [Shot.spent, listed]
    · rw [accounted.fired j other old, listed]
      simp [apart.symm]
  bounded := by
    intro j member
    rw [List.length_set]
    rcases (listed j).mp member with old | rfl
    · exact accounted.bounded j old
    · exact (List.getElem?_eq_some_iff.mp found).1
  once := once
  apart := apart

theorem cancel (accounted : Accounted shots) (i : Nat) : Accounted (shots.cancel i) := by
  unfold Shots.cancel
  split
  · rename_i shot found
    split
    · exact accounted
    · rename_i unfired
      obtain ⟨notRan, _⟩ := accounted.unlisted found (by simpa using unfired)
      apply accounted.spend found (by simp [or_assoc]) accounted.once
      intro j member
      rcases List.mem_append.mp member with old | new
      · exact accounted.apart j old
      · rw [List.mem_singleton.mp new]
        exact notRan
  · exact accounted

theorem fire (accounted : Accounted shots) (found : shots.armed[i]? = some shot) (unfired : shot.fired = false) :
    Accounted (shots.fire i shot) := by
  obtain ⟨notRan, notCancelled⟩ := accounted.unlisted found unfired
  apply accounted.spend found (by simp [or_right_comm])
  · simpa [List.nodup_append] using ⟨accounted.once, fun j ran same => notRan (same ▸ ran)⟩
  · intro j cancelled ran
    rcases List.mem_append.mp ran with old | new
    · exact accounted.apart j cancelled old
    · rw [List.mem_singleton.mp new] at cancelled
      exact notCancelled cancelled

theorem tries (accounted : Accounted shots) (tried : Tries shots i outcome) : Accounted outcome.1 := by
  cases tried with
  | idle => exact accounted
  | runs found unfired => exact accounted.fire found unfired
  | @expires shot found =>
    refine ⟨fun j other there => ?_, fun j listed => ?_, accounted.once, accounted.apart⟩
    · rcases Tasks.found_of_set there with ⟨rfl, rfl⟩ | ⟨_, old⟩
      · exact accounted.fired i shot found
      · exact accounted.fired j other old
    · rw [List.length_set]
      exact accounted.bounded j listed

end Accounted

/-- No callback waits but the one under the handle. -/
def Sole (shots : Shots Callback) (handle : Option Nat) : Prop :=
  ∀ i shot, shots.armed[i]? = some shot → shot.fired = false → handle = some i

variable {handle : Option Nat} {callback : Callback}

theorem sole_empty : Sole (empty : Shots Callback) none := fun _ _ found _ => (by cases found)

theorem Sole.cancel (sole : Sole shots handle) : Sole (handle.elim shots shots.cancel) none := by
  intro j other there unfired
  cases handle with
  | none => exact sole j other there unfired
  | some i =>
    simp only [Option.elim_some, Shots.cancel] at there
    split at there
    · rename_i shot found
      split at there
      · rename_i fired
        -- The handle points to a callback that has fired, so there is none to wait.
        have same := Option.some.inj (sole j other there unfired)
        subst same
        rw [Option.some.inj (found.symm.trans there)] at fired
        rw [unfired] at fired
        cases fired
      · rcases Tasks.found_of_set there with ⟨rfl, rfl⟩ | ⟨apart, old⟩
        · cases unfired
        · exact absurd (Option.some.inj (sole j other old unfired)) apart
    · rename_i absent
      have same := Option.some.inj (sole j other there unfired)
      subst same
      rw [absent] at there
      cases there

theorem Sole.arm (sole : Sole shots none) (callback : Callback) :
    Sole (shots.arm callback) (some shots.armed.length) := by
  intro j other there unfired
  rcases Tasks.found_of_concat there with old | ⟨rfl, _⟩
  · cases sole j other old unfired
  · rfl

theorem waiting_arm (shots : Shots Callback) (callback : Callback) :
    (shots.arm callback).waiting (some shots.armed.length) = some callback := by
  simp [waiting, Shots.arm]

theorem waiting_of_fired (fired : ∀ shot ∈ shots.armed, shot.fired = true) (handle : Option Nat) :
    shots.waiting handle = none := by
  cases handle with
  | none => rfl
  | some i =>
    cases found : shots.armed[i]? with
    | none => simp [waiting, found]
    | some shot => simp [waiting, found, fired shot (List.mem_of_getElem? found)]

theorem Sole.tries (sole : Sole shots handle) (tried : Tries shots i outcome) :
    outcome.2 = none ∧ Sole outcome.1 handle ∧ outcome.1.waiting handle = shots.waiting handle ∨
      ∃ callback, outcome.2 = some callback ∧ shots.waiting handle = some callback ∧ Sole outcome.1 none := by
  cases tried with
  | idle => exact .inl ⟨rfl, sole, rfl⟩
  | expires found =>
    refine .inl ⟨rfl, fun j other there unfired => ?_, ?_⟩
    · rcases Tasks.found_of_set there with ⟨rfl, rfl⟩ | ⟨_, old⟩
      · exact sole i _ found unfired
      · exact sole j other old unfired
    · cases handle with
      | none => rfl
      | some j =>
        by_cases same : i = j
        · subst same
          simp [waiting, List.getElem?_set_self', found]
        · simp [waiting, List.getElem?_set_ne same]
  | @runs shot found unfired =>
    have here := sole i shot found unfired
    subst here
    refine .inr ⟨shot.callback, rfl, by simp [waiting, found, unfired], fun j other there waits => ?_⟩
    rcases Tasks.found_of_set there with ⟨rfl, rfl⟩ | ⟨apart, old⟩
    · cases waits
    · exact absurd (Option.some.inj (sole j other old waits)) apart

end Shots

end OneShot

import Mathlib.Tactic.Linarith
import WalkingRpg.Library.LastWrite
import WalkingRpg.Library.Runs

/-! The timestamps of a save and the reconcile that compares them.

One device and one account. A save is stamped twice: with the clock for the local
snapshot, and with a strictly increasing sync timestamp for the cloud. Versions
carry the versions they were derived from, so that a rollback can be stated.
-/

set_option autoImplicit false

namespace WalkingRpg.Cloud

open Runs (Run)

/-- A version of the player, with the versions it was derived from. -/
structure Version where
  id : Nat
  ancestors : List Nat
  deriving DecidableEq

/-- A version with a timestamp: a cloud record, or the local snapshot and its `savedAt`. -/
structure Stamped where
  version : Version
  savedAt : ℤ
  deriving DecidableEq

structure Device where
  /-- The local snapshot. -/
  saved : Option Stamped
  /-- The document `players/{uid}`. -/
  server : Option Stamped
  /-- Issued writes that have neither arrived nor been lost. -/
  inFlight : List Stamped
  /-- The outcome of a cloud read that a reconcile is about to compare. -/
  fetched : Option Stamped
  lastSyncTimestamp : ℤ
  nextVersion : Nat
  /-- Every timestamp this device has sent or adopted. No code reads it. -/
  seen : List ℤ
  deriving DecidableEq

def Device.derived (device : Device) : Version :=
  match device.saved with
  | none => ⟨device.nextVersion, []⟩
  | some current => ⟨device.nextVersion, current.version.id :: current.version.ancestors⟩

def savePlayerData (device : Device) (clock : ℤ) : Device :=
  let syncTimestamp := LastWrite.nextStamp device.lastSyncTimestamp clock
  { device with
    -- The local stamp is the bare clock, which may be behind the sync timestamp.
    saved := some ⟨device.derived, clock⟩
    inFlight := device.inFlight ++ [⟨device.derived, syncTimestamp⟩]
    lastSyncTimestamp := syncTimestamp
    nextVersion := device.nextVersion + 1
    seen := syncTimestamp :: device.seen }

def acceptWrite : Option Stamped → Stamped → Option Stamped := LastWrite.accept Stamped.savedAt

def localSavedAt (saved : Option Stamped) : ℤ := saved.elim 0 Stamped.savedAt

def reconcileCloudPlayerData (device : Device) : Device :=
  match device.fetched with
  | none => device
  | some found =>
    if found.savedAt > localSavedAt device.saved then
      { device with fetched := none, saved := some found, seen := found.savedAt :: device.seen }
    else { device with fetched := none }

inductive Action where
  | save (clock : ℤ)
  | deliver (i : Nat)
  | lose (i : Nat)
  | restart
  | fetch
  | reconcile

def step (device : Device) : Action → Option Device
  | .save clock => some (savePlayerData device clock)
  | .deliver i => device.inFlight[i]?.map fun write =>
      { device with inFlight := device.inFlight.eraseIdx i, server := acceptWrite device.server write }
  | .lose i => some { device with inFlight := device.inFlight.eraseIdx i }
  -- The queue of unsent writes outlives the process, the counter does not.
  | .restart => some { device with lastSyncTimestamp := 0, fetched := none }
  | .fetch => some { device with fetched := device.server }
  | .reconcile => some (reconcileCloudPlayerData device)

def start (cloud : Option ℤ) : Device where
  saved := none
  server := cloud.map fun lastSavedAt => ⟨⟨0, []⟩, lastSavedAt⟩
  inFlight := []
  fetched := none
  lastSyncTimestamp := 0
  nextVersion := 1
  seen := []

/-- The local version was replaced by one it had been derived from. -/
def RolledBack (before after : Device) : Prop :=
  ∃ old ∈ before.saved, ∃ new ∈ after.saved, new.version.id ∈ old.version.ancestors

/-- Saves happen at a clock that is not behind any timestamp sent or adopted so far. -/
def ClockAhead (device : Device) : Action → Prop
  | .save clock => ∀ timestamp ∈ device.seen, timestamp ≤ clock
  | _ => True

instance (device : Device) : (action : Action) → Decidable (ClockAhead device action)
  | .save clock => inferInstanceAs (Decidable (∀ timestamp ∈ device.seen, timestamp ≤ clock))
  | .deliver _ | .lose _ | .restart | .fetch | .reconcile => isTrue trivial

def Device.Holds (device : Device) (stamped : Stamped) : Prop :=
  stamped ∈ device.saved ∨ stamped ∈ device.server ∨ stamped ∈ device.inFlight ∨
    stamped ∈ device.fetched

/-- The invariant of the runs: timestamps follow the derivation of versions.
`origin` is the record of the other device. -/
structure Ordered (origin : Option Stamped) (device : Device) : Prop where
  fresh : ∀ stamped, device.Holds stamped → stamped.version.id < device.nextVersion ∧
    ∀ ancestor ∈ stamped.version.ancestors, ancestor < stamped.version.id
  ordered : ∀ stamped older, device.Holds stamped → device.Holds older →
    older.version.id ∈ stamped.version.ancestors → older.savedAt ≤ stamped.savedAt
  seen : ∀ stamped, device.Holds stamped →
    (∃ timestamp ∈ device.seen, stamped.savedAt ≤ timestamp) ∨ stamped ∈ origin
  foreign : ∀ foreign ∈ origin, ∀ stamped, device.Holds stamped →
    stamped.version.id = foreign.version.id → stamped.savedAt = foreign.savedAt
  saved : ∀ stamped ∈ device.saved, ∃ timestamp ∈ device.seen, stamped.savedAt ≤ timestamp
  older : ∀ foreign ∈ origin, foreign.version.id < device.nextVersion

variable {origin : Option Stamped} {before after device : Device}

theorem Ordered.mono (inv : Ordered origin before)
    (held : ∀ stamped, after.Holds stamped → before.Holds stamped)
    (saved : ∀ stamped ∈ after.saved, ∃ timestamp ∈ after.seen, stamped.savedAt ≤ timestamp)
    (next : after.nextVersion = before.nextVersion)
    (seen : ∀ timestamp ∈ before.seen, timestamp ∈ after.seen) : Ordered origin after where
  fresh stamped inside := next ▸ inv.fresh stamped (held stamped inside)
  ordered stamped older inside insideOlder :=
    inv.ordered stamped older (held stamped inside) (held older insideOlder)
  seen stamped inside := (inv.seen stamped (held stamped inside)).imp_left
    fun ⟨timestamp, member, bound⟩ => ⟨timestamp, seen timestamp member, bound⟩
  foreign foreign known stamped inside := inv.foreign foreign known stamped (held stamped inside)
  saved := saved
  older := next ▸ inv.older

theorem ordered_start (cloud : Option ℤ) : Ordered (start cloud).server (start cloud) := by
  have only : ∀ stamped, (start cloud).Holds stamped → stamped ∈ (start cloud).server := by
    intro stamped inside
    rcases inside with none | server | none | none
    · cases none
    · exact server
    · cases none
    · cases none
  have version : ∀ stamped ∈ (start cloud).server, stamped.version = ⟨0, []⟩ := by
    intro stamped inside
    obtain ⟨_, _, rfl⟩ := Option.map_eq_some_iff.mp inside
    rfl
  refine ⟨fun stamped inside => ?_, fun stamped older inside _ ancestor => ?_,
    fun stamped inside => .inr (only stamped inside), fun foreign known stamped inside _ => ?_,
    fun stamped absent => (by cases absent), fun foreign known => ?_⟩
  · rw [version stamped (only stamped inside)]
    exact ⟨Nat.zero_lt_one, by simp⟩
  · rw [version stamped (only stamped inside)] at ancestor
    cases ancestor
  · cases Option.some.inj (known.symm.trans (only stamped inside))
    rfl
  · rw [version foreign known]
    exact Nat.zero_lt_one

theorem mem_derived_ancestors {ancestor : Nat} (member : ancestor ∈ device.derived.ancestors) :
    ∃ current ∈ device.saved, ancestor = current.version.id ∨ ancestor ∈ current.version.ancestors := by
  unfold Device.derived at member
  cases saved : device.saved with
  | none => simp [saved] at member
  | some current =>
    simp only [saved, List.mem_cons] at member
    exact ⟨current, rfl, member⟩

theorem derived_id (device : Device) : device.derived.id = device.nextVersion := by
  unfold Device.derived
  cases device.saved <;> rfl

theorem Ordered.le_clock (inv : Ordered origin device) {clock : ℤ}
    (ahead : ∀ timestamp ∈ device.seen, timestamp ≤ clock) {older : Stamped} (inside : device.Holds older)
    (ancestor : older.version.id ∈ device.derived.ancestors) : older.savedAt ≤ clock := by
  obtain ⟨current, saved, cases⟩ := mem_derived_ancestors ancestor
  obtain ⟨timestamp, member, bound⟩ := inv.saved current saved
  have known := ahead timestamp member
  rcases cases with same | earlier
  · rcases inv.seen older inside with ⟨sent, sentMember, sentBound⟩ | foreign
    · exact sentBound.trans (ahead sent sentMember)
    · have equal := inv.foreign older foreign current (.inl saved) same.symm
      omega
  · have order := inv.ordered current older (.inl saved) inside earlier
    omega

theorem holds_savePlayerData {clock : ℤ} {stamped : Stamped}
    (inside : (savePlayerData device clock).Holds stamped) :
    device.Holds stamped ∨ (stamped.version = device.derived ∧ clock ≤ stamped.savedAt ∧
      stamped.savedAt ≤ LastWrite.nextStamp device.lastSyncTimestamp clock) := by
  rcases inside with saved | server | queued | fetched
  · cases Option.some.inj saved
    exact .inr ⟨rfl, le_rfl, LastWrite.le_nextStamp _ _⟩
  · exact .inl (.inr (.inl server))
  · rcases List.mem_append.mp queued with earlier | new
    · exact .inl (.inr (.inr (.inl earlier)))
    · cases List.mem_singleton.mp new
      exact .inr ⟨rfl, LastWrite.le_nextStamp _ _, le_rfl⟩
  · exact .inl (.inr (.inr (.inr fetched)))

theorem Ordered.save (inv : Ordered origin device) {clock : ℤ}
    (ahead : ∀ timestamp ∈ device.seen, timestamp ≤ clock) :
    Ordered origin (savePlayerData device clock) := by
  have ancestorsOld : ∀ ancestor ∈ device.derived.ancestors, ancestor < device.nextVersion := by
    intro ancestor member
    obtain ⟨current, saved, same | earlier⟩ := mem_derived_ancestors member
    · rw [same]
      exact (inv.fresh current (.inl saved)).1
    · have own := inv.fresh current (.inl saved)
      exact (own.2 ancestor earlier).trans own.1
  have newest : LastWrite.nextStamp device.lastSyncTimestamp clock ∈ (savePlayerData device clock).seen :=
    List.mem_cons_self
  refine ⟨fun stamped inside => ?_, fun stamped older inside insideOlder ancestor => ?_,
    fun stamped inside => ?_, fun foreign known stamped inside same => ?_, fun stamped saved => ?_,
    fun foreign known => Nat.lt_succ_of_lt (inv.older foreign known)⟩
  · show _ < device.nextVersion + 1 ∧ _
    rcases holds_savePlayerData inside with old | ⟨version, _, _⟩
    · exact ⟨Nat.lt_succ_of_lt (inv.fresh stamped old).1, (inv.fresh stamped old).2⟩
    · rw [version, derived_id]
      exact ⟨Nat.lt_succ_self _, ancestorsOld⟩
  · -- The new version is nobody's ancestor; its own ancestors are behind the clock.
    rcases holds_savePlayerData insideOlder with oldOlder | ⟨versionOlder, _, _⟩
    · rcases holds_savePlayerData inside with old | ⟨version, atLeast, _⟩
      · exact inv.ordered stamped older old oldOlder ancestor
      · rw [version] at ancestor
        exact (inv.le_clock ahead oldOlder ancestor).trans atLeast
    · rw [versionOlder, derived_id] at ancestor
      rcases holds_savePlayerData inside with old | ⟨version, _, _⟩
      · have own := inv.fresh stamped old
        have below := own.2 _ ancestor
        omega
      · rw [version] at ancestor
        exact absurd (ancestorsOld _ ancestor) (lt_irrefl _)
  · rcases holds_savePlayerData inside with old | ⟨_, _, atMost⟩
    · exact (inv.seen stamped old).imp_left
        fun ⟨timestamp, member, bound⟩ => ⟨timestamp, List.mem_cons_of_mem _ member, bound⟩
    · exact .inl ⟨_, newest, atMost⟩
  · rcases holds_savePlayerData inside with old | ⟨version, _, _⟩
    · exact inv.foreign foreign known stamped old same
    · rw [version, derived_id] at same
      exact absurd (inv.older foreign known) (same ▸ lt_irrefl _)
  · cases Option.some.inj saved
    exact ⟨_, newest, LastWrite.le_nextStamp _ _⟩

theorem Ordered.deliver (inv : Ordered origin device) {i : Nat} {write : Stamped}
    (queued : write ∈ device.inFlight) :
    Ordered origin { device with
      inFlight := device.inFlight.eraseIdx i, server := acceptWrite device.server write } := by
  refine inv.mono (fun stamped inside => ?_) inv.saved rfl fun _ member => member
  rcases inside with saved | server | rest | fetched
  · exact .inl saved
  · rcases LastWrite.eq_or_mem_of_mem_accept server with rfl | kept
    · exact .inr (.inr (.inl queued))
    · exact .inr (.inl kept)
  · exact .inr (.inr (.inl (List.mem_of_mem_eraseIdx rest)))
  · exact .inr (.inr (.inr fetched))

theorem reconcile_saved (device : Device) :
    (reconcileCloudPlayerData device).saved = device.saved ∨
    ∃ found ∈ device.fetched, localSavedAt device.saved < found.savedAt ∧
      (reconcileCloudPlayerData device).saved = some found ∧
      (reconcileCloudPlayerData device).seen = found.savedAt :: device.seen := by
  unfold reconcileCloudPlayerData
  cases fetched : device.fetched with
  | none => exact .inl rfl
  | some found =>
    dsimp only
    split
    · rename_i newer
      exact .inr ⟨found, rfl, newer, rfl, rfl⟩
    · exact .inl rfl

theorem Ordered.reconcile (inv : Ordered origin device) :
    Ordered origin (reconcileCloudPlayerData device) := by
  unfold reconcileCloudPlayerData
  cases fetched : device.fetched with
  | none => exact inv
  | some found =>
    dsimp only
    split
    · refine inv.mono (fun stamped inside => ?_) (fun stamped saved => ?_) rfl
        fun _ member => List.mem_cons_of_mem _ member
      · rcases inside with saved | server | queued | none
        · cases Option.some.inj saved
          exact .inr (.inr (.inr fetched))
        · exact .inr (.inl server)
        · exact .inr (.inr (.inl queued))
        · cases none
      · cases Option.some.inj saved
        exact ⟨_, List.mem_cons_self, le_rfl⟩
    · refine inv.mono (fun stamped inside => ?_) inv.saved rfl fun _ member => member
      rcases inside with saved | server | queued | none
      · exact .inl saved
      · exact .inr (.inl server)
      · exact .inr (.inr (.inl queued))
      · cases none

theorem Ordered.step (inv : Ordered origin before) {action : Action} (ahead : ClockAhead before action)
    (taken : Cloud.step before action = some after) : Ordered origin after := by
  cases action with
  | save clock =>
    cases Option.some.inj taken
    exact inv.save ahead
  | deliver i =>
    obtain ⟨write, found, rfl⟩ := Option.map_eq_some_iff.mp taken
    exact inv.deliver (List.mem_of_getElem? found)
  | lose i =>
    cases Option.some.inj taken
    refine inv.mono (fun stamped inside => ?_) inv.saved rfl fun _ member => member
    exact inside.imp_right (.imp_right (.imp_left List.mem_of_mem_eraseIdx))
  | restart =>
    cases Option.some.inj taken
    refine inv.mono (fun stamped inside => ?_) inv.saved rfl fun _ member => member
    exact inside.imp_right (.imp_right (.imp_right fun absent => by cases absent))
  | fetch =>
    cases Option.some.inj taken
    refine inv.mono (fun stamped inside => ?_) inv.saved rfl fun _ member => member
    rcases inside with saved | server | queued | fetched
    · exact .inl saved
    · exact .inr (.inl server)
    · exact .inr (.inr (.inl queued))
    · exact .inr (.inl fetched)
  | reconcile =>
    cases Option.some.inj taken
    exact inv.reconcile

theorem Ordered.not_rolledBack (inv : Ordered origin device) :
    ¬ RolledBack device (reconcileCloudPlayerData device) := by
  rintro ⟨old, savedOld, new, savedNew, ancestor⟩
  rcases reconcile_saved device with same | ⟨found, fetched, newer, replaced, _⟩
  · rw [same] at savedNew
    cases Option.some.inj (savedOld.symm.trans savedNew)
    exact absurd ((inv.fresh old (.inl savedOld)).2 _ ancestor) (lt_irrefl _)
  · cases Option.some.inj (replaced.symm.trans savedNew)
    have order := inv.ordered old _ (.inl savedOld) (.inr (.inr (.inr fetched))) ancestor
    have savedAt : localSavedAt device.saved = old.savedAt := by
      rw [show device.saved = some old from savedOld]
      rfl
    omega

/-- In every run whose saves happen at a clock not behind any timestamp sent or
adopted before, no reconcile replaces the local version by one it was derived from. -/
theorem run_clockAhead_not_rolledBack (cloud : Option ℤ) (actions : List Action)
    (before after : Device) (run : Run step ClockAhead (start cloud) actions before)
    (reconciled : step before .reconcile = some after) : ¬ RolledBack before after := by
  have inv : Ordered (start cloud).server before :=
    run.invariant _ (ordered_start cloud) fun _ _ _ held ahead taken => held.step ahead taken
  cases Option.some.inj reconciled
  exact inv.not_rolledBack

theorem run_clockAhead_not_rolledBack_burst :
    ∃ before after, Run step ClockAhead (start (some 90))
        [.fetch, .reconcile, .save 100, .save 100, .deliver 0, .lose 0, .fetch] before ∧
      step before .reconcile = some after ∧ ¬ RolledBack before after := by
  obtain ⟨before, run⟩ : ∃ before, Run step ClockAhead (start (some 90))
      [.fetch, .reconcile, .save 100, .save 100, .deliver 0, .lose 0, .fetch] before :=
    ⟨_, Run.of_exec rfl⟩
  exact ⟨before, _, run, rfl, run_clockAhead_not_rolledBack _ _ _ _ run rfl⟩

/-- Three saves in one millisecond of which the last is lost: the second one has a
later sync timestamp than the local snapshot and replaces it. -/
theorem run_burst_rolledBack :
    ∃ before after, Run step (fun _ _ => True) (start none)
        [.save 100, .save 100, .save 100, .deliver 0, .deliver 0, .lose 0, .fetch] before ∧
      step before .reconcile = some after ∧ RolledBack before after :=
  ⟨_, _, Run.of_exec rfl, rfl, ⟨⟨3, [2, 1]⟩, 100⟩, rfl, ⟨⟨2, [1]⟩, 101⟩, rfl, by decide⟩

end WalkingRpg.Cloud

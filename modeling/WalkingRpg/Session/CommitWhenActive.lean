import WalkingRpg.Library.OneShot
import WalkingRpg.Session.Confirmation

/-! Deferred paints.

`commitWhenActive` arms a commit that runs at its timeout, if the app is active by then, or at the
next event that reports the app active. The hook keeps the cancellation of the last one. This layer
puts the timers, the listeners and the cancellations under the session's pending commit, and keeps
an account of what the most recently started call has found.
-/

set_option autoImplicit false

namespace WalkingRpg

namespace Session

open OneShot (Shots)
open OneShot.Shots (Tries Accounted Sole)
open Runs (Run)

def Commit.gen : Commit → Option Nat
  | .archetypeSelection gen | .loadedPlayer gen => some gen
  | .createdPlayer => none

def paintOf (gen : Nat) (localData : Option Snapshot) : Commit :=
  if (localData.bind Snapshot.decoded).isSome then .loadedPlayer gen else .archetypeSelection gen

namespace State

def arms (session : State) : Action → Option Commit
  | .loadResume i => (session.loadTakes i).map (paintOf session.initGenerationRef)
  | .writeResume i => session.writes[i]?.bind fun write => if write.paints then some .createdPlayer else none
  | _ => none

def reconciles (session : State) (i : Nat) : Option ReconcileResult :=
  match session.checks[i]? with
  | some ⟨gen, true, .resolved result⟩ => if gen = session.initGenerationRef then some result else none
  | _ => none

end State

theorem State.loadTakes_eq {session : State} {i : Nat} {load : Load} {localData : Option Snapshot}
    (found : session.loads[i]? = some load) (resumed : load.read.resume = some (.inr localData)) :
    session.loadTakes i = if load.gen = session.initGenerationRef then some localData else none := by
  simp [State.loadTakes, found, resumed]

theorem State.loadTakes_waits {session : State} {i : Nat} {load : Load} {next : LocalRead}
    (found : session.loads[i]? = some load) (resumed : load.read.resume = some (.inl next)) :
    session.loadTakes i = none := by
  simp [State.loadTakes, found, resumed]

theorem State.loadPlayer_pendingCommit (session : State) (localData : Option Snapshot) :
    (session.loadPlayer session.initGenerationRef localData).pendingCommit =
      some (paintOf session.initGenerationRef localData) := by
  cases localData with
  | none => simp [State.loadPlayer, paintOf]
  | some snapshot =>
    cases decoded : fromJSON snapshot.save snapshot.created <;>
      simp [State.loadPlayer, paintOf, Snapshot.decoded, decoded]

theorem State.loadPlayer_stale {session : State} {gen : Nat} (localData : Option Snapshot)
    (stale : gen ≠ session.initGenerationRef) : session.loadPlayer gen localData = session := by
  simp [State.loadPlayer, stale]

theorem State.Settles.pendingCommit {session after : State} (settled : session.Settles after) :
    after.pendingCommit = session.pendingCommit := by
  cases settled <;> rfl

theorem pendingCommit_of_step {session after : State} {action : Action} (taken : step session action = some after)
    (commits : action ≠ .commit) (clears : action ≠ .clearPlayer) :
    after.pendingCommit = (session.arms action).elim session.pendingCommit some := by
  cases does_of_step taken with
  | commit => exact absurd rfl commits
  | clearPlayer => exact absurd rfl clears
  | @loadResume i load outcome found resumed =>
    cases outcome with
    | inl next => simp [State.arms, State.loadTakes_waits found resumed, State.loadResume]
    | inr localData =>
      by_cases current : load.gen = session.initGenerationRef
      · have armed := State.loadPlayer_pendingCommit
          { session with loads := session.loads.eraseIdx i } localData
        simpa [State.arms, State.loadTakes_eq found resumed, current, State.loadResume] using armed
      · have unchanged := @State.loadPlayer_stale { session with loads := session.loads.eraseIdx i }
          load.gen localData current
        simp [State.arms, State.loadTakes_eq found resumed, current, State.loadResume, unchanged]
  | @writeResume i write success found =>
    simp only [State.arms, found, State.writeResume, Option.bind_some]
    split <;> rfl
  | becomeActive =>
    obtain ⟨_, _, repainted⟩ := session.becomeActive_eq
    rw [repainted]
    rfl
  | @checkCompared _ _ _ _ outcome _ _ _ => cases outcome <;> rfl
  | @handleReconciled i gen result now _ =>
    have settled := State.settles_handleReconciled
      { session with checks := session.checks.set i ⟨gen, false, .resolved result⟩ } gen result now
    exact settled.pendingCommit
  | handleArchetypeSelected =>
    simp only [State.handleArchetypeSelected]
    split <;> rfl
  | @selectionRetries i selection _ _ =>
    simp only [State.selectionRetries]
    split <;> rfl
  | @selectionChecked i _ selection _ result now _ _ _ _ =>
    simp only [State.selectionChecked]
    split
    · rfl
    · split
      · rfl
      · exact (State.settles_finishSelection _ _ _ _).pendingCommit
  | @setPlayerAndSave updated now =>
    obtain ⟨_, saved⟩ := session.setPlayerAndSave_eq updated now
    rw [saved]
    rfl
  | initializePlayer => rfl
  | loadAccess => rfl
  | reconcileEffect => rfl
  | checkFetched => rfl
  | checkAccessed => rfl
  | checkWritten => rfl
  | checkAdopted => rfl
  | writeAccess => rfl
  | cloudBecomes => rfl

/-- What the most recently started call has found. No code reads it. -/
inductive Latest where
  /-- No load since the hook was mounted or cleared. -/
  | cleared
  | loading
  /-- The local read of the call, and the result of its generation's reconcile. -/
  | loaded (localData : Option Snapshot) (reconciled : Option ReconcileResult)

def Latest.reconcile (result : ReconcileResult) : Latest → Latest
  | .loaded localData _ => .loaded localData (some result)
  | latest => latest

def Latest.follow (session : State) (latest : Latest) : Action → Latest
  | .initializePlayer => .loading
  | .clearPlayer => .cleared
  | .loadResume i => (session.loadTakes i).elim latest fun localData => .loaded localData none
  | .handleReconciled i _ => (session.reconciles i).elim latest fun result => latest.reconcile result
  | _ => latest

structure Mounted where
  session : State
  /-- The commits armed so far, by number. -/
  commits : Shots Commit
  pendingCommitUnsubRef : Option Nat
  /-- `AppState.currentState` is `'active'`. -/
  active : Bool
  needsArchetypeRef : Bool
  latest : Latest

namespace Mounted

variable (mounted : Mounted)

def cancelPending : Mounted :=
  { mounted with
    commits := mounted.pendingCommitUnsubRef.elim mounted.commits mounted.commits.cancel
    pendingCommitUnsubRef := none }

def commitWhenActive (commit : Commit) : Mounted :=
  let mounted := mounted.cancelPending
  { mounted with
    commits := mounted.commits.arm commit
    pendingCommitUnsubRef := some mounted.commits.armed.length }

def conclude : Shots Commit × Option Commit → Mounted
  | (commits, none) => { mounted with commits := commits }
  -- The handle is given up before the commit runs.
  | (commits, some commit) =>
    { mounted with commits := commits, pendingCommitUnsubRef := none, session := mounted.session.commit commit }

def listener (i : Nat) : Mounted := mounted.conclude (mounted.commits.notify i)

/-- The hook's own listener, subscribed before every commit. -/
def reassert : Mounted :=
  if mounted.session.playerRef.isSome then { mounted with session := mounted.session.becomeActive }
  else if mounted.needsArchetypeRef then
    { mounted with session := { mounted.session with needsArchetypeSelection := true } }
  else mounted

/-- The event `'change'`. The listeners are called one after the other without a break. -/
def change (active : Bool) : Mounted :=
  let mounted := { mounted with active := active }
  -- The listeners of commits that are gone do nothing.
  if active then (List.range mounted.commits.armed.length).foldl listener mounted.reassert else mounted

def defer (before : State) (action : Action) : Mounted :=
  match before.arms action, action with
  | some commit, _ => mounted.commitWhenActive commit
  | none, .clearPlayer => mounted.cancelPending
  | none, _ => mounted

def hook (action : Action) : Option Mounted :=
  match action with
  | .commit | .becomeActive => none
  | action => (Session.step mounted.session action).map fun after =>
    { mounted with
      session := after
      latest := mounted.latest.follow mounted.session action }.defer mounted.session action

inductive Turn where
  | hook (action : Action)
  | timer (i : Nat)
  | change (active : Bool)
  /-- The effect that copies `needsArchetypeSelection` to its ref. -/
  | mirror

def step (mounted : Mounted) : Turn → Option Mounted
  | .hook action => mounted.hook action
  | .timer i => (mounted.commits.timeout i mounted.active).map mounted.conclude
  | .change active => some (mounted.change active)
  | .mirror => some { mounted with needsArchetypeRef := mounted.session.needsArchetypeSelection }

def mount (saved : Option (SaveData × ℤ)) (cloud : Option CloudRecord) (active : Bool) : Mounted where
  session := start saved cloud
  commits := .empty
  pendingCommitUnsubRef := none
  active := active
  needsArchetypeRef := false
  latest := .cleared

variable {mounted}

theorem change_induction {motive : Mounted → Prop} {active : Bool}
    (changes : motive { mounted with active := active })
    (reasserts : active = true → motive { mounted with active := active }.reassert)
    (listens : ∀ mounted i, motive mounted → motive (mounted.listener i)) : motive (mounted.change active) := by
  cases active with
  | false => exact changes
  | true =>
    show motive (List.foldl listener _ _)
    -- Which listeners are called does not matter, so the induction is on any list of them.
    generalize List.range _ = numbers
    have begun := reasserts rfl
    generalize Mounted.reassert _ = current at begun ⊢
    induction numbers generalizing current with
    | nil => exact begun
    | cons i rest ih => exact ih _ (listens current i begun)

/-- The pending commit of the session is the one that waits under the hook's handle, and no other
waits. -/
structure Deferring (mounted : Mounted) : Prop where
  accounted : Accounted mounted.commits
  sole : Sole mounted.commits mounted.pendingCommitUnsubRef
  pending : mounted.session.pendingCommit = mounted.commits.waiting mounted.pendingCommitUnsubRef

theorem accounted_cancelPending (accounted : Accounted mounted.commits) : Accounted mounted.cancelPending.commits := by
  unfold cancelPending
  cases mounted.pendingCommitUnsubRef with
  | none => exact accounted
  | some i => exact accounted.cancel i

theorem Deferring.cancelPending {session : State} {latest : Latest} (deferring : mounted.Deferring)
    (none : session.pendingCommit = none) :
    { mounted with session := session, latest := latest }.cancelPending.Deferring where
  accounted := accounted_cancelPending deferring.accounted
  sole := deferring.sole.cancel
  pending := none

theorem Deferring.commitWhenActive {session : State} {latest : Latest} {commit : Commit}
    (deferring : mounted.Deferring) (armed : session.pendingCommit = some commit) :
    ({ mounted with session := session, latest := latest }.commitWhenActive commit).Deferring where
  accounted := (accounted_cancelPending deferring.accounted).arm commit
  sole := deferring.sole.cancel.arm commit
  pending := armed.trans (OneShot.Shots.waiting_arm _ commit).symm

inductive Concludes (mounted : Mounted) : Mounted → Prop where
  | waits (commits : Shots Commit) : Concludes mounted { mounted with commits := commits }
  | commits {commit : Commit} (commits : Shots Commit) (pending : mounted.session.pendingCommit = some commit) :
      Concludes mounted
        { mounted with
          commits := commits, pendingCommitUnsubRef := none, session := mounted.session.commit commit }

theorem Deferring.conclude {i : Nat} {outcome : Shots Commit × Option Commit} (deferring : mounted.Deferring)
    (tried : Tries mounted.commits i outcome) :
    (mounted.conclude outcome).Deferring ∧ mounted.Concludes (mounted.conclude outcome) := by
  have accounted := deferring.accounted.tries tried
  obtain ⟨commits, ran⟩ := outcome
  rcases deferring.sole.tries tried with ⟨rfl, sole, waiting⟩ | ⟨commit, rfl, waiting, sole⟩
  · exact ⟨⟨accounted, sole, deferring.pending.trans waiting.symm⟩, .waits commits⟩
  · have pending := deferring.pending.trans waiting
    refine ⟨⟨accounted, sole, ?_⟩, .commits commits pending⟩
    obtain ⟨_, _, painted⟩ := mounted.session.commit_eq commit
    show (mounted.session.commit commit).pendingCommit = none
    rw [painted]

theorem step_of_hook {action : Action} {after : Mounted} (taken : mounted.hook action = some after) :
    ∃ session, Session.step mounted.session action = some session ∧ action ≠ .commit ∧ action ≠ .becomeActive ∧
      after = { mounted with
        session := session
        latest := mounted.latest.follow mounted.session action }.defer mounted.session action := by
  unfold Mounted.hook at taken
  split at taken
  · cases taken
  · cases taken
  · rename_i commits activates
    obtain ⟨session, stepped, rfl⟩ := Option.map_eq_some_iff.mp taken
    exact ⟨session, stepped, commits, activates, rfl⟩

@[simp] theorem defer_session (mounted : Mounted) (before : State) (action : Action) :
    (mounted.defer before action).session = mounted.session := by
  unfold defer
  split <;> rfl

@[simp] theorem defer_latest (mounted : Mounted) (before : State) (action : Action) :
    (mounted.defer before action).latest = mounted.latest := by
  unfold defer
  split <;> rfl

theorem Deferring.hook {action : Action} {after : Mounted} (deferring : mounted.Deferring)
    (taken : mounted.hook action = some after) : after.Deferring := by
  obtain ⟨session, stepped, commits, _, rfl⟩ := step_of_hook taken
  unfold defer
  by_cases clears : action = .clearPlayer
  · subst clears
    cases Option.some.inj stepped
    exact deferring.cancelPending rfl
  · have pending := pendingCommit_of_step stepped commits clears
    split
    · rename_i commit armed
      rw [armed] at pending
      exact deferring.commitWhenActive pending
    · exact absurd rfl clears
    -- Nothing is armed or cancelled, and the session keeps its pending commit.
    · rename_i unarmed
      rw [unarmed] at pending
      exact ⟨deferring.accounted, deferring.sole, pending.trans deferring.pending⟩

theorem Deferring.reassert (deferring : mounted.Deferring) : mounted.reassert.Deferring := by
  have pending : mounted.session.becomeActive.pendingCommit = mounted.session.pendingCommit := by
    obtain ⟨_, _, repainted⟩ := mounted.session.becomeActive_eq
    rw [repainted]
  unfold Mounted.reassert
  split
  · exact ⟨deferring.accounted, deferring.sole, pending.trans deferring.pending⟩
  · split <;> exact ⟨deferring.accounted, deferring.sole, deferring.pending⟩

theorem Deferring.step {turn : Turn} {after : Mounted} (deferring : mounted.Deferring)
    (taken : mounted.step turn = some after) : after.Deferring := by
  cases turn with
  | hook action => exact deferring.hook taken
  | timer i =>
    obtain ⟨outcome, passed, rfl⟩ := Option.map_eq_some_iff.mp taken
    exact (deferring.conclude (OneShot.Shots.tries_of_timeout passed)).1
  | change active =>
    cases Option.some.inj taken
    have changed : { mounted with active := active }.Deferring :=
      ⟨deferring.accounted, deferring.sole, deferring.pending⟩
    apply change_induction changed
    · intro _
      exact changed.reassert
    · intro mounted i current
      exact (current.conclude (OneShot.Shots.tries_notify _ i)).1
  | mirror =>
    cases Option.some.inj taken
    exact ⟨deferring.accounted, deferring.sole, deferring.pending⟩

theorem deferring_mount (saved : Option (SaveData × ℤ)) (cloud : Option CloudRecord) (active : Bool) :
    (mount saved cloud active).Deferring where
  accounted := OneShot.Shots.accounted_empty
  sole := OneShot.Shots.sole_empty
  pending := rfl

variable {allowed : Mounted → Turn → Prop} {saved : Option (SaveData × ℤ)} {cloud : Option CloudRecord}
variable {active : Bool} {turns : List Turn} {final : Mounted}

theorem run_deferring (run : Run step allowed (mount saved cloud active) turns final) : final.Deferring :=
  run.invariant Deferring (deferring_mount saved cloud active)
    (fun _ _ _ deferring _ taken => deferring.step taken)

/-- The ref agrees with the state it mirrors where the hook's listener reads it. -/
def Mirrored (mounted : Mounted) : Prop :=
  mounted.session.playerRef = none → mounted.needsArchetypeRef = true →
    mounted.session.needsArchetypeSelection = true

theorem reassert_eq (mirrored : mounted.Mirrored) :
    mounted.reassert = { mounted with session := mounted.session.becomeActive } := by
  unfold Mounted.reassert
  split
  · rfl
  · rename_i absent
    rw [State.becomeActive_of_absent absent]
    split
    · rename_i archetype
      -- The state is set to the value that it has.
      have needs := mirrored (by simpa using absent) archetype
      rw [← needs]
    · rfl

theorem Deferring.keeps {motive : Latest → State → Prop} {turn : Turn} {after : Mounted}
    (deferring : mounted.Deferring) (taken : mounted.step turn = some after)
    (mirrored : turn = .change true → mounted.Mirrored)
    (hooks : ∀ action session, turn = .hook action → Session.step mounted.session action = some session →
      action ≠ .commit → action ≠ .becomeActive → motive (mounted.latest.follow mounted.session action) session)
    (commits : ∀ latest session commit, session.pendingCommit = some commit → motive latest session →
      motive latest (session.commit commit))
    (activates : ∀ latest session, motive latest session → motive latest session.becomeActive)
    (held : motive mounted.latest mounted.session) : motive after.latest after.session := by
  -- Timers and listeners reach the session through its pending commit only.
  have concludes {current next : Mounted} (concluded : current.Concludes next)
      (held : motive current.latest current.session) : motive next.latest next.session := by
    cases concluded with
    | waits => exact held
    | commits _ pending => exact commits _ _ _ pending held
  cases turn with
  | hook action =>
    obtain ⟨session, stepped, commits, activates, rfl⟩ := step_of_hook taken
    simpa using hooks action session rfl stepped commits activates
  | timer i =>
    obtain ⟨outcome, passed, rfl⟩ := Option.map_eq_some_iff.mp taken
    exact concludes (deferring.conclude (OneShot.Shots.tries_of_timeout passed)).2 held
  | change active =>
    cases Option.some.inj taken
    have changed : { mounted with active := active }.Deferring :=
      ⟨deferring.accounted, deferring.sole, deferring.pending⟩
    refine (change_induction (motive := fun current => current.Deferring ∧ motive current.latest current.session)
      ⟨changed, held⟩ ?_ ?_).2
    · rintro rfl
      refine ⟨changed.reassert, ?_⟩
      rw [@reassert_eq { mounted with active := true } (mirrored rfl)]
      exact activates _ _ held
    · intro current i ⟨current_deferring, current_held⟩
      have concluded := current_deferring.conclude (OneShot.Shots.tries_notify _ i)
      exact ⟨concluded.1, concludes concluded.2 current_held⟩
  | mirror =>
    cases Option.some.inj taken
    exact held

theorem run_refines
    (run : Run step (fun mounted turn => turn = .change true → mounted.Mirrored) (mount saved cloud active) turns final) :
    ∃ actions, Run Session.step (fun _ _ => True) (start saved cloud) actions final.session := by
  have extend {session after : State} (action : Action) (stepped : Session.step session action = some after)
      (reached : ∃ actions, Run Session.step (fun _ _ => True) (start saved cloud) actions session) :
      ∃ actions, Run Session.step (fun _ _ => True) (start saved cloud) actions after := by
    obtain ⟨actions, earlier⟩ := reached
    exact ⟨_, .snoc earlier trivial stepped⟩
  refine (run.invariant (fun mounted => mounted.Deferring ∧
    ∃ actions, Run Session.step (fun _ _ => True) (start saved cloud) actions mounted.session)
    ⟨deferring_mount saved cloud active, [], .nil _⟩ ?_).2
  rintro before turn after ⟨deferring, reached⟩ mirrored taken
  refine ⟨deferring.step taken, ?_⟩
  apply deferring.keeps (motive := fun _ session =>
    ∃ actions, Run Session.step (fun _ _ => True) (start saved cloud) actions session) taken mirrored
  · intro action session _ stepped _ _
    exact extend action stepped reached
  · intro _ session commit pending earlier
    refine extend .commit ?_ earlier
    simp [Session.step, pending]
  · intro _ session earlier
    exact extend .becomeActive rfl earlier
  · exact reached

end Mounted

end Session

end WalkingRpg

import WalkingRpg.Account.Ownership
import WalkingRpg.Account.Within

/-! What an account switch leaves of the previous account in the local store.

The callback of the switch ends the generation of the previous account, so that nothing of it
becomes live again. The storage operations under way do not look at the generation: a write or
a reconcile that is pending when the keys are removed may put its data there afterwards. If
none is pending, and none of the data has been sent to another account, it stays away.
-/

set_option autoImplicit false

namespace WalkingRpg

namespace Account

open Runs (Run)
open Session (CloudRecord SaveData Check LocalWrite)

variable {account : Nat} {previous current : User} {app next : State} {action : Action} {i : Nat}

/-- A session of the one user, who becomes the other one once the start-up has ended; up to the removal
of the keys. -/
def Leaves (previous current : User) (app : State) : Action → Prop
  | .session _ | .deliverCallback | .startupAccess _ | .startupResume | .uploadArrives _ | .uploadFails _
  | .docBecomes _ _ | .restart => True
  | .userChanges user => app.currentUser = some previous ∧ app.startup.isNone = true ∧ user = some current
  | .switchAccess _ _ | .switchResume _ | .handleAccountConflict _ | .flowAccess _ | .flowSignIn _ | .flowFetch _
  | .flowResume | .resolveConflict _ | .resolutionAccess _ | .resolutionResume _ => False

/-- No sign-in to the account, and no choice between two saves. -/
def Elsewhere (account : Nat) (app : State) : Action → Prop
  | .userChanges user => uidOf user ≠ some account
  | .flowSignIn _ => ∀ flow ∈ app.flow, flow.target.uid ≠ account
  | .resolveConflict _ => False
  | _ => True

/-- Nothing of the account is on its way to the local store, and none of its data was sent to the document
of another account. -/
structure Quiet (account : Nat) (app : State) : Prop where
  writes : ∀ pair ∈ app.session.writes.zip app.history.writes,
    pair.1.sync = true ∨ pair.1.outcome = none → pair.2.origin ≠ some account
  checks : ∀ pair ∈ app.session.checks.zip app.checkUsers, pair.1.phase.mayStore = true → pair.2 ≠ some account
  uploads : ∀ upload ∈ app.uploads, upload.uid ≠ account → upload.label.origin ≠ some account

instance (action : Action) : Decidable (Leaves previous current app action) := by
  apply @Action.casesOn fun action => Decidable (Leaves previous current app action)
  all_goals intros; dsimp only [Leaves]; infer_instance

instance (action : Action) : Decidable (Elsewhere account app action) := by
  apply @Action.casesOn fun action => Decidable (Elsewhere account app action)
  all_goals intros; dsimp only [Elsewhere]; infer_instance

instance : Decidable (Quiet account app) :=
  decidable_of_iff
    ((∀ pair ∈ app.session.writes.zip app.history.writes,
        pair.1.sync = true ∨ pair.1.outcome = none → pair.2.origin ≠ some account) ∧
      (∀ pair ∈ app.session.checks.zip app.checkUsers, pair.1.phase.mayStore = true → pair.2 ≠ some account) ∧
      ∀ upload ∈ app.uploads, upload.uid ≠ account → upload.label.origin ≠ some account)
    ⟨fun ⟨writes, checks, uploads⟩ => ⟨writes, checks, uploads⟩, fun ⟨writes, checks, uploads⟩ =>
      ⟨writes, checks, uploads⟩⟩

def Apart (account : Nat) (origin : Option Nat) : Prop := origin ≠ some account

/-- Where the switch stands. The callback may also see no switch: then the keys are not removed. -/
inductive Stage (previous current : User) (app : State) : Prop where
  | home (user : app.currentUser = some previous) (reports : ∀ told ∈ app.callbacks, told = some previous)
      (seen : app.prevUidRef = none ∨ app.prevUidRef = some previous.uid)
      (armed : app.pendingBelatedSignInRef = false) (idle : app.switches = [])
      (sent : ∀ upload ∈ app.uploads, upload.uid = previous.uid)
  | left (user : app.currentUser = some current) (started : app.startup = none)
      (reports : ∃ earlier, app.callbacks = earlier ++ [some current] ∧ ∀ told ∈ earlier, told = some previous)
      (seen : app.prevUidRef = none ∨ app.prevUidRef = some previous.uid)
      (armed : app.pendingBelatedSignInRef = false) (idle : app.switches = [])
  | switching (user : app.currentUser = some current) (started : app.startup = none) (reports : app.callbacks = [])
      (apart : app.sends (Apart previous.uid) → Within (Apart previous.uid) false app)
  | missed (user : app.currentUser = some current) (reports : ∀ told ∈ app.callbacks, told = some current)
      (seen : app.prevUidRef = none ∨ app.prevUidRef = some current.uid) (idle : app.switches = [])

structure Leaving (previous current : User) (app : State) : Prop where
  unchosen : app.resolution = none
  sourced : app.sends (Apart previous.uid) → Sourced (Apart previous.uid) app
  stage : Stage previous current app

theorem sends_of_performs {admissible : Option Nat → Prop} (unchosen : app.resolution = none)
    (done : Performs app action next) (sends : next.sends admissible) : app.sends admissible := by
  intro upload member own
  obtain ⟨kept, here, sameUid, sameLabel⟩ := exists_upload_of_performs unchosen done member
  rw [← sameLabel]
  exact sends kept here (sameUid ▸ own)

namespace Stage

theorem callback {told : Option User} {rest : List (Option User)}
    (stage : Stage previous current app) (sourced : app.sends (Apart previous.uid) → Sourced (Apart previous.uid) app)
    (pending : app.callbacks = told :: rest)
    (reported : Told { app with callbacks := rest } told next) : Stage previous current next := by
  cases stage with
  | home user reports seen armed idle sent =>
    obtain rfl : told = some previous := reports told (by simp [pending])
    have later : ∀ told ∈ rest, told = some previous := fun told member => reports told (by simp [pending, member])
    cases reported with
    | noted => exact .home user later (.inr rfl) armed idle sent
    | resigned _ changed | switched _ changed => exact absurd (seen.resolve_left changed.1) changed.2.2
    | belated _ fires => cases armed.symm.trans fires
  | left user started reports seen armed idle =>
    obtain ⟨earlier, here, reports⟩ := reports
    rw [pending] at here
    cases earlier with
    | nil =>
      obtain ⟨rfl, rfl⟩ := List.cons.inj here
      cases reported with
      | noted | resigned => exact .missed user (fun _ member => by cases member) (.inr rfl) idle
      | switched =>
        refine .switching user started rfl fun sends => ?_
        exact { (sourced sends).clearPlayer with aligned := { (sourced sends).aligned.clearPlayer with } }
      | belated _ fires => cases armed.symm.trans fires
    | cons first earlier =>
      obtain ⟨rfl, rfl⟩ := List.cons.inj here
      obtain rfl : told = some previous := reports told List.mem_cons_self
      cases reported with
      | noted =>
        exact .left user started ⟨earlier, rfl, fun told member => reports told (List.mem_cons_of_mem _ member)⟩
          (.inr rfl) armed idle
      | resigned _ changed | switched _ changed => exact absurd (seen.resolve_left changed.1) changed.2.2
      | belated _ fires => cases armed.symm.trans fires
  | switching _ _ reports => cases reports.symm.trans pending
  | missed user reports seen idle =>
    obtain rfl : told = some current := reports told (by simp [pending])
    have later : ∀ told ∈ rest, told = some current := fun told member => reports told (by simp [pending, member])
    cases reported with
    | noted | belated => exact .missed user later (.inr rfl) idle
    | resigned _ changed | switched _ changed => exact absurd (seen.resolve_left changed.1) changed.2.2

structure Unmoved (app next : State) : Prop where
  user : next.currentUser = app.currentUser
  reports : next.callbacks = app.callbacks
  seen : next.prevUidRef = app.prevUidRef
  armed : next.pendingBelatedSignInRef = app.pendingBelatedSignInRef ∨
    next.pendingBelatedSignInRef = app.currentUser.isNone
  idle : next.switches = app.switches
  started : app.startup = none → next.startup = none
  sent : ∀ upload ∈ next.uploads, (∃ old ∈ app.uploads, upload.uid = old.uid) ∨ app.uid = some upload.uid

theorem unmoved (stage : Stage previous current app) (step : Unmoved app next)
    (apart : app.startup = none → app.currentUser = some current →
      (app.sends (Apart previous.uid) → Within (Apart previous.uid) false app) →
      next.sends (Apart previous.uid) → Within (Apart previous.uid) false next) :
    Stage previous current next := by
  have disarmed : ∀ user, app.currentUser = some user → app.pendingBelatedSignInRef = false →
      next.pendingBelatedSignInRef = false := by
    intro user here armed
    rcases step.armed with same | same
    · rw [same, armed]
    · rw [same, here]
      rfl
  cases stage with
  | home user reports seen armed idle sent =>
    refine .home (step.user.trans user) (step.reports ▸ reports) (step.seen ▸ seen) (disarmed _ user armed)
      (step.idle.trans idle) fun upload member => ?_
    rcases step.sent upload member with ⟨old, member, same⟩ | own
    · exact same.trans (sent old member)
    · simpa [State.uid, uidOf, user] using own.symm
  | left user started reports seen armed idle =>
    exact .left (step.user.trans user) (step.started started) (step.reports ▸ reports) (step.seen ▸ seen)
      (disarmed _ user armed) (step.idle.trans idle)
  | switching user started reports within =>
    exact .switching (step.user.trans user) (step.started started) (step.reports.trans reports)
      (apart started user within)
  | missed user reports seen idle =>
    exact .missed (step.user.trans user) (step.reports ▸ reports) (step.seen ▸ seen) (step.idle.trans idle)

theorem restart (stage : Stage previous current app) : Stage previous current app.launch := by
  have reported : ∀ {user : User}, app.currentUser = some user → ∀ told ∈ app.launch.callbacks, told = some user := by
    intro user here told member
    exact (List.mem_singleton.mp member).trans here
  cases stage with
  | home user _ _ _ _ sent => exact .home user (reported user) (.inl rfl) rfl rfl sent
  | left user | switching user | missed user => exact .missed user (reported user) (.inl rfl) rfl

end Stage

namespace Leaving

theorem session (inv : Leaving previous current app) (other : current.uid ≠ previous.uid)
    {action : Session.Action} {after : Session.State} (admitted : app.admits action = true)
    (taken : app.sessionStep action = some after) : Leaving previous current (app.follow action after) := by
  have earlier : (app.follow action after).sends (Apart previous.uid) → app.sends (Apart previous.uid) :=
    sends_of_performs inv.unchosen (.session admitted taken)
  obtain ⟨uploads, stamp, same, grown⟩ := app.follow_eq action after
  refine ⟨?_, fun sends => (inv.sourced (earlier sends)).sessionStep sends admitted taken, inv.stage.unmoved ?_ ?_⟩
  · rw [same]
    exact inv.unchosen
  · rw [same]
    refine ⟨rfl, rfl, rfl, .inl rfl, rfl, id, fun upload member => ?_⟩
    rcases grown with rfl | ⟨new, rfl, own⟩
    · exact .inl ⟨upload, member, rfl⟩
    · rcases List.mem_append.mp member with old | added
      · exact .inl ⟨upload, old, rfl⟩
      · rw [List.mem_singleton.mp added]
        exact .inr own
  · intro _ user within sends
    have apart : Apart previous.uid app.uid := by
      rw [State.uid, user]
      exact fun same => other (Option.some.inj same)
    exact (within (earlier sends)).sessionStep (fun _ => apart) sends admitted taken

theorem step (inv : Leaving previous current app) (other : current.uid ≠ previous.uid)
    (allowed : Leaves previous current app action) (taken : Account.step app action = some next) :
    Leaving previous current next := by
  have done := performs_of_step taken
  have earlier : next.sends (Apart previous.uid) → app.sends (Apart previous.uid) :=
    sends_of_performs inv.unchosen done
  have sourced := fun sends => (inv.sourced (earlier sends)).performs sends inv.unchosen done
  have settled : ∀ {i : Nat} {old : Upload}, app.uploads[i]? = some old →
      ∀ upload ∈ app.uploads.set i { old with settled := true }, ∃ former ∈ app.uploads, upload.uid = former.uid := by
    intro i old found upload member
    rcases List.mem_or_eq_of_mem_set member with kept | rfl
    · exact ⟨upload, kept, rfl⟩
    · exact ⟨old, List.mem_of_getElem? found, rfl⟩
  have sent : ∀ upload ∈ app.uploads, (∃ old ∈ app.uploads, upload.uid = old.uid) ∨ app.uid = some upload.uid :=
    fun upload member => .inl ⟨upload, member, rfl⟩
  cases done with
  | session admitted stepped => exact inv.session other admitted stepped
  | userChanges user =>
    obtain ⟨here, started, rfl⟩ := allowed
    refine ⟨inv.unchosen, sourced, ?_⟩
    cases inv.stage with
    | home _ reports seen armed idle =>
      exact .left rfl (Option.isNone_iff_eq_none.mp started) ⟨app.callbacks, rfl, reports⟩ seen armed idle
    | left user | switching user | missed user =>
      cases user.symm.trans here
      exact absurd rfl other
  | @callback told rest pending =>
    have reported := told_onAuthStateChanged { app with callbacks := rest } told
    exact ⟨reported.keeps.2.2.2.1.trans inv.unchosen, sourced, inv.stage.callback inv.sourced pending reported⟩
  | authenticated here | conflictRead here | conflictStale here | conflictCleared here | conflictFound here =>
    refine ⟨inv.unchosen, sourced, inv.stage.unmoved ⟨rfl, rfl, rfl, .inl rfl, rfl, ?_, sent⟩ ?_⟩
    all_goals
      intro started
      cases started.symm.trans here
  | sessionStarts here =>
    refine ⟨inv.unchosen, sourced, inv.stage.unmoved ⟨rfl, rfl, rfl, .inr rfl, rfl, fun _ => rfl, sent⟩ ?_⟩
    intro started
    rcases here with ⟨_, here⟩ | here
    all_goals cases started.symm.trans here
  | @arrives i upload found =>
    have arrived := fun within : Within (Apart previous.uid) false app => within.arrive found
    refine ⟨inv.unchosen, sourced, inv.stage.unmoved
      ⟨rfl, rfl, rfl, .inl rfl, rfl, id, fun upload member => .inl (settled found upload member)⟩ ?_⟩
    exact fun _ _ within sends => arrived (within (earlier sends))
  | fails found =>
    refine ⟨inv.unchosen, sourced, inv.stage.unmoved
      ⟨rfl, rfl, rfl, .inl rfl, rfl, id, fun upload member => .inl (settled found upload member)⟩ ?_⟩
    intro _ _ within sends
    exact (within (earlier sends)).of_sourced (sourced sends) rfl rfl rfl
  | docBecomes uid record =>
    refine ⟨inv.unchosen, sourced, inv.stage.unmoved ⟨rfl, rfl, rfl, .inl rfl, rfl, id, sent⟩ ?_⟩
    intro _ _ within sends
    exact (within (earlier sends)).of_sourced (sourced sends) rfl rfl rfl
  | restarts => exact ⟨rfl, sourced, inv.stage.restart⟩
  | _ => exact allowed.elim

end Leaving

variable {saved : Option (SaveData × ℤ)} {savedOrigin : Option Nat} {records : Nat → Option CloudRecord}
variable {pending : Option Conflict} {actions rest : List Action} {before middle : State}

theorem Sourced.start (account : Nat) (saved : Option (SaveData × ℤ)) (savedOrigin : Option Nat)
    (user : Option User) (records : Nat → Option CloudRecord) (pending : Option Conflict) :
    Sourced (Apart account) (Account.start saved savedOrigin user records pending) where
  aligned := .start saved savedOrigin user records pending
  uploads := fun _ member => by cases member
  docs := fun uid apart document member => by
    obtain ⟨_, _, rfl⟩ := Option.map_eq_some_iff.mp (Option.mem_def.mp member)
    exact apart
  checks := fun _ _ member => by cases member

theorem run_leaving (other : current.uid ≠ previous.uid)
    (run : Run step (Leaves previous current) (Account.start saved savedOrigin (some previous) records pending)
      actions before) : Leaving previous current before := by
  refine run.invariant (Leaving previous current) ⟨rfl, fun _ => .start .., ?_⟩
    fun _ _ _ inv allowed taken => inv.step other allowed taken
  exact .home rfl (fun _ member => List.mem_singleton.mp member) (.inl rfl) rfl rfl fun _ member => by cases member

theorem Leaving.removed (inv : Leaving previous current before) (other : current.uid ≠ previous.uid)
    (quiet : Quiet previous.uid before) (removed : Account.step before (.switchAccess i true) = some middle) :
    middle.resolution = none ∧ Apart previous.uid middle.uid ∧ Within (Apart previous.uid) true middle := by
  cases performs_of_step removed with
  | switchCleared found =>
    cases inv.stage with
    | home _ _ _ _ idle | left _ _ _ _ _ idle | missed _ _ _ idle => simp [idle] at found
    | switching user _ _ apart =>
      have within := apart fun upload member own => quiet.uploads upload member fun same => own (same ▸ rfl)
      refine ⟨inv.unchosen, ?_, ?_⟩
      · show uidOf before.currentUser ≠ some previous.uid
        rw [user]
        exact fun same => other (Option.some.inj same)
      · exact
          { within with
            aligned := { within.aligned with }
            saved := fun _ same => by cases same
            writes := fun _ write label member => quiet.writes (write, label) member
            loads := fun load origin member current => by cases (within.loads load origin member current).1
            users := fun check user member bound =>
              bound.elim (fun since => within.users check user member (.inl since))
                fun stores => quiet.checks (check, user) member stores.2 }

theorem within_of_step (inv : app.resolution = none ∧ Apart account app.uid ∧ Within (Apart account) true app)
    (allowed : Elsewhere account app action) (taken : step app action = some next) :
    next.resolution = none ∧ Apart account next.uid ∧ Within (Apart account) true next := by
  obtain ⟨unchosen, apart, within⟩ := inv
  have done := performs_of_step taken
  have absent : Apart account none := fun same => by cases same
  have kept := within.performs unchosen (.inl absent) (fun _ _ _ => apart) done
  suffices rest : next.resolution = none ∧ Apart account next.uid from ⟨rest.1, rest.2, kept⟩
  cases done with
  | session =>
    obtain ⟨_, _, same, _⟩ := app.follow_eq _ _
    rw [same]
    exact ⟨unchosen, apart⟩
  | userChanges user => exact ⟨unchosen, allowed⟩
  | @callback told rest =>
    have keeps := (told_onAuthStateChanged { app with callbacks := rest } told).keeps
    refine ⟨keeps.2.2.2.1.trans unchosen, ?_⟩
    rw [State.uid, keeps.1]
    exact apart
  | @switchCleared i success | @flowCleared _ success =>
    obtain ⟨_, _, same⟩ := clearLocalPlayerData_eq app success
    simp only [State.switchAccess, same]
    exact ⟨unchosen, apart⟩
  | signInSucceeds here =>
    refine ⟨unchosen, fun same => ?_⟩
    exact allowed _ here (Option.some.inj same)
  | resolves => exact allowed.elim
  | resolutionAccessed here | resolutionResumed here => cases unchosen.symm.trans here
  | restarts => exact ⟨rfl, apart⟩
  | _ => exact ⟨unchosen, apart⟩

/-- After a switch whose removal of the keys finds nothing of the previous account under way, the local store
never holds its player again, in any run that does not return to the account. -/
theorem run_switch_erases (other : current.uid ≠ previous.uid)
    (first : Run step (Leaves previous current) (Account.start saved savedOrigin (some previous) records pending)
      actions before)
    (quiet : Quiet previous.uid before) (removed : step before (.switchAccess i true) = some middle)
    (later : Run step (Elsewhere previous.uid) middle rest app) : app.history.saved ≠ some previous.uid := by
  have cleared := (run_leaving other first).removed other quiet removed
  have kept := later.invariant _ cleared fun _ _ _ inv allowed taken => within_of_step inv allowed taken
  exact kept.2.2.saved rfl

def switchAfterSave : List Action :=
  openSession ++ saveHero 10 ++ [Action.userChanges (some member), .deliverCallback]

def reload : List Action :=
  [Action.switchResume 0, .session (.loadAccess 0 true), .session (.loadResume 0), .session .commit,
    .session .reconcileEffect, .session (.checkFetch 0 true), .session (.checkAccess 0 true),
    .session (.checkResume 0), .session (.checkAccess 0 true), .session (.checkResume 0),
    .session (.handleReconciled 0 20), .restart] ++ openSession

def bothDocuments : Nat → Option CloudRecord
  | 1 => some Session.veteranRecord
  | 2 => some ⟨(hero.snapshot 9).save, 9⟩
  | _ => none

def afterRemoval (before : State) (rest : List Action) : Option (Option Nat) :=
  (step before (.switchAccess 0 true)).bind fun middle =>
    (Runs.exec step (Elsewhere 1) middle rest).map fun app => app.history.saved

theorem run_switch_erases_switchAfterSave : ∃ before middle app,
    Run step (Leaves ⟨1, false⟩ member)
        (Account.start (some (Session.veteranSave, 5)) (some 1) (some ⟨1, false⟩) bothDocuments none)
        switchAfterSave before ∧
      Quiet 1 before ∧ step before (.switchAccess 0 true) = some middle ∧
      Run step (Elsewhere 1) middle reload app ∧ app.history.saved = some 2 ∧ app.history.saved ≠ some 1 := by
  have executed : ∃ before, Run step (Leaves ⟨1, false⟩ member)
      (Account.start (some (Session.veteranSave, 5)) (some 1) (some ⟨1, false⟩) bothDocuments none)
      switchAfterSave before ∧ Quiet 1 before ∧ afterRemoval before reload = some (some 2) :=
    Run.exists_of_exec (by decide +kernel)
  obtain ⟨before, first, quiet, reached⟩ := executed
  obtain ⟨middle, removed, reached⟩ := Option.bind_eq_some_iff.mp reached
  obtain ⟨app, later, saved⟩ := Option.map_eq_some_iff.mp reached
  have run := Run.of_exec later
  have other : member.uid ≠ (⟨1, false⟩ : User).uid := by decide
  exact ⟨before, middle, app, first, quiet, removed, run, saved, run_switch_erases other first quiet removed run⟩

def switchDuringReconcile : List Action :=
  openSession ++ [Action.session .reconcileEffect, .session (.checkFetch 0 true), .userChanges (some member),
    .deliverCallback]

def finishReconcile : List Action :=
  [.session (.checkAccess 0 true), .session (.checkResume 0), .session (.checkAccess 0 true)]

def switchDuringSave : List Action :=
  openSession ++ [Action.session (.setPlayerAndSave hero 10), .userChanges (some member), .deliverCallback]

theorem resurrected_of_exec {actions rest : List Action}
    (executed : (Runs.exec step (Leaves ⟨1, false⟩ member)
      (Account.start (some (Session.veteranSave, 5)) (some 1) (some ⟨1, false⟩) bothDocuments none) actions).any
      (fun before => decide (afterRemoval before rest = some (some 1))) = true) :
    ∃ before middle app, Run step (Leaves ⟨1, false⟩ member)
        (Account.start (some (Session.veteranSave, 5)) (some 1) (some ⟨1, false⟩) bothDocuments none)
        actions before ∧
      step before (.switchAccess 0 true) = some middle ∧ Run step (Elsewhere 1) middle rest app ∧
      app.history.saved = some 1 := by
  obtain ⟨before, first, reached⟩ := Run.exists_of_exec executed
  obtain ⟨middle, removed, reached⟩ := Option.bind_eq_some_iff.mp reached
  obtain ⟨app, later, saved⟩ := Option.map_eq_some_iff.mp reached
  exact ⟨before, middle, app, first, removed, .of_exec later, saved⟩

/-- A reconcile or a save under way at the switch puts the player of the first account back after the
removal of the keys. -/
theorem run_switchDuringReconcile_resurrects :
    (∃ before middle app, Run step (Leaves ⟨1, false⟩ member)
        (Account.start (some (Session.veteranSave, 5)) (some 1) (some ⟨1, false⟩) bothDocuments none)
        switchDuringReconcile before ∧
      step before (.switchAccess 0 true) = some middle ∧ Run step (Elsewhere 1) middle finishReconcile app ∧
      app.history.saved = some 1) ∧
    ∃ before middle app, Run step (Leaves ⟨1, false⟩ member)
        (Account.start (some (Session.veteranSave, 5)) (some 1) (some ⟨1, false⟩) bothDocuments none)
        switchDuringSave before ∧
      step before (.switchAccess 0 true) = some middle ∧
      Run step (Elsewhere 1) middle [.session (.writeAccess 0 true)] app ∧ app.history.saved = some 1 :=
  ⟨resurrected_of_exec (by decide +kernel), resurrected_of_exec (by decide +kernel)⟩

end Account

end WalkingRpg

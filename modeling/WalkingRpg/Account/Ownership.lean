import WalkingRpg.Account.Moves

/-! Every document receives the data of its own account.

The account of a cloud write is read when the call is made, after the local write. Two
windows open before it: the user may change while the local write is awaited, and a player
of the previous user may still be live until the callback has been delivered. Outside them
the generations of the player hook keep the data of the accounts apart.
-/

set_option autoImplicit false

namespace WalkingRpg

namespace Account

open Runs (Run)
open Session (CloudRecord SaveData Check LocalWrite)
open Session.Threads (Ordered)
open Tasks (Extends extendLabels)

/-- A save or a chosen save is still to be handed to the cloud service. -/
def State.unsynced (app : State) : Bool :=
  app.session.writes.any LocalWrite.sync ||
    match app.resolution with
    | some (.reading _ _ _) => true
    | _ => false

/-- The user changes only when every save has been handed to the cloud service, and the live player is
saved only when a generation begun since the last change of the user has put it there. -/
def Own (app : State) : Action → Prop
  | .session action => app.savesLive action = true → app.history.liveFresh = true
  | .userChanges user => uidOf user = app.uid ∨ app.unsynced = false
  | .flowSignIn _ => app.unsynced = false
  | _ => True

instance (app : State) (action : Action) : Decidable (Own app action) := by
  apply @Action.casesOn fun action => Decidable (Own app action)
  all_goals intros; dsimp only [Own]; infer_instance

/-- Everything on its way to the cloud is of the account it will reach. -/
structure Owned (app : State) : Prop where
  aligned : Aligned app
  uploads : ∀ upload ∈ app.uploads, upload.label.under = some upload.uid
  gen : app.history.genFresh = true → app.history.genUser = app.uid
  checks : app.history.genFresh = true → ∀ check user, (check, user) ∈ app.session.checks.zip app.checkUsers →
    check.gen = app.session.initGenerationRef → user = app.uid
  live : app.history.liveFresh = true → app.session.playerRef.isSome = true → app.history.live.under = app.uid
  saves : ∀ write label, (write, label) ∈ app.session.writes.zip app.history.writes → write.sync = true →
    label.under = app.uid
  chosen : ∀ conflict read under, app.resolution = some (.reading conflict read under) → under = app.uid

namespace Owned

variable {app : State}

theorem setCurrentUser (inv : Owned app) {user : Option User}
    (allowed : uidOf user = app.uid ∨ app.unsynced = false) : Owned (app.setCurrentUser user) := by
  have aligned : Aligned (app.setCurrentUser user) := { inv.aligned with }
  by_cases same : uidOf user = app.uid
  · have uid : (app.setCurrentUser user).uid = app.uid := same
    exact
      { inv with
        aligned := aligned
        gen := fun kept => by
          rw [uid]
          exact inv.gen (Bool.and_eq_true_iff.mp kept).1
        checks := fun kept => by
          rw [uid]
          exact inv.checks (Bool.and_eq_true_iff.mp kept).1
        live := fun kept => by
          rw [uid]
          exact inv.live (Bool.and_eq_true_iff.mp kept).1
        saves := by
          rw [uid]
          exact inv.saves
        chosen := by
          rw [uid]
          exact inv.chosen }
  · have idle : app.unsynced = false := allowed.resolve_left same
    simp only [State.unsynced, Bool.or_eq_false_iff] at idle
    have stale : ∀ kept : Bool, (kept && uidOf user == app.uid) ≠ true := by simp [same]
    exact
      { inv with
        aligned := aligned
        gen := fun kept => absurd kept (stale _)
        checks := fun kept => absurd kept (stale _)
        live := fun kept => absurd kept (stale _)
        saves := fun write label member sync => by
          have none_synced := List.any_eq_false.mp idle.1 write (List.of_mem_zip member).1
          exact absurd sync none_synced
        chosen := fun conflict read under reading => by
          have reading : app.resolution = some (.reading conflict read under) := reading
          simp [reading] at idle }

theorem checks_begun (inv : Owned app) {check : Check} {user : Option Nat}
    (member : (check, user) ∈ app.session.checks.zip app.checkUsers) :
    check.gen ≠ app.session.initGenerationRef + 1 := by
  have started : check.gen ≤ app.session.initGenerationRef :=
    inv.aligned.ordered.started check.gen (List.mem_map_of_mem (List.of_mem_zip member).1)
  omega

theorem clearPlayer (inv : Owned app) : Owned app.clearPlayer :=
  { inv with
    aligned := inv.aligned.clearPlayer
    gen := fun _ => rfl
    checks := fun _ _ _ member current => absurd current (inv.checks_begun member)
    live := fun _ here => by cases here }

theorem initializePlayer (inv : Owned app) : Owned app.initializePlayer :=
  { inv with
    aligned := inv.aligned.initializePlayer
    gen := fun _ => rfl
    checks := fun _ _ _ member current => absurd current (inv.checks_begun member) }

theorem told (inv : Owned app) {user : Option User} {next : State} (told : Told app user next) :
    Owned next := by
  have aligned := inv.aligned.told told
  cases told with
  | noted => exact { inv with aligned := aligned }
  | resigned => exact { inv.clearPlayer.initializePlayer with aligned := aligned }
  | switched => exact { inv.clearPlayer with aligned := aligned }
  | belated => exact { inv.initializePlayer with aligned := aligned }

theorem savePlayerData (inv : Owned app) {data : SaveData} {savedAt : ℤ} {label : Label}
    (own : label.under = app.uid) : Owned (app.savePlayerData data savedAt label) := by
  unfold State.savePlayerData
  split
  · exact inv
  · rename_i user here
    refine { inv with aligned := { inv.aligned with }, uploads := Tasks.forall_mem_concat inv.uploads ?_ }
    rw [own]
    simp [State.uid, uidOf, here]

theorem settle (inv : Owned app) {i : Nat} {upload : Upload} (found : app.uploads[i]? = some upload) :
    ∀ other ∈ app.uploads.set i { upload with settled := true }, other.label.under = some other.uid :=
  Tasks.forall_mem_set_of_found inv.uploads found id

theorem arrive (inv : Owned app) {i : Nat} {upload : Upload} (found : app.uploads[i]? = some upload) :
    Owned (app.arrive i upload) := by
  exact { inv with aligned := { inv.aligned with }, uploads := inv.settle found }

variable {action : Session.Action} {after : Session.State} {i : Nat}

theorem adopts_own (inv : Owned app) {data : SaveData} {label : Label}
    (adopted : app.adopts i data = some (label, true)) : label.under = app.uid := by
  unfold State.adopts at adopted
  split at adopted
  · simp only [Option.some.injEq, Prod.mk.injEq, Bool.and_eq_true, Option.any_eq_true] at adopted
    obtain ⟨rfl, fresh, check, found, current⟩ := adopted
    obtain ⟨user, known⟩ := Tasks.exists_label_of_getElem? inv.aligned.users found
    rw [known]
    exact inv.checks fresh check user (Tasks.mem_zip_of_getElem? found known) (by simpa using current)
  · cases adopted

theorem puts_own (inv : Owned app) {label : Label} (put : app.puts action = some (label, true)) :
    label.under = app.uid := by
  unfold State.puts at put
  split at put
  · split at put
    · simp only [Option.some.injEq, Prod.mk.injEq] at put
      obtain ⟨rfl, fresh⟩ := put
      exact inv.gen fresh
    · cases put
  · split at put
    · split at put
      · exact inv.adopts_own put
      · cases put
    · cases put
  · split at put
    · exact inv.adopts_own put
    · simp only [Option.some.injEq, Prod.mk.injEq] at put
      obtain ⟨rfl, _⟩ := put
      rfl
    · cases put
  · cases put

theorem liveAfter_own (inv : Owned app) (moved : Moves app action after)
    (fresh : (app.liveAfter action).2 = true) (here : after.playerRef.isSome = true) :
    (app.liveAfter action).1.under = app.uid := by
  unfold State.liveAfter at *
  cases put : app.puts action with
  | none =>
    rw [put] at fresh
    exact inv.live fresh (moved.live here put)
  | some result =>
    obtain ⟨label, flag⟩ := result
    rw [put] at fresh
    cases (fresh : flag = true)
    exact inv.puts_own put

theorem follow (inv : Owned app) (own : app.savesLive action = true → app.history.liveFresh = true)
    (going : ∀ i, action ≠ .writeResume i) (moved : Moves app action after) (ordered : Ordered after.threads) :
    Owned (app.follow action after) := by
  have aligned := inv.aligned.follow going moved ordered
  rw [State.follow_of_going going] at *
  exact
    { inv with
      aligned := aligned
      checks := fun fresh check user member current => by
        rcases moved.checks.mem_zip inv.aligned.users member with ⟨former, old, kept⟩ | ⟨_, new⟩
        · have sameGen : check.gen = former.gen := kept.elim (fun same => same ▸ rfl) (fun keeps => keeps.1)
          exact inv.checks fresh former user old (sameGen ▸ current.trans moved.generation)
        · exact new
      live := fun fresh here => inv.liveAfter_own moved fresh here
      saves := fun write label member sync => by
        rw [State.remembers_writes going] at member
        rcases moved.writes.mem_zip inv.aligned.writers member with ⟨former, old, kept⟩ | ⟨⟨here, bound⟩, rfl⟩
        · have sameSync : write.sync = former.sync := kept.elim (fun same => same ▸ rfl) (fun keeps => keeps.1)
          exact inv.saves former label old (sameSync ▸ sync)
        · rcases bound sync with saves | created
          · refine inv.liveAfter_own moved ?_ here
            rw [State.liveAfter, State.puts_of_savesLive saves]
            exact own saves
          · rw [State.liveAfter, created]
            rfl }

theorem followResume (inv : Owned app) (write : LocalWrite) (success : Bool) :
    Owned (app.follow (.writeResume i) (app.session.writeResume i write success)) := by
  have erased : Owned (app.erased i write success) :=
    { inv with
      aligned := inv.aligned.erased i write success
      checks := by
        rw [(app.erased_labels i write success).1]
        exact inv.checks
      saves := fun write label member => inv.saves write label (Tasks.mem_zip_of_mem_zip_eraseIdx member) }
  unfold State.follow
  dsimp only
  split
  · rename_i snapshot paints here
    refine erased.savePlayerData ?_
    obtain ⟨label, known⟩ := Tasks.exists_label_of_getElem? inv.aligned.writers here
    rw [known]
    exact inv.saves _ label (Tasks.mem_zip_of_getElem? here known) rfl
  · exact erased

theorem sessionStep (inv : Owned app) (own : app.savesLive action = true → app.history.liveFresh = true)
    (admitted : app.admits action = true) (taken : app.sessionStep action = some after) :
    Owned (app.follow action after) := by
  rcases moves_of_sessionStep admitted taken with ⟨i, write, success, rfl, rfl⟩ | ⟨going, moved⟩
  · exact inv.followResume write success
  · exact inv.follow own going moved (ordered_of_sessionStep inv.aligned.ordered taken)

theorem resolveConflict (inv : Owned app) (keepsLocal : Bool) (conflict : Conflict) :
    Owned (app.resolveConflict keepsLocal conflict) := by
  unfold State.resolveConflict
  dsimp only
  split
  · refine { inv with aligned := { inv.aligned with }, chosen := ?_ }
    rintro _ _ _ ⟨⟩
    rfl
  · split
    all_goals exact { inv with
      aligned := { inv.aligned with }, chosen := fun _ _ _ reading => by cases reading }

theorem clearLocalPlayerData (inv : Owned app) (success : Bool) : Owned (app.clearLocalPlayerData success) := by
  unfold State.clearLocalPlayerData
  split
  · exact { inv with aligned := { inv.aligned with } }
  · exact inv

theorem resolutionAccess (inv : Owned app) {success : Bool} {resolution : Resolution} {next : State}
    (here : app.resolution = some resolution)
    (accessed : app.resolutionAccess success resolution = some next) : Owned next := by
  have aligned := inv.aligned.resolutionAccess accessed
  unfold State.resolutionAccess at accessed
  split at accessed
  · obtain ⟨⟨read, saved⟩, _, rfl⟩ := Option.map_eq_some_iff.mp accessed
    refine { inv with aligned := aligned, chosen := ?_ }
    rintro _ _ _ ⟨⟩
    exact inv.chosen _ _ _ here
  · cases success
    all_goals
      cases Option.some.inj accessed
      exact { inv with aligned := aligned, chosen := fun _ _ _ reading => by cases reading }
  · cases Option.some.inj accessed
    exact { inv.clearLocalPlayerData success with
      aligned := aligned, chosen := fun _ _ _ reading => by cases reading }
  · cases Option.some.inj accessed
    exact { inv with aligned := aligned, chosen := fun _ _ _ reading => by cases reading }
  all_goals cases accessed

theorem resolutionLoads (inv : Owned app) : Owned app.resolutionLoads :=
  { inv.initializePlayer with
    aligned := { inv.aligned.initializePlayer with }
    chosen := fun _ _ _ reading => by cases reading }

theorem keepLocal (inv : Owned app) (conflict : Conflict) (fresh : Option Session.Snapshot)
    {chosenUnder : Option Nat} (own : chosenUnder = app.uid) (now : ℤ) :
    Owned (app.keepLocal conflict fresh chosenUnder now) := by
  unfold State.keepLocal
  dsimp only
  split
  · rename_i data _
    have saved : Owned (app.savePlayerData data (max (fresh.elim conflict.localSavedAt Session.Snapshot.savedAt) now)
        ⟨chosenUnder, chosenUnder⟩) := inv.savePlayerData own
    exact { saved with
      aligned := { saved.aligned with }, chosen := fun _ _ _ reading => by cases reading }
  · exact inv.resolutionLoads

theorem resolutionResume (inv : Owned app) {now : ℤ} {resolution : Resolution} {next : State}
    (here : app.resolution = some resolution)
    (resumed : app.resolutionResume now resolution = some next) : Owned next := by
  have aligned := inv.aligned.resolutionResume resumed
  unfold State.resolutionResume at resumed
  split at resumed
  · obtain ⟨outcome, _, rfl⟩ := Option.map_eq_some_iff.mp resumed
    have own := inv.chosen _ _ _ here
    cases outcome with
    | inl read =>
      refine { inv with aligned := aligned, chosen := ?_ }
      rintro _ _ _ ⟨⟩
      exact own
    | inr fresh => exact inv.keepLocal _ _ own now
  · cases Option.some.inj resumed
    exact inv.resolutionLoads
  · cases Option.some.inj resumed
    exact inv.resolutionLoads
  · split at resumed
    · cases Option.some.inj resumed
      exact { inv with aligned := aligned, chosen := fun _ _ _ reading => by cases reading }
    · cases resumed
  · cases Option.some.inj resumed
    exact { inv with aligned := aligned, chosen := fun _ _ _ reading => by cases reading }
  all_goals cases resumed

theorem step (inv : Owned app) {action : Action} {next : State} (own : Own app action)
    (taken : Account.step app action = some next) : Owned next := by
  have done := performs_of_step taken
  have aligned := inv.aligned.performs done
  cases done with
  | session admitted stepped => exact inv.sessionStep own admitted stepped
  | userChanges user => exact inv.setCurrentUser own
  | @callback user rest pending =>
    have popped : Owned { app with callbacks := rest } := { inv with aligned := { inv.aligned with } }
    exact popped.told (told_onAuthStateChanged _ user)
  | switchCleared => exact { inv.clearLocalPlayerData _ with aligned := aligned }
  | @switchLoads i =>
    have ended : Owned { app with switches := app.switches.eraseIdx i } :=
      { inv with aligned := { inv.aligned with } }
    exact ended.initializePlayer
  | conflictFound => exact { inv.clearPlayer with aligned := aligned }
  | sessionStarts => exact { inv.initializePlayer with aligned := aligned }
  | flowCleared => exact { inv.clearLocalPlayerData _ with aligned := aligned }
  | @signInSucceeds target guest =>
    have changed : Owned (app.setCurrentUser (some target)) := inv.setCurrentUser (.inr own)
    exact { changed with aligned := aligned }
  | flowSwitches => exact { inv.clearPlayer with aligned := aligned }
  | resolves => exact inv.resolveConflict _ _
  | resolutionAccessed here accessed => exact inv.resolutionAccess here accessed
  | resolutionResumed here resumed => exact inv.resolutionResume here resumed
  | arrives found => exact inv.arrive found
  | fails found => exact { inv with aligned := aligned, uploads := inv.settle found }
  | restarts =>
    exact
      { aligned := aligned
        uploads := inv.uploads
        gen := fun _ => rfl
        checks := fun _ _ _ member => by cases member
        live := fun _ here => by cases here
        saves := fun _ _ member => by cases member
        chosen := fun _ _ _ reading => by cases reading }
  | _ => exact { inv with aligned := aligned }

end Owned

variable {saved : Option (SaveData × ℤ)} {savedOrigin : Option Nat} {user : Option User}
variable {records : Nat → Option CloudRecord} {pending : Option Conflict} {app : State} {actions : List Action}

theorem Owned.start (saved : Option (SaveData × ℤ)) (savedOrigin : Option Nat) (user : Option User)
    (records : Nat → Option CloudRecord) (pending : Option Conflict) :
    Owned (Account.start saved savedOrigin user records pending) where
  aligned := .start saved savedOrigin user records pending
  uploads := fun _ member => by cases member
  gen := fun _ => rfl
  checks := fun _ _ _ member => by cases member
  live := fun _ here => by cases here
  saves := fun _ _ member => by cases member
  chosen := fun _ _ _ reading => by cases reading

theorem run_owned (run : Run step Own (Account.start saved savedOrigin user records pending) actions app) :
    Owned app :=
  run.invariant Owned (.start saved savedOrigin user records pending) fun _ _ _ inv own taken => inv.step own taken

/-- In every run that keeps out of the two windows, each document write carries data that was loaded,
created or chosen under the account of the document. -/
theorem run_own_documents
    (run : Run step Own (Account.start saved savedOrigin user records pending) actions app) :
    ∀ upload ∈ app.uploads, upload.label.under = some upload.uid :=
  (run_owned run).uploads

def guest : User := ⟨1, true⟩

def member : User := ⟨2, false⟩

def hero : Session.Character := ⟨Player.new .martial 3, false⟩

def openSession : List Action :=
  [.deliverCallback, .startupResume, .startupAccess true, .startupResume, .session (.loadAccess 0 true),
    .session (.loadResume 0), .session .commit]

def saveHero (now : ℤ) : List Action :=
  [.session (.setPlayerAndSave hero now), .session (.writeAccess 0 true), .session (.writeResume 0)]

def keepGuestSave : List Action :=
  openSession ++ saveHero 10 ++
    [Action.handleAccountConflict member, .flowAccess true, .flowResume, .flowSignIn true, .flowResume, .deliverCallback,
      .flowFetch true, .flowAccess true, .flowResume, .resolveConflict true, .resolutionAccess true,
      .resolutionResume 20, .resolutionAccess true, .resolutionResume 20, .session (.loadAccess 0 true),
      .session (.loadResume 0), .session .commit, .resolutionResume 21, .resolutionAccess true,
      .resolutionResume 22] ++ saveHero 30

theorem run_own_documents_keepGuestSave : ∃ app,
    Run step Own (Account.start (some (Session.veteranSave, 5)) (some 1) (some guest) (fun _ => none) none)
        keepGuestSave app ∧ app.uploads.map Upload.uid = [1, 2, 2] ∧
      ∀ upload ∈ app.uploads, upload.label.under = some upload.uid := by
  have executed : ∃ app, Run step Own
      (Account.start (some (Session.veteranSave, 5)) (some 1) (some guest) (fun _ => none) none) keepGuestSave app ∧
      app.uploads.map Upload.uid = [1, 2, 2] := Run.exists_of_exec (by decide +kernel)
  obtain ⟨app, run, uploads⟩ := executed
  exact ⟨app, run, uploads, run_own_documents run⟩

def saveBeforeCallback : List Action :=
  openSession ++ [Action.userChanges (some member)] ++ saveHero 10 ++ [Action.deliverCallback]

def changeDuringSave : List Action :=
  openSession ++ [Action.session (.setPlayerAndSave hero 10), .session (.writeAccess 0 true),
    .userChanges (some member), .session (.writeResume 0), .deliverCallback]

theorem misdirected_of_exec
    (executed : (Runs.exec step (fun _ _ => True)
      (Account.start (some (Session.veteranSave, 5)) (some 1) (some ⟨1, false⟩) (fun _ => none) none) actions).any
      (fun app => decide (app.uploads.map (fun upload => (upload.uid, upload.label.under)) = [(2, some 1)])) = true) :
    ∃ app, Run step (fun _ _ => True)
        (Account.start (some (Session.veteranSave, 5)) (some 1) (some ⟨1, false⟩) (fun _ => none) none) actions app ∧
      ¬∀ upload ∈ app.uploads, upload.label.under = some upload.uid := by
  obtain ⟨app, run, issued⟩ := Run.exists_of_exec executed
  refine ⟨app, run, fun own => ?_⟩
  have present : (2, some 1) ∈ app.uploads.map fun upload => (upload.uid, upload.label.under) := by simp [issued]
  obtain ⟨upload, here, seen⟩ := List.mem_map.mp present
  have kept := own upload here
  simp only [Prod.mk.injEq] at seen
  rw [seen.1, seen.2] at kept
  cases kept

/-- In both windows the document of the new account receives the player of the previous one. -/
theorem run_saveBeforeCallback_misdirected :
    (∃ app, Run step (fun _ _ => True)
        (Account.start (some (Session.veteranSave, 5)) (some 1) (some ⟨1, false⟩) (fun _ => none) none)
        saveBeforeCallback app ∧ ¬∀ upload ∈ app.uploads, upload.label.under = some upload.uid) ∧
    ∃ app, Run step (fun _ _ => True)
        (Account.start (some (Session.veteranSave, 5)) (some 1) (some ⟨1, false⟩) (fun _ => none) none)
        changeDuringSave app ∧ ¬∀ upload ∈ app.uploads, upload.label.under = some upload.uid :=
  ⟨misdirected_of_exec (by decide +kernel), misdirected_of_exec (by decide +kernel)⟩

end Account

end WalkingRpg

import WalkingRpg.Library.Tasks
import WalkingRpg.Library.WriteBuffer
import WalkingRpg.Session.UsePlayer

/-! Saves made while a reconcile is under way.

The session has a live player that is not provisional and one reconcile to make. The
reconcile compares the record of the cloud with a timestamp it has read before, and
nothing looks at the saves made since. They are safe when the comparison is not out of
date: no save may be waiting for its local write when the timestamp is read again and found
older, and none may be made from then until the record has been adopted.
-/

set_option autoImplicit false

namespace WalkingRpg

namespace Session

open Runs (Run)
open WriteBuffer (settled Ascending)

def reconciling (live : Character) (saved : Snapshot) (cloud : Option CloudRecord) : State :=
  { start none cloud with
    playerRef := some live
    player := some live
    initGenerationRef := 1
    saved := some saved }

def LocalWrite.pending (write : LocalWrite) : Bool := write.outcome.isNone

def LocalWrite.content (write : LocalWrite) : Option Snapshot := some write.snapshot

def localSavedAt (saved : Option Snapshot) : ℤ := saved.elim 0 Snapshot.savedAt

def CheckPhase.rereads : CheckPhase → Option CloudRecord
  | .comparing record .reading => some record
  | .comparing _ _ | .fetching | .writing _ | .wrote _ | .resolved _ => none

/-- What the reconcile has read makes it write and adopt the record. -/
def Check.adoptionDue (check : Check) : Bool :=
  match check.phase with
  | .comparing record (.read (some (some snapshot))) => decide (snapshot.savedAt < record.lastSavedAt)
  | .writing _ | .wrote _ => true
  | .resolved (.adopted _) => check.handler
  | .comparing _ _ | .fetching | .resolved _ => false

def State.adoptionDue (session : State) : Bool := session.checks.any Check.adoptionDue

/-- The reconcile, the saves of a player newer than the record, and their storage operations, which
succeed; local writes are carried out in the order they were made. -/
def Works (session : State) : Action → Prop
  | .commit | .becomeActive | .reconcileEffect | .checkFetch _ _ | .checkResume _ | .handleReconciled _ _
  | .writeResume _ => True
  | .checkAccess _ success => success = true
  | .setPlayerAndSave updated now => 1 ≤ updated.player.level ∧ ∀ record ∈ session.cloud, record.lastSavedAt < now
  | .writeAccess i success => success = true ∧ ∀ earlier ∈ session.writes.take i, earlier.pending = false
  | .initializePlayer | .loadAccess _ _ | .loadResume _ | .clearPlayer | .handleArchetypeSelected _
  | .selectionResume _ _ | .cloudBecomes _ => False

/-- The timestamp is read again when it is newer than the record or no save waits for its local write,
and no save is made while an adoption is due. -/
def Timely (session : State) : Action → Prop
  | .checkAccess i _ => ∀ check ∈ session.checks[i]?, ∀ record ∈ check.phase.rereads,
      record.lastSavedAt ≤ localSavedAt session.saved ∨ ∀ write ∈ session.writes, write.pending = false
  | .setPlayerAndSave _ _ => session.adoptionDue = false
  | _ => True

/-- The clock of a save is not behind the snapshot or an earlier save. -/
def Forward (session : State) : Action → Prop
  | .setPlayerAndSave _ now =>
    localSavedAt session.saved ≤ now ∧ ∀ write ∈ session.writes, write.snapshot.savedAt ≤ now
  | _ => True

instance (session : State) (action : Action) : Decidable (Works session action) := by
  apply @Action.casesOn fun action => Decidable (Works session action)
  all_goals intros; dsimp only [Works]; infer_instance

instance (session : State) (action : Action) : Decidable (Timely session action) := by
  apply @Action.casesOn fun action => Decidable (Timely session action)
  all_goals intros; dsimp only [Timely]; infer_instance

instance (session : State) (action : Action) : Decidable (Forward session action) := by
  apply @Action.casesOn fun action => Decidable (Forward session action)
  all_goals intros; dsimp only [Forward]; infer_instance

def Action.save : Action → Option (Character × ℤ)
  | .setPlayerAndSave updated now => some (updated, now)
  | _ => none

def lastSave (actions : List Action) : Option (Character × ℤ) := (actions.filterMap Action.save).getLast?

theorem setPlayerAndSave_live {session : State} (live : session.provisionalRef = false) (updated : Character)
    (now : ℤ) : session.setPlayerAndSave updated now =
      { session with playerRef := some updated, player := some updated
                     writes := session.writes ++ [⟨updated.snapshot now, true, false, none⟩] } := by
  simp [State.setPlayerAndSave, State.savePlayerData, live]

theorem lastSave_snoc (taken : List Action) (action : Action) :
    lastSave (taken ++ [action]) = action.save.or (lastSave taken) := by
  unfold lastSave
  rw [List.filterMap_append, List.getLast?_append]
  cases saved : action.save <;> simp [saved]

inductive CheckPhase.Fits (cloud : Option CloudRecord) (saved : Option Snapshot) : CheckPhase → Prop where
  | fetching : Fits cloud saved .fetching
  | rereads {record : CloudRecord} (document : cloud = some record)
      (valid : isValidPlayerData record.playerData = true) : Fits cloud saved (.comparing record .reading)
  | reread {record : CloudRecord} {snapshot : Snapshot} (document : cloud = some record)
      (valid : isValidPlayerData record.playerData = true) (whole : isValidPlayerData snapshot.save = true)
      (newer : snapshot.savedAt < record.lastSavedAt → localSavedAt saved ≤ record.lastSavedAt) :
      Fits cloud saved (.comparing record (.read (some (some snapshot))))
  | writing {record : CloudRecord} (document : cloud = some record)
      (valid : isValidPlayerData record.playerData = true) (newer : localSavedAt saved ≤ record.lastSavedAt) :
      Fits cloud saved (.writing record)
  | wrote {record : CloudRecord} : Fits cloud saved (.wrote record)
  | resolved {result : ReconcileResult} : Fits cloud saved (.resolved result)

variable {cloud : Option CloudRecord} {saved : Option Snapshot}

theorem CheckPhase.Fits.replace {check : Check} (fits : check.phase.Fits cloud saved)
    (idle : check.adoptionDue = false) (replaced : Option Snapshot) : check.phase.Fits cloud replaced := by
  obtain ⟨gen, handler, phase⟩ := check
  cases fits with
  | fetching => exact .fetching
  | rereads document valid => exact .rereads document valid
  | reread document valid whole newer =>
    refine .reread document valid whole fun due => ?_
    simp [Check.adoptionDue, due] at idle
  | writing document valid newer => simp [Check.adoptionDue] at idle
  | wrote => exact .wrote
  | resolved => exact .resolved

theorem CheckPhase.Fits.adopt {phase : CheckPhase} {record : CloudRecord} {written : Snapshot}
    (fits : phase.Fits (some record) saved) (stamped : written.savedAt = record.lastSavedAt) :
    phase.Fits (some record) (some written) := by
  cases fits with
  | fetching => exact .fetching
  | rereads document valid => exact .rereads document valid
  | reread document valid whole newer =>
    cases document
    exact .reread rfl valid whole fun _ => stamped.le
  | writing document valid newer =>
    cases document
    exact .writing rfl valid stamped.le
  | wrote => exact .wrote
  | resolved => exact .resolved

theorem CheckPhase.Fits.examine (session : State) (reachable : Bool) :
    (State.examine (session.loadPlayerData reachable)).Fits session.cloud session.saved := by
  unfold State.loadPlayerData
  cases reachable with
  | false => exact .resolved
  | true =>
    cases document : session.cloud with
    | none => exact .resolved
    | some record =>
      simp only [if_true, Option.elim_some, State.examine]
      split
      · rename_i valid
        exact .rereads rfl valid
      · exact .resolved

/-- No save has been made yet, or the last one is live and is what the local store comes to hold. -/
structure Progress (last : Option (Character × ℤ)) (session : State) : Prop where
  live : session.provisionalRef = false
  present : ∃ snapshot, session.saved = some snapshot ∧ isValidPlayerData snapshot.save = true
  whole : ∀ write ∈ session.writes, isValidPlayerData write.snapshot.save = true
  fits : ∀ check ∈ session.checks, check.phase.Fits session.cloud session.saved
  idle : last = none → session.writes = []
  kept : ∀ updated now, last = some (updated, now) →
    session.playerRef = some updated ∧
      settled LocalWrite.pending LocalWrite.content session.writes session.saved = some (updated.snapshot now) ∧
      session.adoptionDue = false ∧ ∀ record ∈ session.cloud, record.lastSavedAt < now

namespace Progress

variable {session : State} {last : Option (Character × ℤ)} {check : Check} {i : Nat}

theorem adoptionDue_of_mem (inv : Progress last session) {write : LocalWrite} (member : write ∈ session.writes) :
    session.adoptionDue = false := by
  cases made : last with
  | none => simp [inv.idle made] at member
  | some save => exact (inv.kept save.1 save.2 made).2.2.1

theorem last_eq_none (inv : Progress last session) (found : session.checks[i]? = some check)
    (due : check.adoptionDue = true) : last = none := by
  cases made : last with
  | none => rfl
  | some save =>
    have idle := (inv.kept save.1 save.2 made).2.2.1
    have none_due : check.adoptionDue = false := by
      simpa using List.any_eq_false.mp idle check (List.mem_of_getElem? found)
    simp [none_due] at due

theorem checkAt (inv : Progress last session) (found : session.checks[i]? = some check) :
    check.phase.Fits session.cloud session.saved :=
  inv.fits check (List.mem_of_getElem? found)

theorem screen (inv : Progress last session) (player : Option Character) (needs : Bool)
    (deferred : Option Commit) :
    Progress last
      { session with pendingCommit := deferred, player := player, needsArchetypeSelection := needs } :=
  { inv with }

theorem setPhase (inv : Progress last session) {phase : CheckPhase}
    (fits : phase.Fits session.cloud session.saved)
    (due : last ≠ none → ({ check with phase := phase } : Check).adoptionDue = false) :
    Progress last (session.setPhase i check phase) := by
  refine { inv with fits := Tasks.forall_mem_set inv.fits fits, kept := fun updated now made => ?_ }
  obtain ⟨live, stored, idle, newer⟩ := inv.kept updated now made
  refine ⟨live, stored, ?_, newer⟩
  apply List.any_eq_false.mpr
  apply Tasks.forall_mem_set (List.any_eq_false.mp idle)
  simp [due (by simp [made])]

theorem reconcileEffect (inv : Progress last session) : Progress last session.reconcileEffect := by
  refine { inv with fits := Tasks.forall_mem_concat inv.fits .fetching, kept := fun updated now made => ?_ }
  obtain ⟨live, stored, idle, newer⟩ := inv.kept updated now made
  refine ⟨live, stored, ?_, newer⟩
  simpa [State.adoptionDue, State.reconcileEffect, State.startCheck, Check.adoptionDue] using idle

theorem checkFetched (inv : Progress last session) (reachable : Bool) :
    Progress last (session.checkFetched i check (session.loadPlayerData reachable)) := by
  have logged : Progress last { session with log := session.log ++ [.read (session.loadPlayerData reachable)] } :=
    { inv with }
  refine logged.setPhase (.examine session reachable) fun _ => ?_
  have fits := CheckPhase.Fits.examine session reachable
  unfold State.examine
  split
  · rfl
  · rfl
  · split <;> rfl

theorem checkAccessed (inv : Progress last session) {record : CloudRecord} {read next : LocalRead}
    {saved : Option Snapshot} (found : session.checks[i]? = some check) (compares : check.phase = .comparing record read)
    (timely : ∀ record ∈ check.phase.rereads,
      record.lastSavedAt ≤ localSavedAt session.saved ∨ ∀ write ∈ session.writes, write.pending = false)
    (accessed : read.access session.saved true = some (next, saved)) :
    Progress last ({ session with saved := saved }.setPhase i check (.comparing record next)) := by
  have fits := inv.checkAt found
  rw [compares] at fits timely
  cases fits with
  | rereads document valid =>
    obtain ⟨snapshot, stored, whole⟩ := inv.present
    cases Option.some.inj accessed
    have fresh : snapshot.savedAt < record.lastSavedAt → localSavedAt session.saved ≤ record.lastSavedAt := by
      intro older
      simpa [localSavedAt, stored] using older.le
    have reread := CheckPhase.Fits.reread document valid whole fresh
    rw [← stored] at reread
    refine inv.setPhase reread fun made => ?_
    -- Were the snapshot older than the record, the last save would have been written by now.
    obtain ⟨⟨updated, now⟩, isLast⟩ := Option.ne_none_iff_exists'.mp made
    obtain ⟨_, settles, _, newer⟩ := inv.kept updated now isLast
    suffices current : record.lastSavedAt ≤ snapshot.savedAt by
      simp [Check.adoptionDue, stored, current]
    rcases timely record rfl with current | carried
    · simpa [localSavedAt, stored] using current
    · rw [WriteBuffer.settled_of_done carried, stored] at settles
      cases settles
      exact (newer record document).le
  | reread => simp [LocalRead.access] at accessed

theorem unsaved_of_phase (inv : Progress last session) (found : session.checks[i]? = some check) {phase : CheckPhase}
    (here : check.phase = phase) (due : (⟨check.gen, check.handler, phase⟩ : Check).adoptionDue = true) : last = none :=
  inv.last_eq_none found (by subst here; exact due)

theorem checkWrite (inv : Progress last session) {record : CloudRecord} (found : session.checks[i]? = some check)
    (writes : check.phase = .writing record) : Progress last (session.checkWrite i check record true) := by
  have fits := inv.checkAt found
  have unsaved := inv.unsaved_of_phase found writes rfl
  rw [writes] at fits
  cases fits with
  | writing document valid newer =>
    have written : Progress last
        { session with saved := some ⟨record.playerData, record.lastSavedAt, false⟩ } := by
      refine { inv with
        present := ⟨_, rfl, valid⟩
        fits := fun other member => ?_
        kept := fun updated now made => by simp [unsaved] at made }
      have fitted := inv.fits other member
      rw [document] at fitted ⊢
      exact fitted.adopt rfl
    exact written.setPhase .wrote (absurd unsaved)

theorem checkResume (inv : Progress last session) {record : CloudRecord} {read : LocalRead}
    {outcome : LocalRead ⊕ Option Snapshot} (found : session.checks[i]? = some check)
    (compares : check.phase = .comparing record read) (resumed : read.resume = some outcome) :
    Progress last (session.checkResume i check record outcome) := by
  have fits := inv.checkAt found
  have unsaved := fun due => inv.unsaved_of_phase found compares due
  rw [compares] at fits
  cases fits with
  | rereads => simp [LocalRead.resume] at resumed
  | @reread _ snapshot document valid whole newer =>
    simp only [LocalRead.resume, whole, if_true, Option.some.injEq] at resumed
    subst resumed
    by_cases older : snapshot.savedAt < record.lastSavedAt
    · have writes : State.compare record (some snapshot) = .writing record := by simp [State.compare, older]
      rw [State.checkResume, writes]
      refine inv.setPhase (.writing document valid (newer older)) fun made => ?_
      exact absurd (unsaved (by simp [Check.adoptionDue, older])) made
    · have keeps : State.compare record (some snapshot) = .resolved .noNewerCloud := by
        simp [State.compare, older]
      rw [State.checkResume, keeps]
      exact inv.setPhase .resolved fun _ => rfl

theorem handleReconciled (inv : Progress last session) {gen : Nat} {result : ReconcileResult} (now : ℤ)
    (found : session.checks[i]? = some ⟨gen, true, .resolved result⟩) :
    Progress last ({ session with
      checks := session.checks.set i ⟨gen, false, .resolved result⟩ }.handleReconciled gen result now) := by
  have handled : Progress last { session with checks := session.checks.set i ⟨gen, false, .resolved result⟩ } :=
    have set : Progress last (session.setPhase i ⟨gen, false, .resolved result⟩ (.resolved result)) :=
      inv.setPhase .resolved fun _ => by cases result <;> rfl
    set
  unfold State.handleReconciled
  split
  · exact handled
  · cases result with
    | adopted data =>
      have unsaved := inv.last_eq_none found rfl
      dsimp only
      unfold State.adopt
      split
      · exact handled
      · exact { handled with live := rfl, kept := fun updated now made => by simp [unsaved] at made }
    | noNewerCloud =>
      dsimp only
      split
      · simpa [inv.live] using handled
      · exact handled
    | unavailable => exact handled

theorem setPlayerAndSave (inv : Progress last session) {updated : Character} {now : ℤ}
    (level : 1 ≤ updated.player.level) (newer : ∀ record ∈ session.cloud, record.lastSavedAt < now)
    (idle : session.adoptionDue = false) :
    Progress (some (updated, now)) (session.setPlayerAndSave updated now) := by
  rw [setPlayerAndSave_live inv.live]
  refine { inv with whole := Tasks.forall_mem_concat inv.whole ?_, idle := by simp, kept := ?_ }
  · simp [isValidPlayerData, Character.snapshot, Player.toJSON, level]
  · rintro _ _ ⟨⟩
    exact ⟨rfl, WriteBuffer.settled_issue rfl, idle, newer⟩

theorem writeAccess (inv : Progress last session) {snapshot : Snapshot} {sync paints : Bool}
    (found : session.writes[i]? = some ⟨snapshot, sync, paints, none⟩)
    (first : ∀ earlier ∈ session.writes.take i, earlier.pending = false) :
    Progress last (session.writeAccess i ⟨snapshot, sync, paints, none⟩ true) := by
  have member := List.mem_of_getElem? found
  have whole : isValidPlayerData snapshot.save = true :=
    inv.whole ⟨snapshot, sync, paints, none⟩ member
  have idle := inv.adoptionDue_of_mem member
  have stores : session.writeAccess i ⟨snapshot, sync, paints, none⟩ true =
      { session with writes := session.writes.set i ⟨snapshot, sync, paints, some true⟩
                     saved := some snapshot } := by
    simp [State.writeAccess]
  rw [stores]
  refine { inv with
    present := ⟨snapshot, rfl, whole⟩
    whole := Tasks.forall_mem_set inv.whole whole
    fits := fun check other => ?_
    idle := fun unsaved => by simp [inv.idle unsaved]
    kept := fun updated now made => ?_ }
  · exact (inv.fits check other).replace (by simpa using List.any_eq_false.mp idle check other) _
  · obtain ⟨live, stored, due, newer⟩ := inv.kept updated now made
    have carriedOut : settled LocalWrite.pending LocalWrite.content
        (session.writes.set i ⟨snapshot, sync, paints, some true⟩) (some snapshot) =
        settled LocalWrite.pending LocalWrite.content session.writes session.saved :=
      WriteBuffer.settled_carryOut found rfl first rfl
    exact ⟨live, carriedOut.trans stored, due, newer⟩

theorem writeResume (inv : Progress last session) {write : LocalWrite} {success : Bool}
    (found : session.writes[i]? = some write) (carried : write.outcome = some success) :
    Progress last (session.writeResume i write success) := by
  refine { inv with
    whole := Tasks.forall_mem_eraseIdx inv.whole
    idle := fun unsaved => by simp [State.writeResume, inv.idle unsaved]
    kept := fun updated now made => ?_ }
  obtain ⟨live, stored, due, newer⟩ := inv.kept updated now made
  refine ⟨live, ?_, due, newer⟩
  rw [← stored]
  exact WriteBuffer.settled_retire found (by simp [LocalWrite.pending, carried])

variable {action : Action} {after : State}

theorem step (inv : Progress last session) (works : Works session action) (timely : Timely session action)
    (taken : Session.step session action = some after) : Progress (action.save.or last) after := by
  cases does_of_step taken with
  | @commit deferred =>
    obtain ⟨player, needs, painted⟩ := session.commit_eq deferred
    rw [painted]
    exact inv.screen player needs none
  | becomeActive =>
    obtain ⟨player, needs, painted⟩ := session.becomeActive_eq
    rw [painted]
    exact inv.screen player needs session.pendingCommit
  | reconcileEffect => exact inv.reconcileEffect
  | checkFetched => exact inv.checkFetched _
  | @checkAccessed _ check success _ _ _ _ found compares accessed =>
    cases (works : success = true)
    exact inv.checkAccessed found compares (timely check found) accessed
  | @checkWritten _ _ success _ found writes =>
    cases (works : success = true)
    exact inv.checkWrite found writes
  | checkCompared found compares resumed => exact inv.checkResume found compares resumed
  | checkAdopted found wrote => exact inv.setPhase .resolved (absurd (inv.unsaved_of_phase found wrote rfl))
  | handleReconciled found => exact inv.handleReconciled _ found
  | setPlayerAndSave => exact inv.setPlayerAndSave works.1 works.2 timely
  | @writeAccess _ write success found pending =>
    obtain ⟨snapshot, sync, paints, _⟩ := write
    cases pending
    cases (works.1 : success = true)
    exact inv.writeAccess found works.2
  | writeResume found carried => exact inv.writeResume found carried
  | initializePlayer | loadAccess | loadResume | clearPlayer | handleArchetypeSelected | selectionRetries
  | selectionChecked | cloudBecomes => exact works.elim

end Progress

theorem Progress.reconciling (live : Character) {saved : Snapshot} (cloud : Option CloudRecord)
    (valid : isValidPlayerData saved.save = true) : Progress none (Session.reconciling live saved cloud) where
  live := rfl
  present := ⟨saved, rfl, valid⟩
  whole := fun _ member => by cases member
  fits := fun _ member => by cases member
  idle := fun _ => rfl
  kept := fun _ _ made => by cases made

def State.Rising (session : State) : Prop :=
  Ascending LocalWrite.pending LocalWrite.content localSavedAt session.writes session.saved

namespace State

variable {session : State} {last : Option (Character × ℤ)} {action : Action} {after : State}

theorem handleReconciled_local (session : State) (live : session.provisionalRef = false) (gen : Nat)
    (result : ReconcileResult) (now : ℤ) : (session.handleReconciled gen result now).writes = session.writes ∧
      (session.handleReconciled gen result now).saved = session.saved := by
  unfold State.handleReconciled
  split
  · exact ⟨rfl, rfl⟩
  · cases result with
    | adopted data => dsimp only; unfold State.adopt; split <;> exact ⟨rfl, rfl⟩
    | noNewerCloud => dsimp only; split <;> simp [live]
    | unavailable => exact ⟨rfl, rfl⟩

theorem rising_checkWrite (inv : Progress last session) {i : Nat} {check : Check} {record : CloudRecord}
    (found : session.checks[i]? = some check) (writes : check.phase = .writing record) :
    (session.checkWrite i check record true).Rising ∧ localSavedAt session.saved ≤ record.lastSavedAt := by
  have fits := inv.checkAt found
  rw [writes] at fits
  cases fits with
  | writing _ _ newer =>
    refine ⟨?_, newer⟩
    unfold State.Rising State.checkWrite State.setPhase
    rw [inv.idle (inv.unsaved_of_phase found writes rfl)]
    exact Ascending.nil

theorem Rising.of_local (rising : session.Rising)
    (same : after.writes = session.writes ∧ after.saved = session.saved) :
    after.Rising ∧ localSavedAt session.saved ≤ localSavedAt after.saved := by
  unfold State.Rising
  rw [same.1, same.2]
  exact ⟨rising, le_rfl⟩

theorem Rising.setPlayerAndSave (rising : session.Rising) {updated : Character} {now : ℤ}
    (live : session.provisionalRef = false) (stored : localSavedAt session.saved ≤ now)
    (earlier : ∀ write ∈ session.writes, write.snapshot.savedAt ≤ now) :
    (session.setPlayerAndSave updated now).Rising ∧
      localSavedAt session.saved ≤ localSavedAt (session.setPlayerAndSave updated now).saved := by
  rw [setPlayerAndSave_live live]
  exact ⟨Ascending.issue rising stored earlier, le_rfl⟩

theorem Rising.step (rising : session.Rising) (inv : Progress last session) (works : Works session action)
    (forward : Forward session action) (taken : Session.step session action = some after) :
    after.Rising ∧ localSavedAt session.saved ≤ localSavedAt after.saved := by
  cases does_of_step taken with
  | @commit deferred =>
    obtain ⟨_, _, painted⟩ := session.commit_eq deferred
    exact rising.of_local (by rw [painted]; exact ⟨rfl, rfl⟩)
  | becomeActive =>
    obtain ⟨_, _, painted⟩ := session.becomeActive_eq
    exact rising.of_local (by rw [painted]; exact ⟨rfl, rfl⟩)
  | reconcileEffect | checkFetched | checkAdopted => exact rising.of_local ⟨rfl, rfl⟩
  | @checkAccessed _ _ success _ _ _ _ found compares accessed =>
    cases (works : success = true)
    have fits := inv.checkAt found
    rw [compares] at fits
    cases fits with
    | rereads =>
      cases Option.some.inj accessed
      exact ⟨rising, le_rfl⟩
    | reread => simp [LocalRead.access] at accessed
  | @checkWritten _ _ success _ found writes =>
    cases (works : success = true)
    exact rising_checkWrite inv found writes
  | @checkCompared _ _ _ _ outcome => cases outcome <;> exact rising.of_local ⟨rfl, rfl⟩
  | @handleReconciled i gen result now =>
    exact rising.of_local (handleReconciled_local
      { session with checks := session.checks.set i ⟨gen, false, .resolved result⟩ } inv.live gen result now)
  | setPlayerAndSave => exact rising.setPlayerAndSave inv.live forward.1 forward.2
  | @writeAccess _ write success found pending =>
    obtain ⟨snapshot, sync, paints, _⟩ := write
    cases pending
    cases (works.1 : success = true)
    have le := Ascending.store_le rising found rfl
    exact ⟨Ascending.carryOut rising found rfl works.2 rfl, le⟩
  | writeResume found carried =>
    exact ⟨Ascending.retire rising found (by simp [LocalWrite.pending, carried]), le_rfl⟩
  | initializePlayer | loadAccess | loadResume | clearPlayer | handleArchetypeSelected | selectionRetries
  | selectionChecked | cloudBecomes => exact works.elim

end State

variable {live : Character} {snapshot : Snapshot} {session : State} {actions : List Action}

theorem run_progress (valid : isValidPlayerData snapshot.save = true)
    (run : Run step (fun session action => Works session action ∧ Timely session action)
      (reconciling live snapshot cloud) actions session) :
    Progress (lastSave actions) session := by
  refine run.history (fun taken state => Progress (lastSave taken) state) (.reconciling live cloud valid) ?_
  rintro taken before action after inv ⟨works, timely⟩ stepped
  rw [lastSave_snoc]
  exact inv.step works timely stepped

theorem run_rising (valid : isValidPlayerData snapshot.save = true)
    (run : Run step (fun session action => Works session action ∧ Timely session action ∧ Forward session action)
      (reconciling live snapshot cloud) actions session) :
    Progress (lastSave actions) session ∧ session.Rising := by
  refine run.history (fun taken state => Progress (lastSave taken) state ∧ state.Rising)
    ⟨.reconciling live cloud valid, Ascending.nil⟩ ?_
  rintro taken before action after ⟨inv, rising⟩ ⟨works, timely, forward⟩ stepped
  rw [lastSave_snoc]
  exact ⟨inv.step works timely stepped, (rising.step inv works forward stepped).1⟩

/-- Timely saves survive the reconcile: when their writes are done, the live player and the snapshot are
the last of them. While the clock does not run backwards, the timestamp of the snapshot never falls. -/
theorem run_timely_keeps (live : Character) (snapshot : Snapshot) (cloud : Option CloudRecord)
    (valid : isValidPlayerData snapshot.save = true) :
    (∀ actions session, Run step (fun session action => Works session action ∧ Timely session action)
        (reconciling live snapshot cloud) actions session →
      session.writes = [] → ∀ updated now, lastSave actions = some (updated, now) →
        session.playerRef = some updated ∧ session.saved = some (updated.snapshot now)) ∧
    ∀ actions session action after,
      Run step (fun session action => Works session action ∧ Timely session action ∧ Forward session action)
        (reconciling live snapshot cloud) actions session →
      Works session action ∧ Timely session action ∧ Forward session action →
      step session action = some after → localSavedAt session.saved ≤ localSavedAt after.saved := by
  constructor
  · intro actions session run settled updated now made
    have inv := run_progress valid run
    obtain ⟨current, stored, _⟩ := inv.kept updated now made
    rw [settled, WriteBuffer.settled_of_done (by simp)] at stored
    exact ⟨current, stored⟩
  · rintro actions session action after run ⟨works, _, forward⟩ stepped
    obtain ⟨inv, rising⟩ := run_rising valid run
    exact (rising.step inv works forward stepped).2

def scout : Character := ⟨Player.new .agile 3, false⟩

def scoutRecord : CloudRecord := ⟨⟨(Player.new .martial 5).toJSON, true⟩, 8⟩

def Character.walked (character : Character) (meters : ℚ) : Character :=
  { character with player := character.player.addDistance meters }

def saveWhileFetching : List Action :=
  [.reconcileEffect, .setPlayerAndSave (scout.walked 10) 20, .writeAccess 0 true, .checkFetch 0 true,
    .checkAccess 0 true, .setPlayerAndSave (scout.walked 20) 21, .checkResume 0, .writeAccess 1 true,
    .handleReconciled 0 22, .writeResume 0, .writeResume 0]

theorem run_timely_keeps_saveWhileFetching : ∃ session,
    Run step (fun session action => Works session action ∧ Timely session action)
        (reconciling scout (scout.snapshot 5) (some scoutRecord)) saveWhileFetching session ∧
      session.playerRef = some (scout.walked 20) ∧ session.saved = some ((scout.walked 20).snapshot 21) := by
  have executed : ∃ session, Run step (fun session action => Works session action ∧ Timely session action)
      (reconciling scout (scout.snapshot 5) (some scoutRecord)) saveWhileFetching session ∧
      session.writes.length = 0 := Run.exists_of_exec (by decide +kernel)
  obtain ⟨session, run, done⟩ := executed
  have kept := (run_timely_keeps scout (scout.snapshot 5) (some scoutRecord) (by decide +kernel)).1
    saveWhileFetching session run (List.length_eq_zero_iff.mp done) (scout.walked 20) 21 rfl
  exact ⟨session, run, kept⟩

def saveAfterReread : List Action :=
  [.reconcileEffect, .checkFetch 0 true, .checkAccess 0 true, .setPlayerAndSave (scout.walked 10) 20,
    .writeAccess 0 true, .checkResume 0, .checkAccess 0 true, .checkResume 0, .handleReconciled 0 21,
    .writeResume 0]

/-- The save is lost in memory and in the local store, where the older record takes its place. -/
theorem run_saveAfterReread_lost : ∃ session,
    Run step (fun session action => Works session action ∧ Forward session action)
        (reconciling scout (scout.snapshot 5) (some scoutRecord)) saveAfterReread session ∧
      session.writes = [] ∧ lastSave saveAfterReread = some (scout.walked 10, 20) ∧
      session.playerRef ≠ some (scout.walked 10) ∧ session.saved ≠ some ((scout.walked 10).snapshot 20) := by
  have executed : ∃ session, Run step (fun session action => Works session action ∧ Forward session action)
      (reconciling scout (scout.snapshot 5) (some scoutRecord)) saveAfterReread session ∧
      session.writes.length = 0 ∧ session.playerRef.map (·.player.level) = some 5 ∧
      localSavedAt session.saved = 8 := Run.exists_of_exec (by decide +kernel)
  obtain ⟨session, run, done, level, stamp⟩ := executed
  refine ⟨session, run, List.length_eq_zero_iff.mp done, rfl, ?_, ?_⟩
  · intro live
    rw [live] at level
    revert level
    decide +kernel
  · intro stored
    rw [stored] at stamp
    revert stamp
    decide +kernel

end Session

end WalkingRpg

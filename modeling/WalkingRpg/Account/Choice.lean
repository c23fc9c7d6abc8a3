import WalkingRpg.Account.Ownership
import WalkingRpg.Session.Holding

/-! The save chosen in the conflict modal, up to the reconcile after it.

The choice is not recorded: it is written to the local store with a timestamp and has to win the
comparison with the document of the account. The timestamp of the guest save is taken from its own
snapshot and the clock, so that a document with a later timestamp takes its place. Otherwise the
chosen save wins, whatever becomes of the upload.
-/

set_option autoImplicit false

namespace WalkingRpg

namespace Account

open Runs (Run)
open Session (CloudRecord CloudLoad SaveData Snapshot Holding LocalRead Lives)
open Tasks (extendLabels)

variable {app next : State} {i : Nat}

/-- The modal is shown to a user: the guest save is in the local store, and the document of the account
may have changed since it was read. -/
def choosing (user : User) (guest : Snapshot) (fetched : CloudLoad) (document : Option CloudRecord) (stamp : ℤ) :
    State :=
  { Account.start none none (some user) (fun uid => if uid = user.uid then document else none)
      (some (State.pendingRecord guest fetched)) with
    session := { Session.start none none with saved := some guest, initGenerationRef := 1, clearedAt := 1 }
    lastSyncTimestamp := stamp
    callbacks := []
    prevUidRef := some user.uid
    conflictResolutionPendingRef := true
    conflictState := some (State.pendingRecord guest fetched)
    startup := none }

/-- The saves that may be there after the choice: the guest save, or the fetched record and what is strictly
newer in the same document. -/
def Wins (keepsLocal : Bool) (guest : Snapshot) (fetched : CloudLoad) (versions : CloudRecord → Prop)
    (save : SaveData) : Prop :=
  match keepsLocal, fetched with
  | true, _ => save = guest.save
  | false, .found record => save = record.playerData ∨
      ∃ newer, versions newer ∧ record.lastSavedAt < newer.lastSavedAt ∧ save = newer.playerData
  | false, .empty | false, .unavailable => False

/-- The chosen save is well formed. A record without a timestamp would count as provisional. -/
def Eligible (keepsLocal : Bool) (guest : Snapshot) (fetched : CloudLoad) : Prop :=
  match keepsLocal, fetched with
  | true, _ => Session.isValidPlayerData guest.save = true ∧ guest.save.knownArchetype = true
  | false, .found record => Session.isValidPlayerData record.playerData = true ∧
      record.playerData.knownArchetype = true ∧ 0 < record.lastSavedAt
  | false, .empty | false, .unavailable => False

def State.readsChoice (app : State) : Bool :=
  match app.resolution with
  | some (.reading _ _ _) => true
  | _ => false

def State.writesChoice (app : State) : Bool :=
  match app.resolution with
  | some (.writing _ _) => true
  | _ => false

/-- One choice, the load and the reconcile after it, and the fate of the upload. The local write of the choice
and the reads of load and reconcile succeed, no progress is made, and the timestamp of a chosen guest save is
positive and not behind the document. Other devices write the document only when the cloud was chosen. -/
def Chooses (keepsLocal : Bool) (user : User) (guest : Snapshot) (document : Option CloudRecord)
    (versions : CloudRecord → Prop) (app : State) : Action → Prop
  | .session action => Session.Reliable action ∧ action.updates.isNone = true
  | .resolveConflict choice => choice = keepsLocal
  | .resolutionAccess success => app.writesChoice = true → success = true
  | .resolutionResume now => app.readsChoice = true →
      0 < max guest.savedAt now ∧ ∀ record ∈ document, record.lastSavedAt ≤ max guest.savedAt now
  | .uploadArrives _ | .uploadFails _ => True
  | .docBecomes uid record => uid ≠ user.uid ∨ (keepsLocal = false ∧ ∀ written ∈ record, versions written)
  | .userChanges _ | .deliverCallback | .switchAccess _ _ | .switchResume _ | .startupAccess _ | .startupResume
  | .handleAccountConflict _ | .flowAccess _ | .flowSignIn _ | .flowFetch _ | .flowResume | .restart => False

instance (keepsLocal : Bool) (user : User) (guest : Snapshot) (document : Option CloudRecord)
    (versions : CloudRecord → Prop) [DecidablePred versions] (app : State) (action : Action) :
    Decidable (Chooses keepsLocal user guest document versions app action) := by
  apply @Action.casesOn fun action => Decidable (Chooses keepsLocal user guest document versions app action)
  all_goals intros; dsimp only [Chooses]; infer_instance

structure Resting (loads : List Session.Load) (session : Session.State) : Prop where
  live : session.playerRef = none
  shown : session.player = none
  offered : session.needsArchetypeSelection = false
  deferred : session.pendingCommit = none
  loads : session.loads = loads
  checks : session.checks = []
  selections : session.selections = []
  writes : session.writes = []

namespace Resting

variable {loads : List Session.Load} {action : Session.Action} {after : Session.State}

theorem step (resting : Resting loads app.session) (admitted : app.admits action = true)
    (taken : app.sessionStep action = some after) :
    after = app.session ∨
      (∃ i success load read saved, action = .loadAccess i success ∧ loads[i]? = some load ∧
        load.read.access app.session.saved success = some (read, saved) ∧
        after = { app.session with saved := saved, loads := loads.set i { load with read := read } }) ∨
      ∃ i load outcome, action = .loadResume i ∧ loads[i]? = some load ∧ load.read.resume = some outcome ∧
        after = app.session.loadResume i load outcome := by
  rcases sessionStep_cases taken with ⟨_, _, _, _, _, _, rfl, found, rfl⟩ | done
  · simp [resting.checks] at found
  cases done with
  | initializePlayer | clearPlayer | cloudBecomes => simp [State.admits] at admitted
  | loadAccess found accessed =>
    rw [resting.loads] at found ⊢
    exact .inr (.inl ⟨_, _, _, _, _, rfl, found, accessed, rfl⟩)
  | loadResume found resumed =>
    rw [resting.loads] at found
    exact .inr (.inr ⟨_, _, _, rfl, found, resumed, rfl⟩)
  | becomeActive => exact .inl (Session.State.becomeActive_of_absent (by simp [resting.live]))
  | commit pending => simp [resting.deferred] at pending
  | reconcileEffect painted => simp [resting.shown, resting.offered] at painted
  | checkFetched found | checkAccessed found | checkWritten found | checkCompared found | checkAdopted found
  | handleReconciled found => simp [resting.checks] at found
  | handleArchetypeSelected => simp [State.admits, resting.offered] at admitted
  | selectionRetries found | selectionChecked found => simp [resting.selections] at found
  | setPlayerAndSave => simp [State.admits, resting.live] at admitted
  | writeAccess found | writeResume found => simp [resting.writes] at found

theorem idle (resting : Resting [] app.session) (admitted : app.admits action = true)
    (taken : app.sessionStep action = some after) : after = app.session := by
  rcases resting.step admitted taken with same | ⟨_, _, _, _, _, _, found, _⟩ | ⟨_, _, _, _, found, _⟩
  · exact same
  · cases found
  · cases found

end Resting

def Stands (wins : SaveData → Prop) (stamp : ℤ) (snapshot : Snapshot) : Prop :=
  Session.isValidPlayerData snapshot.save = true ∧ wins snapshot.save ∧ stamp ≤ snapshot.savedAt

/-- A record of the document that is newer than the choice may take its place. -/
def Yields (wins : SaveData → Prop) (stamp : ℤ) (record : CloudRecord) : Prop :=
  stamp < record.lastSavedAt → wins record.playerData

structure Steady (session : Session.State) : Prop where
  settled : session.provisionalRef = false
  offered : session.needsArchetypeSelection = false
  deferred : ∀ gen, session.pendingCommit ≠ some (.archetypeSelection gen)
  ended : session.loads = []
  selections : session.selections = []
  writes : session.writes = []

structure Awake (wins : SaveData → Prop) (stamp : ℤ) (session : Session.State) : Prop
    extends Holding (Stands wins stamp) session, Steady session where
  live : ∃ character save, session.playerRef = some character ∧ wins save ∧
    character.player = Player.fromJSON save.data

variable {wins : SaveData → Prop} {stamp : ℤ}

theorem Yields.replaces {record : CloudRecord} (yields : Yields wins stamp record)
    (whole : Session.isValidPlayerData record.playerData = true) : record.Replaces (Stands wins stamp) := by
  intro snapshot stands newer
  have later : stamp < record.lastSavedAt := stands.2.2.trans_lt newer
  exact ⟨whole, yields later, later.le⟩

namespace Steady

variable {session after : Session.State} {action : Session.Action}

theorem commit (steady : Steady session) {deferred : Session.Commit}
    (pending : session.pendingCommit = some deferred) : Steady (session.commit deferred) := by
  have painted : ∀ player, Steady { session with
      pendingCommit := none, player := player, needsArchetypeSelection := false } :=
    fun player => { steady with offered := rfl, deferred := fun _ same => by cases same }
  have kept : Steady { session with pendingCommit := none } :=
    { steady with deferred := fun _ same => by cases same }
  cases deferred with
  | archetypeSelection gen => exact absurd pending (steady.deferred gen)
  | loadedPlayer gen =>
    simp only [Session.State.commit]
    split
    · exact painted _
    · exact kept
  | createdPlayer =>
    simp only [Session.State.commit]
    split
    · exact painted _
    · exact kept

theorem handleReconciled (steady : Steady session) (gen : Nat) (result : Session.ReconcileResult) (now : ℤ) :
    Steady (session.handleReconciled gen result now) := by
  unfold Session.State.handleReconciled
  split
  · exact steady
  · cases result with
    | adopted data =>
      dsimp only
      unfold Session.State.adopt
      split
      · exact steady
      · exact { steady with settled := rfl, offered := rfl }
    | noNewerCloud =>
      dsimp only
      split
      · simpa [steady.settled] using steady
      · exact steady
    | unavailable => exact steady

theorem step (steady : Steady app.session) (unchanged : action.updates.isNone = true)
    (admitted : app.admits action = true) (taken : app.sessionStep action = some after) : Steady after := by
  rcases sessionStep_cases taken with ⟨_, _, _, _, _, _, rfl, _, rfl⟩ | done
  · exact { steady with }
  cases done with
  | initializePlayer | clearPlayer | cloudBecomes => simp [State.admits] at admitted
  | loadAccess found | loadResume found => simp [steady.ended] at found
  | commit pending => exact steady.commit pending
  | becomeActive =>
    by_cases live : app.session.playerRef.isSome = true
    · rw [Session.State.becomeActive, if_pos live]
      exact { steady with offered := rfl }
    · rw [Session.State.becomeActive_of_absent live]
      exact steady
  | reconcileEffect | checkFetched | checkAccessed | checkWritten | checkAdopted => exact { steady with }
  | @checkCompared _ _ _ _ outcome => cases outcome <;> exact { steady with }
  | @handleReconciled i gen result =>
    have handled : Steady { app.session with checks := app.session.checks.set i ⟨gen, false, .resolved result⟩ } :=
      { steady with }
    exact handled.handleReconciled _ _ _
  | handleArchetypeSelected => simp [State.admits, steady.offered] at admitted
  | selectionRetries found | selectionChecked found => simp [steady.selections] at found
  | setPlayerAndSave => simp [Session.Action.updates] at unchanged
  | writeAccess found | writeResume found => simp [steady.writes] at found

end Steady

theorem Awake.step {user : User} {action : Session.Action} {after : Session.State}
    (awake : Awake wins stamp app.session) (users : ∀ holder ∈ app.checkUsers, holder = some user.uid)
    (yields : ∀ document ∈ app.docs user.uid, Yields wins stamp document.record)
    (allowed : Session.Reliable action ∧ action.updates.isNone = true) (admitted : app.admits action = true)
    (taken : app.sessionStep action = some after) : Awake wins stamp after := by
  have steady := awake.toSteady.step allowed.2 admitted taken
  have unwritten : ∀ write ∈ app.session.writes, write.outcome = none → Stands wins stamp write.snapshot := by
    intro write member
    simp [awake.writes] at member
  have held : Holding (Stands wins stamp) after ∧
      Lives (Stands wins stamp) action app.session.playerRef after.playerRef := by
    unfold State.sessionStep at taken
    split at taken
    · rename_i i reachable
      have read : Holding (Stands wins stamp) { app.session with
          cloud := (app.document app.checkUsers[i]?.join).map Document.record } := { awake with }
      have replaces : ∀ record ∈ (app.document app.checkUsers[i]?.join).map Document.record,
          Session.isValidPlayerData record.playerData = true → record.Replaces (Stands wins stamp) := by
        intro record fetched whole
        obtain ⟨document, found, rfl⟩ := Option.map_eq_some_iff.mp (Option.mem_def.mp fetched)
        obtain ⟨uid, holder, found⟩ := Option.bind_eq_some_iff.mp found
        have own := users _ (List.mem_of_getElem? (Option.join_eq_some_iff.mp holder))
        cases Option.some.inj own
        exact (yields document found).replaces whole
      have reliable : Session.Reliable (.checkFetch i (reachable && app.checkUsers[i]?.join.isSome)) := trivial
      have stepped := read.step (fun _ stands => stands.1) reliable unwritten (fun _ _ _ => replaces) taken
      refine ⟨stepped.1, ?_⟩
      simp only [Session.step] at taken
      split at taken
      · cases Option.some.inj taken
        exact .same
      · cases taken
    · rename_i other
      exact awake.toHolding.step (fun _ stands => stands.1) allowed.1 unwritten
        (fun i reachable same => (other i reachable same).elim) taken
  refine { held.1, steady with live := ?_ }
  obtain ⟨character, save, here, won, same⟩ := awake.live
  obtain ⟨_, lives⟩ := held
  rw [here] at lives
  generalize after.playerRef = live at lives ⊢
  cases lives with
  | same => exact ⟨character, save, rfl, won, same⟩
  | cleared ended =>
    subst ended
    simp [State.admits] at admitted
  | @loaded snapshot character stands decoded =>
    exact ⟨character, snapshot.save, rfl, stands.2.1, Session.Snapshot.player_of_decoded decoded⟩
  | updated saved =>
    subst saved
    simp [Session.Action.updates] at allowed
  | created _ selected =>
    obtain ⟨i, now, rfl⟩ := selected
    simp [State.sessionStep, Session.step, awake.selections] at taken

structure Worthy (wins : SaveData → Prop) (snapshot : Snapshot) : Prop where
  whole : Session.isValidPlayerData snapshot.save = true
  won : wins snapshot.save
  stamped : 0 < snapshot.savedAt
  known : snapshot.save.knownArchetype = true

/-- The document yields to a choice of this time, now and after the uploads and changes to come. -/
structure Firm (keepsLocal : Bool) (user : User) (versions : CloudRecord → Prop) (wins : SaveData → Prop) (stamp : ℤ)
    (app : State) : Prop where
  yields : ∀ content ∈ app.docs user.uid, Yields wins stamp content.record
  sent : ∀ upload ∈ app.uploads, upload.uid = user.uid → wins upload.record.playerData
  future : keepsLocal = false → ∀ record, versions record → Yields wins stamp record

def ReadsGuest (guest : Snapshot) (saved : Option Snapshot) : LocalRead → Prop
  | .reading => saved = some guest
  | .read (some content) => content = some guest
  | .read none | .clearing | .cleared => True

inductive Course (keepsLocal : Bool) (user : User) (guest : Snapshot) (fetched : CloudLoad)
    (document : Option CloudRecord) (versions : CloudRecord → Prop) (wins : SaveData → Prop) (app : State) : Prop where
  | offered (shown : app.conflictState = some (State.pendingRecord guest fetched)) (idle : app.resolution = none)
      (resting : Resting [] app.session) (saved : app.session.saved = some guest) (unsent : app.uploads = [])
      (initial : keepsLocal = true → ∀ content ∈ app.docs user.uid, document = some content.record)
  | reading {read : LocalRead} {under : Option Nat} (hidden : app.conflictState = none)
      (here : app.resolution = some (.reading (State.pendingRecord guest fetched) read under))
      (keeps : keepsLocal = true) (resting : Resting [] app.session) (reads : ReadsGuest guest app.session.saved read)
      (unsent : app.uploads = []) (initial : ∀ content ∈ app.docs user.uid, document = some content.record)
  | writing {snapshot : Snapshot} {under : Option Nat} (hidden : app.conflictState = none)
      (here : app.resolution = some (.writing snapshot under)) (resting : Resting [] app.session)
      (worthy : Worthy wins snapshot) (firm : Firm keepsLocal user versions wins snapshot.savedAt app)
  | wrote {snapshot : Snapshot} (hidden : app.conflictState = none) (here : app.resolution = some .wrote)
      (resting : Resting [] app.session) (saved : app.session.saved = some snapshot) (worthy : Worthy wins snapshot)
      (firm : Firm keepsLocal user versions wins snapshot.savedAt app)
  | loading {snapshot : Snapshot} {load : Session.Load} (hidden : app.conflictState = none)
      (here : app.resolution = some (.loading load.gen)) (resting : Resting [load] app.session)
      (current : load.gen = app.session.initGenerationRef) (finds : load.read.Finds (· = snapshot))
      (saved : app.session.saved = some snapshot) (worthy : Worthy wins snapshot)
      (firm : Firm keepsLocal user versions wins snapshot.savedAt app)
  | live {stamp : ℤ} (hidden : app.conflictState = none)
      (here : app.resolution = none ∨ app.resolution = some .forgetting ∨ app.resolution = some .forgot ∨
        ∃ gen, app.resolution = some (.loading gen))
      (awake : Awake wins stamp app.session) (firm : Firm keepsLocal user versions wins stamp app)

structure Prevails (keepsLocal : Bool) (user : User) (guest : Snapshot) (fetched : CloudLoad)
    (document : Option CloudRecord) (versions : CloudRecord → Prop) (app : State) : Prop where
  signed : app.currentUser = some user
  users : ∀ holder ∈ app.checkUsers, holder = some user.uid
  known : keepsLocal = false → ∀ content ∈ app.docs user.uid, versions content.record
  unsent : keepsLocal = false → app.uploads = []
  course : Course keepsLocal user guest fetched document versions (Wins keepsLocal guest fetched versions) app

variable {keepsLocal : Bool} {user : User} {guest : Snapshot} {fetched : CloudLoad} {document : Option CloudRecord}
variable {versions : CloudRecord → Prop}

namespace Firm

theorem settle (firm : Firm keepsLocal user versions wins stamp app) {upload : Upload}
    (found : app.uploads[i]? = some upload) :
    ∀ other ∈ app.uploads.set i { upload with settled := true }, other.uid = user.uid →
      wins other.record.playerData :=
  Tasks.forall_mem_set_of_found firm.sent found id

theorem arrive (firm : Firm keepsLocal user versions wins stamp app) {upload : Upload}
    (found : app.uploads[i]? = some upload) : Firm keepsLocal user versions wins stamp (app.arrive i upload) := by
  refine { firm with sent := firm.settle found, yields := fun content member => ?_ }
  rcases mem_docs_arrive member with old | ⟨same, rfl⟩
  · exact firm.yields content old
  · exact fun _ => firm.sent upload (List.mem_of_getElem? found) same.symm

end Firm

theorem mem_docBecomes {uid : Nat} {record : Option CloudRecord} {content : Document}
    (member : content ∈ Function.update app.docs uid (record.map fun record => ⟨record, some uid⟩) user.uid)
    (allowed : uid ≠ user.uid ∨ (keepsLocal = false ∧ ∀ written ∈ record, versions written)) :
    content ∈ app.docs user.uid ∨ (keepsLocal = false ∧ versions content.record) := by
  by_cases same : user.uid = uid
  · obtain ⟨chosen, written⟩ := allowed.resolve_left fun other => other same.symm
    rw [same, Function.update_self] at member
    obtain ⟨newer, here, rfl⟩ := Option.map_eq_some_iff.mp (Option.mem_def.mp member)
    exact .inr ⟨chosen, written newer here⟩
  · rw [Function.update_of_ne same] at member
    exact .inl member

theorem awake_of_load {session : Session.State} {load : Session.Load} {snapshot : Snapshot}
    (resting : Resting [load] session) (current : load.gen = session.initGenerationRef)
    (saved : session.saved = some snapshot) (worthy : Worthy wins snapshot) :
    Awake wins snapshot.savedAt (session.loadResume 0 load (.inr (some snapshot))) := by
  have decoded : Session.fromJSON snapshot.save snapshot.created =
      some ⟨Player.fromJSON snapshot.save.data, snapshot.created⟩ := by
    simp [Session.fromJSON, worthy.known]
  have stamped : snapshot.savedAt ≠ 0 := worthy.stamped.ne'
  simp only [Session.State.loadResume, Session.State.loadPlayer, current, ne_eq, not_true_eq_false, if_false, decoded]
  exact
    { saved := ⟨snapshot, saved, worthy.whole, worthy.won, le_rfl⟩
      loads := fun load member => by simp [resting.loads] at member
      checks := fun check member => by simp [resting.checks] at member
      settled := by simpa using stamped
      offered := resting.offered
      deferred := fun _ same => by cases same
      ended := by simp [resting.loads]
      selections := resting.selections
      writes := resting.writes
      live := ⟨_, snapshot.save, rfl, worthy.won, rfl⟩ }

theorem Course.session {action : Session.Action} {after : Session.State}
    (course : Course keepsLocal user guest fetched document versions wins app)
    (users : ∀ holder ∈ app.checkUsers, holder = some user.uid)
    (allowed : Session.Reliable action ∧ action.updates.isNone = true) (admitted : app.admits action = true)
    (taken : app.sessionStep action = some after) :
    Course keepsLocal user guest fetched document versions wins (app.follow action after) ∧
      (app.follow action after).uploads = app.uploads := by
  have follows : app.session.writes = [] → ∃ stamp, app.follow action after = { app with
      session := { after with cloud := app.session.cloud }
      checkUsers := extendLabels app.session.checks after.checks app.checkUsers app.uid
      history := app.remembers action after
      lastSyncTimestamp := stamp } := fun empty => State.follow_eq_of_synced (by simp [empty])
  cases course with
  | offered shown idle resting saved unsent initial =>
    obtain rfl := resting.idle admitted taken
    obtain ⟨stamp, same⟩ := follows resting.writes
    rw [same]
    exact ⟨.offered shown idle { resting with } saved unsent initial, rfl⟩
  | reading hidden here keeps resting reads unsent initial =>
    obtain rfl := resting.idle admitted taken
    obtain ⟨stamp, same⟩ := follows resting.writes
    rw [same]
    exact ⟨.reading hidden here keeps { resting with } reads unsent initial, rfl⟩
  | writing hidden here resting worthy firm =>
    obtain rfl := resting.idle admitted taken
    obtain ⟨stamp, same⟩ := follows resting.writes
    rw [same]
    exact ⟨.writing hidden here { resting with } worthy { firm with }, rfl⟩
  | wrote hidden here resting saved worthy firm =>
    obtain rfl := resting.idle admitted taken
    obtain ⟨stamp, same⟩ := follows resting.writes
    rw [same]
    exact ⟨.wrote hidden here { resting with } saved worthy { firm with }, rfl⟩
  | @loading snapshot load hidden here resting current finds saved worthy firm =>
    obtain ⟨stamp, same⟩ := follows resting.writes
    rw [same]
    rcases resting.step admitted taken with rfl | ⟨j, success, other, read, kept, rfl, found, accessed, rfl⟩ |
      ⟨j, other, outcome, rfl, found, resumed, rfl⟩
    · exact ⟨.loading hidden here { resting with } current finds saved worthy { firm with }, rfl⟩
    · obtain ⟨rfl, rfl⟩ : j = 0 ∧ load = other := by simpa using List.getElem?_eq_some_iff.mp found
      cases (allowed.1 : success = true)
      rw [saved] at accessed
      obtain ⟨rfl, found⟩ := LocalRead.Finds.access finds rfl accessed
      have goes : Resting [{ load with read := read }] { app.session with
          saved := some snapshot, loads := [load].set 0 { load with read := read }, cloud := app.session.cloud } :=
        { resting with loads := rfl }
      refine ⟨.loading hidden ?_ goes current found rfl worthy { firm with }, rfl⟩
      exact here
    · obtain ⟨rfl, rfl⟩ : j = 0 ∧ load = other := by simpa using List.getElem?_eq_some_iff.mp found
      have whole : ∀ other, other = snapshot → Session.isValidPlayerData other.save = true := by
        rintro _ rfl
        exact worthy.whole
      obtain ⟨_, rfl, rfl⟩ := LocalRead.Finds.resume whole finds resumed
      have awake := awake_of_load resting current saved worthy
      exact ⟨.live hidden (.inr (.inr (.inr ⟨_, here⟩))) { awake with } { firm with }, rfl⟩
  | live hidden here awake firm =>
    obtain ⟨stamp, same⟩ := follows awake.writes
    rw [same]
    have stepped := awake.step users firm.yields allowed admitted taken
    exact ⟨.live hidden here { stepped with } { firm with }, rfl⟩

theorem pendingRecord_local (guest : Snapshot) (fetched : CloudLoad) :
    (State.pendingRecord guest fetched).localData = some guest.save ∧
      (State.pendingRecord guest fetched).localSavedAt = guest.savedAt := by
  cases fetched <;> exact ⟨rfl, rfl⟩

theorem Course.keepLocal {fresh : Option Snapshot} {under : Option Nat} {now : ℤ} (signed : app.currentUser = some user)
    (eligible : Eligible true guest fetched) (hidden : app.conflictState = none) (resting : Resting [] app.session)
    (found : fresh = none ∨ fresh = some guest) (unsent : app.uploads = [])
    (initial : ∀ content ∈ app.docs user.uid, document = some content.record)
    (timely : 0 < max guest.savedAt now ∧ ∀ record ∈ document, record.lastSavedAt ≤ max guest.savedAt now) :
    Course true user guest fetched document versions (Wins true guest fetched versions)
      (app.keepLocal (State.pendingRecord guest fetched) fresh under now) := by
  obtain ⟨data, time⟩ := pendingRecord_local guest fetched
  have chosen : (fresh.map Snapshot.save).or (State.pendingRecord guest fetched).localData = some guest.save := by
    rcases found with rfl | rfl <;> simp [data]
  have stamp : fresh.elim (State.pendingRecord guest fetched).localSavedAt Snapshot.savedAt = guest.savedAt := by
    rcases found with rfl | rfl <;> simp [time]
  unfold State.keepLocal
  simp only [chosen, stamp, State.savePlayerData, signed]
  refine .writing hidden rfl { resting with } ⟨eligible.1, rfl, timely.1, eligible.2⟩ ⟨?_, ?_, fun other => by cases other⟩
  · intro content member later
    have behind := timely.2 content.record (initial content member)
    exact absurd later (not_lt.mpr behind)
  · intro upload member _
    have only : upload ∈ app.uploads ++ [_] := member
    rw [unsent, List.nil_append] at only
    rw [List.mem_singleton.mp only]
    rfl

theorem Course.resolves {conflict : Conflict} (eligible : Eligible keepsLocal guest fetched)
    (known : keepsLocal = false → ∀ content ∈ app.docs user.uid, versions content.record)
    (course : Course keepsLocal user guest fetched document versions (Wins keepsLocal guest fetched versions) app)
    (open_modal : app.conflictState = some conflict) :
    Course keepsLocal user guest fetched document versions (Wins keepsLocal guest fetched versions)
      (app.resolveConflict keepsLocal conflict) := by
  cases course with
  | offered shown idle resting saved unsent initial =>
    cases Option.some.inj (open_modal.symm.trans shown)
    cases keepsLocal with
    | true => exact .reading rfl rfl rfl { resting with } saved unsent (initial rfl)
    | false => match fetched, eligible with
      | .found record, ⟨whole, archetype, stamped⟩ =>
        have newer : ∀ other : CloudRecord, versions other →
            Yields (Wins false guest (.found record) versions) record.lastSavedAt other :=
          fun other version later => .inr ⟨other, version, later, rfl⟩
        refine .writing rfl rfl { resting with } ⟨whole, .inl rfl, stamped, archetype⟩
          ⟨fun content member => newer content.record (known rfl content member), fun upload member => ?_,
            fun _ => newer⟩
        have nothing : upload ∈ app.uploads := member
        simp [unsent] at nothing
  | reading hidden | writing hidden | wrote hidden | loading hidden | live hidden =>
    cases open_modal.symm.trans hidden

theorem ReadsGuest.access {read other : LocalRead} {saved after : Option Snapshot} {success : Bool}
    (reads : ReadsGuest guest saved read) (accessed : read.access saved success = some (other, after)) :
    ReadsGuest guest after other := by
  cases read with
  | reading =>
    cases Option.some.inj accessed
    cases success with
    | true => exact reads
    | false => trivial
  | clearing =>
    cases Option.some.inj accessed
    trivial
  | read | cleared => cases accessed

theorem ReadsGuest.resume {read : LocalRead} {saved : Option Snapshot} {outcome : LocalRead ⊕ Option Snapshot}
    (whole : Session.isValidPlayerData guest.save = true) (reads : ReadsGuest guest saved read)
    (resumed : read.resume = some outcome) :
    outcome = .inl .clearing ∨ outcome = .inr none ∨ outcome = .inr (some guest) := by
  cases read with
  | reading | clearing => cases resumed
  | cleared =>
    cases Option.some.inj resumed
    exact .inr (.inl rfl)
  | read content => match content with
    | none =>
      cases Option.some.inj resumed
      exact .inl rfl
    | some found =>
      cases (reads : found = some guest)
      simp only [LocalRead.resume, whole, if_true, Option.some.injEq] at resumed
      exact .inr (.inr resumed.symm)

theorem Course.accessed {resolution : Resolution} {success : Bool}
    (course : Course keepsLocal user guest fetched document versions wins app)
    (allowed : app.writesChoice = true → success = true) (going : app.resolution = some resolution)
    (done : app.resolutionAccess success resolution = some next) :
    Course keepsLocal user guest fetched document versions wins next := by
  cases course with
  | offered _ idle => cases idle.symm.trans going
  | reading hidden here keeps resting reads unsent initial =>
    cases here.symm.trans going
    obtain ⟨⟨read, saved⟩, accessed, rfl⟩ := Option.map_eq_some_iff.mp done
    exact .reading hidden rfl keeps { resting with } (reads.access accessed) unsent initial
  | writing hidden here resting worthy firm =>
    cases here.symm.trans going
    have success : success = true := allowed (by simp [State.writesChoice, going])
    subst success
    cases Option.some.inj done
    exact .wrote hidden rfl { resting with } rfl worthy { firm with }
  | wrote _ here | loading _ here =>
    cases here.symm.trans going
    cases done
  | live hidden here awake firm =>
    rcases here with here | here | here | ⟨_, here⟩
    · cases here.symm.trans going
    · cases here.symm.trans going
      cases Option.some.inj done
      exact .live hidden (.inr (.inr (.inl rfl))) awake { firm with }
    all_goals
      cases here.symm.trans going
      cases done

theorem Course.resumed {resolution : Resolution} {now : ℤ} (signed : app.currentUser = some user)
    (eligible : Eligible keepsLocal guest fetched)
    (course : Course keepsLocal user guest fetched document versions (Wins keepsLocal guest fetched versions) app)
    (timely : app.readsChoice = true →
      0 < max guest.savedAt now ∧ ∀ record ∈ document, record.lastSavedAt ≤ max guest.savedAt now)
    (going : app.resolution = some resolution) (done : app.resolutionResume now resolution = some next) :
    Course keepsLocal user guest fetched document versions (Wins keepsLocal guest fetched versions) next := by
  cases course with
  | offered _ idle => cases idle.symm.trans going
  | reading hidden here keeps resting reads unsent initial =>
    cases here.symm.trans going
    subst keeps
    have timely := timely (by simp [State.readsChoice, going])
    obtain ⟨outcome, known, rfl⟩ := Option.map_eq_some_iff.mp done
    rcases reads.resume eligible.1 known with rfl | rfl | rfl
    · exact .reading hidden rfl rfl { resting with } trivial unsent initial
    · exact Course.keepLocal signed eligible hidden resting (.inl rfl) unsent initial timely
    · exact Course.keepLocal signed eligible hidden resting (.inr rfl) unsent initial timely
  | writing _ here =>
    cases here.symm.trans going
    cases done
  | @wrote snapshot hidden here resting saved worthy firm =>
    cases here.symm.trans going
    cases Option.some.inj done
    have starts : Resting [⟨app.session.initGenerationRef + 1, .reading⟩] app.session.initializePlayer :=
      { resting with loads := by simp [Session.State.initializePlayer, resting.loads] }
    refine .loading hidden ?_ starts rfl trivial saved worthy { firm with }
    rfl
  | loading _ here resting =>
    cases here.symm.trans going
    simp [State.resolutionResume, resting.loads] at done
  | live hidden here awake firm =>
    rcases here with here | here | here | ⟨_, here⟩
    · cases here.symm.trans going
    · cases here.symm.trans going
      cases done
    · cases here.symm.trans going
      cases Option.some.inj done
      exact .live hidden (.inl rfl) awake { firm with }
    · cases here.symm.trans going
      simp only [State.resolutionResume] at done
      split at done
      · cases Option.some.inj done
        exact .live hidden (.inr (.inl rfl)) awake { firm with }
      · cases done

theorem resolutionAccess_keeps {resolution : Resolution} {success : Bool}
    (done : app.resolutionAccess success resolution = some next) : next.currentUser = app.currentUser ∧
      next.checkUsers = app.checkUsers ∧ next.docs = app.docs ∧ next.uploads = app.uploads := by
  unfold State.resolutionAccess at done
  split at done
  · obtain ⟨⟨read, saved⟩, _, rfl⟩ := Option.map_eq_some_iff.mp done
    exact ⟨rfl, rfl, rfl, rfl⟩
  · cases Option.some.inj done
    split <;> exact ⟨rfl, rfl, rfl, rfl⟩
  · obtain ⟨_, _, same⟩ := clearLocalPlayerData_eq app success
    rw [same] at done
    cases Option.some.inj done
    exact ⟨rfl, rfl, rfl, rfl⟩
  · cases Option.some.inj done
    exact ⟨rfl, rfl, rfl, rfl⟩
  all_goals cases done

theorem resolutionResume_keeps {resolution : Resolution} {now : ℤ}
    (done : app.resolutionResume now resolution = some next) : next.currentUser = app.currentUser ∧
      next.checkUsers = app.checkUsers ∧ next.docs = app.docs ∧
      (next.uploads = app.uploads ∨ ∃ conflict read under, resolution = .reading conflict read under) := by
  unfold State.resolutionResume at done
  split at done
  · obtain ⟨outcome, _, rfl⟩ := Option.map_eq_some_iff.mp done
    have reading : ∀ {conflict : Conflict} {read : LocalRead} {under : Option Nat}, ∃ conflict' read' under',
        Resolution.reading conflict read under = .reading conflict' read' under' := ⟨_, _, _, rfl⟩
    cases outcome with
    | inl => exact ⟨rfl, rfl, rfl, .inl rfl⟩
    | inr fresh =>
      dsimp only
      unfold State.keepLocal State.savePlayerData
      dsimp only
      split
      · split <;> exact ⟨rfl, rfl, rfl, .inr reading⟩
      · exact ⟨rfl, rfl, rfl, .inr reading⟩
  · cases Option.some.inj done
    exact ⟨rfl, rfl, rfl, .inl rfl⟩
  · cases Option.some.inj done
    exact ⟨rfl, rfl, rfl, .inl rfl⟩
  · split at done
    · cases Option.some.inj done
      exact ⟨rfl, rfl, rfl, .inl rfl⟩
    · cases done
  · cases Option.some.inj done
    exact ⟨rfl, rfl, rfl, .inl rfl⟩
  all_goals cases done

theorem Course.keeps_of_reading {conflict : Conflict} {read : LocalRead} {under : Option Nat}
    (course : Course keepsLocal user guest fetched document versions wins app)
    (going : app.resolution = some (.reading conflict read under)) : keepsLocal = true := by
  cases course with
  | offered _ idle => cases idle.symm.trans going
  | reading _ _ keeps => exact keeps
  | writing _ here | wrote _ here | loading _ here => cases here.symm.trans going
  | live _ here =>
    rcases here with here | here | here | ⟨_, here⟩
    all_goals cases here.symm.trans going

theorem Course.cloud {docs : Nat → Option Document} {uploads : List Upload}
    (course : Course keepsLocal user guest fetched document versions wins app)
    (unsent : app.uploads = [] → uploads = [])
    (initial : keepsLocal = true → app.uploads = [] → ∀ content ∈ docs user.uid, content ∈ app.docs user.uid)
    (firm : ∀ stamp, Firm keepsLocal user versions wins stamp app →
      Firm keepsLocal user versions wins stamp { app with docs := docs, uploads := uploads }) :
    Course keepsLocal user guest fetched document versions wins { app with docs := docs, uploads := uploads } := by
  cases course with
  | offered shown idle resting saved empty first =>
    exact .offered shown idle resting saved (unsent empty)
      fun keeps content member => first keeps content (initial keeps empty content member)
  | reading hidden here keeps resting reads empty first =>
    exact .reading hidden here keeps resting reads (unsent empty)
      fun content member => first content (initial keeps empty content member)
  | writing hidden here resting worthy holds => exact .writing hidden here resting worthy (firm _ holds)
  | wrote hidden here resting saved worthy holds => exact .wrote hidden here resting saved worthy (firm _ holds)
  | loading hidden here resting current finds saved worthy holds =>
    exact .loading hidden here resting current finds saved worthy (firm _ holds)
  | live hidden here awake holds => exact .live hidden here awake (firm _ holds)

namespace Prevails

theorem session {action : Session.Action} {after : Session.State}
    (inv : Prevails keepsLocal user guest fetched document versions app)
    (allowed : Session.Reliable action ∧ action.updates.isNone = true) (admitted : app.admits action = true)
    (taken : app.sessionStep action = some after) :
    Prevails keepsLocal user guest fetched document versions (app.follow action after) := by
  obtain ⟨course, unsent⟩ := inv.course.session inv.users allowed admitted taken
  obtain ⟨uploads, stamp, same, _⟩ := app.follow_eq action after
  have uid : app.uid = some user.uid := by rw [State.uid, inv.signed]; rfl
  rw [same] at course unsent ⊢
  refine ⟨inv.signed, fun holder member => ?_, inv.known, fun keeps => unsent.trans (inv.unsent keeps), course⟩
  rcases Tasks.mem_or_eq_of_mem_extendLabels member with old | rfl
  · exact inv.users holder old
  · exact uid

theorem step {action : Action} (inv : Prevails keepsLocal user guest fetched document versions app)
    (eligible : Eligible keepsLocal guest fetched)
    (allowed : Chooses keepsLocal user guest document versions app action)
    (taken : Account.step app action = some next) :
    Prevails keepsLocal user guest fetched document versions next := by
  cases performs_of_step taken with
  | session admitted stepped => exact inv.session allowed admitted stepped
  | @resolves choice conflict shown idle =>
    cases (allowed : choice = keepsLocal)
    have course := inv.course.resolves eligible inv.known shown
    obtain ⟨resolution, chosen⟩ := resolveConflict_eq app keepsLocal conflict
    rw [chosen] at course ⊢
    exact ⟨inv.signed, inv.users, inv.known, inv.unsent, course⟩
  | resolutionAccessed here done =>
    have course := inv.course.accessed allowed here done
    obtain ⟨signed, users, docs, uploads⟩ := resolutionAccess_keeps done
    exact ⟨signed.trans inv.signed, users ▸ inv.users, docs ▸ inv.known, uploads ▸ inv.unsent, course⟩
  | resolutionResumed here done =>
    have course := inv.course.resumed inv.signed eligible allowed here done
    obtain ⟨signed, users, docs, uploads⟩ := resolutionResume_keeps done
    refine ⟨signed.trans inv.signed, users ▸ inv.users, docs ▸ inv.known, fun cloud => ?_, course⟩
    rcases uploads with same | ⟨_, _, _, rfl⟩
    · exact same.trans (inv.unsent cloud)
    · cases (inv.course.keeps_of_reading here).symm.trans cloud
  | @arrives i upload found =>
    have arrived := fun stamp (firm : Firm keepsLocal user versions (Wins keepsLocal guest fetched versions) stamp app) =>
      firm.arrive found
    have sent : app.uploads ≠ [] := fun empty => by simp [empty] at found
    refine ⟨inv.signed, inv.users, fun cloud => absurd (inv.unsent cloud) sent,
      fun cloud => absurd (inv.unsent cloud) sent, ?_⟩
    exact inv.course.cloud (fun empty => absurd empty sent) (fun _ empty => absurd empty sent) arrived
  | @fails i upload found =>
    have sent : app.uploads ≠ [] := fun empty => by simp [empty] at found
    refine ⟨inv.signed, inv.users, inv.known, fun cloud => absurd (inv.unsent cloud) sent, ?_⟩
    exact inv.course.cloud (fun empty => absurd empty sent) (fun _ empty => absurd empty sent)
      fun _ firm => { firm with sent := firm.settle found }
  | docBecomes uid record =>
    refine ⟨inv.signed, inv.users, fun cloud content member => ?_, inv.unsent, ?_⟩
    · rcases mem_docBecomes member allowed with old | ⟨_, version⟩
      · exact inv.known cloud content old
      · exact version
    · refine inv.course.cloud id (fun keeps _ content member => ?_) fun stamp firm =>
        { firm with yields := fun content member => ?_ }
      · rcases mem_docBecomes member allowed with old | ⟨cloud, _⟩
        · exact old
        · cases keeps.symm.trans cloud
      · rcases mem_docBecomes member allowed with old | ⟨cloud, version⟩
        · exact firm.yields content old
        · exact firm.future cloud content.record version
  | _ => exact allowed.elim

end Prevails

variable {lastSync : ℤ} {actions : List Action}

theorem Prevails.choosing (user : User) (guest : Snapshot) (fetched : CloudLoad) (lastSync : ℤ)
    (held : ∀ record ∈ document, versions record) :
    Prevails keepsLocal user guest fetched document versions
      (Account.choosing user guest fetched document lastSync) := by
  have found : ∀ content ∈ (Account.choosing user guest fetched document lastSync).docs user.uid,
      document = some content.record := by
    intro content member
    obtain ⟨record, here, rfl⟩ := Option.map_eq_some_iff.mp (Option.mem_def.mp member)
    simpa using here
  refine ⟨rfl, fun _ member => (by cases member), fun _ content member => held _ (found content member),
    fun _ => rfl, ?_⟩
  exact .offered rfl rfl ⟨rfl, rfl, rfl, rfl, rfl, rfl, rfl, rfl⟩ rfl rfl fun _ => found

/-- Once the choice has been carried out, the snapshot and the live player are of the chosen save, or of a
strictly newer version of the chosen document. -/
theorem run_choice_wins (eligible : Eligible keepsLocal guest fetched) (held : ∀ record ∈ document, versions record)
    (run : Run step (Chooses keepsLocal user guest document versions)
      (choosing user guest fetched document lastSync) actions app)
    (chosen : app.conflictState = none) (completed : app.resolution = none) :
    (∃ snapshot, app.session.saved = some snapshot ∧ Wins keepsLocal guest fetched versions snapshot.save) ∧
      ∃ live save, app.session.playerRef = some live ∧ Wins keepsLocal guest fetched versions save ∧
        live.player = Player.fromJSON save.data := by
  have inv := run.invariant (Prevails keepsLocal user guest fetched document versions)
    (.choosing user guest fetched lastSync held) fun _ _ _ inv allowed taken => inv.step eligible allowed taken
  cases inv.course with
  | offered shown => cases chosen.symm.trans shown
  | reading _ here | writing _ here | wrote _ here | loading _ here => cases completed.symm.trans here
  | live _ _ awake =>
    obtain ⟨snapshot, saved, _, won, _⟩ := awake.saved
    exact ⟨⟨snapshot, saved, won⟩, awake.live⟩

def guestSnapshot : Snapshot := ⟨Session.veteranSave, 5, false⟩

def heroRecord (lastSavedAt : ℤ) : CloudRecord := ⟨(hero.snapshot lastSavedAt).save, lastSavedAt⟩

def loadChoice : List Action :=
  [.resolutionResume 20, .session (.loadAccess 0 true), .session (.loadResume 0), .resolutionResume 21,
    .resolutionAccess true, .resolutionResume 22, .session .commit]

def adoptRecord : List Action :=
  [.session .reconcileEffect, .session (.checkFetch 0 true), .session (.checkAccess 0 true),
    .session (.checkResume 0), .session (.checkAccess 0 true), .session (.checkResume 0),
    .session (.handleReconciled 0 30)]

/-- The guest save is kept. Its upload arrives and is newer than the local write, so the reconcile adopts it. -/
def keepGuest : List Action :=
  [Action.resolveConflict true, .resolutionAccess true, .resolutionResume 20, .uploadArrives 0, .resolutionAccess true] ++
    loadChoice ++ adoptRecord

/-- The record of the account is kept, and another device writes a newer one before the reconcile. -/
def keepCloud : List Action :=
  [Action.resolveConflict false, .resolutionAccess true, .docBecomes 2 (some (heroRecord 12))] ++ loadChoice ++ adoptRecord

theorem run_choice_wins_keepGuest :
    (∃ app, Run step (Chooses true member guestSnapshot (some (heroRecord 9)) fun record => record.lastSavedAt ≤ 12)
        (choosing member guestSnapshot (.found (heroRecord 9)) (some (heroRecord 9)) 40) keepGuest app ∧
      app.conflictState.isNone = true ∧ app.resolution.isNone = true ∧
      app.session.saved.map Snapshot.savedAt = some 41 ∧
      ∃ snapshot, app.session.saved = some snapshot ∧ snapshot.save = guestSnapshot.save) ∧
    ∃ app, Run step (Chooses false member guestSnapshot (some (heroRecord 9)) fun record => record.lastSavedAt ≤ 12)
        (choosing member guestSnapshot (.found (heroRecord 9)) (some (heroRecord 9)) 40) keepCloud app ∧
      app.conflictState.isNone = true ∧ app.resolution.isNone = true ∧
      app.session.saved.map Snapshot.savedAt = some 12 ∧
      ∃ snapshot, app.session.saved = some snapshot ∧
        Wins false guestSnapshot (.found (heroRecord 9)) (fun record => record.lastSavedAt ≤ 12) snapshot.save := by
  have held : ∀ record ∈ some (heroRecord 9), record.lastSavedAt ≤ 12 := by
    rintro _ ⟨⟩
    decide
  constructor
  · have executed : ∃ app, Run step
        (Chooses true member guestSnapshot (some (heroRecord 9)) fun record => record.lastSavedAt ≤ 12)
        (choosing member guestSnapshot (.found (heroRecord 9)) (some (heroRecord 9)) 40) keepGuest app ∧
        app.conflictState.isNone = true ∧ app.resolution.isNone = true ∧
        app.session.saved.map Snapshot.savedAt = some 41 := Run.exists_of_exec (by decide +kernel)
    obtain ⟨app, run, chosen, completed, time⟩ := executed
    have eligible : Eligible true guestSnapshot (.found (heroRecord 9)) := ⟨by decide +kernel, rfl⟩
    obtain ⟨won, _⟩ := run_choice_wins eligible held run (Option.isNone_iff_eq_none.mp chosen)
      (Option.isNone_iff_eq_none.mp completed)
    exact ⟨app, run, chosen, completed, time, won⟩
  · have executed : ∃ app, Run step
        (Chooses false member guestSnapshot (some (heroRecord 9)) fun record => record.lastSavedAt ≤ 12)
        (choosing member guestSnapshot (.found (heroRecord 9)) (some (heroRecord 9)) 40) keepCloud app ∧
        app.conflictState.isNone = true ∧ app.resolution.isNone = true ∧
        app.session.saved.map Snapshot.savedAt = some 12 := Run.exists_of_exec (by decide +kernel)
    obtain ⟨app, run, chosen, completed, time⟩ := executed
    have eligible : Eligible false guestSnapshot (.found (heroRecord 9)) := ⟨by decide +kernel, rfl, by decide⟩
    obtain ⟨won, _⟩ := run_choice_wins eligible held run (Option.isNone_iff_eq_none.mp chosen)
      (Option.isNone_iff_eq_none.mp completed)
    exact ⟨app, run, chosen, completed, time, won⟩

/-- The guest save is kept while the document has a later timestamp than the clock: the upload is refused, and
the reconcile puts the document in the place of the choice. -/
theorem run_keepGuest_overruled : ∃ app,
    Run step (fun _ _ => True)
        (choosing member guestSnapshot (.found (heroRecord 100)) (some (heroRecord 100)) 0) keepGuest app ∧
      app.conflictState.isNone = true ∧ app.resolution.isNone = true ∧
      app.session.saved.map (fun snapshot => snapshot.save.data.level) = some 3 ∧
      app.session.playerRef.map (fun live => live.player.level) = some 3 ∧ guestSnapshot.save.data.level ≠ 3 :=
  Run.exists_of_exec (by decide +kernel)

end Account

end WalkingRpg

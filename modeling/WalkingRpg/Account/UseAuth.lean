import WalkingRpg.Library.LastWrite
import WalkingRpg.Library.Tasks
import WalkingRpg.Session.Confirmation

/-! The auth hook over the player hook: account changes and the account-conflict flow.

The Firebase user changes in one step, and the callback that reports it is delivered in a
later one. The two stores that outlive the process are the local one and the session of
Firebase; a restart keeps them and starts everything else anew. A history says whose player
the data in memory, in flight and in the stores is. No code reads it.
-/

set_option autoImplicit false

namespace WalkingRpg

namespace Account

open Session (SaveData Snapshot CloudRecord CloudLoad LocalRead Character)
open Tasks (extendLabels)

structure User where
  uid : Nat
  isAnonymous : Bool
  deriving DecidableEq

/-- `ConflictState`, which is also what `CONFLICT_PENDING` stores. -/
structure Conflict where
  localData : Option SaveData
  localSavedAt : ℤ
  cloudData : Option SaveData
  cloudSavedAt : ℤ

/-- Whose player some data is. -/
structure Label where
  /-- The account under which it was last loaded, adopted, created or chosen. -/
  under : Option Nat
  /-- The account under which it was created or chosen, or whose document it was read from. A load from
  the local store keeps it. -/
  origin : Option Nat
  deriving DecidableEq

structure Document where
  record : CloudRecord
  origin : Option Nat

def Document.lastSavedAt (document : Document) : ℤ := document.record.lastSavedAt

structure Upload where
  uid : Nat
  record : CloudRecord
  label : Label
  /-- The server has taken or refused it, or it was given up. -/
  settled : Bool

/-- The call of `initialize`. -/
inductive Startup where
  /-- `AuthService.initialize`, which may sign in anonymously. -/
  | authenticating
  | readingConflict (user : Option User)
  | readConflict (user : Option User) (pending : Option Conflict)
  | clearingConflict
  | clearedConflict

/-- A call of `handleAccountConflict`. -/
inductive FlowPhase where
  | reading (read : LocalRead)
  /-- `clearLocalPlayerData` when there is no guest save. -/
  | clearing
  | cleared
  /-- `signInWithExistingCredential`, with the guest save read before. -/
  | signingIn (guest : Option Snapshot)
  | signedIn (guest : Option Snapshot)
  /-- `loadPlayerData` of the user it was called with. -/
  | fetching (guest : Snapshot) (user : Option Nat)
  /-- `writePendingConflict`. -/
  | persisting (record : Conflict)
  | persisted (record : Conflict)

structure Flow where
  /-- The account of the credential. -/
  target : User
  phase : FlowPhase

/-- A call of `resolveConflict`. -/
inductive Resolution where
  /-- The choice is local; `chosenUnder` is the user at the tap. -/
  | reading (conflict : Conflict) (read : LocalRead) (chosenUnder : Option Nat)
  /-- `writeLocalPlayerSnapshot` of the choice. -/
  | writing (snapshot : Snapshot) (chosenUnder : Option Nat)
  | wrote
  /-- `clearLocalPlayerData` when no cloud record was fetched. -/
  | clearing
  | cleared
  /-- `onAccountChange`, as the generation of its `initializePlayer`. -/
  | loading (gen : Nat)
  /-- `clearPendingConflict`. -/
  | forgetting
  | forgot

/-- `clearLocalPlayerData().then(onAccountChange)` of a switch. -/
inductive Switch where
  | clearing
  | cleared

/-- Whose data is live, in flight and in the local store. -/
structure History where
  live : Label
  /-- Of the writes in flight, in their order. -/
  writes : List Label
  /-- The origin of the snapshot. -/
  saved : Option Nat
  /-- The origins of what the loads have read, in their order. -/
  loads : List (Option Nat)
  /-- The origins of what the reconciles have read, in their order. -/
  checks : List (Option Nat)
  /-- The user when the current generation began. -/
  genUser : Option Nat
  /-- The user has not changed since then. -/
  genFresh : Bool
  /-- The user has not changed since the start of the generation that put the live player or cleared
  it. -/
  liveFresh : Bool

structure State where
  session : Session.State
  currentUser : Option User
  docs : Nat → Option Document
  uploads : List Upload
  lastSyncTimestamp : ℤ
  /-- The key `CONFLICT_PENDING`. -/
  conflictPending : Option Conflict
  /-- Changes of the user that the callback has not reported yet. -/
  callbacks : List (Option User)
  prevUidRef : Option Nat
  lastNonAnonUidRef : Option Nat
  conflictResolutionPendingRef : Bool
  pendingBelatedSignInRef : Bool
  conflictState : Option Conflict
  startup : Option Startup
  flow : Option Flow
  /-- Its presence is `conflictResolvingRef`. -/
  resolution : Option Resolution
  switches : List Switch
  /-- The user each reconcile reads the document of. -/
  checkUsers : List (Option Nat)
  history : History

def uidOf (user : Option User) : Option Nat := user.map User.uid

namespace State

variable (app : State)

def uid : Option Nat := uidOf app.currentUser

def setCurrentUser (user : Option User) : State :=
  { app with
    currentUser := user
    callbacks := app.callbacks ++ [user]
    history := { app.history with
      genFresh := app.history.genFresh && uidOf user == app.uid
      liveFresh := app.history.liveFresh && uidOf user == app.uid } }

/-- `onAccountSwitch`, as far as the player hook goes. -/
def clearPlayer : State :=
  { app with
    session := app.session.clearPlayer
    history := { app.history with genUser := app.uid, genFresh := true, liveFresh := true } }

/-- `onAccountChange`. -/
def initializePlayer : State :=
  { app with
    session := app.session.initializePlayer
    history := { app.history with
      loads := app.history.loads ++ [none], genUser := app.uid, genFresh := true } }

def noteNonAnonymous (user : Option User) : State :=
  match user with
  | some ⟨uid, false⟩ => { app with lastNonAnonUidRef := some uid }
  | some ⟨_, true⟩ | none => app

/-- The branch of the callback for a change from one user to another. -/
def switchAccount (user : Option User) : State :=
  let isReSignIn := uidOf user = app.lastNonAnonUidRef
  let app := app.clearPlayer
  if isReSignIn then app.initializePlayer else { app with switches := app.switches ++ [.clearing] }

def onAuthStateChanged (user : Option User) : State :=
  let prevUid := app.prevUidRef
  let newUid := uidOf user
  let app := { app with prevUidRef := newUid }
  if prevUid ≠ none ∧ newUid ≠ none ∧ prevUid ≠ newUid then
    if app.conflictResolutionPendingRef then app.noteNonAnonymous user
    else (app.switchAccount user).noteNonAnonymous user
  else if app.pendingBelatedSignInRef ∧ prevUid = none ∧ newUid ≠ none ∧ ¬app.conflictResolutionPendingRef then
    ({ app with pendingBelatedSignInRef := false }.initializePlayer).noteNonAnonymous user
  else app.noteNonAnonymous user

def savePlayerData (playerData : SaveData) (lastSavedAt : ℤ) (label : Label) : State :=
  match app.currentUser with
  | none => app
  | some user =>
    let syncTimestamp := LastWrite.nextStamp app.lastSyncTimestamp lastSavedAt
    { app with
      lastSyncTimestamp := syncTimestamp
      uploads := app.uploads ++ [⟨user.uid, ⟨playerData, syncTimestamp⟩, label, false⟩] }

def document (user : Option Nat) : Option Document := user.bind app.docs

def settle (i : Nat) (upload : Upload) : State :=
  { app with uploads := app.uploads.set i { upload with settled := true } }

/-- The server takes a write only when it is newer than the document. -/
def arrive (i : Nat) (upload : Upload) : State :=
  { app.settle i upload with
    docs := Function.update app.docs upload.uid
      (LastWrite.accept Document.lastSavedAt (app.docs upload.uid) ⟨upload.record, upload.label.origin⟩) }

def loadPlayerData (user : Option Nat) (reachable : Bool) : CloudLoad :=
  if reachable && user.isSome then (app.document user).elim .empty fun document => .found document.record
  else .unavailable

def clearLocalPlayerData (success : Bool) : State :=
  if success then
    { app with
      session := { app.session with saved := none }
      history := { app.history with saved := none } }
  else app

/-- What the player hook may do by itself: progress is made on a live player, and an archetype is
chosen on its screen. -/
def admits : Session.Action → Bool
  | .initializePlayer | .clearPlayer | .cloudBecomes _ => false
  | .setPlayerAndSave _ _ => app.session.playerRef.isSome
  | .handleArchetypeSelected _ => app.session.needsArchetypeSelection
  | .loadAccess _ _ | .loadResume _ | .commit | .becomeActive | .reconcileEffect | .checkFetch _ _
  | .checkAccess _ _ | .checkResume _ | .handleReconciled _ _ | .selectionResume _ _ | .writeAccess _ _
  | .writeResume _ => true

/-- A reconcile reads the document of the user it was started with. -/
def sessionStep : Session.Action → Option Session.State
  | .checkFetch i reachable =>
    let user := app.checkUsers[i]?.join
    Session.step { app.session with cloud := (app.document user).map Document.record }
      (.checkFetch i (reachable && user.isSome))
  | action => Session.step app.session action

def loads (i : Nat) : Bool :=
  (app.session.loadTakes i).any fun localData => (localData.bind Snapshot.decoded).isSome

def selects (i : Nat) : Option (Nat × Session.ReconcileResult) :=
  app.session.selections[i]?.bind fun selection => selection.phase.awaits.bind fun check =>
    (app.session.checks[check]?.bind fun found => found.phase.result).bind fun result =>
      if selection.gen = app.session.initGenerationRef ∧ app.session.playerRef.isNone then
        match result, selection.retriesLeft with
        | .unavailable, _ + 1 => none
        | result, _ => some (check, result)
      else none

def adopts (check : Nat) (data : SaveData) : Option (Label × Bool) :=
  if (Session.fromJSON data false).isSome then
    some (⟨app.checkUsers[check]?.join, app.history.checks[check]?.join⟩,
      app.history.genFresh &&
        (app.session.checks[check]?.any fun found => found.gen == app.session.initGenerationRef))
  else none

def puts : Session.Action → Option (Label × Bool)
  | .loadResume i =>
    if app.loads i then some (⟨app.history.genUser, app.history.loads[i]?.join⟩, app.history.genFresh) else none
  | .handleReconciled i _ => match app.session.checks[i]? with
    | some ⟨gen, true, .resolved (.adopted data)⟩ =>
      if gen = app.session.initGenerationRef then app.adopts i data else none
    | _ => none
  | .selectionResume i _ => match app.selects i with
    | some (check, .adopted data) => app.adopts check data
    | some (_, _) => some (⟨app.uid, app.uid⟩, true)
    | none => none
  | _ => none

def liveAfter (action : Session.Action) : Label × Bool :=
  (app.puts action).getD (app.history.live, app.history.liveFresh)

def stores : Session.Action → Option Nat
  | .writeAccess i true => (app.history.writes[i]?.map Label.origin).join
  | .checkAccess i true => match app.session.checks[i]? with
    | some ⟨_, _, .writing _⟩ => app.history.checks[i]?.join
    | _ => app.history.saved
  | _ => app.history.saved

def loadsRead (action : Session.Action) (after : Session.State) : List (Option Nat) :=
  match action with
  | .loadAccess i _ => app.history.loads.set i app.history.saved
  | .loadResume i =>
    if after.loads.length = app.session.loads.length then app.history.loads else app.history.loads.eraseIdx i
  | _ => app.history.loads

def checksRead : Session.Action → List (Option Nat)
  | .checkFetch i _ => app.history.checks.set i
      ((app.document app.checkUsers[i]?.join).elim app.checkUsers[i]?.join Document.origin)
  | _ => app.history.checks

def remembers (action : Session.Action) (after : Session.State) : History :=
  { app.history with
    live := (app.liveAfter action).1
    liveFresh := (app.liveAfter action).2
    saved := app.stores action
    -- A write that is added is one of the player that is live then.
    writes := match action with
      | .writeResume i => app.history.writes.eraseIdx i
      | _ => extendLabels app.session.writes after.writes app.history.writes (app.liveAfter action).1
    loads := app.loadsRead action after
    checks := extendLabels app.session.checks after.checks (app.checksRead action) app.uid }

def follow (action : Session.Action) (after : Session.State) : State :=
  let next := { app with
    session := { after with cloud := app.session.cloud }
    checkUsers := extendLabels app.session.checks after.checks app.checkUsers app.uid
    history := app.remembers action after }
  match action with
  | .writeResume i => match app.session.writes[i]? with
    | some ⟨snapshot, true, _, some true⟩ =>
      next.savePlayerData snapshot.save snapshot.savedAt (app.history.writes[i]?.getD app.history.live)
    | _ => next
  | _ => next

def startSession : State :=
  { app with startup := none, pendingBelatedSignInRef := app.currentUser.isNone }.initializePlayer

def showConflict (conflict : Conflict) : State :=
  { { app with startup := none, conflictResolutionPendingRef := true }.clearPlayer with
    conflictState := some conflict }

def startupAccess (success : Bool) : Startup → Option State
  | .readingConflict user =>
    some { app with startup := some (.readConflict user (if success then app.conflictPending else none)) }
  | .clearingConflict =>
    some { app with
      startup := some .clearedConflict
      conflictPending := if success then none else app.conflictPending }
  | .authenticating | .readConflict _ _ | .clearedConflict => none

def startupResume : Startup → Option State
  | .authenticating => some { app with startup := some (.readingConflict app.currentUser) }
  | .readConflict (some ⟨_, false⟩) (some pending) => some (app.showConflict pending)
  | .readConflict _ (some _) => some { app with startup := some .clearingConflict }
  | .readConflict _ none | .clearedConflict => some app.startSession
  | .readingConflict _ | .clearingConflict => none

def inFlow (target : User) (phase : FlowPhase) : State := { app with flow := some ⟨target, phase⟩ }

def flowAccess (success : Bool) : Flow → Option State
  | ⟨target, .reading read⟩ => (read.access app.session.saved success).map fun (read, saved) =>
      { app with session := { app.session with saved := saved } }.inFlow target (.reading read)
  | ⟨target, .clearing⟩ => some ((app.clearLocalPlayerData success).inFlow target .cleared)
  | ⟨target, .persisting record⟩ =>
    some ({ app with
      conflictPending := if success then some record else app.conflictPending }.inFlow target (.persisted record))
  | _ => none

def flowSignIn (success : Bool) : Flow → Option State
  | ⟨target, .signingIn guest⟩ =>
    if success then some ((app.setCurrentUser (some target)).inFlow target (.signedIn guest))
    else some { app with
      flow := none
      conflictResolutionPendingRef := if guest.isSome then false else app.conflictResolutionPendingRef }
  | _ => none

def flowResume : Flow → Option State
  | ⟨target, .reading read⟩ => read.resume.map fun
    | .inl read => app.inFlow target (.reading read)
    | .inr none => app.inFlow target .clearing
    | .inr (some guest) =>
      { app with conflictResolutionPendingRef := true }.inFlow target (.signingIn (some guest))
  | ⟨target, .cleared⟩ => some (app.inFlow target (.signingIn none))
  | ⟨_, .signedIn none⟩ => some { app with flow := none }
  | ⟨target, .signedIn (some guest)⟩ => some (app.clearPlayer.inFlow target (.fetching guest app.uid))
  | ⟨_, .persisted record⟩ => some { app with flow := none, conflictState := some record }
  | _ => none

def pendingRecord (guest : Snapshot) (cloudLoad : CloudLoad) : Conflict :=
  match cloudLoad with
  | .found record => ⟨some guest.save, guest.savedAt, some record.playerData, record.lastSavedAt⟩
  | .empty | .unavailable => ⟨some guest.save, guest.savedAt, none, 0⟩

def flowFetch (reachable : Bool) : Flow → Option State
  | ⟨target, .fetching guest user⟩ =>
    some (app.inFlow target (.persisting (pendingRecord guest (app.loadPlayerData user reachable))))
  | _ => none

def resolveConflict (keepsLocal : Bool) (conflict : Conflict) : State :=
  let app := { app with conflictState := none }
  if keepsLocal then { app with resolution := some (.reading conflict .reading app.uid) }
  else
    match conflict.cloudData with
    | some data => { app with resolution := some (.writing ⟨data, conflict.cloudSavedAt, false⟩ app.uid) }
    | none => { app with resolution := some .clearing }

def resolutionAccess (success : Bool) : Resolution → Option State
  | .reading conflict read chosenUnder => (read.access app.session.saved success).map fun (read, saved) =>
      { app with
        session := { app.session with saved := saved }
        resolution := some (.reading conflict read chosenUnder) }
  | .writing snapshot chosenUnder =>
    some (if success then
      { app with
        session := { app.session with saved := some snapshot }
        resolution := some .wrote
        history := { app.history with saved := chosenUnder } }
    else { app with resolution := some .wrote })
  | .clearing => some { app.clearLocalPlayerData success with resolution := some .cleared }
  | .forgetting =>
    some { app with
      conflictPending := if success then none else app.conflictPending
      resolution := some .forgot }
  | .wrote | .cleared | .loading _ | .forgot => none

def resolutionLoads : State :=
  { app.initializePlayer with resolution := some (.loading app.initializePlayer.session.initGenerationRef) }

def keepLocal (conflict : Conflict) (fresh : Option Snapshot) (chosenUnder : Option Nat) (now : ℤ) : State :=
  let dataToSave := (fresh.map Snapshot.save).or conflict.localData
  match dataToSave with
  | some data =>
    let baseTimestamp := fresh.elim conflict.localSavedAt Snapshot.savedAt
    let freshTimestamp := max baseTimestamp now
    { app.savePlayerData data freshTimestamp ⟨chosenUnder, chosenUnder⟩ with
      resolution := some (.writing ⟨data, freshTimestamp, fresh.any Snapshot.created⟩ chosenUnder) }
  | none => app.resolutionLoads

def resolutionResume (now : ℤ) : Resolution → Option State
  | .reading conflict read chosenUnder => read.resume.map fun
    | .inl read => { app with resolution := some (.reading conflict read chosenUnder) }
    | .inr fresh => app.keepLocal conflict fresh chosenUnder now
  | .wrote | .cleared => some app.resolutionLoads
  | .loading gen =>
    if app.session.loads.all fun load => load.gen != gen then some { app with resolution := some .forgetting }
    else none
  | .forgot => some { app with resolution := none, conflictResolutionPendingRef := false }
  | .writing _ _ | .clearing | .forgetting => none

/-- The app is launched. What the local store, Firebase and its write queue hold is kept. -/
def launch : State where
  session := { Session.start none none with saved := app.session.saved }
  currentUser := app.currentUser
  docs := app.docs
  uploads := app.uploads
  lastSyncTimestamp := 0
  conflictPending := app.conflictPending
  -- Firebase reports the user it has restored.
  callbacks := [app.currentUser]
  prevUidRef := none
  lastNonAnonUidRef := none
  conflictResolutionPendingRef := false
  pendingBelatedSignInRef := false
  conflictState := none
  startup := some .authenticating
  flow := none
  resolution := none
  switches := []
  checkUsers := []
  history :=
    { live := ⟨none, none⟩, writes := [], saved := app.history.saved, loads := [], checks := []
      genUser := app.uid, genFresh := true, liveFresh := true }

def switchAccess (i : Nat) (success : Bool) : State :=
  { app.clearLocalPlayerData success with switches := app.switches.set i .cleared }

end State

inductive Action where
  | session (action : Session.Action)
  /-- Any other change of the user: a sign-in, a sign-out or an anonymous sign-in. -/
  | userChanges (user : Option User)
  | deliverCallback
  | switchAccess (i : Nat) (success : Bool)
  | switchResume (i : Nat)
  | startupAccess (success : Bool)
  | startupResume
  /-- A sign-in of the guest finds that the credential belongs to an account. -/
  | handleAccountConflict (target : User)
  | flowAccess (success : Bool)
  | flowSignIn (success : Bool)
  | flowFetch (reachable : Bool)
  | flowResume
  | resolveConflict (keepsLocal : Bool)
  | resolutionAccess (success : Bool)
  | resolutionResume (now : ℤ)
  | uploadArrives (i : Nat)
  /-- The write is refused or given up. -/
  | uploadFails (i : Nat)
  /-- Another device of an account writes its document. -/
  | docBecomes (uid : Nat) (record : Option CloudRecord)
  /-- The process is killed, and the app is launched again. -/
  | restart

open State in
def step (app : State) : Action → Option State
  | .session action =>
    if app.admits action then (app.sessionStep action).map (app.follow action) else none
  | .userChanges user => some (app.setCurrentUser user)
  | .deliverCallback => match app.callbacks with
    | user :: rest => some ({ app with callbacks := rest }.onAuthStateChanged user)
    | [] => none
  | .switchAccess i success => match app.switches[i]? with
    | some .clearing => some (app.switchAccess i success)
    | _ => none
  | .switchResume i => match app.switches[i]? with
    | some .cleared => some { app with switches := app.switches.eraseIdx i }.initializePlayer
    | _ => none
  | .startupAccess success => app.startup.bind (app.startupAccess success)
  | .startupResume => app.startup.bind app.startupResume
  | .handleAccountConflict target =>
    if app.flow.isNone ∧ app.currentUser.any User.isAnonymous then
      some (app.inFlow target (.reading .reading))
    else none
  | .flowAccess success => app.flow.bind (app.flowAccess success)
  | .flowSignIn success => app.flow.bind (app.flowSignIn success)
  | .flowFetch reachable => app.flow.bind (app.flowFetch reachable)
  | .flowResume => app.flow.bind app.flowResume
  | .resolveConflict keepsLocal =>
    if app.resolution.isNone then app.conflictState.map (app.resolveConflict keepsLocal) else none
  | .resolutionAccess success => app.resolution.bind (app.resolutionAccess success)
  | .resolutionResume now => app.resolution.bind (app.resolutionResume now)
  | .uploadArrives i => app.uploads[i]?.bind fun upload =>
      if upload.settled then none else some (app.arrive i upload)
  | .uploadFails i => app.uploads[i]?.bind fun upload =>
      if upload.settled then none else some (app.settle i upload)
  | .docBecomes uid record =>
    some { app with docs := Function.update app.docs uid (record.map fun record => ⟨record, some uid⟩) }
  | .restart => some app.launch

def start (saved : Option (SaveData × ℤ)) (savedOrigin : Option Nat) (user : Option User)
    (records : Nat → Option CloudRecord) (pending : Option Conflict) : State where
  session := Session.start saved none
  currentUser := user
  docs := fun uid => (records uid).map fun record => ⟨record, some uid⟩
  uploads := []
  lastSyncTimestamp := 0
  conflictPending := pending
  callbacks := [user]
  prevUidRef := none
  lastNonAnonUidRef := none
  conflictResolutionPendingRef := false
  pendingBelatedSignInRef := false
  conflictState := none
  startup := some .authenticating
  flow := none
  resolution := none
  switches := []
  checkUsers := []
  history :=
    { live := ⟨none, none⟩, writes := [], saved := savedOrigin, loads := [], checks := []
      genUser := uidOf user, genFresh := true, liveFresh := true }

def State.sees (app : State) (user : Option User) : Prop :=
  app.prevUidRef ≠ none ∧ uidOf user ≠ none ∧ app.prevUidRef ≠ uidOf user

inductive Told (app : State) (user : Option User) : State → Prop where
  | noted (last : Option Nat) (kept : app.sees user → app.conflictResolutionPendingRef = true) :
      Told app user { app with prevUidRef := uidOf user, lastNonAnonUidRef := last }
  | resigned (last : Option Nat) (changed : app.sees user) (free : app.conflictResolutionPendingRef = false) :
      Told app user
        { app.clearPlayer.initializePlayer with prevUidRef := uidOf user, lastNonAnonUidRef := last }
  | switched (last : Option Nat) (changed : app.sees user) (free : app.conflictResolutionPendingRef = false) :
      Told app user
        { app.clearPlayer with
          switches := app.switches ++ [.clearing], prevUidRef := uidOf user, lastNonAnonUidRef := last }
  | belated (last : Option Nat) (armed : app.pendingBelatedSignInRef = true) : Told app user
      { app.initializePlayer with
        pendingBelatedSignInRef := false, prevUidRef := uidOf user, lastNonAnonUidRef := last }

theorem noteNonAnonymous_eq (app : State) (user : Option User) : ∃ last,
    app.noteNonAnonymous user = { app with lastNonAnonUidRef := last } := by
  unfold State.noteNonAnonymous
  split <;> exact ⟨_, rfl⟩

theorem mem_docs_arrive {app : State} {i uid : Nat} {upload : Upload} {document : Document}
    (member : document ∈ (app.arrive i upload).docs uid) :
    document ∈ app.docs uid ∨ uid = upload.uid ∧ document = ⟨upload.record, upload.label.origin⟩ := by
  change document ∈ Function.update app.docs upload.uid _ uid at member
  by_cases same : uid = upload.uid
  · rw [same, Function.update_self] at member
    rcases LastWrite.eq_or_mem_of_mem_accept member with taken | kept
    · exact .inr ⟨same, taken⟩
    · exact .inl (same ▸ kept)
  · rw [Function.update_of_ne same] at member
    exact .inl member

theorem resolveConflict_eq (app : State) (keepsLocal : Bool) (conflict : Conflict) : ∃ resolution,
    app.resolveConflict keepsLocal conflict = { app with conflictState := none, resolution := resolution } := by
  unfold State.resolveConflict
  dsimp only
  split
  · exact ⟨_, rfl⟩
  · split <;> exact ⟨_, rfl⟩

theorem told_onAuthStateChanged (app : State) (user : Option User) :
    Told app user (app.onAuthStateChanged user) := by
  unfold State.onAuthStateChanged
  dsimp only
  split
  · rename_i changed
    split
    · rename_i pending
      obtain ⟨last, noted⟩ := noteNonAnonymous_eq { app with prevUidRef := uidOf user } user
      rw [noted]
      exact .noted last fun _ => pending
    · rename_i free
      have free : app.conflictResolutionPendingRef = false := by simpa using free
      obtain ⟨last, noted⟩ := noteNonAnonymous_eq ({ app with prevUidRef := uidOf user }.switchAccount user) user
      rw [noted]
      unfold State.switchAccount
      dsimp only
      split
      · exact .resigned last changed free
      · exact .switched last changed free
  · rename_i unchanged
    split
    · rename_i armed
      obtain ⟨last, noted⟩ := noteNonAnonymous_eq
        { app with prevUidRef := uidOf user, pendingBelatedSignInRef := false }.initializePlayer user
      rw [noted]
      exact .belated last armed.1
    · obtain ⟨last, noted⟩ := noteNonAnonymous_eq { app with prevUidRef := uidOf user } user
      rw [noted]
      exact .noted last fun changed => absurd changed unchanged

theorem Told.keeps {app next : State} {user : Option User} (told : Told app user next) :
    next.currentUser = app.currentUser ∧ next.docs = app.docs ∧ next.uploads = app.uploads ∧
      next.resolution = app.resolution ∧ next.startup = app.startup ∧ next.callbacks = app.callbacks := by
  cases told <;> exact ⟨rfl, rfl, rfl, rfl, rfl, rfl⟩

theorem clearLocalPlayerData_eq (app : State) (success : Bool) : ∃ saved origin,
    app.clearLocalPlayerData success = { app with
      session := { app.session with saved := saved }, history := { app.history with saved := origin } } := by
  unfold State.clearLocalPlayerData
  split <;> exact ⟨_, _, rfl⟩

/-- What a step did: the call it belongs to, and what that call had waited for. -/
inductive Performs (app : State) : Action → State → Prop where
  | session {action : Session.Action} {after : Session.State} (admitted : app.admits action = true)
      (taken : app.sessionStep action = some after) : Performs app (.session action) (app.follow action after)
  | userChanges (user : Option User) : Performs app (.userChanges user) (app.setCurrentUser user)
  | callback {user : Option User} {rest : List (Option User)} (pending : app.callbacks = user :: rest) :
      Performs app .deliverCallback ({ app with callbacks := rest }.onAuthStateChanged user)
  | switchCleared {i : Nat} {success : Bool} (found : app.switches[i]? = some .clearing) :
      Performs app (.switchAccess i success) (app.switchAccess i success)
  | switchLoads {i : Nat} (found : app.switches[i]? = some .cleared) :
      Performs app (.switchResume i) { app with switches := app.switches.eraseIdx i }.initializePlayer
  | authenticated (here : app.startup = some .authenticating) :
      Performs app .startupResume { app with startup := some (.readingConflict app.currentUser) }
  | conflictRead {user : Option User} {success : Bool} (here : app.startup = some (.readingConflict user)) :
      Performs app (.startupAccess success)
        { app with startup := some (.readConflict user (if success then app.conflictPending else none)) }
  | conflictFound {uid : Nat} {pending : Conflict}
      (here : app.startup = some (.readConflict (some ⟨uid, false⟩) (some pending))) :
      Performs app .startupResume (app.showConflict pending)
  | conflictStale {user : Option User} {pending : Conflict}
      (here : app.startup = some (.readConflict user (some pending))) (left : ∀ uid, user ≠ some ⟨uid, false⟩) :
      Performs app .startupResume { app with startup := some .clearingConflict }
  | conflictCleared {success : Bool} (here : app.startup = some .clearingConflict) :
      Performs app (.startupAccess success)
        { app with
          startup := some .clearedConflict
          conflictPending := if success then none else app.conflictPending }
  | sessionStarts
      (here : (∃ user, app.startup = some (.readConflict user none)) ∨ app.startup = some .clearedConflict) :
      Performs app .startupResume app.startSession
  | conflictArises {target : User} (idle : app.flow = none) (anonymous : app.currentUser.any User.isAnonymous = true) :
      Performs app (.handleAccountConflict target) (app.inFlow target (.reading .reading))
  | flowRead {target : User} {read next : LocalRead} {saved : Option Snapshot} {success : Bool}
      (here : app.flow = some ⟨target, .reading read⟩)
      (accessed : read.access app.session.saved success = some (next, saved)) :
      Performs app (.flowAccess success)
        ({ app with session := { app.session with saved := saved } }.inFlow target (.reading next))
  | flowReads {target : User} {read next : LocalRead} (here : app.flow = some ⟨target, .reading read⟩)
      (resumed : read.resume = some (.inl next)) :
      Performs app .flowResume (app.inFlow target (.reading next))
  | flowClears {target : User} {read : LocalRead} (here : app.flow = some ⟨target, .reading read⟩)
      (resumed : read.resume = some (.inr none)) : Performs app .flowResume (app.inFlow target .clearing)
  | flowCleared {target : User} {success : Bool} (here : app.flow = some ⟨target, .clearing⟩) :
      Performs app (.flowAccess success) ((app.clearLocalPlayerData success).inFlow target .cleared)
  | flowSignsIn {target : User} (here : app.flow = some ⟨target, .cleared⟩) :
      Performs app .flowResume (app.inFlow target (.signingIn none))
  | flowGuards {target : User} {read : LocalRead} {guest : Snapshot}
      (here : app.flow = some ⟨target, .reading read⟩) (resumed : read.resume = some (.inr (some guest))) :
      Performs app .flowResume
        ({ app with conflictResolutionPendingRef := true }.inFlow target (.signingIn (some guest)))
  | signInSucceeds {target : User} {guest : Option Snapshot} (here : app.flow = some ⟨target, .signingIn guest⟩) :
      Performs app (.flowSignIn true) ((app.setCurrentUser (some target)).inFlow target (.signedIn guest))
  | signInFails {target : User} {guest : Option Snapshot} (here : app.flow = some ⟨target, .signingIn guest⟩) :
      Performs app (.flowSignIn false)
        { app with
          flow := none
          conflictResolutionPendingRef := if guest.isSome then false else app.conflictResolutionPendingRef }
  | flowEnds {target : User} (here : app.flow = some ⟨target, .signedIn none⟩) :
      Performs app .flowResume { app with flow := none }
  | flowSwitches {target : User} {guest : Snapshot} (here : app.flow = some ⟨target, .signedIn (some guest)⟩) :
      Performs app .flowResume (app.clearPlayer.inFlow target (.fetching guest app.uid))
  | flowFetched {target : User} {guest : Snapshot} {user : Option Nat} {reachable : Bool}
      (here : app.flow = some ⟨target, .fetching guest user⟩) :
      Performs app (.flowFetch reachable)
        (app.inFlow target (.persisting (State.pendingRecord guest (app.loadPlayerData user reachable))))
  | flowPersisted {target : User} {record : Conflict} {success : Bool}
      (here : app.flow = some ⟨target, .persisting record⟩) :
      Performs app (.flowAccess success)
        ({ app with
          conflictPending := if success then some record else app.conflictPending }.inFlow target (.persisted record))
  | flowShows {target : User} {record : Conflict} (here : app.flow = some ⟨target, .persisted record⟩) :
      Performs app .flowResume { app with flow := none, conflictState := some record }
  | resolves {keepsLocal : Bool} {conflict : Conflict} (shown : app.conflictState = some conflict)
      (idle : app.resolution = none) :
      Performs app (.resolveConflict keepsLocal) (app.resolveConflict keepsLocal conflict)
  | resolutionAccessed {resolution : Resolution} {success : Bool} {next : State}
      (here : app.resolution = some resolution) (accessed : app.resolutionAccess success resolution = some next) :
      Performs app (.resolutionAccess success) next
  | resolutionResumed {resolution : Resolution} {now : ℤ} {next : State} (here : app.resolution = some resolution)
      (resumed : app.resolutionResume now resolution = some next) : Performs app (.resolutionResume now) next
  | arrives {i : Nat} {upload : Upload} (found : app.uploads[i]? = some upload) :
      Performs app (.uploadArrives i) (app.arrive i upload)
  | fails {i : Nat} {upload : Upload} (found : app.uploads[i]? = some upload) :
      Performs app (.uploadFails i) (app.settle i upload)
  | docBecomes (uid : Nat) (record : Option CloudRecord) :
      Performs app (.docBecomes uid record)
        { app with docs := Function.update app.docs uid (record.map fun record => ⟨record, some uid⟩) }
  | restarts : Performs app .restart app.launch

theorem performs_of_startupResume {app next : State} (taken : step app .startupResume = some next) :
    Performs app .startupResume next := by
  obtain ⟨startup, here, resumed⟩ := Option.bind_eq_some_iff.mp taken
  unfold State.startupResume at resumed
  split at resumed
  · cases Option.some.inj resumed
    exact .authenticated here
  · cases Option.some.inj resumed
    exact .conflictFound here
  · rename_i guest
    cases Option.some.inj resumed
    exact .conflictStale here fun uid same => guest uid same
  · cases Option.some.inj resumed
    exact .sessionStarts (.inl ⟨_, here⟩)
  · cases Option.some.inj resumed
    exact .sessionStarts (.inr here)
  all_goals cases resumed

theorem performs_of_flowAccess {app next : State} {success : Bool} (taken : step app (.flowAccess success) = some next) :
    Performs app (.flowAccess success) next := by
  obtain ⟨flow, here, accessed⟩ := Option.bind_eq_some_iff.mp taken
  unfold State.flowAccess at accessed
  split at accessed
  · obtain ⟨⟨read, saved⟩, done, rfl⟩ := Option.map_eq_some_iff.mp accessed
    exact .flowRead here done
  · cases Option.some.inj accessed
    exact .flowCleared here
  · cases Option.some.inj accessed
    exact .flowPersisted here
  · cases accessed

theorem performs_of_flowResume {app next : State} (taken : step app .flowResume = some next) :
    Performs app .flowResume next := by
  obtain ⟨flow, here, resumed⟩ := Option.bind_eq_some_iff.mp taken
  unfold State.flowResume at resumed
  split at resumed
  · obtain ⟨outcome, known, rfl⟩ := Option.map_eq_some_iff.mp resumed
    match outcome, known with
    | .inl _, known => exact .flowReads here known
    | .inr none, known => exact .flowClears here known
    | .inr (some _), known => exact .flowGuards here known
  · cases Option.some.inj resumed
    exact .flowSignsIn here
  · cases Option.some.inj resumed
    exact .flowEnds here
  · cases Option.some.inj resumed
    exact .flowSwitches here
  · cases Option.some.inj resumed
    exact .flowShows here
  · cases resumed

theorem performs_of_step {app next : State} {action : Action} (taken : step app action = some next) :
    Performs app action next := by
  cases action with
  | session action =>
    simp only [step] at taken
    split at taken
    · rename_i admitted
      obtain ⟨after, stepped, rfl⟩ := Option.map_eq_some_iff.mp taken
      exact .session admitted stepped
    · cases taken
  | userChanges user =>
    cases Option.some.inj taken
    exact .userChanges user
  | deliverCallback =>
    simp only [step] at taken
    split at taken
    · rename_i pending
      cases Option.some.inj taken
      exact .callback pending
    · cases taken
  | switchAccess i success =>
    simp only [step] at taken
    split at taken
    · rename_i found
      cases Option.some.inj taken
      exact .switchCleared found
    · cases taken
  | switchResume i =>
    simp only [step] at taken
    split at taken
    · rename_i found
      cases Option.some.inj taken
      exact .switchLoads found
    · cases taken
  | startupAccess success =>
    obtain ⟨startup, here, accessed⟩ := Option.bind_eq_some_iff.mp taken
    unfold State.startupAccess at accessed
    split at accessed
    · cases Option.some.inj accessed
      exact .conflictRead here
    · cases Option.some.inj accessed
      exact .conflictCleared here
    all_goals cases accessed
  | startupResume => exact performs_of_startupResume taken
  | handleAccountConflict target =>
    simp only [step] at taken
    split at taken
    · rename_i allowed
      cases Option.some.inj taken
      exact .conflictArises (Option.isNone_iff_eq_none.mp allowed.1) allowed.2
    · cases taken
  | flowAccess success => exact performs_of_flowAccess taken
  | flowSignIn success =>
    obtain ⟨flow, here, signed⟩ := Option.bind_eq_some_iff.mp taken
    unfold State.flowSignIn at signed
    split at signed
    · cases success with
      | true =>
        cases Option.some.inj signed
        exact .signInSucceeds here
      | false =>
        cases Option.some.inj signed
        exact .signInFails here
    · cases signed
  | flowFetch reachable =>
    obtain ⟨flow, here, fetched⟩ := Option.bind_eq_some_iff.mp taken
    unfold State.flowFetch at fetched
    split at fetched
    · cases Option.some.inj fetched
      exact .flowFetched here
    · cases fetched
  | flowResume => exact performs_of_flowResume taken
  | resolveConflict keepsLocal =>
    simp only [step] at taken
    split at taken
    · rename_i idle
      obtain ⟨conflict, shown, rfl⟩ := Option.map_eq_some_iff.mp taken
      exact .resolves shown (Option.isNone_iff_eq_none.mp idle)
    · cases taken
  | resolutionAccess success =>
    obtain ⟨resolution, here, accessed⟩ := Option.bind_eq_some_iff.mp taken
    exact .resolutionAccessed here accessed
  | resolutionResume now =>
    obtain ⟨resolution, here, resumed⟩ := Option.bind_eq_some_iff.mp taken
    exact .resolutionResumed here resumed
  | uploadArrives i =>
    obtain ⟨upload, found, arrived⟩ := Option.bind_eq_some_iff.mp taken
    split at arrived
    · cases arrived
    · cases Option.some.inj arrived
      exact .arrives found
  | uploadFails i =>
    obtain ⟨upload, found, failed⟩ := Option.bind_eq_some_iff.mp taken
    split at failed
    · cases failed
    · cases Option.some.inj failed
      exact .fails found
  | docBecomes uid record =>
    cases Option.some.inj taken
    exact .docBecomes uid record
  | restart =>
    cases Option.some.inj taken
    exact .restarts

end Account

end WalkingRpg

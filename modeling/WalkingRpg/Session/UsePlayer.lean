import WalkingRpg.Library.Runs
import WalkingRpg.Models.Player

/-! The player hook: loading, saving, the cloud reconcile and archetype selection.

Code between two awaits is one step, and so is every storage operation, so the
calls in flight interleave freely. A player made by archetype selection in this
session carries a mark, which its saves and later progress keep; no code reads it.
-/

set_option autoImplicit false

namespace WalkingRpg

namespace Session

/-- A player in memory, and whether archetype selection made it in this session. -/
structure Character where
  player : Player
  created : Bool

/-- The parsed JSON of a save. Text that does not parse is treated by the code like a
record that fails `isValidPlayerData`. -/
structure SaveData where
  data : PlayerData
  /-- The archetype is absent or has a config. -/
  knownArchetype : Bool

def isValidPlayerData (save : SaveData) : Bool :=
  decide (1 ≤ save.data.level) && save.data.attack.isSome && save.data.defense.isSome &&
    save.data.equipment.isSome

structure Snapshot where
  save : SaveData
  savedAt : ℤ
  created : Bool

/-- The document `players/{uid}`; without its `playerData` it counts as no document. A character
read back from it counts as the cloud's. -/
structure CloudRecord where
  playerData : SaveData
  lastSavedAt : ℤ

inductive CloudLoad where
  | unavailable
  | empty
  | found (record : CloudRecord)

inductive ReconcileResult where
  | adopted (data : SaveData)
  | noNewerCloud
  | unavailable

def Character.snapshot (character : Character) (savedAt : ℤ) : Snapshot :=
  ⟨⟨character.player.toJSON, true⟩, savedAt, character.created⟩

/-- `Player.fromJSON` throws on an archetype without a config. -/
def fromJSON (save : SaveData) (created : Bool) : Option Character :=
  if save.knownArchetype then some ⟨Player.fromJSON save.data, created⟩ else none

/-- A call of `readLocalPlayerSnapshot`. -/
inductive LocalRead where
  | reading
  /-- What the read returned; `none` when it failed. -/
  | read (content : Option (Option Snapshot))
  /-- `clearLocalPlayerData` after a failed read or an invalid record. -/
  | clearing
  | cleared

def LocalRead.access (saved : Option Snapshot) (success : Bool) :
    LocalRead → Option (LocalRead × Option Snapshot)
  | .reading => some (.read (if success then some saved else none), saved)
  | .clearing => some (.cleared, if success then none else saved)
  | .read _ | .cleared => none

def LocalRead.resume : LocalRead → Option (LocalRead ⊕ Option Snapshot)
  | .read none => some (.inl .clearing)
  | .read (some none) => some (.inr none)
  | .read (some (some snapshot)) =>
    if isValidPlayerData snapshot.save then some (.inr (some snapshot)) else some (.inl .clearing)
  | .cleared => some (.inr none)
  | .reading | .clearing => none

structure Load where
  gen : Nat
  read : LocalRead

/-- A call of `reconcileCloudPlayerData`. -/
inductive CheckPhase where
  | fetching
  | comparing (record : CloudRecord) (read : LocalRead)
  | writing (record : CloudRecord)
  /-- The record has been written, or the write has failed and was logged. -/
  | wrote (record : CloudRecord)
  | resolved (result : ReconcileResult)

structure Check where
  /-- The generation in which it was started. -/
  gen : Nat
  /-- The handler of the reconcile effect is still to run. -/
  handler : Bool
  phase : CheckPhase

/-- A call of `handleArchetypeSelected` before it creates a player or returns. -/
inductive SelectionPhase where
  /-- Awaiting the promise in `cloudCheckRef`. -/
  | waiting (check : Nat)
  /-- The delay before a retry. -/
  | pausing
  | retrying (check : Nat)

structure Selection where
  gen : Nat
  archetype : Archetype
  retriesLeft : Nat
  phase : SelectionPhase

structure LocalWrite where
  snapshot : Snapshot
  /-- `savePlayerData` goes on to the cloud. -/
  sync : Bool
  /-- `handleArchetypeSelected` awaits it before it paints the new player. -/
  paints : Bool
  /-- The outcome of the storage operation, once it is known. -/
  outcome : Option Bool

/-- A paint deferred by `commitWhenActive`. -/
inductive Commit where
  | archetypeSelection (gen : Nat)
  | loadedPlayer (gen : Nat)
  | createdPlayer

inductive Event where
  | read (load : CloudLoad)
  /-- A player read from the cloud became the live one. -/
  | adopted
  /-- `CloudSyncService.savePlayerData` was called. -/
  | cloudWrite (snapshot : Snapshot)

structure State where
  playerRef : Option Character
  provisionalRef : Bool
  initGenerationRef : Nat
  /-- The promise, as a position in `checks`. -/
  cloudCheckRef : Option Nat
  reconciledGenerationRef : Option Nat
  player : Option Character
  needsArchetypeSelection : Bool
  pendingCommit : Option Commit
  saved : Option Snapshot
  cloud : Option CloudRecord
  loads : List Load
  checks : List Check
  selections : List Selection
  writes : List LocalWrite
  log : List Event
  /-- The generation of the last `clearPlayer`. No code reads it. -/
  clearedAt : Nat

namespace State

variable (session : State)

/-- `writeLocalPlayerSnapshot(player.toJSON(), 0)`: the sentinel of a provisional player. -/
def writeLocalPlayerSnapshot (character : Character) (paints : Bool) : State :=
  { session with writes := session.writes ++ [⟨character.snapshot 0, false, paints, none⟩] }

def savePlayerData (character : Character) (now : ℤ) (paints : Bool) : State :=
  { session with writes := session.writes ++ [⟨character.snapshot now, true, paints, none⟩] }

def setPlayerAndSave (updated : Character) (now : ℤ) : State :=
  let session := { session with playerRef := some updated, player := some updated }
  if session.provisionalRef then session.writeLocalPlayerSnapshot updated false
  else session.savePlayerData updated now false

def writeAccess (i : Nat) (write : LocalWrite) (success : Bool) : State :=
  { session with
    writes := session.writes.set i { write with outcome := some success }
    saved := if success then some write.snapshot else session.saved }

/-- The code after it: the cloud write of a save that succeeded, and the paint of a new player. -/
def writeResume (i : Nat) (write : LocalWrite) (success : Bool) : State :=
  { session with
    writes := session.writes.eraseIdx i
    -- A failed local write throws before the cloud is reached.
    log := if write.sync && success then session.log ++ [.cloudWrite write.snapshot] else session.log
    pendingCommit := if write.paints then some .createdPlayer else session.pendingCommit }

def clearPlayer : State :=
  { session with
    initGenerationRef := session.initGenerationRef + 1
    pendingCommit := none
    playerRef := none
    cloudCheckRef := none
    provisionalRef := false
    player := none
    needsArchetypeSelection := false
    clearedAt := session.initGenerationRef + 1 }

def initializePlayer : State :=
  { session with
    initGenerationRef := session.initGenerationRef + 1
    loads := session.loads ++ [⟨session.initGenerationRef + 1, .reading⟩] }

def loadPlayer (gen : Nat) (localData : Option Snapshot) : State :=
  if gen ≠ session.initGenerationRef then session
  else
    match localData with
    | none =>
      { session with provisionalRef := false, pendingCommit := some (.archetypeSelection gen) }
    | some snapshot =>
      let session := { session with provisionalRef := decide (snapshot.savedAt = 0) }
      match fromJSON snapshot.save snapshot.created with
      -- The throw is caught after the provisional flag has been set.
      | none => { session with pendingCommit := some (.archetypeSelection gen) }
      | some playerToSet =>
        { session with playerRef := some playerToSet, pendingCommit := some (.loadedPlayer gen) }

def loadResume (i : Nat) (load : Load) : LocalRead ⊕ Option Snapshot → State
  | .inl read => { session with loads := session.loads.set i { load with read := read } }
  | .inr localData => { session with loads := session.loads.eraseIdx i }.loadPlayer load.gen localData

def commit : Commit → State
  | .archetypeSelection gen =>
    { session with
      pendingCommit := none
      needsArchetypeSelection := session.needsArchetypeSelection || gen == session.initGenerationRef }
  | .loadedPlayer gen =>
    -- What is painted is the player live by then, not the one that was loaded.
    if gen = session.initGenerationRef ∧ session.playerRef.isSome then
      { session with pendingCommit := none, player := session.playerRef, needsArchetypeSelection := false }
    else { session with pendingCommit := none }
  | .createdPlayer =>
    if session.playerRef.isSome then
      { session with pendingCommit := none, player := session.playerRef, needsArchetypeSelection := false }
    else { session with pendingCommit := none }

/-- The app becomes active: the live player is put on screen again. -/
def becomeActive : State :=
  if session.playerRef.isSome then
    { session with player := session.playerRef, needsArchetypeSelection := false }
  -- `needsArchetypeRef` follows the state: the screen of a new user is asserted again.
  else if session.needsArchetypeSelection then { session with needsArchetypeSelection := true }
  else session

def startCheck (handler : Bool) : State :=
  { session with checks := session.checks ++ [⟨session.initGenerationRef, handler, .fetching⟩] }

def reconcileEffect : State :=
  { session with
    reconciledGenerationRef := some session.initGenerationRef
    cloudCheckRef := some session.checks.length }.startCheck true

def setPhase (i : Nat) (check : Check) (phase : CheckPhase) : State :=
  { session with checks := session.checks.set i { check with phase := phase } }

def loadPlayerData (reachable : Bool) : CloudLoad :=
  if reachable then session.cloud.elim .empty .found else .unavailable

/-- `reconcileCloudPlayerData` after its cloud read. A malformed record counts as unavailable. -/
def examine : CloudLoad → CheckPhase
  | .unavailable => .resolved .unavailable
  -- The same result as for a record that is present and not newer.
  | .empty => .resolved .noNewerCloud
  | .found record =>
    if isValidPlayerData record.playerData then .comparing record .reading
    else .resolved .unavailable

def checkFetched (i : Nat) (check : Check) (load : CloudLoad) : State :=
  let session := { session with log := session.log ++ [Event.read load] }
  session.setPhase i check (examine load)

def compare (record : CloudRecord) (localData : Option Snapshot) : CheckPhase :=
  if record.lastSavedAt > localData.elim 0 Snapshot.savedAt then .writing record
  else .resolved .noNewerCloud

def checkResume (i : Nat) (check : Check) (record : CloudRecord) : LocalRead ⊕ Option Snapshot → State
  | .inl read => session.setPhase i check (.comparing record read)
  | .inr localData => session.setPhase i check (compare record localData)

def checkWrite (i : Nat) (check : Check) (record : CloudRecord) (success : Bool) : State :=
  let saved := if success then some ⟨record.playerData, record.lastSavedAt, false⟩ else session.saved
  { session with saved := saved }.setPhase i check (.wrote record)

def adopt (data : SaveData) : State :=
  match fromJSON data false with
  | none => session
  | some cloudPlayer =>
    { session with
      playerRef := some cloudPlayer
      provisionalRef := false
      player := some cloudPlayer
      needsArchetypeSelection := false
      log := session.log ++ [.adopted] }

def handleReconciled (gen : Nat) (result : ReconcileResult) (now : ℤ) : State :=
  if gen ≠ session.initGenerationRef then session
  else
    match result with
    | .adopted data => session.adopt data
    | .noNewerCloud =>
      match session.playerRef with
      | some live =>
        if session.provisionalRef then
          { session with provisionalRef := false }.savePlayerData live now false
        else session
      | none => session
    | .unavailable => session

def archetypeCloudRetries : Nat := 2

def startSelection (archetype : Archetype) (check : Nat) : State :=
  { session with
    selections := session.selections ++
      [⟨session.initGenerationRef, archetype, archetypeCloudRetries, .waiting check⟩] }

/-- Up to the first await. The check is started here when the effect has not done so. -/
def handleArchetypeSelected (archetype : Archetype) : State :=
  match session.cloudCheckRef with
  | some check => session.startSelection archetype check
  | none =>
    let session := session.startSelection archetype session.checks.length
    { session with
      reconciledGenerationRef := some session.initGenerationRef
      cloudCheckRef := some session.checks.length }.startCheck false

/-- Create the chosen archetype: provisionally when the cloud could not be read, otherwise with a
save. -/
def createPlayer (archetype : Archetype) (result : ReconcileResult) (now : ℤ) : State :=
  let newPlayer : Character := ⟨Player.new archetype 1, true⟩
  let session := { session with playerRef := some newPlayer }
  match result with
  | .unavailable => { session with provisionalRef := true }.writeLocalPlayerSnapshot newPlayer true
  | _ => { session with provisionalRef := false }.savePlayerData newPlayer now true

def finishSelection (archetype : Archetype) (result : ReconcileResult) (now : ℤ) : State :=
  match session.playerRef, result with
  | some _, _ => session
  | none, .adopted data => session.adopt data
  | none, result => session.createPlayer archetype result now

def selectionChecked (i : Nat) (selection : Selection) (result : ReconcileResult) (now : ℤ) : State :=
  if selection.gen ≠ session.initGenerationRef then
    { session with selections := session.selections.eraseIdx i }
  else
    match result, selection.retriesLeft with
    | .unavailable, retriesLeft + 1 =>
      { session with
        selections := session.selections.set i
          { selection with retriesLeft := retriesLeft, phase := .pausing } }
    | result, _ =>
      { session with selections := session.selections.eraseIdx i }.finishSelection selection.archetype
        result now

/-- The code after the delay: another reconcile, which no ref keeps. -/
def selectionRetries (i : Nat) (selection : Selection) : State :=
  if selection.gen ≠ session.initGenerationRef then
    { session with selections := session.selections.eraseIdx i }
  else
    { session with
      selections := session.selections.set i
        { selection with phase := .retrying session.checks.length } }.startCheck false

theorem loadPlayer_eq (gen : Nat) (localData : Option Snapshot) : ∃ live flag deferred,
    session.loadPlayer gen localData =
      { session with playerRef := live, provisionalRef := flag, pendingCommit := deferred } := by
  unfold loadPlayer
  split
  · exact ⟨_, _, _, rfl⟩
  · cases localData with
    | none => exact ⟨_, _, _, rfl⟩
    | some snapshot => dsimp only; split <;> exact ⟨_, _, _, rfl⟩

theorem commit_eq (deferred : Commit) : ∃ player needs, session.commit deferred =
    { session with pendingCommit := none, player := player, needsArchetypeSelection := needs } := by
  cases deferred with
  | archetypeSelection gen => exact ⟨_, _, rfl⟩
  | loadedPlayer gen => unfold commit; dsimp only; split <;> exact ⟨_, _, rfl⟩
  | createdPlayer => unfold commit; dsimp only; split <;> exact ⟨_, _, rfl⟩

theorem becomeActive_of_absent {session : State} (absent : session.playerRef.isSome ≠ true) :
    session.becomeActive = session := by
  unfold becomeActive
  rw [if_neg absent]
  split
  · rename_i needs
    rw [← needs]
  · rfl

theorem becomeActive_eq : ∃ player needs,
    session.becomeActive = { session with player := player, needsArchetypeSelection := needs } := by
  unfold becomeActive
  split
  · exact ⟨_, _, rfl⟩
  · split <;> exact ⟨_, _, rfl⟩

theorem setPlayerAndSave_eq (updated : Character) (now : ℤ) : ∃ write,
    session.setPlayerAndSave updated now =
      { session with
        playerRef := some updated, player := some updated, writes := session.writes ++ [write] } := by
  unfold setPlayerAndSave
  dsimp only
  split <;> exact ⟨_, rfl⟩

/-- How a reconcile is settled, by the effect or by a selection: not at all, by the cloud player, or
by a save of a local one. -/
inductive Settles (session : State) : State → Prop where
  | unchanged : Settles session session
  | adopted (cloudPlayer : Character) : Settles session
      { session with
        playerRef := some cloudPlayer
        provisionalRef := false
        player := some cloudPlayer
        needsArchetypeSelection := false
        log := session.log ++ [.adopted] }
  | saved (live : Option Character) (flag : Bool) (write : LocalWrite) : Settles session
      { session with playerRef := live, provisionalRef := flag, writes := session.writes ++ [write] }

theorem settles_adopt (data : SaveData) : session.Settles (session.adopt data) := by
  unfold adopt
  split
  · exact .unchanged
  · exact .adopted _

theorem settles_handleReconciled (gen : Nat) (result : ReconcileResult) (now : ℤ) :
    session.Settles (session.handleReconciled gen result now) := by
  unfold handleReconciled
  split
  · exact .unchanged
  · cases result with
    | adopted data => exact session.settles_adopt data
    | noNewerCloud =>
      dsimp only
      split
      · split
        · exact .saved _ _ _
        · exact .unchanged
      · exact .unchanged
    | unavailable => exact .unchanged

theorem settles_finishSelection (archetype : Archetype) (result : ReconcileResult) (now : ℤ) :
    session.Settles (session.finishSelection archetype result now) := by
  unfold finishSelection
  split
  · exact .unchanged
  · exact session.settles_adopt _
  · unfold createPlayer
    dsimp only
    split <;> exact .saved _ _ _

end State

inductive Action where
  | initializePlayer
  | loadAccess (i : Nat) (success : Bool)
  | loadResume (i : Nat)
  | clearPlayer
  | commit
  | becomeActive
  /-- The reconcile effect. React runs it after a commit that changed what is on screen; here it
  may run whenever something is on screen. -/
  | reconcileEffect
  | checkFetch (i : Nat) (reachable : Bool)
  | checkAccess (i : Nat) (success : Bool)
  | checkResume (i : Nat)
  | handleReconciled (i : Nat) (now : ℤ)
  | handleArchetypeSelected (archetype : Archetype)
  | selectionResume (i : Nat) (now : ℤ)
  | setPlayerAndSave (updated : Character) (now : ℤ)
  | writeAccess (i : Nat) (success : Bool)
  | writeResume (i : Nat)
  /-- The document changes: a write of this device arrives, or one of another device. -/
  | cloudBecomes (cloud : Option CloudRecord)

def SelectionPhase.awaits : SelectionPhase → Option Nat
  | .waiting check | .retrying check => some check
  | .pausing => none

def CheckPhase.result : CheckPhase → Option ReconcileResult
  | .resolved result => some result
  | .fetching | .comparing _ _ | .writing _ | .wrote _ => none

def State.checkAccess (session : State) (i : Nat) (check : Check) (success : Bool) : Option State :=
  match check.phase with
  | .comparing record read => (read.access session.saved success).map fun (read, saved) =>
      { session with saved := saved }.setPhase i check (.comparing record read)
  | .writing record => some (session.checkWrite i check record success)
  | .fetching | .wrote _ | .resolved _ => none

def State.checkContinue (session : State) (i : Nat) (check : Check) : Option State :=
  match check.phase with
  | .comparing record read => read.resume.map (session.checkResume i check record)
  | .wrote record => some (session.setPhase i check (.resolved (.adopted record.playerData)))
  | .fetching | .writing _ | .resolved _ => none

def State.selectionContinue (session : State) (i : Nat) (selection : Selection) (now : ℤ) : Option State :=
  match selection.phase.awaits with
  | none => some (session.selectionRetries i selection)
  | some check => (session.checks[check]?.bind fun check => check.phase.result).map fun result =>
      session.selectionChecked i selection result now

def step (session : State) : Action → Option State
  | .initializePlayer => some session.initializePlayer
  | .loadAccess i success => session.loads[i]?.bind fun load =>
      (load.read.access session.saved success).map fun (read, saved) =>
        { session with saved := saved, loads := session.loads.set i { load with read := read } }
  | .loadResume i => session.loads[i]?.bind fun load =>
      load.read.resume.map (session.loadResume i load)
  | .clearPlayer => some session.clearPlayer
  | .commit => session.pendingCommit.map session.commit
  | .becomeActive => some session.becomeActive
  | .reconcileEffect =>
    if (session.player.isSome ∨ session.needsArchetypeSelection) ∧
        session.reconciledGenerationRef ≠ some session.initGenerationRef then
      some session.reconcileEffect
    else none
  | .checkFetch i reachable => match session.checks[i]? with
    | some ⟨gen, handler, .fetching⟩ =>
      some (session.checkFetched i ⟨gen, handler, .fetching⟩ (session.loadPlayerData reachable))
    | _ => none
  | .checkAccess i success => session.checks[i]?.bind fun check => session.checkAccess i check success
  | .checkResume i => session.checks[i]?.bind fun check => session.checkContinue i check
  | .handleReconciled i now => match session.checks[i]? with
    | some ⟨gen, true, .resolved result⟩ =>
      some ({ session with
        checks := session.checks.set i ⟨gen, false, .resolved result⟩ }.handleReconciled gen result now)
    | _ => none
  | .handleArchetypeSelected archetype => some (session.handleArchetypeSelected archetype)
  | .selectionResume i now => session.selections[i]?.bind fun selection =>
      session.selectionContinue i selection now
  | .setPlayerAndSave updated now => some (session.setPlayerAndSave updated now)
  | .writeAccess i success => match session.writes[i]? with
    | some ⟨snapshot, sync, paints, none⟩ =>
      some (session.writeAccess i ⟨snapshot, sync, paints, none⟩ success)
    | _ => none
  | .writeResume i => session.writes[i]?.bind fun write =>
      write.outcome.map (session.writeResume i write)
  | .cloudBecomes cloud => some { session with cloud := cloud }

def start (saved : Option (SaveData × ℤ)) (cloud : Option CloudRecord) : State where
  playerRef := none
  provisionalRef := false
  initGenerationRef := 0
  cloudCheckRef := none
  reconciledGenerationRef := none
  player := none
  needsArchetypeSelection := false
  pendingCommit := none
  saved := saved.map fun (save, savedAt) => ⟨save, savedAt, false⟩
  cloud := cloud
  loads := []
  checks := []
  selections := []
  writes := []
  log := []
  clearedAt := 0

/-- What a step did: the call it belongs to, and what that call had waited for. -/
inductive Does (session : State) : Action → State → Prop where
  | initializePlayer : Does session .initializePlayer session.initializePlayer
  | loadAccess {i : Nat} {load : Load} {success : Bool} {read : LocalRead} {saved : Option Snapshot}
      (found : session.loads[i]? = some load)
      (accessed : load.read.access session.saved success = some (read, saved)) :
      Does session (.loadAccess i success)
        { session with saved := saved, loads := session.loads.set i { load with read := read } }
  | loadResume {i : Nat} {load : Load} {outcome : LocalRead ⊕ Option Snapshot}
      (found : session.loads[i]? = some load) (resumed : load.read.resume = some outcome) :
      Does session (.loadResume i) (session.loadResume i load outcome)
  | clearPlayer : Does session .clearPlayer session.clearPlayer
  | commit {deferred : Commit} (pending : session.pendingCommit = some deferred) :
      Does session .commit (session.commit deferred)
  | becomeActive : Does session .becomeActive session.becomeActive
  | reconcileEffect (painted : session.player.isSome ∨ session.needsArchetypeSelection)
      (first : session.reconciledGenerationRef ≠ some session.initGenerationRef) :
      Does session .reconcileEffect session.reconcileEffect
  | checkFetched {i gen : Nat} {handler reachable : Bool}
      (found : session.checks[i]? = some ⟨gen, handler, .fetching⟩) :
      Does session (.checkFetch i reachable)
        (session.checkFetched i ⟨gen, handler, .fetching⟩ (session.loadPlayerData reachable))
  | checkAccessed {i : Nat} {check : Check} {success : Bool} {record : CloudRecord} {read next : LocalRead}
      {saved : Option Snapshot} (found : session.checks[i]? = some check)
      (phase : check.phase = .comparing record read)
      (accessed : read.access session.saved success = some (next, saved)) :
      Does session (.checkAccess i success)
        ({ session with saved := saved }.setPhase i check (.comparing record next))
  | checkWritten {i : Nat} {check : Check} {success : Bool} {record : CloudRecord}
      (found : session.checks[i]? = some check) (phase : check.phase = .writing record) :
      Does session (.checkAccess i success) (session.checkWrite i check record success)
  | checkCompared {i : Nat} {check : Check} {record : CloudRecord} {read : LocalRead}
      {outcome : LocalRead ⊕ Option Snapshot} (found : session.checks[i]? = some check)
      (phase : check.phase = .comparing record read) (resumed : read.resume = some outcome) :
      Does session (.checkResume i) (session.checkResume i check record outcome)
  | checkAdopted {i : Nat} {check : Check} {record : CloudRecord} (found : session.checks[i]? = some check)
      (phase : check.phase = .wrote record) :
      Does session (.checkResume i) (session.setPhase i check (.resolved (.adopted record.playerData)))
  | handleReconciled {i gen : Nat} {result : ReconcileResult} {now : ℤ}
      (found : session.checks[i]? = some ⟨gen, true, .resolved result⟩) :
      Does session (.handleReconciled i now)
        ({ session with
          checks := session.checks.set i ⟨gen, false, .resolved result⟩ }.handleReconciled gen result now)
  | handleArchetypeSelected {archetype : Archetype} :
      Does session (.handleArchetypeSelected archetype) (session.handleArchetypeSelected archetype)
  | selectionRetries {i : Nat} {selection : Selection} {now : ℤ}
      (found : session.selections[i]? = some selection) :
      Does session (.selectionResume i now) (session.selectionRetries i selection)
  | selectionChecked {i j : Nat} {selection : Selection} {check : Check} {result : ReconcileResult} {now : ℤ}
      (found : session.selections[i]? = some selection) (awaits : selection.phase.awaits = some j)
      (checked : session.checks[j]? = some check) (resolved : check.phase.result = some result) :
      Does session (.selectionResume i now) (session.selectionChecked i selection result now)
  | setPlayerAndSave {updated : Character} {now : ℤ} :
      Does session (.setPlayerAndSave updated now) (session.setPlayerAndSave updated now)
  | writeAccess {i : Nat} {write : LocalWrite} {success : Bool} (found : session.writes[i]? = some write)
      (pending : write.outcome = none) :
      Does session (.writeAccess i success) (session.writeAccess i write success)
  | writeResume {i : Nat} {write : LocalWrite} {success : Bool} (found : session.writes[i]? = some write)
      (carried : write.outcome = some success) :
      Does session (.writeResume i) (session.writeResume i write success)
  | cloudBecomes (cloud : Option CloudRecord) :
      Does session (.cloudBecomes cloud) { session with cloud := cloud }

theorem does_of_step {session after : State} {action : Action} (taken : step session action = some after) :
    Does session action after := by
  cases action with
  | initializePlayer => cases Option.some.inj taken; exact .initializePlayer
  | loadAccess i success =>
    obtain ⟨load, found, rest⟩ := Option.bind_eq_some_iff.mp taken
    obtain ⟨⟨read, saved⟩, accessed, rfl⟩ := Option.map_eq_some_iff.mp rest
    exact .loadAccess found accessed
  | loadResume i =>
    obtain ⟨load, found, rest⟩ := Option.bind_eq_some_iff.mp taken
    obtain ⟨outcome, resumed, rfl⟩ := Option.map_eq_some_iff.mp rest
    exact .loadResume found resumed
  | clearPlayer => cases Option.some.inj taken; exact .clearPlayer
  | commit =>
    obtain ⟨_, pending, rfl⟩ := Option.map_eq_some_iff.mp taken
    exact .commit pending
  | becomeActive => cases Option.some.inj taken; exact .becomeActive
  | reconcileEffect =>
    simp only [step] at taken
    split at taken
    · rename_i ready
      cases Option.some.inj taken
      exact .reconcileEffect ready.1 ready.2
    · cases taken
  | checkFetch i reachable =>
    simp only [step] at taken
    split at taken
    · rename_i found
      cases Option.some.inj taken
      exact .checkFetched found
    · cases taken
  | checkAccess i success =>
    obtain ⟨check, found, rest⟩ := Option.bind_eq_some_iff.mp taken
    simp only [State.checkAccess] at rest
    split at rest
    · rename_i record read phase
      obtain ⟨⟨next, saved⟩, accessed, rfl⟩ := Option.map_eq_some_iff.mp rest
      exact .checkAccessed found phase accessed
    · rename_i record phase
      cases Option.some.inj rest
      exact .checkWritten found phase
    all_goals cases rest
  | checkResume i =>
    obtain ⟨check, found, rest⟩ := Option.bind_eq_some_iff.mp taken
    simp only [State.checkContinue] at rest
    split at rest
    · rename_i record read phase
      obtain ⟨outcome, resumed, rfl⟩ := Option.map_eq_some_iff.mp rest
      exact .checkCompared found phase resumed
    · rename_i record phase
      cases Option.some.inj rest
      exact .checkAdopted found phase
    all_goals cases rest
  | handleReconciled i now =>
    simp only [step] at taken
    split at taken
    · rename_i found
      cases Option.some.inj taken
      exact .handleReconciled found
    · cases taken
  | handleArchetypeSelected archetype => cases Option.some.inj taken; exact .handleArchetypeSelected
  | selectionResume i now =>
    obtain ⟨selection, found, rest⟩ := Option.bind_eq_some_iff.mp taken
    simp only [State.selectionContinue] at rest
    split at rest
    · cases Option.some.inj rest
      exact .selectionRetries found
    · rename_i j awaits
      obtain ⟨result, known, rfl⟩ := Option.map_eq_some_iff.mp rest
      obtain ⟨check, checked, resolved⟩ := Option.bind_eq_some_iff.mp known
      exact .selectionChecked found awaits checked resolved
  | setPlayerAndSave updated now => cases Option.some.inj taken; exact .setPlayerAndSave
  | writeAccess i success =>
    simp only [step] at taken
    split at taken
    · rename_i found
      cases Option.some.inj taken
      exact .writeAccess found rfl
    · cases taken
  | writeResume i =>
    obtain ⟨write, found, rest⟩ := Option.bind_eq_some_iff.mp taken
    obtain ⟨success, carried, rfl⟩ := Option.map_eq_some_iff.mp rest
    exact .writeResume found carried
  | cloudBecomes cloud => cases Option.some.inj taken; exact .cloudBecomes cloud

end Session

end WalkingRpg

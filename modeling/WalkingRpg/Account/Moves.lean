import WalkingRpg.Account.UseAuth

/-! What a step of the player hook changes of the calls in flight and of the players they carry.

The results about accounts depend on the player hook only through this: which checks and
writes there are, who is live, and what was stored.
-/

set_option autoImplicit false

namespace WalkingRpg

namespace Session

def CheckPhase.mayStore : CheckPhase → Bool
  | .fetching | .comparing _ _ | .writing _ => true
  | .wrote _ | .resolved _ => false

end Session

namespace Account

open Session (Check LocalWrite CheckPhase ReconcileResult LocalRead Snapshot SaveData)
open Session.Threads (Ordered)
open Tasks (Extends extendLabels)

/-- A reconcile that goes on keeps its generation, and does not come back to its write. -/
def KeepsCheck (old new : Check) : Prop :=
  new.gen = old.gen ∧ (new.phase.mayStore = true → old.phase.mayStore = true)

def KeepsWrite (old new : LocalWrite) : Prop :=
  new.sync = old.sync ∧ (new.outcome = none → old.outcome = none)

namespace State

/-- The step saves the live player to the cloud: progress, or the promotion of a provisional player. -/
def savesLive (app : State) : Session.Action → Bool
  | .setPlayerAndSave _ _ => !app.session.provisionalRef
  | .handleReconciled i _ => match app.session.checks[i]? with
    | some ⟨gen, true, .resolved .noNewerCloud⟩ =>
      gen == app.session.initGenerationRef && app.session.provisionalRef && app.session.playerRef.isSome
    | _ => false
  | _ => false

/-- The step takes the current user for a new reconcile or a new player. -/
def usesUser (app : State) : Session.Action → Bool
  | .reconcileEffect | .handleArchetypeSelected _ => true
  | .selectionResume i _ =>
    app.session.selections[i]?.any fun selection => selection.gen == app.session.initGenerationRef
  | _ => false

end State

inductive Reads (app : State) (action : Session.Action) (after : Session.State) : Prop where
  | same (loads : after.loads = app.session.loads) (read : app.loadsRead action after = app.history.loads)
  | accessed {i : Nat} {load : Session.Load} {read : LocalRead} (found : app.session.loads[i]? = some load)
      (loads : after.loads = app.session.loads.set i { load with read := read })
      (read : app.loadsRead action after = app.history.loads.set i app.history.saved)
  | resumed {i : Nat} {load : Session.Load} {read : LocalRead} (found : app.session.loads[i]? = some load)
      (known : load.read ≠ .reading)
      (loads : after.loads = app.session.loads.set i { load with read := read })
      (read : app.loadsRead action after = app.history.loads)
  | ended {i : Nat} {load : Session.Load} (found : app.session.loads[i]? = some load)
      (loads : after.loads = app.session.loads.eraseIdx i)
      (read : app.loadsRead action after = app.history.loads.eraseIdx i)

/-- What a step of the player hook leaves, apart from the end of a write. -/
structure Moves (app : State) (action : Session.Action) (after : Session.State) : Prop where
  generation : after.initGenerationRef = app.session.initGenerationRef
  clearedAt : after.clearedAt = app.session.clearedAt
  checks : Extends KeepsCheck
    (fun check => check.gen = app.session.initGenerationRef ∧ app.usesUser action = true)
    app.session.checks after.checks
  /-- A new write is of the player that is live then; it is bound for the cloud only when the step
  saves the live player or creates one. -/
  writes : Extends KeepsWrite (fun write => after.playerRef.isSome = true ∧
    (write.sync = true → app.savesLive action = true ∨ app.puts action = some (⟨app.uid, app.uid⟩, true)))
    app.session.writes after.writes
  live : after.playerRef.isSome = true → app.puts action = none → app.session.playerRef.isSome = true
  loads : Reads app action after

variable {app : State} {action : Session.Action} {after : Session.State} {i : Nat}

theorem sessionStep_cases (taken : app.sessionStep action = some after) :
    (∃ i reachable gen handler cloud load, action = .checkFetch i reachable ∧
      app.session.checks[i]? = some ⟨gen, handler, .fetching⟩ ∧
      after = { app.session with cloud := cloud }.checkFetched i ⟨gen, handler, .fetching⟩ load) ∨
    Session.Does app.session action after := by
  unfold State.sessionStep at taken
  split at taken
  · cases Session.does_of_step taken with
    | checkFetched found => exact .inl ⟨_, _, _, _, _, _, rfl, found, rfl⟩
  · exact .inr (Session.does_of_step taken)

theorem ordered_of_sessionStep (inv : Ordered app.session.threads)
    (taken : app.sessionStep action = some after) : Ordered after.threads := by
  unfold State.sessionStep at taken
  split at taken
  · exact Session.ordered_of_does (by exact inv) (Session.does_of_step taken)
  · exact Session.ordered_of_does inv (Session.does_of_step taken)

namespace Moves

theorem idle (gen : after.initGenerationRef = app.session.initGenerationRef)
    (cleared : after.clearedAt = app.session.clearedAt) (checks : after.checks = app.session.checks)
    (writes : after.writes = app.session.writes) (live : after.playerRef = app.session.playerRef)
    (loads : Reads app action after) : Moves app action after where
  generation := gen
  clearedAt := cleared
  checks := checks ▸ .same
  writes := writes ▸ .same
  live := fun here _ => live ▸ here
  loads := loads

theorem phase {session : Session.State} {check : Check} {phase : CheckPhase} (found : app.session.checks[i]? = some check)
    (forward : phase.mayStore = true → check.phase.mayStore = true)
    (gen : session.initGenerationRef = app.session.initGenerationRef)
    (cleared : session.clearedAt = app.session.clearedAt) (checks : session.checks = app.session.checks)
    (writes : session.writes = app.session.writes) (live : session.playerRef = app.session.playerRef)
    (loads : Reads app action (session.setPhase i check phase)) :
    Moves app action (session.setPhase i check phase) where
  generation := gen
  clearedAt := cleared
  checks := by
    unfold Session.State.setPhase
    rw [checks]
    exact .changed found ⟨rfl, forward⟩
  writes := by
    unfold Session.State.setPhase
    rw [writes]
    exact .same
  live := fun here _ => live ▸ here
  loads := loads

theorem startCheck (gen : after.initGenerationRef = app.session.initGenerationRef)
    (cleared : after.clearedAt = app.session.clearedAt) {check : Check}
    (checks : after.checks = app.session.checks ++ [check]) (started : check.gen = app.session.initGenerationRef)
    (uses : app.usesUser action = true)
    (writes : after.writes = app.session.writes) (live : after.playerRef = app.session.playerRef)
    (loads : Reads app action after) : Moves app action after where
  generation := gen
  clearedAt := cleared
  checks := checks ▸ .grown ⟨started, uses⟩
  writes := writes ▸ .same
  live := fun here _ => live ▸ here
  loads := loads

theorem loadResume {load : Session.Load} {outcome : LocalRead ⊕ Option Snapshot}
    (found : app.session.loads[i]? = some load) (resumed : load.read.resume = some outcome) :
    Moves app (.loadResume i) (app.session.loadResume i load outcome) := by
  cases outcome with
  | inl read =>
    have known : load.read ≠ .reading := by
      intro same
      simp [same, LocalRead.resume] at resumed
    refine idle rfl rfl rfl rfl rfl (.resumed found known rfl ?_)
    simp [State.loadsRead, Session.State.loadResume]
  | inr localData =>
    have takes : load.gen = app.session.initGenerationRef →
        app.loads i = (localData.bind Snapshot.decoded).isSome := by
      intro current
      simp [State.loads, Session.State.loadTakes, found, current, resumed]
    have ended : ∀ after : Session.State, after.loads = app.session.loads.eraseIdx i →
        Reads app (.loadResume i) after := by
      intro after erased
      refine .ended found erased ?_
      have bound := (List.getElem?_eq_some_iff.mp found).1
      have shorter : after.loads.length ≠ app.session.loads.length := by
        rw [erased, List.length_eraseIdx, if_pos bound]
        omega
      simp [State.loadsRead, shorter]
    simp only [Session.State.loadResume, Session.State.loadPlayer]
    split
    · exact idle rfl rfl rfl rfl rfl (ended _ rfl)
    · rename_i current
      have same : load.gen = app.session.initGenerationRef := by simpa using current
      cases localData with
      | none => exact idle rfl rfl rfl rfl rfl (ended _ rfl)
      | some snapshot =>
        dsimp only
        split
        · exact idle rfl rfl rfl rfl rfl (ended _ rfl)
        · rename_i decoded
          have puts : app.loads i = true := by
            rw [takes same]
            simp [Snapshot.decoded, decoded]
          exact ⟨rfl, rfl, .same, .same, fun _ kept => by simp [State.puts, puts] at kept, ended _ rfl⟩

theorem adopt {session : Session.State} {data : SaveData} (check : Nat)
    (puts : app.puts action = app.adopts check data) (moved : Moves app action session)
    (loads : ∀ after : Session.State, after.loads = session.loads → Reads app action after) :
    Moves app action (session.adopt data) := by
  unfold Session.State.adopt
  split
  · exact moved
  · rename_i decoded
    have taken : app.puts action ≠ none := by simp [puts, State.adopts, decoded]
    exact { moved with
      writes := moved.writes.mono_starts fun _ started => ⟨rfl, started.2⟩
      live := fun _ kept => absurd kept taken
      loads := loads _ rfl }

theorem handleReconciled {gen : Nat} {result : ReconcileResult} {now : ℤ}
    (found : app.session.checks[i]? = some ⟨gen, true, .resolved result⟩) :
    Moves app (.handleReconciled i now) ({ app.session with
      checks := app.session.checks.set i ⟨gen, false, .resolved result⟩ }.handleReconciled gen result now) := by
  have handled : Moves app (.handleReconciled i now)
      { app.session with checks := app.session.checks.set i ⟨gen, false, .resolved result⟩ } :=
    ⟨rfl, rfl, .changed found ⟨rfl, id⟩, .same, fun here _ => here, .same rfl rfl⟩
  unfold Session.State.handleReconciled
  split
  · exact handled
  · rename_i current
    have same : gen = app.session.initGenerationRef := by simpa using current
    cases result with
    | adopted data => exact adopt i (by simp [State.puts, found, same]) handled fun _ loads => .same loads rfl
    | unavailable => exact handled
    | noNewerCloud =>
      dsimp only
      split
      · rename_i live here
        split
        · rename_i provisional
          have saves : app.savesLive (.handleReconciled i now) = true := by
            have here : app.session.playerRef = some live := here
            have provisional : app.session.provisionalRef = true := provisional
            simp [State.savesLive, found, same, here, provisional]
          exact { handled with
            writes := .grown ⟨Option.isSome_iff_exists.mpr ⟨live, here⟩, fun _ => .inl saves⟩
            loads := .same rfl rfl }
        · exact handled
      · exact handled

theorem handleArchetypeSelected {archetype : Archetype} :
    Moves app (.handleArchetypeSelected archetype) (app.session.handleArchetypeSelected archetype) := by
  unfold Session.State.handleArchetypeSelected
  split
  · exact idle rfl rfl rfl rfl rfl (.same rfl rfl)
  · exact startCheck rfl rfl rfl rfl rfl rfl rfl (.same rfl rfl)

theorem selectionRetries {selection : Session.Selection} {now : ℤ}
    (found : app.session.selections[i]? = some selection) :
    Moves app (.selectionResume i now) (app.session.selectionRetries i selection) := by
  unfold Session.State.selectionRetries
  split
  · exact idle rfl rfl rfl rfl rfl (.same rfl rfl)
  · rename_i current
    have uses : app.usesUser (.selectionResume i now) = true := by simpa [State.usesUser, found] using current
    exact startCheck rfl rfl rfl rfl uses rfl rfl (.same rfl rfl)

theorem selects_of_final {selection : Session.Selection} {j : Nat} {check : Check} {result : ReconcileResult}
    (found : app.session.selections[i]? = some selection) (awaits : selection.phase.awaits = some j)
    (checked : app.session.checks[j]? = some check) (resolved : check.phase.result = some result)
    (current : selection.gen = app.session.initGenerationRef) (empty : app.session.playerRef = none)
    (final : ∀ retriesLeft, result = .unavailable → selection.retriesLeft = retriesLeft + 1 → False) :
    app.selects i = some (j, result) := by
  simp only [State.selects, found, awaits, checked, resolved, current, empty, Option.bind_some,
    Option.isNone_none, and_self, if_true]

theorem createPlayer {session : Session.State} {archetype : Archetype} {result : ReconcileResult} {now : ℤ}
    (puts : app.puts action = some (⟨app.uid, app.uid⟩, true)) (moved : Moves app action session)
    (writes : session.writes = app.session.writes)
    (loads : ∀ after : Session.State, after.loads = session.loads → Reads app action after) :
    Moves app action (session.createPlayer archetype result now) := by
  have kept : app.puts action ≠ none := by simp [puts]
  unfold Session.State.createPlayer
  dsimp only
  split
  all_goals exact { moved with
    writes := by
      simp only [Session.State.writeLocalPlayerSnapshot, Session.State.savePlayerData, writes]
      exact .grown ⟨rfl, fun _ => .inr puts⟩
    live := fun _ none => absurd none kept
    loads := loads _ rfl }

theorem selectionChecked {selection : Session.Selection} {now : ℤ} {j : Nat} {check : Check}
    {result : ReconcileResult} (found : app.session.selections[i]? = some selection)
    (awaits : selection.phase.awaits = some j) (checked : app.session.checks[j]? = some check)
    (resolved : check.phase.result = some result) :
    Moves app (.selectionResume i now) (app.session.selectionChecked i selection result now) := by
  have erased : Moves app (.selectionResume i now)
      { app.session with selections := app.session.selections.eraseIdx i } := idle rfl rfl rfl rfl rfl (.same rfl rfl)
  unfold Session.State.selectionChecked
  split
  · exact erased
  · rename_i current
    have same : selection.gen = app.session.initGenerationRef := by simpa using current
    split
    · exact idle rfl rfl rfl rfl rfl (.same rfl rfl)
    · rename_i final
      have ends := fun empty => selects_of_final found awaits checked resolved same empty final
      unfold Session.State.finishSelection
      split
      · exact erased
      · rename_i empty
        exact adopt j (by simp [State.puts, ends empty]) erased fun _ loads => .same loads rfl
      · rename_i empty notAdopted
        refine createPlayer ?_ erased rfl fun _ loads => .same loads rfl
        simp only [State.puts, ends empty]

theorem setPlayerAndSave {updated : Session.Character} {now : ℤ} (live : app.session.playerRef.isSome = true) :
    Moves app (.setPlayerAndSave updated now) (app.session.setPlayerAndSave updated now) := by
  unfold Session.State.setPlayerAndSave
  dsimp only
  split
  · exact ⟨rfl, rfl, .same, .grown ⟨rfl, fun sync => by cases sync⟩, fun _ _ => live, .same rfl rfl⟩
  · rename_i settled
    have saves : app.savesLive (.setPlayerAndSave updated now) = true := by simpa [State.savesLive] using settled
    exact ⟨rfl, rfl, .same, .grown ⟨rfl, fun _ => .inl saves⟩, fun _ _ => live, .same rfl rfl⟩

end Moves

theorem moves_of_sessionStep (admitted : app.admits action = true) (taken : app.sessionStep action = some after) :
    (∃ i write success, action = .writeResume i ∧ after = app.session.writeResume i write success) ∨
      (∀ i, action ≠ .writeResume i) ∧ Moves app action after := by
  by_cases ends : ∃ i, action = .writeResume i
  · obtain ⟨i, rfl⟩ := ends
    obtain ⟨write, _, rest⟩ := Option.bind_eq_some_iff.mp taken
    obtain ⟨success, _, rfl⟩ := Option.map_eq_some_iff.mp rest
    exact .inl ⟨i, write, success, rfl, rfl⟩
  have going : ∀ i, action ≠ .writeResume i := fun i same => ends ⟨i, same⟩
  refine .inr ⟨going, ?_⟩
  rcases sessionStep_cases taken with ⟨_, _, _, _, _, _, rfl, found, rfl⟩ | done
  · exact .phase found (fun _ => rfl) rfl rfl rfl rfl rfl (.same rfl rfl)
  cases done with
  | initializePlayer | clearPlayer | cloudBecomes => simp [State.admits] at admitted
  | loadAccess found => exact .idle rfl rfl rfl rfl rfl (.accessed found rfl rfl)
  | loadResume found resumed => exact .loadResume found resumed
  | @commit deferred =>
    obtain ⟨player, needs, painted⟩ := app.session.commit_eq deferred
    rw [painted]
    exact .idle rfl rfl rfl rfl rfl (.same rfl rfl)
  | becomeActive =>
    obtain ⟨player, needs, painted⟩ := app.session.becomeActive_eq
    rw [painted]
    exact .idle rfl rfl rfl rfl rfl (.same rfl rfl)
  | reconcileEffect => exact .startCheck rfl rfl rfl rfl rfl rfl rfl (.same rfl rfl)
  | checkFetched found => exact .phase found (fun _ => rfl) rfl rfl rfl rfl rfl (.same rfl rfl)
  | checkAccessed found here =>
    exact .phase found (fun _ => by simp [here, CheckPhase.mayStore]) rfl rfl rfl rfl rfl (.same rfl rfl)
  | @checkCompared _ _ _ _ outcome found here =>
    cases outcome <;>
      exact .phase found (fun _ => by simp [here, CheckPhase.mayStore]) rfl rfl rfl rfl rfl (.same rfl rfl)
  | checkWritten found | checkAdopted found =>
    exact .phase found (fun stores => by cases stores) rfl rfl rfl rfl rfl (.same rfl rfl)
  | handleReconciled found => exact .handleReconciled found
  | handleArchetypeSelected => exact .handleArchetypeSelected
  | selectionRetries found => exact .selectionRetries found
  | selectionChecked found awaits checked resolved => exact .selectionChecked found awaits checked resolved
  | setPlayerAndSave => exact .setPlayerAndSave admitted
  | writeAccess found =>
    exact ⟨rfl, rfl, .same, .changed found ⟨rfl, fun pending => by cases pending⟩, fun here _ => here,
      .same rfl rfl⟩
  | writeResume => exact absurd rfl (going _)

namespace State

theorem follow_of_going (going : ∀ i, action ≠ .writeResume i) :
    app.follow action after = { app with
      session := { after with cloud := app.session.cloud }
      checkUsers := extendLabels app.session.checks after.checks app.checkUsers app.uid
      history := app.remembers action after } := by
  cases action with
  | writeResume i => exact absurd rfl (going i)
  | _ => rfl

theorem follow_eq (app : State) (action : Session.Action) (after : Session.State) : ∃ uploads stamp,
    app.follow action after = { app with
      session := { after with cloud := app.session.cloud }
      checkUsers := extendLabels app.session.checks after.checks app.checkUsers app.uid
      history := app.remembers action after
      uploads := uploads
      lastSyncTimestamp := stamp } ∧
    (uploads = app.uploads ∨ ∃ new, uploads = app.uploads ++ [new] ∧ app.uid = some new.uid) := by
  unfold State.follow
  dsimp only
  split
  · split
    · unfold State.savePlayerData
      split
      · exact ⟨_, _, rfl, .inl rfl⟩
      · rename_i user here
        exact ⟨_, _, rfl, .inr ⟨_, rfl, congrArg uidOf here⟩⟩
    · exact ⟨_, _, rfl, .inl rfl⟩
  · exact ⟨_, _, rfl, .inl rfl⟩

theorem uploads_follow (synced : ∀ write ∈ app.session.writes, write.sync = false) :
    (app.follow action after).uploads = app.uploads := by
  unfold State.follow
  dsimp only
  split
  · split
    · rename_i found
      cases (synced _ (List.mem_of_getElem? found))
    · rfl
  · rfl

theorem follow_eq_of_synced (synced : ∀ write ∈ app.session.writes, write.sync = false) : ∃ stamp,
    app.follow action after = { app with
      session := { after with cloud := app.session.cloud }
      checkUsers := extendLabels app.session.checks after.checks app.checkUsers app.uid
      history := app.remembers action after
      lastSyncTimestamp := stamp } := by
  obtain ⟨uploads, stamp, same, _⟩ := app.follow_eq action after
  have unsent : (app.follow action after).uploads = app.uploads := uploads_follow synced
  rw [same] at unsent
  cases unsent
  exact ⟨stamp, same⟩

theorem remembers_writes (going : ∀ i, action ≠ .writeResume i) :
    (app.remembers action after).writes =
      extendLabels app.session.writes after.writes app.history.writes (app.liveAfter action).1 := by
  cases action with
  | writeResume i => exact absurd rfl (going i)
  | _ => rfl

theorem exists_of_selects {check : Nat} {result : ReconcileResult} (ends : app.selects i = some (check, result)) :
    ∃ selection found, app.session.selections[i]? = some selection ∧
      selection.gen = app.session.initGenerationRef ∧ selection.phase.awaits = some check ∧
      app.session.checks[check]? = some found := by
  unfold State.selects at ends
  obtain ⟨selection, here, ends⟩ := Option.bind_eq_some_iff.mp ends
  obtain ⟨j, awaits, ends⟩ := Option.bind_eq_some_iff.mp ends
  obtain ⟨known, resolved, ends⟩ := Option.bind_eq_some_iff.mp ends
  obtain ⟨found, checked, _⟩ := Option.bind_eq_some_iff.mp resolved
  split at ends
  · rename_i current
    have same : j = check := by
      split at ends
      · cases ends
      · cases Option.some.inj ends
        rfl
    subst same
    exact ⟨selection, found, here, current.1, awaits, checked⟩
  · cases ends

theorem usesUser_of_selects {check : Nat} {result : ReconcileResult} {now : ℤ}
    (ends : app.selects i = some (check, result)) : app.usesUser (.selectionResume i now) = true := by
  obtain ⟨selection, _, here, current, _, _⟩ := exists_of_selects ends
  simp [State.usesUser, here, current]

theorem usesUser_of_puts {label : Label} (stale : app.history.genFresh = false)
    (put : app.puts action = some (label, true)) : app.usesUser action = true := by
  have adopted : ∀ {check : Nat} {data : SaveData}, app.adopts check data ≠ some (label, true) := by
    intro check data adopts
    unfold State.adopts at adopts
    split at adopts
    · simp [stale] at adopts
    · cases adopts
  unfold State.puts at put
  split at put
  · split at put
    · simp [stale] at put
    · cases put
  · split at put
    · split at put
      · exact absurd put adopted
      · cases put
    · cases put
  · split at put
    · exact absurd put adopted
    · rename_i ends
      exact usesUser_of_selects ends
    · cases put
  · cases put

theorem puts_of_savesLive (saves : app.savesLive action = true) : app.puts action = none := by
  unfold State.savesLive at saves
  split at saves
  · rfl
  · split at saves
    · rename_i found
      simp [State.puts, found]
    · cases saves
  · cases saves

end State

/-- The app once a write has ended, before the call of the cloud service. -/
def State.erased (app : State) (i : Nat) (write : LocalWrite) (success : Bool) : State :=
  { app with
    session := { app.session.writeResume i write success with cloud := app.session.cloud }
    checkUsers := extendLabels app.session.checks app.session.checks app.checkUsers app.uid
    history := app.remembers (.writeResume i) (app.session.writeResume i write success) }

theorem State.erased_labels (app : State) (i : Nat) (write : LocalWrite) (success : Bool) :
    (app.erased i write success).checkUsers = app.checkUsers ∧
      (app.erased i write success).history.checks = app.history.checks :=
  ⟨Tasks.extendLabels_self .., Tasks.extendLabels_self ..⟩

/-- The histories keep pace with the calls, and the calls are of generations that have begun. -/
structure Aligned (app : State) : Prop where
  ordered : Ordered app.session.threads
  loaded : ∀ load ∈ app.session.loads, load.gen ≤ app.session.initGenerationRef
  readers : app.history.loads.length = app.session.loads.length
  users : app.checkUsers.length = app.session.checks.length
  origins : app.history.checks.length = app.session.checks.length
  writers : app.history.writes.length = app.session.writes.length

namespace Aligned

theorem ordered_start (saved : Option Snapshot) (session : Session.State)
    (fresh : session = { Session.start none none with saved := saved }) : Ordered session.threads := by
  subst fresh
  exact
    { cleared := le_rfl
      started := fun _ member => by cases member
      current := fun _ known => by cases known
      waits := fun _ member => by cases member }

theorem clearPlayer (inv : Aligned app) : Aligned app.clearPlayer :=
  { inv with
    ordered := inv.ordered.clear
    loaded := fun load member => Nat.le_succ_of_le (inv.loaded load member) }

theorem initializePlayer (inv : Aligned app) : Aligned app.initializePlayer :=
  { inv with
    ordered := inv.ordered.initialize
    loaded := Tasks.forall_mem_concat (fun load member => Nat.le_succ_of_le (inv.loaded load member)) le_rfl
    readers := by
      show (app.history.loads ++ [none]).length = (app.session.loads ++ [_]).length
      simp [inv.readers] }

theorem launch (app : State) : Aligned app.launch where
  ordered := ordered_start _ _ rfl
  loaded := fun _ member => by cases member
  readers := rfl
  users := rfl
  origins := rfl
  writers := rfl

theorem start (saved : Option (SaveData × ℤ)) (savedOrigin : Option Nat) (user : Option User)
    (records : Nat → Option Session.CloudRecord) (pending : Option Conflict) :
    Aligned (Account.start saved savedOrigin user records pending) where
  ordered := ordered_start _ _ rfl
  loaded := fun _ member => by cases member
  readers := rfl
  users := rfl
  origins := rfl
  writers := rfl

theorem checksRead_length (inv : Aligned app) (action : Session.Action) :
    (app.checksRead action).length = app.session.checks.length := by
  unfold State.checksRead
  split
  · rw [List.length_set, inv.origins]
  · exact inv.origins

theorem loads (inv : Aligned app) (moved : Reads app action after) :
    (app.loadsRead action after).length = after.loads.length := by
  cases moved with
  | same loads read => rw [loads, read, inv.readers]
  | accessed _ loads read => rw [loads, read, List.length_set, List.length_set, inv.readers]
  | resumed _ _ loads read => rw [loads, read, List.length_set, inv.readers]
  | ended _ loads read => rw [loads, read, List.length_eraseIdx, List.length_eraseIdx, inv.readers]

theorem loaded_of_reads (inv : Aligned app) (moved : Reads app action after) :
    ∀ load ∈ after.loads, load.gen ≤ app.session.initGenerationRef := by
  cases moved with
  | same loads =>
    rw [loads]
    exact inv.loaded
  | accessed found loads | resumed found _ loads =>
    rw [loads]
    exact Tasks.forall_mem_set_of_found inv.loaded found id
  | ended _ loads =>
    rw [loads]
    exact Tasks.forall_mem_eraseIdx inv.loaded

theorem follow (inv : Aligned app) (going : ∀ i, action ≠ .writeResume i) (moved : Moves app action after)
    (ordered : Ordered after.threads) : Aligned (app.follow action after) := by
  rw [State.follow_of_going going]
  exact
    { ordered := ordered
      loaded := fun load member => moved.generation ▸ inv.loaded_of_reads moved.loads load member
      readers := inv.loads moved.loads
      users := moved.checks.length_extendLabels inv.users
      origins := moved.checks.length_extendLabels (inv.checksRead_length action)
      writers := by
        rw [State.remembers_writes going]
        exact moved.writes.length_extendLabels inv.writers }

theorem savePlayerData (inv : Aligned app) (data : SaveData) (savedAt : ℤ) (label : Label) :
    Aligned (app.savePlayerData data savedAt label) := by
  unfold State.savePlayerData
  split
  · exact inv
  · exact { inv with }

theorem erased (inv : Aligned app) (i : Nat) (write : LocalWrite) (success : Bool) :
    Aligned (app.erased i write success) :=
  { inv with
    users := by
      rw [(app.erased_labels i write success).1]
      exact inv.users
    origins := by
      rw [(app.erased_labels i write success).2]
      exact inv.origins
    writers := by
      show (app.history.writes.eraseIdx i).length = (app.session.writes.eraseIdx i).length
      rw [List.length_eraseIdx, List.length_eraseIdx, inv.writers] }

theorem told (inv : Aligned app) {user : Option User} {next : State} (told : Told app user next) :
    Aligned next := by
  cases told with
  | noted => exact { inv with }
  | resigned => exact { inv.clearPlayer.initializePlayer with }
  | switched => exact { inv.clearPlayer with }
  | belated => exact { inv.initializePlayer with }

theorem clearLocalPlayerData (inv : Aligned app) (success : Bool) : Aligned (app.clearLocalPlayerData success) := by
  unfold State.clearLocalPlayerData
  split
  · exact { inv with }
  · exact inv

theorem sessionStep (inv : Aligned app) (admitted : app.admits action = true)
    (taken : app.sessionStep action = some after) : Aligned (app.follow action after) := by
  rcases moves_of_sessionStep admitted taken with ⟨i, write, success, rfl, rfl⟩ | ⟨going, moved⟩
  · unfold State.follow
    dsimp only
    split
    · exact (inv.erased i write success).savePlayerData _ _ _
    · exact inv.erased i write success
  · exact inv.follow going moved (ordered_of_sessionStep inv.ordered taken)

theorem resolutionAccess (inv : Aligned app) {success : Bool} {resolution : Resolution} {next : State}
    (accessed : app.resolutionAccess success resolution = some next) : Aligned next := by
  unfold State.resolutionAccess at accessed
  split at accessed
  · obtain ⟨⟨read, saved⟩, _, rfl⟩ := Option.map_eq_some_iff.mp accessed
    exact { inv with }
  · cases Option.some.inj accessed
    split <;> exact { inv with }
  · cases Option.some.inj accessed
    exact { inv.clearLocalPlayerData success with }
  · cases Option.some.inj accessed
    exact { inv with }
  all_goals cases accessed

theorem resolutionResume (inv : Aligned app) {now : ℤ} {resolution : Resolution} {next : State}
    (resumed : app.resolutionResume now resolution = some next) : Aligned next := by
  have loads : Aligned app.resolutionLoads := { inv.initializePlayer with }
  unfold State.resolutionResume at resumed
  split at resumed
  · obtain ⟨outcome, _, rfl⟩ := Option.map_eq_some_iff.mp resumed
    split
    · exact { inv with }
    · unfold State.keepLocal
      dsimp only
      split
      · exact { inv.savePlayerData _ _ _ with }
      · exact loads
  · cases Option.some.inj resumed
    exact loads
  · cases Option.some.inj resumed
    exact loads
  · split at resumed
    · cases Option.some.inj resumed
      exact { inv with }
    · cases resumed
  · cases Option.some.inj resumed
    exact { inv with }
  all_goals cases resumed

theorem performs (inv : Aligned app) {action : Action} {next : State} (done : Performs app action next) :
    Aligned next := by
  cases done with
  | session admitted taken => exact inv.sessionStep admitted taken
  | @callback user rest pending =>
    have popped : Aligned { app with callbacks := rest } := { inv with }
    exact popped.told (told_onAuthStateChanged _ user)
  | switchCleared => exact { inv.clearLocalPlayerData _ with }
  | @switchLoads i =>
    have ended : Aligned { app with switches := app.switches.eraseIdx i } := { inv with }
    exact ended.initializePlayer
  | conflictFound =>
    have guarded : Aligned { app with startup := none, conflictResolutionPendingRef := true } := { inv with }
    exact { guarded.clearPlayer with }
  | sessionStarts =>
    have armed : Aligned { app with startup := none, pendingBelatedSignInRef := app.currentUser.isNone } :=
      { inv with }
    exact armed.initializePlayer
  | flowCleared => exact { inv.clearLocalPlayerData _ with }
  | flowSwitches => exact { inv.clearPlayer with }
  | @resolves keepsLocal conflict =>
    obtain ⟨resolution, chosen⟩ := resolveConflict_eq app keepsLocal conflict
    rw [chosen]
    exact { inv with }
  | resolutionAccessed _ accessed => exact inv.resolutionAccess accessed
  | resolutionResumed _ resumed => exact inv.resolutionResume resumed
  | restarts => exact launch app
  | _ => exact { inv with }

end Aligned

end Account

end WalkingRpg

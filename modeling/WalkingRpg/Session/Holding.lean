import WalkingRpg.Session.Confirmation

/-! A local store whose snapshot is never lost.

The code discards the snapshot when a read fails or finds a malformed record. As long as
reads succeed and every snapshot meets a condition that implies the format, loads and
reconciles come upon nothing else, and a snapshot is only replaced by another one.
-/

set_option autoImplicit false

namespace WalkingRpg

namespace Session

variable {keeps : Snapshot → Prop} {session after : State} {action : Action} {i : Nat}

def CloudRecord.snapshot (record : CloudRecord) : Snapshot := ⟨record.playerData, record.lastSavedAt, false⟩

def CloudRecord.Replaces (keeps : Snapshot → Prop) (record : CloudRecord) : Prop :=
  ∀ snapshot, keeps snapshot → snapshot.savedAt < record.lastSavedAt → keeps record.snapshot

def LocalRead.Finds (keeps : Snapshot → Prop) : LocalRead → Prop
  | .reading => True
  | .read (some (some snapshot)) => keeps snapshot
  | .read (some none) | .read none | .clearing | .cleared => False

def CheckPhase.Carries (keeps : Snapshot → Prop) : CheckPhase → Prop
  | .fetching => True
  | .comparing record read => record.Replaces keeps ∧ read.Finds keeps
  | .writing record | .wrote record => keeps record.snapshot
  | .resolved (.adopted data) => ∃ savedAt, keeps ⟨data, savedAt, false⟩
  | .resolved .noNewerCloud | .resolved .unavailable => True

theorem LocalRead.Finds.access {read next : LocalRead} {snapshot : Snapshot} {saved : Option Snapshot}
    (finds : read.Finds keeps) (kept : keeps snapshot)
    (accessed : read.access (some snapshot) true = some (next, saved)) : saved = some snapshot ∧ next.Finds keeps := by
  cases read with
  | reading =>
    cases Option.some.inj accessed
    exact ⟨rfl, kept⟩
  | read | cleared => cases accessed
  | clearing => exact finds.elim

theorem LocalRead.Finds.resume {read : LocalRead} {outcome : LocalRead ⊕ Option Snapshot}
    (valid : ∀ snapshot, keeps snapshot → isValidPlayerData snapshot.save = true) (finds : read.Finds keeps)
    (resumed : read.resume = some outcome) : ∃ snapshot, keeps snapshot ∧ outcome = .inr (some snapshot) := by
  cases read with
  | reading | clearing => cases resumed
  | cleared => exact finds.elim
  | read content => match content with
    | some (some snapshot) =>
      refine ⟨snapshot, finds, ?_⟩
      have whole := valid snapshot finds
      simpa [LocalRead.resume, whole] using resumed.symm
    | some none | none => exact finds.elim

theorem CheckPhase.eq_resolved {phase : CheckPhase} {result : ReconcileResult} (known : phase.result = some result) :
    phase = .resolved result := by
  cases phase with
  | resolved => exact congrArg _ (Option.some.inj known)
  | fetching | comparing | writing | wrote => cases known

/-- The snapshot is there, and so is whatever a load or a reconcile has read of it. -/
structure Holding (keeps : Snapshot → Prop) (session : State) : Prop where
  saved : ∃ snapshot, session.saved = some snapshot ∧ keeps snapshot
  loads : ∀ load ∈ session.loads, load.read.Finds keeps
  checks : ∀ check ∈ session.checks, check.phase.Carries keeps

inductive Lives (keeps : Snapshot → Prop) (action : Action) (live : Option Character) : Option Character → Prop where
  | same : Lives keeps action live live
  | cleared (ended : action = .clearPlayer) : Lives keeps action live none
  | loaded {snapshot : Snapshot} {character : Character} (kept : keeps snapshot)
      (decoded : snapshot.decoded = some character) : Lives keeps action live (some character)
  | updated {updated : Character} {now : ℤ} (saved : action = .setPlayerAndSave updated now) :
      Lives keeps action live (some updated)
  | created (archetype : Archetype) (selected : ∃ i now, action = .selectionResume i now) :
      Lives keeps action live (some ⟨Player.new archetype 1, true⟩)

def Reliable : Action → Prop
  | .loadAccess _ success | .checkAccess _ success => success = true
  | _ => True

instance (action : Action) : Decidable (Reliable action) := by
  apply @Action.casesOn fun action => Decidable (Reliable action)
  all_goals intros; dsimp only [Reliable]; infer_instance

namespace Holding

variable {check : Check} {phase : CheckPhase}

theorem setCheck (inv : Holding keeps session) (carries : check.phase.Carries keeps) :
    Holding keeps { session with checks := session.checks.set i check } := by
  exact { inv with checks := Tasks.forall_mem_set inv.checks carries }

theorem setPhase (inv : Holding keeps session) (carries : phase.Carries keeps) :
    Holding keeps (session.setPhase i check phase) := inv.setCheck carries

theorem startCheck (inv : Holding keeps session) (handler : Bool) : Holding keeps (session.startCheck handler) := by
  exact { inv with checks := Tasks.forall_mem_concat inv.checks trivial }

theorem initializePlayer (inv : Holding keeps session) : Holding keeps session.initializePlayer := by
  exact { inv with loads := Tasks.forall_mem_concat inv.loads trivial }

theorem clearPlayer (inv : Holding keeps session) : Holding keeps session.clearPlayer := { inv with }

theorem setLoad (inv : Holding keeps session) {load : Load} (finds : load.read.Finds keeps) :
    ∀ other ∈ session.loads.set i load, other.read.Finds keeps :=
  Tasks.forall_mem_set inv.loads finds

theorem loadResume (inv : Holding keeps session) {load : Load} {snapshot : Snapshot} (kept : keeps snapshot) :
    Holding keeps (session.loadResume i load (.inr (some snapshot))) ∧
      Lives keeps action session.playerRef (session.loadResume i load (.inr (some snapshot))).playerRef := by
  have ended : ∀ load ∈ session.loads.eraseIdx i, load.read.Finds keeps :=
    Tasks.forall_mem_eraseIdx inv.loads
  simp only [State.loadResume, State.loadPlayer]
  split
  · exact ⟨{ inv with loads := ended }, .same⟩
  · split
    · exact ⟨{ inv with loads := ended }, .same⟩
    · rename_i decoded
      exact ⟨{ inv with loads := ended }, .loaded kept decoded⟩

theorem adopt (inv : Holding keeps session) {data : SaveData} {savedAt : ℤ} (kept : keeps ⟨data, savedAt, false⟩) :
    Holding keeps (session.adopt data) ∧ Lives keeps action session.playerRef (session.adopt data).playerRef := by
  unfold State.adopt
  split
  · exact ⟨inv, .same⟩
  · rename_i decoded
    exact ⟨{ inv with }, .loaded kept decoded⟩

theorem checkAccessed (inv : Holding keeps session) {record : CloudRecord} {read next : LocalRead}
    {saved : Option Snapshot} (found : session.checks[i]? = some check) (compares : check.phase = .comparing record read)
    (accessed : read.access session.saved true = some (next, saved)) :
    Holding keeps ({ session with saved := saved }.setPhase i check (.comparing record next)) := by
  have carries := inv.checks check (List.mem_of_getElem? found)
  rw [compares] at carries
  obtain ⟨snapshot, present, kept⟩ := inv.saved
  rw [present] at accessed
  obtain ⟨rfl, finds⟩ := carries.2.access kept accessed
  have stored : Holding keeps { session with saved := some snapshot } := { inv with saved := ⟨snapshot, rfl, kept⟩ }
  exact stored.setPhase ⟨carries.1, finds⟩

theorem checkWrite (inv : Holding keeps session) {record : CloudRecord} (found : session.checks[i]? = some check)
    (writes : check.phase = .writing record) : Holding keeps (session.checkWrite i check record true) := by
  have carries := inv.checks check (List.mem_of_getElem? found)
  rw [writes] at carries
  have stored : Holding keeps { session with saved := some record.snapshot } :=
    { inv with saved := ⟨record.snapshot, rfl, carries⟩ }
  exact stored.setPhase carries

theorem checkResume (valid : ∀ snapshot, keeps snapshot → isValidPlayerData snapshot.save = true)
    (inv : Holding keeps session) {record : CloudRecord} {read : LocalRead} {outcome : LocalRead ⊕ Option Snapshot}
    (found : session.checks[i]? = some check) (compares : check.phase = .comparing record read)
    (resumed : read.resume = some outcome) :
    Holding keeps (session.checkResume i check record outcome) ∧
      (session.checkResume i check record outcome).playerRef = session.playerRef := by
  have carries := inv.checks check (List.mem_of_getElem? found)
  rw [compares] at carries
  obtain ⟨snapshot, kept, rfl⟩ := carries.2.resume valid resumed
  refine ⟨inv.setPhase ?_, rfl⟩
  by_cases newer : record.lastSavedAt > snapshot.savedAt
  · have due : State.compare record (some snapshot) = .writing record := if_pos newer
    rw [due]
    exact carries.1 snapshot kept newer
  · have ends : State.compare record (some snapshot) = .resolved .noNewerCloud := if_neg newer
    rw [ends]
    trivial

theorem checkFetched (inv : Holding keeps session)
    (fetched : ∀ record ∈ session.cloud, isValidPlayerData record.playerData = true → record.Replaces keeps)
    (reachable : Bool) : Holding keeps (session.checkFetched i check (session.loadPlayerData reachable)) := by
  have logged : Holding keeps { session with log := session.log ++ [Event.read (session.loadPlayerData reachable)] } :=
    { inv with }
  refine logged.setPhase ?_
  unfold State.loadPlayerData
  split
  · cases document : session.cloud with
    | none => trivial
    | some record =>
      simp only [Option.elim_some, State.examine]
      split
      · rename_i whole
        exact ⟨fetched record document whole, trivial⟩
      · trivial
  · trivial

theorem handleReconciled (inv : Holding keeps session) {gen : Nat} {result : ReconcileResult} {now : ℤ}
    (found : session.checks[i]? = some ⟨gen, true, .resolved result⟩) (action : Action) :
    let handled := { session with
      checks := session.checks.set i ⟨gen, false, .resolved result⟩ }.handleReconciled gen result now
    Holding keeps handled ∧ Lives keeps action session.playerRef handled.playerRef := by
  have carries := inv.checks _ (List.mem_of_getElem? found)
  have handled : Holding keeps { session with checks := session.checks.set i ⟨gen, false, .resolved result⟩ } :=
    inv.setCheck carries
  unfold State.handleReconciled
  dsimp only
  split
  · exact ⟨handled, .same⟩
  · cases result with
    | adopted data =>
      obtain ⟨savedAt, kept⟩ := carries
      exact handled.adopt kept
    | noNewerCloud =>
      dsimp only
      split
      · rename_i live here
        split
        · exact ⟨{ handled with }, .same⟩
        · exact ⟨handled, .same⟩
      · exact ⟨handled, .same⟩
    | unavailable => exact ⟨handled, .same⟩

theorem handleArchetypeSelected (inv : Holding keeps session) (archetype : Archetype) :
    Holding keeps (session.handleArchetypeSelected archetype) ∧
      (session.handleArchetypeSelected archetype).playerRef = session.playerRef := by
  unfold State.handleArchetypeSelected
  split
  · exact ⟨{ inv with }, rfl⟩
  · exact ⟨{ inv.startCheck false with }, rfl⟩

theorem selectionRetries (inv : Holding keeps session) (selection : Selection) :
    Holding keeps (session.selectionRetries i selection) ∧
      (session.selectionRetries i selection).playerRef = session.playerRef := by
  unfold State.selectionRetries
  split
  · exact ⟨{ inv with }, rfl⟩
  · exact ⟨{ inv.startCheck false with }, rfl⟩

theorem selectionChecked (inv : Holding keeps session) {result : ReconcileResult}
    (carries : (CheckPhase.resolved result).Carries keeps) (selection : Selection) (now : ℤ) :
    Holding keeps (session.selectionChecked i selection result now) ∧
      Lives keeps (.selectionResume i now) session.playerRef
        (session.selectionChecked i selection result now).playerRef := by
  have erased : Holding keeps { session with selections := session.selections.eraseIdx i } := { inv with }
  unfold State.selectionChecked
  split
  · exact ⟨erased, .same⟩
  · split
    · exact ⟨{ inv with }, .same⟩
    · unfold State.finishSelection
      split
      · exact ⟨erased, .same⟩
      · obtain ⟨savedAt, kept⟩ := carries
        exact erased.adopt kept
      · unfold State.createPlayer
        dsimp only
        split
        all_goals exact ⟨{ inv with }, .created _ ⟨i, now, rfl⟩⟩

theorem writeAccess (inv : Holding keeps session) {write : LocalWrite} {success : Bool}
    (kept : success = true → keeps write.snapshot) : Holding keeps (session.writeAccess i write success) := by
  unfold State.writeAccess
  cases success with
  | false => exact { inv with }
  | true => exact { inv with saved := ⟨write.snapshot, rfl, kept rfl⟩ }

theorem step (valid : ∀ snapshot, keeps snapshot → isValidPlayerData snapshot.save = true)
    (inv : Holding keeps session) (reliable : Reliable action)
    (written : ∀ write ∈ session.writes, write.outcome = none → keeps write.snapshot)
    (fetched : ∀ i reachable, action = .checkFetch i reachable → ∀ record ∈ session.cloud,
      isValidPlayerData record.playerData = true → record.Replaces keeps)
    (taken : Session.step session action = some after) :
    Holding keeps after ∧ Lives keeps action session.playerRef after.playerRef := by
  have idle : ∀ {after : State}, Holding keeps after ∧ after.playerRef = session.playerRef →
      Holding keeps after ∧ Lives keeps action session.playerRef after.playerRef :=
    fun ⟨held, same⟩ => ⟨held, same ▸ .same⟩
  cases does_of_step taken with
  | initializePlayer => exact ⟨inv.initializePlayer, .same⟩
  | @loadAccess _ _ success _ _ found accessed =>
    obtain ⟨snapshot, present, kept⟩ := inv.saved
    cases (reliable : success = true)
    rw [present] at accessed
    obtain ⟨rfl, finds⟩ := (inv.loads _ (List.mem_of_getElem? found)).access kept accessed
    exact ⟨{ inv with saved := ⟨snapshot, rfl, kept⟩, loads := inv.setLoad finds }, .same⟩
  | loadResume found resumed =>
    obtain ⟨snapshot, kept, rfl⟩ := (inv.loads _ (List.mem_of_getElem? found)).resume valid resumed
    exact inv.loadResume kept
  | clearPlayer => exact ⟨inv.clearPlayer, .cleared rfl⟩
  | @commit deferred =>
    obtain ⟨player, needs, painted⟩ := session.commit_eq deferred
    rw [painted]
    exact ⟨{ inv with }, .same⟩
  | becomeActive =>
    obtain ⟨player, needs, painted⟩ := session.becomeActive_eq
    rw [painted]
    exact ⟨{ inv with }, .same⟩
  | reconcileEffect => exact ⟨{ inv.startCheck true with }, .same⟩
  | @checkFetched i _ _ reachable => exact ⟨inv.checkFetched (fetched i reachable rfl) reachable, .same⟩
  | @checkAccessed _ _ success _ _ _ _ found compares accessed =>
    cases (reliable : success = true)
    exact ⟨inv.checkAccessed found compares accessed, .same⟩
  | @checkWritten _ _ success _ found writes =>
    cases (reliable : success = true)
    exact ⟨inv.checkWrite found writes, .same⟩
  | checkCompared found compares resumed => exact idle (inv.checkResume valid found compares resumed)
  | checkAdopted found wrote =>
    have carries := inv.checks _ (List.mem_of_getElem? found)
    rw [wrote] at carries
    exact ⟨inv.setPhase ⟨_, carries⟩, .same⟩
  | handleReconciled found => exact inv.handleReconciled found _
  | handleArchetypeSelected => exact idle (inv.handleArchetypeSelected _)
  | selectionRetries => exact idle (inv.selectionRetries _)
  | @selectionChecked _ _ selection _ _ now _ _ checked resolved =>
    have carries := inv.checks _ (List.mem_of_getElem? checked)
    rw [CheckPhase.eq_resolved resolved] at carries
    exact inv.selectionChecked carries selection now
  | @setPlayerAndSave updated now =>
    obtain ⟨write, saved⟩ := session.setPlayerAndSave_eq updated now
    rw [saved]
    exact ⟨{ inv with }, .updated rfl⟩
  | writeAccess found pending =>
    exact ⟨inv.writeAccess fun _ => written _ (List.mem_of_getElem? found) pending, .same⟩
  | writeResume | cloudBecomes => exact ⟨{ inv with }, .same⟩

end Holding

def WritesLive (writes : List LocalWrite) (after : State) : Prop :=
  ∀ write ∈ after.writes, (∃ old ∈ writes, write.snapshot = old.snapshot) ∨
    ∃ live savedAt, after.playerRef = some live ∧ write.snapshot = live.snapshot savedAt

namespace WritesLive

variable {writes : List LocalWrite}

theorem same (session : State) : WritesLive session.writes session := fun write member => .inl ⟨write, member, rfl⟩

theorem grown {live : Character} {new : LocalWrite} {savedAt : ℤ} (kept : after.writes = writes ++ [new])
    (here : after.playerRef = some live) (own : new.snapshot = live.snapshot savedAt) : WritesLive writes after := by
  intro write member
  rw [kept] at member
  rcases List.mem_append.mp member with old | added
  · exact .inl ⟨write, old, rfl⟩
  · rw [List.mem_singleton.mp added]
    exact .inr ⟨live, savedAt, here, own⟩

theorem adopt (session : State) (data : SaveData) : WritesLive session.writes (session.adopt data) := by
  unfold State.adopt
  split
  · exact same session
  · exact fun write member => .inl ⟨write, member, rfl⟩

theorem handleReconciled (session : State) (gen : Nat) (result : ReconcileResult) (now : ℤ) :
    WritesLive session.writes (session.handleReconciled gen result now) := by
  unfold State.handleReconciled
  split
  · exact same session
  · cases result with
    | adopted data => exact adopt session data
    | noNewerCloud =>
      dsimp only
      split
      · rename_i live here
        split
        · exact grown rfl here rfl
        · exact same session
      · exact same session
    | unavailable => exact same session

theorem finishSelection (session : State) (archetype : Archetype) (result : ReconcileResult) (now : ℤ) :
    WritesLive session.writes (session.finishSelection archetype result now) := by
  unfold State.finishSelection
  split
  · exact same session
  · exact adopt session _
  · unfold State.createPlayer
    dsimp only
    split
    all_goals exact grown rfl rfl rfl

theorem setPlayerAndSave (session : State) (updated : Character) (now : ℤ) :
    WritesLive session.writes (session.setPlayerAndSave updated now) := by
  unfold State.setPlayerAndSave
  dsimp only
  split
  all_goals exact grown rfl rfl rfl

end WritesLive

theorem writesLive_of_step (taken : step session action = some after) : WritesLive session.writes after := by
  have kept : ∀ {after : State}, after.writes = session.writes → WritesLive session.writes after :=
    fun same write member => .inl ⟨write, same ▸ member, rfl⟩
  cases does_of_step taken with
  | loadResume =>
    rename_i outcome _ _
    cases outcome with
    | inl read => exact kept rfl
    | inr localData =>
      obtain ⟨_, _, _, loaded⟩ := State.loadPlayer_eq _ _ localData
      exact kept (by rw [State.loadResume, loaded])
  | @commit deferred =>
    obtain ⟨_, _, painted⟩ := session.commit_eq deferred
    exact kept (by rw [painted])
  | becomeActive =>
    obtain ⟨_, _, painted⟩ := session.becomeActive_eq
    exact kept (by rw [painted])
  | checkCompared =>
    rename_i outcome _ _ _
    cases outcome <;> exact kept rfl
  | handleReconciled => exact .handleReconciled _ _ _ _
  | handleArchetypeSelected =>
    unfold State.handleArchetypeSelected
    split <;> exact kept rfl
  | selectionRetries =>
    unfold State.selectionRetries
    split <;> exact kept rfl
  | selectionChecked =>
    unfold State.selectionChecked
    split
    · exact kept rfl
    · split
      · exact kept rfl
      · exact .finishSelection _ _ _ _
  | setPlayerAndSave => exact .setPlayerAndSave _ _ _
  | writeAccess found =>
    intro write member
    rcases List.mem_or_eq_of_mem_set member with old | rfl
    · exact .inl ⟨write, old, rfl⟩
    · exact .inl ⟨_, List.mem_of_getElem? found, rfl⟩
  | writeResume =>
    intro write member
    exact .inl ⟨write, List.mem_of_mem_eraseIdx member, rfl⟩
  | _ => exact kept rfl

def Snapshot.Whole (snapshot : Snapshot) : Prop := isValidPlayerData snapshot.save = true

def Character.Grown (character : Character) : Prop := 1 ≤ character.player.level

theorem Character.Grown.whole {character : Character} (grown : character.Grown) (savedAt : ℤ) :
    (character.snapshot savedAt).Whole := by
  have level : 1 ≤ character.player.level := grown
  simp [Snapshot.Whole, isValidPlayerData, Character.snapshot, Player.toJSON, level]

theorem Snapshot.player_of_decoded {snapshot : Snapshot} {character : Character}
    (decoded : snapshot.decoded = some character) : character.player = Player.fromJSON snapshot.save.data := by
  unfold Snapshot.decoded fromJSON at decoded
  split at decoded
  · cases Option.some.inj decoded
    rfl
  · cases decoded

theorem Snapshot.Whole.grown {snapshot : Snapshot} {character : Character} (whole : snapshot.Whole)
    (decoded : snapshot.decoded = some character) : character.Grown := by
  have level : 1 ≤ snapshot.save.data.level := by
    simp only [Snapshot.Whole, isValidPlayerData, Bool.and_eq_true, decide_eq_true_eq] at whole
    exact whole.1.1.1
  show 1 ≤ character.player.level
  rwa [Snapshot.player_of_decoded decoded, Player.level_fromJSON]

/-- Reads succeed, and players that are saved have a level. -/
def Proper (action : Action) : Prop :=
  Reliable action ∧ match action with
    | .setPlayerAndSave updated _ => 1 ≤ updated.player.level
    | _ => True

/-- The local store has a well-formed save, and nothing that could replace it is malformed. -/
structure Retained (session : State) : Prop extends Holding Snapshot.Whole session where
  writes : ∀ write ∈ session.writes, write.snapshot.Whole
  live : ∀ character ∈ session.playerRef, character.Grown

theorem Retained.step (inv : Retained session) (proper : Proper action)
    (taken : Session.step session action = some after) : Retained after := by
  obtain ⟨held, lives⟩ := inv.toHolding.step (fun _ whole => whole) proper.1
    (fun write member _ => inv.writes write member) (fun _ _ _ _ _ whole _ _ _ => whole) taken
  have live : ∀ character ∈ after.playerRef, character.Grown := by
    intro character here
    rw [Option.mem_def] at here
    rw [here] at lives
    generalize former : session.playerRef = live at lives
    cases lives with
    | same => exact inv.live character former
    | loaded whole decoded => exact Snapshot.Whole.grown whole decoded
    | updated saved =>
      subst saved
      exact proper.2
    | created archetype => exact le_refl (1 : ℚ)
  refine { held with writes := fun write member => ?_, live := live }
  rcases writesLive_of_step taken write member with ⟨old, former, same⟩ | ⟨character, savedAt, here, same⟩
  · rw [same]
    exact inv.writes old former
  · rw [same]
    exact (live character here).whole savedAt

end Session

end WalkingRpg

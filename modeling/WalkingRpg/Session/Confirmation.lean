import WalkingRpg.Library.Gaps
import WalkingRpg.Library.Tasks
import WalkingRpg.Session.UsePlayer

/-! Cloud writes of a character created in the session.

A created character may reach the cloud once a read has found the slot empty, or
after a record of the cloud has been adopted. Until then it has to stay provisional.
Two facts carry this: the flag is set while such a character is live, and a reconcile
that ended without a newer record did so while another player was live.
-/

set_option autoImplicit false

namespace WalkingRpg

namespace Session

open Runs (Run exec)
open Gaps (Preceded)

def Event.adopts : Event → Bool
  | .adopted => true
  | .read _ | .cloudWrite _ => false

def Event.readsEmpty : Event → Bool
  | .read .empty => true
  | .read (.found _) | .read .unavailable | .adopted | .cloudWrite _ => false

def Event.confirms (event : Event) : Bool := event.readsEmpty || event.adopts

def Event.writesCreated : Event → Bool
  | .cloudWrite snapshot => snapshot.created
  | .read _ | .adopted => false

namespace State

def confirmed (session : State) : Bool := session.log.any Event.confirms

def createdLive (session : State) : Bool := session.playerRef.any Character.created

def loadedLive (session : State) : Bool := session.playerRef.any fun live => !live.created

def loadTakes (session : State) (i : Nat) : Option (Option Snapshot) :=
  session.loads[i]?.bind fun load =>
    if load.gen = session.initGenerationRef then load.read.resume.bind Sum.getRight? else none

end State

def Snapshot.decoded (snapshot : Snapshot) : Option Character := fromJSON snapshot.save snapshot.created

/-- The check is about to find that its valid record is not newer than the local snapshot. -/
def Check.keepsLocal (check : Check) : Bool :=
  match check.phase with
  | .comparing record read => (read.resume.bind Sum.getRight?).any fun localData =>
      decide (record.lastSavedAt ≤ localData.elim 0 Snapshot.savedAt)
  | .fetching | .writing _ | .wrote _ | .resolved _ => false

def Action.loads : Action → Option Nat
  | .loadResume i => some i
  | _ => none

def Action.compares : Action → Option Nat
  | .checkResume i => some i
  | _ => none

def Action.updates : Action → Option Character
  | .setPlayerAndSave updated _ => some updated
  | _ => none

/-- A load does not leave a created character live without its snapshot, nor put one in the place of
a player that was not created. -/
def LoadsOwn (session : State) (action : Action) : Prop :=
  ∀ i ∈ action.loads, ∀ localData ∈ session.loadTakes i,
    (session.createdLive = true → (localData.bind Snapshot.decoded).isSome = true) ∧
    (session.loadedLive = true → (localData.bind Snapshot.decoded).any Character.created = false)

/-- A valid record that is not newer is found only while a player not created here is live. Checks
from before the last `clearPlayer` do not matter. -/
def KeepsLoaded (session : State) (action : Action) : Prop :=
  ∀ i ∈ action.compares, ∀ check ∈ session.checks[i]?,
    session.clearedAt ≤ check.gen → check.keepsLocal = true → session.loadedLive = true

/-- Progress on a created character is saved only while one is live. -/
def SavesLive (session : State) (action : Action) : Prop :=
  ∀ updated ∈ action.updates, updated.created = true → session.createdLive = true

/-- The conditions, which matter only as long as nothing has been confirmed. -/
def Careful (session : State) (action : Action) : Prop :=
  session.confirmed = true ∨
    (LoadsOwn session action ∧ KeepsLoaded session action ∧ SavesLive session action)

instance (session : State) (action : Action) : Decidable (LoadsOwn session action) :=
  inferInstanceAs (Decidable (∀ i ∈ action.loads, ∀ localData ∈ session.loadTakes i, _ ∧ _))

instance (session : State) (action : Action) : Decidable (KeepsLoaded session action) :=
  inferInstanceAs (Decidable (∀ i ∈ action.compares, ∀ check ∈ session.checks[i]?, _ → _ → _))

instance (session : State) (action : Action) : Decidable (SavesLive session action) :=
  inferInstanceAs (Decidable (∀ updated ∈ action.updates, _ → _))

instance (session : State) (action : Action) : Decidable (Careful session action) :=
  inferInstanceAs (Decidable (_ ∨ _ ∧ _ ∧ _))

structure Threads where
  clearedAt : Nat
  generation : Nat
  /-- The generations of the checks. -/
  gens : List Nat
  cloudCheckRef : Option Nat
  selections : List Selection

def State.threads (session : State) : Threads where
  clearedAt := session.clearedAt
  generation := session.initGenerationRef
  gens := session.checks.map Check.gen
  cloudCheckRef := session.cloudCheckRef
  selections := session.selections

namespace Threads

def Current (threads : Threads) (i : Nat) : Prop := ∀ gen ∈ threads.gens[i]?, threads.clearedAt ≤ gen

def Waits (threads : Threads) (selection : Selection) : Prop :=
  selection.gen ≤ threads.generation ∧
    (threads.clearedAt ≤ selection.gen → ∀ i ∈ selection.phase.awaits, threads.Current i)

structure Ordered (threads : Threads) : Prop where
  cleared : threads.clearedAt ≤ threads.generation
  started : ∀ gen ∈ threads.gens, gen ≤ threads.generation
  current : ∀ i ∈ threads.cloudCheckRef, threads.Current i
  waits : ∀ selection ∈ threads.selections, threads.Waits selection

variable {threads : Threads}

theorem Ordered.initialize (inv : Ordered threads) :
    Ordered { threads with generation := threads.generation + 1 } where
  cleared := Nat.le_succ_of_le inv.cleared
  started gen member := Nat.le_succ_of_le (inv.started gen member)
  current := inv.current
  waits selection member :=
    ⟨Nat.le_succ_of_le (inv.waits selection member).1, (inv.waits selection member).2⟩

theorem Ordered.clear (inv : Ordered threads) :
    Ordered { threads with
      clearedAt := threads.generation + 1, generation := threads.generation + 1, cloudCheckRef := none } where
  cleared := le_rfl
  started gen member := Nat.le_succ_of_le (inv.started gen member)
  current := nofun
  waits selection member := by
    -- Every selection is older than the new generation, so the condition on it is void.
    have old := (inv.waits selection member).1
    exact ⟨Nat.le_succ_of_le old, fun since => absurd (since.trans old) (Nat.not_succ_le_self _)⟩

def startCheck (threads : Threads) : Threads :=
  { threads with gens := threads.gens ++ [threads.generation] }

theorem Ordered.current_startCheck (inv : Ordered threads) {i : Nat}
    (known : i < threads.gens.length → threads.Current i) : threads.startCheck.Current i := by
  intro gen here
  rcases Tasks.found_of_concat here with old | ⟨_, rfl⟩
  · exact known (List.getElem?_eq_some_iff.mp old).1 gen old
  · exact inv.cleared

theorem Ordered.startCheck (inv : Ordered threads) : Ordered threads.startCheck where
  cleared := inv.cleared
  started := Tasks.forall_mem_concat inv.started le_rfl
  current i pending := inv.current_startCheck fun _ => inv.current i pending
  waits selection member :=
    ⟨(inv.waits selection member).1, fun since i awaits =>
      inv.current_startCheck fun _ => (inv.waits selection member).2 since i awaits⟩

theorem Ordered.refer (inv : Ordered threads) {i : Nat} (current : threads.Current i) :
    Ordered { threads with cloudCheckRef := some i } where
  cleared := inv.cleared
  started := inv.started
  current _ pending := Option.some.inj pending ▸ current
  waits := inv.waits

theorem Ordered.select (inv : Ordered threads) {selections : List Selection}
    (waits : ∀ selection ∈ selections, selection ∈ threads.selections ∨ threads.Waits selection) :
    Ordered { threads with selections := selections } where
  cleared := inv.cleared
  started := inv.started
  current := inv.current
  waits selection member := (waits selection member).elim (inv.waits selection) id

end Threads

open Threads (Ordered)

variable {before after session : State}

theorem threads_setCheck {i : Nat} {old new : Check} (found : session.checks[i]? = some old)
    (same : new.gen = old.gen) : { session with checks := session.checks.set i new }.threads = session.threads := by
  have gens : (session.checks.set i new).map Check.gen = session.checks.map Check.gen :=
    Tasks.map_set_of_view_eq found same
  simp only [State.threads, gens]

theorem threads_setPhase {i : Nat} {check : Check} (phase : CheckPhase)
    (found : session.checks[i]? = some check) : (session.setPhase i check phase).threads = session.threads :=
  threads_setCheck found rfl

theorem threads_startCheck (session : State) (handler : Bool) :
    (session.startCheck handler).threads = session.threads.startCheck := by
  simp [State.threads, State.startCheck, Threads.startCheck]

theorem threads_settles (settled : before.Settles after) : after.threads = before.threads := by
  cases settled <;> rfl

theorem current_startCheck (inv : Ordered session.threads) :
    session.threads.startCheck.Current session.checks.length :=
  inv.current_startCheck fun old => absurd old (by simp [State.threads])

theorem ordered_reconcileEffect (inv : Ordered session.threads) : Ordered session.reconcileEffect.threads := by
  rw [State.reconcileEffect, threads_startCheck]
  exact inv.startCheck.refer (current_startCheck inv)

theorem ordered_startSelection (inv : Ordered session.threads) (archetype : Archetype) {check : Nat}
    (current : session.threads.Current check) : Ordered (session.startSelection archetype check).threads := by
  refine inv.select fun selection member => ?_
  rcases List.mem_append.mp member with old | new
  · exact .inl old
  · rw [List.mem_singleton.mp new]
    exact .inr ⟨le_rfl, fun _ i awaits => Option.some.inj awaits ▸ current⟩

theorem ordered_handleArchetypeSelected (inv : Ordered session.threads) (archetype : Archetype) :
    Ordered (session.handleArchetypeSelected archetype).threads := by
  unfold State.handleArchetypeSelected
  split
  · rename_i check known
    exact ordered_startSelection inv archetype (inv.current check known)
  · have started : Ordered (session.startCheck false).threads := by
      rw [threads_startCheck]
      exact inv.startCheck
    have current : (session.startCheck false).threads.Current session.checks.length := by
      rw [threads_startCheck]
      exact current_startCheck inv
    exact (ordered_startSelection started archetype current).refer current

theorem ordered_erased (inv : Ordered session.threads) (i : Nat) :
    Ordered { session with selections := session.selections.eraseIdx i }.threads :=
  inv.select fun _ member => .inl (List.mem_of_mem_eraseIdx member)

theorem ordered_advanced (inv : Ordered session.threads) {i : Nat} {old new : Selection}
    (found : session.selections[i]? = some old) (same : new.gen = old.gen)
    (current : ∀ j ∈ new.phase.awaits, session.threads.Current j) :
    Ordered { session with selections := session.selections.set i new }.threads := by
  refine inv.select fun selection member => ?_
  rcases List.mem_or_eq_of_mem_set member with kept | rfl
  · exact .inl kept
  · exact .inr ⟨same ▸ (inv.waits old (List.mem_of_getElem? found)).1, fun _ => current⟩

theorem ordered_selectionRetries (inv : Ordered session.threads) {i : Nat} {selection : Selection}
    (found : session.selections[i]? = some selection) :
    Ordered (session.selectionRetries i selection).threads := by
  unfold State.selectionRetries
  split
  · exact ordered_erased inv i
  · have started : Ordered (session.startCheck false).threads := by
      rw [threads_startCheck]
      exact inv.startCheck
    refine ordered_advanced started found rfl fun j awaits => ?_
    rw [← Option.some.inj awaits, threads_startCheck]
    exact current_startCheck inv

theorem ordered_selectionChecked (inv : Ordered session.threads) {i : Nat} {selection : Selection}
    (found : session.selections[i]? = some selection) (result : ReconcileResult) (now : ℤ) :
    Ordered (session.selectionChecked i selection result now).threads := by
  unfold State.selectionChecked
  split
  · exact ordered_erased inv i
  · split
    · exact ordered_advanced inv found rfl nofun
    · rw [threads_settles (State.settles_finishSelection _ _ _ _)]
      exact ordered_erased inv i

theorem ordered_of_does {action : Action} (inv : Ordered before.threads) (done : Does before action after) :
    Ordered after.threads := by
  cases done with
  | initializePlayer => exact inv.initialize
  | loadAccess => exact inv
  | @loadResume i load outcome =>
    cases outcome with
    | inl read => exact inv
    | inr localData =>
      obtain ⟨_, _, _, same⟩ := State.loadPlayer_eq { before with loads := before.loads.eraseIdx i } load.gen localData
      rw [State.loadResume, same]
      exact inv
  | clearPlayer => exact inv.clear
  | @commit deferred =>
    obtain ⟨_, _, same⟩ := before.commit_eq deferred
    exact same ▸ inv
  | becomeActive =>
    obtain ⟨_, _, same⟩ := before.becomeActive_eq
    exact same ▸ inv
  | reconcileEffect => exact ordered_reconcileEffect inv
  | checkFetched found =>
    rw [State.checkFetched, threads_setPhase _ (by exact found)]
    exact inv
  | checkAccessed found =>
    rw [threads_setPhase _ (by exact found)]
    exact inv
  | checkWritten found =>
    rw [State.checkWrite, threads_setPhase _ (by exact found)]
    exact inv
  | @checkCompared i check record read outcome found =>
    cases outcome with
    | inl read => rwa [State.checkResume, threads_setPhase _ found]
    | inr localData => rwa [State.checkResume, threads_setPhase _ found]
  | checkAdopted found => rwa [threads_setPhase _ found]
  | handleReconciled found =>
    rw [threads_settles (State.settles_handleReconciled _ _ _ _), threads_setCheck found (by rfl)]
    exact inv
  | handleArchetypeSelected => exact ordered_handleArchetypeSelected inv _
  | selectionRetries found => exact ordered_selectionRetries inv found
  | selectionChecked found => exact ordered_selectionChecked inv found _ _
  | @setPlayerAndSave updated now =>
    obtain ⟨_, same⟩ := before.setPlayerAndSave_eq updated now
    exact same ▸ inv
  | writeAccess => exact inv
  | writeResume => exact inv
  | cloudBecomes => exact inv

def LocalRead.captured : LocalRead → Option Snapshot
  | .read content => content.join
  | .reading | .clearing | .cleared => none

def Snapshot.Unsynced (snapshot : Snapshot) : Prop := snapshot.created = true → snapshot.savedAt = 0

/-- As long as nothing is confirmed: a created character is provisional wherever it is, and a check
that kept the local state did so while a loaded player was live. -/
structure Sound (session : State) : Prop where
  provisional : session.createdLive = true → session.provisionalRef = true
  saved : ∀ snapshot ∈ session.saved, snapshot.Unsynced
  loads : ∀ load ∈ session.loads, ∀ snapshot ∈ load.read.captured, snapshot.Unsynced
  writes : ∀ write ∈ session.writes, write.snapshot.Unsynced ∧ (write.sync = true → write.snapshot.created = false)
  kept : ∀ check ∈ session.checks, check.phase.result = some .noNewerCloud →
    session.clearedAt ≤ check.gen → session.loadedLive = true

theorem access_spec {saved left : Option Snapshot} {success : Bool} {read next : LocalRead}
    (accessed : read.access saved success = some (next, left)) :
    (∀ snapshot ∈ left, snapshot ∈ saved) ∧ ∀ snapshot ∈ next.captured, snapshot ∈ saved := by
  cases read with
  | reading =>
    obtain ⟨rfl, rfl⟩ := Prod.mk.inj (Option.some.inj accessed)
    refine ⟨fun _ member => member, fun snapshot member => ?_⟩
    cases success
    · simp [LocalRead.captured] at member
    · exact member
  | clearing =>
    obtain ⟨rfl, rfl⟩ := Prod.mk.inj (Option.some.inj accessed)
    refine ⟨fun snapshot member => ?_, fun snapshot member => by cases member⟩
    cases success
    · exact member
    · cases member
  | read content => cases accessed
  | cleared => cases accessed

theorem captured_of_resume {read next : LocalRead} (resumed : read.resume = some (.inl next)) :
    next.captured = none := by
  unfold LocalRead.resume at resumed
  split at resumed
  · cases resumed; rfl
  · cases resumed
  · split at resumed
    · cases resumed
    · cases resumed; rfl
  all_goals cases resumed

theorem mem_captured_of_resume {read : LocalRead} {snapshot : Snapshot}
    (resumed : read.resume = some (.inr (some snapshot))) : snapshot ∈ read.captured := by
  unfold LocalRead.resume at resumed
  split at resumed
  · cases resumed
  · cases resumed
  · split at resumed
    · cases resumed; rfl
    · cases resumed
  all_goals cases resumed

theorem Sound.startCheck (inv : Sound session) (handler : Bool) : Sound (session.startCheck handler) :=
  { inv with
    kept := by
      intro check member kept since
      rcases List.mem_append.mp member with old | new
      · exact inv.kept check old kept since
      · rw [List.mem_singleton.mp new] at kept
        cases kept }

theorem Sound.setCheck (inv : Sound session) {i : Nat} {check : Check}
    (kept : check.phase.result = some .noNewerCloud → session.clearedAt ≤ check.gen →
      session.loadedLive = true) : Sound { session with checks := session.checks.set i check } :=
  { inv with
    kept := Tasks.forall_mem_set inv.kept kept }

theorem Sound.setPhase (inv : Sound session) {i : Nat} {check : Check} {phase : CheckPhase}
    (kept : phase.result = some .noNewerCloud → session.clearedAt ≤ check.gen → session.loadedLive = true) :
    Sound (session.setPhase i check phase) :=
  inv.setCheck kept

theorem Sound.store (inv : Sound session) {saved : Option Snapshot}
    (unsynced : ∀ snapshot ∈ saved, snapshot.Unsynced) : Sound { session with saved := saved } :=
  { inv with saved := unsynced }

theorem Sound.savePlayerData (inv : Sound session) {character : Character} (loaded : character.created = false)
    (now : ℤ) (paints : Bool) : Sound (session.savePlayerData character now paints) :=
  { inv with
    writes := Tasks.forall_mem_concat inv.writes
      ⟨fun created => absurd (created.symm.trans loaded) Bool.noConfusion, fun _ => loaded⟩ }

theorem Sound.writeLocalPlayerSnapshot (inv : Sound session) (character : Character) (paints : Bool) :
    Sound (session.writeLocalPlayerSnapshot character paints) :=
  { inv with
    writes := Tasks.forall_mem_concat inv.writes ⟨fun _ => rfl, nofun⟩ }

theorem Sound.setLive (inv : Sound session) {live : Option Character} {flag : Bool}
    (provisional : live.any Character.created = true → flag = true)
    (loaded : session.loadedLive = true → (live.any fun live => !live.created) = true) :
    Sound { session with playerRef := live, provisionalRef := flag } :=
  { inv with
    provisional := provisional
    kept := fun check member kept since => loaded (inv.kept check member kept since) }

theorem createdLive_eq_false (loaded : session.loadedLive = true) : session.createdLive = false := by
  obtain ⟨live, here, other⟩ := (Option.any_eq_true _ _).mp loaded
  rw [State.createdLive, here]
  simpa using other

theorem sound_setPlayerAndSave (inv : Sound session) {updated : Character} (now : ℤ)
    (live : updated.created = true → session.createdLive = true) :
    Sound (session.setPlayerAndSave updated now) := by
  have loaded : session.loadedLive = true → ((some updated).any fun live => !live.created) = true := by
    -- A loaded player is live, so the update is not progress on a created one.
    intro loaded
    cases tag : updated.created with
    | false => simp [tag]
    | true => exact absurd ((live tag).symm.trans (createdLive_eq_false loaded)) Bool.noConfusion
  have flag : (some updated).any Character.created = true → session.provisionalRef = true :=
    fun created => inv.provisional (live created)
  have placed : Sound { session with playerRef := some updated, player := some updated } :=
    { inv.setLive flag loaded with }
  unfold State.setPlayerAndSave
  dsimp only
  split
  · exact placed.writeLocalPlayerSnapshot updated false
  · rename_i settled
    refine placed.savePlayerData ?_ now false
    exact Bool.eq_false_iff.mpr fun created => settled (inv.provisional (live created))

theorem created_of_fromJSON {save : SaveData} {created : Bool} {character : Character}
    (decoded : fromJSON save created = some character) : character.created = created := by
  unfold fromJSON at decoded
  split at decoded
  · cases decoded
    rfl
  · cases decoded

theorem sound_loadPlayer (inv : Sound session) {gen : Nat} {localData : Option Snapshot}
    (unsynced : ∀ snapshot ∈ localData, snapshot.Unsynced)
    (own : gen = session.initGenerationRef →
      (session.createdLive = true → (localData.bind Snapshot.decoded).isSome = true) ∧
      (session.loadedLive = true → (localData.bind Snapshot.decoded).any Character.created = false)) :
    Sound (session.loadPlayer gen localData) := by
  unfold State.loadPlayer
  split
  · exact inv
  · rename_i latest
    obtain ⟨found, same⟩ := own (not_not.mp latest)
    cases localData with
    -- The flag is dropped here, and the live player stays.
    | none => exact { inv.setLive (fun created => absurd (found created) (by simp)) id with }
    | some snapshot =>
      dsimp only
      split
      · rename_i undecoded
        have missing : (Option.bind (some snapshot) Snapshot.decoded).isSome = false := by
          simp [Snapshot.decoded, undecoded]
        exact { inv.setLive (fun created => absurd ((found created).symm.trans missing) Bool.noConfusion) id with }
      · rename_i playerToSet decoded
        have tag : playerToSet.created = snapshot.created := created_of_fromJSON decoded
        have taken : Option.bind (some snapshot) Snapshot.decoded = some playerToSet := decoded
        rw [taken] at same
        refine { inv.setLive (fun created => ?_) fun loaded => ?_ with }
        · -- A created character is stored with the sentinel, which sets the flag again.
          have sentinel := unsynced snapshot rfl (tag.symm.trans created)
          simp [sentinel]
        · have other : playerToSet.created = false := same loaded
          simp [other]

theorem adopt_cases (session : State) (data : SaveData) :
    session.adopt data = session ∨ (session.adopt data).confirmed = true := by
  unfold State.adopt
  split
  · exact .inl rfl
  · exact .inr (by simp [State.confirmed, Event.confirms, Event.adopts])

theorem sound_handleReconciled (inv : Sound session) {gen : Nat} {result : ReconcileResult} (now : ℤ)
    (kept : result = .noNewerCloud → gen = session.initGenerationRef → session.loadedLive = true) :
    (session.handleReconciled gen result now).confirmed = true ∨
      Sound (session.handleReconciled gen result now) := by
  unfold State.handleReconciled
  split
  · exact .inr inv
  · rename_i latest
    cases result with
    | adopted data =>
      rcases adopt_cases session data with same | confirmed
      · exact .inr (by dsimp only; rwa [same])
      · exact .inl confirmed
    | unavailable => exact .inr inv
    | noNewerCloud =>
      -- The flag is cleared and the live player saved; it is not a created one.
      have loaded := kept rfl (not_not.mp latest)
      dsimp only
      split
      · rename_i live here
        have other : live.created = false := by simpa [State.loadedLive, here] using loaded
        split
        · refine .inr (Sound.savePlayerData ?_ other now false)
          exact { inv with
            provisional := fun created => absurd (created.symm.trans (createdLive_eq_false loaded))
              Bool.noConfusion }
        · exact .inr inv
      · exact .inr inv

theorem sound_finishSelection (inv : Sound session) {archetype : Archetype} {result : ReconcileResult} (now : ℤ)
    (kept : result = .noNewerCloud → session.loadedLive = true) :
    (session.finishSelection archetype result now).confirmed = true ∨
      Sound (session.finishSelection archetype result now) := by
  cases here : session.playerRef with
  | some live =>
    have same : session.finishSelection archetype result now = session := by
      simp [State.finishSelection, here]
    exact .inr (same.symm ▸ inv)
  | none =>
    have unloaded : session.loadedLive = false := by simp [State.loadedLive, here]
    cases result with
    | adopted data =>
      have same : session.finishSelection archetype (.adopted data) now = session.adopt data := by
        simp [State.finishSelection, here]
      rw [same]
      rcases adopt_cases session data with unchanged | confirmed
      · exact .inr (unchanged.symm ▸ inv)
      · exact .inl confirmed
    -- Here the code would create a character and save it to the cloud.
    | noNewerCloud => exact absurd ((kept rfl).symm.trans unloaded) Bool.noConfusion
    | unavailable =>
      have same : session.finishSelection archetype .unavailable now =
          session.createPlayer archetype .unavailable now := by
        simp [State.finishSelection, here]
      rw [same]
      refine .inr (Sound.writeLocalPlayerSnapshot ?_ _ true)
      exact inv.setLive (fun _ => rfl) fun loaded => absurd (loaded.symm.trans unloaded) Bool.noConfusion

theorem sound_checkFetched (inv : Sound session) (i : Nat) (check : Check) (load : CloudLoad) :
    (session.checkFetched i check load).confirmed = true ∨ Sound (session.checkFetched i check load) := by
  have logged : Sound { session with log := session.log ++ [.read load] } := { inv with }
  cases load with
  | empty =>
    have seen : (session.checkFetched i check .empty).log = session.log ++ [.read .empty] := rfl
    exact .inl (by simp [State.confirmed, seen, Event.confirms, Event.readsEmpty])
  | unavailable => exact .inr (logged.setPhase fun kept => by cases kept)
  | found record =>
    refine .inr (logged.setPhase fun kept => ?_)
    unfold State.examine at kept
    dsimp only at kept
    split at kept <;> cases kept

theorem sound_checkResume (inv : Sound session) {i : Nat} {check : Check} {record : CloudRecord}
    {read : LocalRead} {outcome : LocalRead ⊕ Option Snapshot} (phase : check.phase = .comparing record read)
    (resumed : read.resume = some outcome)
    (keeps : session.clearedAt ≤ check.gen → check.keepsLocal = true → session.loadedLive = true) :
    Sound (session.checkResume i check record outcome) := by
  cases outcome with
  | inl next => exact inv.setPhase (fun kept => by cases kept)
  | inr localData =>
    refine inv.setPhase fun kept since => keeps since ?_
    -- The result is known to be "no newer record", so the comparison took its second branch.
    unfold State.compare at kept
    split at kept
    · cases kept
    · rename_i older
      simpa [Check.keepsLocal, phase, resumed] using older

theorem sound_clearPlayer (inv : Sound session) (ordered : Ordered session.threads) :
    Sound session.clearPlayer :=
  { inv with
    provisional := fun created => by cases created
    kept := by
      -- No check is as young as the generation that `clearPlayer` starts.
      intro check member _ since
      have started := ordered.started check.gen (List.mem_map_of_mem member)
      exact absurd (since.trans started) (Nat.not_succ_le_self _) }

theorem sound_selectionChecked (inv : Sound session) (ordered : Ordered session.threads) {i j : Nat}
    {selection : Selection} {check : Check} {result : ReconcileResult} (now : ℤ)
    (found : session.selections[i]? = some selection) (awaits : selection.phase.awaits = some j)
    (checked : session.checks[j]? = some check) (resolved : check.phase.result = some result) :
    (session.selectionChecked i selection result now).confirmed = true ∨
      Sound (session.selectionChecked i selection result now) := by
  unfold State.selectionChecked
  split
  · exact .inr { inv with }
  · rename_i latest
    split
    · exact .inr { inv with }
    · have erased : Sound { session with selections := session.selections.eraseIdx i } := { inv with }
      refine sound_finishSelection erased now fun kept => ?_
      -- The selection is of the latest generation, so what it waited for is current.
      have waits := ordered.waits selection (List.mem_of_getElem? found)
      have since : session.clearedAt ≤ selection.gen := not_not.mp latest ▸ ordered.cleared
      have current := waits.2 since j awaits check.gen (by simp [State.threads, checked])
      exact inv.kept check (List.mem_of_getElem? checked) (kept ▸ resolved) current

theorem sound_handleArchetypeSelected (inv : Sound session) (archetype : Archetype) :
    Sound (session.handleArchetypeSelected archetype) := by
  unfold State.handleArchetypeSelected
  split
  · exact { inv with }
  · exact { inv.startCheck false with }

theorem sound_selectionRetries (inv : Sound session) (i : Nat) (selection : Selection) :
    Sound (session.selectionRetries i selection) := by
  unfold State.selectionRetries
  split
  · exact { inv with }
  · exact { inv.startCheck false with }

theorem sound_loadResume (inv : Sound session) {i : Nat} {load : Load} {outcome : LocalRead ⊕ Option Snapshot}
    (found : session.loads[i]? = some load) (resumed : load.read.resume = some outcome)
    (own : LoadsOwn session (.loadResume i)) : Sound (session.loadResume i load outcome) := by
  cases outcome with
  | inl next =>
    refine { inv with loads := Tasks.forall_mem_set inv.loads ?_ }
    rw [captured_of_resume resumed]
    exact fun _ absent => by cases absent
  | inr localData =>
    have erased : Sound { session with loads := session.loads.eraseIdx i } :=
      { inv with loads := Tasks.forall_mem_eraseIdx inv.loads }
    refine sound_loadPlayer erased (fun snapshot taken => ?_) fun latest => ?_
    · exact inv.loads load (List.mem_of_getElem? found) snapshot
        (mem_captured_of_resume (resumed.trans (by rw [Option.mem_def.mp taken])))
    · exact own i rfl localData (by simp [State.loadTakes, found, resumed, latest])

theorem sound_writeAccess (inv : Sound session) {i : Nat} {write : LocalWrite} (success : Bool)
    (found : session.writes[i]? = some write) : Sound (session.writeAccess i write success) := by
  have sound := inv.writes write (List.mem_of_getElem? found)
  refine { inv with saved := ?_, writes := Tasks.forall_mem_set inv.writes sound }
  intro snapshot stored
  cases success with
  | true => exact Option.some.inj stored ▸ sound.1
  | false => exact inv.saved snapshot stored

theorem sound_of_does {action : Action} (inv : Sound before) (ordered : Ordered before.threads)
    (own : LoadsOwn before action) (keeps : KeepsLoaded before action) (live : SavesLive before action)
    (done : Does before action after) : after.confirmed = true ∨ Sound after := by
  cases done with
  | initializePlayer =>
    exact .inr { inv with loads := Tasks.forall_mem_concat inv.loads fun _ absent => by cases absent }
  | @loadAccess i load success read saved found accessed =>
    obtain ⟨left, captured⟩ := access_spec accessed
    exact .inr { inv with
      saved := fun snapshot stored => inv.saved snapshot (left snapshot stored)
      loads := Tasks.forall_mem_set inv.loads fun snapshot taken => inv.saved snapshot (captured snapshot taken) }
  | loadResume found resumed => exact .inr (sound_loadResume inv found resumed own)
  | clearPlayer => exact .inr (sound_clearPlayer inv ordered)
  | @commit deferred =>
    obtain ⟨_, _, same⟩ := before.commit_eq deferred
    exact .inr (same ▸ { inv with })
  | becomeActive =>
    obtain ⟨_, _, same⟩ := before.becomeActive_eq
    exact .inr (same ▸ { inv with })
  | reconcileEffect => exact .inr { inv.startCheck true with }
  | checkFetched found => exact sound_checkFetched inv _ _ _
  | checkAccessed found phase accessed =>
    have stored := inv.store fun snapshot stored => inv.saved snapshot ((access_spec accessed).1 snapshot stored)
    exact .inr (stored.setPhase fun kept => by cases kept)
  | @checkWritten i check success record found =>
    refine .inr (Sound.setPhase (inv.store fun snapshot stored => ?_) fun kept => by cases kept)
    -- The record of the cloud is not a created character, whatever its timestamp.
    cases success with
    | true =>
      rw [← Option.some.inj stored]
      exact fun created => by cases created
    | false => exact inv.saved snapshot stored
  | checkCompared found phase resumed => exact .inr (sound_checkResume inv phase resumed (keeps _ rfl _ found))
  | checkAdopted found => exact .inr (inv.setPhase fun kept => by cases kept)
  | @handleReconciled i gen result now found =>
    have old := List.mem_of_getElem? found
    have handled : Sound { before with checks := before.checks.set i ⟨gen, false, .resolved result⟩ } :=
      inv.setCheck fun kept => inv.kept ⟨gen, true, .resolved result⟩ old kept
    refine sound_handleReconciled handled now fun kept latest => ?_
    exact inv.kept _ old (congrArg some kept) (latest ▸ ordered.cleared)
  | handleArchetypeSelected => exact .inr (sound_handleArchetypeSelected inv _)
  | selectionRetries found => exact .inr (sound_selectionRetries inv _ _)
  | selectionChecked found awaits checked resolved =>
    exact sound_selectionChecked inv ordered _ found awaits checked resolved
  | setPlayerAndSave => exact .inr (sound_setPlayerAndSave inv _ (live _ rfl))
  | writeAccess found => exact .inr (sound_writeAccess inv _ found)
  | writeResume found =>
    exact .inr { inv with writes := Tasks.forall_mem_eraseIdx inv.writes }
  | cloudBecomes => exact .inr { inv with }

structure Outside where
  cloud : Option CloudRecord
  log : List Event

def State.outside (session : State) : Outside := ⟨session.cloud, session.log⟩

/-- What a step shows: nothing, one event, or a change of the document. A write to the cloud comes
from a save in flight, and a read finds the slot empty only if there is no document. -/
inductive Shows (before : State) : Action → Outside → Prop where
  | nothing {action : Action} : Shows before action before.outside
  | event {action : Action} {event : Event}
      (written : event.writesCreated = true →
        ∃ write ∈ before.writes, write.sync = true ∧ write.snapshot.created = true)
      (empty : event.readsEmpty = true → before.cloud = none) :
      Shows before action ⟨before.cloud, before.log ++ [event]⟩
  | document (cloud : Option CloudRecord) : Shows before (.cloudBecomes cloud) ⟨cloud, before.log⟩

theorem outside_handleArchetypeSelected (session : State) (archetype : Archetype) :
    (session.handleArchetypeSelected archetype).outside = session.outside := by
  unfold State.handleArchetypeSelected
  split <;> rfl

theorem outside_selectionRetries (session : State) (i : Nat) (selection : Selection) :
    (session.selectionRetries i selection).outside = session.outside := by
  unfold State.selectionRetries
  split <;> rfl

theorem shows_settles {action : Action} {middle : State} (settled : middle.Settles after)
    (same : middle.outside = before.outside) : Shows before action after.outside := by
  cases settled with
  | unchanged => exact same ▸ .nothing
  | adopted =>
    have cloud : middle.cloud = before.cloud := congrArg Outside.cloud same
    have log : middle.log = before.log := congrArg Outside.log same
    simp only [State.outside, cloud, log]
    exact .event nofun nofun
  | saved => exact same ▸ .nothing

theorem shows_of_does {action : Action} (done : Does before action after) : Shows before action after.outside := by
  cases done with
  | initializePlayer => exact .nothing
  | loadAccess => exact .nothing
  | @loadResume i load outcome =>
    cases outcome with
    | inl read => exact .nothing
    | inr localData =>
      obtain ⟨_, _, _, same⟩ := State.loadPlayer_eq { before with loads := before.loads.eraseIdx i } load.gen localData
      rw [State.loadResume, same]
      exact .nothing
  | clearPlayer => exact .nothing
  | @commit deferred =>
    obtain ⟨_, _, same⟩ := before.commit_eq deferred
    exact same ▸ .nothing
  | becomeActive =>
    obtain ⟨_, _, same⟩ := before.becomeActive_eq
    exact same ▸ .nothing
  | reconcileEffect => exact .nothing
  | @checkFetched i gen handler reachable =>
    refine .event nofun fun empty => ?_
    cases document : before.cloud with
    | none => rfl
    | some record =>
      rw [State.loadPlayerData, document] at empty
      cases reachable <;> cases empty
  | checkAccessed => exact .nothing
  | checkWritten => exact .nothing
  | @checkCompared i check record read outcome =>
    cases outcome <;> exact .nothing
  | checkAdopted => exact .nothing
  | handleReconciled => exact shows_settles (State.settles_handleReconciled _ _ _ _) rfl
  | handleArchetypeSelected => exact outside_handleArchetypeSelected before _ ▸ .nothing
  | selectionRetries => exact outside_selectionRetries before _ _ ▸ .nothing
  | selectionChecked =>
    unfold State.selectionChecked
    split
    · exact .nothing
    · split
      · exact .nothing
      · exact shows_settles (State.settles_finishSelection _ _ _ _) rfl
  | @setPlayerAndSave updated now =>
    obtain ⟨_, same⟩ := before.setPlayerAndSave_eq updated now
    exact same ▸ .nothing
  | writeAccess => exact .nothing
  | @writeResume i write success found =>
    by_cases sent : (write.sync && success) = true
    · have logged : (before.writeResume i write success).outside =
          ⟨before.cloud, before.log ++ [.cloudWrite write.snapshot]⟩ := by
        simp [State.writeResume, State.outside, sent]
      rw [logged]
      exact .event (fun created => ⟨write, List.mem_of_getElem? found, (Bool.and_eq_true_iff.mp sent).1, created⟩)
        nofun
    · have quiet : (before.writeResume i write success).outside = before.outside := by
        simp [State.writeResume, State.outside, sent]
      exact quiet ▸ .nothing
  | cloudBecomes cloud => exact .document cloud

theorem log_of_shows {action : Action} {outside : Outside} (shown : Shows before action outside) :
    outside.log = before.log ∨ ∃ event, outside.log = before.log ++ [event] ∧
      (event.writesCreated = true → ∃ write ∈ before.writes, write.sync = true ∧ write.snapshot.created = true) := by
  cases shown with
  | nothing => exact .inl rfl
  | event written => exact .inr ⟨_, rfl, written⟩
  | document => exact .inl rfl

structure Guarded (session : State) : Prop where
  preceded : Preceded Event.writesCreated Event.confirms session.log
  ordered : Ordered session.threads
  sound : session.confirmed = true ∨ Sound session

theorem Guarded.start (saved : Option (SaveData × ℤ)) (cloud : Option CloudRecord) :
    Guarded (start saved cloud) where
  preceded := .nil
  ordered := ⟨le_rfl, nofun, nofun, nofun⟩
  sound := by
    refine .inr ⟨fun live => (by cases live), fun snapshot stored created => ?_, fun _ load => (by cases load),
      fun _ write => (by cases write), fun _ check => (by cases check)⟩
    obtain ⟨_, _, rfl⟩ := Option.map_eq_some_iff.mp stored
    cases created

theorem Guarded.step {action : Action} (inv : Guarded before) (careful : Careful before action)
    (taken : step before action = some after) : Guarded after := by
  have done := does_of_step taken
  have grown := log_of_shows (shows_of_does done)
  -- The log only grows, so a confirmation lasts.
  have lasts : before.confirmed = true → after.confirmed = true := by
    intro confirmed
    rcases grown with same | ⟨event, same, _⟩
    · exact (congrArg (List.any · Event.confirms) same).trans confirmed
    · refine (congrArg (List.any · Event.confirms) same).trans ?_
      exact (List.any_append ..).trans (Bool.or_eq_true_iff.mpr (.inl confirmed))
  refine ⟨?_, ordered_of_does inv.ordered done, ?_⟩
  · rcases grown with same | ⟨event, same, written⟩
    · exact (show after.log = before.log from same) ▸ inv.preceded
    · refine (show after.log = before.log ++ [event] from same) ▸ inv.preceded.snoc fun created => ?_
      -- Without a confirmation no save in flight carries a created character.
      rcases inv.sound with confirmed | sound
      · exact confirmed
      · obtain ⟨write, member, sync, tagged⟩ := written created
        exact absurd (tagged.symm.trans ((sound.writes write member).2 sync)) Bool.noConfusion
  · rcases inv.sound, careful with ⟨confirmed | sound, confirmed' | ⟨own, keeps, live⟩⟩
    · exact .inl (lasts confirmed)
    · exact .inl (lasts confirmed)
    · exact .inl (lasts confirmed')
    · exact sound_of_does sound inv.ordered own keeps live done

def HoldsRecord (cloud : Option CloudRecord) (actions : List Action) : Prop :=
  (∃ record, cloud = some record ∧ isValidPlayerData record.playerData = true) ∧
    ∀ document, Action.cloudBecomes document ∈ actions →
      ∃ record, document = some record ∧ isValidPlayerData record.playerData = true

variable {saved : Option (SaveData × ℤ)} {cloud : Option CloudRecord} {actions : List Action}

theorem HoldsRecord.of_append {later : List Action} (holds : HoldsRecord cloud (actions ++ later)) :
    HoldsRecord cloud actions :=
  ⟨holds.1, fun document taken => holds.2 document (List.mem_append_left later taken)⟩

theorem run_not_readsEmpty {careful : State → Action → Prop}
    (run : Run step careful (start saved cloud) actions session) (holds : HoldsRecord cloud actions) :
    session.cloud ≠ none ∧ ∀ event ∈ session.log, event.readsEmpty = false := by
  refine run.history (fun taken state => HoldsRecord cloud taken →
    state.cloud ≠ none ∧ ∀ event ∈ state.log, event.readsEmpty = false) (fun holds => ?_) ?_ holds
  · obtain ⟨record, rfl, _⟩ := holds.1
    exact ⟨Option.some_ne_none record, fun _ logged => by cases logged⟩
  · intro taken before action after ih _ step holds
    obtain ⟨full, read⟩ := ih holds.of_append
    have shown := shows_of_does (does_of_step step)
    generalize seen : after.outside = outside at shown
    have sameCloud : after.cloud = outside.cloud := congrArg Outside.cloud seen
    have sameLog : after.log = outside.log := congrArg Outside.log seen
    rw [sameCloud, sameLog]
    cases shown with
    | nothing => exact ⟨full, read⟩
    | @event _ event _ empty =>
      refine ⟨full, fun other member => ?_⟩
      rcases List.mem_append.mp member with old | new
      · exact read other old
      · rw [List.mem_singleton.mp new]
        exact Bool.eq_false_iff.mpr fun answered => full (empty answered)
    | document changed =>
      obtain ⟨record, rfl, _⟩ := holds.2 changed (List.mem_append_right taken (List.mem_singleton_self _))
      exact ⟨Option.some_ne_none record, read⟩

def veteranSave : SaveData := ⟨(Player.new .martial 5).toJSON, true⟩

def veteranRecord : CloudRecord := ⟨veteranSave, 8⟩

def createOffline : List Action :=
  [.initializePlayer, .loadAccess 0 true, .loadResume 0, .commit, .reconcileEffect, .checkFetch 0 false,
    .handleReconciled 0 1, .handleArchetypeSelected .mage, .selectionResume 0 1,
    .selectionResume 0 1, .checkFetch 1 false, .selectionResume 0 1,
    .selectionResume 0 1, .checkFetch 2 false, .selectionResume 0 2]

def adoptLater : List Action :=
  createOffline ++ [Action.writeAccess 0 true, .writeResume 0, .commit,
    .setPlayerAndSave ⟨(Player.new .mage 1).addDistance 10, true⟩ 3, .writeAccess 0 true, .writeResume 0,
    .initializePlayer, .loadAccess 0 true, .loadResume 0, .commit, .reconcileEffect, .checkFetch 3 true,
    .checkAccess 3 true, .checkResume 3, .checkAccess 3 true, .checkResume 3, .handleReconciled 3 5,
    .setPlayerAndSave ⟨(Player.new .martial 5).addDistance 10, false⟩ 9, .writeAccess 0 true, .writeResume 0]

theorem holdsRecord_of_unchanged (unchanged : ∀ document, Action.cloudBecomes document ∉ actions) :
    HoldsRecord (some veteranRecord) actions :=
  ⟨⟨veteranRecord, rfl, by decide +kernel⟩, fun document changed => absurd changed (unchanged document)⟩

theorem overwrites_of_exec (unchanged : ∀ document, Action.cloudBecomes document ∉ actions)
    (executed : (exec step (fun _ _ => True) (start saved (some veteranRecord)) actions).any (fun session =>
      decide (session.log.any Event.writesCreated = true ∧ session.log.any Event.confirms = false)) = true) :
    ∃ session, Run step (fun _ _ => True) (start saved (some veteranRecord)) actions session ∧
      HoldsRecord (some veteranRecord) actions ∧
      ¬Preceded Event.writesCreated Event.adopts session.log ∧
      ¬Preceded Event.writesCreated Event.confirms session.log := by
  obtain ⟨session, run, written, unconfirmed⟩ := Run.exists_of_exec executed
  have early := Gaps.not_preceded written unconfirmed
  refine ⟨session, run, holdsRecord_of_unchanged unchanged, fun preceded => early ?_, early⟩
  exact preceded.mono fun _ _ adopts => by simp [Event.confirms, adopts]

def futureSave : SaveData := ⟨(Player.new .martial 5).toJSON, false⟩

/-- The local save does not decode and the record of the cloud is not newer than it: the reconcile
reports no newer cloud, and the selection takes that for an empty slot. -/
def pickOverFutureSave : List Action :=
  [.initializePlayer, .loadAccess 0 true, .loadResume 0, .commit, .reconcileEffect, .checkFetch 0 true,
    .checkAccess 0 true, .checkResume 0, .handleReconciled 0 9, .handleArchetypeSelected .mage,
    .selectionResume 0 10, .writeAccess 0 true, .writeResume 0]

/-- The local write of the provisional mage fails, the reload after a belated sign-in finds no snapshot
and drops the flag, and the next save of the mage goes to the cloud. -/
def reloadAfterFailedWrite : List Action :=
  createOffline ++ [Action.writeAccess 0 false, .writeResume 0, .commit, .initializePlayer, .loadAccess 0 true,
    .loadResume 0, .setPlayerAndSave ⟨(Player.new .mage 1).addDistance 10, true⟩ 3, .writeAccess 0 true,
    .writeResume 0]

-- No snapshot fails to decode here, so the condition on the loads is needed as well.
theorem run_reloadAfterFailedWrite_overwrites : ∃ session,
    Run step (fun _ _ => True) (start none (some veteranRecord)) reloadAfterFailedWrite session ∧
      HoldsRecord (some veteranRecord) reloadAfterFailedWrite ∧
      ¬Preceded Event.writesCreated Event.adopts session.log ∧
      ¬Preceded Event.writesCreated Event.confirms session.log :=
  overwrites_of_exec (by simp [reloadAfterFailedWrite, createOffline]) (by decide +kernel)

end Session

end WalkingRpg

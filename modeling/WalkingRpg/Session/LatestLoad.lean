import WalkingRpg.Session.CommitWhenActive

/-! Only the latest load takes effect.

A generation counter tells the steps of superseded calls from those of the latest one. What is live
and on screen, once the loads are through and their paints have run, is then a function of what the
latest call has found: its own local read and its own generation's reconcile.
-/

set_option autoImplicit false

namespace WalkingRpg

namespace Session

open Runs (Run exec)

structure Shown where
  playerRef : Option Character
  provisionalRef : Bool
  player : Option Character
  needsArchetypeSelection : Bool

def State.shown (session : State) : Shown where
  playerRef := session.playerRef
  provisionalRef := session.provisionalRef
  player := session.player
  needsArchetypeSelection := session.needsArchetypeSelection

namespace Shown

def blank : Shown := ⟨none, false, none, false⟩

/-- What a load alone comes to: the player of a save that decodes, or archetype selection. -/
def loaded (localData : Option Snapshot) : Shown where
  playerRef := localData.bind Snapshot.decoded
  provisionalRef := localData.any fun snapshot => decide (snapshot.savedAt = 0)
  player := localData.bind Snapshot.decoded
  needsArchetypeSelection := (localData.bind Snapshot.decoded).isNone

def reconciled (shown : Shown) : ReconcileResult → Shown
  | .adopted data => (fromJSON data false).elim shown fun cloudPlayer => ⟨some cloudPlayer, false, some cloudPlayer, false⟩
  | .noNewerCloud => { shown with provisionalRef := shown.provisionalRef && shown.playerRef.isNone }
  | .unavailable => shown

def activated (shown : Shown) : Shown :=
  if shown.playerRef.isSome then { shown with player := shown.playerRef, needsArchetypeSelection := false }
  else shown

def committed (shown : Shown) (gen : Nat) : Commit → Shown
  | .archetypeSelection own =>
    { shown with needsArchetypeSelection := shown.needsArchetypeSelection || own == gen }
  | .loadedPlayer own => if own = gen then shown.activated else shown
  | .createdPlayer => shown.activated

end Shown

/-- The outcome of the most recently started call, as far as its reconcile has come. A load that is
under way has none. -/
def Latest.outcome : Latest → Option Shown
  | .cleared => some .blank
  | .loading => none
  | .loaded localData reconciled => some (reconciled.elim (Shown.loaded localData) (Shown.loaded localData).reconciled)

namespace Shown

variable {shown : Shown}

@[simp] theorem activated_playerRef (shown : Shown) : shown.activated.playerRef = shown.playerRef := by
  unfold activated
  split <;> rfl

@[simp] theorem activated_provisionalRef (shown : Shown) : shown.activated.provisionalRef = shown.provisionalRef := by
  unfold activated
  split <;> rfl

def Backed (shown : Shown) : Prop := shown.playerRef = none → shown.player = none

theorem Backed.activated (backed : shown.Backed) : shown.activated.Backed := by
  intro absent
  rw [activated_playerRef] at absent
  simpa [Shown.activated, absent] using backed absent

theorem Backed.committed (backed : shown.Backed) (gen : Nat) (commit : Commit) :
    (shown.committed gen commit).Backed := by
  cases commit with
  | archetypeSelection => exact backed
  | loadedPlayer =>
    unfold Shown.committed
    dsimp only
    split
    · exact backed.activated
    · exact backed
  | createdPlayer => exact backed.activated

theorem Backed.reconciled (backed : shown.Backed) (result : ReconcileResult) : (shown.reconciled result).Backed := by
  cases result with
  | adopted data =>
    show Backed ((fromJSON data false).elim shown _)
    cases fromJSON data false with
    | none => exact backed
    | some cloudPlayer => exact fun absent => (by cases absent)
  | noNewerCloud => exact backed
  | unavailable => exact backed

theorem committed_paintOf (gen : Nat) {localData : Option Snapshot}
    (live : shown.playerRef = localData.bind Snapshot.decoded)
    (flag : shown.provisionalRef = (loaded localData).provisionalRef) (backed : shown.Backed) :
    shown.committed gen (paintOf gen localData) = loaded localData := by
  cases decoded : localData.bind Snapshot.decoded with
  | none =>
    have paint : paintOf gen localData = .archetypeSelection gen := by rw [paintOf, decoded]; rfl
    have none := live.trans decoded
    rw [paint, committed, flag, none, backed none, loaded, decoded]
    simp
  | some character =>
    have paint : paintOf gen localData = .loadedPlayer gen := by rw [paintOf, decoded]; rfl
    have some := live.trans decoded
    rw [paint, committed, if_pos rfl, activated, flag, some, loaded, decoded]
    rfl

def Steady (shown : Shown) : Prop :=
  shown.playerRef.isSome → shown.player = shown.playerRef ∧ shown.needsArchetypeSelection = false

theorem Steady.activated (steady : shown.Steady) : shown.activated = shown := by
  obtain ⟨playerRef, provisionalRef, player, needs⟩ := shown
  unfold Shown.activated
  split
  · rename_i live
    obtain ⟨same, gone⟩ := steady live
    cases same
    cases gone
    rfl
  · rfl

theorem steady_loaded (localData : Option Snapshot) : (loaded localData).Steady := by
  intro live
  simpa [loaded] using live

theorem Steady.reconciled (steady : shown.Steady) (result : ReconcileResult) : (shown.reconciled result).Steady := by
  cases result with
  | adopted data =>
    show ((fromJSON data false).elim shown _).Steady
    cases fromJSON data false with
    | none => exact steady
    | some cloudPlayer => exact fun _ => ⟨rfl, rfl⟩
  | noNewerCloud => exact steady
  | unavailable => exact steady

theorem activated_of_outcome {localData : Option Snapshot} {reconciled : Option ReconcileResult}
    (outcome : (Latest.loaded localData reconciled).outcome = some shown) : shown.activated = shown := by
  cases Option.some.inj outcome
  apply Steady.activated
  cases reconciled with
  | none => exact steady_loaded localData
  | some result => exact (steady_loaded localData).reconciled result

end Shown

theorem State.shown_commit (session : State) (commit : Commit) :
    (session.commit commit).shown = session.shown.committed session.initGenerationRef commit := by
  cases commit with
  | archetypeSelection => rfl
  | loadedPlayer gen =>
    by_cases current : gen = session.initGenerationRef
    · cases live : session.playerRef <;>
        simp [State.commit, State.shown, Shown.committed, Shown.activated, current, live]
    · simp [State.commit, State.shown, Shown.committed, current]
  | createdPlayer =>
    cases live : session.playerRef <;> simp [State.commit, State.shown, Shown.committed, Shown.activated, live]

theorem State.shown_becomeActive (session : State) : session.becomeActive.shown = session.shown.activated := by
  cases live : session.playerRef <;> cases needs : session.needsArchetypeSelection <;>
    simp [State.becomeActive, State.shown, Shown.activated, live, needs]

theorem Shown.committed_of_older {shown : Shown} {gen own : Nat} {commit : Commit} (armed : commit.gen = some own)
    (older : own < gen) : shown.committed gen commit = shown := by
  cases commit with
  | archetypeSelection =>
    cases Option.some.inj armed
    have other : (own == gen) = false := beq_false_of_ne older.ne
    simp [Shown.committed, other]
  | loadedPlayer =>
    cases Option.some.inj armed
    exact if_neg older.ne
  | createdPlayer => cases armed

theorem State.loadResume_stale {session : State} {load : Load} (i : Nat) (localData : Option Snapshot)
    (stale : load.gen ≠ session.initGenerationRef) :
    session.loadResume i load (.inr localData) = { session with loads := session.loads.eraseIdx i } :=
  State.loadPlayer_stale localData stale

theorem State.handleReconciled_stale {session : State} {gen : Nat} (result : ReconcileResult) (now : ℤ)
    (stale : gen ≠ session.initGenerationRef) : session.handleReconciled gen result now = session := by
  simp [State.handleReconciled, stale]

namespace Mounted

def OlderCommit (mounted : Mounted) (i : Nat) : Prop :=
  ∃ shot ∈ mounted.commits.armed[i]?, ∃ gen ∈ shot.callback.gen, gen < mounted.session.initGenerationRef

/-- A step of an `initializePlayer` that has been superseded, or of a reconcile begun before. -/
def Older (mounted : Mounted) : Turn → Prop
  | .hook (.loadAccess i _) | .hook (.loadResume i) =>
    ∃ load ∈ mounted.session.loads[i]?, load.gen < mounted.session.initGenerationRef
  | .hook (.checkFetch i _) | .hook (.checkAccess i _) | .hook (.checkResume i) | .hook (.handleReconciled i _) =>
    ∃ check ∈ mounted.session.checks[i]?, check.gen < mounted.session.initGenerationRef
  | .timer i => mounted.OlderCommit i
  | _ => False

variable {mounted after : Mounted} {turn : Turn}

theorem shown_conclude {i : Nat} {outcome : OneShot.Shots Commit × Option Commit} (older : mounted.OlderCommit i)
    (tried : OneShot.Shots.Tries mounted.commits i outcome) :
    (mounted.conclude outcome).session.shown = mounted.session.shown := by
  cases tried with
  | idle => rfl
  | expires => rfl
  | runs found =>
    obtain ⟨shot, there, gen, armed, older⟩ := older
    cases Option.some.inj (found.symm.trans there)
    exact (State.shown_commit _ _).trans (Shown.committed_of_older armed older)

theorem shown_of_older (older : mounted.Older turn) (taken : mounted.step turn = some after) :
    after.session.shown = mounted.session.shown := by
  cases turn with
  | timer i =>
    obtain ⟨outcome, passed, rfl⟩ := Option.map_eq_some_iff.mp taken
    exact shown_conclude older (OneShot.Shots.tries_of_timeout passed)
  | change | mirror => exact older.elim
  | hook action =>
    obtain ⟨session, stepped, _, _, rfl⟩ := step_of_hook taken
    rw [defer_session]
    cases does_of_step stepped with
    | @loadResume i load outcome found resumed =>
      obtain ⟨load', there, older⟩ := older
      cases Option.some.inj (found.symm.trans there)
      cases outcome with
      | inl next => rfl
      | inr localData =>
        rw [State.loadResume_stale i localData older.ne]
        rfl
    | @handleReconciled i gen result now found =>
      obtain ⟨check, there, older⟩ := older
      cases Option.some.inj (found.symm.trans there)
      show State.shown (State.handleReconciled _ _ _ _) = _
      rw [State.handleReconciled_stale result now]
      · rfl
      · exact older.ne
    | @checkCompared _ _ _ _ outcome _ _ _ => cases outcome <;> rfl
    | loadAccess => rfl
    | checkFetched => rfl
    | checkAccessed => rfl
    | checkWritten => rfl
    | checkAdopted => rfl
    | _ => exact older.elim

end Mounted

structure Standing where
  shown : Shown
  pendingCommit : Option Commit
  gen : Nat
  loads : List Nat
  /-- The generation of each reconcile, and whether its handler is still to run. -/
  checks : List (Nat × Bool)
  reconciledGen : Option Nat

def State.standing (session : State) : Standing where
  shown := session.shown
  pendingCommit := session.pendingCommit
  gen := session.initGenerationRef
  loads := session.loads.map Load.gen
  checks := session.checks.map fun check => (check.gen, check.handler)
  reconciledGen := session.reconciledGenerationRef

inductive Phase (standing : Standing) : Latest → Prop where
  | cleared (shown : standing.shown = .blank) (pending : standing.pendingCommit = none)
      (through : standing.gen ∉ standing.loads) (unchecked : (standing.gen, true) ∉ standing.checks) :
      Phase standing .cleared
  | loading (underway : standing.gen ∈ standing.loads)
      (older : ∀ commit ∈ standing.pendingCommit, ∃ own ∈ commit.gen, own < standing.gen)
      (unchecked : (standing.gen, true) ∉ standing.checks) : Phase standing .loading
  | waiting {localData : Option Snapshot} (through : standing.gen ∉ standing.loads)
      (pending : standing.pendingCommit = some (paintOf standing.gen localData))
      (live : standing.shown.playerRef = localData.bind Snapshot.decoded)
      (flag : standing.shown.provisionalRef = (Shown.loaded localData).provisionalRef)
      (unchecked : (standing.gen, true) ∉ standing.checks) : Phase standing (.loaded localData none)
  | painted {localData : Option Snapshot} {reconciled : Option ReconcileResult}
      (through : standing.gen ∉ standing.loads) (pending : standing.pendingCommit = none)
      (outcome : (Latest.loaded localData reconciled).outcome = some standing.shown)
      (handled : reconciled.isSome → (standing.gen, true) ∉ standing.checks ∧
        standing.reconciledGen = some standing.gen) : Phase standing (.loaded localData reconciled)

theorem gen_paintOf (gen : Nat) (localData : Option Snapshot) : (paintOf gen localData).gen = some gen := by
  unfold paintOf
  split <;> rfl

/-- The calls in flight are of generations that have been, each load of its own. A generation has at
most one reconcile, and none before it is marked as reconciled. -/
structure Generations (gen : Nat) (loads : List Nat) (checks : List (Nat × Bool)) (reconciled : Option Nat) : Prop where
  loaded : ∀ own ∈ loads, own ≤ gen
  distinct : loads.Nodup
  checked : ∀ check ∈ checks, check.1 ≤ gen
  begun : (gen, true) ∈ checks → reconciled = some gen
  one : checks.count (gen, true) ≤ 1

namespace Generations

variable {gen own i : Nat} {loads : List Nat} {checks : List (Nat × Bool)} {reconciled : Option Nat}

theorem fresh (generations : Generations gen loads checks reconciled) :
    gen + 1 ∉ loads ∧ (gen + 1, true) ∉ checks := by
  constructor
  · intro member
    have := generations.loaded _ member
    omega
  · intro member
    have := generations.checked _ member
    omega

theorem next (generations : Generations gen loads checks reconciled) :
    Generations (gen + 1) loads checks reconciled where
  loaded := fun own member => Nat.le_succ_of_le (generations.loaded own member)
  distinct := generations.distinct
  checked := fun check member => Nat.le_succ_of_le (generations.checked check member)
  begun := fun member => absurd member generations.fresh.2
  one := by simp [List.count_eq_zero_of_not_mem generations.fresh.2]

theorem load (generations : Generations gen loads checks reconciled) (fresh : gen ∉ loads) :
    Generations gen (loads ++ [gen]) checks reconciled where
  loaded := Tasks.forall_mem_concat generations.loaded (Nat.le_refl gen)
  distinct := by
    simpa [List.nodup_append] using ⟨generations.distinct, fun own member same => fresh (same ▸ member)⟩
  checked := generations.checked
  begun := generations.begun
  one := generations.one

theorem unload (generations : Generations gen loads checks reconciled) (i : Nat) :
    Generations gen (loads.eraseIdx i) checks reconciled where
  loaded := Tasks.forall_mem_eraseIdx generations.loaded
  distinct := generations.distinct.sublist (List.eraseIdx_sublist loads i)
  checked := generations.checked
  begun := generations.begun
  one := generations.one

theorem through (generations : Generations gen loads checks reconciled) (found : loads[i]? = some gen) :
    gen ∉ loads.eraseIdx i := fun member =>
  @Tasks.view_ne_of_mem_eraseIdx _ _ id _ _ _ _ (by simpa using generations.distinct) found member rfl

theorem check (generations : Generations gen loads checks reconciled) (first : reconciled ≠ some gen) :
    Generations gen loads (checks ++ [(gen, true)]) (some gen) where
  loaded := generations.loaded
  distinct := generations.distinct
  checked := Tasks.forall_mem_concat generations.checked (Nat.le_refl gen)
  begun := fun _ => rfl
  one := by
    have unchecked : (gen, true) ∉ checks := mt generations.begun first
    simp [List.count_append, List.count_eq_zero_of_not_mem unchecked]

theorem mem_of_handled {check : Nat} (member : (check, true) ∈ checks.set i (own, false)) : (check, true) ∈ checks := by
  rcases List.mem_or_eq_of_mem_set member with old | same
  · exact old
  · cases same

theorem count_handled (found : checks[i]? = some (own, true)) (gen : Nat) :
    (checks.set i (own, false)).count (gen, true) = checks.count (gen, true) - if own = gen then 1 else 0 := by
  obtain ⟨bound, here⟩ := List.getElem?_eq_some_iff.mp found
  rw [List.count_set bound, here]
  simp

theorem handle (generations : Generations gen loads checks reconciled) (found : checks[i]? = some (own, true)) :
    Generations gen loads (checks.set i (own, false)) reconciled where
  loaded := generations.loaded
  distinct := generations.distinct
  checked := Tasks.forall_mem_set_of_found generations.checked found id
  begun := fun member => generations.begun (mem_of_handled member)
  one := by
    rw [count_handled found]
    exact (Nat.sub_le _ _).trans generations.one

theorem unchecked (generations : Generations gen loads checks reconciled) (found : checks[i]? = some (gen, true)) :
    (gen, true) ∉ checks.set i (gen, false) := by
  apply List.count_eq_zero.mp
  rw [count_handled found, if_pos rfl]
  exact Nat.sub_eq_zero_of_le generations.one

end Generations

structure Governs (latest : Latest) (standing : Standing) : Prop where
  generations : Generations standing.gen standing.loads standing.checks standing.reconciledGen
  backed : standing.shown.Backed
  phase : Phase standing latest

namespace Governs

variable {latest : Latest} {standing : Standing} {i : Nat}

theorem of_standing {other : Standing} (governs : Governs latest standing) (same : other = standing) :
    Governs latest other := same ▸ governs

theorem starts (governs : Governs latest standing) :
    Governs .loading { standing with gen := standing.gen + 1, loads := standing.loads ++ [standing.gen + 1] } := by
  obtain ⟨fresh, unchecked⟩ := governs.generations.fresh
  refine ⟨governs.generations.next.load fresh, governs.backed, ?_⟩
  refine .loading (List.mem_append_right _ (List.mem_singleton_self _)) ?_ unchecked
  -- A paint that is still pending belongs to an older generation from now on.
  intro commit pending
  cases governs.phase with
  | cleared _ idle | painted _ idle => simp [idle] at pending
  | loading _ older =>
    obtain ⟨own, armed, earlier⟩ := older commit pending
    exact ⟨own, armed, Nat.lt_succ_of_lt earlier⟩
  | waiting _ armed =>
    cases Option.some.inj (armed.symm.trans pending)
    exact ⟨standing.gen, gen_paintOf _ _, Nat.lt_succ_self _⟩

theorem clears (governs : Governs latest standing) :
    Governs .cleared { standing with gen := standing.gen + 1, shown := .blank, pendingCommit := none } := by
  obtain ⟨fresh, unchecked⟩ := governs.generations.fresh
  exact ⟨governs.generations.next, fun _ => rfl, .cleared rfl rfl fresh unchecked⟩

theorem drops {own : Nat} (governs : Governs latest standing) (found : standing.loads[i]? = some own)
    (stale : own ≠ standing.gen) : Governs latest { standing with loads := standing.loads.eraseIdx i } := by
  have fewer {other : Nat} (member : other ∈ standing.loads.eraseIdx i) : other ∈ standing.loads :=
    List.mem_of_mem_eraseIdx member
  refine ⟨governs.generations.unload i, governs.backed, ?_⟩
  cases governs.phase with
  | cleared shown pending through unchecked => exact .cleared shown pending (mt fewer through) unchecked
  | loading underway older unchecked =>
    exact .loading (Tasks.mem_eraseIdx_of_ne found underway stale.symm) older unchecked
  | waiting through pending live flag unchecked => exact .waiting (mt fewer through) pending live flag unchecked
  | painted through pending outcome handled => exact .painted (mt fewer through) pending outcome handled

theorem takes {localData : Option Snapshot} {live : Option Character} (governs : Governs latest standing)
    (found : standing.loads[i]? = some standing.gen) (own : live = localData.bind Snapshot.decoded)
    (kept : live = none → standing.shown.playerRef = none) :
    Governs (.loaded localData none) { standing with
      loads := standing.loads.eraseIdx i
      shown := { standing.shown with
        playerRef := live
        provisionalRef := (Shown.loaded localData).provisionalRef }
      pendingCommit := some (paintOf standing.gen localData) } := by
  have through := governs.generations.through found
  refine ⟨governs.generations.unload i, fun absent => governs.backed (kept absent), ?_⟩
  -- Only in this phase is a load of the latest generation under way.
  cases governs.phase with
  | loading underway older unchecked => exact .waiting through rfl own rfl unchecked
  | cleared _ _ gone | waiting gone | painted gone => exact absurd (List.mem_of_getElem? found) gone

theorem commits {commit : Commit} (governs : Governs latest standing)
    (pending : standing.pendingCommit = some commit) :
    Governs latest { standing with
      pendingCommit := none, shown := standing.shown.committed standing.gen commit } := by
  refine ⟨governs.generations, governs.backed.committed _ _, ?_⟩
  cases governs.phase with
  | cleared _ idle | painted _ idle => cases idle.symm.trans pending
  | loading underway older unchecked =>
    obtain ⟨own, armed, earlier⟩ := older commit pending
    -- A paint of an older load, which does nothing.
    rw [Shown.committed_of_older armed earlier]
    exact .loading underway (fun _ none => by cases none) unchecked
  | @waiting localData through armed live flag unchecked =>
    cases Option.some.inj (armed.symm.trans pending)
    have outcome := Shown.committed_paintOf standing.gen live flag governs.backed
    exact .painted through rfl (congrArg some outcome.symm) (fun handled => by cases handled)

theorem activates (governs : Governs latest standing) :
    Governs latest { standing with shown := standing.shown.activated } := by
  refine ⟨governs.generations, governs.backed.activated, ?_⟩
  cases governs.phase with
  | cleared shown pending through unchecked =>
    exact .cleared (by rw [shown]; rfl) pending through unchecked
  | loading underway older unchecked => exact .loading underway older unchecked
  | waiting through pending live flag unchecked =>
    refine .waiting through pending ?_ ?_ unchecked
    · rw [← live, Shown.activated_playerRef]
    · rw [← flag, Shown.activated_provisionalRef]
  | painted through pending outcome handled =>
    refine .painted through pending ?_ handled
    rw [outcome, Shown.activated_of_outcome outcome]

theorem reconciles (governs : Governs latest standing)
    (shows : standing.shown.player.isSome ∨ standing.shown.needsArchetypeSelection)
    (first : standing.reconciledGen ≠ some standing.gen) (through : standing.gen ∉ standing.loads)
    (idle : standing.pendingCommit = none) :
    Governs latest { standing with
      reconciledGen := some standing.gen, checks := standing.checks ++ [(standing.gen, true)] } := by
  refine ⟨governs.generations.check first, governs.backed, ?_⟩
  cases governs.phase with
  | cleared shown => simp [shown, Shown.blank] at shows
  | loading underway => exact absurd underway through
  | waiting _ armed => cases idle.symm.trans armed
  | painted _ _ outcome handled =>
    -- A handled reconcile has left its mark, so this is the first of the generation.
    exact .painted through idle outcome fun settled => absurd (handled settled).2 first

theorem ignores {own : Nat} (governs : Governs latest standing) (found : standing.checks[i]? = some (own, true)) :
    Governs latest { standing with checks := standing.checks.set i (own, false) } := by
  have fewer {check : Nat} (member : (check, true) ∈ standing.checks.set i (own, false)) :
      (check, true) ∈ standing.checks := Generations.mem_of_handled member
  refine ⟨governs.generations.handle found, governs.backed, ?_⟩
  cases governs.phase with
  | cleared shown pending through unchecked => exact .cleared shown pending through (mt fewer unchecked)
  | loading underway older unchecked => exact .loading underway older (mt fewer unchecked)
  | waiting through pending live flag unchecked => exact .waiting through pending live flag (mt fewer unchecked)
  | painted through pending outcome handled =>
    exact .painted through pending outcome fun settled => ⟨mt fewer (handled settled).1, (handled settled).2⟩

theorem handles (governs : Governs latest standing) (found : standing.checks[i]? = some (standing.gen, true))
    (result : ReconcileResult) :
    Governs (latest.reconcile result) { standing with
      checks := standing.checks.set i (standing.gen, false), shown := standing.shown.reconciled result } := by
  have present : (standing.gen, true) ∈ standing.checks := List.mem_of_getElem? found
  have unchecked := governs.generations.unchecked found
  refine ⟨governs.generations.handle found, governs.backed.reconciled result, ?_⟩
  cases governs.phase with
  | cleared _ _ _ none | loading _ _ none | waiting _ _ _ _ none => exact absurd present none
  | @painted localData reconciled through pending outcome handled =>
    -- A generation has one reconcile, so nothing has been made of its load yet.
    cases reconciled with
    | some => exact absurd present (handled rfl).1
    | none =>
      refine .painted through pending ?_ fun _ => ⟨unchecked, governs.generations.begun present⟩
      rw [← Option.some.inj outcome]
      rfl

end Governs

namespace State

variable {session : State} {i : Nat}

theorem standing_setPhase {check : Check} (saved : Option Snapshot) (log : List Event) (phase : CheckPhase)
    (found : session.checks[i]? = some check) :
    ({ session with saved := saved, log := log }.setPhase i check phase).standing = session.standing := by
  have same := @Tasks.map_set_of_view_eq _ _ (fun check : Check => (check.gen, check.handler)) _ _ _
    { check with phase := phase } found rfl
  unfold standing
  simp only [setPhase, shown, same]

theorem standing_setLoad {load : Load} (read : LocalRead) (saved : Option Snapshot)
    (found : session.loads[i]? = some load) :
    standing { session with saved := saved, loads := session.loads.set i { load with read := read } } =
      session.standing := by
  have same := @Tasks.map_set_of_view_eq _ _ Load.gen _ _ _ { load with read := read } found rfl
  unfold standing
  simp only [shown, same]

theorem standing_writeResume {write : LocalWrite} (success : Bool) (unpainted : write.paints = false) :
    (session.writeResume i write success).standing = session.standing := by
  simp [standing, writeResume, unpainted, shown]

theorem standing_initializePlayer (session : State) :
    session.initializePlayer.standing = { session.standing with
      gen := session.initGenerationRef + 1
      loads := session.standing.loads ++ [session.initGenerationRef + 1] } := by
  simp [standing, initializePlayer, shown]

theorem standing_reconcileEffect (session : State) :
    session.reconcileEffect.standing = { session.standing with
      reconciledGen := some session.initGenerationRef
      checks := session.standing.checks ++ [(session.initGenerationRef, true)] } := by
  simp [standing, reconcileEffect, startCheck, shown]

theorem standing_loadResume {load : Load} (i : Nat) (localData : Option Snapshot)
    (current : load.gen = session.initGenerationRef) :
    (session.loadResume i load (.inr localData)).standing = { session.standing with
      loads := session.standing.loads.eraseIdx i
      shown := { session.shown with
        playerRef := (localData.bind Snapshot.decoded).or session.playerRef
        provisionalRef := (Shown.loaded localData).provisionalRef }
      pendingCommit := some (paintOf session.initGenerationRef localData) } := by
  rw [loadResume, current]
  cases localData with
  | none => simp [loadPlayer, standing, shown, Shown.loaded, paintOf, List.eraseIdx_map]
  | some snapshot =>
    cases decoded : fromJSON snapshot.save snapshot.created <;>
      simp [loadPlayer, standing, shown, Shown.loaded, paintOf, Snapshot.decoded, decoded, List.eraseIdx_map]

theorem standing_loadResume_stale {load : Load} (i : Nat) (localData : Option Snapshot)
    (stale : load.gen ≠ session.initGenerationRef) :
    (session.loadResume i load (.inr localData)).standing =
      { session.standing with loads := session.standing.loads.eraseIdx i } := by
  rw [loadResume_stale i localData stale]
  simp [standing, shown, List.eraseIdx_map]

theorem standing_handleReconciled (session : State) (result : ReconcileResult) (now : ℤ) :
    (session.handleReconciled session.initGenerationRef result now).standing =
      { session.standing with shown := session.shown.reconciled result } := by
  cases result with
  | adopted data =>
    cases decoded : fromJSON data false <;>
      simp [handleReconciled, adopt, decoded, standing, shown, Shown.reconciled]
  | noNewerCloud =>
    cases live : session.playerRef <;> cases flag : session.provisionalRef <;>
      simp [handleReconciled, savePlayerData, live, flag, standing, shown, Shown.reconciled]
  | unavailable => simp [handleReconciled, standing, shown, Shown.reconciled]

theorem standing_commit (session : State) (commit : Commit) :
    (session.commit commit).standing = { session.standing with
      pendingCommit := none, shown := session.shown.committed session.initGenerationRef commit } := by
  rw [← session.shown_commit commit]
  obtain ⟨_, _, painted⟩ := session.commit_eq commit
  rw [painted]
  rfl

theorem standing_becomeActive (session : State) :
    session.becomeActive.standing = { session.standing with shown := session.shown.activated } := by
  rw [← session.shown_becomeActive]
  obtain ⟨_, _, painted⟩ := session.becomeActive_eq
  rw [painted]
  rfl

end State

def Unselected (session : State) : Prop := ∀ write ∈ session.writes, write.paints = false

theorem unselected_handleReconciled {session : State} {gen : Nat} {result : ReconcileResult} {now : ℤ}
    (unselected : Unselected session) : Unselected (session.handleReconciled gen result now) := by
  unfold State.handleReconciled
  split
  · exact unselected
  · cases result with
    | adopted data =>
      dsimp only
      unfold State.adopt
      split <;> exact unselected
    | noNewerCloud =>
      dsimp only
      split
      · split
        · exact Tasks.forall_mem_concat unselected rfl
        · exact unselected
      · exact unselected
    | unavailable => exact unselected

def State.painted (session : State) : Bool :=
  session.loads.all (fun load => load.gen != session.initGenerationRef) && session.pendingCommit.isNone

/-- A step under which the latest call decides alone: a load without a save that decodes finds no
player live, a reconcile is begun after the paint of its own generation, and neither archetype
selection nor progress of the player goes on meanwhile. -/
def orderlyStep (session : State) : Action → Bool
  | .loadResume i => (session.loadTakes i).all fun localData =>
      (localData.bind Snapshot.decoded).isSome || session.playerRef.isNone
  | .reconcileEffect => session.painted
  | .handleArchetypeSelected _ | .selectionResume _ _ | .setPlayerAndSave _ _ => false
  | _ => true

theorem writes_loadResume (session : State) (i : Nat) (load : Load) (outcome : LocalRead ⊕ Option Snapshot) :
    (session.loadResume i load outcome).writes = session.writes := by
  cases outcome with
  | inl next => rfl
  | inr localData =>
    obtain ⟨_, _, _, same⟩ := State.loadPlayer_eq { session with loads := session.loads.eraseIdx i } load.gen localData
    rw [State.loadResume, same]

theorem governs_of_loadResume {session : State} {i : Nat} {load : Load} {outcome : LocalRead ⊕ Option Snapshot}
    {latest : Latest} (found : session.loads[i]? = some load) (resumed : load.read.resume = some outcome)
    (orderly : orderlyStep session (.loadResume i) = true) (governs : Governs latest session.standing) :
    Governs (latest.follow session (.loadResume i)) (session.loadResume i load outcome).standing := by
  have seen : session.standing.loads[i]? = some load.gen := by simp [State.standing, found]
  cases outcome with
  | inl next =>
    simp only [Latest.follow, State.loadTakes_waits found resumed, Option.elim_none]
    exact governs.of_standing (State.standing_setLoad next session.saved found)
  | inr localData =>
    have takes := State.loadTakes_eq found resumed
    by_cases current : load.gen = session.initGenerationRef
    · rw [if_pos current] at takes
      -- Without a save that decodes the code keeps the live player, of which there is none here.
      have live : (localData.bind Snapshot.decoded).or session.playerRef = localData.bind Snapshot.decoded := by
        have usable : (localData.bind Snapshot.decoded).isSome = true ∨ session.playerRef = none := by
          simpa [orderlyStep, takes] using orderly
        rcases usable with decoded | absent
        · exact Option.or_of_isSome decoded
        · rw [absent, Option.or_none]
      rw [State.standing_loadResume i localData current]
      simp only [Latest.follow, takes, Option.elim_some]
      exact governs.takes (seen.trans (congrArg some current)) live fun none => (Option.or_eq_none_iff.mp none).2
    · rw [if_neg current] at takes
      rw [State.standing_loadResume_stale i localData current]
      simp only [Latest.follow, takes, Option.elim_none]
      exact governs.drops seen current

def State.handling (session : State) (i gen : Nat) (result : ReconcileResult) : State :=
  { session with checks := session.checks.set i ⟨gen, false, .resolved result⟩ }

theorem standing_handling (session : State) (i gen : Nat) (result : ReconcileResult) :
    (session.handling i gen result).standing =
      { session.standing with checks := session.standing.checks.set i (gen, false) } := by
  simp [State.handling, State.standing, State.shown, List.map_set]

theorem governs_of_handled {session : State} {i gen : Nat} {result : ReconcileResult} {now : ℤ} {latest : Latest}
    (found : session.checks[i]? = some ⟨gen, true, .resolved result⟩) (governs : Governs latest session.standing) :
    Governs (latest.follow session (.handleReconciled i now))
      ((session.handling i gen result).handleReconciled gen result now).standing := by
  have seen : session.standing.checks[i]? = some (gen, true) := by simp [State.standing, found]
  by_cases current : gen = session.initGenerationRef
  · have reconciles : session.reconciles i = some result := by simp [State.reconciles, found, current]
    subst current
    have handled := State.standing_handleReconciled (session.handling i session.initGenerationRef result) result now
    rw [standing_handling] at handled
    simp only [Latest.follow, reconciles, Option.elim_some]
    exact (governs.handles seen result).of_standing handled
  · have reconciles : session.reconciles i = none := by simp [State.reconciles, found, current]
    have stale : gen ≠ (session.handling i gen result).initGenerationRef := current
    rw [State.handleReconciled_stale result now stale, standing_handling]
    simp only [Latest.follow, reconciles, Option.elim_none]
    exact governs.ignores seen

theorem governs_of_step {session after : State} {action : Action} {latest : Latest}
    (taken : step session action = some after) (commits : action ≠ .commit) (activates : action ≠ .becomeActive)
    (orderly : orderlyStep session action = true)
    (unselected : Unselected session) (governs : Governs latest session.standing) :
    Unselected after ∧ Governs (latest.follow session action) after.standing := by
  cases does_of_step taken with
  | commit => exact absurd rfl commits
  | becomeActive => exact absurd rfl activates
  | initializePlayer =>
    rw [State.standing_initializePlayer]
    exact ⟨unselected, governs.starts⟩
  | clearPlayer => exact ⟨unselected, governs.clears⟩
  | loadAccess found accessed =>
    rw [State.standing_setLoad _ _ found]
    exact ⟨unselected, governs⟩
  | @loadResume i load outcome found resumed =>
    refine ⟨?_, governs_of_loadResume found resumed orderly governs⟩
    rw [Unselected, writes_loadResume]
    exact unselected
  | reconcileEffect painted first =>
    obtain ⟨through, idle⟩ := Bool.and_eq_true_iff.mp orderly
    rw [State.standing_reconcileEffect]
    refine ⟨unselected, governs.reconciles painted first ?_ (Option.isNone_iff_eq_none.mp idle)⟩
    intro member
    obtain ⟨load, inFlight, own⟩ := List.mem_map.mp member
    have superseded : load.gen ≠ session.initGenerationRef := by
      simpa using List.all_eq_true.mp through load inFlight
    exact superseded own
  | checkFetched found => exact ⟨unselected, governs.of_standing (State.standing_setPhase _ _ _ found)⟩
  | checkAccessed found => exact ⟨unselected, governs.of_standing (State.standing_setPhase _ _ _ found)⟩
  | checkWritten found => exact ⟨unselected, governs.of_standing (State.standing_setPhase _ _ _ found)⟩
  | @checkCompared _ _ _ _ outcome found _ _ =>
    cases outcome <;> exact ⟨unselected, governs.of_standing (State.standing_setPhase _ _ _ found)⟩
  | checkAdopted found => exact ⟨unselected, governs.of_standing (State.standing_setPhase _ _ _ found)⟩
  | handleReconciled found => exact ⟨unselected_handleReconciled unselected, governs_of_handled found governs⟩
  | handleArchetypeSelected => cases orderly
  | selectionRetries => cases orderly
  | selectionChecked => cases orderly
  | setPlayerAndSave => cases orderly
  | writeAccess found =>
    have kept := unselected _ (List.mem_of_getElem? found)
    exact ⟨Tasks.forall_mem_set unselected kept, governs⟩
  | writeResume found =>
    have kept := unselected _ (List.mem_of_getElem? found)
    rw [State.standing_writeResume _ kept]
    exact ⟨Tasks.forall_mem_eraseIdx unselected, governs⟩
  | cloudBecomes => exact ⟨unselected, governs⟩

theorem governs_start (saved : Option (SaveData × ℤ)) (cloud : Option CloudRecord) :
    Governs .cleared (start saved cloud).standing where
  generations := ⟨fun _ member => (by cases member), List.nodup_nil, fun _ member => (by cases member),
    fun member => (by cases member), Nat.zero_le 1⟩
  backed := fun _ => rfl
  phase := .cleared rfl rfl List.not_mem_nil List.not_mem_nil

namespace Mounted

/-- An orderly step of the hook, or another turn; the app becomes active only when the ref of the
archetype screen is up to date. -/
def orderly (mounted : Mounted) : Turn → Bool
  | .hook action => orderlyStep mounted.session action
  | .change true =>
    mounted.session.playerRef.isSome || !mounted.needsArchetypeRef || mounted.session.needsArchetypeSelection
  | .change false | .timer _ | .mirror => true

/-- Every load has ended, and every commit has run or has been cancelled. -/
def settled (mounted : Mounted) : Bool :=
  mounted.session.loads.isEmpty && mounted.commits.armed.all fun shot => shot.fired

variable {mounted after : Mounted} {turn : Turn}

theorem mirrored_of_orderly (orderly : mounted.orderly (.change true) = true) : mounted.Mirrored := by
  intro absent archetype
  simpa [Mounted.orderly, absent, archetype] using orderly

theorem governs_of_turn (deferring : mounted.Deferring) (orderly : mounted.orderly turn = true)
    (taken : mounted.step turn = some after)
    (governed : Unselected mounted.session ∧ Governs mounted.latest mounted.session.standing) :
    Unselected after.session ∧ Governs after.latest after.session.standing := by
  apply deferring.keeps (motive := fun latest session => Unselected session ∧ Governs latest session.standing) taken
  · rintro rfl
    exact mirrored_of_orderly orderly
  · rintro action session rfl stepped commits activates
    exact governs_of_step stepped commits activates orderly governed.1 governed.2
  · intro latest session commit pending ⟨unselected, governs⟩
    refine ⟨?_, ?_⟩
    · obtain ⟨_, _, painted⟩ := session.commit_eq commit
      rw [painted]
      exact unselected
    · rw [State.standing_commit]
      exact governs.commits pending
  · intro latest session ⟨unselected, governs⟩
    refine ⟨?_, ?_⟩
    · obtain ⟨_, _, painted⟩ := session.becomeActive_eq
      rw [painted]
      exact unselected
    · rw [State.standing_becomeActive]
      exact governs.activates
  · exact governed

theorem Deferring.pendingCommit_of_settled (deferring : mounted.Deferring) (settled : mounted.settled = true) :
    mounted.session.pendingCommit = none := by
  rw [deferring.pending]
  exact OneShot.Shots.waiting_of_fired (List.all_eq_true.mp (Bool.and_eq_true_iff.mp settled).2) _

theorem outcome_of_settled (deferring : mounted.Deferring) (governs : Governs mounted.latest mounted.session.standing)
    (settled : mounted.settled = true) : mounted.latest.outcome = some mounted.session.shown := by
  have idle : mounted.session.standing.pendingCommit = none := deferring.pendingCommit_of_settled settled
  generalize mounted.latest = latest at governs ⊢
  cases governs.phase with
  | cleared shown => exact congrArg some shown.symm
  | loading underway =>
    have none : mounted.session.loads = [] := List.isEmpty_iff.mp (Bool.and_eq_true_iff.mp settled).1
    simp [State.standing, none] at underway
  | waiting _ pending => cases idle.symm.trans pending
  | painted _ _ outcome => exact outcome

variable {saved : Option (SaveData × ℤ)} {cloud : Option CloudRecord} {active : Bool} {turns : List Turn}
variable {final : Mounted}

theorem run_orderly_outcome
    (run : Run step (fun mounted turn => mounted.orderly turn = true) (mount saved cloud active) turns final)
    (settled : final.settled = true) : final.latest.outcome = some final.session.shown := by
  have kept := run.invariant
    (fun mounted => mounted.Deferring ∧ Unselected mounted.session ∧ Governs mounted.latest mounted.session.standing)
    ⟨deferring_mount saved cloud active, fun _ member => (by cases member), governs_start saved cloud⟩
    (fun _ _ _ ⟨deferring, governed⟩ orderly taken =>
      ⟨deferring.step taken, governs_of_turn deferring orderly taken governed⟩)
  exact outcome_of_settled kept.1 kept.2.2 settled

/-- Superseded calls change nothing that is live or shown, no commit runs twice or after it was
cancelled, and along orderly runs a settled hook shows the outcome of the latest call. -/
theorem run_latest_decides (saved : Option (SaveData × ℤ)) (cloud : Option CloudRecord) (active : Bool) :
    (∀ turns final, Run step (fun _ _ => True) (mount saved cloud active) turns final →
      (∀ turn after, final.Older turn → final.step turn = some after → after.session.shown = final.session.shown) ∧
      (∀ i, final.OlderCommit i → (final.listener i).session.shown = final.session.shown) ∧
      final.commits.ran.Nodup ∧ ∀ i ∈ final.commits.cancelled, i ∉ final.commits.ran) ∧
    ∀ turns final, Run step (fun mounted turn => mounted.orderly turn = true) (mount saved cloud active) turns final →
      final.settled = true → final.latest.outcome = some final.session.shown := by
  constructor
  · intro turns final run
    have accounted := (run_deferring run).accounted
    refine ⟨fun turn after older taken => shown_of_older older taken, fun i older => ?_,
      accounted.once, accounted.apart⟩
    exact shown_conclude older (OneShot.Shots.tries_notify _ i)
  · intro turns final run settled
    exact run_orderly_outcome run settled

def overlappingLoads : List Turn :=
  [.hook .initializePlayer, .hook .initializePlayer, .hook (.loadAccess 0 true), .hook (.loadAccess 1 true),
    .hook (.loadResume 0), .hook (.loadResume 0), .timer 0, .change true, .mirror, .hook .reconcileEffect,
    .hook (.checkFetch 0 true), .hook (.checkAccess 0 true), .hook (.checkResume 0), .hook (.checkAccess 0 true),
    .hook (.checkResume 0), .hook (.handleReconciled 0 9)]

theorem run_latest_decides_overlappingLoads : ∃ final,
    Run step (fun mounted turn => mounted.orderly turn = true)
      (mount (some (veteranSave, 3)) (some veteranRecord) false) overlappingLoads final ∧
      final.settled = true ∧ final.commits.ran = [0] ∧ final.session.playerRef.isSome = true ∧
      final.latest.outcome = some final.session.shown := by
  have executed : ∃ final, Run step (fun mounted turn => mounted.orderly turn = true)
      (mount (some (veteranSave, 3)) (some veteranRecord) false) overlappingLoads final ∧
      final.settled = true ∧ final.commits.ran = [0] ∧ final.session.playerRef.isSome = true :=
    Run.exists_of_exec (by decide +kernel)
  obtain ⟨final, run, settled, ran, live⟩ := executed
  exact ⟨final, run, settled, ran, live, (run_latest_decides _ _ _).2 _ _ run settled⟩

def failedReload : List Turn :=
  [.hook .initializePlayer, .hook (.loadAccess 0 true), .hook (.loadResume 0), .timer 0, .mirror,
    .hook .initializePlayer, .hook (.loadAccess 0 false), .hook (.loadResume 0), .hook (.loadAccess 0 true),
    .hook (.loadResume 0), .timer 1, .mirror]

/-- The player of the first load stays live and on screen, together with archetype selection, where
the second load alone comes to archetype selection without a player. -/
theorem run_failedReload_keepsOlder : ∃ final,
    Run step (fun _ _ => True) (mount (some (veteranSave, 3)) none true) failedReload final ∧
      final.settled = true ∧ final.session.playerRef.isSome = true ∧ final.session.player.isSome = true ∧
      final.session.needsArchetypeSelection = true ∧
      final.latest.outcome.any (fun shown => shown.playerRef.isNone && shown.player.isNone) = true ∧
      final.latest.outcome ≠ some final.session.shown := by
  have executed : ∃ final, Run step (fun _ _ => True) (mount (some (veteranSave, 3)) none true) failedReload final ∧
      final.settled = true ∧ final.session.playerRef.isSome = true ∧ final.session.player.isSome = true ∧
      final.session.needsArchetypeSelection = true ∧
      final.latest.outcome.any (fun shown => shown.playerRef.isNone && shown.player.isNone) = true :=
    Run.exists_of_exec (by decide +kernel)
  obtain ⟨final, run, settled, live, painted, archetype, alone⟩ := executed
  refine ⟨final, run, settled, live, painted, archetype, alone, fun same => ?_⟩
  rw [same] at alone
  have gone : final.session.playerRef.isNone = true := (Bool.and_eq_true_iff.mp alone).1
  rw [Option.isNone_iff_eq_none.mp gone] at live
  cases live

end Mounted

end Session

end WalkingRpg

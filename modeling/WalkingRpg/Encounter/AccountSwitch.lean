import WalkingRpg.Encounter.HeldFoe
import WalkingRpg.Encounter.WalkSummary

/-! What an account change leaves of the worthy foe and the walk summary.

`clearEncounter` clears the memory and the removal of the keys clears the stores. Neither waits for
the storage calls in flight, and no call looks for an account change when it resumes, so that each
of them can bring back what was cleared. When nothing is in flight from the first clear to the end
of the second, everything of the previous account is gone for good.
-/

set_option autoImplicit false

namespace WalkingRpg

open Runs (Run)

def WalkSummary.Content.eids : WalkSummary.Content → List Nat
  | .entries log => log.map WalkSummaryEntry.eid
  | .corrupted => [0]

namespace HeldFoes

structure Idle (foes : HeldFoes) : Prop where
  refresh : foes.refresh.isNone = true
  holds : foes.holds.length = 0
  engages : foes.engages.length = 0

instance (foes : HeldFoes) : Decidable foes.Idle :=
  decidable_of_iff (foes.refresh.isNone = true ∧ foes.holds.length = 0 ∧ foes.engages.length = 0)
    ⟨fun ⟨refresh, holds, engages⟩ => ⟨refresh, holds, engages⟩,
      fun idle => ⟨idle.refresh, idle.holds, idle.engages⟩⟩

end HeldFoes

namespace Walk

/-- The encounters whose data the app has in memory. -/
def memory (walk : Walk) : List Nat :=
  (walk.hook.combat.encounterRef.map EncounterObject.eid).toList ++
    (walk.hook.foes.heldFoe.map EncounterObject.eid).toList ++
    (walk.walkSummary.getD []).map WalkSummaryEntry.eid

/-- The encounters whose data is under the two keys. -/
def storage (walk : Walk) : List Nat :=
  (walk.hook.foes.pendingStore.map StoredFoe.eid).toList ++ (walk.log.content.map WalkSummary.Content.eids).getD []

structure Idle (walk : Walk) : Prop where
  foes : walk.hook.foes.Idle
  chain : walk.log.writeChain.length = 0
  check : walk.check.isNone = true

instance (walk : Walk) : Decidable walk.Idle :=
  decidable_of_iff (walk.hook.foes.Idle ∧ walk.log.writeChain.length = 0 ∧ walk.check.isNone = true)
    ⟨fun ⟨foes, chain, check⟩ => ⟨foes, chain, check⟩, fun idle => ⟨idle.foes, idle.chain, idle.check⟩⟩

end Walk

namespace Hook

variable {hook after : Hook} {action : Action}

inductive Rests (foes : HeldFoes) (action : Action) : HeldFoes → Prop where
  | same : Rests foes action foes
  | rendered : Rests foes action { foes with rendered := foes.heldFoe }
  | hidden : action = .switchAccount → Rests foes action { foes with heldFoe := none }
  | wiped : action = .wipeStore → Rests foes action { foes with pendingStore := none }

theorem Rests.of_eq (same : after.foes = hook.foes) : Rests hook.foes action after.foes := by
  rw [same]
  exact .same

theorem rests_of_gated {tick : Tick} {currentPlayer : Option Player} {call : Option PassiveResolution}
    (idle : after.foes.Idle) (gate : Gated hook tick currentPlayer after call) :
    after.foes = hook.foes := by
  cases gate with
  | fled => exact keeps_handleFlee.foes
  | passed => rfl
  | rolled _ _ _ route =>
    cases route with
    | presented => rfl
    | queued =>
      have queued := idle.holds
      simp [setHolds, withFoes] at queued
    | skipped tier => exact (keeps_resolvePassiveEncounter _ tier _ _).foes

theorem rests_of_step (idle : hook.foes.Idle) (settled : after.foes.Idle) (taken : hook.step action = some after) :
    Rests hook.foes action after.foes := by
  have untasked {Task : Type} {tasks : List Task} {i : Nat} {task : Task} (empty : tasks.length = 0) :
      tasks[i]? ≠ some task := by
    rw [List.length_eq_zero_iff.mp empty]
    simp
  have unread {task : RefreshTask} : hook.foes.refresh ≠ some task := by
    rw [Option.isNone_iff_eq_none.mp idle.refresh]
    simp
  cases does_of_step taken with
  | tick tick =>
    have walked : Keeps hook (hook.walk tick.incremental) := keeps_walk tick.incremental
    exact .of_eq ((rests_of_gated settled (gated _ tick hook.playerRef)).trans walked.foes)
  | fight loot => exact .of_eq (keeps_handleFight loot).foes
  | ability ability draw loot => exact .of_eq (foes_handleAbility ability draw loot)
  | flee => exact .of_eq keeps_handleFlee.foes
  | autoResolve loot => exact .of_eq (keeps_handleAutoResolve loot).foes
  | closeCombat =>
    unfold handleCloseCombatModal
    split <;> exact .same
  | fireKillBeat loot armed => exact .of_eq (keeps_handleVictory _ loot).foes
  | fireCounter draw armed => exact .of_eq (keeps_fireCounter _ draw).foes
  | refresh =>
    have read : hook.refreshHeldFoe.foes = hook.foes ∨ hook.refreshHeldFoe.foes.refresh.isNone = false := by
      unfold refreshHeldFoe
      split
      · exact .inl rfl
      · exact .inr rfl
    rcases read with same | reading
    · exact .of_eq same
    · cases reading.symm.trans settled.refresh
  | engage =>
    have tapped : hook.engageHeldFoe.foes = hook.foes ∨ hook.engageHeldFoe.foes.engages.length ≠ 0 := by
      unfold engageHeldFoe
      split
      · exact .inr (by simp [withFoes])
      · exact .inl rfl
    rcases tapped with same | tapped
    · exact .of_eq same
    · exact absurd settled.engages tapped
  | refreshRead success read => exact absurd read unread
  | refreshResume now read => exact absurd read unread
  | engageClear success task => exact absurd task (untasked idle.engages)
  | engageResume task => exact absurd task (untasked idle.engages)
  | holdRead success task => exact absurd task (untasked idle.holds)
  | holdResume draw loot task => exact absurd task (untasked idle.holds)
  | holdWrite success task => exact absurd task (untasked idle.holds)
  | holdFinish draw loot task => exact absurd task (untasked idle.holds)
  | render => exact .rendered
  | switchAccount => exact .hidden rfl
  | wipeStore => exact .wiped rfl
  | minimize | expand | fireReveal | dismissReward | setPlayer => exact .same

theorem eid_of_active {object : EncounterObject} (idle : hook.foes.Idle) (taken : hook.step action = some after)
    (active : object ∈ after.combat.encounterRef) :
    (∃ former ∈ hook.combat.encounterRef, former.eid = object.eid) ∨ object.eid = hook.nextEncounter := by
  have moves := moves_of_step taken
  change object ∈ after.core.active at active
  generalize after.core = core at moves active
  cases moves with
  | stay | fizzled | turnEnded | struck | dotKilled | autoRefused => exact .inl ⟨object, active, rfl⟩
  | cleared | paid | autoPaid | fled | defeated => cases active
  | accepted _ ready | finished ready =>
    cases active
    exact .inl ⟨_, ready.active, rfl⟩
  | presented _ _ rolled =>
    cases active
    exact .inr rolled
  | engaged _ task =>
    have empty := List.length_eq_zero_iff.mp idle.engages
    rw [empty] at task
    cases task

end Hook

namespace Walk

variable {walk next cleared final : Walk} {action : Action} {eid boundary : Nat}

theorem mentions_of_mem_memory (member : eid ∈ walk.memory) : walk.Mentions eid := by
  simp only [memory, List.mem_append, Option.mem_toList, Option.map_eq_some_iff] at member
  rcases member with (⟨object, active, same⟩ | ⟨object, card, same⟩) | shown
  · exact .hook (.inl ⟨object, .inl active, same⟩)
  · exact .hook (.inl ⟨object, .inr (.inl card), same⟩)
  · obtain ⟨entry, inside, same⟩ := List.mem_map.mp shown
    cases summary : walk.walkSummary with
    | none => simp [summary] at inside
    | some entries => exact .shown summary (by simpa [summary] using inside) same

theorem mentions_of_mem_storage (member : eid ∈ walk.storage) : walk.Mentions eid := by
  rcases List.mem_append.mp member with foe | logged
  · simp only [Option.mem_toList, Option.map_eq_some_iff] at foe
    obtain ⟨record, held, same⟩ := foe
    exact .hook (.inr ⟨record, .inl held, same⟩)
  · cases content : walk.log.content with
    | none => simp [content] at logged
    | some found =>
      simp only [content, Option.map_some, Option.getD_some] at logged
      cases found with
      | entries log =>
        obtain ⟨entry, inside, same⟩ := List.mem_map.mp logged
        exact .logged (.stored content inside) same
      | corrupted => exact .corrupted content (List.mem_singleton.mp logged)

theorem mem_of_mentions (idle : walk.Idle) (rendered : walk.hook.foes.rendered = walk.hook.foes.heldFoe)
    (mentioned : walk.Mentions eid) : eid ∈ walk.memory ++ walk.storage := by
  have refresh := Option.isNone_iff_eq_none.mp idle.foes.refresh
  have holds := List.length_eq_zero_iff.mp idle.foes.holds
  have engages := List.length_eq_zero_iff.mp idle.foes.engages
  have chain := List.length_eq_zero_iff.mp idle.chain
  have check := Option.isNone_iff_eq_none.mp idle.check
  rw [List.mem_append]
  cases mentioned with
  | hook held =>
    rcases held with ⟨object, active | card | shown | ⟨task, member, _⟩ | ⟨task, member, _⟩, rfl⟩ |
      ⟨record, stored | ⟨found, read, _⟩ | ⟨task, member, _⟩, rfl⟩
    · exact .inl (by simp [memory, Option.mem_def.mp active])
    · exact .inl (by simp [memory, Option.mem_def.mp card])
    · exact .inl (by simp [memory, ← rendered, Option.mem_def.mp shown])
    · simp [holds] at member
    · simp [engages] at member
    · exact .inr (by simp [storage, Option.mem_def.mp stored])
    · simp [refresh] at read
    · simp [holds] at member
  | logged held same =>
    cases held with
    | stored content member =>
      refine .inr (List.mem_append_right _ ?_)
      rw [content]
      exact List.mem_map.mpr ⟨_, member, same⟩
    | queued member => simp [chain] at member
  | corrupted content earlier => exact .inr (by simp [storage, content, earlier, WalkSummary.Content.eids])
  | shown summary member same => exact .inl (by simp [memory, summary]; exact .inr (.inr ⟨_, member, same⟩))
  | checked found => simp [check] at found

theorem clearedAt_of_step (taken : walk.step action = some next) :
    next.clearedAt = walk.clearedAt ∨ next.clearedAt = walk.hook.nextEncounter := by
  cases takes_of_step taken with
  | @hook action after now =>
    have recorded (walk : Walk) (call : Option PassiveResolution) : (walk.record call now).clearedAt = walk.clearedAt := by
      cases call <;> rfl
    change (((walk.follow action).record _ now).clearedAt = _ ∨ ((walk.follow action).record _ now).clearedAt = _)
    rw [recorded]
    cases action with
    | switchAccount => exact .inr rfl
    | _ => exact .inl rfl
  | checkWalkSummary =>
    unfold checkWalkSummary
    split <;> exact .inl rfl
  | access =>
    unfold deliver
    split <;> exact .inl rfl
  | present =>
    unfold present
    split
    · exact .inl rfl
    · split
      · exact .inl (clearedAt_reappend ..)
      · exact .inl rfl
  | reappend => exact .inl (clearedAt_reappend ..)
  | dismissWalkSummary => exact .inl rfl
  | removeKeys success => cases success <;> exact .inl rfl

structure Numbered (walk : Walk) : Prop where
  mentioned : ∀ eid, walk.Mentions eid → eid < walk.hook.nextEncounter
  cleared : walk.clearedAt ≤ walk.hook.nextEncounter

theorem Numbered.start (player : Option Player) (stored : Option Encounter)
    (content : Option WalkSummary.Content) : Numbered (Walk.start player stored content) where
  mentioned eid mentioned := by
    suffices first : eid = 0 by rw [first]; exact Nat.one_pos
    cases mentioned with
    | hook held =>
      rcases held with ⟨object, present, _⟩ | ⟨record, held, same⟩
      · exact absurd present (Hook.start_no_object player stored object)
      · rw [← same]
        exact (Hook.start_stored held).2
    | logged held same =>
      cases held with
      | @stored entries found member =>
        obtain ⟨earlier, _, kept⟩ := Option.map_eq_some_iff.mp found
        cases earlier with
        | entries log =>
          cases kept
          obtain ⟨entry, _, rfl⟩ := List.mem_map.mp member
          exact same.symm
        | corrupted => cases kept
      | queued member => cases member
    | corrupted _ earlier => exact earlier
    | shown summary => cases summary
    | checked found => cases found
  cleared := Nat.zero_le _

theorem Numbered.step (numbered : walk.Numbered) (taken : walk.step action = some next) : next.Numbered where
  mentioned eid mentioned := by
    have grown := nextEncounter_mono taken
    rcases mentions_of_step taken mentioned with old | ⟨rolled, counted⟩
    · have := numbered.mentioned eid old
      omega
    · omega
  cleared := by
    have grown := nextEncounter_mono taken
    have := numbered.cleared
    rcases clearedAt_of_step taken with same | same <;> omega

/-- Nothing of an encounter below the boundary is anywhere, and new encounters are above it. -/
structure Beyond (boundary : Nat) (walk : Walk) : Prop where
  mentioned : ∀ eid, walk.Mentions eid → boundary ≤ eid
  counted : boundary ≤ walk.hook.nextEncounter

theorem Beyond.step (beyond : Beyond boundary walk) (taken : walk.step action = some next) :
    Beyond boundary next where
  mentioned eid mentioned := by
    have := beyond.counted
    rcases mentions_of_step taken mentioned with old | ⟨rolled, _⟩
    · exact beyond.mentioned eid old
    · omega
  counted := beyond.counted.trans (nextEncounter_mono taken)

theorem unresolved_of_idle {action : Hook.Action} {after : Hook} {now : ℚ} {call : Option PassiveResolution}
    (settled : ({ (walk.follow action).record call now with hook := after } : Walk).Idle) : call = none := by
  cases call with
  | none => rfl
  | some call =>
    have queued := settled.chain
    simp [record, WalkSummary.Log.push] at queued

theorem storage_of_hook {action : Hook.Action} {after : Hook} (idle : walk.Idle) (settled : after.foes.Idle)
    (other : action ≠ .wipeStore) (taken : walk.hook.step action = some after) :
    ({ walk.follow action with hook := after } : Walk).storage = walk.storage := by
  have kept : (walk.follow action).log = walk.log := by cases action <;> rfl
  have same : after.foes.pendingStore = walk.hook.foes.pendingStore := by
    have rests := Hook.rests_of_step idle.foes settled taken
    generalize after.foes = foes at rests
    cases rests with
    | same | rendered | hidden => rfl
    | wiped wiped => exact absurd wiped other
  simp only [storage, kept, same]

theorem memory_of_hook {action : Hook.Action} {after : Hook} (idle : walk.Idle) (settled : after.foes.Idle)
    (taken : walk.hook.step action = some after)
    (member : eid ∈ ({ walk.follow action with hook := after } : Walk).memory) :
    eid ∈ walk.memory ∨ eid = walk.hook.nextEncounter := by
  have card : ∀ object ∈ after.foes.heldFoe, object ∈ walk.hook.foes.heldFoe := by
    intro object held
    have rests := Hook.rests_of_step idle.foes settled taken
    generalize after.foes = foes at rests held
    cases rests with
    | same | rendered | wiped => exact held
    | hidden => cases held
  have summary : ∀ entry ∈ (walk.follow action).walkSummary.getD [], entry ∈ walk.walkSummary.getD [] := by
    intro entry shown
    cases action with
    | switchAccount => cases shown
    | _ => exact shown
  simp only [memory, List.mem_append, Option.mem_toList, Option.map_eq_some_iff, List.mem_map] at member ⊢
  rcases member with (⟨object, active, rfl⟩ | ⟨object, held, rfl⟩) | ⟨entry, shown, rfl⟩
  · rcases Hook.eid_of_active idle.foes taken active with ⟨former, here, same⟩ | rolled
    · exact .inl (.inl (.inl ⟨former, here, same⟩))
    · exact .inr rolled
  · exact .inl (.inl (.inr ⟨object, card object held, rfl⟩))
  · exact .inl (.inr ⟨entry, summary entry shown, rfl⟩)

def Action.clearsMemory : Action → Bool
  | .hook .switchAccount _ => true
  | _ => false

def Action.clearsStorage : Action → Bool
  | .removeKeys success => success
  | _ => false

/-- What has been cleared in an idle state, after some of the actions since `issued` encounters were rolled. -/
structure Clearing (issued : Nat) (taken : List Action) (walk : Walk) : Prop where
  counted : issued ≤ walk.hook.nextEncounter
  cleared : walk.clearedAt ≤ walk.hook.nextEncounter
  memory : taken.any Action.clearsMemory = true →
    issued ≤ walk.clearedAt ∧ ∀ eid ∈ walk.memory, walk.clearedAt ≤ eid
  storage : taken.any Action.clearsStorage = true → walk.storage = []

variable {issued : Nat} {taken : List Action}

theorem Clearing.of_parts (clearing : Clearing issued taken walk)
    (counted : walk.hook.nextEncounter ≤ next.hook.nextEncounter)
    (cleared : next.clearedAt = if action.clearsMemory then walk.hook.nextEncounter else walk.clearedAt)
    (memory : ∀ eid ∈ next.memory, action.clearsMemory = false ∧ (eid ∈ walk.memory ∨ eid = walk.hook.nextEncounter))
    (storage : next.storage = if action.clearsStorage then [] else walk.storage) :
    Clearing issued (taken ++ [action]) next := by
  have before := clearing.counted
  have bounded := clearing.cleared
  constructor
  · omega
  · rw [cleared]
    split <;> omega
  · intro done
    cases clears : action.clearsMemory with
    | true =>
      rw [clears, if_pos rfl] at cleared
      refine ⟨by omega, fun eid member => ?_⟩
      cases clears.symm.trans (memory eid member).1
    | false =>
      rw [clears, if_neg Bool.false_ne_true] at cleared
      rw [List.any_append, List.any_cons, clears, List.any_nil, Bool.or_false, Bool.or_false] at done
      obtain ⟨since, above⟩ := clearing.memory done
      refine ⟨by omega, fun eid member => ?_⟩
      rcases (memory eid member).2 with old | rolled
      · have := above eid old
        omega
      · omega
  · intro done
    rw [storage]
    cases clears : action.clearsStorage with
    | true => rfl
    | false =>
      rw [List.any_append, List.any_cons, clears, List.any_nil, Bool.or_false, Bool.or_false] at done
      exact clearing.storage done

theorem Clearing.step (clearing : Clearing issued taken walk) (idle : walk.Idle) (settled : next.Idle)
    (done : walk.step action = some next) : Clearing issued (taken ++ [action]) next := by
  have counted := nextEncounter_mono done
  have chain := List.length_eq_zero_iff.mp idle.chain
  have check := Option.isNone_iff_eq_none.mp idle.check
  cases takes_of_step done with
  | @hook action after now other stepped =>
    have unresolved := unresolved_of_idle settled
    rw [unresolved] at settled counted ⊢
    refine clearing.of_parts counted ?_ (fun eid member => ?_) ?_
    · cases action <;> rfl
    · have known := memory_of_hook idle settled.foes stepped member
      cases action with
      | switchAccount =>
        cases Option.some.inj stepped
        cases member
      | _ => exact ⟨rfl, known⟩
    · exact storage_of_hook idle settled.foes other stepped
  | checkWalkSummary first view =>
    unfold checkWalkSummary at settled ⊢
    by_cases refused : (walk.check.isSome || walk.blocked view) = true
    · rw [if_pos refused]
      exact clearing.of_parts le_rfl rfl (fun eid member => ⟨rfl, .inl member⟩) rfl
    · rw [if_neg refused] at settled
      cases settled.check
  | access accessed => simp [WalkSummary.Log.access, chain] at accessed
  | present found => simp [check] at found
  | reappend found => simp [check] at found
  | dismissWalkSummary =>
    refine clearing.of_parts le_rfl rfl (fun eid member => ⟨rfl, .inl (List.mem_append_left _ ?_)⟩) rfl
    simpa [Walk.memory, Walk.dismissWalkSummary] using member
  | removeKeys success =>
    cases success with
    | false => exact clearing.of_parts le_rfl rfl (fun eid member => ⟨rfl, .inl member⟩) rfl
    | true => exact clearing.of_parts le_rfl rfl (fun eid member => ⟨rfl, .inl member⟩) rfl

/-- After two clears during which nothing is in flight, neither memory nor the keys ever hold data of an
encounter from before the clears. -/
theorem run_clears_erase {player : Option Player} {stored : Option Encounter}
    {content : Option WalkSummary.Content} {earlier clears later : List Action}
    (before : Run step (fun _ _ => True) (start player stored content) earlier walk)
    (clearing : Run step (fun walk _ => walk.Idle) walk clears cleared)
    (memoryCleared : clears.any Action.clearsMemory = true)
    (storageCleared : clears.any Action.clearsStorage = true)
    (idle : cleared.Idle) (rendered : cleared.hook.foes.rendered = cleared.hook.foes.heldFoe)
    (after : Run step (fun _ _ => True) cleared later final) :
    (∀ eid, walk.Mentions eid → eid < cleared.clearedAt) ∧
      ∀ eid ∈ final.memory ++ final.storage, cleared.clearedAt ≤ eid := by
  have numbered : walk.Numbered :=
    before.invariant Numbered (.start player stored content) fun _ _ _ inv _ taken => inv.step taken
  have done : Clearing walk.hook.nextEncounter clears cleared := by
    have whenIdle := clearing.history (fun taken walk' => walk'.Idle → Clearing walk.hook.nextEncounter taken walk')
      (fun _ => ⟨le_rfl, numbered.cleared, fun taken => (by cases taken), fun taken => (by cases taken)⟩)
      fun _ _ _ _ inv idle taken settled => (inv idle).step idle settled taken
    exact whenIdle idle
  obtain ⟨since, above⟩ := done.memory memoryCleared
  have beyond : Beyond cleared.clearedAt cleared := by
    refine ⟨fun eid mentioned => ?_, done.cleared⟩
    rcases List.mem_append.mp (mem_of_mentions idle rendered mentioned) with inMemory | inStorage
    · exact above eid inMemory
    · rw [done.storage storageCleared] at inStorage
      cases inStorage
  have kept : Beyond cleared.clearedAt final :=
    after.invariant (Beyond cleared.clearedAt) beyond fun _ _ _ inv _ taken => inv.step taken
  refine ⟨fun eid mentioned => (numbered.mentioned eid mentioned).trans_le since, fun eid member => ?_⟩
  rcases List.mem_append.mp member with inMemory | inStorage
  · exact kept.mentioned eid (mentions_of_mem_memory inMemory)
  · exact kept.mentioned eid (mentions_of_mem_storage inStorage)

open Hook (eliteTick holdElite veteran)

def commonTick : Hook.Tick := { eliteTick with roll := some ⟨1, true, ⟨0, 0⟩, fun _ => 0⟩ }

def onHook (now : ℚ) (actions : List Hook.Action) : List Action := actions.map fun action => .hook action now

def bothClears : List Action := [.hook .switchAccount 40006, .removeKeys true]

def logCommon (now : ℚ) : List Action := [.hook (.tick commonTick) now, .access true, .access true]

def nextAccount : List Action :=
  .hook (.setPlayer (Player.new .martial 1)) 40008 :: logCommon 80000 ++
    [Action.checkWalkSummary true, .access true, .access true, .checkResume]

def Leaves (walk : Walk) : Prop :=
  (Runs.exec step (fun walk _ => walk.Idle) walk (bothClears ++ [.hook .render 40007])).any (fun cleared =>
    decide (cleared.Idle ∧ cleared.hook.foes.rendered = cleared.hook.foes.heldFoe ∧
      (Runs.exec step (fun _ _ => True) cleared nextAccount).any (fun final =>
        decide (final.memory = [3])) = true)) = true

instance : DecidablePred Leaves := fun _ => inferInstanceAs (Decidable (_ = _))

theorem run_clears_erase_nextAccount :
    ∃ walk cleared final, Run step (fun _ _ => True) (start veteran none none) (onHook 5 holdElite ++ logCommon 40000) walk ∧
      walk.memory = [1] ∧ walk.storage = [1, 2] ∧
      Run step (fun walk _ => walk.Idle) walk (bothClears ++ [.hook .render 40007]) cleared ∧
      Run step (fun _ _ => True) cleared nextAccount final ∧ final.memory = [3] ∧
      ∀ eid ∈ final.memory ++ final.storage, cleared.clearedAt ≤ eid := by
  have executed : ∃ walk, Run step (fun _ _ => True) (start veteran none none) (onHook 5 holdElite ++ logCommon 40000) walk ∧
      walk.memory = [1] ∧ walk.storage = [1, 2] ∧ Leaves walk := Run.exists_of_exec (by decide +kernel)
  obtain ⟨walk, before, inMemory, inStorage, leaves⟩ := executed
  obtain ⟨cleared, clearing, idle, rendered, follows⟩ := Run.exists_of_exec leaves
  obtain ⟨final, after, shown⟩ := Run.exists_of_exec follows
  have erased := run_clears_erase before clearing rfl rfl idle rendered after
  exact ⟨walk, cleared, final, before, inMemory, inStorage, clearing, after, shown, erased.2⟩

def appendAcrossClears : List Action :=
  [Action.hook (.tick commonTick) 40000, .access true] ++ bothClears ++ [Action.access true]

def holdAcrossClears : List Action :=
  onHook 40000 [.tick eliteTick, .holdRead 0 true, .holdResume 0 0 fun _ => none] ++ bothClears ++
    onHook 40010 [.holdWrite 0 true]

def refreshAcrossClears : List Action :=
  onHook 40000 (holdElite ++ [Hook.Action.refresh, .refreshRead true]) ++ bothClears ++
    onHook 40010 [.refreshResume 6]

def engageAcrossClears : List Action :=
  onHook 40000 (holdElite ++ [Hook.Action.engage]) ++ bothClears ++
    onHook 40010 [.engageClear 0 true, .engageResume 0]

def checkAcrossClears : List Action :=
  logCommon 40000 ++ [Action.checkWalkSummary true, .access true] ++ bothClears ++ [Action.access true, .checkResume]

/-- Every operation brings back what was cleared, on its own: an encounter below two was rolled before. -/
theorem run_acrossClears_resurrect :
    (∃ walk, Run step (fun _ _ => True) (start veteran none none) appendAcrossClears walk ∧
      walk.clearedAt = 2 ∧ walk.storage = [1]) ∧
    (∃ walk, Run step (fun _ _ => True) (start veteran none none) holdAcrossClears walk ∧
      walk.clearedAt = 2 ∧ walk.storage = [1]) ∧
    (∃ walk, Run step (fun _ _ => True) (start veteran none none) refreshAcrossClears walk ∧
      walk.clearedAt = 2 ∧ walk.memory = [1]) ∧
    (∃ walk, Run step (fun _ _ => True) (start veteran none none) engageAcrossClears walk ∧
      walk.clearedAt = 2 ∧ walk.memory = [1]) ∧
    ∃ walk, Run step (fun _ _ => True) (start veteran none none) checkAcrossClears walk ∧
      walk.clearedAt = 2 ∧ walk.memory = [1] :=
  ⟨Run.exists_of_exec (by decide +kernel), Run.exists_of_exec (by decide +kernel),
    Run.exists_of_exec (by decide +kernel), Run.exists_of_exec (by decide +kernel),
    Run.exists_of_exec (by decide +kernel)⟩

end Walk

end WalkingRpg

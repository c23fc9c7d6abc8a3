import WalkingRpg.Encounter.HeldFoe
import WalkingRpg.Encounter.Passive
import WalkingRpg.Encounter.Saves
import WalkingRpg.Library.Custody

/-! Where every rolled encounter is.

An encounter is in flight in a hold, active, held, or resolved. The hook does not record the
encounters it resolves passively, so they are kept beside it. Every orderly step moves at most
one encounter, forward.
-/

set_option autoImplicit false

namespace WalkingRpg

open Runs Tasks Custody

inductive Place where
  /-- A hold that has not written its record. -/
  | inFlight
  | active
  /-- In the store, or taken from it by an engagement in flight. -/
  | held
  | resolved
  deriving DecidableEq

inductive Place.Next : Place → Place → Prop where
  | overflowed : Next .inFlight .resolved
  | stored : Next .inFlight .held
  | engaged : Next .held .active
  | ended : Next .active .resolved

def Event.resolves : Event → Option Nat
  | .paid eid _ => some eid
  | .fled eid _ => some eid
  | .lost eid => some eid
  | _ => none

/-- The hook, with the encounters it has resolved passively. -/
structure Chronicle where
  hook : Hook
  passive : List Nat

namespace HeldFoes

/-- The foe is in the store, or an engagement has taken it from there. -/
def Holds (foes : HeldFoes) (eid : Nat) : Prop :=
  foes.pendingStore.map StoredFoe.eid = some eid ∨ ∃ task ∈ foes.engages, task.foe.eid = eid

end HeldFoes

namespace Hook

def resolvedFights (hook : Hook) : List Nat := hook.trace.filterMap Event.resolves

def Action.storageSucceeds : Action → Bool
  | .refreshRead success => success
  | .engageClear _ success => success
  | .holdRead _ success => success
  | .holdWrite _ success => success
  | _ => true

def Action.leavesAccount : Action → Bool
  | .switchAccount => true
  | .wipeStore => true
  | _ => false

/-- What a check before an await found still holds where the code acts on it. -/
def Undisturbed (hook : Hook) : Action → Prop
  | .holdWrite _ _ => hook.foes.pendingStore = none
  | .engageResume _ => hook.combat.encounterRef = none
  | .engage => hook.foes.rendered = hook.foes.heldFoe ∧ hook.foes.engages.length = 0
  | .refreshResume _ => ∀ record ∈ hook.foes.found,
      hook.foes.pendingStore = some record ∧ ∀ task ∈ hook.foes.holds, task.foe.eid ≠ record.eid
  | _ => True

instance (hook : Hook) (action : Action) : Decidable (hook.Undisturbed action) := by
  apply @Action.casesOn fun action => Decidable (hook.Undisturbed action)
  all_goals intros; dsimp only [Undisturbed]; infer_instance

end Hook

namespace Chronicle

open Hook

def At (chronicle : Chronicle) (eid : Nat) : Place → Prop
  | .inFlight => chronicle.hook.foes.Unwritten eid
  | .active => chronicle.hook.combat.encounterRef.map EncounterObject.eid = some eid
  | .held => chronicle.hook.foes.Holds eid
  | .resolved => eid ∈ chronicle.passive ∨ eid ∈ chronicle.hook.resolvedFights

def step (chronicle : Chronicle) (action : Action) : Option Chronicle :=
  (chronicle.hook.step action).map fun after =>
    ⟨after, chronicle.passive ++ (chronicle.hook.passiveResolution action).toList.map PassiveResolution.eid⟩

/-- One session, storage that works, and no disturbed check. -/
def Orderly (chronicle : Chronicle) (action : Action) : Prop :=
  action.storageSucceeds = true ∧ action.leavesAccount = false ∧ chronicle.hook.Undisturbed action

instance (chronicle : Chronicle) (action : Action) : Decidable (chronicle.Orderly action) :=
  inferInstanceAs (Decidable (_ ∧ _ ∧ _))

def start (player : Option Player) (stored : Option Encounter) : Chronicle := ⟨Hook.start player stored, []⟩

end Chronicle

namespace Hook

variable {hook before after : Hook} {action : Action}

inductive Outcome (before after : Hook) : Prop where
  | kept (active : after.combat.encounterRef.map EncounterObject.eid =
        before.combat.encounterRef.map EncounterObject.eid)
      (same : after.resolvedFights = before.resolvedFights) : Outcome before after
  | closed {encounter : EncounterObject} (active : before.combat.encounterRef = some encounter)
      (gone : after.combat.encounterRef = none)
      (logged : after.resolvedFights = before.resolvedFights ++ [encounter.eid]) : Outcome before after

structure Closes (before after : Hook) : Prop where
  foes : after.foes = before.foes
  counted : after.nextEncounter = before.nextEncounter
  outcome : Outcome before after

theorem Closes.kept (foes : after.foes = before.foes) (counted : after.nextEncounter = before.nextEncounter)
    (active : after.combat.encounterRef.map EncounterObject.eid =
      before.combat.encounterRef.map EncounterObject.eid)
    (same : after.resolvedFights = before.resolvedFights) : Closes before after :=
  ⟨foes, counted, .kept active same⟩

theorem Closes.refl (hook : Hook) : Closes hook hook := .kept rfl rfl rfl rfl

theorem Closes.of_eq {middle : Hook} (closes : Closes middle after) (foes : middle.foes = before.foes)
    (counted : middle.nextEncounter = before.nextEncounter)
    (active : middle.combat.encounterRef = before.combat.encounterRef)
    (same : middle.resolvedFights = before.resolvedFights) : Closes before after := by
  refine ⟨closes.foes.trans foes, closes.counted.trans counted, ?_⟩
  cases closes.outcome with
  | kept kept unchanged => exact .kept (kept.trans (by rw [active])) (unchanged.trans same)
  | closed here gone logged => exact .closed (active.symm.trans here) gone (logged.trans (by rw [same]))

@[simp] theorem resolvedFights_log (hook : Hook) (event : Event) :
    (hook.log event).resolvedFights = hook.resolvedFights ++ event.resolves.toList := by
  unfold resolvedFights log
  rw [List.filterMap_append]
  cases resolves : event.resolves <;> simp [resolves]

theorem resolvedFights_log_of_none (hook : Hook) {event : Event} (silent : event.resolves = none) :
    (hook.log event).resolvedFights = hook.resolvedFights := by
  rw [resolvedFights_log, silent]
  exact List.append_nil _

theorem closes_handleVictory (playerToUse : Option Player) (loot : LootRoll) :
    Closes hook (hook.handleVictory playerToUse loot) := by
  rcases hook.handleVictory_cases playerToUse loot with ⟨_, encounter, _, active, _, pays⟩ | ⟨_, same⟩
  · rw [pays]
    exact ⟨rfl, rfl, .closed active rfl (resolvedFights_log _ _)⟩
  · rw [same]
    exact .refl hook

theorem closes_handleFlee : Closes hook hook.handleFlee := by
  unfold handleFlee
  split
  · exact .refl hook
  · dsimp only
    split
    · rename_i active _
      exact ⟨rfl, rfl, .closed active rfl (resolvedFights_log _ _)⟩
    · rename_i active _
      exact ⟨rfl, rfl, .closed active rfl (resolvedFights_log _ _)⟩
    · rename_i idle
      exact .kept rfl rfl (by rw [idle]; rfl) rfl

theorem closes_handleFight (loot : LootRoll) : Closes hook (hook.handleFight loot) := by
  unfold handleFight
  split
  · split
    · exact .refl hook
    · split
      · exact closes_handleVictory _ loot
      · unfold openCombat
        dsimp only
        split <;> exact .kept rfl rfl rfl rfl
  · exact .refl hook

theorem closes_handleAutoResolve (loot : LootRoll) : Closes hook (hook.handleAutoResolve loot) := by
  unfold handleAutoResolve
  split
  · split
    · exact .refl hook
    · exact (closes_handleVictory _ loot).of_eq rfl rfl rfl (resolvedFights_log_of_none _ rfl)
  · exact .refl hook

theorem closes_handlePlayerDefeat (player : Player) : Closes hook (hook.handlePlayerDefeat player) := by
  unfold handlePlayerDefeat
  dsimp only
  split
  · rename_i active
    exact ⟨rfl, rfl, .closed active rfl (resolvedFights_log _ _)⟩
  · rename_i idle
    exact .kept rfl rfl (by rw [idle]; rfl) rfl

theorem closes_fireCounter (beat : CounterBeat) (draw : ℚ) : Closes hook (hook.fireCounter beat draw) := by
  unfold fireCounter
  split
  · split
    · exact .kept rfl rfl rfl rfl
    · unfold strike
      dsimp only
      split
      · exact (closes_handlePlayerDefeat _).of_eq rfl rfl rfl (resolvedFights_log_of_none _ rfl)
      · exact .kept rfl rfl rfl (resolvedFights_log_of_none _ rfl)
  · exact .kept rfl rfl rfl rfl

theorem closes_playAbility {encounter : EncounterObject} (ready : hook.core.Ready encounter) (player : Player)
    (state : CombatantState) (ability : Ability) (draw : ℚ) :
    Closes hook (hook.playAbility encounter player state ability draw).1 := by
  have active : hook.combat.encounterRef = some encounter := ready.active
  unfold playAbility
  dsimp only
  generalize playTurn player (hook.creatureOf encounter) state hook.combat.creatureCombatState ability
    hook.combat.creatureDodgeStreak draw = turn
  split
  · obtain ⟨_, _, ⟨_, won⟩ | ⟨_, struck⟩⟩ := resolvedTurn_cases ready turn
    · rw [won]
      refine .kept rfl rfl (by rw [active]; rfl) ?_
      exact (resolvedFights_log_of_none _ rfl).trans (resolvedFights_log_of_none _ rfl)
    · rw [struck]
      exact .kept rfl rfl (by rw [active]; rfl) (resolvedFights_log_of_none _ rfl)
  · obtain ⟨_, _, killed⟩ := dotKill_eq ready turn
    rw [killed]
    exact .kept rfl rfl rfl (resolvedFights_log_of_none _ rfl)

theorem closes_handleAbility (ability : Ability) (draw : ℚ) (loot : LootRoll) :
    Closes hook (hook.handleAbility ability draw loot).1 := by
  rcases hook.handleAbility_cases ability draw loot with
    refused | ⟨encounter, _, _, won⟩ | ⟨encounter, player, state, ready, _, _, _, _, played⟩
  · rw [refused]
    exact .refl hook
  · rw [won]
    have closes : Closes hook (hook.handleVictory none loot) := closes_handleVictory none loot
    refine ⟨closes.foes, closes.counted, ?_⟩
    cases closes.outcome with
    | kept active same => exact .kept active same
    | closed active gone same => exact .closed active gone same
  · rw [played]
    exact closes_playAbility ready player state ability draw

end Hook

namespace HeldFoes

/-- Every card, saved hold and engagement is about the foe in the store. -/
structure Tidy (foes : HeldFoes) : Prop where
  saved : ∀ task ∈ foes.holds, task.phase.persisted = true →
    foes.pendingStore.map StoredFoe.eid = some task.foe.eid
  written : ∀ task ∈ foes.holds, task.phase ≠ .saved false
  card : ∀ foe ∈ foes.heldFoe, foes.Holds foe.eid ∧ ∀ task ∈ foes.holds, task.foe.eid ≠ foe.eid
  single : foes.engages.length ≤ 1
  clearing : ∀ task ∈ foes.engages, task.phase = .clearing →
    foes.pendingStore.map StoredFoe.eid = some task.foe.eid
  cleared : ∀ task ∈ foes.engages, task.phase ≠ .cleared false
  engaged : ∀ task ∈ foes.engages, ∀ hold ∈ foes.holds, hold.foe.eid ≠ task.foe.eid

variable {foes : HeldFoes} {eid i : Nat} {foe : EncounterObject}

def holdView (task : HoldTask) : Bool × Nat := (task.phase.persisted, task.foe.eid)

theorem unwritten_iff : foes.Unwritten eid ↔ (false, eid) ∈ foes.holds.map holdView := by
  unfold Unwritten holdView
  rw [List.mem_map]
  exact exists_congr fun task => and_congr_right fun _ => by rw [Prod.mk.injEq]

theorem Sound.apart (sound : foes.Sound) {phase : HoldPhase} {task : HoldTask}
    (found : foes.holds[i]? = some ⟨foe, phase⟩) (other : task ∈ foes.holds.eraseIdx i) :
    task.foe.eid ≠ foe.eid := by
  have apart := view_ne_of_mem_eraseIdx sound.distinct found other
  exact apart

theorem unwritten_advanced {phase next : HoldPhase} (found : foes.holds[i]? = some ⟨foe, phase⟩)
    (same : next.persisted = phase.persisted) :
    Unwritten { foes with holds := foes.holds.set i ⟨foe, next⟩ } eid ↔ foes.Unwritten eid := by
  rw [unwritten_iff, unwritten_iff, map_set_of_view_eq found]
  exact congrArg (·, foe.eid) same

theorem unwritten_unheld {phase : HoldPhase} (sound : foes.Sound)
    (found : foes.holds[i]? = some ⟨foe, phase⟩) :
    Unwritten { foes with holds := foes.holds.eraseIdx i } eid ↔ foes.Unwritten eid ∧ eid ≠ foe.eid := by
  constructor
  · rintro ⟨task, member, plain, rfl⟩
    exact ⟨⟨task, List.mem_of_mem_eraseIdx member, plain, rfl⟩, sound.apart found member⟩
  · rintro ⟨⟨task, member, plain, rfl⟩, other⟩
    exact ⟨task, mem_eraseIdx_of_ne found member fun same => other (by rw [same]), plain, rfl⟩

theorem unwritten_carded {phase : HoldPhase} {card : Option EncounterObject}
    (found : foes.holds[i]? = some ⟨foe, phase⟩) (persisted : phase.persisted = true) :
    Unwritten { foes with holds := foes.holds.eraseIdx i, heldFoe := card } eid ↔ foes.Unwritten eid := by
  constructor
  · rintro ⟨task, member, plain, same⟩
    exact ⟨task, List.mem_of_mem_eraseIdx member, plain, same⟩
  · rintro ⟨task, member, plain, same⟩
    refine ⟨task, mem_eraseIdx_of_ne found member ?_, plain, same⟩
    rintro rfl
    exact absurd (plain.symm.trans persisted) Bool.noConfusion

theorem unwritten_wrote {phase : HoldPhase} {store : Option StoredFoe} (sound : foes.Sound)
    (found : foes.holds[i]? = some ⟨foe, phase⟩) :
    Unwritten { foes with holds := foes.holds.set i ⟨foe, .saved true⟩, pendingStore := store } eid ↔
      foes.Unwritten eid ∧ eid ≠ foe.eid := by
  constructor
  · rintro ⟨task, member, plain, rfl⟩
    rcases eq_or_mem_eraseIdx_of_mem_set member with rfl | kept
    · cases plain
    · exact ⟨⟨task, List.mem_of_mem_eraseIdx kept, plain, rfl⟩, sound.apart found kept⟩
  · rintro ⟨⟨task, member, plain, rfl⟩, other⟩
    exact ⟨task, mem_set_of_ne _ found member fun same => other (by rw [same]), plain, rfl⟩

theorem holds_wrote {holds : List HoldTask} {encounter : Encounter} (empty : foes.pendingStore = none) :
    Holds { foes with holds := holds, pendingStore := some ⟨foe.eid, encounter⟩ } eid ↔
      foes.Holds eid ∨ eid = foe.eid := by
  unfold Holds
  rw [empty]
  simp [or_comm, eq_comm]

theorem unwritten_queued {object : EncounterObject} :
    Unwritten { foes with holds := foes.holds ++ [⟨object, .reading⟩] } eid ↔
      foes.Unwritten eid ∨ eid = object.eid := by
  constructor
  · rintro ⟨task, member, plain, rfl⟩
    rcases List.mem_append.mp member with kept | new
    · exact .inl ⟨task, kept, plain, rfl⟩
    · cases List.mem_singleton.mp new
      exact .inr rfl
  · rintro (⟨task, member, plain, same⟩ | rfl)
    · exact ⟨task, List.mem_append_left _ member, plain, same⟩
    · exact ⟨_, List.mem_append_right _ (List.mem_singleton_self _), rfl, rfl⟩

theorem holds_tapped (stored : foes.Holds foe.eid) :
    Holds { foes with engages := foes.engages ++ [⟨foe, .clearing⟩] } eid ↔ foes.Holds eid := by
  constructor
  · rintro (present | ⟨task, member, rfl⟩)
    · exact .inl present
    · rcases List.mem_append.mp member with kept | new
      · exact .inr ⟨task, kept, rfl⟩
      · cases List.mem_singleton.mp new
        exact stored
  · rintro (present | ⟨task, member, same⟩)
    · exact .inl present
    · exact .inr ⟨task, List.mem_append_left _ member, same⟩

theorem holds_cleared (tidy : foes.Tidy) (found : foes.engages[i]? = some ⟨foe, .clearing⟩) :
    Holds { foes with engages := foes.engages.set i ⟨foe, .cleared true⟩, pendingStore := none } eid ↔
      foes.Holds eid := by
  have stored := tidy.clearing _ (List.mem_of_getElem? found) rfl
  have views : (foes.engages.set i ⟨foe, .cleared true⟩).map (·.foe.eid) = foes.engages.map (·.foe.eid) :=
    map_set_of_view_eq found rfl
  have engaging : (∃ task ∈ foes.engages.set i ⟨foe, .cleared true⟩, task.foe.eid = eid) ↔
      ∃ task ∈ foes.engages, task.foe.eid = eid := by
    rw [← List.mem_map, ← List.mem_map, views]
  constructor
  · rintro (none | taken)
    · cases none
    · exact .inr (engaging.mp taken)
  · rintro (present | taken)
    · refine .inr (engaging.mpr ⟨_, List.mem_of_getElem? found, ?_⟩)
      exact Option.some.inj (stored.symm.trans present)
    · exact .inr (engaging.mpr taken)

theorem holds_engaged (sound : foes.Sound) (tidy : foes.Tidy)
    (found : foes.engages[i]? = some ⟨foe, .cleared true⟩) :
    Holds { foes with engages := foes.engages.eraseIdx i, heldFoe := none } eid ↔
      foes.Holds eid ∧ eid ≠ foe.eid := by
  have inside := (List.getElem?_eq_some_iff.mp found).1
  have only : foes.engages = [⟨foe, .cleared true⟩] := by
    obtain ⟨task, same⟩ := List.length_eq_one_iff.mp (Nat.le_antisymm tidy.single (by omega))
    have first : i = 0 := by
      rw [same] at inside
      simpa using inside
    rw [first, same] at found
    rw [same, Option.some.inj found]
  have member : (⟨foe, .cleared true⟩ : EngageTask) ∈ foes.engages := List.mem_of_getElem? found
  constructor
  · rintro (present | ⟨task, kept, rfl⟩)
    · refine ⟨.inl present, ?_⟩
      rintro rfl
      obtain ⟨record, here, same⟩ := Option.map_eq_some_iff.mp present
      exact sound.cleared _ member rfl record here same
    · have gone : foes.engages.eraseIdx i = [] := by
        rw [only] at inside ⊢
        have first : i = 0 := by simpa using inside
        rw [first]
        rfl
      rw [gone] at kept
      cases kept
  · rintro ⟨present | ⟨task, kept, rfl⟩, other⟩
    · exact .inl present
    · rw [only] at kept
      cases List.mem_singleton.mp kept
      exact absurd rfl other

theorem Tidy.queued (tidy : foes.Tidy) {object : EncounterObject}
    (cards : ∀ foe ∈ foes.heldFoe, object.eid ≠ foe.eid)
    (engages : ∀ task ∈ foes.engages, object.eid ≠ task.foe.eid) :
    Tidy { foes with holds := foes.holds ++ [⟨object, .reading⟩] } :=
  { tidy with
    saved := fun task member persisted => by
      rcases List.mem_append.mp member with kept | new
      · exact tidy.saved task kept persisted
      · cases List.mem_singleton.mp new
        cases persisted
    written := fun task member => by
      rcases List.mem_append.mp member with kept | new
      · exact tidy.written task kept
      · cases List.mem_singleton.mp new
        exact HoldPhase.noConfusion
    card := fun foe present => ⟨(tidy.card foe present).1, fun task member => by
      rcases List.mem_append.mp member with kept | new
      · exact (tidy.card foe present).2 task kept
      · cases List.mem_singleton.mp new
        exact cards foe present⟩
    engaged := fun task present hold member => by
      rcases List.mem_append.mp member with kept | new
      · exact tidy.engaged task present hold kept
      · cases List.mem_singleton.mp new
        exact engages task present }

theorem Tidy.advanced (tidy : foes.Tidy) {phase next : HoldPhase} (found : foes.holds[i]? = some ⟨foe, phase⟩)
    (plain : next.persisted = false) (unfailed : next ≠ .saved false) :
    Tidy { foes with holds := foes.holds.set i ⟨foe, next⟩ } :=
  { tidy with
    saved := fun task member persisted => by
      rcases List.mem_or_eq_of_mem_set member with kept | rfl
      · exact tidy.saved task kept persisted
      · exact absurd (plain.symm.trans persisted) Bool.noConfusion
    written := fun task member => by
      rcases List.mem_or_eq_of_mem_set member with kept | rfl
      · exact tidy.written task kept
      · exact unfailed
    card := fun card present => ⟨(tidy.card card present).1, fun task member => by
      rcases List.mem_or_eq_of_mem_set member with kept | rfl
      · exact (tidy.card card present).2 task kept
      · exact (tidy.card card present).2 ⟨foe, phase⟩ (List.mem_of_getElem? found)⟩
    engaged := fun task present hold member => by
      rcases List.mem_or_eq_of_mem_set member with kept | rfl
      · exact tidy.engaged task present hold kept
      · exact tidy.engaged task present ⟨foe, phase⟩ (List.mem_of_getElem? found) }

theorem Tidy.wrote (tidy : foes.Tidy) {encounter : Encounter} (empty : foes.pendingStore = none)
    (found : foes.holds[i]? = some ⟨foe, .saving encounter⟩) :
    Tidy { foes with
      holds := foes.holds.set i ⟨foe, .saved true⟩
      pendingStore := some ⟨foe.eid, encounter⟩ } where
  saved task member persisted := by
    rcases List.mem_or_eq_of_mem_set member with kept | rfl
    · have stored := tidy.saved task kept persisted
      rw [empty] at stored
      cases stored
    · rfl
  written task member := by
    rcases List.mem_or_eq_of_mem_set member with kept | rfl
    · exact tidy.written task kept
    · exact fun failed => by cases failed
  card card present := by
    obtain ⟨held, apart⟩ := tidy.card card present
    refine ⟨.inr ?_, fun task member => ?_⟩
    · rcases held with stored | taken
      · rw [empty] at stored
        cases stored
      · exact taken
    · rcases List.mem_or_eq_of_mem_set member with kept | rfl
      · exact apart task kept
      · exact apart ⟨foe, .saving encounter⟩ (List.mem_of_getElem? found)
  single := tidy.single
  clearing task member phase := by
    have stored := tidy.clearing task member phase
    rw [empty] at stored
    cases stored
  cleared := tidy.cleared
  engaged task present hold member := by
    rcases List.mem_or_eq_of_mem_set member with kept | rfl
    · exact tidy.engaged task present hold kept
    · exact tidy.engaged task present ⟨foe, .saving encounter⟩ (List.mem_of_getElem? found)

theorem Tidy.unheld (tidy : foes.Tidy) (i : Nat) : Tidy { foes with holds := foes.holds.eraseIdx i } :=
  { tidy with
    saved := Tasks.forall_mem_eraseIdx tidy.saved
    written := Tasks.forall_mem_eraseIdx tidy.written
    card := fun card present => ⟨(tidy.card card present).1, fun task member =>
      (tidy.card card present).2 task (List.mem_of_mem_eraseIdx member)⟩
    engaged := fun task present hold member =>
      tidy.engaged task present hold (List.mem_of_mem_eraseIdx member) }

theorem Tidy.carded (tidy : foes.Tidy) (sound : foes.Sound) (found : foes.holds[i]? = some ⟨foe, .saved true⟩) :
    Tidy { foes with holds := foes.holds.eraseIdx i, heldFoe := some foe } :=
  { tidy.unheld i with
    card := fun card present => by
      cases Option.some.inj present
      exact ⟨.inl (tidy.saved _ (List.mem_of_getElem? found) rfl),
        fun task member => sound.apart found member⟩ }

theorem Tidy.surfaced (tidy : foes.Tidy) {card : Option EncounterObject}
    (shown : ∀ foe ∈ card, foe ∈ foes.heldFoe ∨
      foes.pendingStore.map StoredFoe.eid = some foe.eid ∧ ∀ task ∈ foes.holds, task.foe.eid ≠ foe.eid) :
    Tidy { foes with refresh := none, heldFoe := card } :=
  { tidy with
    card := fun foe present => by
      rcases shown foe present with kept | ⟨stored, apart⟩
      · exact tidy.card foe kept
      · exact ⟨.inl stored, apart⟩ }

theorem Tidy.tapped (tidy : foes.Tidy) (idle : foes.engages.length = 0) (shown : foe ∈ foes.heldFoe) :
    Tidy { foes with engages := foes.engages ++ [⟨foe, .clearing⟩] } := by
  have none : foes.engages = [] := List.length_eq_zero_iff.mp idle
  obtain ⟨held, apart⟩ := tidy.card foe shown
  have stored : foes.pendingStore.map StoredFoe.eid = some foe.eid := by
    rcases held with stored | ⟨task, member, _⟩
    · exact stored
    · rw [none] at member
      cases member
  rw [none]
  refine ⟨tidy.saved, tidy.written, fun card present => ⟨?_, (tidy.card card present).2⟩, le_rfl,
    fun task member _ => ?_, fun task member => ?_, fun task member => ?_⟩
  · -- There is one card, and its foe is in the store.
    cases Option.some.inj (shown.symm.trans present)
    exact .inl stored
  · cases List.mem_singleton.mp member
    exact stored
  · cases List.mem_singleton.mp member
    exact EngagePhase.noConfusion
  · cases List.mem_singleton.mp member
    exact apart

theorem Tidy.cleared_store (tidy : foes.Tidy) (found : foes.engages[i]? = some ⟨foe, .clearing⟩) :
    Tidy { foes with engages := foes.engages.set i ⟨foe, .cleared true⟩, pendingStore := none } := by
  have stored := tidy.clearing _ (List.mem_of_getElem? found) rfl
  refine ⟨fun task member persisted => ?_, tidy.written, fun card present => ?_, ?_, fun task member phase => ?_,
    fun task member => ?_, fun task member => ?_⟩
  · -- A saved hold would be of the foe that is engaged.
    have same := Option.some.inj ((tidy.saved task member persisted).symm.trans stored)
    exact absurd same (tidy.engaged _ (List.mem_of_getElem? found) task member)
  · exact ⟨(holds_cleared tidy found).mpr (tidy.card card present).1, (tidy.card card present).2⟩
  · rw [List.length_set]
    exact tidy.single
  · rcases eq_or_mem_eraseIdx_of_mem_set member with rfl | kept
    · cases phase
    · -- There is only one engagement.
      have inside := (List.getElem?_eq_some_iff.mp found).1
      have length := List.length_pos_of_mem kept
      rw [List.length_eraseIdx_of_lt inside] at length
      have single := tidy.single
      omega
  · rcases List.mem_or_eq_of_mem_set member with kept | rfl
    · exact tidy.cleared task kept
    · exact fun failed => by cases failed
  · rcases List.mem_or_eq_of_mem_set member with kept | rfl
    · exact tidy.engaged task kept
    · exact tidy.engaged ⟨foe, .clearing⟩ (List.mem_of_getElem? found)

theorem Tidy.disengaged (tidy : foes.Tidy) (i : Nat) :
    Tidy { foes with engages := foes.engages.eraseIdx i, heldFoe := none } where
  saved := tidy.saved
  written := tidy.written
  card _ present := by cases present
  single := (List.length_eraseIdx_le ..).trans tidy.single
  clearing := Tasks.forall_mem_eraseIdx tidy.clearing
  cleared := Tasks.forall_mem_eraseIdx tidy.cleared
  engaged := Tasks.forall_mem_eraseIdx tidy.engaged

end HeldFoes

namespace Chronicle

open Hook HeldFoes

variable {chronicle : Chronicle} {hook after : Hook} {passive : List Nat} {action : Action}

def advance (chronicle : Chronicle) (after : Hook) (call : Option PassiveResolution) : Chronicle :=
  ⟨after, chronicle.passive ++ call.toList.map PassiveResolution.eid⟩

/-- What one step does to the whereabouts. -/
inductive Follows (before after : Chronicle) : Prop where
  | goesOn (counted : after.hook.nextEncounter = before.hook.nextEncounter)
      (step : Custody.Step Place.Next before.At after.At) : Follows before after
  | rolls (target : Place) (loaded : before.hook.playerRef.isSome = true)
      (counted : after.hook.nextEncounter = before.hook.nextEncounter + 1)
      (entry : Entry before.At after.At before.hook.nextEncounter target) : Follows before after

structure Kept (chronicle : Chronicle) : Prop where
  bounded : chronicle.hook.Bounded
  sound : chronicle.hook.foes.Sound
  tidy : chronicle.hook.foes.Tidy
  loaded : 0 < chronicle.hook.foes.holds.length → chronicle.hook.playerRef.isSome = true
  known : ∀ eid place, chronicle.At eid place → eid < chronicle.hook.nextEncounter
  unique : ∀ eid place, chronicle.At eid place → ∃! place, chronicle.At eid place
  covered : ∀ eid, 1 ≤ eid → eid < chronicle.hook.nextEncounter → ∃ place, chronicle.At eid place

theorem advance_none : chronicle.advance after none = ⟨after, chronicle.passive⟩ := by
  simp [advance]

theorem Follows.silent (counted : after.nextEncounter = chronicle.hook.nextEncounter)
    (step : Custody.Step Place.Next chronicle.At (At ⟨after, chronicle.passive⟩)) :
    Follows chronicle (chronicle.advance after none) := by
  rw [advance_none]
  exact .goesOn counted step

theorem Follows.closes (closes : Closes chronicle.hook after) : Follows chronicle (chronicle.advance after none) := by
  have foes := closes.foes
  refine .silent closes.counted ?_
  cases closes.outcome with
  | kept active same =>
    refine .stay fun eid place => ?_
    cases place <;> simp only [At, foes, active, same]
  | @closed encounter active gone logged =>
    have moved : Transfer chronicle.At (At ⟨after, chronicle.passive⟩) encounter.eid .active .resolved := by
      refine ⟨by simp [At, active], fun other place => ?_⟩
      cases place with
      | inFlight => simp [At, foes]
      | active => simp [At, active, gone, eq_comm]
      | held => simp [At, foes]
      | resolved => simp [At, logged, or_assoc]
    exact .moved .ended moved

theorem step_of_foes {foes : HeldFoes} (combat : after.combat = chronicle.hook.combat)
    (trace : after.trace = chronicle.hook.trace) (same : after.foes = foes)
    (unwritten : ∀ eid, foes.Unwritten eid ↔ chronicle.hook.foes.Unwritten eid)
    (holds : ∀ eid, foes.Holds eid ↔ chronicle.hook.foes.Holds eid) :
    Custody.Step Place.Next chronicle.At (At ⟨after, chronicle.passive⟩) := by
  refine .stay fun eid place => ?_
  cases place with
  | inFlight => simpa only [At, same] using unwritten eid
  | active => simp only [At, combat]
  | held => simpa only [At, same] using holds eid
  | resolved => simp only [At, resolvedFights, trace]

theorem step_of_engageResume {i : Nat} {foe : EncounterObject} (kept : Kept chronicle)
    (idle : chronicle.hook.combat.encounterRef = none)
    (task : chronicle.hook.foes.engages[i]? = some ⟨foe, .cleared true⟩) :
    Custody.Step Place.Next chronicle.At (At ⟨chronicle.hook.engageResume i foe true, chronicle.passive⟩) := by
  let next : Chronicle := ⟨chronicle.hook.engageResume i foe true, chronicle.passive⟩
  have flight (eid : Nat) : next.At eid .inFlight ↔ chronicle.At eid .inFlight := Iff.rfl
  have before (eid : Nat) : ¬chronicle.At eid .active := by simp [At, idle]
  have fight (eid : Nat) : next.At eid .active ↔ eid = foe.eid :=
    Option.some_inj.trans eq_comm
  have left (eid : Nat) : next.At eid .held ↔ chronicle.At eid .held ∧ eid ≠ foe.eid :=
    holds_engaged kept.sound kept.tidy task
  have log : next.hook.resolvedFights = chronicle.hook.resolvedFights := resolvedFights_log_of_none _ rfl
  have done (eid : Nat) : next.At eid .resolved ↔ chronicle.At eid .resolved :=
    or_congr_right (by rw [log])
  have moved : Transfer chronicle.At next.At foe.eid .held .active :=
    ⟨.inr ⟨_, List.mem_of_getElem? task, rfl⟩, fun eid place => by
      cases place <;> simp [flight, before, fight, left, done]⟩
  exact .moved .engaged moved

theorem step_of_holdWrite {i : Nat} {foe : EncounterObject} {encounter : Encounter} (kept : Kept chronicle)
    (empty : chronicle.hook.foes.pendingStore = none)
    (task : chronicle.hook.foes.holds[i]? = some ⟨foe, .saving encounter⟩) :
    Custody.Step Place.Next chronicle.At
      (At ⟨chronicle.hook.holdWrite i foe encounter true, chronicle.passive⟩) := by
  let next : Chronicle := ⟨chronicle.hook.holdWrite i foe encounter true, chronicle.passive⟩
  have left (eid : Nat) : next.At eid .inFlight ↔ chronicle.At eid .inFlight ∧ eid ≠ foe.eid :=
    unwritten_wrote kept.sound task
  have fight (eid : Nat) : next.At eid .active ↔ chronicle.At eid .active := Iff.rfl
  have stored (eid : Nat) : next.At eid .held ↔ chronicle.At eid .held ∨ eid = foe.eid := holds_wrote empty
  have done (eid : Nat) : next.At eid .resolved ↔ chronicle.At eid .resolved := Iff.rfl
  have moved : Transfer chronicle.At next.At foe.eid .inFlight .held :=
    ⟨⟨_, List.mem_of_getElem? task, rfl, rfl⟩, fun eid place => by
      cases place <;> simp [left, fight, stored, done]⟩
  exact .moved .stored moved

theorem resolvePassiveEncounter_eq {basePlayer : Player} (loaded : hook.playerRef = some basePlayer)
    (creature : Creature) (tier : RewardTier) (draw : ℚ) (loot : LootRoll) :
    hook.resolvePassiveEncounter creature tier draw loot =
      hook.setPlayerAndSave (passiveReward basePlayer creature tier draw loot) := by
  unfold resolvePassiveEncounter
  rw [loaded]

theorem follows_of_holdResume {i : Nat} {foe : EncounterObject} (kept : Kept chronicle) (draw : ℚ)
    (loot : LootRoll) (task : chronicle.hook.foes.holds[i]? = some ⟨foe, .read true⟩) :
    Follows chronicle (chronicle.advance (chronicle.hook.holdResume i foe true draw loot)
      (chronicle.hook.callPassive foe.eid (chronicle.hook.creatureOf foe) .idle draw loot)) := by
  obtain ⟨basePlayer, loaded⟩ := Option.isSome_iff_exists.mp
    (kept.loaded (List.length_pos_of_mem (List.mem_of_getElem? task)))
  unfold holdResume callPassive
  rw [if_pos rfl, resolvePassiveEncounter_eq (by exact loaded), loaded]
  let next : Chronicle := chronicle.advance
    ((chronicle.hook.setHolds (chronicle.hook.foes.holds.eraseIdx i)).setPlayerAndSave
      (passiveReward basePlayer (chronicle.hook.creatureOf foe) .idle draw loot))
    (some ⟨foe.eid, basePlayer, chronicle.hook.creatureOf foe, .idle, draw, loot⟩)
  have left (eid : Nat) : next.At eid .inFlight ↔ chronicle.At eid .inFlight ∧ eid ≠ foe.eid :=
    unwritten_unheld kept.sound task
  have fight (eid : Nat) : next.At eid .active ↔ chronicle.At eid .active := Iff.rfl
  have held (eid : Nat) : next.At eid .held ↔ chronicle.At eid .held := Iff.rfl
  have done (eid : Nat) : next.At eid .resolved ↔ chronicle.At eid .resolved ∨ eid = foe.eid := by
    show eid ∈ chronicle.passive ++ [foe.eid] ∨ _ ↔ (eid ∈ chronicle.passive ∨ _) ∨ _
    rw [List.mem_append, List.mem_singleton, or_right_comm]
    rfl
  have moved : Transfer chronicle.At next.At foe.eid .inFlight .resolved :=
    ⟨⟨_, List.mem_of_getElem? task, rfl, rfl⟩, fun eid place => by
      cases place <;> simp [left, fight, held, done]⟩
  exact .goesOn rfl (.moved .overflowed moved)

theorem follows_of_routed {tick : Tick} {encounter : Encounter} {call : Option PassiveResolution}
    (route : Routed chronicle.hook tick encounter after call) (idle : chronicle.hook.combat.encounterRef = none)
    (loaded : chronicle.hook.playerRef.isSome = true)
    (fresh : ∀ place, ¬chronicle.At chronicle.hook.nextEncounter place) :
    Follows chronicle (chronicle.advance after call) := by
  cases route with
  | presented =>
    rw [advance_none]
    refine .rolls .active loaded rfl ⟨fresh, fun eid place => ?_⟩
    cases place with
    | active =>
      have before : ¬chronicle.At eid .active := by simp [At, idle]
      simp only [before, false_or, and_true]
      exact Option.some_inj.trans eq_comm
    | inFlight => exact (or_iff_left nofun).symm
    | held => exact (or_iff_left nofun).symm
    | resolved => exact (or_iff_left nofun).symm
  | queued =>
    rw [advance_none]
    refine .rolls .inFlight loaded rfl ⟨fresh, fun eid place => ?_⟩
    cases place with
    | inFlight =>
      simp only [and_true]
      exact unwritten_queued
    | active => exact (or_iff_left nofun).symm
    | held => exact (or_iff_left nofun).symm
    | resolved => exact (or_iff_left nofun).symm
  | skipped tier =>
    obtain ⟨basePlayer, here⟩ := Option.isSome_iff_exists.mp loaded
    unfold callPassive
    rw [resolvePassiveEncounter_eq (by exact here), here]
    refine .rolls .resolved loaded rfl ⟨fresh, fun eid place => ?_⟩
    cases place with
    | resolved =>
      show eid ∈ chronicle.passive ++ [chronicle.hook.nextEncounter] ∨ _ ↔ (eid ∈ chronicle.passive ∨ _) ∨ _
      rw [List.mem_append, List.mem_singleton, or_right_comm]
      simp only [and_true]
      rfl
    | inFlight => exact (or_iff_left nofun).symm
    | active => exact (or_iff_left nofun).symm
    | held => exact (or_iff_left nofun).symm

theorem follows_of_gated {tick : Tick} {currentPlayer : Option Player} {call : Option PassiveResolution}
    (gate : Gated chronicle.hook tick currentPlayer after call)
    (loaded : currentPlayer.isSome = true → chronicle.hook.playerRef.isSome = true)
    (fresh : ∀ place, ¬chronicle.At chronicle.hook.nextEncounter place) :
    Follows chronicle (chronicle.advance after call) := by
  cases gate with
  | fled => exact .closes closes_handleFlee
  | passed => exact .silent rfl (.stay fun _ _ => Iff.rfl)
  | rolled idle current _ route => exact follows_of_routed route idle (loaded current) fresh

theorem at_walk (incremental : ℚ) : At ⟨hook.walk incremental, passive⟩ = At ⟨hook, passive⟩ := by
  funext eid place
  unfold walk
  split <;> cases place <;> rfl

theorem follows_of_tick (kept : Kept chronicle) (tick : Tick) :
    Follows chronicle (chronicle.advance (chronicle.hook.handleDistanceUpdate tick)
      (chronicle.hook.passiveResolution (.tick tick))) := by
  obtain ⟨hook, passive⟩ := chronicle
  have same : At ⟨hook.walk tick.incremental, passive⟩ = At ⟨hook, passive⟩ := at_walk tick.incremental
  have counted : (hook.walk tick.incremental).nextEncounter = hook.nextEncounter :=
    (keeps_walk _).nextEncounter
  have loaded : (hook.walk tick.incremental).playerRef.isSome = hook.playerRef.isSome := by
    unfold walk
    cases here : hook.playerRef <;> simp [setPlayerAndSave, here]
  have fresh (place : Place) : ¬At ⟨hook.walk tick.incremental, passive⟩ hook.nextEncounter place := by
    rw [same]
    exact fun present => Nat.lt_irrefl _ (kept.known _ _ present)
  have gate := (hook.walk tick.incremental).gated tick hook.playerRef
  have follows : Follows ⟨hook.walk tick.incremental, passive⟩ _ :=
    follows_of_gated gate (fun current => loaded.trans current) (by rwa [counted])
  cases follows with
  | goesOn next step => exact .goesOn (next.trans counted) (same ▸ step)
  | rolls target current next entry =>
    refine .rolls target (loaded.symm.trans current) (next.trans (by rw [counted])) ?_
    rw [same, counted] at entry
    exact entry

theorem follows_of_step (kept : Kept chronicle) (orderly : chronicle.Orderly action)
    (taken : chronicle.hook.step action = some after) :
    Follows chronicle (chronicle.advance after (chronicle.hook.passiveResolution action)) := by
  obtain ⟨succeeds, stays, undisturbed⟩ := orderly
  have unmoved : Custody.Step Place.Next chronicle.At (At ⟨chronicle.hook, chronicle.passive⟩) :=
    .stay fun _ _ => Iff.rfl
  cases does_of_step taken with
  | tick tick => exact follows_of_tick kept tick
  | fight loot => exact .closes (closes_handleFight loot)
  | ability ability draw loot => exact .closes (closes_handleAbility ability draw loot)
  | flee => exact .closes closes_handleFlee
  | autoResolve loot => exact .closes (closes_handleAutoResolve loot)
  | minimize => exact .closes (.kept rfl rfl rfl rfl)
  | closeCombat =>
    unfold handleCloseCombatModal
    split
    · exact .silent rfl unmoved
    · exact .closes (.kept rfl rfl rfl rfl)
  | expand => exact .closes (.kept rfl rfl rfl rfl)
  | fireKillBeat loot _ => exact .closes ((closes_handleVictory _ loot).of_eq rfl rfl rfl rfl)
  | fireCounter draw _ => exact .closes (closes_fireCounter _ draw)
  | fireReveal => exact .closes (.kept rfl rfl rfl rfl)
  | dismissReward => exact .closes (.kept rfl rfl rfl rfl)
  | refresh =>
    unfold refreshHeldFoe
    split
    · exact .silent rfl unmoved
    · exact .silent rfl (step_of_foes rfl rfl rfl (fun _ => Iff.rfl) fun _ => Iff.rfl)
  | refreshRead => exact .silent rfl (step_of_foes rfl rfl rfl (fun _ => Iff.rfl) fun _ => Iff.rfl)
  | refreshResume now read =>
    unfold refreshResume
    dsimp only
    split
    · exact .silent rfl (step_of_foes rfl rfl rfl (fun _ => Iff.rfl) fun _ => Iff.rfl)
    · split <;> exact .silent rfl (step_of_foes rfl rfl rfl (fun _ => Iff.rfl) fun _ => Iff.rfl)
  | engage =>
    unfold engageHeldFoe
    split
    · rename_i foe shown _
      have card : foe ∈ chronicle.hook.foes.heldFoe := undisturbed.1.symm.trans shown
      exact .silent rfl (step_of_foes rfl rfl rfl (fun _ => Iff.rfl) fun _ =>
        holds_tapped (kept.tidy.card foe card).1)
    · exact .silent rfl unmoved
  | engageClear success task =>
    cases succeeds
    exact .silent rfl (step_of_foes rfl rfl rfl (fun _ => Iff.rfl) fun _ => holds_cleared kept.tidy task)
  | @engageResume i foe success task =>
    cases success with
    | false => exact absurd rfl (kept.tidy.cleared _ (List.mem_of_getElem? task))
    | true => exact .silent rfl (step_of_engageResume kept undisturbed task)
  | holdRead success task =>
    exact .silent rfl (step_of_foes rfl rfl rfl (fun _ => unwritten_advanced task rfl) fun _ => Iff.rfl)
  | @holdResume i foe existing draw loot task =>
    cases existing with
    | true =>
      have call : chronicle.hook.passiveResolution (.holdResume i draw loot) =
          chronicle.hook.callPassive foe.eid (chronicle.hook.creatureOf foe) .idle draw loot := by
        simp only [passiveResolution, task]
      rw [call]
      exact follows_of_holdResume kept draw loot task
    | false =>
      have silent : chronicle.hook.passiveResolution (.holdResume i draw loot) = none := by
        simp only [passiveResolution, task]
      rw [silent]
      exact .silent rfl (step_of_foes rfl rfl rfl (fun _ => unwritten_advanced task rfl) fun _ => Iff.rfl)
  | holdWrite success task =>
    cases succeeds
    exact .silent rfl (step_of_holdWrite kept undisturbed task)
  | @holdFinish i foe success draw loot task =>
    cases success with
    | false => exact absurd rfl (kept.tidy.written _ (List.mem_of_getElem? task))
    | true =>
      have silent : chronicle.hook.passiveResolution (.holdFinish i draw loot) = none := by
        simp only [passiveResolution, task]
      rw [silent]
      exact .silent rfl (step_of_foes rfl rfl rfl (fun _ => unwritten_carded task rfl) fun _ => Iff.rfl)
  | render => exact .silent rfl (step_of_foes rfl rfl rfl (fun _ => Iff.rfl) fun _ => Iff.rfl)
  | setPlayer => exact .closes (.kept rfl rfl rfl rfl)
  | switchAccount => cases stays
  | wipeStore => cases stays

theorem tidy_of_closes (tidy : hook.foes.Tidy) (closes : Closes hook after) : after.foes.Tidy := by
  rw [closes.foes]
  exact tidy

theorem tidy_of_gated {tick : Tick} {currentPlayer : Option Player} {call : Option PassiveResolution}
    (tidy : hook.foes.Tidy) (fresh : ∀ eid, hook.foes.Elsewhere eid → hook.nextEncounter ≠ eid)
    (gate : Gated hook tick currentPlayer after call) : after.foes.Tidy := by
  cases gate with
  | fled => exact tidy_of_closes tidy closes_handleFlee
  | passed => exact tidy
  | rolled _ _ _ route =>
    cases route with
    | presented => exact tidy
    | skipped =>
      rw [(keeps_resolvePassiveEncounter _ _ _ _).foes]
      exact tidy
    | queued =>
      refine tidy.queued (fun _ present => ?_) fun _ member => ?_
      · exact fresh _ (.card present rfl)
      · exact fresh _ (.engaging member rfl)

theorem tidy_of_step (kept : Kept chronicle) (orderly : chronicle.Orderly action)
    (taken : chronicle.hook.step action = some after) : after.foes.Tidy := by
  obtain ⟨succeeds, stays, undisturbed⟩ := orderly
  have tidy := kept.tidy
  cases does_of_step taken with
  | tick tick =>
    have walked : (chronicle.hook.walk tick.incremental).foes = chronicle.hook.foes := (keeps_walk _).foes
    have counted : (chronicle.hook.walk tick.incremental).nextEncounter = chronicle.hook.nextEncounter :=
      (keeps_walk _).nextEncounter
    refine tidy_of_gated (walked ▸ tidy) (fun eid copy => ?_)
      ((chronicle.hook.walk tick.incremental).gated tick chronicle.hook.playerRef)
    rw [counted]
    exact (kept.bounded.copied (walked ▸ copy)).ne'
  | fight loot => exact tidy_of_closes tidy (closes_handleFight loot)
  | ability ability draw loot => exact tidy_of_closes tidy (closes_handleAbility ability draw loot)
  | flee => exact tidy_of_closes tidy closes_handleFlee
  | autoResolve loot => exact tidy_of_closes tidy (closes_handleAutoResolve loot)
  | closeCombat =>
    unfold handleCloseCombatModal
    split <;> exact tidy
  | fireKillBeat loot _ =>
    exact tidy_of_closes tidy ((closes_handleVictory _ loot).of_eq rfl rfl rfl rfl)
  | fireCounter draw _ => exact tidy_of_closes tidy (closes_fireCounter _ draw)
  | refresh =>
    unfold refreshHeldFoe
    split
    · exact tidy
    · exact { tidy with }
  | refreshRead => exact { tidy with }
  | @refreshResume found now read =>
    have known : chronicle.hook.foes.found = found := by
      unfold HeldFoes.found
      rw [read]
    unfold refreshResume
    dsimp only
    split
    · exact tidy.surfaced fun _ present => by cases present
    · rename_i record
      obtain ⟨stored, apart⟩ := undisturbed record known
      split
      · exact tidy.surfaced fun _ present => .inl present
      · refine tidy.surfaced fun foe present => .inr ?_
        cases Option.some.inj present
        exact ⟨by rw [stored]; rfl, apart⟩
  | engage =>
    unfold engageHeldFoe
    split
    · rename_i foe shown _
      exact tidy.tapped undisturbed.2 (undisturbed.1.symm.trans shown)
    · exact tidy
  | engageClear success task =>
    cases succeeds
    exact tidy.cleared_store task
  | @engageResume i foe success task =>
    cases success with
    | false => exact absurd rfl (tidy.cleared _ (List.mem_of_getElem? task))
    | true => exact tidy.disengaged i
  | holdRead success task => exact tidy.advanced task rfl HoldPhase.noConfusion
  | @holdResume i foe existing draw loot task =>
    unfold holdResume
    split
    · rw [(keeps_resolvePassiveEncounter _ _ _ _).foes]
      exact tidy.unheld i
    · exact tidy.advanced task rfl HoldPhase.noConfusion
  | holdWrite success task =>
    cases succeeds
    exact tidy.wrote undisturbed task
  | @holdFinish i foe success draw loot task =>
    cases success with
    | false => exact absurd rfl (tidy.written _ (List.mem_of_getElem? task))
    | true => exact tidy.carded kept.sound task
  | switchAccount => cases stays
  | wipeStore => cases stays
  | minimize => exact tidy
  | expand => exact tidy
  | fireReveal => exact tidy
  | dismissReward => exact tidy
  | render => exact { tidy with }
  | setPlayer => exact tidy

theorem Kept.start (player : Option Player) (stored : Option Encounter) :
    Kept (Chronicle.start player stored) := by
  -- At most a foe from an earlier session is somewhere, and it is in the store.
  have only (eid : Nat) (place : Place) (present : (Chronicle.start player stored).At eid place) :
      eid = 0 ∧ place = .held := by
    cases place with
    | inFlight =>
      obtain ⟨_, member, _⟩ := present
      cases member
    | active => cases present
    | held =>
      rcases present with inStore | ⟨_, member, _⟩
      · obtain ⟨record, here, rfl⟩ := Option.map_eq_some_iff.mp inStore
        have known : (Hook.start player stored).Stored record := .inl here
        exact ⟨(start_stored known).2, rfl⟩
      · cases member
    | resolved =>
      rcases present with member | member
      · cases member
      · cases member
  refine ⟨start_bounded player stored, (HeldOnce.start player stored).sound, ?_, fun holding => ?_,
    fun eid place present => ?_, fun eid place present => ⟨place, present, fun other there => ?_⟩,
    fun eid positive bound => ?_⟩
  · exact ⟨fun _ x => (by cases x), fun _ x => (by cases x), fun _ x => (by cases x), Nat.zero_le 1,
      fun _ x => (by cases x), fun _ x => (by cases x), fun _ x => (by cases x)⟩
  · cases holding
  · rw [(only eid place present).1]
    exact Nat.one_pos
  · rw [(only eid place present).2, (only eid other there).2]
  · have below : eid < 1 := bound
    omega

theorem Follows.present {next : Chronicle} {eid : Nat} {place : Place} (follows : Follows chronicle next)
    (present : next.At eid place) : (∃ place, chronicle.At eid place) ∨
      eid = chronicle.hook.nextEncounter ∧ ∃! place, next.At eid place := by
  cases follows with
  | goesOn _ step => exact .inl (step.known present)
  | rolls target _ _ entry =>
    by_cases new : eid = chronicle.hook.nextEncounter
    · exact .inr ⟨new, new ▸ entry.existsUnique⟩
    · exact .inl ⟨place, (entry.others new).mp present⟩

theorem Follows.existsUnique {next : Chronicle} {eid : Nat} (follows : Follows chronicle next)
    (kept : Kept chronicle) (placed : ∃! place, chronicle.At eid place) : ∃! place, next.At eid place := by
  cases follows with
  | goesOn _ step => exact step.existsUnique placed
  | rolls target _ _ entry =>
    obtain ⟨place, present, _⟩ := placed
    have old : eid ≠ chronicle.hook.nextEncounter := (kept.known eid place present).ne
    exact (existsUnique_congr fun _ => entry.others old).mpr (kept.unique eid place present)

theorem Kept.step (kept : Kept chronicle) (orderly : chronicle.Orderly action)
    (taken : chronicle.hook.step action = some after) :
    Kept (chronicle.advance after (chronicle.hook.passiveResolution action)) := by
  have follows := follows_of_step kept orderly taken
  have evolves := evolves_of_step taken
  have bounded : after.Bounded := kept.bounded.evolves evolves
  have shuffle : Shuffle chronicle.hook.foes chronicle.hook.nextEncounter after.foes := by
    refine shuffle_of_step (fun tapped => ?_) taken
    cases action with
    | engage => exact orderly.2.2.1
    | _ => cases tapped
  have held (task : HoldTask) (member : task ∈ chronicle.hook.foes.holds) :
      task.foe.eid < chronicle.hook.nextEncounter :=
    kept.bounded.eid _ (.inr (.inr (.inr (.inl ⟨task, member, rfl⟩))))
  refine ⟨bounded, kept.sound.shuffle shuffle (fun _ => kept.bounded.copied) held,
    tidy_of_step kept orderly taken, fun holding => ?_, fun eid place present => ?_, fun eid place present => ?_,
    fun eid positive bound => ?_⟩
  · -- A new hold is of a roll, and a roll needs a player.
    have loaded : chronicle.hook.playerRef.isSome = true := by
      obtain ⟨task, member⟩ := List.exists_mem_of_length_pos holding
      rcases shuffle.holding task member with ⟨old, before, _⟩ | rolled
      · exact kept.loaded (List.length_pos_of_mem before)
      · cases follows with
        | goesOn counted _ =>
          have known : task.foe.eid < after.nextEncounter :=
            bounded.eid _ (.inr (.inr (.inr (.inl ⟨task, member, rfl⟩))))
          have same : after.nextEncounter = chronicle.hook.nextEncounter := counted
          omega
        | rolls _ current _ _ => exact current
    refine (saves_of_step taken).loaded loaded ?_
    rintro rfl
    exact absurd orderly.2.1 Bool.noConfusion
  · rcases follows.present present with ⟨before, there⟩ | ⟨rfl, _⟩
    · exact (kept.known eid before there).trans_le evolves.nextEncounter
    · cases follows with
      | goesOn _ step =>
        obtain ⟨before, there⟩ := step.known present
        exact absurd (kept.known _ before there) (Nat.lt_irrefl _)
      | rolls _ _ counted _ => exact counted ▸ Nat.lt_succ_self _
  · rcases follows.present present with ⟨before, there⟩ | ⟨_, placed⟩
    · exact follows.existsUnique kept (kept.unique eid before there)
    · exact placed
  · by_cases old : eid < chronicle.hook.nextEncounter
    · obtain ⟨place, present⟩ := kept.covered eid positive old
      exact (follows.existsUnique kept (kept.unique eid place present)).exists
    · cases follows with
      | goesOn counted _ => exact absurd (counted ▸ bound) old
      | rolls target _ counted entry =>
        have next : eid < chronicle.hook.nextEncounter + 1 := counted ▸ bound
        have new : eid = chronicle.hook.nextEncounter := by omega
        exact new ▸ entry.existsUnique.exists

theorem run_kept {player : Option Player} {stored : Option Encounter} {actions : List Action}
    (run : Run step Orderly (start player stored) actions chronicle) : Kept chronicle := by
  refine run.invariant Kept (.start player stored) fun before action after kept orderly taken => ?_
  obtain ⟨hook, moved, rfl⟩ := Option.map_eq_some_iff.mp taken
  exact kept.step orderly moved

/-- In every orderly run each encounter rolled so far is in exactly one place and the card shows a
held one; a further step moves an encounter only forward, and rewards the one it resolves passively. -/
theorem run_orderly_placed {player : Option Player} {stored : Option Encounter} {actions : List Action}
    (run : Run step Orderly (start player stored) actions chronicle) :
    (∀ eid, 1 ≤ eid → eid < chronicle.hook.nextEncounter → ∃! place, chronicle.At eid place) ∧
    (∀ foe ∈ chronicle.hook.foes.heldFoe, chronicle.At foe.eid .held) ∧
    ∀ action next, chronicle.Orderly action → chronicle.step action = some next →
      (∀ eid place, chronicle.At eid place →
        next.At eid place ∨ ∃ further, Place.Next place further ∧ next.At eid further) ∧
      ∀ call, chronicle.hook.passiveResolution action = some call →
        next.At call.eid .resolved ∧ next.hook.saved = some call.updatedPlayer := by
  have kept := run_kept run
  refine ⟨fun eid positive bound => ?_, fun foe present => (kept.tidy.card foe present).1,
    fun action next orderly taken => ?_⟩
  · obtain ⟨place, present⟩ := kept.covered eid positive bound
    exact kept.unique eid place present
  · obtain ⟨after, moved, rfl⟩ := Option.map_eq_some_iff.mp taken
    refine ⟨fun eid place present => ?_, fun call made => ⟨?_, saved_of_passiveResolution made moved⟩⟩
    · cases follows_of_step kept orderly moved with
      | goesOn _ step => exact step.follows (kept.unique eid place present) present
      | rolls _ _ _ entry => exact .inl ((entry.others (kept.known eid place present).ne).mpr present)
    · refine .inl (List.mem_append_right _ ?_)
      rw [made]
      exact List.mem_singleton_self _

instance (chronicle : Chronicle) (eid : Nat) : ∀ place, Decidable (chronicle.At eid place)
  | .inFlight => inferInstanceAs (Decidable (∃ task ∈ chronicle.hook.foes.holds, _ ∧ _))
  | .active => inferInstanceAs (Decidable (_ = _))
  | .held => inferInstanceAs (Decidable (_ ∨ ∃ task ∈ chronicle.hook.foes.engages, _))
  | .resolved => inferInstanceAs (Decidable (_ ∨ _))

def presentedTick : Tick := { eliteTick with isBackground := false }

theorem run_orderly_placed_elite :
    ∃ chronicle, Run step Orderly (start veteran none) (holdElite ++ engageCard ++ [.flee, .tick presentedTick])
        chronicle ∧
      chronicle.At 1 .resolved ∧ chronicle.At 2 .active ∧ (∃! place, chronicle.At 1 place) ∧
      ∃! place, chronicle.At 2 place := by
  obtain ⟨chronicle, run, first, second, counted⟩ : ∃ chronicle,
      Run step Orderly (start veteran none) (holdElite ++ engageCard ++ [.flee, .tick presentedTick]) chronicle ∧
      chronicle.At 1 .resolved ∧ chronicle.At 2 .active ∧ chronicle.hook.nextEncounter = 3 :=
    Run.exists_of_exec (by decide +kernel)
  have placed := (run_orderly_placed run).1
  exact ⟨chronicle, run, first, second, placed 1 (by omega) (by omega), placed 2 (by omega) (by omega)⟩

def Working (_ : Chronicle) (action : Action) : Prop :=
  action.storageSucceeds = true ∧ action.leavesAccount = false

instance (chronicle : Chronicle) (action : Action) : Decidable (chronicle.Working action) :=
  inferInstanceAs (Decidable (_ ∧ _))

def tickInEngage : List Action :=
  holdElite ++ [Action.engage, .tick presentedTick, .engageClear 0 true, .engageResume 0]

/-- Two elites are rolled before the first hold has written its record: its storage takes longer than the half minute
between two encounters. -/
def overlappingHolds : List Action :=
  [.tick eliteTick, .tick eliteTick, .holdRead 0 true, .holdRead 1 true, .holdResume 0 0 fun _ => none,
    .holdResume 1 0 fun _ => none, .holdWrite 0 true, .holdWrite 1 true]

/-- The encounter that was presented is nowhere; with two holds the first elite is nowhere. -/
theorem run_tickInEngage_lost :
    (∃ chronicle, Run step Working (start veteran none) tickInEngage chronicle ∧
      chronicle.hook.nextEncounter = 3 ∧ chronicle.At 1 .active ∧ ∀ place, ¬chronicle.At 2 place) ∧
    ∃ chronicle, Run step Working (start veteran none) overlappingHolds chronicle ∧
      chronicle.hook.nextEncounter = 3 ∧ chronicle.At 2 .held ∧ ∀ place, ¬chronicle.At 1 place := by
  have everywhere (chronicle : Chronicle) (eid : Nat) (nowhere : ¬chronicle.At eid .inFlight ∧
      ¬chronicle.At eid .active ∧ ¬chronicle.At eid .held ∧ ¬chronicle.At eid .resolved) (place : Place) :
      ¬chronicle.At eid place := by
    cases place
    · exact nowhere.1
    · exact nowhere.2.1
    · exact nowhere.2.2.1
    · exact nowhere.2.2.2
  obtain ⟨first, run, counted, active, nowhere⟩ : ∃ chronicle,
      Run step Working (start veteran none) tickInEngage chronicle ∧ chronicle.hook.nextEncounter = 3 ∧
      chronicle.At 1 .active ∧ ¬chronicle.At 2 .inFlight ∧ ¬chronicle.At 2 .active ∧
      ¬chronicle.At 2 .held ∧ ¬chronicle.At 2 .resolved := Run.exists_of_exec (by decide +kernel)
  refine ⟨⟨first, run, counted, active, everywhere first 2 nowhere⟩, ?_⟩
  obtain ⟨second, run, counted, held, nowhere⟩ : ∃ chronicle,
      Run step Working (start veteran none) overlappingHolds chronicle ∧ chronicle.hook.nextEncounter = 3 ∧
      chronicle.At 2 .held ∧ ¬chronicle.At 1 .inFlight ∧ ¬chronicle.At 1 .active ∧
      ¬chronicle.At 1 .held ∧ ¬chronicle.At 1 .resolved := Run.exists_of_exec (by decide +kernel)
  exact ⟨second, run, counted, held, everywhere second 1 nowhere⟩

end Chronicle

end WalkingRpg

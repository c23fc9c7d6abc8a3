import WalkingRpg.Encounter.Moves
import WalkingRpg.Library.Tasks

/-! Encounter objects, creature objects and held records over one step.

Objects are never forged: what a step leaves behind was there before, was just
allocated, or is the renewed active encounter. Only a turn changes a creature.
-/

set_option autoImplicit false

namespace WalkingRpg

open Tasks

namespace Hook

/-- An object that a card, a render or a task in flight holds. -/
def Foe (hook : Hook) (object : EncounterObject) : Prop :=
  object ∈ hook.foes.heldFoe ∨ object ∈ hook.foes.rendered ∨
    (∃ task ∈ hook.foes.holds, task.foe = object) ∨ ∃ task ∈ hook.foes.engages, task.foe = object

def Object (hook : Hook) (object : EncounterObject) : Prop :=
  object ∈ hook.combat.encounterRef ∨ hook.Foe object

/-- A record in the store, read from it, or about to be written. -/
def Stored (hook : Hook) (stored : StoredFoe) : Prop :=
  stored ∈ hook.foes.pendingStore ∨
    (∃ found, hook.foes.refresh = some (.read found) ∧ stored ∈ found) ∨
    ∃ task ∈ hook.foes.holds, task.phase = .saving stored.encounter ∧ task.foe.eid = stored.eid

/-- An object allocated by the step: rolled, or rebuilt from a record. -/
structure Fresh (before after : Hook) (object : EncounterObject) : Prop where
  ref : before.nextRef < object.ref ∧ object.ref < after.nextRef
  creature : before.nextRef ≤ object.creature ∧ object.creature < after.nextRef
  source : (object.eid = before.nextEncounter ∧ before.nextEncounter < after.nextEncounter ∧
      0 < (after.creatureOf object).hp) ∨
    ∃ stored, before.Stored stored ∧ object.eid = stored.eid ∧
      (after.creatureOf object).hp = stored.encounter.creature.hp

def Turned (before after : Hook) (creature : Nat) : Prop :=
  ∃ encounter, before.core.Ready encounter ∧ encounter.creature = creature ∧
    (∃ renewed ∈ after.combat.encounterRef, renewed.creature = creature ∧ renewed.eid = encounter.eid) ∧
    ((after.combat.killBeatPending = true ∧ (after.creatures creature).hp ≤ 0) ∨
      0 < (after.creatures creature).hp)

/-- What one step can do to objects, creatures and records. -/
structure Evolves (before after : Hook) : Prop where
  nextRef : before.nextRef ≤ after.nextRef
  nextEncounter : before.nextEncounter ≤ after.nextEncounter
  active : ∀ object ∈ after.combat.encounterRef, before.Object object ∨ before.Fresh after object ∨
    ∃ encounter ∈ before.combat.encounterRef,
      object = { encounter with ref := before.nextRef } ∧ before.nextRef < after.nextRef
  foes : ∀ object, after.Foe object → before.Foe object ∨ before.Fresh after object
  stored : ∀ stored, after.Stored stored → before.Stored stored ∨
    ∃ object, before.Foe object ∧ stored.eid = object.eid ∧ stored.encounter = before.valueOf object
  creatures : ∀ creature < before.nextRef,
    after.creatures creature = before.creatures creature ∨ before.Turned after creature
  killed : after.combat.killBeatPending = true → before.combat.killBeatPending = true ∨
    ∃ encounter ∈ after.combat.encounterRef, (after.creatureOf encounter).hp ≤ 0

/-- A step that changes no creature there is. -/
structure Shifts (before after : Hook) : Prop where
  nextRef : before.nextRef ≤ after.nextRef
  nextEncounter : before.nextEncounter ≤ after.nextEncounter
  active : ∀ object ∈ after.combat.encounterRef, before.Object object ∨ before.Fresh after object
  foes : ∀ object, after.Foe object → before.Foe object ∨ before.Fresh after object
  stored : ∀ stored, after.Stored stored → before.Stored stored ∨
    ∃ object, before.Foe object ∧ stored.eid = object.eid ∧ stored.encounter = before.valueOf object
  creatures : ∀ creature < before.nextRef, after.creatures creature = before.creatures creature
  killed : after.combat.killBeatPending = true → before.combat.killBeatPending = true

structure Keeps (before after : Hook) : Prop where
  nextRef : after.nextRef = before.nextRef
  nextEncounter : after.nextEncounter = before.nextEncounter
  active : after.combat.encounterRef = before.combat.encounterRef ∨ after.combat.encounterRef = none
  foes : after.foes = before.foes
  creatures : after.creatures = before.creatures
  killed : after.combat.killBeatPending = true → before.combat.killBeatPending = true

variable {hook before middle after : Hook} {action : Action}

theorem Foe.of_foes_eq {object : EncounterObject} (same : after.foes = before.foes)
    (foe : after.Foe object) : before.Foe object := by
  unfold Foe at foe ⊢
  rwa [← same]

theorem Stored.of_foes_eq {stored : StoredFoe} (same : after.foes = before.foes)
    (held : after.Stored stored) : before.Stored stored := by
  unfold Stored at held ⊢
  rwa [← same]

theorem Shifts.evolves (shifts : Shifts before after) : Evolves before after where
  nextRef := shifts.nextRef
  nextEncounter := shifts.nextEncounter
  active object present := (shifts.active object present).imp_right .inl
  foes := shifts.foes
  stored := shifts.stored
  creatures creature old := .inl (shifts.creatures creature old)
  killed pending := .inl (shifts.killed pending)

theorem Keeps.shifts (keeps : Keeps before after) : Shifts before after where
  nextRef := keeps.nextRef.ge
  nextEncounter := keeps.nextEncounter.ge
  active object present := by
    rcases keeps.active with same | none
    · exact .inl (.inl (same ▸ present))
    · rw [none] at present
      cases present
  foes _ foe := .inl (foe.of_foes_eq keeps.foes)
  stored _ held := .inl (held.of_foes_eq keeps.foes)
  creatures creature _ := congrFun keeps.creatures creature
  killed := keeps.killed

theorem Keeps.evolves (keeps : Keeps before after) : Evolves before after := keeps.shifts.evolves

theorem Keeps.fresh {object : EncounterObject} (keeps : Keeps middle after)
    (fresh : before.Fresh middle object) : before.Fresh after object where
  ref := by rw [keeps.nextRef]; exact fresh.ref
  creature := by rw [keeps.nextRef]; exact fresh.creature
  source := by
    unfold creatureOf
    rw [keeps.nextEncounter, keeps.creatures]
    exact fresh.source

theorem Shifts.keeps (shifts : Shifts before middle) (keeps : Keeps middle after) : Shifts before after where
  nextRef := keeps.nextRef ▸ shifts.nextRef
  nextEncounter := keeps.nextEncounter ▸ shifts.nextEncounter
  active object present := by
    rcases keeps.active with same | none
    · exact (shifts.active object (same ▸ present)).imp_right keeps.fresh
    · rw [none] at present
      cases present
  foes object foe := (shifts.foes object (foe.of_foes_eq keeps.foes)).imp_right keeps.fresh
  stored stored held := shifts.stored stored (held.of_foes_eq keeps.foes)
  creatures creature old := by
    rw [keeps.creatures]
    exact shifts.creatures creature old
  killed pending := shifts.killed (keeps.killed pending)

theorem Keeps.refl (hook : Hook) : Keeps hook hook := ⟨rfl, rfl, .inl rfl, rfl, rfl, id⟩

theorem Keeps.trans (first : Keeps before middle) (second : Keeps middle after) : Keeps before after where
  nextRef := second.nextRef.trans first.nextRef
  nextEncounter := second.nextEncounter.trans first.nextEncounter
  active := by
    rcases second.active with same | none
    · rw [same]
      exact first.active
    · exact .inr none
  foes := second.foes.trans first.foes
  creatures := second.creatures.trans first.creatures
  killed pending := first.killed (second.killed pending)

theorem keeps_payVictory (basePlayer : Player) (encounter : EncounterObject) (loot : LootRoll) :
    Keeps hook (hook.payVictory basePlayer encounter loot) :=
  ⟨rfl, rfl, .inr rfl, rfl, rfl, fun pending => by cases pending⟩

theorem keeps_handleVictory (playerToUse : Option Player) (loot : LootRoll) :
    Keeps hook (hook.handleVictory playerToUse loot) := by
  rcases hook.handleVictory_cases playerToUse loot with ⟨_, _, _, _, _, pays⟩ | ⟨_, same⟩
  · rw [pays]
    exact keeps_payVictory _ _ loot
  · rw [same]
    exact .refl hook

theorem keeps_handleFlee : Keeps hook hook.handleFlee := by
  unfold handleFlee
  split
  · exact .refl hook
  · dsimp only
    split <;> exact ⟨rfl, rfl, .inr rfl, rfl, rfl, id⟩

theorem keeps_openCombat (player : Player) : Keeps hook (hook.openCombat player) := by
  unfold openCombat
  dsimp only
  split <;> exact ⟨rfl, rfl, .inl rfl, rfl, rfl, id⟩

theorem keeps_handleFight (loot : LootRoll) : Keeps hook (hook.handleFight loot) := by
  unfold handleFight
  split
  · split
    · exact .refl hook
    · split
      · exact keeps_handleVictory _ loot
      · exact keeps_openCombat _
  · exact .refl hook

theorem keeps_handleAutoResolve (loot : LootRoll) : Keeps hook (hook.handleAutoResolve loot) := by
  unfold handleAutoResolve
  split
  · split
    · exact .refl hook
    · refine Keeps.trans ?_ (keeps_handleVictory _ loot)
      exact ⟨rfl, rfl, .inl rfl, rfl, rfl, id⟩
  · exact .refl hook

theorem keeps_handlePlayerDefeat (player : Player) : Keeps hook (hook.handlePlayerDefeat player) := by
  unfold handlePlayerDefeat
  dsimp only
  split <;> exact ⟨rfl, rfl, .inr rfl, rfl, rfl, id⟩

theorem keeps_fireCounter (beat : CounterBeat) (draw : ℚ) : Keeps hook (hook.fireCounter beat draw) := by
  unfold fireCounter
  split
  · split
    · exact ⟨rfl, rfl, .inl rfl, rfl, rfl, id⟩
    · unfold strike
      dsimp only
      split
      · refine Keeps.trans ?_ (keeps_handlePlayerDefeat _)
        exact ⟨rfl, rfl, .inl rfl, rfl, rfl, id⟩
      · exact ⟨rfl, rfl, .inl rfl, rfl, rfl, id⟩
  · exact ⟨rfl, rfl, .inl rfl, rfl, rfl, id⟩

theorem keeps_resolvePassiveEncounter (creature : Creature) (tier : RewardTier) (draw : ℚ)
    (loot : LootRoll) : Keeps hook (hook.resolvePassiveEncounter creature tier draw loot) := by
  unfold resolvePassiveEncounter
  split <;> exact ⟨rfl, rfl, .inl rfl, rfl, rfl, id⟩

theorem keeps_walk (incremental : ℚ) : Keeps hook (hook.walk incremental) := by
  unfold walk
  split <;> exact ⟨rfl, rfl, .inl rfl, rfl, rfl, id⟩

theorem shifts_withFoes {foes : HeldFoes}
    (held : ∀ object, (hook.withFoes foes).Foe object → hook.Foe object)
    (stored : ∀ stored, (hook.withFoes foes).Stored stored → hook.Stored stored ∨
      ∃ object, hook.Foe object ∧ stored.eid = object.eid ∧ stored.encounter = hook.valueOf object) :
    Shifts hook (hook.withFoes foes) where
  nextRef := le_rfl
  nextEncounter := le_rfl
  active _ present := .inl (.inl present)
  foes object foe := .inl (held object foe)
  stored := stored
  creatures _ _ := rfl
  killed := id

theorem shifts_refreshHeldFoe : Shifts hook hook.refreshHeldFoe := by
  unfold refreshHeldFoe
  split
  · exact (Keeps.refl hook).shifts
  · refine shifts_withFoes (fun object foe => foe) fun stored held => .inl ?_
    rcases held with inStore | ⟨found, reading, _⟩ | saving
    · exact .inl inStore
    · cases reading
    · exact .inr (.inr saving)

theorem shifts_refreshRead (success : Bool) : Shifts hook (hook.refreshRead success) := by
  refine shifts_withFoes (fun object foe => foe) fun stored held => .inl ?_
  rcases held with inStore | ⟨found, read, inside⟩ | saving
  · exact .inl inStore
  · -- What was read is what the store holds, or nothing.
    cases read
    cases success with
    | true => exact .inl inside
    | false => cases inside
  · exact .inr (.inr saving)

theorem stored_of_refresh_done {stored : StoredFoe}
    (held : (hook.withFoes { hook.foes with refresh := none }).Stored stored) : hook.Stored stored := by
  rcases held with inStore | ⟨found, reading, _⟩ | saving
  · exact .inl inStore
  · cases reading
  · exact .inr (.inr saving)

theorem shifts_refreshResume {found : Option StoredFoe} (now : ℚ)
    (read : hook.foes.refresh = some (.read found)) : Shifts hook (hook.refreshResume found now) := by
  unfold refreshResume
  dsimp only
  split
  · refine shifts_withFoes (fun object foe => ?_) fun stored held => .inl (stored_of_refresh_done held)
    rcases foe with none | others
    · cases none
    · exact .inr others
  · rename_i record
    have known : hook.Stored record := .inr (.inl ⟨_, read, rfl⟩)
    split
    · exact shifts_withFoes (fun object foe => foe) fun stored held => .inl (stored_of_refresh_done held)
    · rename_i encounter rebuilt
      refine ⟨Nat.le_add_right _ _, le_rfl, fun object present => .inl (.inl present),
        fun object foe => ?_, fun stored held => .inl (stored_of_refresh_done held), fun creature old => ?_,
        id⟩
      · rcases foe with card | others
        · -- The card shows the rebuilt foe, a new object with the stored hit points.
          cases Option.some.inj card
          refine .inr ⟨⟨Nat.lt_succ_self _, Nat.lt_succ_self _⟩, ⟨le_rfl, Nat.lt_add_of_pos_right Nat.two_pos⟩,
            .inr ⟨record, known, rfl, ?_⟩⟩
          show (Function.update hook.creatures hook.nextRef encounter.creature hook.nextRef).hp = _
          rw [Function.update_self]
          exact hp_rebuildHeldFoe rebuilt
        · exact .inl (.inr others)
      · exact Function.update_of_ne (Nat.ne_of_lt old) _ _

theorem shifts_engageHeldFoe : Shifts hook hook.engageHeldFoe := by
  unfold engageHeldFoe
  split
  · rename_i foe shown _
    refine shifts_withFoes (fun object held => ?_) fun stored held => .inl held
    rcases held with card | rendered | holding | ⟨task, member, same⟩
    · exact .inl card
    · exact .inr (.inl rendered)
    · exact .inr (.inr (.inl holding))
    · rcases List.mem_append.mp member with earlier | new
      · exact .inr (.inr (.inr ⟨task, earlier, same⟩))
      · -- The closure engages the foe it was rendered with.
        cases List.mem_singleton.mp new
        cases same
        exact .inr (.inl shown)
  · exact (Keeps.refl hook).shifts

theorem shifts_engageClear {i : Nat} {foe : EncounterObject} (success : Bool)
    (task : hook.foes.engages[i]? = some ⟨foe, .clearing⟩) : Shifts hook (hook.engageClear i foe success) := by
  refine shifts_withFoes (fun object held => ?_) fun stored held => .inl ?_
  · rcases held with card | rendered | holding | engaging
    · exact .inl card
    · exact .inr (.inl rendered)
    · exact .inr (.inr (.inl holding))
    · exact .inr (.inr (.inr (exists_mem_of_mem_set ⟨foe, .cleared success⟩ task
        rfl engaging)))
  · rcases held with inStore | others
    · cases success with
      | true => cases inStore
      | false => exact .inl inStore
    · exact .inr others

theorem foe_of_engage_erased {i : Nat} {object : EncounterObject}
    (held : (hook.withFoes { hook.foes with engages := hook.foes.engages.eraseIdx i }).Foe object) :
    hook.Foe object := by
  rcases held with card | rendered | holding | ⟨task, member, same⟩
  · exact .inl card
  · exact .inr (.inl rendered)
  · exact .inr (.inr (.inl holding))
  · exact .inr (.inr (.inr ⟨task, List.mem_of_mem_eraseIdx member, same⟩))

theorem shifts_engageResume {i : Nat} {foe : EncounterObject} {success : Bool}
    (task : hook.foes.engages[i]? = some ⟨foe, .cleared success⟩) :
    Shifts hook (hook.engageResume i foe success) := by
  unfold engageResume
  dsimp only
  split
  · refine ⟨le_rfl, le_rfl, fun object present => ?_, fun object held => .inl ?_, fun stored held => .inl held,
      fun _ _ => rfl, id⟩
    · -- The fight is with the object the task was holding; nothing is allocated.
      cases Option.some.inj present
      exact .inl (.inr (.inr (.inr (.inr ⟨_, List.mem_of_getElem? task, rfl⟩))))
    · rcases held with none | others
      · cases none
      · exact foe_of_engage_erased (.inr others)
  · exact shifts_withFoes (fun object held => foe_of_engage_erased held) fun stored held => .inl held

theorem foe_of_hold_set {i : Nat} {foe object : EncounterObject} {phase next : HoldPhase}
    (task : hook.foes.holds[i]? = some ⟨foe, phase⟩)
    (held : (hook.setHolds (hook.foes.holds.set i ⟨foe, next⟩)).Foe object) : hook.Foe object := by
  rcases held with card | rendered | holding | engaging
  · exact .inl card
  · exact .inr (.inl rendered)
  · exact .inr (.inr (.inl (exists_mem_of_mem_set ⟨foe, next⟩ task rfl holding)))
  · exact .inr (.inr (.inr engaging))

theorem foe_of_hold_erased {i : Nat} {object : EncounterObject}
    (held : (hook.setHolds (hook.foes.holds.eraseIdx i)).Foe object) : hook.Foe object := by
  rcases held with card | rendered | ⟨task, member, same⟩ | engaging
  · exact .inl card
  · exact .inr (.inl rendered)
  · exact .inr (.inr (.inl ⟨task, List.mem_of_mem_eraseIdx member, same⟩))
  · exact .inr (.inr (.inr engaging))

theorem stored_of_hold_set {i : Nat} {foe : EncounterObject} {next : HoldPhase} {stored : StoredFoe}
    (other : ∀ encounter, next ≠ .saving encounter)
    (held : (hook.setHolds (hook.foes.holds.set i ⟨foe, next⟩)).Stored stored) : hook.Stored stored := by
  rcases held with inStore | inRefresh | ⟨task, member, saving, same⟩
  · exact .inl inStore
  · exact .inr (.inl inRefresh)
  · rcases List.mem_or_eq_of_mem_set member with kept | rfl
    · exact .inr (.inr ⟨task, kept, saving, same⟩)
    · exact absurd saving (other _)

theorem stored_of_hold_erased {i : Nat} {stored : StoredFoe}
    (held : (hook.setHolds (hook.foes.holds.eraseIdx i)).Stored stored) : hook.Stored stored := by
  rcases held with inStore | inRefresh | ⟨task, member, saving⟩
  · exact .inl inStore
  · exact .inr (.inl inRefresh)
  · exact .inr (.inr ⟨task, List.mem_of_mem_eraseIdx member, saving⟩)

theorem shifts_hold_erased (i : Nat) : Shifts hook (hook.setHolds (hook.foes.holds.eraseIdx i)) :=
  shifts_withFoes (fun _ held => foe_of_hold_erased held) fun _ held => .inl (stored_of_hold_erased held)

theorem shifts_holdRead {i : Nat} {foe : EncounterObject} (success : Bool)
    (task : hook.foes.holds[i]? = some ⟨foe, .reading⟩) : Shifts hook (hook.holdRead i foe success) :=
  shifts_withFoes (fun _ held => foe_of_hold_set task held)
    fun _ held => .inl (stored_of_hold_set (fun _ => HoldPhase.noConfusion) held)

theorem shifts_holdResume {i : Nat} {foe : EncounterObject} {existing : Bool} (draw : ℚ) (loot : LootRoll)
    (task : hook.foes.holds[i]? = some ⟨foe, .read existing⟩) :
    Shifts hook (hook.holdResume i foe existing draw loot) := by
  unfold holdResume
  split
  · exact (shifts_hold_erased i).keeps (keeps_resolvePassiveEncounter _ _ _ _)
  · refine shifts_withFoes (fun _ held => foe_of_hold_set task held) fun stored held => ?_
    rcases held with inStore | inRefresh | ⟨other, member, saving, same⟩
    · exact .inl (.inl inStore)
    · exact .inl (.inr (.inl inRefresh))
    · rcases List.mem_or_eq_of_mem_set member with kept | rfl
      · exact .inl (.inr (.inr ⟨other, kept, saving, same⟩))
      · -- The record about to be written is the foe as it now is.
        have held : hook.Foe foe := .inr (.inr (.inl ⟨_, List.mem_of_getElem? task, rfl⟩))
        exact .inr ⟨foe, held, same.symm, (HoldPhase.saving.inj saving).symm⟩

theorem shifts_holdWrite {i : Nat} {foe : EncounterObject} {encounter : Encounter} (success : Bool)
    (task : hook.foes.holds[i]? = some ⟨foe, .saving encounter⟩) :
    Shifts hook (hook.holdWrite i foe encounter success) := by
  refine shifts_withFoes (fun _ held => foe_of_hold_set task held) fun stored held => .inl ?_
  rcases held with inStore | others
  · cases success with
    | true =>
      -- The record now in the store was the one about to be written.
      cases Option.some.inj inStore
      exact .inr (.inr ⟨_, List.mem_of_getElem? task, rfl, rfl⟩)
    | false => exact .inl inStore
  · exact stored_of_hold_set (fun _ => HoldPhase.noConfusion) (.inr others)

theorem shifts_holdFinish {i : Nat} {foe : EncounterObject} {success : Bool} (draw : ℚ) (loot : LootRoll)
    (task : hook.foes.holds[i]? = some ⟨foe, .saved success⟩) :
    Shifts hook (hook.holdFinish i foe success draw loot) := by
  unfold holdFinish
  dsimp only
  split
  · refine shifts_withFoes (fun object held => ?_) fun stored held => .inl (stored_of_hold_erased held)
    rcases held with card | others
    · -- The card shows the object that was being held.
      cases Option.some.inj card
      exact .inr (.inr (.inl ⟨_, List.mem_of_getElem? task, rfl⟩))
    · exact foe_of_hold_erased (.inr others)
  · exact (shifts_hold_erased i).keeps (keeps_resolvePassiveEncounter _ _ _ _)

theorem shifts_render : Shifts hook (hook.withFoes { hook.foes with rendered := hook.foes.heldFoe }) := by
  refine shifts_withFoes (fun object held => ?_) fun stored held => .inl held
  rcases held with card | rendered | others
  · exact .inl card
  · exact .inl rendered
  · exact .inr (.inr others)

theorem shifts_wipeStore : Shifts hook (hook.withFoes { hook.foes with pendingStore := none }) := by
  refine shifts_withFoes (fun object held => held) fun stored held => .inl ?_
  rcases held with none | others
  · cases none
  · exact .inr others

theorem shifts_switchAccount : Shifts hook hook.switchAccount := by
  refine ⟨le_rfl, le_rfl, fun object present => ?_, fun object held => .inl ?_, fun stored held => .inl held,
    fun _ _ => rfl, fun pending => by cases pending⟩
  · cases present
  · rcases held with none | others
    · cases none
    · exact .inr others

theorem fresh_rolled {encounter : Encounter} {object : EncounterObject} (alive : 0 < encounter.creature.hp)
    (ref : object.ref = hook.nextRef + 1) (creature : object.creature = hook.nextRef)
    (eid : object.eid = hook.nextEncounter) (refs : after.nextRef = hook.nextRef + 2)
    (counted : after.nextEncounter = hook.nextEncounter + 1)
    (placed : after.creatures = Function.update hook.creatures hook.nextRef encounter.creature) :
    hook.Fresh after object where
  ref := by omega
  creature := by omega
  source := by
    refine .inl ⟨eid, by omega, ?_⟩
    rw [creatureOf, placed, creature, Function.update_self]
    exact alive

theorem shifts_routeEncounter (tick : Tick) {encounter : Encounter} (alive : 0 < encounter.creature.hp) :
    Shifts hook (hook.routeEncounter tick encounter) := by
  have counted : Shifts hook { hook with nextEncounter := hook.nextEncounter + 1 } :=
    ⟨le_rfl, Nat.le_succ _, fun _ present => .inl (.inl present), fun _ held => .inl held,
      fun _ held => .inl held, fun _ _ => rfl, id⟩
  have untouched : ∀ creature < hook.nextRef,
      Function.update hook.creatures hook.nextRef encounter.creature creature = hook.creatures creature :=
    fun creature old => Function.update_of_ne (Nat.ne_of_lt old) _ _
  unfold routeEncounter
  dsimp only
  split
  · refine ⟨Nat.le_add_right _ _, Nat.le_succ _, fun object present => ?_, fun object held => .inl held,
      fun stored held => .inl held, untouched, id⟩
    cases Option.some.inj present
    exact .inr (fresh_rolled alive rfl rfl rfl rfl rfl rfl)
  · exact counted.keeps (keeps_resolvePassiveEncounter _ _ _ _)
  · refine ⟨Nat.le_add_right _ _, Nat.le_succ _, fun object present => .inl (.inl present),
      fun object held => ?_, fun stored held => .inl ?_, untouched, id⟩
    · rcases held with card | rendered | ⟨task, member, same⟩ | engaging
      · exact .inl (.inl card)
      · exact .inl (.inr (.inl rendered))
      · rcases List.mem_append.mp member with earlier | new
        · exact .inl (.inr (.inr (.inl ⟨task, earlier, same⟩)))
        · cases List.mem_singleton.mp new
          cases same
          exact .inr (fresh_rolled alive rfl rfl rfl rfl rfl rfl)
      · exact .inl (.inr (.inr (.inr engaging)))
    · rcases held with inStore | inRefresh | ⟨task, member, saving⟩
      · exact .inl inStore
      · exact .inr (.inl inRefresh)
      · rcases List.mem_append.mp member with earlier | new
        · exact .inr (.inr ⟨task, earlier, saving⟩)
        · cases List.mem_singleton.mp new
          cases saving.1
  · exact counted.keeps (keeps_resolvePassiveEncounter _ _ _ _)

theorem shifts_onDistanceEncounterUpdate (tick : Tick) (currentPlayer : Option Player) :
    Shifts hook (hook.onDistanceEncounterUpdate tick currentPlayer) := by
  unfold onDistanceEncounterUpdate
  split
  · exact keeps_handleFlee.shifts
  · split
    · exact shifts_routeEncounter tick (hp_createRandomEncounter_pos _ _ _ _ _ _ _)
    · exact (Keeps.refl hook).shifts

theorem Shifts.of_walk {incremental : ℚ} (shifts : Shifts (hook.walk incremental) after) :
    Shifts hook after := by
  unfold walk at shifts
  split at shifts
  · exact ⟨shifts.nextRef, shifts.nextEncounter,
      fun object present => (shifts.active object present).imp_right fun fresh =>
        ⟨fresh.ref, fresh.creature, fresh.source⟩,
      fun object held => (shifts.foes object held).imp_right fun fresh =>
        ⟨fresh.ref, fresh.creature, fresh.source⟩,
      shifts.stored, shifts.creatures, shifts.killed⟩
  · exact shifts

theorem creatures_turned {encounter : EncounterObject} {turn : TurnOutcome} {creature : Nat}
    (updated : after.creatures = Function.update before.creatures encounter.creature turn.creature)
    (ready : before.core.Ready encounter)
    (renewed : ∃ renewed ∈ after.combat.encounterRef,
      renewed.creature = encounter.creature ∧ renewed.eid = encounter.eid)
    (outcome : (after.combat.killBeatPending = true ∧ turn.creature.hp ≤ 0) ∨ 0 < turn.creature.hp) :
    after.creatures creature = before.creatures creature ∨ before.Turned after creature := by
  by_cases fought : creature = encounter.creature
  · subst fought
    refine .inr ⟨encounter, ready, rfl, renewed, ?_⟩
    rw [updated, Function.update_self]
    exact outcome
  · rw [updated]
    exact .inl (Function.update_of_ne fought _ _)

theorem evolves_dotKill {encounter : EncounterObject} {turn : TurnOutcome}
    (ready : hook.core.Ready encounter) (dead : turn.creature.hp ≤ 0) :
    Evolves hook (hook.dotKill encounter turn) := by
  obtain ⟨hits, next, killed⟩ := dotKill_eq ready turn
  have fought : (Function.update hook.creatures encounter.creature turn.creature encounter.creature).hp ≤ 0 := by
    rw [Function.update_self]
    exact dead
  rw [killed]
  refine ⟨le_rfl, le_rfl, fun object present => .inl (.inl present), fun object held => .inl held,
    fun stored held => .inl held, fun creature _ => ?_, fun _ => .inr ⟨encounter, ready.active, ?_⟩⟩
  · exact creatures_turned rfl ready ⟨encounter, ready.active, rfl, rfl⟩ (.inl ⟨rfl, dead⟩)
  · exact fought

theorem evolves_resolvedTurn {encounter : EncounterObject} {turn : TurnOutcome}
    (ready : hook.core.Ready encounter) : Evolves hook (hook.resolvedTurn encounter turn) := by
  have renewed : ({ encounter with ref := hook.nextRef } : EncounterObject).creature = encounter.creature ∧
      ({ encounter with ref := hook.nextRef } : EncounterObject).eid = encounter.eid := ⟨rfl, rfl⟩
  obtain ⟨hits, next, ⟨dead, won⟩ | ⟨alive, struck⟩⟩ := resolvedTurn_cases ready turn
  · rw [won]
    refine ⟨Nat.le_succ _, le_rfl, fun object present => ?_, fun object held => .inl held,
      fun stored held => .inl held, fun creature _ => ?_, fun _ => .inr ⟨_, rfl, ?_⟩⟩
    · exact .inr (.inr ⟨encounter, ready.active, (Option.some.inj present).symm, Nat.lt_succ_self _⟩)
    · exact creatures_turned rfl ready ⟨_, rfl, renewed⟩ (.inl ⟨rfl, dead⟩)
    · show (Function.update hook.creatures encounter.creature turn.creature encounter.creature).hp ≤ 0
      rw [Function.update_self]
      exact dead
  · rw [struck]
    refine ⟨Nat.le_succ _, le_rfl, fun object present => ?_, fun object held => .inl held,
      fun stored held => .inl held, fun creature _ => ?_, .inl⟩
    · exact .inr (.inr ⟨encounter, ready.active, (Option.some.inj present).symm, Nat.lt_succ_self _⟩)
    · exact creatures_turned rfl ready ⟨_, rfl, renewed⟩ (.inr alive)

theorem evolves_playAbility {encounter : EncounterObject} (ready : hook.core.Ready encounter)
    (player : Player) (state : CombatantState) (ability : Ability) (draw : ℚ) :
    Evolves hook (hook.playAbility encounter player state ability draw).1 := by
  unfold playAbility
  dsimp only
  split
  · exact evolves_resolvedTurn ready
  · rename_i stopped
    have dead := isDefeated_of_not_resolved (Bool.eq_false_of_not_eq_true stopped)
    exact evolves_dotKill ready ((Creature.isDefeated_eq_true _).mp dead)

theorem evolves_handleAbility (ability : Ability) (draw : ℚ) (loot : LootRoll) :
    Evolves hook (hook.handleAbility ability draw loot).1 := by
  rcases hook.handleAbility_cases ability draw loot with
    refused | ⟨encounter, active, dead, won⟩ | ⟨encounter, player, state, ready, _, _, _, _, played⟩
  · rw [refused]
    exact (Keeps.refl hook).evolves
  · rw [won]
    refine ((keeps_handleVictory none loot).trans ?_).evolves
    exact ⟨rfl, rfl, .inl rfl, rfl, rfl, id⟩
  · rw [played]
    exact evolves_playAbility ready player state ability draw

theorem evolves_of_step (taken : hook.step action = some after) : Evolves hook after := by
  have unchanged : Keeps hook hook := .refl hook
  cases does_of_step taken with
  | tick tick => exact (shifts_onDistanceEncounterUpdate tick _).of_walk.evolves
  | fight loot => exact (keeps_handleFight loot).evolves
  | ability ability draw loot => exact evolves_handleAbility ability draw loot
  | flee => exact keeps_handleFlee.evolves
  | autoResolve loot => exact (keeps_handleAutoResolve loot).evolves
  | minimize => exact Keeps.evolves ⟨rfl, rfl, .inl rfl, rfl, rfl, id⟩
  | closeCombat =>
    unfold handleCloseCombatModal
    split <;> exact Keeps.evolves ⟨rfl, rfl, .inl rfl, rfl, rfl, id⟩
  | expand => exact Keeps.evolves ⟨rfl, rfl, .inl rfl, rfl, rfl, id⟩
  | fireKillBeat loot armed =>
    refine (Keeps.trans ?_ (keeps_handleVictory _ loot)).evolves
    exact ⟨rfl, rfl, .inl rfl, rfl, rfl, id⟩
  | fireCounter draw armed => exact (keeps_fireCounter _ draw).evolves
  | fireReveal => exact Keeps.evolves ⟨rfl, rfl, .inl rfl, rfl, rfl, id⟩
  | dismissReward => exact Keeps.evolves ⟨rfl, rfl, .inl rfl, rfl, rfl, id⟩
  | refresh => exact shifts_refreshHeldFoe.evolves
  | refreshRead success _ => exact (shifts_refreshRead success).evolves
  | refreshResume now read => exact (shifts_refreshResume now read).evolves
  | engage => exact shifts_engageHeldFoe.evolves
  | engageClear success task => exact (shifts_engageClear success task).evolves
  | engageResume task => exact (shifts_engageResume task).evolves
  | holdRead success task => exact (shifts_holdRead success task).evolves
  | holdResume draw loot task => exact (shifts_holdResume draw loot task).evolves
  | holdWrite success task => exact (shifts_holdWrite success task).evolves
  | holdFinish draw loot task => exact (shifts_holdFinish draw loot task).evolves
  | render => exact shifts_render.evolves
  | setPlayer player => exact Keeps.evolves ⟨rfl, rfl, .inl rfl, rfl, rfl, id⟩
  | switchAccount => exact shifts_switchAccount.evolves
  | wipeStore => exact shifts_wipeStore.evolves

structure Bounded (hook : Hook) : Prop where
  ref : ∀ object, hook.Object object → object.ref < hook.nextRef
  creature : ∀ object, hook.Object object → object.creature < hook.nextRef
  eid : ∀ object, hook.Object object → object.eid < hook.nextEncounter
  stored : ∀ stored, hook.Stored stored → stored.eid < hook.nextEncounter

theorem start_no_object (player : Option Player) (stored : Option Encounter) (object : EncounterObject) :
    ¬(start player stored).Object object := by
  rintro (active | card | rendered | ⟨task, member, _⟩ | ⟨task, member, _⟩)
  · cases active
  · cases card
  · cases rendered
  · cases member
  · cases member

theorem start_stored {player : Option Player} {stored : Option Encounter} {record : StoredFoe}
    (held : (start player stored).Stored record) : stored = some record.encounter ∧ record.eid = 0 := by
  rcases held with inStore | ⟨found, read, _⟩ | ⟨task, member, _⟩
  · obtain ⟨encounter, here, rfl⟩ := Option.map_eq_some_iff.mp inStore
    exact ⟨here, rfl⟩
  · cases read
  · cases member

theorem start_bounded (player : Option Player) (stored : Option Encounter) :
    (start player stored).Bounded where
  ref object present := absurd present (start_no_object player stored object)
  creature object present := absurd present (start_no_object player stored object)
  eid object present := absurd present (start_no_object player stored object)
  stored record held := by
    rw [(start_stored held).2]
    exact Nat.one_pos

theorem Fresh.eid_lt {object : EncounterObject} (fresh : before.Fresh after object) (bounded : before.Bounded)
    (grown : before.nextEncounter ≤ after.nextEncounter) : object.eid < after.nextEncounter := by
  rcases fresh.source with ⟨rolled, counted, _⟩ | ⟨stored, held, same, _⟩
  · rw [rolled]
    exact counted
  · rw [same]
    exact (bounded.stored stored held).trans_le grown

theorem Evolves.object {object : EncounterObject} (evolves : Evolves before after)
    (present : after.Object object) : before.Object object ∨ before.Fresh after object ∨
      ∃ encounter ∈ before.combat.encounterRef,
        object = { encounter with ref := before.nextRef } ∧ before.nextRef < after.nextRef := by
  rcases present with active | foe
  · exact evolves.active object active
  · rcases evolves.foes object foe with held | fresh
    · exact .inl (.inr held)
    · exact .inr (.inl fresh)

theorem Bounded.evolves (bounded : before.Bounded) (evolves : Evolves before after) : after.Bounded := by
  refine ⟨fun object present => ?_, fun object present => ?_, fun object present => ?_, fun stored held => ?_⟩
  · rcases evolves.object present with old | fresh | ⟨encounter, active, rfl, renewed⟩
    · exact (bounded.ref object old).trans_le evolves.nextRef
    · exact fresh.ref.2
    · exact renewed
  · rcases evolves.object present with old | fresh | ⟨encounter, active, rfl, renewed⟩
    · exact (bounded.creature object old).trans_le evolves.nextRef
    · exact fresh.creature.2
    · exact (bounded.creature encounter (.inl active)).trans_le evolves.nextRef
  · rcases evolves.object present with old | fresh | ⟨encounter, active, rfl, renewed⟩
    · exact (bounded.eid object old).trans_le evolves.nextEncounter
    · exact fresh.eid_lt bounded evolves.nextEncounter
    · exact (bounded.eid encounter (.inl active)).trans_le evolves.nextEncounter
  · rcases evolves.stored stored held with old | ⟨object, foe, same, _⟩
    · exact (bounded.stored stored old).trans_le evolves.nextEncounter
    · rw [same]
      exact (bounded.eid object (.inr foe)).trans_le evolves.nextEncounter

end Hook

end WalkingRpg

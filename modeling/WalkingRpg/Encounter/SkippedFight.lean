import WalkingRpg.Encounter.Beats
import WalkingRpg.Encounter.Passive
import WalkingRpg.Services.LootService

/-! Skipping a fight against winning it.

An encounter below rare can be skipped in two ways: the toggle resolves it as it is rolled, and a
button resolves it once it is presented. The first runs `resolvePassiveEncounter` of the active tier,
the second `handleVictory`. The two functions are written apart and save the same player.
-/

set_option autoImplicit false

namespace WalkingRpg

/-- The drop of `handleVictory`, under the debug settings of the hook. -/
def victoryLoot (now : ℕ) (forceItemDrop : Bool) (forcedRarity : Option Rarity) (stream : ℕ → ℚ)
    (position : ℕ) : LootRoll :=
  fun level => (LootService.dropActiveCombatItem now forceItemDrop level forcedRarity stream position).1

/-- The drop of a skipped encounter, which the debug settings never force. -/
def skippedLoot (now : ℕ) (stream : ℕ → ℚ) (position : ℕ) : LootRoll :=
  fun level => (LootService.dropActiveCombatItem now false level none stream position).1

namespace Hook

variable {hook fighter : Hook} {player : Player} {encounter : EncounterObject}

theorem saved_handleVictory (active : fighter.combat.encounterRef = some encounter)
    (unresolved : fighter.combat.victoryProcessed = false) (player : Player) (loot : LootRoll) :
    (fighter.handleVictory (some player) loot).saved =
      some (victoryReward player (fighter.creatureOf encounter) loot).1 := by
  simp [handleVictory, active, unresolved, payVictory, setPlayerAndSave, log]

theorem saved_handleAutoResolve (loaded : fighter.playerRef = some player)
    (active : fighter.combat.encounterRef = some encounter) (unresolved : fighter.combat.victoryProcessed = false)
    (belowRare : isEliteCreature (fighter.creatureOf encounter) = false) (loot : LootRoll) :
    (fighter.handleAutoResolve loot).saved =
      some (victoryReward player (fighter.creatureOf encounter) loot).1 := by
  have closed := @saved_handleVictory (fighter.closeModals.log (.autoResolved encounter.eid)) encounter active
    unresolved player loot
  have skips : fighter.handleAutoResolve loot =
      (fighter.closeModals.log (.autoResolved encounter.eid)).handleVictory (some player) loot := by
    simp [handleAutoResolve, loaded, active, belowRare]
  rw [skips]
  exact closed

theorem saved_resolvePassiveEncounter (loaded : hook.playerRef = some player) (creature : Creature) (draw : ℚ)
    (loot : LootRoll) :
    (hook.resolvePassiveEncounter creature .active draw loot).saved = some (victoryReward player creature loot).1 := by
  rw [← passiveReward_active player creature draw loot, resolvePassiveEncounter, loaded]
  rfl

/-- From the same player, with the debug settings off, skipping an encounter saves what winning it saves, at
full HP, on every stream of draws. -/
theorem skipped_fight_saves_as_won (loaded : hook.playerRef = some player)
    (fighting : fighter.playerRef = some player) (active : fighter.combat.encounterRef = some encounter)
    (unresolved : fighter.combat.victoryProcessed = false)
    (belowRare : isEliteCreature (fighter.creatureOf encounter) = false)
    (draw : ℚ) (now : ℕ) (stream : ℕ → ℚ) (position : ℕ) :
    let skipped := hook.resolvePassiveEncounter (fighter.creatureOf encounter) .active draw
      (skippedLoot now stream position)
    let loot := victoryLoot now false none stream position
    ∃ saved, skipped.saved = some saved ∧ saved.hp = saved.maxHp ∧
      (fighter.handleVictory (some player) loot).saved = some saved ∧
      (fighter.handleAutoResolve loot).saved = some saved := by
  dsimp only
  rw [saved_resolvePassiveEncounter loaded, saved_handleVictory active unresolved,
    saved_handleAutoResolve fighting active unresolved belowRare]
  exact ⟨_, rfl, hp_victoryReward _ _ _, rfl, rfl⟩

theorem saved_routeEncounter_toggle (loaded : hook.playerRef = some player) {rolledEncounter : Encounter}
    (belowRare : isEliteCreature rolledEncounter.creature = false) {skips presents : Tick}
    (foreground : skips.isBackground = false) (toggled : skips.autoResolveBelowRare = true)
    (presented : presents.isBackground = false) (untoggled : presents.autoResolveBelowRare = false) :
    (hook.routeEncounter skips rolledEncounter).saved =
      ((hook.routeEncounter presents rolledEncounter).handleAutoResolve skips.loot).saved := by
  let allocated := hook.rolled.allocate hook.nextEncounter rolledEncounter
  have skipped : hook.routeEncounter skips rolledEncounter =
      hook.rolled.resolvePassiveEncounter rolledEncounter.creature .active skips.draw skips.loot := by
    simp [routeEncounter, resolveEncounterRoute, belowRare, foreground, toggled, rolled]
  have shown : hook.routeEncounter presents rolledEncounter = allocated.1.presentEncounter allocated.2 := by
    simp [routeEncounter, resolveEncounterRoute, presented, untoggled, allocated, rolled]
  have creature : (allocated.1.presentEncounter allocated.2).creatureOf allocated.2 = rolledEncounter.creature :=
    Function.update_self ..
  have won := @saved_handleAutoResolve (allocated.1.presentEncounter allocated.2) player allocated.2 loaded rfl rfl
    (by rw [creature]; exact belowRare) skips.loot
  rw [skipped, shown, won, creature]
  exact @saved_resolvePassiveEncounter hook.rolled player loaded rolledEncounter.creature skips.draw skips.loot

/-- The first creature of a walk, presented to a level 1 mage and skipped. -/
theorem skipped_fight_saves_as_won_first : ∃ fighter encounter,
    Runs.Run step (fun _ _ => True) (start mage none) [.tick (stroll 60 (some firstRoll))] fighter ∧
      fighter.combat.encounterRef = some encounter ∧
      (fighter.handleAutoResolve (victoryLoot 1 false none (fun _ => 0) 0)).saved =
        ((start fighter.playerRef none).resolvePassiveEncounter (fighter.creatureOf encounter) .active 0
          (skippedLoot 1 (fun _ => 0) 0)).saved := by
  have reached : ∃ fighter, Runs.Run step (fun _ _ => True) (start mage none)
      [.tick (stroll 60 (some firstRoll))] fighter ∧
      fighter.playerRef.isSome = true ∧ fighter.combat.victoryProcessed = false ∧
        (fighter.combat.encounterRef.any fun encounter => !isEliteCreature (fighter.creatureOf encounter)) = true :=
    Runs.Run.exists_of_exec (by decide +kernel)
  obtain ⟨fighter, run, present, unresolved, below⟩ := reached
  obtain ⟨player, loaded⟩ := Option.isSome_iff_exists.mp present
  obtain ⟨encounter, active, common⟩ := (Option.any_eq_true _ _).mp below
  have belowRare : isEliteCreature (fighter.creatureOf encounter) = false := by simpa using common
  have same : (start fighter.playerRef none).playerRef = some player := loaded
  obtain ⟨_, skipped, _, _, won⟩ :=
    skipped_fight_saves_as_won same loaded active unresolved belowRare 0 1 (fun _ => 0) 0
  exact ⟨fighter, encounter, run, active, won.trans skipped.symm⟩

end Hook

end WalkingRpg

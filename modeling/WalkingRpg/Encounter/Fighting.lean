import WalkingRpg.Encounter.Moves
import WalkingRpg.Models.Fight

/-! The fight inside the encounter hook.

`ongoing` reads the fight out of the refs of the hook. Every ability call that the hook accepts is one
step of that fight; the counter beats and the buttons of the modals leave it as it is or end it. So
a stretch of the hook between the opening and the end of a fight is a run of the fight.
-/

set_option autoImplicit false

namespace WalkingRpg

open Runs (Run)

namespace Hook

/-- The fight that the refs describe. -/
def ongoing (hook : Hook) : Option Fight :=
  match hook.combat.encounterRef, hook.combat.playerCombatState with
  | some encounter, some state =>
    some ⟨hook.creatureOf encounter, state, hook.combat.creatureCombatState, hook.combat.creatureDodgeStreak⟩
  | _, _ => none

variable {hook after : Hook} {encounter : EncounterObject} {fight : Fight}

theorem ongoing_eq {state : CombatantState} (active : hook.combat.encounterRef = some encounter)
    (entered : hook.combat.playerCombatState = some state) :
    hook.ongoing = some ⟨hook.creatureOf encounter, state, hook.combat.creatureCombatState,
      hook.combat.creatureDodgeStreak⟩ := by
  rw [ongoing, active, entered]

theorem ongoing_of_ended (ended : hook.combat.encounterRef = none) : hook.ongoing = none := by
  rw [ongoing, ended]

theorem ongoing_openCombat (active : hook.combat.encounterRef = some encounter)
    (entered : hook.combat.playerCombatState = none) (fresh : hook.combat.creatureCombatState = none)
    (player : Player) :
    (hook.openCombat player).ongoing = some (.opened (hook.creatureOf encounter) player.archetype) := by
  simp [ongoing, openCombat, active, entered, fresh, Fight.opened, creatureOf]

theorem ongoing_scheduleVictory (player : Player) (eid : Nat) :
    (hook.scheduleVictory player eid).ongoing = hook.ongoing := by
  unfold scheduleVictory
  split <;> rfl

theorem ongoing_scheduleCounterAttack (creatureAttack playerDefense : ℚ) (creature : Nat) :
    (hook.scheduleCounterAttack creatureAttack playerDefense creature).ongoing = hook.ongoing := by
  unfold scheduleCounterAttack
  split <;> rfl

theorem ongoing_writeTurn (active : hook.combat.encounterRef = some encounter) (turn : TurnOutcome) :
    (hook.writeTurn encounter turn).ongoing =
      some ⟨turn.creature, turn.playerState, turn.creatureState, turn.creatureDodgeStreak⟩ := by
  simp [ongoing, writeTurn, active, creatureOf]

theorem ongoing_renewEncounter (active : hook.combat.encounterRef = some encounter) :
    (hook.renewEncounter encounter).ongoing = hook.ongoing := by
  cases entered : hook.combat.playerCombatState with
  | none => simp [ongoing, renewEncounter, entered]
  | some state => simp [ongoing, renewEncounter, active, entered, creatureOf]

theorem ongoing_playAbility (active : hook.combat.encounterRef = some encounter) (player : Player)
    (state : CombatantState) (ability : Ability) (draw : ℚ) :
    let turn := playTurn player (hook.creatureOf encounter) state hook.combat.creatureCombatState ability
      hook.combat.creatureDodgeStreak draw
    (hook.playAbility encounter player state ability draw).1.ongoing =
      some ⟨turn.creature, turn.playerState, turn.creatureState, turn.creatureDodgeStreak⟩ := by
  intro turn
  have written := ongoing_writeTurn active turn
  have shared : (hook.writeTurn encounter turn).combat.encounterRef = some encounter := active
  unfold playAbility
  dsimp only
  split
  · unfold resolvedTurn
    dsimp only
    split
    · rw [ongoing_scheduleVictory]
      exact (ongoing_renewEncounter shared).trans written
    · rw [ongoing_scheduleCounterAttack]
      exact (ongoing_renewEncounter shared).trans written
  · unfold dotKill
    rw [ongoing_scheduleVictory]
    exact written

theorem ongoing_handleAbility (ongoing : hook.ongoing = some fight) (ability : Ability) (draw : ℚ)
    (loot : LootRoll) :
    (∃ player next, hook.playerRef = some player ∧ fight.step ⟨player, ability, draw⟩ = some next ∧
      (hook.handleAbility ability draw loot).1.ongoing = some next) ∨
    (hook.handleAbility ability draw loot).1.ongoing = some fight ∨
    (hook.handleAbility ability draw loot).1.ongoing = none := by
  rcases hook.handleAbility_cases ability draw loot with
    refused | ⟨encounter, active, dead, won⟩ |
    ⟨encounter, player, state, ready, loaded, entered, alive, affordable, played⟩
  · rw [refused]
    exact .inr (.inl ongoing)
  · -- A dead creature: the victory is paid, or there is nothing to pay.
    rw [won]
    rcases hook.handleVictory_cases none loot with ⟨_, _, _, _, _, paid⟩ | ⟨_, same⟩
    · rw [paid]
      exact .inr (.inr rfl)
    · rw [same]
      exact .inr (.inl ongoing)
  · have active : hook.combat.encounterRef = some encounter := ready.active
    cases Option.some.inj ((ongoing_eq active entered).symm.trans ongoing)
    rw [played]
    refine .inl ⟨player, _, loaded, ?_, ongoing_playAbility active player state ability draw⟩
    simp only [Fight.step, alive, Bool.false_eq_true, if_false, if_neg (not_lt.mpr affordable)]
    rfl

theorem ongoing_fireCounter (beat : CounterBeat) (draw : ℚ) :
    (hook.fireCounter beat draw).ongoing = hook.ongoing ∨ (hook.fireCounter beat draw).ongoing = none := by
  unfold fireCounter
  split
  · split
    · exact .inl rfl
    · unfold strike
      dsimp only
      split
      · -- The strike defeated the player, and the fight is over.
        right
        apply ongoing_of_ended
        unfold handlePlayerDefeat
        dsimp only
        split <;> rfl
      · exact .inl rfl
  · exact .inl rfl

/-- The actions of a fight: ability calls of a certain kind, counter beats and the buttons of the modals. -/
def Fighting (kind : AbilityCall → Prop) (hook : Hook) : Action → Prop
  | .ability ability draw _ => ∀ player ∈ hook.playerRef, kind ⟨player, ability, draw⟩
  | .fireCounter _ => True
  | .minimize => True
  | .expand => True
  | .closeCombat => True
  | _ => False

theorem ongoing_step {kind : AbilityCall → Prop} {action : Action} (ongoing : hook.ongoing = some fight)
    (fighting : Fighting kind hook action) (taken : hook.step action = some after) :
    (∃ call next, kind call ∧ fight.step call = some next ∧ after.ongoing = some next) ∨
      after.ongoing = some fight ∨ after.ongoing = none := by
  cases does_of_step taken <;> try exact absurd fighting id
  case ability ability draw loot =>
    rcases ongoing_handleAbility ongoing ability draw loot with ⟨player, next, loaded, stepped, now⟩ | rest
    · exact .inl ⟨_, next, fighting player loaded, stepped, now⟩
    · exact .inr rest
  case minimize => exact .inr (.inl ongoing)
  case closeCombat =>
    refine .inr (.inl ?_)
    unfold handleCloseCombatModal
    split <;> exact ongoing
  case expand => exact .inr (.inl ongoing)
  case fireCounter beat draw armed =>
    rcases hook.ongoing_fireCounter beat draw with same | ended
    · exact .inr (.inl (same.trans ongoing))
    · exact .inr (.inr ended)

theorem not_ongoing_step {kind : AbilityCall → Prop} {action : Action} (ended : hook.ongoing = none)
    (fighting : Fighting kind hook action) (taken : hook.step action = some after) : after.ongoing = none := by
  cases does_of_step taken <;> try exact absurd fighting id
  case ability ability draw loot =>
    unfold handleAbility
    split
    · rename_i active loaded entered
      rw [ongoing_eq active entered] at ended
      cases ended
    · exact ended
  case minimize => exact ended
  case closeCombat =>
    unfold handleCloseCombatModal
    split <;> exact ended
  case expand => exact ended
  case fireCounter beat draw armed =>
    rcases hook.ongoing_fireCounter beat draw with same | ended
    · exact same.trans ended
    · exact ended

theorem run_fighting {start : Hook} {opening : Fight} {kind : AbilityCall → Prop} {actions : List Action}
    (opened : start.ongoing = some opening) (run : Run step (Fighting kind) start actions hook) :
    hook.ongoing = none ∨ ∃ calls fight, hook.ongoing = some fight ∧
      Run Fight.step (fun _ call => kind call) opening calls fight := by
  refine run.invariant (fun hook => hook.ongoing = none ∨ ∃ calls fight, hook.ongoing = some fight ∧
    Run Fight.step (fun _ call => kind call) opening calls fight) (.inr ⟨[], opening, opened, .nil opening⟩) ?_
  rintro before action after (ended | ⟨calls, fight, ongoing, played⟩) fighting taken
  · exact .inl (not_ongoing_step ended fighting taken)
  · rcases ongoing_step ongoing fighting taken with ⟨call, next, known, stepped, now⟩ | same | ended
    · exact .inr ⟨_, next, now, played.snoc known stepped⟩
    · exact .inr ⟨calls, fight, same, played⟩
    · exact .inl ended

/-- From the opening of the combat modal on, as long as the fight goes on with the abilities of an archetype,
one of them can be afforded. -/
theorem run_fighting_affordable {before : Hook} {player : Player} {actions : List Action}
    (active : before.combat.encounterRef = some encounter) (entered : before.combat.playerCombatState = none)
    (fresh : before.combat.creatureCombatState = none)
    (run : Run step (Fighting fun call => call.player.archetype = player.archetype ∧
      call.ability ∈ archetypeAbilities player.archetype) (before.openCombat player) actions hook)
    (ongoing : hook.ongoing = some fight) :
    ∃ ability ∈ archetypeAbilities player.archetype, ability.resourceCost ≤ fight.playerState.resource := by
  rcases run_fighting (ongoing_openCombat active entered fresh player) run with ended | ⟨calls, played, now, fought⟩
  · rw [ended] at ongoing
    cases ongoing
  · cases Option.some.inj (now.symm.trans ongoing)
    obtain ⟨ability, known, cheap⟩ := Fight.exists_affordable player.archetype
    exact ⟨ability, known, cheap.trans (Fight.resource_of_run (fun _ fits => fits.1) fought).1⟩

end Hook

end WalkingRpg

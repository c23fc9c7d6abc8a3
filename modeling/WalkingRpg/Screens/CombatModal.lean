import WalkingRpg.Encounter.Fighting
import WalkingRpg.Models.Damage

/-! The buttons of the combat modal: what they announce, and what the turn then does.

The preview is computed from the creature as it is shown, the turn from the creature under its
status effects. The two agree as long as no effect moves the defense of the creature.
-/

set_option autoImplicit false

namespace WalkingRpg

open Runs (Run)

namespace CombatModal

/-- A piece of a template literal. Numbers are kept as they are, without their formatting. -/
inductive Piece where
  | text (characters : String)
  | number (value : ℚ)
  deriving DecidableEq

def statChange (label : String) (value : ℚ) : List Piece :=
  [.text (if value > 0 then "+" else ""), .number value, .text label]

def getDamagePreview (player : Player) (creature : Creature) (playerCombatState : Option CombatantState)
    (ability : Ability) : List Piece :=
  match ability.primitive with
  | .direct _ _ =>
    let effectiveAttack := (computeEffectiveStats player.attack player.defense
      ((playerCombatState.map CombatantState.statusEffects).getD [])).attack
    let dmg := (resolveAbility ability effectiveAttack creature.defense creature.resistances player.maxHp).damage
    [.text "~", .number dmg, .text " dmg"]
  | .dot damagePerTick tickCount _ => [.number damagePerTick, .text "×", .number tickCount, .text " DoT"]
  | .buffDebuff tickDuration mods _ =>
    let parts := (mods.attack.map (statChange " ATK")).toList ++ (mods.defense.map (statChange " DEF")).toList
    [.text ", "].intercalate parts ++ [.text " (", .number tickDuration, .text "t)"]
  | .defensive _ _ _ =>
    let result := resolveAbility ability 0 0 creature.resistances player.maxHp
    if result.heal > 0 then [.text "+", .number result.heal, .text " HP"]
    else if result.shield > 0 then [.number result.shield, .text " shield"]
    else []

def handleAbilityPress (player : Player) (creature : Creature) (playerCombatState : Option CombatantState)
    (ability : Ability) : Option Ability :=
  let currentResource := (playerCombatState.map CombatantState.resource).getD
    (resourceConfigs player.archetype).startValue
  if creature.isDefeated ∨ player.isDefeated ∨ ability.resourceCost > currentResource then none
  else some ability

end CombatModal

namespace Ability

/-- The ability puts no effect on the creature that moves its defense. -/
def SparesDefense (ability : Ability) : Prop :=
  ∀ effect ∈ ability.effectsOn false, effect.modifier StatModifiers.defense = 0

instance (ability : Ability) : Decidable ability.SparesDefense :=
  inferInstanceAs (Decidable (∀ effect ∈ ability.effectsOn false, effect.modifier StatModifiers.defense = 0))

theorem sparesDefense_archetypeAbilities (archetype : Archetype) :
    ∀ ability ∈ archetypeAbilities archetype, ability.SparesDefense := by
  cases archetype <;> decide +kernel

end Ability

namespace Fight

open CombatModal (getDamagePreview handleAbilityPress)

variable {start fight : Fight} {call : AbilityCall} {calls : List AbilityCall}

def preview (fight : Fight) (call : AbilityCall) : List CombatModal.Piece :=
  getDamagePreview call.player fight.creature (some fight.playerState) call.ability

theorem step_of_handleAbilityPress
    (pressed : handleAbilityPress call.player fight.creature (some fight.playerState) call.ability =
      some call.ability) :
    ∃ after, fight.step call = some after := by
  unfold handleAbilityPress at pressed
  dsimp only at pressed
  split at pressed
  · cases pressed
  · rename_i accepted
    push Not at accepted
    obtain ⟨alive, _, affordable⟩ := accepted
    exact ⟨_, (if_neg alive).trans (if_neg (not_lt.mpr affordable))⟩

theorem modifier_defense_of_run {kind : AbilityCall → Prop} (bare : start.Bare)
    (spares : ∀ call, kind call → call.ability.SparesDefense)
    (run : Run step (fun _ call => kind call) start calls fight)
    (alive : fight.creature.isDefeated = false) :
    ∀ effect ∈ fight.creatureEffects, effect.modifier StatModifiers.defense = 0 := by
  refine run.invariant (fun fight => fight.creature.isDefeated = false →
    ∀ effect ∈ fight.creatureEffects, effect.modifier StatModifiers.defense = 0) ?_ ?_ alive
  · intro _ effect present
    rw [bare.creature] at present
    cases present
  · intro before call after held known taken survives effect present
    have accepted := accepted_of_step taken
    rcases accepted.outcome with ⟨dead, _⟩ | ⟨_, effects, _⟩
    · rw [survives] at dead
      cases dead
    · rw [effects, List.mem_append] at present
      rcases present with ticked | cast
      · -- A tick shortens an effect and keeps what it modifies.
        obtain ⟨earlier, stood, ticks⟩ := List.mem_filterMap.mp ticked
        unfold StatusEffect.tick at ticks
        split at ticks
        · cases Option.some.inj ticks
          exact held accepted.alive earlier stood
        · cases ticks
      · exact spares call known effect cast

/-- The defense the turn uses is the one the preview uses. -/
def OwnDefense (fight : Fight) : Prop :=
  max 0 (fight.creature.defense + modifierSum StatModifiers.defense fight.creatureEffects) =
    max 0 fight.creature.defense

theorem ownDefense_of_unmodified
    (unmodified : ∀ effect ∈ fight.creatureEffects, effect.modifier StatModifiers.defense = 0) :
    fight.OwnDefense := by
  have none : modifierSum StatModifiers.defense fight.creatureEffects = 0 := by
    refine List.sum_eq_zero fun amount listed => ?_
    obtain ⟨effect, present, rfl⟩ := List.mem_map.mp listed
    exact unmodified effect present
  rw [OwnDefense, none, add_zero]

theorem mitigateDamage_max (attack defense multiplier : ℚ) :
    mitigateDamage attack (max 0 defense) multiplier = mitigateDamage attack defense multiplier := by
  unfold mitigateDamage
  rw [max_eq_right (le_max_left 0 defense)]

section Direct

variable {damageMultiplier : ℚ} {damageType : DamageType}

theorem preview_direct (direct : call.ability.primitive = .direct damageMultiplier damageType) :
    fight.preview call = [.text "~", .number (applyResistance
      (mitigateDamage (max 1 (call.player.attack +
          modifierSum StatModifiers.attack fight.playerState.statusEffects)) fight.creature.defense damageMultiplier)
      (fight.creature.resistances.get damageType)), .text " dmg"] := by
  unfold preview getDamagePreview resolveAbility
  simp only [direct]
  rfl

theorem damage_direct (direct : call.ability.primitive = .direct damageMultiplier damageType) :
    (fight.abilityResult call).damage = applyResistance
      (mitigateDamage (max 1 (call.player.attack +
          modifierSum StatModifiers.attack fight.playerState.statusEffects))
        (fight.creature.defense + modifierSum StatModifiers.defense fight.creatureEffects) damageMultiplier)
      (fight.creature.resistances.get damageType) := by
  rw [← mitigateDamage_max]
  unfold abilityResult resolveAbility
  simp only [direct]
  rfl

theorem preview_of_ownDefense (direct : call.ability.primitive = .direct damageMultiplier damageType)
    (own : fight.OwnDefense) :
    fight.preview call = [.text "~", .number (fight.abilityResult call).damage, .text " dmg"] := by
  rw [preview_direct direct, damage_direct direct, ← mitigateDamage_max _ fight.creature.defense, ← own,
    mitigateDamage_max]

theorem preview_le_of_lowered (direct : call.ability.primitive = .direct damageMultiplier damageType)
    (scale : 0 ≤ damageMultiplier) (atMost : fight.creature.resistances.get damageType ≤ 1)
    (lowered : modifierSum StatModifiers.defense fight.creatureEffects ≤ 0) :
    ∃ shown, fight.preview call = [.text "~", .number shown, .text " dmg"] ∧
      shown ≤ (fight.abilityResult call).damage := by
  refine ⟨_, preview_direct direct, ?_⟩
  rw [damage_direct direct]
  refine applyResistance_mono atMost (mitigateDamage_anti scale _ ?_)
  linarith

end Direct

/-- The preview of a direct ability shows the damage that its turn swings with whenever the creature's
defense is its own, so in every fight played with abilities that spare the defense. -/
theorem preview_matches_swing (fight : Fight) (call : AbilityCall) {damageMultiplier : ℚ} {damageType : DamageType}
    (direct : call.ability.primitive = .direct damageMultiplier damageType)
    (survives : (tickCreature fight.creature fight.creatureState).creature.isDefeated = false) :
    (fight.OwnDefense → ∃ shown, fight.preview call = [.text "~", .number shown, .text " dmg"] ∧
      (fight.abilityResult call).damage = shown ∧
      fight.Ran call (swing call.player.clone (tickCreature fight.creature fight.creatureState).creature
        call.ability shown fight.creatureDodgeStreak call.draw)) ∧
    ∀ (start after : Fight) (calls : List AbilityCall), start.Bare →
      Run step (fun _ call => call.ability.SparesDefense) start calls fight → fight.step call = some after →
      fight.preview call = [.text "~", .number (fight.abilityResult call).damage, .text " dmg"] := by
  refine ⟨?_, ?_⟩
  · intro own
    exact ⟨_, preview_of_ownDefense direct own, rfl, ran_play survives⟩
  · intro start after calls bare run taken
    have alive := (accepted_of_step taken).alive
    have unmodified := modifier_defense_of_run bare (fun _ spares => spares) run alive
    exact preview_of_ownDefense direct (ownDefense_of_unmodified unmodified)

def armoured : Creature :=
  Creature.create
    { id := "armoured", name := "Armoured", type := "dummy", maxHp := 500, attack := 1, defense := 15, speed := 1 }

def sunder : AbilityCall := ⟨.new .mage 1, ⟨"sunder", "Sunder", 0, .buffDebuff 3 ⟨none, some (-10)⟩ false⟩, 0⟩

/-- With a fire burning, the button of the next bolt shows what the bolt does. -/
theorem preview_matches_swing_burning : ∃ fight after,
    Run step (fun _ call => call.ability.SparesDefense) (opened armoured .mage) [immolate] fight ∧
      fight.step arcaneBolt = some after ∧ fight.OwnDefense ∧
      (∃ shown, fight.preview arcaneBolt = [.text "~", .number shown, .text " dmg"] ∧
        (fight.abilityResult arcaneBolt).damage = shown) ∧
      fight.preview arcaneBolt = [.text "~", .number (fight.abilityResult arcaneBolt).damage, .text " dmg"] := by
  have reached : ∃ fight,
      Run step (fun _ call => call.ability.SparesDefense) (opened armoured .mage) [immolate] fight ∧
      (fight.step arcaneBolt).isSome = true ∧
      (tickCreature fight.creature fight.creatureState).creature.isDefeated = false ∧
      max 0 (fight.creature.defense + modifierSum StatModifiers.defense fight.creatureEffects) =
        max 0 fight.creature.defense :=
    Run.exists_of_exec (by decide +kernel)
  obtain ⟨fight, run, accepted, survives, own⟩ := reached
  obtain ⟨after, taken⟩ := Option.isSome_iff_exists.mp accepted
  have matching := preview_matches_swing fight arcaneBolt rfl survives
  obtain ⟨shown, previewed, damage, _⟩ := matching.1 own
  exact ⟨fight, after, run, taken, own, ⟨shown, previewed, damage⟩, matching.2 _ after _ ⟨rfl, rfl⟩ run taken⟩

/-- Under a debuff of the defense the button shows one number and the turn computes another. -/
theorem preview_sundered : ∃ fight after,
    Run step (fun _ _ => True) (opened armoured .mage) [sunder] fight ∧ fight.step arcaneBolt = some after ∧
      (tickCreature fight.creature fight.creatureState).creature.isDefeated = false ∧
      fight.preview arcaneBolt = [.text "~", .number 6, .text " dmg"] ∧
      (fight.abilityResult arcaneBolt).damage = 10 := by
  have reached : ∃ fight,
      Run step (fun _ _ => True) (opened armoured .mage) [sunder] fight ∧
      (fight.step arcaneBolt).isSome = true ∧
      (tickCreature fight.creature fight.creatureState).creature.isDefeated = false ∧
      fight.preview arcaneBolt = [.text "~", .number 6, .text " dmg"] ∧
      (fight.abilityResult arcaneBolt).damage = 10 :=
    Run.exists_of_exec (by decide +kernel)
  obtain ⟨fight, run, accepted, rest⟩ := reached
  obtain ⟨after, taken⟩ := Option.isSome_iff_exists.mp accepted
  exact ⟨fight, after, run, taken, rest⟩

end Fight

theorem Hook.run_fighting_ownDefense {before hook : Hook} {encounter : EncounterObject} {player : Player}
    {actions : List Action} {fight : Fight} (active : before.combat.encounterRef = some encounter)
    (entered : before.combat.playerCombatState = none) (fresh : before.combat.creatureCombatState = none)
    (run : Run step (Fighting fun call => call.ability ∈ archetypeAbilities player.archetype)
      (before.openCombat player) actions hook)
    (ongoing : hook.ongoing = some fight) (alive : fight.creature.isDefeated = false) : fight.OwnDefense := by
  rcases run_fighting (ongoing_openCombat active entered fresh player) run with ended | ⟨calls, played, now, fought⟩
  · rw [ended] at ongoing
    cases ongoing
  · cases Option.some.inj (now.symm.trans ongoing)
    have spares := fun (call : AbilityCall) known =>
      Ability.sparesDefense_archetypeAbilities player.archetype call.ability known
    exact Fight.ownDefense_of_unmodified (Fight.modifier_defense_of_run ⟨rfl, rfl⟩ spares fought alive)

end WalkingRpg

import WalkingRpg.Models.Encounter
import WalkingRpg.Models.Rewards

/-! Day and night: two encounters rolled from the same draws.

The rarity is rolled before the sun is looked at, and the sun only weights the templates of that
rarity. Everything a fight is worth depends on the rarity and the level of the creature alone.
-/

set_option autoImplicit false

namespace WalkingRpg

open Sampling (Sampler pickLoop mem_of_pickLoop)

theorem rarity_of_mem_encounterRarityBand {playerLevel weight : ℚ} {rarity : Rarity}
    (listed : (rarity, weight) ∈ encounterRarityBand playerLevel) : rarity ≠ .legendary := by
  have bands : ∀ band ∈ encounterRarityWeights, ∀ entry ∈ band.2, entry.1 ≠ Rarity.legendary := by
    decide +kernel
  unfold encounterRarityBand at listed
  cases found : encounterRarityWeights.find? fun band => playerLevel ≥ band.1 with
  | some band =>
    rw [found] at listed
    exact bands band (List.mem_of_find?_eq_some found) _ listed
  | none =>
    rw [found] at listed
    exact bands (1, _) (by simp [encounterRarityWeights]) _ listed

theorem rollEncounterRarity_ne_legendary (playerLevel : ℚ) (stream : ℕ → ℚ) (position : ℕ) :
    (rollEncounterRarity playerLevel stream position).1 ≠ .legendary := by
  show (pickLoop _ _).getD _ ≠ _
  cases picked : pickLoop (encounterRarityBand playerLevel) _ with
  | none => decide
  | some rarity =>
    obtain ⟨⟨listed, weight⟩, member, rfl⟩ := List.mem_map.mp (mem_of_pickLoop picked)
    exact rarity_of_mem_encounterRarityBand member

theorem rarity_of_mem_encounterPool {rarity : Rarity} (rollable : rarity ≠ .legendary)
    {template : CreatureTemplate} (member : template ∈ encounterPool rarity) : template.rarity = rarity := by
  have stocked : ∀ rarity : Rarity, rarity ≠ .legendary →
      (creatureTemplates.filter fun template => template.rarity = rarity).length > 0 := by
    intro rarity rollable
    cases rarity with
    | legendary => exact absurd rfl rollable
    | _ => decide +kernel
  unfold encounterPool at member
  rw [if_pos (stocked rarity rollable)] at member
  simpa using (List.mem_filter.mp member).2

theorem createRandomEncounter_eq (now : ℚ) (daylight : Bool) (location : Location) (playerLevel : ℚ)
    (stream : ℕ → ℚ) (position : ℕ) : ∃ template ∈ creatureTemplates,
    template.rarity = (rollEncounterRarity playerLevel stream position).1 ∧
      Encounter.createRandomEncounter now daylight location playerLevel none stream position =
        (Encounter.create now (createCreatureFromTemplate template playerLevel stream (position + 2)).1 location
          none (some playerLevel) none (some daylight), position + 3) := by
  have rolled := rollEncounterRarity_ne_legendary playerLevel stream position
  generalize rarity : (rollEncounterRarity playerLevel stream position).1 = drawn at rolled ⊢
  refine ⟨_, pickEncounterTemplateOfRarity_mem drawn daylight stream (position + 1), ?_, ?_⟩
  · apply rarity_of_mem_encounterPool rolled
    apply pickEncounterTemplateOfRarity_mem_pool
  · subst rarity
    rfl

structure Creature.Alike (first second : Creature) : Prop where
  rarity : first.rarity = second.rarity
  level : first.level = second.level

namespace Creature.Alike

variable {first second : Creature} (alike : first.Alike second)

include alike

theorem getExperienceReward : first.getExperienceReward = second.getExperienceReward := by
  simp [Creature.getExperienceReward, Creature.getRarityMultiplier, alike.rarity, alike.level]

theorem isEliteCreature : isEliteCreature first = isEliteCreature second := by
  simp [WalkingRpg.isEliteCreature, alike.rarity]

theorem resolveAutoCombat (playerLevel draw : ℚ) (loot : LootRoll) :
    resolveAutoCombat playerLevel first draw loot = resolveAutoCombat playerLevel second draw loot := by
  simp [WalkingRpg.resolveAutoCombat, computeAutoCombatXp, alike.getExperienceReward, alike.level]

theorem passiveReward (basePlayer : Player) (tier : RewardTier) (draw : ℚ) (loot : LootRoll) :
    passiveReward basePlayer first tier draw loot = passiveReward basePlayer second tier draw loot := by
  cases tier with
  | idle => simp [WalkingRpg.passiveReward, alike.resolveAutoCombat]
  | active => simp [WalkingRpg.passiveReward, alike.getExperienceReward]

theorem victoryReward (basePlayer : Player) (loot : LootRoll) :
    victoryReward basePlayer first loot =
      ((victoryReward basePlayer second loot).1,
        { (victoryReward basePlayer second loot).2 with creatureName := first.name }) := by
  unfold WalkingRpg.victoryReward
  rw [alike.getExperienceReward]
  dsimp only
  split <;> rfl

end Creature.Alike

theorem alike_createCreatureFromTemplate {first second : CreatureTemplate} (same : first.rarity = second.rarity)
    (playerLevel : ℚ) (stream : ℕ → ℚ) (position : ℕ) :
    (createCreatureFromTemplate first playerLevel stream position).1.Alike
      (createCreatureFromTemplate second playerLevel stream position).1 :=
  ⟨same, rfl⟩

/-- The sun changes which creature of the rolled rarity is met, and nothing that the encounter is worth. -/
theorem createRandomEncounter_day_night (now : ℚ) (location : Location) (playerLevel : ℚ)
    (stream : ℕ → ℚ) (position : ℕ) :
    let day := Encounter.createRandomEncounter now true location playerLevel none stream position
    let night := Encounter.createRandomEncounter now false location playerLevel none stream position
    day.2 = night.2 ∧
      day.1.creature.rarity = night.1.creature.rarity ∧
      day.1.creature.level = night.1.creature.level ∧
      day.1.creature.getExperienceReward = night.1.creature.getExperienceReward ∧
      isEliteCreature day.1.creature = isEliteCreature night.1.creature ∧
      (∀ basePlayer tier draw loot, passiveReward basePlayer day.1.creature tier draw loot =
        passiveReward basePlayer night.1.creature tier draw loot) ∧
      (∀ basePlayer loot, (victoryReward basePlayer day.1.creature loot).1 =
        (victoryReward basePlayer night.1.creature loot).1) ∧
      ∃ byDay ∈ creatureTemplates, ∃ byNight ∈ creatureTemplates, byDay.rarity = byNight.rarity ∧
        day.1.creature = (createCreatureFromTemplate byDay playerLevel stream (position + 2)).1 ∧
        night.1 = { day.1 with
          creature := (createCreatureFromTemplate byNight playerLevel stream (position + 2)).1
          daylight := some false } := by
  intro day night
  obtain ⟨byDay, dayListed, dayRarity, dayEq⟩ :=
    createRandomEncounter_eq now true location playerLevel stream position
  obtain ⟨byNight, nightListed, nightRarity, nightEq⟩ :=
    createRandomEncounter_eq now false location playerLevel stream position
  have same : byDay.rarity = byNight.rarity := dayRarity.trans nightRarity.symm
  have alike := alike_createCreatureFromTemplate same playerLevel stream (position + 2)
  simp only [day, night, dayEq, nightEq]
  refine ⟨trivial, alike.rarity, alike.level, alike.getExperienceReward, alike.isEliteCreature,
    alike.passiveReward, fun basePlayer loot => ?_, byDay, dayListed, byNight, nightListed, same, rfl, rfl⟩
  have paid := congrArg Prod.fst (alike.victoryReward basePlayer loot)
  exact paid

-- A creature of the night is met by night and another one by day, from the same draws.
example : (Encounter.createRandomEncounter 1 true ⟨0, 0⟩ 1 none (fun _ => 0.35) 0).1.creature.name ≠
    (Encounter.createRandomEncounter 1 false ⟨0, 0⟩ 1 none (fun _ => 0.35) 0).1.creature.name := by
  decide +kernel

end WalkingRpg

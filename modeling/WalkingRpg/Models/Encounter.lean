import Mathlib.Tactic.Linarith
import WalkingRpg.Models.Creature

/-! Encounters and the gate that routes a rolled one. -/

set_option autoImplicit false

namespace WalkingRpg

open Sampling (Sampler pickLoop mem_of_pickLoop)

structure Location where
  latitude : ℚ
  longitude : ℚ
  deriving DecidableEq

inductive EncounterStatus where
  | active | defeated | fled
  deriving DecidableEq, Repr

structure Encounter where
  creature : Creature
  location : Location
  timestamp : ℚ
  playerLevel : ℚ
  status : EncounterStatus
  daylight : Option Bool
  deriving DecidableEq

/-- `value || fallback` on numbers: undefined and zero give the fallback. -/
def orElseNumber (value : Option ℚ) (fallback : ℚ) : ℚ :=
  match value with
  | none => fallback
  | some number => if number = 0 then fallback else number

namespace Encounter

def create (now : ℚ) (creature : Creature) (location : Location) (timestamp playerLevel : Option ℚ)
    (status : Option EncounterStatus) (daylight : Option Bool) : Encounter where
  creature := creature
  location := location
  timestamp := orElseNumber timestamp now
  playerLevel := orElseNumber playerLevel 1
  status := status.getD .active
  daylight := daylight

/-- A random encounter; `daylight` is whether the sun is up at the location and `now`. -/
def createRandomEncounter (now : ℚ) (daylight : Bool) (location : Location) (playerLevel : ℚ)
    (rarityOverride : Option Rarity) : Sampler Encounter := do
  let template ← match rarityOverride with
    | some rarity => pickEncounterTemplateOfRarity rarity (some daylight)
    | none => pickEncounterTemplate playerLevel (some daylight)
  let creature ← createCreatureFromTemplate template playerLevel
  return create now creature location none (some playerLevel) none (some daylight)

end Encounter

theorem encounterPool_ne_nil (rarity : Rarity) : encounterPool rarity ≠ [] := by
  cases rarity <;> decide

theorem encounterPool_subset (rarity : Rarity) : encounterPool rarity ⊆ creatureTemplates := by
  unfold encounterPool
  dsimp only
  split
  · exact List.filter_sublist.subset
  · exact List.Subset.refl _

theorem pickEncounterTemplateOfRarity_mem_pool (rarity : Rarity) (light : Bool) (stream : ℕ → ℚ)
    (position : ℕ) :
    (pickEncounterTemplateOfRarity rarity (some light) stream position).1 ∈ encounterPool rarity := by
  -- The loop may fall through when the draw is not below one.
  have fallback : (encounterPool rarity).getLastD default ∈ encounterPool rarity := by
    rw [List.getLastD_eq_getLast?, List.getLast?_eq_some_getLast (encounterPool_ne_nil rarity)]
    exact List.getLast_mem _
  show (pickLoop _ _).getD _ ∈ _
  cases picked : pickLoop ((encounterPool rarity).map fun template =>
      (template, spawnWeightAt template light)) _ with
  | none => exact fallback
  | some template => simpa using mem_of_pickLoop picked

theorem pickEncounterTemplateOfRarity_mem (rarity : Rarity) (light : Bool) (stream : ℕ → ℚ)
    (position : ℕ) :
    (pickEncounterTemplateOfRarity rarity (some light) stream position).1 ∈ creatureTemplates :=
  encounterPool_subset rarity (pickEncounterTemplateOfRarity_mem_pool rarity light stream position)

theorem one_le_maxHp_of_mem {template : CreatureTemplate} (listed : template ∈ creatureTemplates) :
    1 ≤ template.maxHp := by
  have all : ∀ template ∈ creatureTemplates, 1 ≤ template.maxHp := by decide +kernel
  exact all template listed

theorem hp_createCreatureFromTemplate_pos {template : CreatureTemplate}
    (listed : template ∈ creatureTemplates) (playerLevel : ℚ) (stream : ℕ → ℚ) (position : ℕ) :
    0 < (createCreatureFromTemplate template playerLevel stream position).1.hp := by
  have base := one_le_maxHp_of_mem listed
  show (0 : ℚ) < (⌊template.maxHp *
    (1 + (max 1 (playerLevel + ((⌊stream position * 5⌋ : ℚ) - 2)) - 1) * 0.1)⌋ : ℤ)
  -- The level is at least one whatever the draw, so scaling does not go below the template.
  have level := le_max_left (1 : ℚ) (playerLevel + ((⌊stream position * 5⌋ : ℚ) - 2))
  generalize max (1 : ℚ) (playerLevel + ((⌊stream position * 5⌋ : ℚ) - 2)) = scaled at level ⊢
  have one : (1 : ℤ) ≤ ⌊template.maxHp * (1 + (scaled - 1) * 0.1)⌋ := by
    apply Int.le_floor.mpr
    push_cast
    nlinarith
  have cast : (1 : ℚ) ≤ (⌊template.maxHp * (1 + (scaled - 1) * 0.1)⌋ : ℤ) := by exact_mod_cast one
  linarith

theorem hp_createRandomEncounter_pos (now : ℚ) (daylight : Bool) (location : Location)
    (playerLevel : ℚ) (rarityOverride : Option Rarity) (stream : ℕ → ℚ) (position : ℕ) :
    0 < (Encounter.createRandomEncounter now daylight location playerLevel rarityOverride stream
      position).1.creature.hp := by
  cases rarityOverride with
  | none => exact hp_createCreatureFromTemplate_pos (pickEncounterTemplateOfRarity_mem _ _ _ _) _ _ _
  | some rarity =>
    exact hp_createCreatureFromTemplate_pos (pickEncounterTemplateOfRarity_mem _ _ _ _) _ _ _

inductive EncounterRoute where
  | present | autoResolve | hold | passive
  deriving DecidableEq, Repr

def resolveEncounterRoute (isBackground isElite autoResolveBelowRare : Bool) : EncounterRoute :=
  if !isBackground then
    if !isElite && autoResolveBelowRare then .autoResolve else .present
  else if isElite then .hold else .passive

end WalkingRpg

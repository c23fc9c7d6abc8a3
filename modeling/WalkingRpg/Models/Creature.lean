import WalkingRpg.Library.Sampling
import WalkingRpg.Models.Combat

/-! Creatures: the roster, spawn weights, the rarity roll and the scaling of a template. -/

set_option autoImplicit false

namespace WalkingRpg

open Sampling (Sampler pickLoop)

inductive Rarity where
  | common | uncommon | rare | epic | legendary
  deriving DecidableEq, Repr, Inhabited

inductive SpawnWindow where
  | day | night | any
  deriving DecidableEq, Repr

/-- `Partial<Resistances>`: a damage type may be left out. -/
structure SomeResistances where
  physical : Option ℚ := none
  fire : Option ℚ := none
  frost : Option ℚ := none
  arcane : Option ℚ := none
  deriving DecidableEq

def SomeResistances.orDefault (given : Option SomeResistances) : Resistances :=
  match given with
  | none => defaultResistances
  | some resistances =>
    { physical := resistances.physical.getD defaultResistances.physical
      fire := resistances.fire.getD defaultResistances.fire
      frost := resistances.frost.getD defaultResistances.frost
      arcane := resistances.arcane.getD defaultResistances.arcane }

structure CreatureTemplate where
  id : String
  name : String
  type : String
  maxHp : ℚ
  attack : ℚ
  defense : ℚ
  speed : ℚ
  rarity : Rarity
  encounterRate : ℚ
  description : Option String := none
  resistances : Option SomeResistances := none
  spawnWindow : Option SpawnWindow := none
  deriving DecidableEq, Inhabited

def spawnWindowByType (type : String) : Option SpawnWindow :=
  if type ∈ ["Beast", "Vermin", "Earth", "Construct", "Nature"] then some .day
  else if type ∈ ["Shadow", "Undead", "Spirit", "Arcane"] then some .night
  else if type ∈ ["Fire", "Frost", "Water", "Air", "Ooze", "Fungus"] then some .any
  else none

def spawnWindowFor (template : CreatureTemplate) : SpawnWindow :=
  (template.spawnWindow.or (spawnWindowByType template.type)).getD .any

namespace SpawnWeights

def inWindow : ℚ := 1

def offWindow : ℚ := 0.15

def any : ℚ := 1

end SpawnWeights

def spawnWeightAt (template : CreatureTemplate) (daylight : Bool) : ℚ :=
  match spawnWindowFor template with
  | .any => SpawnWeights.any
  | .day => if daylight then SpawnWeights.inWindow else SpawnWeights.offWindow
  | .night => if daylight then SpawnWeights.offWindow else SpawnWeights.inWindow

structure CreatureConstructorParams where
  id : String
  name : String
  type : String
  level : Option ℚ := none
  hp : Option ℚ := none
  maxHp : ℚ
  attack : ℚ
  defense : ℚ
  speed : ℚ
  rarity : Option Rarity := none
  description : Option String := none
  encounterRate : Option ℚ := none
  resistances : Option SomeResistances := none
  deriving DecidableEq

structure Creature where
  id : String
  name : String
  type : String
  level : ℚ
  hp : ℚ
  maxHp : ℚ
  attack : ℚ
  defense : ℚ
  speed : ℚ
  rarity : Rarity
  description : String
  encounterRate : ℚ
  resistances : Resistances
  deriving DecidableEq

namespace Creature

/-- The constructor of the class, with its defaults. An empty description counts as absent. -/
def create (params : CreatureConstructorParams) : Creature where
  id := params.id
  name := params.name
  type := params.type
  level := params.level.getD 1
  hp := params.hp.getD params.maxHp
  maxHp := params.maxHp
  attack := params.attack
  defense := params.defense
  speed := params.speed
  rarity := params.rarity.getD .common
  description :=
    if params.description.getD "" = "" then "A " ++ params.type ++ " creature"
    else params.description.getD ""
  encounterRate := params.encounterRate.getD 0.5
  resistances := SomeResistances.orDefault params.resistances

def getRarityMultiplier (creature : Creature) : ℚ :=
  match creature.rarity with
  | .common => 1.0
  | .uncommon => 1.5
  | .rare => 2.0
  | .epic => 3.0
  | .legendary => 5.0

def getExperienceReward (creature : Creature) : ℚ :=
  ⌊10 * creature.level * creature.getRarityMultiplier⌋

def isDefeated (creature : Creature) : Bool := creature.hp ≤ 0

def takeDamage (creature : Creature) (amount : ℚ) : Creature :=
  { creature with hp := max 0 (creature.hp - amount) }

theorem isDefeated_eq_true (creature : Creature) : creature.isDefeated = true ↔ creature.hp ≤ 0 := by
  simp [isDefeated]

theorem description_create_ne (params : CreatureConstructorParams) : (create params).description ≠ "" := by
  simp only [create]
  split
  · intro empty
    have length := congrArg String.length empty
    simp at length
  · assumption

end Creature

def creatureTemplates : List CreatureTemplate := [
  { id := "forest_sprite", name := "Forest Sprite", type := "Nature",
    maxHp := 50, attack := 15, defense := 5, speed := 20, rarity := .common, encounterRate := 0.6,
    description := some "A small nature spirit found in wooded areas" },
  { id := "urban_phantom", name := "Urban Phantom", type := "Shadow",
    maxHp := 60, attack := 18, defense := 8, speed := 25, rarity := .common, encounterRate := 0.5,
    description := some "A mysterious entity that appears in city areas" },
  { id := "coastal_spirit", name := "Coastal Spirit", type := "Water",
    maxHp := 70, attack := 20, defense := 10, speed := 15, rarity := .uncommon, encounterRate := 0.3,
    description := some "A spirit drawn to bodies of water" },
  { id := "mountain_guardian", name := "Mountain Guardian", type := "Earth",
    maxHp := 80, attack := 20, defense := 12, speed := 10, rarity := .rare, encounterRate := 0.15,
    description := some "A powerful guardian of elevated terrain" },
  { id := "wind_dancer", name := "Wind Dancer", type := "Air",
    maxHp := 55, attack := 22, defense := 6, speed := 35, rarity := .uncommon, encounterRate := 0.35,
    description := some "An agile creature that moves with the wind" },
  { id := "grove_warden", name := "Grove Warden", type := "Nature",
    maxHp := 95, attack := 22, defense := 15, speed := 12, rarity := .rare, encounterRate := 0.15,
    description := some "An ancient guardian woven from the forest's oldest roots.",
    resistances := some { physical := some 0.2, fire := some (-0.25) } },
  { id := "void_stalker", name := "Void Stalker", type := "Shadow",
    maxHp := 72, attack := 28, defense := 8, speed := 30, rarity := .rare, encounterRate := 0.12,
    description := some "A predator from between the streetlights — all fang and shadow.",
    resistances := some { frost := some 0.25 } },
  { id := "tidal_behemoth", name := "Tidal Behemoth", type := "Water",
    maxHp := 115, attack := 21, defense := 13, speed := 8, rarity := .rare, encounterRate := 0.12,
    description := some "A leviathan that drags the tide behind it.",
    resistances := some { fire := some 0.3, frost := some (-0.25) } },
  { id := "ashen_colossus", name := "Ashen Colossus", type := "Earth",
    maxHp := 150, attack := 30, defense := 20, speed := 8, rarity := .epic, encounterRate := 0.06,
    description := some "A mountain given wrath; its every step splits the earth.",
    resistances := some { fire := some 0.4, physical := some 0.15, frost := some (-0.2) },
    spawnWindow := some .any },
  { id := "tempest_djinn", name := "Tempest Djinn", type := "Air",
    maxHp := 120, attack := 36, defense := 14, speed := 32, rarity := .epic, encounterRate := 0.06,
    description := some "A storm bound into furious form.",
    resistances := some { frost := some 0.3, physical := some (-0.15) } },
  { id := "alley_cur", name := "Alley Cur", type := "Beast",
    maxHp := 52, attack := 16, defense := 6, speed := 24, rarity := .common, encounterRate := 0.55,
    description := some "A half-wild dog that rules a stretch of backstreet." },
  { id := "gutter_swarm", name := "Gutter Swarm", type := "Vermin",
    maxHp := 44, attack := 17, defense := 4, speed := 28, rarity := .common, encounterRate := 0.6,
    description := some "A boiling knot of rats and roaches that moves as one body." },
  { id := "mossback_toad", name := "Mossback Toad", type := "Nature",
    maxHp := 66, attack := 14, defense := 9, speed := 11, rarity := .common, encounterRate := 0.5,
    description := some "A bloated thing crusted in creekbed moss, in no hurry at all." },
  { id := "grit_golemling", name := "Grit Golemling", type := "Earth",
    maxHp := 58, attack := 16, defense := 8, speed := 15, rarity := .common, encounterRate := 0.5,
    description := some "A knee-high clot of gravel and grime, scraped up off the path." },
  { id := "pale_stray", name := "Pale Stray", type := "Shadow",
    maxHp := 48, attack := 19, defense := 4, speed := 22, rarity := .common, encounterRate := 0.5,
    description := some "A gaunt figure that shuffles the night streets, always reaching." },
  { id := "sump_ooze", name := "Sump Ooze", type := "Ooze",
    maxHp := 64, attack := 14, defense := 8, speed := 9, rarity := .common, encounterRate := 0.5,
    description := some "A crawling slick of gutter-runoff that swallows what it touches." },
  { id := "ash_wretch", name := "Ash Wretch", type := "Undead",
    maxHp := 52, attack := 18, defense := 6, speed := 19, rarity := .common, encounterRate := 0.5,
    description := some "A soot-caked thing that claws its way out of a cold hearth." },
  { id := "copper_sentinel", name := "Copper Sentinel", type := "Construct",
    maxHp := 62, attack := 16, defense := 9, speed := 14, rarity := .common, encounterRate := 0.45,
    description := some "A knee-high watch-construct, long forgotten and still on patrol." },
  { id := "cinder_hound", name := "Cinder Hound", type := "Fire",
    maxHp := 60, attack := 23, defense := 7, speed := 30, rarity := .uncommon, encounterRate := 0.32,
    description := some "A lean hound that smoulders as it runs; flame slides off its coat.",
    resistances := some { fire := some 0.2 } },
  { id := "bog_lurker", name := "Bog Lurker", type := "Water",
    maxHp := 78, attack := 19, defense := 10, speed := 11, rarity := .uncommon, encounterRate := 0.3,
    description := some "It surfaces from cold, still water and never feels the chill.",
    resistances := some { frost := some 0.2 } },
  { id := "gale_wisp", name := "Gale Wisp", type := "Air",
    maxHp := 52, attack := 23, defense := 6, speed := 37, rarity := .uncommon, encounterRate := 0.33,
    description := some "A darting scrap of loose wind — a hard frost stops it cold.",
    resistances := some { frost := some (-0.2) } },
  { id := "scrap_golem", name := "Scrap Golem", type := "Earth",
    maxHp := 74, attack := 20, defense := 12, speed := 10, rarity := .uncommon, encounterRate := 0.28,
    description := some "A shambling heap of rebar and rust; blades ring off and do little.",
    resistances := some { physical := some 0.2 } },
  { id := "frost_molting", name := "Frost Molting", type := "Frost",
    maxHp := 66, attack := 21, defense := 8, speed := 18, rarity := .uncommon, encounterRate := 0.3,
    description := some "A brittle shell of hoarfrost; one flame shatters it.",
    resistances := some { fire := some (-0.2) } },
  { id := "fungal_creeper", name := "Fungal Creeper", type := "Fungus",
    maxHp := 74, attack := 19, defense := 7, speed := 12, rarity := .uncommon, encounterRate := 0.3,
    description := some "A lattice of pale mushroom-flesh that steel shears right through.",
    resistances := some { physical := some (-0.2) } },
  { id := "null_moth", name := "Null Moth", type := "Arcane",
    maxHp := 58, attack := 22, defense := 7, speed := 28, rarity := .uncommon, encounterRate := 0.3,
    description := some "A moth of dead static that drinks stray magic from the air.",
    resistances := some { arcane := some 0.2 } },
  { id := "bound_revenant", name := "Bound Revenant", type := "Spirit",
    maxHp := 70, attack := 20, defense := 10, speed := 13, rarity := .uncommon, encounterRate := 0.28,
    description := some "A soul lashed to old bones; raw arcane snaps the binding.",
    resistances := some { arcane := some (-0.2) } }]

def createCreatureFromTemplate (template : CreatureTemplate) (playerLevel : ℚ) : Sampler Creature := do
  let draw ← Sampler.random
  -- Two levels up or down.
  let levelVariation : ℚ := ⌊draw * 5⌋ - 2
  let level := max 1 (playerLevel + levelVariation)
  let levelMultiplier := 1 + (level - 1) * 0.1
  return Creature.create {
    id := template.id, name := template.name, type := template.type
    level := some level
    maxHp := ⌊template.maxHp * levelMultiplier⌋
    attack := ⌊template.attack * levelMultiplier⌋
    defense := ⌊template.defense * levelMultiplier⌋
    speed := ⌊template.speed * levelMultiplier⌋
    rarity := some template.rarity
    description := template.description
    encounterRate := some template.encounterRate
    resistances := template.resistances }

/-- `ENCOUNTER_RARITY_WEIGHTS`, high to low; the first band at or below the level applies. -/
def encounterRarityWeights : List (ℚ × List (Rarity × ℚ)) := [
  (20, [(.common, 25), (.uncommon, 45), (.rare, 18), (.epic, 12)]),
  (12, [(.common, 32), (.uncommon, 48), (.rare, 16), (.epic, 4)]),
  (6, [(.common, 40), (.uncommon, 45), (.rare, 15)]),
  (3, [(.common, 55), (.uncommon, 43), (.rare, 2)]),
  (1, [(.common, 85), (.uncommon, 15), (.rare, 0)])]

def encounterRarityBand (playerLevel : ℚ) : List (Rarity × ℚ) :=
  ((encounterRarityWeights.find? fun band => playerLevel ≥ band.1).or
    encounterRarityWeights.getLast?).elim [] Prod.snd

def rollEncounterRarity (playerLevel : ℚ) : Sampler Rarity := do
  let entries := encounterRarityBand playerLevel
  let total := (entries.map Prod.snd).sum
  let draw ← Sampler.random
  return (pickLoop entries (draw * total)).getD .common

/-- The templates of a rarity; the whole roster if there are none. -/
def encounterPool (rarity : Rarity) : List CreatureTemplate :=
  let ofRarity := creatureTemplates.filter fun template => template.rarity = rarity
  if ofRarity.length > 0 then ofRarity else creatureTemplates

/-- Without sun information every creature of the pool is equally likely. The pool
is never empty, so the fallback is its last template. -/
def pickEncounterTemplateOfRarity (rarity : Rarity) (daylight : Option Bool) :
    Sampler CreatureTemplate := do
  let pool := encounterPool rarity
  let fallback := pool.getLastD default
  let draw ← Sampler.random
  match daylight with
  | none => return pool.getD ⌊draw * pool.length⌋.toNat fallback
  | some light =>
    let weights := pool.map fun template => (template, spawnWeightAt template light)
    let total := (weights.map Prod.snd).sum
    return (pickLoop weights (draw * total)).getD fallback

def pickEncounterTemplate (playerLevel : ℚ) (daylight : Option Bool) : Sampler CreatureTemplate := do
  let rarity ← rollEncounterRarity playerLevel
  pickEncounterTemplateOfRarity rarity daylight

def eliteRarities : List Rarity := [.rare, .epic, .legendary]

def isEliteCreature (creature : Creature) : Bool := creature.rarity ∈ eliteRarities

end WalkingRpg

import WalkingRpg.Models.Creature
import WalkingRpg.Models.PlayerStats

/-! What a won or passively resolved encounter pays.

A loot roll is a parameter: the item, if any, that the roll yields at a level.
-/

set_option autoImplicit false

namespace WalkingRpg

/-- A loot roll, as a function of the level it is made at. -/
def LootRoll : Type := ℚ → Option Item

namespace CombatConfig

def autoCombatBaseWinRate : ℚ := 0.75

def activeCombatXpMultiplier : ℚ := 1.5

def lossXpFraction : ℚ := 0.25

def autoCombatLevelStep : ℚ := 0.05

def autoCombatMinWinRate : ℚ := 0.2

def autoCombatMaxWinRate : ℚ := 0.95

end CombatConfig

def activeCombatXp (baseReward : ℚ) : ℚ := ⌊baseReward * CombatConfig.activeCombatXpMultiplier⌋

def autoCombatWinChance (playerLevel creatureLevel : ℚ) : ℚ :=
  let raw := CombatConfig.autoCombatBaseWinRate +
    CombatConfig.autoCombatLevelStep * (playerLevel - creatureLevel)
  min CombatConfig.autoCombatMaxWinRate (max CombatConfig.autoCombatMinWinRate raw)

def computeAutoCombatXp (creature : Creature) (won : Bool) : ℚ :=
  let reward := creature.getExperienceReward
  if won then reward else ⌊reward * CombatConfig.lossXpFraction⌋

structure AutoCombatOutcome where
  won : Bool
  xpGained : ℚ
  item : Option Item

def resolveAutoCombat (playerLevel : ℚ) (creature : Creature) (draw : ℚ) (loot : LootRoll) :
    AutoCombatOutcome :=
  let won : Bool := draw < autoCombatWinChance playerLevel creature.level
  { won := won
    xpGained := computeAutoCombatXp creature won
    item := if won then loot playerLevel else none }

structure RewardReveal where
  creatureName : String
  xpGained : ℚ
  leveledUp : Bool
  newLevel : ℚ
  item : Option Item
  isUpgrade : Bool
  inventoryFull : Bool

/-- The player a victory saves and what it reveals: the reward part of `handleVictory`. -/
def victoryReward (basePlayer : Player) (creature : Creature) (loot : LootRoll) :
    Player × RewardReveal :=
  let expGain := activeCombatXp creature.getExperienceReward
  let (leveled, levelsGained) :=
    basePlayer.clone.defeatCreature.incrementEncounters.addExperience expGain
  let reveal (item : Option Item) (isUpgrade inventoryFull : Bool) : RewardReveal :=
    { creatureName := creature.name, xpGained := expGain, leveledUp := levelsGained > 0
      newLevel := leveled.level, item := item, isUpgrade := isUpgrade, inventoryFull := inventoryFull }
  match loot leveled.level with
  | none => (leveled.fullHeal, reveal none false false)
  | some item =>
    let (stocked, inventoryIndex) := leveled.addItemToInventory item
    -- With a full inventory the item is revealed and lost.
    (stocked.fullHeal, reveal (some item) (stocked.wouldUpgrade item) inventoryIndex.isNone)

inductive RewardTier where
  | idle | active
  deriving DecidableEq, Repr

/-- The player that `resolvePassiveEncounter` saves. -/
def passiveReward (basePlayer : Player) (creature : Creature) (tier : RewardTier) (draw : ℚ)
    (loot : LootRoll) : Player :=
  let outcome : AutoCombatOutcome := match tier with
    -- An encounter that the toggle resolves counts as won.
    | .active => ⟨true, activeCombatXp creature.getExperienceReward, none⟩
    | .idle => resolveAutoCombat basePlayer.level creature draw loot
  let counted := basePlayer.clone.incrementEncounters
  let counted := if outcome.won then counted.defeatCreature else counted
  let (leveled, _) := counted.addExperience outcome.xpGained
  -- The active tier rolls its loot at the level reached by the experience.
  let item := match tier with
    | .active => loot leveled.level
    | .idle => outcome.item
  match item with
  | none => leveled.fullHeal
  | some item => (leveled.addItemToInventory item).1.fullHeal

theorem passiveReward_active (basePlayer : Player) (creature : Creature) (draw : ℚ) (loot : LootRoll) :
    passiveReward basePlayer creature .active draw loot = (victoryReward basePlayer creature loot).1 := by
  have counted : basePlayer.clone.incrementEncounters.defeatCreature =
      basePlayer.clone.defeatCreature.incrementEncounters := rfl
  unfold passiveReward victoryReward
  dsimp only
  rw [if_pos rfl, counted]
  cases loot _ with
  | none => rfl
  | some item => rfl

namespace Player

@[simp] theorem totalDistance_clone (player : Player) : player.clone.totalDistance = player.totalDistance := rfl

@[simp] theorem totalDistance_fullHeal (player : Player) : player.fullHeal.totalDistance = player.totalDistance := rfl

@[simp] theorem totalDistance_incrementEncounters (player : Player) :
    player.incrementEncounters.totalDistance = player.totalDistance := rfl

@[simp] theorem totalDistance_defeatCreature (player : Player) :
    player.defeatCreature.totalDistance = player.totalDistance := rfl

theorem totalDistance_levelUpLoop (fuel : Nat) (player : Player) (gained : Nat) :
    (levelUpLoop fuel player gained).1.totalDistance = player.totalDistance := by
  induction fuel generalizing player gained with
  | zero => rfl
  | succ fuel ih =>
    unfold levelUpLoop
    split
    · exact ih player.gainLevel (gained + 1)
    · rfl

@[simp] theorem totalDistance_addExperience (player : Player) (amount : ℚ) :
    (player.addExperience amount).1.totalDistance = player.totalDistance := by
  have loop := totalDistance_levelUpLoop
    ({ player with experience := player.experience + amount } : Player).levelUpFuel
    { player with experience := player.experience + amount } 0
  unfold addExperience checkLevelUp
  dsimp only
  split
  · exact loop
  · exact loop

@[simp] theorem totalDistance_addItemToInventory (player : Player) (item : Item) :
    (player.addItemToInventory item).1.totalDistance = player.totalDistance := by
  rcases player.addItemToInventory_cases item with full | ⟨_, _, added⟩
  · rw [full]
  · rw [added]

end Player

theorem hp_victoryReward (basePlayer : Player) (creature : Creature) (loot : LootRoll) :
    (victoryReward basePlayer creature loot).1.hp = (victoryReward basePlayer creature loot).1.maxHp := by
  unfold victoryReward
  dsimp only
  split <;> rfl

theorem hp_passiveReward (basePlayer : Player) (creature : Creature) (tier : RewardTier) (draw : ℚ)
    (loot : LootRoll) :
    (passiveReward basePlayer creature tier draw loot).hp = (passiveReward basePlayer creature tier draw loot).maxHp := by
  unfold passiveReward
  dsimp only
  split <;> rfl

@[simp] theorem totalDistance_victoryReward (basePlayer : Player) (creature : Creature)
    (loot : LootRoll) :
    (victoryReward basePlayer creature loot).1.totalDistance = basePlayer.totalDistance := by
  unfold victoryReward
  dsimp only
  split
  · simp
  · simp

@[simp] theorem totalDistance_passiveReward (basePlayer : Player) (creature : Creature)
    (tier : RewardTier) (draw : ℚ) (loot : LootRoll) :
    (passiveReward basePlayer creature tier draw loot).totalDistance = basePlayer.totalDistance := by
  have counted : ∀ won : Bool, (if won then basePlayer.clone.incrementEncounters.defeatCreature
      else basePlayer.clone.incrementEncounters).totalDistance = basePlayer.totalDistance := by
    intro won
    cases won <;> simp
  unfold passiveReward
  dsimp only
  split
  · simp [counted]
  · simp [counted]

namespace Player

variable {player : Player}

theorem Sound.incrementEncounters (sound : player.Sound) : player.incrementEncounters.Sound :=
  ⟨{ sound.coherent with }, sound.level, sound.items⟩

theorem Sound.defeatCreature (sound : player.Sound) : player.defeatCreature.Sound :=
  ⟨{ sound.coherent with }, sound.level, sound.items⟩

theorem Sound.addDistance (sound : player.Sound) (distance : ℚ) : (player.addDistance distance).Sound :=
  ⟨{ sound.coherent with }, sound.level, sound.items⟩

end Player

theorem sound_victoryReward {basePlayer : Player} (sound : basePlayer.Sound) (creature : Creature)
    {loot : LootRoll} (fair : ∀ level item, loot level = some item → item.NonNegative) :
    (victoryReward basePlayer creature loot).1.Sound := by
  have leveled := sound.clone.defeatCreature.incrementEncounters.addExperience
    (activeCombatXp creature.getExperienceReward)
  unfold victoryReward
  dsimp only
  split
  · exact leveled.fullHeal
  · rename_i item dropped
    exact (leveled.addItemToInventory (fair _ item dropped)).fullHeal

theorem sound_passiveReward {basePlayer : Player} (sound : basePlayer.Sound) (creature : Creature)
    (tier : RewardTier) (draw : ℚ) {loot : LootRoll}
    (fair : ∀ level item, loot level = some item → item.NonNegative) :
    (passiveReward basePlayer creature tier draw loot).Sound := by
  have counted (won : Bool) : Player.Sound (if won then basePlayer.clone.incrementEncounters.defeatCreature
      else basePlayer.clone.incrementEncounters) := by
    cases won
    · exact sound.clone.incrementEncounters
    · exact sound.clone.incrementEncounters.defeatCreature
  have leveled (won : Bool) (xpGained : ℚ) := (counted won).addExperience xpGained
  unfold passiveReward
  dsimp only
  split
  · exact (leveled _ _).fullHeal
  · rename_i item dropped
    refine ((leveled _ _).addItemToInventory ?_).fullHeal
    cases tier with
    | active => exact fair _ item dropped
    | idle =>
      -- The idle tier drops only after a win.
      simp only [resolveAutoCombat] at dropped
      split at dropped
      · exact fair _ item dropped
      · cases dropped

end WalkingRpg

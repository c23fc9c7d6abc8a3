import Mathlib.Data.Nat.Sqrt
import WalkingRpg.Library.Slots
import WalkingRpg.Models.Archetype
import WalkingRpg.Models.Item

/-! The player: stats, experience, inventory and equipment.

Methods that mutate the player return the mutated player, with their result when
they have one. The save record is the same data, so cloning through it is a
function on players.
-/

set_option autoImplicit false

namespace WalkingRpg

structure Equipment where
  weapon : Option Item
  offhand : Option Item
  head : Option Item
  chest : Option Item
  legs : Option Item
  boots : Option Item
  gloves : Option Item
  accessory1 : Option Item
  accessory2 : Option Item
  deriving DecidableEq

namespace Equipment

def get (equipment : Equipment) : EquipmentSlot → Option Item
  | .weapon => equipment.weapon
  | .offhand => equipment.offhand
  | .head => equipment.head
  | .chest => equipment.chest
  | .legs => equipment.legs
  | .boots => equipment.boots
  | .gloves => equipment.gloves
  | .accessory1 => equipment.accessory1
  | .accessory2 => equipment.accessory2

def values (equipment : Equipment) : List (Option Item) :=
  [equipment.weapon, equipment.offhand, equipment.head, equipment.chest, equipment.legs,
    equipment.boots, equipment.gloves, equipment.accessory1, equipment.accessory2]

def bonus (stat : Item → Option ℚ) (equipment : Equipment) : ℚ :=
  (equipment.values.map fun slot => ((slot.bind stat).getD 0)).sum

end Equipment

def createEmptyEquipment : Equipment :=
  ⟨none, none, none, none, none, none, none, none, none⟩

def maxInventorySize : Nat := 50

def createEmptyInventory : List (Option Item) := List.replicate maxInventorySize none

/-- The save record: `PlayerData`, and what the constructor accepts. -/
structure PlayerData where
  id : String
  name : String
  level : ℚ
  experience : ℚ
  attack : Option ℚ
  defense : Option ℚ
  hp : Option ℚ
  maxHp : Option ℚ
  totalDistance : ℚ
  totalEncounters : ℚ
  creaturesDefeated : ℚ
  combatTurnsTaken : Option ℚ
  equipment : Option Equipment
  inventory : Option (List (Option Item))
  archetype : Option Archetype
  str : Option ℚ
  agi : Option ℚ
  int : Option ℚ

structure Player where
  id : String
  name : String
  level : ℚ
  experience : ℚ
  attack : ℚ
  defense : ℚ
  hp : ℚ
  maxHp : ℚ
  totalDistance : ℚ
  totalEncounters : ℚ
  creaturesDefeated : ℚ
  combatTurnsTaken : ℚ
  equipment : Equipment
  inventory : List (Option Item)
  archetype : Archetype
  str : ℚ
  agi : ℚ
  int : ℚ
  deriving DecidableEq

def normalizeInventory (inventory : List (Option Item)) : List (Option Item) :=
  (inventory ++ List.replicate (maxInventorySize - inventory.length) none).take maxInventorySize

namespace Player

def create (params : PlayerData) : Player :=
  let archetype := params.archetype.getD .martial
  let computed := computeAttributes archetype params.level
  let str := params.str.getD computed.str
  let agi := params.agi.getD computed.agi
  let int := params.int.getD computed.int
  let maxHp := params.maxHp.getD (deriveMaxHp archetype str agi)
  let hp := params.hp.getD maxHp
  { id := params.id
    name := params.name
    level := params.level
    experience := params.experience
    attack := params.attack.getD (deriveAttack str agi)
    defense := params.defense.getD (deriveDefense str agi)
    hp := if hp > maxHp then maxHp else hp
    maxHp := maxHp
    totalDistance := params.totalDistance
    totalEncounters := params.totalEncounters
    creaturesDefeated := params.creaturesDefeated
    combatTurnsTaken := params.combatTurnsTaken.getD 0
    equipment := params.equipment.getD createEmptyEquipment
    inventory := match params.inventory with
      | some inventory => normalizeInventory inventory
      | none => createEmptyInventory
    archetype := archetype
    str := str
    agi := agi
    int := int }

def new (archetype : Archetype) (level : ℚ) : Player :=
  create {
    id := "player1", name := "Adventurer", level := level, experience := 0
    attack := none, defense := none, hp := none, maxHp := none
    totalDistance := 0, totalEncounters := 0, creaturesDefeated := 0, combatTurnsTaken := none
    equipment := none, inventory := none
    archetype := some archetype, str := none, agi := none, int := none }

def toJSON (player : Player) : PlayerData where
  id := player.id
  name := player.name
  level := player.level
  experience := player.experience
  attack := some player.attack
  defense := some player.defense
  hp := some player.hp
  maxHp := some player.maxHp
  totalDistance := player.totalDistance
  totalEncounters := player.totalEncounters
  creaturesDefeated := player.creaturesDefeated
  combatTurnsTaken := some player.combatTurnsTaken
  equipment := some player.equipment
  inventory := some player.inventory
  archetype := some player.archetype
  str := some player.str
  agi := some player.agi
  int := some player.int

/-- Attributes are recomputed from the level when any one of them is absent. -/
def fromJSON (data : PlayerData) : Player :=
  let archetype := data.archetype.getD .martial
  match data.str, data.agi, data.int with
  | some str, some agi, some int =>
    create { data with archetype := some archetype, str := some str, agi := some agi, int := some int }
  | _, _, _ =>
    let attrs := computeAttributes archetype data.level
    create { data with
      archetype := some archetype, str := some attrs.str, agi := some attrs.agi, int := some attrs.int }

theorem level_fromJSON (data : PlayerData) : (fromJSON data).level = data.level := by
  unfold fromJSON
  dsimp only
  split <;> rfl

def clone (player : Player) : Player := create player.toJSON

/-- `floor(100 * max(1, level) ^ 1.5)`, as the integer square root of its square. -/
def getExperienceForNextLevel (player : Player) : ℚ :=
  (Nat.sqrt ⌊10000 * max 1 player.level ^ 3⌋₊ : ℚ)

def recalculateStats (player : Player) : Player :=
  let baseAttack := deriveAttack player.str player.agi + player.equipment.bonus Item.attack
  let baseDefense := deriveDefense player.str player.agi + player.equipment.bonus Item.defense
  let baseMaxHp := deriveMaxHp player.archetype player.str player.agi + player.equipment.bonus Item.maxHp
  let maxHpChange := baseMaxHp - player.maxHp
  { player with
    attack := baseAttack
    defense := baseDefense
    maxHp := baseMaxHp
    hp := max 0 (min baseMaxHp (player.hp + maxHpChange)) }

def gainLevel (player : Player) : Player :=
  let cfg := archetypeConfigs player.archetype
  { player with
    experience := player.experience - player.getExperienceForNextLevel
    level := player.level + 1
    str := player.str + cfg.strPerLevel
    agi := player.agi + cfg.agiPerLevel
    int := player.int + cfg.intPerLevel }

/-- The level-up loop, cut off after a number of turns. -/
def levelUpLoop : Nat → Player → Nat → Player × Nat
  | 0, player, levelsGained => (player, levelsGained)
  | fuel + 1, player, levelsGained =>
    if player.experience ≥ player.getExperienceForNextLevel then
      levelUpLoop fuel player.gainLevel (levelsGained + 1)
    else (player, levelsGained)

-- A level costs at least 100 experience, so these turns are more than the loop takes.
def levelUpFuel (player : Player) : Nat := ⌊player.experience / 100⌋₊ + 1

def checkLevelUp (player : Player) : Player × Nat :=
  let (leveled, levelsGained) := levelUpLoop player.levelUpFuel player 0
  if levelsGained > 0 then (leveled.recalculateStats, levelsGained) else (leveled, levelsGained)

def addExperience (player : Player) (amount : ℚ) : Player × Nat :=
  checkLevelUp { player with experience := player.experience + amount }

def speed (player : Player) : ℚ := deriveSpeed player.agi

def takeDamage (player : Player) (amount : ℚ) : Player :=
  { player with hp := max 0 (player.hp - amount) }

def isDefeated (player : Player) : Bool := player.hp ≤ 0

def restoreHp (player : Player) (amount : ℚ) : Player :=
  { player with hp := min player.maxHp (player.hp + amount) }

def fullHeal (player : Player) : Player := { player with hp := player.maxHp }

def addDistance (player : Player) (distance : ℚ) : Player :=
  { player with totalDistance := player.totalDistance + distance }

def incrementEncounters (player : Player) : Player :=
  { player with totalEncounters := player.totalEncounters + 1 }

def defeatCreature (player : Player) : Player :=
  { player with creaturesDefeated := player.creaturesDefeated + 1 }

def incrementCombatTurns (player : Player) : Player :=
  { player with combatTurnsTaken := player.combatTurnsTaken + 1 }

def withAttributes (player : Player) (attrs : Attributes) : Player :=
  { player with str := attrs.str, agi := attrs.agi, int := attrs.int }

def setLevel (player : Player) (targetLevel : ℚ) : Player :=
  let level : ℚ := max 1 ⌊targetLevel⌋
  ({ player with level := level, experience := 0 }.withAttributes
    (computeAttributes player.archetype level)).recalculateStats.fullHeal

def setArchetype (player : Player) (archetype : Archetype) : Player :=
  ({ player with archetype := archetype }.withAttributes
    (computeAttributes archetype player.level)).recalculateStats.fullHeal

/-- The index of the slot filled, `none` for the result -1. -/
def addItemToInventory (player : Player) (item : Item) : Player × Option Nat :=
  match Slots.firstEmpty player.inventory with
  | some emptySlotIndex =>
    ({ player with inventory := player.inventory.set emptySlotIndex (some item) }, some emptySlotIndex)
  | none => (player, none)

def clearInventory (player : Player) : Player := { player with inventory := createEmptyInventory }

def itemAt (player : Player) (index : ℤ) : Option Item :=
  if index < 0 ∨ index ≥ player.inventory.length then none
  else (player.inventory[index.toNat]?).join

def removeItemFromInventory (player : Player) (index : ℤ) : Player × Option Item :=
  if index < 0 ∨ index ≥ player.inventory.length then (player, none)
  else ({ player with inventory := player.inventory.set index.toNat none }, player.itemAt index)

def getEquipTargetSlot (player : Player) (item : Item) : EquipmentSlot :=
  match item.slot with
  | none => if player.equipment.accessory1 = none then .accessory1 else .accessory2
  | some slot => slot

def statTotal (item : Item) : ℚ := item.attack.getD 0 + item.defense.getD 0 + item.maxHp.getD 0

def wouldUpgrade (player : Player) (item : Item) : Bool :=
  match player.equipment.get (player.getEquipTargetSlot item) with
  | none => false
  | some replaced => statTotal item > statTotal replaced

def resolveEquipTargetSlot (player : Player) (item : Item) (preferredSlot : Option EquipmentSlot) :
    EquipmentSlot :=
  if item.type = .accessory ∧ preferredSlot = some .accessory1 then .accessory1
  else if item.type = .accessory ∧ preferredSlot = some .accessory2 then .accessory2
  else player.getEquipTargetSlot item

/-- The final write of an equip. The switch has no case for a fixed-slot item in an
accessory slot. -/
def writeEquipment (equipment : Equipment) (item : Item) (targetSlot : EquipmentSlot) : Equipment :=
  if item.type = .accessory then
    if targetSlot = .accessory1 then { equipment with accessory1 := some item }
    else { equipment with accessory2 := some item }
  else
    match targetSlot with
    | .weapon => { equipment with weapon := some item }
    | .offhand => { equipment with offhand := some item }
    | .head => { equipment with head := some item }
    | .chest => { equipment with chest := some item }
    | .legs => { equipment with legs := some item }
    | .boots => { equipment with boots := some item }
    | .gloves => { equipment with gloves := some item }
    | .accessory1 => equipment
    | .accessory2 => equipment

def equipItem (player : Player) (inventoryIndex : ℤ) (preferredSlot : Option EquipmentSlot) :
    Player × Bool :=
  if inventoryIndex < 0 ∨ inventoryIndex ≥ player.inventory.length then (player, false)
  else
    match player.itemAt inventoryIndex with
    | none => (player, false)
    | some item =>
      if item.level > player.level then (player, false)
      else
        let targetSlot := player.resolveEquipTargetSlot item preferredSlot
        let cleared := player.inventory.set inventoryIndex.toNat none
        match player.equipment.get targetSlot with
        | none =>
          ({ player with
            inventory := cleared
            equipment := writeEquipment player.equipment item targetSlot }.recalculateStats, true)
        | some existingItem =>
          match Slots.firstEmpty cleared with
          | some emptySlotIndex =>
            ({ player with
              inventory := cleared.set emptySlotIndex (some existingItem)
              equipment := writeEquipment player.equipment item targetSlot }.recalculateStats, true)
          -- No room for the old item: the new one goes back where it was.
          | none =>
            ({ player with inventory := cleared.set inventoryIndex.toNat (some item) }, false)

end Player

end WalkingRpg

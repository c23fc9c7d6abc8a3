import WalkingRpg.Models.Creature

/-! Items and the equipment slots they fit.

The item union of the program is discriminated by `type`; every variant but the
accessory carries the slot of its type, so the slot is a function of the type.
-/

set_option autoImplicit false

namespace WalkingRpg

inductive EquipmentSlot where
  | weapon | offhand | head | chest | legs | boots | gloves | accessory1 | accessory2
  deriving DecidableEq, Repr

inductive ItemType where
  | weapon | offhand | head | chest | legs | boots | gloves | accessory
  deriving DecidableEq, Repr

inductive AffixStat where
  | attack | defense | maxHp
  deriving DecidableEq, Repr

structure Affix where
  stat : AffixStat
  value : ℚ
  deriving DecidableEq

structure Item where
  id : String
  name : String
  description : String
  rarity : Rarity
  level : ℚ
  attack : Option ℚ
  defense : Option ℚ
  maxHp : Option ℚ
  dropChance : ℚ
  affixes : Option (List Affix)
  type : ItemType
  deriving DecidableEq

/-- The literal slot of each variant; accessories have none. -/
def Item.slot (item : Item) : Option EquipmentSlot :=
  match item.type with
  | .weapon => some .weapon
  | .offhand => some .offhand
  | .head => some .head
  | .chest => some .chest
  | .legs => some .legs
  | .boots => some .boots
  | .gloves => some .gloves
  | .accessory => none

def getItemSlot (item : Item) : EquipmentSlot := item.slot.getD .accessory1

def canEquipInSlot (item : Item) (slot : EquipmentSlot) : Bool :=
  match item.slot with
  | none => slot = .accessory1 || slot = .accessory2
  | some fixed => fixed = slot

structure Item.NonNegative (item : Item) : Prop where
  attack : ∀ bonus ∈ item.attack, 0 ≤ bonus
  defense : ∀ bonus ∈ item.defense, 0 ≤ bonus
  maxHp : ∀ bonus ∈ item.maxHp, 0 ≤ bonus

end WalkingRpg

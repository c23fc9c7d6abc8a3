import WalkingRpg.Storage.PendingEncounter
import WalkingRpg.Models.Item

/-! Loot: the rarity roll, the affixes and the stats of a generated item.

The order of the draws is that of the source. An index out of range would read undefined,
for which a default stands here; a draw below one never produces it.
-/

set_option autoImplicit false

namespace WalkingRpg

open Sampling (Sampler pickLoop)

deriving instance Inhabited for ItemType
deriving instance Inhabited for AffixStat

def ItemType.text : ItemType → String
  | .weapon => "weapon"
  | .offhand => "offhand"
  | .head => "head"
  | .chest => "chest"
  | .legs => "legs"
  | .boots => "boots"
  | .gloves => "gloves"
  | .accessory => "accessory"

namespace LootService

/-- `SLOTS`. A slot of the generator is the type of the item. -/
def slots : List ItemType := [.weapon, .offhand, .head, .chest, .legs, .boots, .gloves, .accessory]

def rarities : List Rarity := [.common, .uncommon, .rare, .epic, .legendary]

/-- `RARITY_WEIGHTS`: the lowest level of a band and its weights, in the order of the rarities. -/
def rarityWeights : List (ℚ × List ℚ) := [
  (15, [10, 25, 35, 25, 5]),
  (10, [20, 35, 30, 14, 1]),
  (5, [40, 40, 18, 2, 0]),
  (1, [65, 30, 5, 0, 0])]

structure Range where
  min : ℤ
  max : ℤ

def baseRanges : Rarity → Range
  | .common => ⟨2, 5⟩
  | .uncommon => ⟨6, 12⟩
  | .rare => ⟨12, 20⟩
  | .epic => ⟨20, 30⟩
  | .legendary => ⟨28, 40⟩

def affixRanges : Rarity → Range
  | .common => ⟨0, 0⟩
  | .uncommon => ⟨2, 5⟩
  | .rare => ⟨4, 9⟩
  | .epic => ⟨6, 14⟩
  | .legendary => ⟨10, 20⟩

def affixCountOptions : Rarity → List ℕ
  | .common => [0]
  | .uncommon => [1]
  | .rare => [1, 2]
  | .epic => [2]
  | .legendary => [2, 3]

/-- `AFFIX_POOLS`; the first entry is the primary stat of the slot. -/
def affixPools : ItemType → List AffixStat
  | .weapon => [.attack, .defense, .maxHp]
  | .offhand => [.defense, .maxHp, .attack]
  | .head => [.defense, .maxHp, .attack]
  | .chest => [.defense, .maxHp, .attack]
  | .legs => [.defense, .maxHp, .attack]
  | .boots => [.defense, .attack, .maxHp]
  | .gloves => [.attack, .defense, .maxHp]
  | .accessory => [.attack, .defense, .maxHp]

def baseNames : ItemType → List String
  | .weapon => ["Blade", "Axe", "Staff", "Dagger", "Hammer"]
  | .offhand => ["Shield", "Buckler", "Focus"]
  | .head => ["Helm", "Cap", "Hood"]
  | .chest => ["Chestplate", "Robe", "Vest"]
  | .legs => ["Greaves", "Pants", "Leggings"]
  | .boots => ["Boots", "Sabatons", "Treads"]
  | .gloves => ["Gauntlets", "Gloves", "Grips"]
  | .accessory => ["Ring", "Amulet", "Pendant"]

def affixPrefixes : AffixStat → List String
  | .attack => ["Sharp", "Deadly", "Fierce", "Savage", "Keen"]
  | .defense => ["Sturdy", "Hardened", "Stalwart", "Fortified", "Reinforced"]
  | .maxHp => ["Vital", "Hardy", "Enduring", "Resilient", "Robust"]

def commonPrefixes : List String := ["Worn", "Battered", "Plain"]

def baseDropChance : ℚ := 0.4

def activeCombatDropChanceBonus : ℚ := 0.2

def activeCombatLootMultiplier : ℚ := 2.0

def randInt (min max : ℤ) : Sampler ℤ := do
  let draw ← Sampler.random
  return ⌊draw * (max - min + 1)⌋ + min

def pick {α : Type} [Inhabited α] (arr : List α) : Sampler α := do
  let draw ← Sampler.random
  return arr.getD ⌊draw * arr.length⌋.toNat default

def rollRarity (playerLevel : ℚ) : Sampler Rarity := do
  let weights := ((rarityWeights.find? fun band => playerLevel ≥ band.1).getD (1, [65, 30, 5, 0, 0])).2
  let draw ← Sampler.random
  return (pickLoop (rarities.zip weights) (draw * weights.sum)).getD .common

def rollAffixLoop (range : Range) : ℕ → List AffixStat → Sampler (List Affix)
  | 0, _ => return []
  | _ + 1, [] => return []
  | turns + 1, pool => do
    let draw ← Sampler.random
    let idx := ⌊draw * pool.length⌋.toNat
    let value ← randInt range.min range.max
    -- No stat is rolled twice.
    let rest ← rollAffixLoop range turns (pool.eraseIdx idx)
    return ⟨pool.getD idx default, value⟩ :: rest

def rollAffixes (slot : ItemType) (rarity : Rarity) : Sampler (List Affix) := do
  let count ← pick (affixCountOptions rarity)
  rollAffixLoop (affixRanges rarity) count (affixPools slot)

def dominant (first : Affix) (rest : List Affix) : Affix :=
  rest.foldl (fun a b => if a.value ≥ b.value then a else b) first

def buildName (slot : ItemType) (affixes : List Affix) : Sampler String := do
  let base ← pick (baseNames slot)
  let start ← pick (match affixes with
    | [] => commonPrefixes
    | first :: rest => affixPrefixes (dominant first rest).stat)
  return start ++ " " ++ base

/-- The stats of an item under construction; undefined until something contributes. -/
structure Stats where
  attack : Option ℚ
  defense : Option ℚ
  maxHp : Option ℚ

def Stats.ofPrimary (primaryStat : AffixStat) (baseValue : ℚ) : Stats :=
  match primaryStat with
  | .attack => ⟨some baseValue, none, none⟩
  | .defense => ⟨none, some baseValue, none⟩
  | .maxHp => ⟨none, none, some baseValue⟩

def Stats.add (stats : Stats) (affix : Affix) : Stats :=
  match affix.stat with
  | .attack => { stats with attack := some (stats.attack.getD 0 + affix.value) }
  | .defense => { stats with defense := some (stats.defense.getD 0 + affix.value) }
  | .maxHp => { stats with maxHp := some (stats.maxHp.getD 0 + affix.value) }

def scaleStat (statMultiplier value : ℚ) : ℚ := ⌊value * statMultiplier⌋

def rollStats (slot : ItemType) (rarity : Rarity) (statMultiplier : ℚ) : Sampler (List Affix × Stats) := do
  let primaryStat := (affixPools slot).headD default
  let baseRange := baseRanges rarity
  let baseValue ← randInt baseRange.min baseRange.max
  let rolled ← rollAffixes slot rarity
  let affixes := rolled.map fun affix => { affix with value := scaleStat statMultiplier affix.value }
  return (affixes, affixes.foldl Stats.add (Stats.ofPrimary primaryStat (scaleStat statMultiplier baseValue)))

/-- The `type` and the `slot` that the branches at the end of `generateItem` add to the base. -/
def variant (slot : ItemType) : ItemType × Option EquipmentSlot :=
  if slot = .weapon then (.weapon, some .weapon)
  else if slot = .offhand then (.offhand, some .offhand)
  else if slot = .head then (.head, some .head)
  else if slot = .chest then (.chest, some .chest)
  else if slot = .legs then (.legs, some .legs)
  else if slot = .boots then (.boots, some .boots)
  else if slot = .gloves then (.gloves, some .gloves)
  else (.accessory, none)

def generateItem (now : ℕ) (playerLevel : ℚ) (rarityOverride : Option Rarity) (statMultiplier : ℚ) :
    Sampler Item := do
  let slot ← pick slots
  let rarity ← rarityOverride.elim (rollRarity playerLevel) Pure.pure
  let (affixes, stats) ← rollStats slot rarity statMultiplier
  let serial ← randInt 0 9999
  let name ← buildName slot affixes
  return {
    id := "gen_" ++ slot.text ++ "_" ++ toString now ++ "_" ++ toString serial
    name := name
    description := "A " ++ rarity.text ++ " " ++ slot.text ++ "."
    rarity := rarity
    level := max 1 (playerLevel - 1)
    attack := stats.attack
    defense := stats.defense
    maxHp := stats.maxHp
    dropChance := 0
    affixes := some affixes
    -- The slot is the one of the type.
    type := (variant slot).1 }

def shouldDropItem : Sampler Bool := do
  let draw ← Sampler.random
  return draw < baseDropChance

def dropItem (now : ℕ) (forceDrop : Bool) (playerLevel : ℚ) (rarityOverride : Option Rarity) :
    Sampler (Option Item) := do
  let drops ← if forceDrop then Pure.pure true else shouldDropItem
  if drops then
    let item ← generateItem now playerLevel rarityOverride 1
    return some item
  else return none

def activeCombatDropChance : ℚ := baseDropChance + activeCombatDropChanceBonus

def shouldDropActiveItem : Sampler Bool := do
  let draw ← Sampler.random
  return draw < activeCombatDropChance

def dropActiveCombatItem (now : ℕ) (forceDrop : Bool) (playerLevel : ℚ) (rarityOverride : Option Rarity) :
    Sampler (Option Item) := do
  let drops ← if forceDrop then Pure.pure true else shouldDropActiveItem
  if drops then
    let item ← generateItem now playerLevel rarityOverride activeCombatLootMultiplier
    return some item
  else return none

structure Stats.NonNegative (stats : Stats) : Prop where
  attack : ∀ bonus ∈ stats.attack, 0 ≤ bonus
  defense : ∀ bonus ∈ stats.defense, 0 ≤ bonus
  maxHp : ∀ bonus ∈ stats.maxHp, 0 ≤ bonus

theorem Stats.nonNegative_ofPrimary (primaryStat : AffixStat) {baseValue : ℚ} (nonneg : 0 ≤ baseValue) :
    (Stats.ofPrimary primaryStat baseValue).NonNegative := by
  cases primaryStat <;> constructor <;> simp [Stats.ofPrimary, nonneg]

theorem getD_nonneg {stat : Option ℚ} (nonneg : ∀ bonus ∈ stat, 0 ≤ bonus) : 0 ≤ stat.getD 0 := by
  cases stat with
  | none => simp
  | some bonus => exact nonneg bonus rfl

theorem Stats.NonNegative.add {stats : Stats} (nonneg : stats.NonNegative) {affix : Affix}
    (positive : 0 ≤ affix.value) : (stats.add affix).NonNegative := by
  have attack := add_nonneg (getD_nonneg nonneg.attack) positive
  have defense := add_nonneg (getD_nonneg nonneg.defense) positive
  have maxHp := add_nonneg (getD_nonneg nonneg.maxHp) positive
  unfold Stats.add
  cases affix.stat with
  | attack => exact { nonneg with attack := by simpa using attack }
  | defense => exact { nonneg with defense := by simpa using defense }
  | maxHp => exact { nonneg with maxHp := by simpa using maxHp }

theorem Stats.NonNegative.foldl {stats : Stats} (nonneg : stats.NonNegative) {affixes : List Affix}
    (positive : ∀ affix ∈ affixes, 0 ≤ affix.value) : (affixes.foldl Stats.add stats).NonNegative :=
  List.foldlRecOn affixes Stats.add nonneg fun _ kept affix member => kept.add (positive affix member)

section Draws

variable {stream : ℕ → ℚ} (draws : ∀ i, 0 ≤ stream i) {position : ℕ}

include draws

theorem le_randInt {min max : ℤ} (ordered : min ≤ max) (position : ℕ) : min ≤ (randInt min max stream position).1 := by
  have width : (0 : ℚ) ≤ max - min + 1 := by
    have cast : (min : ℚ) ≤ max := by exact_mod_cast ordered
    linarith
  have floor : 0 ≤ ⌊stream position * (max - min + 1)⌋ :=
    Int.floor_nonneg.mpr (mul_nonneg (draws position) width)
  show min ≤ ⌊stream position * (max - min + 1)⌋ + min
  omega

theorem le_rollAffixLoop {range : Range} (ordered : range.min ≤ range.max) (turns : ℕ)
    (pool : List AffixStat) (position : ℕ) :
    ∀ affix ∈ (rollAffixLoop range turns pool stream position).1, (range.min : ℚ) ≤ affix.value := by
  induction turns generalizing pool position with
  | zero => simp [rollAffixLoop]
  | succ turns ih =>
    cases pool with
    | nil => simp [rollAffixLoop]
    | cons stat rest =>
      intro affix member
      simp only [rollAffixLoop, Sampler.bind_apply, Sampler.pure_apply, List.mem_cons] at member
      rcases member with rfl | later
      · have value := le_randInt draws ordered (position + 1)
        exact Int.cast_le.mpr value
      · exact ih _ _ affix later

theorem affixes_nonneg (slot : ItemType) (rarity : Rarity) :
    ∀ affix ∈ (rollAffixes slot rarity stream position).1, 0 ≤ affix.value := by
  intro affix member
  have ordered : (affixRanges rarity).min ≤ (affixRanges rarity).max := by cases rarity <;> decide
  have lowest : (0 : ℚ) ≤ (affixRanges rarity).min := by cases rarity <;> simp [affixRanges]
  exact lowest.trans (le_rollAffixLoop draws ordered _ _ _ affix member)

theorem baseValue_nonneg (rarity : Rarity) (position : ℕ) :
    (0 : ℚ) ≤ (randInt (baseRanges rarity).min (baseRanges rarity).max stream position).1 := by
  have ordered : (baseRanges rarity).min ≤ (baseRanges rarity).max := by cases rarity <;> decide
  have lowest : 0 ≤ (baseRanges rarity).min := by cases rarity <;> decide
  have drawn := lowest.trans (le_randInt draws ordered position)
  exact_mod_cast drawn

omit draws in
theorem scaleStat_nonneg {statMultiplier value : ℚ} (scale : 0 ≤ statMultiplier) (nonneg : 0 ≤ value) :
    0 ≤ scaleStat statMultiplier value := by
  have floor := Int.floor_nonneg.mpr (mul_nonneg nonneg scale)
  unfold scaleStat
  exact_mod_cast floor

theorem rollStats_nonNegative (slot : ItemType) (rarity : Rarity) {statMultiplier : ℚ}
    (scale : 0 ≤ statMultiplier) (position : ℕ) :
    (rollStats slot rarity statMultiplier stream position).1.2.NonNegative := by
  refine (Stats.nonNegative_ofPrimary _ (scaleStat_nonneg scale (baseValue_nonneg draws rarity _))).foldl ?_
  intro affix member
  obtain ⟨rolled, listed, rfl⟩ := List.mem_map.mp member
  exact scaleStat_nonneg scale (affixes_nonneg draws slot rarity rolled listed)

theorem generateItem_nonNegative (now : ℕ) (playerLevel : ℚ) (rarityOverride : Option Rarity)
    {statMultiplier : ℚ} (scale : 0 ≤ statMultiplier) :
    (generateItem now playerLevel rarityOverride statMultiplier stream position).1.NonNegative := by
  have stats := fun slot rarity position => rollStats_nonNegative draws slot rarity scale position
  unfold generateItem
  simp only [Sampler.bind_apply, Sampler.pure_apply]
  exact ⟨(stats _ _ _).attack, (stats _ _ _).defense, (stats _ _ _).maxHp⟩

end Draws

end LootService

end WalkingRpg

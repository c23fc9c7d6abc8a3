import Mathlib.Algebra.BigOperators.Ring.List
import Mathlib.Data.List.GetD
import WalkingRpg.Models.PlayerInventory
import WalkingRpg.Services.LootService
import WalkingRpg.Storage.PlayerDocument

/-! What a generated item is: its affixes, its baked stats and where it can be worn.

The draws decide the slot, the rarity, the base roll and the affixes; the multiplier comes after them and
takes no draw. So one drop is described without a multiplier, and the item is a function of the drop and
the multiplier. Its stats are the sums of what contributes to them.
-/

set_option autoImplicit false

namespace WalkingRpg

open Sampling (Sampler)

def Item.stat (item : Item) : AffixStat → Option ℚ
  | .attack => item.attack
  | .defense => item.defense
  | .maxHp => item.maxHp

namespace LootService

theorem index_lt {draw : ℚ} (drawn : 0 ≤ draw) (below : draw < 1) {length : ℕ} (stocked : 0 < length) :
    ⌊draw * length⌋.toNat < length := by
  have size : (0 : ℚ) < length := by exact_mod_cast stocked
  have nonneg : 0 ≤ ⌊draw * length⌋ := Int.floor_nonneg.mpr (mul_nonneg drawn size.le)
  have floor : ⌊draw * length⌋ < length := by
    rw [Int.floor_lt]
    push_cast
    exact mul_lt_of_lt_one_left size below
  omega

section Draws

variable {stream : ℕ → ℚ} (draws : ∀ i, 0 ≤ stream i ∧ stream i < 1)

include draws

theorem mem_pick {α : Type} [Inhabited α] {arr : List α} (stocked : arr ≠ []) (position : ℕ) :
    (pick arr stream position).1 ∈ arr := by
  have inside := index_lt (draws position).1 (draws position).2 (List.length_pos_iff.mpr stocked)
  show arr.getD ⌊stream position * arr.length⌋.toNat default ∈ arr
  rw [List.getD_eq_getElem arr default inside]
  exact List.getElem_mem inside

theorem randInt_le {min max : ℤ} (ordered : min ≤ max) (position : ℕ) :
    (randInt min max stream position).1 ≤ max := by
  have width : (0 : ℚ) < max - min + 1 := by
    have cast : (min : ℚ) ≤ max := by exact_mod_cast ordered
    linarith
  have floor : ⌊stream position * (max - min + 1)⌋ < max - min + 1 := by
    rw [Int.floor_lt]
    push_cast
    exact mul_lt_of_lt_one_left width (draws position).2
  show ⌊stream position * (max - min + 1)⌋ + min ≤ max
  omega

theorem mem_randInt {range : Range} (ordered : range.min ≤ range.max) (position : ℕ) :
    range.min ≤ (randInt range.min range.max stream position).1 ∧
      (randInt range.min range.max stream position).1 ≤ range.max :=
  ⟨le_randInt (fun i => (draws i).1) ordered position, randInt_le draws ordered position⟩

end Draws

/-- What a number of turns roll from a pool of stats: different stats of it, with values of the range. -/
structure Rolled (range : Range) (turns : ℕ) (pool : List AffixStat) (affixes : List Affix) : Prop where
  distinct : (affixes.map Affix.stat).Nodup
  pooled : ∀ affix ∈ affixes, affix.stat ∈ pool
  count : affixes.length = min turns pool.length
  values : ∀ affix ∈ affixes, ∃ value : ℤ, range.min ≤ value ∧ value ≤ range.max ∧ affix.value = value

theorem Rolled.none (range : Range) {turns : ℕ} {pool : List AffixStat} (spent : min turns pool.length = 0) :
    Rolled range turns pool [] where
  distinct := List.nodup_nil
  pooled := by simp
  count := spent.symm
  values := by simp

theorem Rolled.cons {range : Range} {turns index : ℕ} {pool : List AffixStat} {affixes : List Affix}
    (unique : pool.Nodup) (inside : index < pool.length) {value : ℤ}
    (drawn : range.min ≤ value ∧ value ≤ range.max)
    (rolled : Rolled range turns (pool.eraseIdx index) affixes) :
    Rolled range (turns + 1) pool (⟨pool[index], value⟩ :: affixes) := by
  have gone : pool[index] ∉ pool.eraseIdx index := by
    rw [← unique.erase_getElem index inside]
    exact unique.not_mem_erase
  refine ⟨?_, ?_, ?_, ?_⟩
  · rw [List.map_cons, List.nodup_cons]
    refine ⟨fun again => ?_, rolled.distinct⟩
    obtain ⟨affix, present, same⟩ := List.mem_map.mp again
    have kept := rolled.pooled affix present
    rw [same] at kept
    exact gone kept
  · intro affix present
    rcases List.mem_cons.mp present with rfl | later
    · exact List.getElem_mem inside
    · exact List.mem_of_mem_eraseIdx (rolled.pooled affix later)
  · rw [List.length_cons, rolled.count, List.length_eraseIdx_of_lt inside]
    omega
  · intro affix present
    rcases List.mem_cons.mp present with rfl | later
    · exact ⟨value, drawn.1, drawn.2, rfl⟩
    · exact rolled.values affix later

theorem rolled_rollAffixLoop {stream : ℕ → ℚ} (draws : ∀ i, 0 ≤ stream i ∧ stream i < 1) {range : Range}
    (ordered : range.min ≤ range.max) (turns : ℕ) {pool : List AffixStat} (unique : pool.Nodup)
    (position : ℕ) : Rolled range turns pool (rollAffixLoop range turns pool stream position).1 := by
  induction turns generalizing pool position with
  | zero => exact .none range (by simp)
  | succ turns ih =>
    cases pool with
    | nil => exact .none range (by simp)
    | cons stat rest =>
      have inside := index_lt (draws position).1 (draws position).2 (Nat.succ_pos rest.length)
      have later := ih (unique.eraseIdx ⌊stream position * (stat :: rest).length⌋.toNat) (position + 2)
      have rolled := later.cons unique inside (mem_randInt draws ordered (position + 1))
      rw [← List.getD_eq_getElem (stat :: rest) default inside] at rolled
      exact rolled

def Stats.get (stats : Stats) : AffixStat → Option ℚ
  | .attack => stats.attack
  | .defense => stats.defense
  | .maxHp => stats.maxHp

def total (parts : List ℚ) : Option ℚ := if parts = [] then none else some parts.sum

theorem total_snoc (parts : List ℚ) (part : ℚ) : total (parts ++ [part]) = some ((total parts).getD 0 + part) := by
  cases parts with
  | nil => simp [total]
  | cons first rest => simp [total, add_assoc]

theorem total_map_mul (factor : ℚ) (parts : List ℚ) :
    total (parts.map fun part => factor * part) = (total parts).map fun sum => factor * sum := by
  unfold total
  by_cases empty : parts = []
  · simp [empty]
  · have scaled := List.sum_map_mul_left (f := fun part : ℚ => part) (l := parts) (r := factor)
    simpa [empty] using scaled

theorem get_add (stats : Stats) (affix : Affix) (stat : AffixStat) :
    (stats.add affix).get stat =
      if affix.stat = stat then some ((stats.get stat).getD 0 + affix.value) else stats.get stat := by
  unfold Stats.add Stats.get
  cases affix.stat <;> cases stat <;> rfl

def contributed (affixes : List Affix) (stat : AffixStat) : List ℚ :=
  (affixes.filter fun affix => affix.stat = stat).map Affix.value

theorem get_foldl_add {stats : Stats} {stat : AffixStat} {parts : List ℚ} (start : stats.get stat = total parts)
    (affixes : List Affix) :
    (affixes.foldl Stats.add stats).get stat = total (parts ++ contributed affixes stat) := by
  induction affixes generalizing stats parts with
  | nil => simpa [contributed] using start
  | cons affix rest ih =>
    rw [List.foldl_cons]
    by_cases here : affix.stat = stat
    · have added : (stats.add affix).get stat = total (parts ++ [affix.value]) := by
        rw [get_add, if_pos here, start, total_snoc]
      rw [ih added]
      simp [contributed, here]
    · have kept : (stats.add affix).get stat = total parts := by
        rw [get_add, if_neg here, start]
      rw [ih kept]
      simp [contributed, here]

/-- What the draws decide of an item. -/
structure Drop where
  slot : ItemType
  rarity : Rarity
  base : ℤ
  rolled : List Affix

def rollDrop (playerLevel : ℚ) (rarityOverride : Option Rarity) : Sampler Drop := do
  let slot ← pick slots
  let rarity ← rarityOverride.elim (rollRarity playerLevel) Pure.pure
  let base ← randInt (baseRanges rarity).min (baseRanges rarity).max
  let rolled ← rollAffixes slot rarity
  return ⟨slot, rarity, base, rolled⟩

namespace Drop

def primaryStat (drop : Drop) : AffixStat := (affixPools drop.slot).headD default

def affixes (drop : Drop) (statMultiplier : ℚ) : List Affix :=
  drop.rolled.map fun affix => { affix with value := scaleStat statMultiplier affix.value }

/-- The parts of a stat: the scaled base roll if it is the primary one, and the affixes on it. -/
def parts (drop : Drop) (statMultiplier : ℚ) (stat : AffixStat) : List ℚ :=
  (if stat = drop.primaryStat then [scaleStat statMultiplier drop.base] else []) ++
    contributed (drop.affixes statMultiplier) stat

structure Allowed (drop : Drop) : Prop where
  slot : drop.slot ∈ slots
  base : (baseRanges drop.rarity).min ≤ drop.base ∧ drop.base ≤ (baseRanges drop.rarity).max
  distinct : (drop.rolled.map Affix.stat).Nodup
  count : drop.rolled.length ∈ affixCountOptions drop.rarity
  values : ∀ affix ∈ drop.rolled, ∃ value : ℤ, (affixRanges drop.rarity).min ≤ value ∧
    value ≤ (affixRanges drop.rarity).max ∧ affix.value = value

end Drop

theorem variant_spec (slot : ItemType) :
    (variant slot).1 = slot ∧ ∀ item : Item, item.type = slot → item.slot = (variant slot).2 := by
  refine ⟨by cases slot <;> rfl, fun item same => ?_⟩
  rw [Item.slot, same]
  cases slot <;> rfl

theorem allowed_rollDrop {stream : ℕ → ℚ} (draws : ∀ i, 0 ≤ stream i ∧ stream i < 1) (playerLevel : ℚ)
    (rarityOverride : Option Rarity) (position : ℕ) :
    (rollDrop playerLevel rarityOverride stream position).1.Allowed := by
  have bases : ∀ rarity, (baseRanges rarity).min ≤ (baseRanges rarity).max := by
    intro rarity
    cases rarity <;> decide
  have ranges : ∀ rarity, (affixRanges rarity).min ≤ (affixRanges rarity).max := by
    intro rarity
    cases rarity <;> decide
  have pools : ∀ slot, (affixPools slot).Nodup ∧ (affixPools slot).length = 3 := by
    intro slot
    cases slot <;> decide
  have options : ∀ rarity, affixCountOptions rarity ≠ [] ∧ ∀ count ∈ affixCountOptions rarity, count ≤ 3 := by
    intro rarity
    cases rarity <;> decide
  unfold rollDrop rollAffixes
  simp only [Sampler.bind_apply, Sampler.pure_apply]
  generalize drawnSlot : (pick slots stream position) = slot
  generalize (rarityOverride.elim (rollRarity playerLevel) Pure.pure : Sampler Rarity) stream slot.2 = rarity
  have rolled := rolled_rollAffixLoop draws (ranges rarity.1) (pick (affixCountOptions rarity.1) stream
    (randInt (baseRanges rarity.1).min (baseRanges rarity.1).max stream rarity.2).2).1 (pools slot.1).1
  have picked := mem_pick draws (options rarity.1).1
    (randInt (baseRanges rarity.1).min (baseRanges rarity.1).max stream rarity.2).2
  refine ⟨?_, mem_randInt draws (bases rarity.1) rarity.2, (rolled _).distinct, ?_, (rolled _).values⟩
  · rw [← drawnSlot]
    exact mem_pick draws (by decide) position
  · -- No more affixes are asked for than there are stats.
    rw [(rolled _).count, (pools slot.1).2, min_eq_left ((options rarity.1).2 _ picked)]
    exact picked

section Item

variable (now : ℕ) (playerLevel : ℚ) (rarityOverride : Option Rarity) (statMultiplier : ℚ)
  (stream : ℕ → ℚ) (position : ℕ)

theorem generateItem_drop :
    let drop := (rollDrop playerLevel rarityOverride stream position).1
    let item := (generateItem now playerLevel rarityOverride statMultiplier stream position).1
    item.type = drop.slot ∧ item.rarity = drop.rarity ∧ item.level = max 1 (playerLevel - 1) ∧
      item.affixes = some (drop.affixes statMultiplier) ∧
      ∀ stat, item.stat stat = ((drop.affixes statMultiplier).foldl Stats.add
        (Stats.ofPrimary drop.primaryStat (scaleStat statMultiplier drop.base))).get stat :=
  ⟨(variant_spec _).1, rfl, rfl, rfl, fun stat => by cases stat <;> rfl⟩

theorem stat_generateItem (stat : AffixStat) :
    (generateItem now playerLevel rarityOverride statMultiplier stream position).1.stat stat =
      total ((rollDrop playerLevel rarityOverride stream position).1.parts statMultiplier stat) := by
  obtain ⟨_, _, _, _, stats⟩ :=
    generateItem_drop now playerLevel rarityOverride statMultiplier stream position
  generalize (rollDrop playerLevel rarityOverride stream position).1 = drop at stats ⊢
  rw [stats, Drop.parts]
  apply get_foldl_add
  cases drop.primaryStat <;> cases stat <;> simp [Stats.ofPrimary, Stats.get, total]

end Item

theorem scaleStat_intCast (factor value : ℤ) : scaleStat factor value = factor * value := by
  have whole : (value : ℚ) * factor = ((value * factor : ℤ) : ℚ) := by push_cast; rfl
  rw [scaleStat, whole, Int.floor_intCast]
  push_cast
  exact mul_comm _ _

namespace Drop

variable {drop : Drop} (allowed : drop.Allowed) (factor : ℤ)

include allowed

theorem affixes_intCast : drop.affixes factor =
    (drop.affixes 1).map fun affix => { affix with value := factor * affix.value } := by
  unfold affixes
  rw [List.map_map]
  refine List.map_congr_left fun affix present => ?_
  obtain ⟨value, _, _, whole⟩ := allowed.values affix present
  have once := scaleStat_intCast 1 value
  rw [Int.cast_one, one_mul] at once
  simp only [Function.comp_apply, whole, scaleStat_intCast, once]

theorem parts_intCast (stat : AffixStat) :
    drop.parts factor stat = (drop.parts 1 stat).map fun part => (factor : ℚ) * part := by
  have once := scaleStat_intCast 1 drop.base
  rw [Int.cast_one, one_mul] at once
  unfold parts contributed
  rw [affixes_intCast allowed, scaleStat_intCast, once, List.map_append, List.filter_map]
  congr 1
  · split <;> rfl
  · rw [List.map_map, List.map_map]
    rfl

end Drop

end LootService

namespace Player

theorem equipItem_of_level_le {player : Player} {item : Item} {index : ℤ} (found : player.itemAt index = some item)
    (low : item.level ≤ player.level) (preferredSlot : Option EquipmentSlot) :
    (player.equipItem index preferredSlot).2 = true ∧ ∃ slot, canEquipInSlot item slot = true ∧
      (player.equipItem index preferredSlot).1.equipment.get slot = some item := by
  rcases player.equipItem_spec index preferredSlot with ⟨refused, _⟩ | ⟨other, after, there, _, equipped, moved⟩
  · exact absurd (refused.level_lt found) (not_lt.mpr low)
  · obtain rfl := Option.some.inj (found.symm.trans there)
    rw [equipped]
    exact ⟨rfl, _, player.canEquipInSlot_target item preferredSlot, moved.placed⟩

end Player

namespace LootService

/-- Generated items are consistent and can be worn, and a whole multiplier scales every value exactly. -/
theorem generateItem_consistent (now : ℕ) (playerLevel : ℚ) (reached : 1 ≤ playerLevel)
    (rarityOverride : Option Rarity) (statMultiplier : ℚ) (stream : ℕ → ℚ)
    (draws : ∀ i, 0 ≤ stream i ∧ stream i < 1) (position : ℕ) :
    let generate := fun multiplier => (generateItem now playerLevel rarityOverride multiplier stream position).1
    let item := generate statMultiplier
    (∀ rarity, rarityOverride = some rarity → item.rarity = rarity) ∧
    (∃ affixes, item.affixes = some affixes ∧ (affixes.map Affix.stat).Nodup ∧
      affixes.length ∈ affixCountOptions item.rarity ∧
      (∀ affix ∈ affixes, ∃ value : ℤ, (affixRanges item.rarity).min ≤ value ∧
        value ≤ (affixRanges item.rarity).max ∧ affix.value = ⌊statMultiplier * value⌋) ∧
      ∃ base : ℤ, (baseRanges item.rarity).min ≤ base ∧ base ≤ (baseRanges item.rarity).max ∧
        ∀ stat, item.stat stat = total
          ((if stat = (affixPools item.type).headD default then [(⌊statMultiplier * base⌋ : ℚ)] else []) ++
            contributed affixes stat)) ∧
    (item.type, item.slot) = variant (pick slots stream position).1 ∧
    item.slot.map EquipmentSlot.text = (if item.type = .accessory then none else some item.type.text) ∧
    (∀ (player : Player) (index : ℤ) (preferredSlot : Option EquipmentSlot), player.level = playerLevel →
      player.itemAt index = some item →
      (player.equipItem index preferredSlot).2 = true ∧ ∃ slot, canEquipInSlot item slot = true ∧
        (player.equipItem index preferredSlot).1.equipment.get slot = some item) ∧
    ∀ factor : ℤ, (generate factor).type = (generate 1).type ∧ (generate factor).rarity = (generate 1).rarity ∧
      (∀ stat, (generate factor).stat stat = ((generate 1).stat stat).map fun value => (factor : ℚ) * value) ∧
      (generate factor).affixes = (generate 1).affixes.map fun affixes =>
        affixes.map fun affix => { affix with value := factor * affix.value } := by
  intro generate item
  have allowed := allowed_rollDrop draws playerLevel rarityOverride position
  have of := fun multiplier => generateItem_drop now playerLevel rarityOverride multiplier stream position
  have stats := fun multiplier =>
    stat_generateItem now playerLevel rarityOverride multiplier stream position
  have scaled : ∀ value : ℚ, scaleStat statMultiplier value = ⌊statMultiplier * value⌋ := fun value => by
    rw [scaleStat, mul_comm]
  obtain ⟨type, rarity, level, affixes, _⟩ := of statMultiplier
  refine ⟨?_, ⟨_, affixes, ?_, ?_, ?_, ?_⟩, ?_, ?_, ?_, ?_⟩
  · intro chosen given
    rw [rarity, given]
    rfl
  · unfold Drop.affixes
    rw [List.map_map]
    exact allowed.distinct
  · unfold Drop.affixes
    rw [List.length_map, rarity]
    exact allowed.count
  · intro affix present
    obtain ⟨rolled, listed, rfl⟩ := List.mem_map.mp present
    obtain ⟨value, low, high, whole⟩ := allowed.values rolled listed
    rw [rarity]
    refine ⟨value, low, high, ?_⟩
    rw [scaled, whole]
  · rw [rarity]
    refine ⟨_, allowed.base.1, allowed.base.2, fun stat => ?_⟩
    rw [← scaled, type]
    exact stats statMultiplier stat
  · exact Prod.ext rfl ((variant_spec _).2 item type)
  · rw [Item.slot]
    cases item.type <;> rfl
  · intro player index preferredSlot same found
    -- The level of the item is one below that of the player, and never below one.
    have low : item.level ≤ player.level := by
      rw [same, level]
      exact max_le reached (sub_le_self playerLevel zero_le_one)
    exact Player.equipItem_of_level_le found low preferredSlot
  · intro factor
    obtain ⟨type, rarity, _, affixes, _⟩ := of factor
    obtain ⟨typeOnce, rarityOnce, _, affixesOnce, _⟩ := of 1
    refine ⟨type.trans typeOnce.symm, rarity.trans rarityOnce.symm, fun stat => ?_, ?_⟩
    · show (generateItem now playerLevel rarityOverride factor stream position).1.stat stat = _
      rw [stats, Drop.parts_intCast allowed, total_map_mul, ← stats]
    · rw [affixes, affixesOnce, Drop.affixes_intCast allowed]
      rfl

theorem generateItem_consistent_rare :
    let item := (generateItem 0 5 (some .rare) 2 (fun _ => 1 / 2) 0).1
    let player := { Player.new .martial 5 with inventory := [none, some item] }
    item.type = .legs ∧ item.defense = some 32 ∧ item.maxHp = some 14 ∧ item.attack = some 14 ∧
      player.itemAt 1 = some item ∧ (player.equipItem 1 none).2 = true := by
  intro item player
  have spec := generateItem_consistent 0 5 (by norm_num) (some .rare) 2 (fun _ => 1 / 2) (fun _ => by norm_num) 0
  obtain ⟨_, _, _, _, worn, _⟩ := spec
  exact ⟨by decide +kernel, by decide +kernel, by decide +kernel, by decide +kernel, rfl,
    (worn player 1 none rfl rfl).1⟩

end LootService

end WalkingRpg

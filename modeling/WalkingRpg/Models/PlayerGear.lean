import WalkingRpg.Library.Runs
import WalkingRpg.Models.PlayerStats

/-! What an equip does to the stats and to current HP.

The bonuses of the equipment are a sum over the items it holds, so an equip moves each cached
stat by the difference of two items. Current HP follows max HP: the HP that is missing stays the
same, until so much is missing that the lower clamp bites.
-/

set_option autoImplicit false

namespace WalkingRpg

open Runs (Run)
open Slots (held contents)

namespace Player

theorem bonus_eq_sum_contents (stat : Item → Option ℚ) (equipment : Equipment) :
    equipment.bonus stat = ((contents equipment.values).map fun item => (stat item).getD 0).sum := by
  unfold Equipment.bonus
  induction equipment.values with
  | nil => rfl
  | cons slot slots ih =>
    rw [List.map_cons, List.sum_cons, ih, Slots.contents_cons, Multiset.map_add, Multiset.sum_add]
    cases slot with
    | none => simp
    | some item => simp

variable {equipment : Equipment} {item : Item} {target : EquipmentSlot}

theorem bonus_writeEquipment (stat : Item → Option ℚ) (equipment : Equipment)
    (fits : canEquipInSlot item target = true) :
    (writeEquipment equipment item target).bonus stat + ((equipment.get target).bind stat).getD 0 =
      equipment.bonus stat + (stat item).getD 0 := by
  have written := congrArg (fun items => (items.map fun item => (stat item).getD 0).sum)
    (contents_writeEquipment equipment fits)
  simp only [Multiset.map_add, Multiset.sum_add, Multiset.map_singleton, Multiset.sum_singleton] at written
  rw [bonus_eq_sum_contents, bonus_eq_sum_contents, ← written]
  cases equipment.get target with
  | none => simp
  | some replaced => simp

def statSum (player : Player) : ℚ := player.attack + player.defense + player.maxHp

def slotTotal (slot : Option Item) : ℚ := (slot.map statTotal).getD 0

theorem slotTotal_eq (slot : Option Item) :
    slotTotal slot = (slot.bind Item.attack).getD 0 + (slot.bind Item.defense).getD 0 +
      (slot.bind Item.maxHp).getD 0 := by
  cases slot with
  | none => simp [slotTotal]
  | some item => rfl

variable {player : Player}

theorem Derived.statSum_writeEquipment (derived : player.Derived)
    (fits : canEquipInSlot item target = true) (inventory : List (Option Item)) :
    { player with
      inventory := inventory
      equipment := writeEquipment player.equipment item target }.recalculateStats.statSum =
      player.statSum + (statTotal item - slotTotal (player.equipment.get target)) := by
  have attack := bonus_writeEquipment Item.attack player.equipment fits
  have defense := bonus_writeEquipment Item.defense player.equipment fits
  have maxHp := bonus_writeEquipment Item.maxHp player.equipment fits
  have total : statTotal item = item.attack.getD 0 + item.defense.getD 0 + item.maxHp.getD 0 := rfl
  unfold statSum
  rw [slotTotal_eq, total, derived.attack, derived.defense, derived.maxHp]
  simp only [recalculateStats]
  linarith

theorem wouldUpgrade_iff (player : Player) (item : Item) :
    player.wouldUpgrade item = true ↔
      (player.equipment.get (player.getEquipTargetSlot item)).isSome ∧
        slotTotal (player.equipment.get (player.getEquipTargetSlot item)) < statTotal item := by
  unfold wouldUpgrade
  cases player.equipment.get (player.getEquipTargetSlot item) with
  | none => simp
  | some replaced => simp [slotTotal]

/-- An equip without a preferred slot lands where `getEquipTargetSlot` said and moves the sum of the
stats by the difference between the two items; the badge is shown exactly when there was an item
and the sum grows. -/
theorem equipItem_agrees_with_badge (derived : player.Derived) {index : ℤ}
    (found : player.itemAt index = some item) (low : item.level ≤ player.level) :
    let target := player.getEquipTargetSlot item
    let replaced := player.equipment.get target
    let after := (player.equipItem index none).1
    (player.equipItem index none).2 = true ∧
      after.equipment.get target = some item ∧
      (∀ slot, slot ≠ target → after.equipment.get slot = player.equipment.get slot) ∧
      after.statSum - player.statSum = statTotal item - slotTotal replaced ∧
      (player.wouldUpgrade item = true ↔ replaced.isSome ∧ player.statSum < after.statSum) := by
  have unrouted : player.resolveEquipTargetSlot item none = player.getEquipTargetSlot item := by
    simp [resolveEquipTargetSlot]
  rcases player.equipItem_cases index none with ⟨refused, _⟩ | ⟨other, inventory, same, _, _, equipped⟩
  · exact absurd (refused.level_lt found) (not_lt.mpr low)
  cases Option.some.inj (same.symm.trans found)
  have fits := player.canEquipInSlot_target item none
  rw [unrouted] at equipped fits
  rw [equipped]
  have moved := derived.statSum_writeEquipment fits inventory
  refine ⟨rfl, ?_, fun slot different => ?_, ?_, ?_⟩
  · rw [recalculateStats_equipment, get_writeEquipment fits, if_pos rfl]
  · rw [recalculateStats_equipment, get_writeEquipment fits, if_neg different]
  · rw [moved]
    ring
  · rw [wouldUpgrade_iff, moved]
    simp only [lt_add_iff_pos_right, sub_pos]

structure EquipCall where
  index : ℤ
  preferredSlot : Option EquipmentSlot

def equipStep (player : Player) (call : EquipCall) : Option Player :=
  match player.equipItem call.index call.preferredSlot with
  | (after, true) => some after
  | (_, false) => none

/-- The bonus to max HP that a call puts on. -/
def bonusOn (player : Player) (call : EquipCall) : ℚ := ((player.itemAt call.index).bind Item.maxHp).getD 0

/-- The bonus to max HP that a call takes off. -/
def bonusOff (player : Player) (call : EquipCall) : ℚ :=
  (((player.itemAt call.index).bind fun item =>
    player.equipment.get (player.resolveEquipTargetSlot item call.preferredSlot)).bind Item.maxHp).getD 0

section EquipStep

variable {call : EquipCall} {after : Player}

theorem equipStep_eq_some (taken : player.equipStep call = some after) :
    ∃ inventory equipment,
      after = { player with inventory := inventory, equipment := equipment }.recalculateStats ∧
        equipment.bonus Item.maxHp + player.bonusOff call =
          player.equipment.bonus Item.maxHp + player.bonusOn call := by
  rcases player.equipItem_cases call.index call.preferredSlot with
    ⟨_, same⟩ | ⟨item, inventory, found, _, _, equipped⟩
  · simp [equipStep, same] at taken
  · rw [equipStep, equipped] at taken
    cases Option.some.inj taken
    refine ⟨_, _, rfl, ?_⟩
    have exchanged := bonus_writeEquipment Item.maxHp player.equipment
      (player.canEquipInSlot_target item call.preferredSlot)
    simpa [bonusOff, bonusOn, found] using exchanged

theorem maxHp_equipStep (derived : player.maxHp =
      deriveMaxHp player.archetype player.str player.agi + player.equipment.bonus Item.maxHp)
    (taken : player.equipStep call = some after) :
    after.maxHp + player.bonusOff call = player.maxHp + player.bonusOn call := by
  obtain ⟨inventory, equipment, rfl, exchanged⟩ := equipStep_eq_some taken
  rw [derived]
  simp only [recalculateStats]
  linarith

theorem hp_equipStep (bound : player.hp ≤ player.maxHp) (taken : player.equipStep call = some after) :
    after.hp = max 0 (after.maxHp - player.missingHp) := by
  obtain ⟨inventory, equipment, rfl, _⟩ := equipStep_eq_some taken
  exact @hp_recalculateStats { player with inventory := inventory, equipment := equipment } bound

end EquipStep

/-- A player in the course of changing gear: no attribute has changed, max HP follows the equipment,
and as much HP is missing as at the start. -/
structure Changing (start player : Player) : Prop where
  archetype : player.archetype = start.archetype
  str : player.str = start.str
  agi : player.agi = start.agi
  maxHp : player.maxHp =
    deriveMaxHp start.archetype start.str start.agi + player.equipment.bonus Item.maxHp
  missing : player.missingHp = start.missingHp
  alive : 0 < player.hp

theorem Derived.changing (derived : player.Derived) (alive : 0 < player.hp) : player.Changing player :=
  ⟨rfl, rfl, rfl, derived.maxHp, rfl, alive⟩

namespace Changing

variable {start after : Player} {call : EquipCall}

theorem hp_le (changing : start.Changing player) (bound : start.hp ≤ start.maxHp) : player.hp ≤ player.maxHp := by
  have missing := changing.missing
  unfold missingHp at missing
  linarith

theorem alive_iff (changing : start.Changing player) (bound : start.hp ≤ start.maxHp)
    (taken : player.equipStep call = some after) :
    0 < after.hp ↔ start.missingHp + player.bonusOff call < player.maxHp + player.bonusOn call := by
  have derived := changing.maxHp
  rw [← changing.archetype, ← changing.str, ← changing.agi] at derived
  rw [hp_equipStep (changing.hp_le bound) taken, changing.missing, lt_max_iff, ← maxHp_equipStep derived taken]
  simp only [lt_self_iff_false, false_or, sub_pos, add_lt_add_iff_right]

theorem equipStep (changing : start.Changing player) (bound : start.hp ≤ start.maxHp)
    (taken : player.equipStep call = some after) (alive : 0 < after.hp) : start.Changing after := by
  have followed := hp_equipStep (changing.hp_le bound) taken
  have hp : after.hp = after.maxHp - start.missingHp := by
    rw [changing.missing] at followed
    rcases lt_max_iff.mp (followed ▸ alive) with none | above
    · exact absurd none (lt_irrefl 0)
    · rw [followed, max_eq_right above.le]
  obtain ⟨inventory, equipment, rfl, _⟩ := equipStep_eq_some taken
  refine ⟨changing.archetype, changing.str, changing.agi, ?_, ?_, alive⟩
  · rw [← changing.archetype, ← changing.str, ← changing.agi]
    rfl
  · rw [missingHp, hp]
    ring

end Changing

/-- Every call of a sequence leaves the player alive exactly when each bonus put on, with max HP as it is,
makes up for the bonus taken off and the HP that was missing at the start. Then HP is again what it was
once the equipment is. -/
theorem run_equipStep_keeps_hp {start : Player} (derived : start.Derived) (alive : 0 < start.hp)
    (calls : List EquipCall) (final : Player) :
    (Run equipStep (fun before call => ∀ after, before.equipStep call = some after → 0 < after.hp) start calls final ↔
      Run equipStep
        (fun before call => start.missingHp + before.bonusOff call < before.maxHp + before.bonusOn call)
        start calls final) ∧
    (Run equipStep
        (fun before call => start.missingHp + before.bonusOff call < before.maxHp + before.bonusOn call)
        start calls final →
      0 < final.hp ∧ (final.equipment = start.equipment → final.hp = start.hp)) := by
  have initial := derived.changing alive
  refine ⟨⟨fun run => ?_, fun run => ?_⟩, fun run => ?_⟩
  · refine run.exchange (fun player => start.Changing player) initial ?_
    intro before call after held lives taken
    have survives := lives after taken
    exact ⟨held.equipStep derived.hp_le taken survives, (held.alive_iff derived.hp_le taken).mp survives⟩
  · refine run.exchange (fun player => start.Changing player) initial ?_
    intro before call after held outlasts taken
    have survives := (held.alive_iff derived.hp_le taken).mpr outlasts
    refine ⟨held.equipStep derived.hp_le taken survives, fun other again => ?_⟩
    rw [taken] at again
    exact Option.some.inj again ▸ survives
  · have changing : start.Changing final := by
      refine run.invariant (fun player => start.Changing player) initial ?_
      intro before call after held outlasts taken
      exact held.equipStep derived.hp_le taken ((held.alive_iff derived.hp_le taken).mpr outlasts)
    refine ⟨changing.alive, fun restored => ?_⟩
    have maxHp : final.maxHp = start.maxHp := by
      rw [changing.maxHp, restored, derived.maxHp]
    have missing := changing.missing
    unfold missingHp at missing
    linarith

def chestPiece (bonus : ℚ) : Item where
  id := "chest"
  name := "Chest"
  description := ""
  rarity := .common
  level := 1
  attack := none
  defense := none
  maxHp := some bonus
  dropChance := 1
  affixes := none
  type := .chest

theorem chestPiece_nonNegative {bonus : ℚ} (nonneg : 0 ≤ bonus) : (chestPiece bonus).NonNegative where
  attack _ present := by cases present
  defense _ present := by cases present
  maxHp amount present := by
    cases Option.some.inj present
    exact nonneg

def armored (damage : ℚ) : Player :=
  [Op.addItemToInventory (chestPiece 50), .addItemToInventory (chestPiece 0), .equipItem 0 none,
    .takeDamage damage].foldl Op.apply (Player.new .martial 1)

theorem armored_sound {damage : ℚ} (nonneg : 0 ≤ damage) : (armored damage).Sound := by
  refine (sound_new .martial le_rfl).run fun op member => ?_
  simp only [List.mem_cons, List.not_mem_nil, or_false] at member
  rcases member with rfl | rfl | rfl | rfl
  · exact chestPiece_nonNegative (by norm_num)
  · exact chestPiece_nonNegative le_rfl
  · trivial
  · exact nonneg

/-- With 90 of 150 HP the plain piece can be tried on. -/
theorem run_equipStep_keeps_hp_armored : ∃ final,
    Run equipStep
      (fun before call => (armored 60).missingHp + before.bonusOff call < before.maxHp + before.bonusOn call)
      (armored 60) [⟨1, none⟩, ⟨0, none⟩] final ∧
    final.equipment = (armored 60).equipment ∧ final.hp = (armored 60).hp := by
  have reached : ∃ final,
      Run equipStep
        (fun before call => (armored 60).missingHp + before.bonusOff call < before.maxHp + before.bonusOn call)
        (armored 60) [⟨1, none⟩, ⟨0, none⟩] final ∧ final.equipment = (armored 60).equipment :=
    Run.exists_of_exec (by decide +kernel)
  obtain ⟨final, run, restored⟩ := reached
  have alive : 0 < (armored 60).hp := by decide +kernel
  have kept := (run_equipStep_keeps_hp (armored_sound (by norm_num)).coherent.derived alive _ final).2 run
  exact ⟨final, run, restored, kept.2 restored⟩

/-- With 30 of 150 HP trying on the plain piece kills, and putting the other one back on heals to 50. -/
theorem equip_kills_then_heals :
    (armored 120).Sound ∧ (armored 120).hp = 30 ∧
    (∃ dead, Run equipStep (fun _ _ => True) (armored 120) [⟨1, none⟩] dead ∧ dead.hp = 0) ∧
    ∃ final, Run equipStep (fun _ _ => True) (armored 120) [⟨1, none⟩, ⟨0, none⟩] final ∧
      final.equipment = (armored 120).equipment ∧ final.hp = 50 :=
  ⟨armored_sound (by norm_num), by decide +kernel, Run.exists_of_exec (by decide +kernel),
    Run.exists_of_exec (by decide +kernel)⟩

/-- The piece of 50 is an upgrade for one who wears the plain one, and not the other way round. -/
theorem equipItem_agrees_with_badge_armored :
    (armored 0).wouldUpgrade (chestPiece 0) = false ∧
      ((armored 0).equipItem 1 none).1.statSum - (armored 0).statSum = -50 := by
  have stored : (armored 0).itemAt 1 = some (chestPiece 0) := by decide +kernel
  have agrees := equipItem_agrees_with_badge (armored_sound le_rfl).coherent.derived stored (by decide +kernel)
  have worn : slotTotal ((armored 0).equipment.get ((armored 0).getEquipTargetSlot (chestPiece 0))) = 50 := by
    decide +kernel
  refine ⟨by decide +kernel, ?_⟩
  rw [agrees.2.2.2.1, worn]
  decide +kernel

end Player

end WalkingRpg

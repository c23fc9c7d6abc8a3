import WalkingRpg.Models.Player

/-! Ownership of items through adding, removing and equipping.

An equip clears the source slot, parks the replaced item and writes the target
slot. The laws below follow the multiset of owned items through these writes.
-/

set_option autoImplicit false

namespace WalkingRpg

open Slots (held contents firstEmpty)

def Equipment.Fits (equipment : Equipment) : Prop :=
  ∀ slot item, equipment.get slot = some item → canEquipInSlot item slot = true

namespace Player

def owned (player : Player) : Multiset Item :=
  contents player.inventory + contents player.equipment.values

theorem canEquipInSlot_target (player : Player) (item : Item) (preferredSlot : Option EquipmentSlot) :
    canEquipInSlot item (player.resolveEquipTargetSlot item preferredSlot) = true := by
  unfold resolveEquipTargetSlot getEquipTargetSlot canEquipInSlot Item.slot
  cases item.type <;> simp
  by_cases first : preferredSlot = some .accessory1
  · simp [first]
  by_cases second : preferredSlot = some .accessory2
  · simp [second]
  · simp [first, second]
    exact em _

variable {equipment : Equipment} {item : Item} {target : EquipmentSlot}

theorem get_writeEquipment (fits : canEquipInSlot item target = true) (slot : EquipmentSlot) :
    (writeEquipment equipment item target).get slot =
      if slot = target then some item else equipment.get slot := by
  unfold canEquipInSlot Item.slot at fits
  unfold writeEquipment
  cases kind : item.type <;> rw [kind] at fits <;> simp at fits
  case accessory => rcases fits with rfl | rfl <;> cases slot <;> rfl
  all_goals subst fits; cases slot <;> rfl

theorem contents_writeEquipment (equipment : Equipment) (fits : canEquipInSlot item target = true) :
    contents (writeEquipment equipment item target).values + held (equipment.get target) =
      contents equipment.values + {item} := by
  unfold canEquipInSlot Item.slot at fits
  unfold writeEquipment
  cases kind : item.type <;> rw [kind] at fits <;> simp at fits
  case accessory =>
    rcases fits with rfl | rfl <;> simp only [Equipment.values, Equipment.get, Slots.contents_cons,
      Slots.contents_nil, Slots.held_some, if_true, if_false, reduceCtorEq] <;> abel
  all_goals
    subst fits
    simp only [Equipment.values, Equipment.get, Slots.contents_cons, Slots.contents_nil,
      Slots.held_some, if_false, reduceCtorEq]
    abel

/-- How the inventory changes when the item at `index` leaves for the equipment and
the replaced item, if there is one, is parked in the first empty slot. -/
inductive Parked (inventory : List (Option Item)) (index : Nat) :
    Option Item → List (Option Item) → Prop where
  | nothing : Parked inventory index none (inventory.set index none)
  | item {existing : Item} {empty : Nat} : firstEmpty (inventory.set index none) = some empty →
      Parked inventory index (some existing) ((inventory.set index none).set empty (some existing))

def EquipRefused (player : Player) (index : ℤ) : Prop :=
  index < 0 ∨ (player.inventory.length : ℤ) ≤ index ∨ player.itemAt index = none ∨
    ∃ item, player.itemAt index = some item ∧ player.level < item.level

theorem itemAt_eq_some {player : Player} {index : ℤ} (found : player.itemAt index = some item) :
    0 ≤ index ∧ index < player.inventory.length ∧
      player.inventory[index.toNat]? = some (some item) := by
  unfold itemAt at found
  split at found
  · cases found
  · rename_i inside
    push Not at inside
    refine ⟨inside.1, inside.2, ?_⟩
    cases slot : player.inventory[index.toNat]? with
    | none => simp [slot] at found
    | some content => simpa [slot] using found

/-- An equip is refused without any change, or moves the item and recalculates the
stats. The rollback is never reached: the source slot has just been emptied. -/
theorem equipItem_cases (player : Player) (index : ℤ) (preferredSlot : Option EquipmentSlot) :
    (player.EquipRefused index ∧ player.equipItem index preferredSlot = (player, false)) ∨
    ∃ item inventory, player.itemAt index = some item ∧ item.level ≤ player.level ∧
      Parked player.inventory index.toNat
        (player.equipment.get (player.resolveEquipTargetSlot item preferredSlot)) inventory ∧
      player.equipItem index preferredSlot =
        ({ player with
          inventory := inventory
          equipment := writeEquipment player.equipment item
            (player.resolveEquipTargetSlot item preferredSlot) }.recalculateStats, true) := by
  unfold equipItem
  split
  · rename_i outside
    exact .inl ⟨outside.elim .inl fun high => .inr (.inl high), rfl⟩
  cases found : player.itemAt index with
  | none => exact .inl ⟨.inr (.inr (.inl found)), rfl⟩
  | some item =>
    by_cases low : item.level > player.level
    · simp only [if_pos low]
      exact .inl ⟨.inr (.inr (.inr ⟨item, found, low⟩)), trivial⟩
    simp only [if_neg low]
    refine .inr ⟨item, ?_⟩
    cases replaced : player.equipment.get (player.resolveEquipTargetSlot item preferredSlot) with
    | none => exact ⟨_, rfl, not_lt.mp low, .nothing, rfl⟩
    | some existing =>
      -- At least the source slot is free, so the search for a slot succeeds.
      obtain ⟨_, inside, occupied⟩ := itemAt_eq_some found
      have emptied : (player.inventory.set index.toNat none)[index.toNat]? = some none := by
        rw [List.getElem?_set_self (by omega)]
      obtain ⟨empty, first⟩ := Slots.exists_firstEmpty emptied
      simp only [first]
      exact ⟨_, trivial, not_lt.mp low, .item first, rfl⟩

section
variable {inventory parked : List (Option Item)} {index : Nat} {existing : Option Item}

theorem Parked.length (change : Parked inventory index existing parked) :
    parked.length = inventory.length := by
  cases change <;> simp

theorem Parked.contents_eq (change : Parked inventory index existing parked)
    (occupied : inventory[index]? = some (some item)) :
    contents parked + {item} = contents inventory + held existing := by
  have cleared := Slots.contents_set none occupied
  simp only [Slots.held_some, Slots.held_none, add_zero] at cleared
  cases change with
  | nothing => simpa using cleared
  | @item existing empty first =>
    have written := Slots.contents_set (some existing) (Slots.getElem?_firstEmpty first)
    simp only [Slots.held_none, add_zero, Slots.held_some] at written ⊢
    rw [written, add_right_comm, cleared]

theorem Parked.others (change : Parked inventory index existing parked) :
    ∃ other, ∀ k, k ≠ index → k ≠ other → parked[k]? = inventory[k]? := by
  cases change with
  | nothing =>
    refine ⟨index, fun k source _ => ?_⟩
    rw [List.getElem?_set_ne (Ne.symm source)]
  | @item existing empty first =>
    refine ⟨empty, fun k source other => ?_⟩
    rw [List.getElem?_set_ne (Ne.symm other), List.getElem?_set_ne (Ne.symm source)]

end

@[simp] theorem recalculateStats_inventory (player : Player) :
    player.recalculateStats.inventory = player.inventory := rfl

@[simp] theorem recalculateStats_equipment (player : Player) :
    player.recalculateStats.equipment = player.equipment := rfl

theorem EquipRefused.level_lt {player : Player} {index : ℤ} (refused : player.EquipRefused index)
    (found : player.itemAt index = some item) : player.level < item.level := by
  obtain ⟨low, high, _⟩ := itemAt_eq_some found
  rcases refused with negative | beyond | empty | ⟨other, same, above⟩
  · omega
  · omega
  · rw [empty] at found
    cases found
  · cases Option.some.inj (same.symm.trans found)
    exact above

structure Equipped (player : Player) (index : ℤ) (preferredSlot : Option EquipmentSlot)
    (item : Item) (after : Player) : Prop where
  owned : after.owned = player.owned
  placed : after.equipment.get (player.resolveEquipTargetSlot item preferredSlot) = some item
  others : ∀ slot, slot ≠ player.resolveEquipTargetSlot item preferredSlot →
    after.equipment.get slot = player.equipment.get slot
  inventory : ∃ other, ∀ k, k ≠ index.toNat → k ≠ other → after.inventory[k]? = player.inventory[k]?
  length : after.inventory.length = player.inventory.length

theorem equipItem_spec (player : Player) (index : ℤ) (preferredSlot : Option EquipmentSlot) :
    (player.EquipRefused index ∧ player.equipItem index preferredSlot = (player, false)) ∨
    ∃ item after, player.itemAt index = some item ∧ item.level ≤ player.level ∧
      player.equipItem index preferredSlot = (after, true) ∧
      player.Equipped index preferredSlot item after := by
  rcases player.equipItem_cases index preferredSlot with refused | ⟨item, inventory, found, low, parked, equipped⟩
  · exact .inl refused
  refine .inr ⟨item, _, found, low, equipped, ?_⟩
  have fits := player.canEquipInSlot_target item preferredSlot
  obtain ⟨_, _, occupied⟩ := itemAt_eq_some found
  refine ⟨?_, ?_, ?_, parked.others, parked.length⟩
  · -- The item moves from the inventory to the equipment, the replaced one back.
    have moved := parked.contents_eq occupied
    have written := contents_writeEquipment player.equipment fits
    unfold owned
    rw [recalculateStats_inventory, recalculateStats_equipment]
    refine add_right_cancel (b := {item} +
      held (player.equipment.get (player.resolveEquipTargetSlot item preferredSlot))) ?_
    rw [add_add_add_comm, moved, written]
    abel
  · rw [recalculateStats_equipment, get_writeEquipment fits, if_pos rfl]
  · intro slot different
    rw [recalculateStats_equipment, get_writeEquipment fits, if_neg different]

theorem Equipped.fits {player after : Player} {index : ℤ} {preferredSlot : Option EquipmentSlot}
    (equipped : player.Equipped index preferredSlot item after) (fits : player.equipment.Fits) :
    after.equipment.Fits := by
  intro slot content present
  by_cases here : slot = player.resolveEquipTargetSlot item preferredSlot
  · subst here
    cases Option.some.inj (equipped.placed.symm.trans present)
    exact player.canEquipInSlot_target item preferredSlot
  · exact fits slot content ((equipped.others slot here).symm.trans present)

theorem equipItem_refused {player : Player} {index : ℤ} {slot : Option EquipmentSlot}
    (refused : (player.equipItem index slot).2 = false) :
    (player.equipItem index slot).1 = player := by
  rcases player.equipItem_spec index slot with ⟨_, same⟩ | ⟨_, _, _, _, moved, _⟩
  · rw [same]
  · rw [moved] at refused
    cases refused

theorem owned_equipItem (player : Player) (index : ℤ) (slot : Option EquipmentSlot) :
    (player.equipItem index slot).1.owned = player.owned := by
  rcases player.equipItem_spec index slot with ⟨_, same⟩ | ⟨_, _, _, _, moved, equipped⟩
  · rw [same]
  · rw [moved]
    exact equipped.owned

def equipPlan (player : Player) (index : ℤ) (slot : Option EquipmentSlot) :
    Option (List (Option Item) × Equipment) :=
  match player.itemAt index with
  | none => none
  | some item =>
    if item.level > player.level then none
    else
      let cleared := player.inventory.set index.toNat none
      let written := writeEquipment player.equipment item (player.resolveEquipTargetSlot item slot)
      match player.equipment.get (player.resolveEquipTargetSlot item slot) with
      | none => some (cleared, written)
      | some existingItem => (Slots.firstEmpty cleared).map fun emptySlotIndex =>
          (cleared.set emptySlotIndex (some existingItem), written)

theorem equipItem_of_plan {player : Player} {index : ℤ} {slot : Option EquipmentSlot}
    {inventory : List (Option Item)} {equipment : Equipment}
    (plan : player.equipPlan index slot = some (inventory, equipment)) :
    player.equipItem index slot =
      ({ player with inventory := inventory, equipment := equipment }.recalculateStats, true) := by
  unfold equipPlan at plan
  unfold equipItem
  cases found : player.itemAt index with
  | none =>
    rw [found] at plan
    cases plan
  | some item =>
    have inside : ¬(index < 0 ∨ index ≥ player.inventory.length) := by
      intro outside
      rw [itemAt, if_pos outside] at found
      cases found
    rw [found] at plan
    rw [if_neg inside]
    dsimp only at plan ⊢
    by_cases high : item.level > player.level
    · rw [if_pos high] at plan
      cases plan
    · rw [if_neg high] at plan ⊢
      cases worn : player.equipment.get (player.resolveEquipTargetSlot item slot) with
      | none =>
        rw [worn] at plan
        cases Option.some.inj plan
        rfl
      | some existing =>
        rw [worn] at plan
        obtain ⟨empty, parked, same⟩ := Option.map_eq_some_iff.mp plan
        cases same
        simp only [parked]

theorem equipItem_of_no_plan {player : Player} {index : ℤ} {slot : Option EquipmentSlot}
    (plan : player.equipPlan index slot = none) : (player.equipItem index slot).2 = false := by
  unfold equipPlan at plan
  unfold equipItem
  by_cases outside : index < 0 ∨ index ≥ player.inventory.length
  · rw [if_pos outside]
  · rw [if_neg outside]
    cases found : player.itemAt index with
    | none => rfl
    | some item =>
      rw [found] at plan
      dsimp only at plan ⊢
      by_cases high : item.level > player.level
      · rw [if_pos high]
      · rw [if_neg high] at plan ⊢
        cases worn : player.equipment.get (player.resolveEquipTargetSlot item slot) with
        | none =>
          rw [worn] at plan
          cases plan
        | some existing =>
          rw [worn] at plan
          have full := Option.map_eq_none_iff.mp plan
          simp only [full]

inductive ItemOp where
  | add (item : Item)
  | remove (index : ℤ)
  | equip (index : ℤ) (preferredSlot : Option EquipmentSlot)

/-- A player with the items its inventory has accepted and given back so far. -/
structure Ledger where
  player : Player
  accepted : Multiset Item
  returned : Multiset Item

def ItemOp.apply (ledger : Ledger) : ItemOp → Ledger
  | .add item =>
    match ledger.player.addItemToInventory item with
    | (player, some _) => { ledger with player := player, accepted := ledger.accepted + {item} }
    | (player, none) => { ledger with player := player }
  | .remove index =>
    match ledger.player.removeItemFromInventory index with
    | (player, item) => { ledger with player := player, returned := ledger.returned + held item }
  | .equip index preferredSlot =>
    { ledger with player := (ledger.player.equipItem index preferredSlot).1 }

structure Ledger.Balanced (opening : Multiset Item) (ledger : Ledger) : Prop where
  owned : ledger.player.owned + ledger.returned = opening + ledger.accepted
  fits : ledger.player.equipment.Fits
  length : ledger.player.inventory.length = maxInventorySize

theorem owned_set (player : Player) {i : Nat} {old : Option Item} (new : Option Item)
    (found : player.inventory[i]? = some old) :
    { player with inventory := player.inventory.set i new }.owned + held old =
      player.owned + held new := by
  unfold owned
  rw [add_right_comm, Slots.contents_set new found, add_right_comm]

theorem addItemToInventory_cases (player : Player) (item : Item) :
    player.addItemToInventory item = (player, none) ∨
    ∃ i, player.inventory[i]? = some none ∧ player.addItemToInventory item =
      ({ player with inventory := player.inventory.set i (some item) }, some i) := by
  unfold addItemToInventory
  cases first : firstEmpty player.inventory with
  | none => exact .inl rfl
  | some i => exact .inr ⟨i, Slots.getElem?_firstEmpty first, rfl⟩

theorem removeItemFromInventory_cases (player : Player) (index : ℤ) :
    player.removeItemFromInventory index = (player, none) ∨
    ∃ i item, player.inventory[i]? = some item ∧ player.removeItemFromInventory index =
      ({ player with inventory := player.inventory.set i none }, item) := by
  unfold removeItemFromInventory itemAt
  split
  · exact .inl rfl
  · rename_i inside
    push Not at inside
    have bound : index.toNat < player.inventory.length := by omega
    refine .inr ⟨index.toNat, player.inventory[index.toNat], List.getElem?_eq_getElem bound, ?_⟩
    simp [List.getElem?_eq_getElem bound]

theorem owned_removeItemFromInventory (player : Player) (index : ℤ) :
    (player.removeItemFromInventory index).1.owned + Slots.held (player.removeItemFromInventory index).2 =
      player.owned := by
  rcases player.removeItemFromInventory_cases index with outside | ⟨i, item, found, removed⟩
  · rw [outside]
    simp
  · rw [removed]
    simpa using player.owned_set none found

theorem Ledger.Balanced.apply {opening : Multiset Item} {ledger : Ledger}
    (balanced : ledger.Balanced opening) (op : ItemOp) : (op.apply ledger).Balanced opening := by
  cases op with
  | add item =>
    unfold ItemOp.apply
    rcases ledger.player.addItemToInventory_cases item with full | ⟨i, empty, added⟩
    · simp only [full]
      exact ⟨balanced.owned, balanced.fits, balanced.length⟩
    · simp only [added]
      refine ⟨?_, balanced.fits, by simpa using balanced.length⟩
      have written := ledger.player.owned_set (some item) empty
      simp only [Slots.held_none, add_zero, Slots.held_some] at written
      show _ + ledger.returned = opening + (ledger.accepted + {item})
      rw [written, add_right_comm, balanced.owned, add_assoc]
  | remove index =>
    unfold ItemOp.apply
    have removed := ledger.player.owned_removeItemFromInventory index
    rcases ledger.player.removeItemFromInventory_cases index with outside | ⟨i, item, found, taken⟩
    · simp only [outside]
      exact ⟨by simpa using balanced.owned, balanced.fits, balanced.length⟩
    · rw [taken] at removed
      simp only [taken]
      refine ⟨?_, balanced.fits, by simpa using balanced.length⟩
      show _ + (ledger.returned + held item) = opening + ledger.accepted
      rw [add_comm ledger.returned, ← add_assoc, removed, balanced.owned]
  | equip index preferredSlot =>
    unfold ItemOp.apply
    rcases ledger.player.equipItem_spec index preferredSlot with ⟨_, same⟩ | ⟨item, after, _, _, moved, equipped⟩
    · simp only [same]
      exact ⟨balanced.owned, balanced.fits, balanced.length⟩
    · simp only [moved]
      exact ⟨equipped.owned ▸ balanced.owned, equipped.fits balanced.fits,
        equipped.length.trans balanced.length⟩

theorem Ledger.Balanced.run {opening : Multiset Item} {ledger : Ledger}
    (balanced : ledger.Balanced opening) (ops : List ItemOp) :
    (ops.foldl ItemOp.apply ledger).Balanced opening :=
  List.foldlRecOn ops ItemOp.apply balanced fun _ kept op _ => kept.apply op

/-- An equip is refused for exactly three reasons and then changes nothing; otherwise
it moves the item and keeps everything owned. Over a sequence of operations the owned
items are those accepted without those returned. -/
theorem equipItem_atomic_items_conserved (player : Player)
    (size : player.inventory.length = maxInventorySize) (fits : player.equipment.Fits) :
    (∀ index preferredSlot,
      ((player.equipItem index preferredSlot).2 = false ↔
        index < 0 ∨ (maxInventorySize : ℤ) ≤ index ∨ player.itemAt index = none ∨
          ∃ item, player.itemAt index = some item ∧ player.level < item.level) ∧
      ((player.equipItem index preferredSlot).2 = false →
        (player.equipItem index preferredSlot).1 = player) ∧
      ((player.equipItem index preferredSlot).2 = true → ∃ item, player.itemAt index = some item ∧
        player.Equipped index preferredSlot item (player.equipItem index preferredSlot).1)) ∧
    ∀ ops : List ItemOp, (ops.foldl ItemOp.apply ⟨player, 0, 0⟩).Balanced player.owned := by
  refine ⟨fun index preferredSlot => ?_, fun ops => Ledger.Balanced.run ⟨rfl, fits, size⟩ ops⟩
  rw [← size]
  rcases player.equipItem_spec index preferredSlot with
    ⟨refused, same⟩ | ⟨item, after, found, low, moved, equipped⟩
  · rw [same]
    exact ⟨⟨fun _ => refused, fun _ => rfl⟩, fun _ => rfl, fun accepted => by cases accepted⟩
  · rw [moved]
    have taken : ¬ player.EquipRefused index := fun refused =>
      not_lt.mpr low (refused.level_lt found)
    refine ⟨⟨fun refused => ?_, fun refused => absurd refused taken⟩, fun refused => ?_,
      fun _ => ⟨item, found, equipped⟩⟩
    all_goals cases refused

def blade (attack : ℚ) : Item where
  id := "blade"
  name := "Blade"
  description := ""
  rarity := .common
  level := 1
  attack := some attack
  defense := none
  maxHp := none
  dropChance := 1
  affixes := none
  type := .weapon

def laden : Player :=
  { Player.new .martial 1 with
    inventory := List.replicate maxInventorySize (some (blade 1))
    equipment := { (Player.new .martial 1).equipment with weapon := some (blade 5) } }

/-- The weapon in the hand takes the place of the one that is equipped. -/
theorem equipItem_atomic_items_conserved_laden :
    (laden.equipItem 3 none).2 = true ∧ laden.Equipped 3 none (blade 1) (laden.equipItem 3 none).1 ∧
      (laden.equipItem 3 none).1.itemAt 3 = some (blade 5) ∧
      ∀ ops : List ItemOp, (ops.foldl ItemOp.apply ⟨laden, 0, 0⟩).Balanced laden.owned := by
  have fits : laden.equipment.Fits := by
    intro slot item present
    cases slot <;> cases present
    rfl
  obtain ⟨equips, balanced⟩ := equipItem_atomic_items_conserved laden rfl fits
  have taken : (laden.equipItem 3 none).2 = true := by decide +kernel
  obtain ⟨item, found, moved⟩ := (equips 3 none).2.2 taken
  cases Option.some.inj ((show laden.itemAt 3 = some (blade 1) by decide +kernel).symm.trans found)
  exact ⟨taken, moved, by decide +kernel, balanced⟩

end Player

end WalkingRpg

import WalkingRpg.Library.Runs
import WalkingRpg.Models.Rewards

/-! The inventory modal on a player that may have moved on.

The modal acts on the player of the last render, in place; rewards and distance go to
`playerRef`. The callbacks merge the two copies. Players cloned from each other share one
equipment object, but both callbacks replace `playerRef` before anything else runs and the
merge takes the equipment of the rendered copy, so the copies are kept as values.
-/

set_option autoImplicit false

namespace WalkingRpg

open Runs (Run)

structure FairLoot where
  roll : LootRoll
  fair : ∀ level item, roll level = some item → item.NonNegative

/-- What changes `playerRef` between renders. -/
inductive PlayerUpdate where
  | walk (incremental : ℚ)
  | passive (creature : Creature) (tier : RewardTier) (draw : ℚ) (loot : FairLoot)
  | victory (creature : Creature) (loot : FairLoot)

def PlayerUpdate.apply (player : Player) : PlayerUpdate → Player
  | .walk incremental => player.clone.addDistance incremental
  | .passive creature tier draw loot => passiveReward player creature tier draw loot.roll
  | .victory creature loot => (victoryReward player creature loot.roll).1

structure InventoryScreen where
  rendered : Player
  playerRef : Player

namespace InventoryScreen

variable (screen : InventoryScreen)

def start (player : Player) : InventoryScreen := ⟨player, player⟩

def idMatches (selectedItemIndex : ℤ) (selectedItem : Item) : Bool :=
  (screen.rendered.itemAt selectedItemIndex).map Item.id = some selectedItem.id

def onItemEquipped : InventoryScreen :=
  { screen with playerRef := Player.create { screen.playerRef.toJSON with
      inventory := some screen.rendered.inventory
      equipment := some screen.rendered.equipment
      attack := some screen.rendered.attack
      defense := some screen.rendered.defense
      hp := some screen.rendered.hp
      maxHp := some screen.rendered.maxHp } }

def onItemDeleted : InventoryScreen :=
  { screen with playerRef := Player.create { screen.playerRef.toJSON with
      inventory := some screen.rendered.inventory } }

def handleEquip (selectedItemIndex : ℤ) (selectedItem : Item) (equipmentSlot : Option EquipmentSlot) :
    InventoryScreen :=
  if selectedItemIndex ≠ -1 ∧ screen.idMatches selectedItemIndex selectedItem = true then
    match screen.rendered.equipItem selectedItemIndex equipmentSlot with
    | (rendered, true) => { screen with rendered := rendered }.onItemEquipped
    | (rendered, false) => { screen with rendered := rendered }
  else screen

def handleDelete (selectedItemIndex : ℤ) (selectedItem : Item) : InventoryScreen :=
  if selectedItemIndex ≠ -1 ∧ screen.idMatches selectedItemIndex selectedItem = true then
    { screen with
      rendered := (screen.rendered.removeItemFromInventory selectedItemIndex).1 }.onItemDeleted
  else screen

inductive Action where
  | update (update : PlayerUpdate)
  | render
  | equip (selectedItemIndex : ℤ) (selectedItem : Item) (equipmentSlot : Option EquipmentSlot)
  | delete (selectedItemIndex : ℤ) (selectedItem : Item)

def step (screen : InventoryScreen) : Action → Option InventoryScreen
  | .update update => some { screen with playerRef := update.apply screen.playerRef }
  | .render => some { screen with rendered := screen.playerRef }
  | .equip selectedItemIndex selectedItem equipmentSlot =>
    some (screen.handleEquip selectedItemIndex selectedItem equipmentSlot)
  | .delete selectedItemIndex selectedItem => some (screen.handleDelete selectedItemIndex selectedItem)

/-- The copies agree on everything an equip reads. -/
def EquipsAlike (rendered live : Player) : Prop :=
  rendered.inventory = live.inventory ∧ rendered.equipment = live.equipment ∧ rendered.level = live.level ∧
    rendered.archetype = live.archetype ∧ rendered.str = live.str ∧ rendered.agi = live.agi ∧
    rendered.hp = live.hp ∧ rendered.maxHp = live.maxHp

/-- The rendered copy is current in what the action reads from it. -/
def Current (screen : InventoryScreen) : Action → Prop
  | .equip _ _ _ => EquipsAlike screen.rendered screen.playerRef
  | .delete _ _ => screen.rendered.inventory = screen.playerRef.inventory
  | _ => True

instance (rendered live : Player) : Decidable (EquipsAlike rendered live) :=
  inferInstanceAs (Decidable (_ ∧ _ ∧ _ ∧ _ ∧ _ ∧ _ ∧ _ ∧ _))

instance (screen : InventoryScreen) : ∀ action, Decidable (screen.Current action)
  | .equip _ _ _ => inferInstanceAs (Decidable (EquipsAlike _ _))
  | .delete _ _ => inferInstanceAs (Decidable (_ = _))
  | .update _ => inferInstanceAs (Decidable True)
  | .render => inferInstanceAs (Decidable True)

variable {screen} {index : ℤ} {selectedItem : Item} {slot : Option EquipmentSlot}

theorem equipPlan_of_alike {rendered live : Player} (alike : EquipsAlike rendered live) (index : ℤ)
    (slot : Option EquipmentSlot) : live.equipPlan index slot = rendered.equipPlan index slot := by
  obtain ⟨inventory, equipment, level, _⟩ := alike
  simp only [Player.equipPlan, Player.itemAt, Player.resolveEquipTargetSlot, Player.getEquipTargetSlot, inventory,
    equipment, level]

theorem ne_of_idMatches (same : screen.idMatches index selectedItem = true) : index ≠ -1 := by
  rintro rfl
  simp [idMatches, Player.itemAt] at same

theorem playerRef_handleEquip (sound : screen.playerRef.Sound)
    (alike : EquipsAlike screen.rendered screen.playerRef) (same : screen.idMatches index selectedItem = true) :
    (screen.handleEquip index selectedItem slot).playerRef = (screen.playerRef.equipItem index slot).1 := by
  rw [handleEquip, if_pos ⟨ne_of_idMatches same, same⟩]
  have shared := equipPlan_of_alike alike index slot
  cases plan : screen.rendered.equipPlan index slot with
  | none =>
    have refused := Player.equipItem_of_no_plan plan
    rw [Player.equipItem_refused (Player.equipItem_of_no_plan (shared.trans plan))]
    generalize screen.rendered.equipItem index slot = result at refused ⊢
    obtain ⟨rendered, success⟩ := result
    cases refused
    rfl
  | some written =>
    obtain ⟨inventory, equipment⟩ := written
    have equipped := Player.equipItem_of_plan (shared.trans plan)
    have kept : (screen.playerRef.equipItem index slot).1.Sound := sound.equipItem index slot
    rw [Player.equipItem_of_plan plan]
    rw [equipped] at kept ⊢
    -- The constructor is applied to the record of the equipped player.
    refine Eq.trans ?_ (Player.clone_eq kept.coherent.hp_le kept.coherent.inventory)
    obtain ⟨_, _, _, archetype, str, agi, hp, maxHp⟩ := alike
    simp only [onItemEquipped, Player.clone, Player.toJSON, Player.recalculateStats, archetype, str, agi, hp, maxHp]

theorem playerRef_handleDelete (sound : screen.playerRef.Sound)
    (alike : screen.rendered.inventory = screen.playerRef.inventory)
    (same : screen.idMatches index selectedItem = true) :
    (screen.handleDelete index selectedItem).playerRef =
      (screen.playerRef.removeItemFromInventory index).1 := by
  have kept := sound.removeItemFromInventory index
  rw [handleDelete, if_pos ⟨ne_of_idMatches same, same⟩]
  refine Eq.trans ?_ (Player.clone_eq kept.coherent.hp_le kept.coherent.inventory)
  unfold onItemDeleted Player.clone Player.removeItemFromInventory
  rw [alike]
  split
  · simp [Player.toJSON, alike]
  · rfl

theorem sound_update {player : Player} (sound : player.Sound) (update : PlayerUpdate) :
    (update.apply player).Sound := by
  cases update with
  | walk incremental => exact sound.clone.addDistance incremental
  | passive creature tier draw loot => exact sound_passiveReward sound creature tier draw loot.fair
  | victory creature loot => exact sound_victoryReward sound creature loot.fair

theorem sound_handleEquip (sound : screen.playerRef.Sound)
    (alike : EquipsAlike screen.rendered screen.playerRef) :
    (screen.handleEquip index selectedItem slot).playerRef.Sound := by
  by_cases same : screen.idMatches index selectedItem = true
  · rw [playerRef_handleEquip sound alike same]
    exact sound.equipItem index slot
  · rw [handleEquip, if_neg fun passed => same passed.2]
    exact sound

theorem sound_handleDelete (sound : screen.playerRef.Sound)
    (alike : screen.rendered.inventory = screen.playerRef.inventory) :
    (screen.handleDelete index selectedItem).playerRef.Sound := by
  by_cases same : screen.idMatches index selectedItem = true
  · rw [playerRef_handleDelete sound alike same]
    exact sound.removeItemFromInventory index
  · rw [handleDelete, if_neg fun passed => same passed.2]
    exact sound

theorem run_sound {player : Player} (sound : player.Sound) {actions : List Action}
    (run : Run step Current (start player) actions screen) : screen.playerRef.Sound := by
  refine run.invariant (fun screen => screen.playerRef.Sound) sound fun before action after kept current taken => ?_
  cases action with
  | update update =>
    cases Option.some.inj taken
    exact sound_update kept update
  | render =>
    cases Option.some.inj taken
    exact kept
  | equip index selectedItem slot =>
    cases Option.some.inj taken
    exact sound_handleEquip kept current
  | delete index selectedItem =>
    cases Option.some.inj taken
    exact sound_handleDelete kept current

/-- After every run in which the modal acts on a current copy, an equip or a delete of the selected
item saves what it makes of `playerRef`: nothing owned is lost and the stats are coherent. -/
theorem run_current_applied {player : Player} (sound : player.Sound) {actions : List Action}
    (run : Run step Current (start player) actions screen) (index : ℤ) (selectedItem : Item)
    (same : screen.idMatches index selectedItem = true) :
    (∀ slot, EquipsAlike screen.rendered screen.playerRef →
      (screen.handleEquip index selectedItem slot).playerRef = (screen.playerRef.equipItem index slot).1 ∧
      (screen.handleEquip index selectedItem slot).playerRef.owned = screen.playerRef.owned ∧
      (screen.handleEquip index selectedItem slot).playerRef.Coherent) ∧
    (screen.rendered.inventory = screen.playerRef.inventory →
      (screen.handleDelete index selectedItem).playerRef =
        (screen.playerRef.removeItemFromInventory index).1 ∧
      (screen.handleDelete index selectedItem).playerRef.owned +
        Slots.held (screen.playerRef.removeItemFromInventory index).2 = screen.playerRef.owned ∧
      (screen.handleDelete index selectedItem).playerRef.Coherent) := by
  have kept := run_sound sound run
  refine ⟨fun slot alike => ⟨playerRef_handleEquip kept alike same, ?_, (sound_handleEquip kept alike).coherent⟩,
    fun alike => ⟨playerRef_handleDelete kept alike same, ?_, (sound_handleDelete kept alike).coherent⟩⟩
  · rw [playerRef_handleEquip kept alike same]
    exact screen.playerRef.owned_equipItem index slot
  · rw [playerRef_handleDelete kept alike same]
    exact screen.playerRef.owned_removeItemFromInventory index

def sword : Item :=
  { id := "sword", name := "Sword", description := "", rarity := .common, level := 1, attack := some 5
    defense := none, maxHp := none, dropChance := 1, affixes := none, type := .weapon }

def shield : Item :=
  { id := "shield", name := "Shield", description := "", rarity := .common, level := 1, attack := none
    defense := some 3, maxHp := none, dropChance := 1, affixes := none, type := .offhand }

theorem nonNegative_sword : sword.NonNegative :=
  ⟨by simp [sword], by simp [sword], by simp [sword]⟩

theorem nonNegative_shield : shield.NonNegative :=
  ⟨by simp [shield], by simp [shield], by simp [shield]⟩

def drops (item : Item) (valid : item.NonNegative) : FairLoot :=
  ⟨fun _ => some item, fun _ _ same => Option.some.inj same ▸ valid⟩

def foe (level : ℚ) (rarity : Rarity) : Creature :=
  Creature.create
    { id := "foe", name := "Foe", type := "beast", level := some level, rarity := some rarity, maxHp := 10
      attack := 1, defense := 1, speed := 1 }

def findSword : List Action :=
  [.update (.passive (foe 1 .common) .active 0 (drops sword nonNegative_sword)), .render]

theorem run_current_applied_sword :
    ∃ screen, Run step Current (start (Player.new .martial 1)) (findSword ++ [.update (.walk 5)]) screen ∧
      screen.playerRef.totalDistance = 5 ∧
      (screen.handleEquip 0 sword none).playerRef = (screen.playerRef.equipItem 0 none).1 ∧
      (screen.handleEquip 0 sword none).playerRef.Coherent := by
  obtain ⟨screen, run, walked, same, alike⟩ : ∃ screen,
      Run step Current (start (Player.new .martial 1)) (findSword ++ [.update (.walk 5)]) screen ∧
      screen.playerRef.totalDistance = 5 ∧ screen.idMatches 0 sword = true ∧
      EquipsAlike screen.rendered screen.playerRef := Run.exists_of_exec (by decide +kernel)
  have applied := (run_current_applied (Player.sound_new .martial le_rfl) run 0 sword same).1 none alike
  exact ⟨screen, run, walked, applied.1, applied.2.2⟩

/-- A shield dropped since the render is gone after the equip; a level gained since then is kept with
the attack of the level before. -/
theorem run_rewardBeforeEquip_lost :
    (∃ screen, Run step (fun _ _ => True) (start (Player.new .martial 1))
        (findSword ++ [.update (.passive (foe 1 .common) .active 0 (drops shield nonNegative_shield))]) screen ∧
      screen.idMatches 0 sword = true ∧ some shield ∈ screen.playerRef.inventory ∧
      some shield ∉ (screen.handleEquip 0 sword none).playerRef.inventory ∧
      some shield ∉ (screen.handleEquip 0 sword none).playerRef.equipment.values ∧
      (screen.handleEquip 0 sword none).playerRef ≠ (screen.playerRef.equipItem 0 none).1) ∧
    ∃ screen, Run step (fun _ _ => True) (start (Player.new .martial 1))
        (findSword ++ [.update (.victory (foe 3 .legendary) (drops shield nonNegative_shield))]) screen ∧
      screen.idMatches 0 sword = true ∧ (screen.handleEquip 0 sword none).playerRef.level = 2 ∧
      ¬(screen.handleEquip 0 sword none).playerRef.Coherent := by
  refine ⟨Run.exists_of_exec (by decide +kernel), ?_⟩
  obtain ⟨screen, run, same, leveled, stale⟩ : ∃ screen, Run step (fun _ _ => True) (start (Player.new .martial 1))
      (findSword ++ [.update (.victory (foe 3 .legendary) (drops shield nonNegative_shield))]) screen ∧
      screen.idMatches 0 sword = true ∧ (screen.handleEquip 0 sword none).playerRef.level = 2 ∧
      (screen.handleEquip 0 sword none).playerRef.attack ≠
        deriveAttack (screen.handleEquip 0 sword none).playerRef.str
          (screen.handleEquip 0 sword none).playerRef.agi +
        (screen.handleEquip 0 sword none).playerRef.equipment.bonus Item.attack :=
    Run.exists_of_exec (by decide +kernel)
  exact ⟨screen, run, same, leveled, fun coherent => stale coherent.attack⟩

end InventoryScreen

end WalkingRpg

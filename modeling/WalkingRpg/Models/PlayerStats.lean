import Mathlib.Algebra.Order.BigOperators.Group.List
import WalkingRpg.Models.PlayerInventory

/-! Coherence of the cached combat stats over whole runs.

Attributes are advanced by the level-up loop and replaced by the setters; attack,
defense and max HP are caches of a function of the attributes and the equipment.
`recalculateStats` restores the caches from any state whose attributes are right,
so an operation either leaves what the caches depend on alone or ends with it.
-/

set_option autoImplicit false

namespace WalkingRpg

namespace Player

structure Grown (player : Player) : Prop where
  level : 1 ≤ player.level
  attributes : Attributes.mk player.str player.agi player.int =
    computeAttributes player.archetype player.level

/-- The caches agree with the attributes and the equipment; HP is within bounds. -/
structure Coherent (player : Player) : Prop where
  attributes : Attributes.mk player.str player.agi player.int =
    computeAttributes player.archetype player.level
  attack : player.attack = deriveAttack player.str player.agi + player.equipment.bonus Item.attack
  defense : player.defense = deriveDefense player.str player.agi + player.equipment.bonus Item.defense
  maxHp : player.maxHp =
    deriveMaxHp player.archetype player.str player.agi + player.equipment.bonus Item.maxHp
  hp_nonneg : 0 ≤ player.hp
  hp_le : player.hp ≤ player.maxHp
  inventory : player.inventory.length = maxInventorySize

/-- Coherence whatever the attributes are: the caches agree with them and the equipment. -/
structure Derived (player : Player) : Prop where
  attack : player.attack = deriveAttack player.str player.agi + player.equipment.bonus Item.attack
  defense : player.defense = deriveDefense player.str player.agi + player.equipment.bonus Item.defense
  maxHp : player.maxHp =
    deriveMaxHp player.archetype player.str player.agi + player.equipment.bonus Item.maxHp
  hp_nonneg : 0 ≤ player.hp
  hp_le : player.hp ≤ player.maxHp

theorem Coherent.derived {player : Player} (coherent : player.Coherent) : player.Derived :=
  { coherent with }

/-- What the operations preserve: coherence, a level of at least one, and that no
owned item lowers a stat. -/
structure Sound (player : Player) : Prop where
  coherent : player.Coherent
  level : 1 ≤ player.level
  items : ∀ item ∈ player.owned, item.NonNegative

theorem bonus_nonneg {equipment : Equipment} {stat : Item → Option ℚ}
    (nonneg : ∀ item, some item ∈ equipment.values → ∀ bonus ∈ stat item, 0 ≤ bonus) :
    0 ≤ equipment.bonus stat := by
  unfold Equipment.bonus
  apply List.sum_nonneg
  intro value present
  obtain ⟨slot, inside, rfl⟩ := List.mem_map.mp present
  cases slot with
  | none => simp
  | some item =>
    cases bonus : stat item with
    | none => simp [bonus]
    | some amount => simpa [bonus] using nonneg item inside amount bonus

theorem maxHp_nonneg {player : Player} (grown : player.Grown)
    (items : ∀ item ∈ player.owned, item.NonNegative) :
    0 ≤ deriveMaxHp player.archetype player.str player.agi + player.equipment.bonus Item.maxHp := by
  obtain ⟨str, agi⟩ := computeAttributes_nonneg player.archetype player.level
  rw [← grown.attributes] at str agi
  refine add_nonneg (deriveMaxHp_nonneg _ str agi) (bonus_nonneg fun item present => ?_)
  exact (items item (Multiset.mem_add.mpr (.inr (Slots.mem_contents.mpr present)))).maxHp

theorem recalculateStats_sound {player : Player} (grown : player.Grown)
    (items : ∀ item ∈ player.owned, item.NonNegative)
    (size : player.inventory.length = maxInventorySize) : player.recalculateStats.Sound where
  coherent :=
    { attributes := grown.attributes
      attack := rfl
      defense := rfl
      maxHp := rfl
      hp_nonneg := le_max_left _ _
      hp_le := max_le (maxHp_nonneg grown items) (min_le_left _ _)
      inventory := size }
  level := grown.level
  items := items

theorem Sound.grown {player : Player} (sound : player.Sound) : player.Grown :=
  ⟨sound.level, sound.coherent.attributes⟩

theorem Sound.withHp {player : Player} (sound : player.Sound) {hp : ℚ} (nonneg : 0 ≤ hp)
    (bound : hp ≤ player.maxHp) : { player with hp := hp }.Sound where
  coherent := { sound.coherent with hp_nonneg := nonneg, hp_le := bound }
  level := sound.level
  items := sound.items

theorem Sound.withInventory {player : Player} (sound : player.Sound) {inventory : List (Option Item)}
    (items : ∀ item, some item ∈ inventory → item.NonNegative)
    (size : inventory.length = maxInventorySize) : { player with inventory := inventory }.Sound where
  coherent := { sound.coherent with inventory := size }
  level := sound.level
  items := by
    intro item mine
    rcases Multiset.mem_add.mp mine with stored | worn
    · exact items item (Slots.mem_contents.mp stored)
    · exact sound.items item (Multiset.mem_add.mpr (.inr worn))

theorem Sound.stored {player : Player} (sound : player.Sound) {item : Item}
    (present : some item ∈ player.inventory) : item.NonNegative :=
  sound.items item (Multiset.mem_add.mpr (.inl (Slots.mem_contents.mpr present)))

def missingHp (player : Player) : ℚ := player.maxHp - player.hp

theorem hp_recalculateStats {player : Player} (bound : player.hp ≤ player.maxHp) :
    player.recalculateStats.hp = max 0 (player.recalculateStats.maxHp - player.missingHp) := by
  have below : player.hp + (player.recalculateStats.maxHp - player.maxHp) ≤ player.recalculateStats.maxHp := by
    linarith
  have followed : player.recalculateStats.hp =
      max 0 (min player.recalculateStats.maxHp
        (player.hp + (player.recalculateStats.maxHp - player.maxHp))) := rfl
  rw [followed, min_eq_right below, missingHp]
  congr 1
  ring

theorem missingHp_recalculateStats {player : Player} (bound : player.hp ≤ player.maxHp)
    (room : player.missingHp ≤ player.recalculateStats.maxHp) :
    player.recalculateStats.missingHp = player.missingHp := by
  rw [missingHp, hp_recalculateStats bound, max_eq_right (sub_nonneg.mpr room), sub_sub_cancel]

theorem hundred_le_getExperienceForNextLevel (player : Player) :
    100 ≤ player.getExperienceForNextLevel := by
  have cube : (1 : ℚ) ≤ max 1 player.level ^ 3 := one_le_pow₀ (le_max_left _ _)
  have enough : 100 * 100 ≤ ⌊10000 * max 1 player.level ^ 3⌋₊ := by
    apply Nat.le_floor
    push_cast
    linarith
  have root : 100 ≤ Nat.sqrt ⌊10000 * max 1 player.level ^ 3⌋₊ := Nat.le_sqrt.mpr enough
  unfold getExperienceForNextLevel
  exact_mod_cast root

theorem Grown.gainLevel {player : Player} (grown : player.Grown) : player.gainLevel.Grown where
  level := by
    show 1 ≤ player.level + 1
    linarith [grown.level]
  attributes := by
    show _ = computeAttributes player.archetype (player.level + 1)
    rw [computeAttributes_succ _ grown.level, ← grown.attributes]
    rfl

theorem levelUpLoop_spec (fuel : Nat) (player : Player) (gained : Nat) (grown : player.Grown) :
    let result := levelUpLoop fuel player gained
    result.1.Grown ∧ result.1.inventory = player.inventory ∧ result.1.equipment = player.equipment ∧
      gained ≤ result.2 ∧ (result.2 = gained → result.1 = player) := by
  induction fuel generalizing player gained with
  | zero => exact ⟨grown, rfl, rfl, le_rfl, fun _ => rfl⟩
  | succ fuel ih =>
    unfold levelUpLoop
    split
    · obtain ⟨kept, inventory, equipment, more, _⟩ := ih player.gainLevel (gained + 1) grown.gainLevel
      exact ⟨kept, inventory, equipment, by omega, fun same => by omega⟩
    · exact ⟨grown, rfl, rfl, le_rfl, fun _ => rfl⟩

theorem levelUpLoop_ends (fuel : Nat) (player : Player) (gained : Nat)
    (enough : player.experience < 100 * fuel) :
    (levelUpLoop fuel player gained).1.experience <
      (levelUpLoop fuel player gained).1.getExperienceForNextLevel := by
  induction fuel generalizing player gained with
  | zero =>
    have least := player.hundred_le_getExperienceForNextLevel
    simp only [Nat.cast_zero, mul_zero] at enough
    show player.experience < player.getExperienceForNextLevel
    linarith
  | succ fuel ih =>
    unfold levelUpLoop
    split
    · apply ih
      have least := player.hundred_le_getExperienceForNextLevel
      push_cast at enough
      show player.experience - player.getExperienceForNextLevel < 100 * fuel
      linarith
    · rename_i below
      exact not_le.mp below

theorem experience_lt_levelUpFuel (player : Player) : player.experience < 100 * player.levelUpFuel := by
  have floor := Nat.lt_floor_add_one (player.experience / 100)
  unfold levelUpFuel
  push_cast
  linarith

theorem checkLevelUp_ends (player : Player) :
    (player.checkLevelUp).1.experience < (player.checkLevelUp).1.getExperienceForNextLevel := by
  have ends := levelUpLoop_ends player.levelUpFuel player 0 player.experience_lt_levelUpFuel
  unfold checkLevelUp
  dsimp only
  split
  · exact ends
  · exact ends

theorem Sound.checkLevelUp {player : Player} (sound : player.Sound) :
    (player.checkLevelUp).1.Sound := by
  obtain ⟨grown, inventory, equipment, _, idle⟩ :=
    levelUpLoop_spec player.levelUpFuel player 0 sound.grown
  unfold Player.checkLevelUp
  dsimp only
  split
  · refine recalculateStats_sound grown ?_ (inventory ▸ sound.coherent.inventory)
    unfold owned
    rw [inventory, equipment]
    exact sound.items
  · rename_i none
    rw [idle (by omega)]
    exact sound

theorem Sound.addExperience {player : Player} (sound : player.Sound) (amount : ℚ) :
    (player.addExperience amount).1.Sound := by
  have gained : { player with experience := player.experience + amount }.Sound :=
    { coherent := { sound.coherent with }, level := sound.level, items := sound.items }
  exact gained.checkLevelUp

theorem normalizeInventory_of_length {inventory : List (Option Item)}
    (size : inventory.length = maxInventorySize) : normalizeInventory inventory = inventory := by
  rw [normalizeInventory, size, Nat.sub_self, List.replicate_zero, List.append_nil, ← size,
    List.take_length]

theorem clone_eq {player : Player} (bound : player.hp ≤ player.maxHp)
    (size : player.inventory.length = maxInventorySize) : player.clone = player := by
  simp [clone, create, toJSON, normalizeInventory_of_length size, not_lt.mpr bound]

theorem bonus_empty (stat : Item → Option ℚ) : createEmptyEquipment.bonus stat = 0 := by
  simp [Equipment.bonus, Equipment.values, createEmptyEquipment]

theorem owned_new (archetype : Archetype) (level : ℚ) : (Player.new archetype level).owned = 0 := by
  simp [owned, Player.new, create, createEmptyInventory, createEmptyEquipment, Equipment.values]

theorem sound_new (archetype : Archetype) {level : ℚ} (atLeastOne : 1 ≤ level) :
    (Player.new archetype level).Sound := by
  have items : ∀ item ∈ (Player.new archetype level).owned, item.NonNegative := by
    simp [owned_new]
  have hp : 0 ≤ deriveMaxHp archetype (computeAttributes archetype level).str
      (computeAttributes archetype level).agi :=
    deriveMaxHp_nonneg _ (computeAttributes_nonneg _ _).1 (computeAttributes_nonneg _ _).2
  refine ⟨?_, atLeastOne, items⟩
  constructor <;> simp [Player.new, create, bonus_empty, createEmptyInventory, hp]

inductive Op where
  | addExperience (amount : ℚ)
  | takeDamage (amount : ℚ)
  | restoreHp (amount : ℚ)
  | fullHeal
  | addItemToInventory (item : Item)
  | removeItemFromInventory (index : ℤ)
  | clearInventory
  | equipItem (index : ℤ) (preferredSlot : Option EquipmentSlot)
  | setLevel (targetLevel : ℚ)
  | setArchetype (archetype : Archetype)
  | clone

/-- Amounts are non-negative, and so are the bonuses of items that come in. -/
def Op.Valid : Op → Prop
  | .addExperience amount | .takeDamage amount | .restoreHp amount => 0 ≤ amount
  | .addItemToInventory item => item.NonNegative
  | _ => True

def Op.apply (player : Player) : Op → Player
  | .addExperience amount => (player.addExperience amount).1
  | .takeDamage amount => player.takeDamage amount
  | .restoreHp amount => player.restoreHp amount
  | .fullHeal => player.fullHeal
  | .addItemToInventory item => (player.addItemToInventory item).1
  | .removeItemFromInventory index => (player.removeItemFromInventory index).1
  | .clearInventory => player.clearInventory
  | .equipItem index preferredSlot => (player.equipItem index preferredSlot).1
  | .setLevel targetLevel => player.setLevel targetLevel
  | .setArchetype archetype => player.setArchetype archetype
  | .clone => player.clone

theorem Sound.fullHeal {player : Player} (sound : player.Sound) : player.fullHeal.Sound :=
  sound.withHp (sound.coherent.hp_nonneg.trans sound.coherent.hp_le) le_rfl

theorem Sound.addItemToInventory {player : Player} (sound : player.Sound) {item : Item}
    (valid : item.NonNegative) : (player.addItemToInventory item).1.Sound := by
  rcases player.addItemToInventory_cases item with full | ⟨i, _, added⟩
  · rw [full]
    exact sound
  · rw [added]
    refine sound.withInventory (fun other present => ?_) (by simpa using sound.coherent.inventory)
    rcases List.mem_or_eq_of_mem_set present with old | new
    · exact sound.stored old
    · cases new
      exact valid

theorem Sound.removeItemFromInventory {player : Player} (sound : player.Sound) (index : ℤ) :
    (player.removeItemFromInventory index).1.Sound := by
  rcases player.removeItemFromInventory_cases index with outside | ⟨i, item, _, removed⟩
  · rw [outside]
    exact sound
  · rw [removed]
    refine sound.withInventory (fun other present => ?_) (by simpa using sound.coherent.inventory)
    rcases List.mem_or_eq_of_mem_set present with old | new
    · exact sound.stored old
    · cases new

theorem Sound.equipItem {player : Player} (sound : player.Sound) (index : ℤ)
    (preferredSlot : Option EquipmentSlot) : (player.equipItem index preferredSlot).1.Sound := by
  rcases player.equipItem_spec index preferredSlot with ⟨_, same⟩ | ⟨item, after, _, _, moved, equipped⟩
  · rw [same]
    exact sound
  rcases player.equipItem_cases index preferredSlot with ⟨_, same⟩ | ⟨_, inventory, _, _, _, shape⟩
  · rw [same]
    exact sound
  · -- The written equipment owns the same items, so the recalculated stats are sound.
    have result := Prod.mk.inj (moved.symm.trans shape)
    rw [moved]
    have items : ∀ item ∈ after.owned, item.NonNegative := equipped.owned ▸ sound.items
    have size := equipped.length.trans sound.coherent.inventory
    rw [result.1] at items size ⊢
    exact recalculateStats_sound ⟨sound.level, sound.coherent.attributes⟩ items size

theorem Sound.setLevel {player : Player} (sound : player.Sound) (targetLevel : ℚ) :
    (player.setLevel targetLevel).Sound := by
  unfold Player.setLevel
  refine Sound.fullHeal (recalculateStats_sound ⟨?_, rfl⟩ sound.items sound.coherent.inventory)
  exact le_max_left _ _

theorem Sound.setArchetype {player : Player} (sound : player.Sound) (archetype : Archetype) :
    (player.setArchetype archetype).Sound := by
  unfold Player.setArchetype
  exact Sound.fullHeal
    (recalculateStats_sound ⟨sound.level, rfl⟩ sound.items sound.coherent.inventory)

theorem Sound.clone {player : Player} (sound : player.Sound) : player.clone.Sound := by
  rw [clone_eq sound.coherent.hp_le sound.coherent.inventory]
  exact sound

theorem Sound.apply {player : Player} (sound : player.Sound) {op : Op} (valid : op.Valid) :
    (op.apply player).Sound := by
  cases op with
  | addExperience amount => exact sound.addExperience amount
  | takeDamage amount =>
    have damage : 0 ≤ amount := valid
    exact sound.withHp (le_max_left _ _)
      (max_le (sound.coherent.hp_nonneg.trans sound.coherent.hp_le)
        (by linarith [sound.coherent.hp_le]))
  | restoreHp amount =>
    have healing : 0 ≤ amount := valid
    exact sound.withHp
      (le_min (sound.coherent.hp_nonneg.trans sound.coherent.hp_le)
        (by linarith [sound.coherent.hp_nonneg])) (min_le_left _ _)
  | fullHeal => exact sound.fullHeal
  | addItemToInventory item => exact sound.addItemToInventory valid
  | removeItemFromInventory index => exact sound.removeItemFromInventory index
  | clearInventory => exact sound.withInventory (by simp [createEmptyInventory]) rfl
  | equipItem index preferredSlot => exact sound.equipItem index preferredSlot
  | setLevel targetLevel => exact sound.setLevel targetLevel
  | setArchetype archetype => exact sound.setArchetype archetype
  | clone => exact sound.clone

theorem Sound.run {player : Player} (sound : player.Sound) {ops : List Op}
    (valid : ∀ op ∈ ops, op.Valid) : (ops.foldl Op.apply player).Sound :=
  List.foldlRecOn ops Op.apply sound fun _ kept op member => kept.apply (valid op member)

/-- The stats of a player stay coherent under every sequence of operations. -/
theorem run_new_coherent (archetype : Archetype) (level : ℤ) (atLeastOne : 1 ≤ level)
    (ops : List Op) (valid : ∀ op ∈ ops, op.Valid) :
    (ops.foldl Op.apply (Player.new archetype level)).Coherent :=
  ((sound_new archetype (by exact_mod_cast atLeastOne)).run valid).coherent

theorem run_new_coherent_martial :
    ([Op.takeDamage 30, .addExperience 1000, .setArchetype .mage, .clone].foldl Op.apply
      (Player.new .martial (1 : ℤ))).Coherent := by
  refine run_new_coherent .martial 1 le_rfl _ ?_
  simp [Op.Valid]

end Player

end WalkingRpg

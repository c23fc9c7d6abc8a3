import WalkingRpg.Models.PlayerStats

/-! The numbers a player accumulates: experience, distance and counters.

Operations on stats and items leave the totals alone, and experience is only ever spent by a level
up that it has reached. So a player that starts with nothing never owes anything.
-/

set_option autoImplicit false

namespace WalkingRpg

namespace Player

/-- Everything the game does to a player. -/
inductive Activity where
  | stats (op : Op)
  | addDistance (distance : ℚ)
  | incrementEncounters
  | defeatCreature
  | incrementCombatTurns

def Activity.Valid : Activity → Prop
  | .stats op => op.Valid
  | .addDistance distance => 0 ≤ distance
  | _ => True

def Activity.apply (player : Player) : Activity → Player
  | .stats op => op.apply player
  | .addDistance distance => player.addDistance distance
  | .incrementEncounters => player.incrementEncounters
  | .defeatCreature => player.defeatCreature
  | .incrementCombatTurns => player.incrementCombatTurns

structure Solvent (player : Player) : Prop where
  experience : 0 ≤ player.experience
  totalDistance : 0 ≤ player.totalDistance
  totalEncounters : 0 ≤ player.totalEncounters
  creaturesDefeated : 0 ≤ player.creaturesDefeated

namespace Solvent

variable {player : Player} (solvent : player.Solvent)

include solvent

theorem levelUpLoop (fuel gained : ℕ) : (player.levelUpLoop fuel gained).1.Solvent := by
  induction fuel generalizing player gained with
  | zero => exact solvent
  | succ fuel ih =>
    unfold Player.levelUpLoop
    split
    · rename_i reached
      apply ih
      exact { solvent with experience := sub_nonneg.mpr reached }
    · exact solvent

theorem checkLevelUp : (player.checkLevelUp).1.Solvent := by
  have looped := solvent.levelUpLoop player.levelUpFuel 0
  unfold Player.checkLevelUp
  dsimp only
  split
  · exact { looped with }
  · exact looped

theorem equipItem (index : ℤ) (preferredSlot : Option EquipmentSlot) :
    (player.equipItem index preferredSlot).1.Solvent := by
  rcases player.equipItem_cases index preferredSlot with ⟨_, same⟩ | ⟨_, _, _, _, _, equipped⟩
  · rw [same]
    exact solvent
  · rw [equipped]
    exact { solvent with }

theorem applyOp {op : Op} (valid : op.Valid) : (op.apply player).Solvent := by
  cases op with
  | addExperience amount =>
    have gain : 0 ≤ amount := valid
    have credited : { player with experience := player.experience + amount }.Solvent :=
      { solvent with experience := add_nonneg solvent.experience gain }
    exact credited.checkLevelUp
  | addItemToInventory item =>
    show (player.addItemToInventory item).1.Solvent
    rcases player.addItemToInventory_cases item with full | ⟨_, _, added⟩
    · rw [full]
      exact solvent
    · rw [added]
      exact { solvent with }
  | removeItemFromInventory index =>
    show (player.removeItemFromInventory index).1.Solvent
    rcases player.removeItemFromInventory_cases index with outside | ⟨_, _, _, removed⟩
    · rw [outside]
      exact solvent
    · rw [removed]
      exact { solvent with }
  | equipItem index preferredSlot => exact solvent.equipItem index preferredSlot
  -- The debug setter puts the experience back to zero.
  | setLevel targetLevel => exact { solvent with experience := le_rfl }
  | takeDamage _ | restoreHp _ | fullHeal | clearInventory | setArchetype _ | clone =>
    exact { solvent with }

theorem apply {activity : Activity} (valid : activity.Valid) : (activity.apply player).Solvent := by
  cases activity with
  | stats op => exact solvent.applyOp valid
  | addDistance distance =>
    have walked : 0 ≤ distance := valid
    exact { solvent with totalDistance := add_nonneg solvent.totalDistance walked }
  | incrementEncounters =>
    exact { solvent with totalEncounters := add_nonneg solvent.totalEncounters zero_le_one }
  | defeatCreature =>
    exact { solvent with creaturesDefeated := add_nonneg solvent.creaturesDefeated zero_le_one }
  | incrementCombatTurns => exact { solvent with }

end Solvent

theorem Sound.applyActivity {player : Player} (sound : player.Sound) {activity : Activity}
    (valid : activity.Valid) : (activity.apply player).Sound := by
  cases activity with
  | stats op => exact sound.apply valid
  | addDistance _ | incrementEncounters | defeatCreature | incrementCombatTurns =>
    exact { coherent := { sound.coherent with }, level := sound.level, items := sound.items }

/-- What every player of the game satisfies and its saves rely on. -/
structure Recordable (player : Player) : Prop where
  sound : player.Sound
  solvent : player.Solvent

theorem Recordable.run {player : Player} (recordable : player.Recordable) {activities : List Activity}
    (valid : ∀ activity ∈ activities, activity.Valid) :
    (activities.foldl Activity.apply player).Recordable :=
  List.foldlRecOn activities Activity.apply recordable fun _ kept activity member =>
    ⟨kept.sound.applyActivity (valid activity member), kept.solvent.apply (valid activity member)⟩

def named (id name : String) (archetype : Archetype) : Player :=
  { Player.new archetype 1 with id := id, name := name }

theorem recordable_named (id name : String) (archetype : Archetype) :
    (named id name archetype).Recordable where
  sound :=
    have sound := sound_new archetype le_rfl
    { coherent := { sound.coherent with }, level := sound.level, items := sound.items }
  solvent := ⟨le_rfl, le_rfl, le_rfl, le_rfl⟩

theorem Sound.stats_nonneg {player : Player} (sound : player.Sound) :
    0 ≤ player.attack ∧ 0 ≤ player.defense := by
  have worn : ∀ item, some item ∈ player.equipment.values → item.NonNegative := by
    intro item present
    exact sound.items item (Multiset.mem_add.mpr (.inr (Slots.mem_contents.mpr present)))
  constructor
  · rw [sound.coherent.attack]
    exact add_nonneg (zero_le_one.trans (le_max_left _ _)) (bonus_nonneg fun item present => (worn item present).attack)
  · rw [sound.coherent.defense]
    exact add_nonneg (zero_le_one.trans (le_max_left _ _)) (bonus_nonneg fun item present => (worn item present).defense)

end Player

end WalkingRpg

import WalkingRpg.Models.PlayerExperience
import WalkingRpg.Models.Turn
import WalkingRpg.Models.Rewards

/-! What a player has accumulated, as one sum.

The experience of a lifetime is what the levels reached have cost and what is left. Together with the
distance, the counters and the items owned it only ever grows by what a reward, a strike or a walk
adds. The amounts are those that the reveal and the recap show.
-/

set_option autoImplicit false

namespace WalkingRpg

@[ext] structure Totals where
  distance : ℚ := 0
  encounters : ℚ := 0
  defeats : ℚ := 0
  turns : ℚ := 0
  experience : ℚ := 0
  items : Multiset Item := 0
  deriving DecidableEq

namespace Totals

instance : Zero Totals := ⟨{}⟩

instance : Add Totals := ⟨fun one two => {
  distance := one.distance + two.distance
  encounters := one.encounters + two.encounters
  defeats := one.defeats + two.defeats
  turns := one.turns + two.turns
  experience := one.experience + two.experience
  items := one.items + two.items }⟩

instance : AddMonoid Totals where
  add_assoc _ _ _ := Totals.ext (add_assoc ..) (add_assoc ..) (add_assoc ..) (add_assoc ..) (add_assoc ..) (add_assoc ..)
  zero_add _ := Totals.ext (zero_add _) (zero_add _) (zero_add _) (zero_add _) (zero_add _) (zero_add _)
  add_zero _ := Totals.ext (add_zero _) (add_zero _) (add_zero _) (add_zero _) (add_zero _) (add_zero _)
  nsmul := nsmulRec

@[simp] theorem distance_add (one two : Totals) : (one + two).distance = one.distance + two.distance := rfl

@[simp] theorem encounters_add (one two : Totals) : (one + two).encounters = one.encounters + two.encounters := rfl

@[simp] theorem defeats_add (one two : Totals) : (one + two).defeats = one.defeats + two.defeats := rfl

@[simp] theorem turns_add (one two : Totals) : (one + two).turns = one.turns + two.turns := rfl

@[simp] theorem experience_add (one two : Totals) : (one + two).experience = one.experience + two.experience := rfl

@[simp] theorem items_add (one two : Totals) : (one + two).items = one.items + two.items := rfl

end Totals

namespace Player

/-- The cost of the levels reached and the experience left. -/
def lifetimeExperience (player : Player) : ℚ :=
  ∑ level ∈ Finset.Ico 1 ⌊player.level⌋₊, levelThreshold level + player.experience

def totals (player : Player) : Totals where
  distance := player.totalDistance
  encounters := player.totalEncounters
  defeats := player.creaturesDefeated
  turns := player.combatTurnsTaken
  experience := player.lifetimeExperience
  items := player.owned

/-- A whole level and an inventory of full size. -/
structure Regular (player : Player) : Prop where
  level : ∃ level : ℕ, 1 ≤ level ∧ player.level = level
  inventory : player.inventory.length = maxInventorySize

variable {player : Player}

theorem totals_gainLevel (regular : player.Regular) : player.gainLevel.totals = player.totals := by
  obtain ⟨level, atLeastOne, atLevel⟩ := regular.level
  have reached : ⌊player.gainLevel.level⌋₊ = level + 1 := by
    have next : player.gainLevel.level = (level + 1 : ℕ) := by
      push_cast
      rw [← atLevel]
      rfl
    rw [next, Nat.floor_natCast]
  have started : ⌊player.level⌋₊ = level := by rw [atLevel, Nat.floor_natCast]
  have left : player.gainLevel.experience = player.experience - levelThreshold level := by
    rw [← getExperienceForNextLevel_eq atLevel atLeastOne]
    rfl
  have paid : player.gainLevel.lifetimeExperience = player.lifetimeExperience := by
    unfold lifetimeExperience
    rw [reached, started, left, Finset.sum_Ico_succ_top atLeastOne]
    ring
  exact Totals.ext rfl rfl rfl rfl paid rfl

theorem Regular.gainLevel (regular : player.Regular) : player.gainLevel.Regular := by
  obtain ⟨level, _, atLevel⟩ := regular.level
  refine ⟨⟨level + 1, by omega, ?_⟩, regular.inventory⟩
  push_cast
  rw [← atLevel]
  rfl

theorem levelUpLoop_totals (regular : player.Regular) (fuel gained : ℕ) :
    (levelUpLoop fuel player gained).1.Regular ∧ (levelUpLoop fuel player gained).1.totals = player.totals := by
  induction fuel generalizing player gained with
  | zero => exact ⟨regular, rfl⟩
  | succ fuel ih =>
    unfold levelUpLoop
    split
    · obtain ⟨kept, same⟩ := ih regular.gainLevel (gained + 1)
      exact ⟨kept, same.trans (totals_gainLevel regular)⟩
    · exact ⟨regular, rfl⟩

theorem totals_recalculateStats (player : Player) : player.recalculateStats.totals = player.totals := rfl

theorem Regular.recalculateStats (regular : player.Regular) : player.recalculateStats.Regular :=
  ⟨regular.level, regular.inventory⟩

theorem addExperience_totals (regular : player.Regular) (amount : ℚ) :
    (player.addExperience amount).1.Regular ∧
      (player.addExperience amount).1.totals = player.totals + { experience := amount } := by
  let gained : Player := { player with experience := player.experience + amount }
  have credited : gained.totals = player.totals + { experience := amount } := by
    have experience : gained.lifetimeExperience = player.lifetimeExperience + amount := (add_assoc _ _ _).symm
    exact Totals.ext (add_zero _).symm (add_zero _).symm (add_zero _).symm (add_zero _).symm experience
      (add_zero _).symm
  have whole : gained.Regular := ⟨regular.level, regular.inventory⟩
  obtain ⟨kept, same⟩ := levelUpLoop_totals whole gained.levelUpFuel 0
  show gained.checkLevelUp.1.Regular ∧ gained.checkLevelUp.1.totals = _
  unfold checkLevelUp
  dsimp only
  split
  · exact ⟨kept.recalculateStats, (totals_recalculateStats _).trans (same.trans credited)⟩
  · exact ⟨kept, same.trans credited⟩

theorem addItemToInventory_totals (regular : player.Regular) (item : Item) :
    (player.addItemToInventory item).1.Regular ∧
      (player.addItemToInventory item).1.totals =
        player.totals + { items := if (player.addItemToInventory item).2.isSome then {item} else 0 } := by
  rcases player.addItemToInventory_cases item with full | ⟨i, empty, added⟩
  · rw [full]
    exact ⟨regular, (add_zero _).symm⟩
  · have owned := player.owned_set (some item) empty
    rw [Slots.held_none, add_zero] at owned
    rw [added]
    refine ⟨⟨regular.level, by simpa using regular.inventory⟩, ?_⟩
    exact Totals.ext (add_zero _).symm (add_zero _).symm (add_zero _).symm (add_zero _).symm (add_zero _).symm owned

theorem clone_totals (regular : player.Regular) : player.clone.Regular ∧ player.clone.totals = player.totals := by
  have inventory : player.clone.inventory = player.inventory := normalizeInventory_of_length regular.inventory
  refine ⟨⟨regular.level, inventory.symm ▸ regular.inventory⟩, ?_⟩
  have owned : player.clone.owned = player.owned := by
    unfold owned
    rw [inventory]
    rfl
  exact Totals.ext rfl rfl rfl rfl rfl owned

theorem Regular.hp (regular : player.Regular) (hp : ℚ) : { player with hp := hp }.Regular :=
  ⟨regular.level, regular.inventory⟩

theorem Regular.incrementEncounters (regular : player.Regular) : player.incrementEncounters.Regular :=
  ⟨regular.level, regular.inventory⟩

theorem Regular.defeatCreature (regular : player.Regular) : player.defeatCreature.Regular :=
  ⟨regular.level, regular.inventory⟩

theorem totals_incrementEncounters (player : Player) :
    player.incrementEncounters.totals = player.totals + { encounters := 1 } :=
  Totals.ext (add_zero _).symm rfl (add_zero _).symm (add_zero _).symm (add_zero _).symm (add_zero _).symm

theorem totals_defeatCreature (player : Player) : player.defeatCreature.totals = player.totals + { defeats := 1 } :=
  Totals.ext (add_zero _).symm (add_zero _).symm rfl (add_zero _).symm (add_zero _).symm (add_zero _).symm

theorem totals_incrementCombatTurns (player : Player) :
    player.incrementCombatTurns.totals = player.totals + { turns := 1 } :=
  Totals.ext (add_zero _).symm (add_zero _).symm (add_zero _).symm rfl (add_zero _).symm (add_zero _).symm

theorem totals_addDistance (player : Player) (distance : ℚ) :
    (player.addDistance distance).totals = player.totals + { distance := distance } :=
  Totals.ext rfl (add_zero _).symm (add_zero _).symm (add_zero _).symm (add_zero _).symm (add_zero _).symm

theorem totals_fullHeal (player : Player) : player.fullHeal.totals = player.totals := rfl

end Player

def RewardReveal.gained (reveal : RewardReveal) : Multiset Item :=
  if reveal.inventoryFull then 0 else Slots.held reveal.item

def RewardReveal.totals (reveal : RewardReveal) : Totals :=
  { encounters := 1, defeats := 1, experience := reveal.xpGained, items := reveal.gained }

variable {base : Player}

open Player in
theorem victoryReward_totals (regular : base.Regular) (creature : Creature) (loot : LootRoll) :
    (victoryReward base creature loot).1.Regular ∧
      (victoryReward base creature loot).1.totals = base.totals + (victoryReward base creature loot).2.totals := by
  obtain ⟨copied, copy⟩ := clone_totals regular
  obtain ⟨whole, leveled⟩ := addExperience_totals copied.defeatCreature.incrementEncounters
    (activeCombatXp creature.getExperienceReward)
  rw [totals_incrementEncounters, totals_defeatCreature, copy] at leveled
  unfold victoryReward
  dsimp only
  split
  · refine ⟨whole.hp _, ?_⟩
    rw [totals_fullHeal, leveled]
    ext <;> simp [RewardReveal.totals, RewardReveal.gained]
  · rename_i item _
    obtain ⟨stocked, owned⟩ := addItemToInventory_totals whole item
    refine ⟨stocked.hp _, ?_⟩
    rw [totals_fullHeal, owned, leveled]
    cases (addItemToInventory _ item).2 with
    | none => ext <;> simp [RewardReveal.totals, RewardReveal.gained]
    | some _ => ext <;> simp [RewardReveal.totals, RewardReveal.gained]

theorem playTurn_totals (regular : base.Regular) (creature : Creature) (playerState : CombatantState)
    (creatureState : Option CombatantState) (ability : Ability) (dodgeStreak draw : ℚ) :
    let turn := playTurn base creature playerState creatureState ability dodgeStreak draw
    turn.player.Regular ∧ turn.player.totals = base.totals := by
  obtain ⟨copied, copy⟩ := Player.clone_totals regular
  unfold playTurn
  dsimp only
  split
  · exact ⟨copied, copy⟩
  · dsimp only
    split
    · exact ⟨copied.hp _, copy⟩
    · exact ⟨copied, copy⟩

theorem counterStrike_totals (regular : base.Regular) (creature : Creature)
    (creatureAttack playerDefense dodgeStreak draw : ℚ) :
    let strike := counterStrike base creature creatureAttack playerDefense dodgeStreak draw
    strike.player.Regular ∧ strike.player.totals = base.totals + { turns := 1 } := by
  obtain ⟨copied, copy⟩ := Player.clone_totals regular
  have counted := base.clone.totals_incrementCombatTurns
  rw [copy] at counted
  unfold counterStrike
  dsimp only
  split
  · exact ⟨⟨copied.level, copied.inventory⟩, counted⟩
  · exact ⟨⟨copied.level, copied.inventory⟩, counted⟩

end WalkingRpg

import WalkingRpg.Library.Staircase
import WalkingRpg.Models.PlayerStats

/-! Experience as a staircase of levels.

The level-up loop pays the threshold of one level after the other. The stats are recalculated once,
after the loop, and current HP keeps what is missing; since max HP does not fall with the level, it
does not matter at how many levels on the way this happens.
-/

set_option autoImplicit false

namespace WalkingRpg

open Staircase (Reaches)

def levelThreshold (level : ℕ) : ℚ := Nat.sqrt (10000 * level ^ 3)

theorem levelThreshold_nonneg (level : ℕ) : 0 ≤ levelThreshold level := Nat.cast_nonneg _

namespace Player

variable {player : Player} {level : ℕ} {experience : ℚ} {levels : ℕ}

theorem getExperienceForNextLevel_eq (atLevel : player.level = level) (atLeastOne : 1 ≤ level) :
    player.getExperienceForNextLevel = levelThreshold level := by
  have one : (1 : ℚ) ≤ level := by exact_mod_cast atLeastOne
  have exact : ⌊10000 * (level : ℚ) ^ 3⌋₊ = 10000 * level ^ 3 := by
    exact_mod_cast Nat.floor_natCast (10000 * level ^ 3)
  rw [getExperienceForNextLevel, atLevel, max_eq_right one, exact, levelThreshold]

def raised (player : Player) (levels : ℕ) (experience : ℚ) : Player :=
  let cfg := archetypeConfigs player.archetype
  { player with
    experience := experience
    level := player.level + levels
    str := player.str + levels * cfg.strPerLevel
    agi := player.agi + levels * cfg.agiPerLevel
    int := player.int + levels * cfg.intPerLevel }

theorem raised_gainLevel (player : Player) (levels : ℕ) (experience : ℚ) :
    player.gainLevel.raised levels experience = player.raised (levels + 1) experience := by
  simp only [raised, gainLevel, Player.mk.injEq, true_and]
  push_cast
  refine ⟨?_, ?_, ?_, ?_⟩ <;> ring

theorem raised_zero (player : Player) : player.raised 0 player.experience = player := by
  simp [raised]

theorem levelUpLoop_reaches (fuel : ℕ) (player : Player) (gained : ℕ) (level : ℕ) (atLevel : player.level = level)
    (atLeastOne : 1 ≤ level) (nonneg : 0 ≤ player.experience) (enough : player.experience < 100 * fuel) :
    ∃ levels rest, levelUpLoop fuel player gained = (player.raised levels rest, gained + levels) ∧
      Reaches levelThreshold level player.experience (level + levels) rest := by
  induction fuel generalizing player gained level with
  | zero =>
    simp only [Nat.cast_zero, mul_zero] at enough
    exact absurd enough (not_lt.mpr nonneg)
  | succ fuel ih =>
    have threshold := getExperienceForNextLevel_eq atLevel atLeastOne
    unfold levelUpLoop
    split
    · rename_i pays
      have least := player.hundred_le_getExperienceForNextLevel
      have spent : player.gainLevel.experience = player.experience - levelThreshold level := by
        rw [← threshold]
        rfl
      have next : player.gainLevel.level = (level + 1 : ℕ) := by
        push_cast
        rw [← atLevel]
        rfl
      push_cast at enough
      obtain ⟨levels, rest, looped, reaches⟩ := ih player.gainLevel (gained + 1) (level + 1) next (by omega)
        (by rw [spent, ← threshold]; linarith) (by rw [spent, ← threshold]; linarith)
      refine ⟨levels + 1, rest, ?_, ?_⟩
      · rw [looped, raised_gainLevel, add_assoc, add_comm 1]
      · rw [spent] at reaches
        rw [add_comm levels 1, ← add_assoc]
        exact reaches.step
    · rename_i short
      rw [threshold, ge_iff_le, not_le] at short
      exact ⟨0, player.experience, by rw [raised_zero, add_zero], .stay nonneg short⟩

/-- More turns than the allotted ones change nothing: the loop has stopped by itself. -/
theorem levelUpLoop_of_le {fuel : ℕ} (atLevel : player.level = level) (atLeastOne : 1 ≤ level)
    (nonneg : 0 ≤ player.experience) (enough : player.levelUpFuel ≤ fuel) :
    levelUpLoop fuel player 0 = levelUpLoop player.levelUpFuel player 0 := by
  have allotted := player.experience_lt_levelUpFuel
  have plenty : player.experience < 100 * fuel := by
    have larger : (player.levelUpFuel : ℚ) ≤ fuel := by exact_mod_cast enough
    linarith
  obtain ⟨_, _, one, first⟩ := levelUpLoop_reaches fuel player 0 level atLevel atLeastOne nonneg plenty
  obtain ⟨_, _, two, second⟩ := levelUpLoop_reaches _ player 0 level atLevel atLeastOne nonneg allotted
  obtain ⟨same, rest⟩ := first.unique levelThreshold_nonneg second
  rw [one, two, Nat.add_left_cancel same, rest]

theorem Derived.recalculateStats_eq (derived : player.Derived) : player.recalculateStats = player := by
  have maxHp : player.recalculateStats.maxHp = player.maxHp := derived.maxHp.symm
  have hp : player.recalculateStats.hp = player.hp := by
    rw [hp_recalculateStats derived.hp_le, maxHp, missingHp, sub_sub_cancel, max_eq_right derived.hp_nonneg]
  have attack : player.recalculateStats.attack = player.attack := derived.attack.symm
  have defense : player.recalculateStats.defense = player.defense := derived.defense.symm
  calc
    player.recalculateStats = { player with
      attack := player.recalculateStats.attack
      defense := player.recalculateStats.defense
      maxHp := player.recalculateStats.maxHp
      hp := player.recalculateStats.hp } := rfl
    _ = player := by rw [attack, defense, maxHp, hp]

theorem recalculateStats_congr {other : Player}
    (same : { player with
      attack := other.attack, defense := other.defense, maxHp := other.maxHp, hp := other.hp } = other)
    (missing : player.missingHp = other.missingHp) (bound : player.hp ≤ player.maxHp)
    (otherBound : other.hp ≤ other.maxHp) : player.recalculateStats = other.recalculateStats := by
  have maxHp : player.recalculateStats.maxHp = other.recalculateStats.maxHp := by
    rw [← same]
    rfl
  have hp : player.recalculateStats.hp = other.recalculateStats.hp := by
    rw [hp_recalculateStats bound, hp_recalculateStats otherBound, maxHp, missing]
  calc
    player.recalculateStats = { player.recalculateStats with hp := player.recalculateStats.hp } := rfl
    _ = { player.recalculateStats with hp := other.recalculateStats.hp } := by rw [hp]
    _ = { { player with
        attack := other.attack, defense := other.defense, maxHp := other.maxHp, hp := other.hp }.recalculateStats with
        hp := other.recalculateStats.hp } := rfl
    _ = other.recalculateStats := by rw [same]

theorem Derived.maxHp_le_raised (derived : player.Derived) (levels : ℕ) (experience : ℚ) :
    player.maxHp ≤ (player.raised levels experience).recalculateStats.maxHp := by
  have count : (0 : ℚ) ≤ levels := Nat.cast_nonneg levels
  rw [derived.maxHp]
  simp only [recalculateStats, raised, deriveMaxHp]
  cases player.archetype <;> simp only [archetypeConfigs] <;> linarith

theorem Derived.missingHp_raised (derived : player.Derived) (levels : ℕ) (experience : ℚ) :
    (player.raised levels experience).recalculateStats.missingHp = player.missingHp := by
  have higher := derived.maxHp_le_raised levels experience
  have lacking : player.missingHp ≤ player.maxHp := sub_le_self _ derived.hp_nonneg
  exact @missingHp_recalculateStats (player.raised levels experience) derived.hp_le (lacking.trans higher)

theorem Derived.raised (derived : player.Derived) (levels : ℕ) (experience : ℚ) :
    (player.raised levels experience).recalculateStats.Derived where
  attack := rfl
  defense := rfl
  maxHp := rfl
  hp_nonneg := le_max_left _ _
  hp_le := by
    have missing := derived.missingHp_raised levels experience
    have lacking := sub_nonneg.mpr derived.hp_le
    unfold missingHp at missing
    linarith

theorem Derived.raised_raised (derived : player.Derived) (levels more : ℕ) (experience rest : ℚ) :
    ((player.raised levels experience).recalculateStats.raised more rest).recalculateStats =
      (player.raised (levels + more) rest).recalculateStats := by
  refine recalculateStats_congr ?_ (derived.missingHp_raised levels experience)
    (derived.raised levels experience).hp_le derived.hp_le
  simp only [Player.raised, recalculateStats, Player.mk.injEq, true_and]
  push_cast
  refine ⟨?_, ?_, ?_, ?_⟩ <;> ring

theorem level_raised (atLevel : player.level = level) (levels : ℕ) (experience : ℚ) :
    (player.raised levels experience).recalculateStats.level = (level + levels : ℕ) := by
  push_cast
  rw [← atLevel]
  rfl

theorem Derived.addExperience_reaches (derived : player.Derived) (atLevel : player.level = level)
    (atLeastOne : 1 ≤ level) (nonneg : 0 ≤ player.experience) {amount : ℚ} (gain : 0 ≤ amount) :
    ∃ levels rest, player.addExperience amount = ((player.raised levels rest).recalculateStats, levels) ∧
      Reaches levelThreshold level (player.experience + amount) (level + levels) rest := by
  let gained : Player := { player with experience := player.experience + amount }
  have total : 0 ≤ gained.experience := add_nonneg nonneg gain
  obtain ⟨levels, rest, looped, reaches⟩ := levelUpLoop_reaches gained.levelUpFuel gained 0 level atLevel atLeastOne
    total gained.experience_lt_levelUpFuel
  refine ⟨levels, rest, ?_, reaches⟩
  show gained.checkLevelUp = _
  rw [checkLevelUp, looped]
  cases levels with
  | zero =>
    -- Without a level gained nothing is recalculated, and there is nothing to recalculate.
    have unraised : player.raised 0 rest = { player with experience := rest } := by simp [Player.raised]
    have idle : (player.raised 0 rest).Derived := unraised ▸ { derived with }
    rw [idle.recalculateStats_eq]
    rfl
  | succ levels => simp [gained, Player.raised]

theorem Derived.addExperience_addExperience (derived : player.Derived) (atLevel : player.level = level)
    (atLeastOne : 1 ≤ level) (nonneg : 0 ≤ player.experience) {amount further : ℚ}
    (gain : 0 ≤ amount) (gainFurther : 0 ≤ further) :
    ((player.addExperience amount).1.addExperience further).1 = (player.addExperience (amount + further)).1 := by
  obtain ⟨levels, rest, first, reaches⟩ := derived.addExperience_reaches atLevel atLeastOne nonneg gain
  obtain ⟨more, left, second, onward⟩ := (derived.raised levels rest).addExperience_reaches
    (level_raised atLevel levels rest) (by omega) reaches.nonneg gainFurther
  obtain ⟨whole, remainder, once, direct⟩ := derived.addExperience_reaches atLevel atLeastOne nonneg
    (add_nonneg gain gainFurther)
  rw [← add_assoc] at direct
  obtain ⟨same, equal⟩ := (reaches.trans onward).unique levelThreshold_nonneg direct
  rw [first, second, once, derived.raised_raised, equal, show levels + more = whole by omega]

/-- Experience is conserved and the levels it buys do not depend on the parts it comes in. -/
theorem addExperience_conserves_and_splits (derived : player.Derived) (atLevel : player.level = level)
    (atLeastOne : 1 ≤ level) (nonneg : 0 ≤ player.experience) {amount further : ℚ}
    (gain : 0 ≤ amount) (gainFurther : 0 ≤ further) :
    let gained : Player := { player with experience := player.experience + amount }
    (∀ fuel, gained.levelUpFuel ≤ fuel →
      levelUpLoop fuel gained 0 = levelUpLoop gained.levelUpFuel gained 0) ∧
    (∃ reached : ℕ, level ≤ reached ∧
      (player.addExperience amount).1.level = reached ∧
      0 ≤ (player.addExperience amount).1.experience ∧
      (player.addExperience amount).1.experience < levelThreshold reached ∧
      ∑ l ∈ Finset.Ico level reached, levelThreshold l + (player.addExperience amount).1.experience =
        player.experience + amount ∧
      (player.addExperience amount).2 = reached - level) ∧
    ((player.addExperience amount).1.addExperience further).1 = (player.addExperience (amount + further)).1 := by
  obtain ⟨levels, rest, first, reaches⟩ := derived.addExperience_reaches atLevel atLeastOne nonneg gain
  refine ⟨fun fuel enough => ?_, ⟨level + levels, reaches.climbed, ?_, ?_, ?_, ?_, ?_⟩, ?_⟩
  · exact levelUpLoop_of_le atLevel atLeastOne (add_nonneg nonneg gain) enough
  · rw [first]
    exact level_raised atLevel levels rest
  · rw [first]
    exact reaches.nonneg
  · rw [first]
    exact reaches.below
  · rw [first]
    exact reaches.paid
  · rw [first]
    omega
  · exact derived.addExperience_addExperience atLevel atLeastOne nonneg gain gainFurther

/-- 500 experience at once, or first 120 and then 380, from level 1 to level 3. -/
theorem addExperience_conserves_and_splits_new :
    (Player.new .martial 1).Derived ∧
      (((Player.new .martial 1).addExperience 120).1.addExperience 380).1 =
        ((Player.new .martial 1).addExperience (120 + 380)).1 ∧
      ((Player.new .martial 1).addExperience 500).2 = 2 := by
  have derived := (sound_new .martial le_rfl).coherent.derived
  have atLevel : (Player.new .martial 1).level = (1 : ℕ) := by decide +kernel
  have some : (0 : ℚ) ≤ 120 := by norm_num
  have more : (0 : ℚ) ≤ 380 := by norm_num
  have splits := addExperience_conserves_and_splits derived atLevel le_rfl le_rfl some more
  exact ⟨derived, splits.2.2, by decide +kernel⟩

end Player

end WalkingRpg

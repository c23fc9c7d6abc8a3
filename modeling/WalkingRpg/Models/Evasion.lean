import Mathlib.Data.List.Induction
import Mathlib.Order.Lattice
import Mathlib.Tactic.Linarith
import WalkingRpg.Models.Combat

/-! How the outcome of a hit depends on the speeds, the defender and the streak.

One draw is read against two bands: the dodge band at the bottom, the glance band on top of it. A
fixed draw can only get a better outcome when neither the lower band nor the two together shrink,
and every chance is a clamped sum, so it grows with what it is made from.
-/

set_option autoImplicit false

namespace WalkingRpg

def EvadeOutcome.rank : EvadeOutcome → ℕ
  | .normal => 0
  | .glancing => 1
  | .dodged => 2

theorem EvadeOutcome.rank_injective : Function.Injective EvadeOutcome.rank := by
  intro first second same
  cases first <;> cases second <;> first | rfl | cases same

instance : LinearOrder EvadeOutcome := LinearOrder.lift' EvadeOutcome.rank EvadeOutcome.rank_injective

section Clamp

variable {n m lo hi other : ℚ}

theorem le_clamp : lo ≤ clamp n lo hi := le_max_left _ _

theorem clamp_le (ordered : lo ≤ hi) : clamp n lo hi ≤ hi := max_le ordered (min_le_left _ _)

theorem clamp_le_clamp (le : n ≤ m) (ceilings : hi ≤ other) : clamp n lo hi ≤ clamp m lo other :=
  max_le_max le_rfl (min_le_min ceilings le)

end Clamp

def glanceChance (attackerSpeed defenderSpeed : ℚ) (defender : Combatant) : ℚ :=
  clamp (EvasionConfig.base.glance + EvasionConfig.slopePerSpeed.glance * (defenderSpeed - attackerSpeed))
    0 (EvasionConfig.cap defender).glance

def dodgeBase (attackerSpeed defenderSpeed : ℚ) (defender : Combatant) : ℚ :=
  clamp (EvasionConfig.base.dodge + EvasionConfig.slopePerSpeed.dodge * (defenderSpeed - attackerSpeed))
    0 (EvasionConfig.cap defender).dodge

def dodgeChance (attackerSpeed defenderSpeed : ℚ) (defender : Combatant) (dodgeStreak : ℚ) : ℚ :=
  min (EvasionConfig.cap defender).dodge
    (dodgeBase attackerSpeed defenderSpeed defender * (1 + EvasionConfig.prdDodgeGrowth * dodgeStreak))

/-- Where a draw falls, by the upper ends of the dodge band and of both bands. -/
def outcomeOf (dodge evade r : ℚ) : EvadeOutcome :=
  if r < dodge then .dodged else if r < evade then .glancing else .normal

theorem outcomeOf_le_outcomeOf {dodge evade dodge' evade' r : ℚ} (dodges : dodge ≤ dodge')
    (evades : evade ≤ evade') : outcomeOf dodge evade r ≤ outcomeOf dodge' evade' r := by
  unfold outcomeOf
  by_cases below : r < dodge
  · rw [if_pos below, if_pos (below.trans_le dodges)]
  · rw [if_neg below]
    by_cases between : r < evade
    · rw [if_pos between, if_pos (between.trans_le evades)]
      split <;> decide
    · rw [if_neg between]
      exact Nat.zero_le _

/-- A better defender, a faster one and a slower attacker, and a longer streak. -/
structure Eases (attackerSpeed defenderSpeed : ℚ) (defender : Combatant) (dodgeStreak : ℚ)
    (attackerSpeed' defenderSpeed' : ℚ) (defender' : Combatant) (dodgeStreak' : ℚ) : Prop where
  attacker : attackerSpeed' ≤ attackerSpeed
  speed : defenderSpeed ≤ defenderSpeed'
  defender : defender = defender' ∨ defender = .creature ∧ defender' = .player
  nonneg : 0 ≤ dodgeStreak
  streak : dodgeStreak ≤ dodgeStreak'

variable {attackerSpeed defenderSpeed dodgeStreak attackerSpeed' defenderSpeed' dodgeStreak' r : ℚ}
variable {defender defender' : Combatant}

theorem cap_nonneg (defender : Combatant) :
    0 ≤ (EvasionConfig.cap defender).glance ∧ 0 ≤ (EvasionConfig.cap defender).dodge := by
  cases defender <;> decide +kernel

namespace Eases

variable (eases : Eases attackerSpeed defenderSpeed defender dodgeStreak attackerSpeed' defenderSpeed'
  defender' dodgeStreak')

include eases

theorem caps : (EvasionConfig.cap defender).glance ≤ (EvasionConfig.cap defender').glance ∧
    (EvasionConfig.cap defender).dodge ≤ (EvasionConfig.cap defender').dodge := by
  rcases eases.defender with same | ⟨weak, favoured⟩
  · rw [same]
    exact ⟨le_rfl, le_rfl⟩
  · rw [weak, favoured]
    decide +kernel

theorem delta : defenderSpeed - attackerSpeed ≤ defenderSpeed' - attackerSpeed' :=
  sub_le_sub eases.speed eases.attacker

theorem glanceChance_le :
    glanceChance attackerSpeed defenderSpeed defender ≤ glanceChance attackerSpeed' defenderSpeed' defender' := by
  have slope : 0 ≤ EvasionConfig.slopePerSpeed.glance := by decide +kernel
  exact clamp_le_clamp (add_le_add le_rfl (mul_le_mul_of_nonneg_left eases.delta slope)) eases.caps.1

theorem dodgeBase_le :
    dodgeBase attackerSpeed defenderSpeed defender ≤ dodgeBase attackerSpeed' defenderSpeed' defender' := by
  have slope : 0 ≤ EvasionConfig.slopePerSpeed.dodge := by decide +kernel
  exact clamp_le_clamp (add_le_add le_rfl (mul_le_mul_of_nonneg_left eases.delta slope)) eases.caps.2

theorem dodgeChance_le : dodgeChance attackerSpeed defenderSpeed defender dodgeStreak ≤
    dodgeChance attackerSpeed' defenderSpeed' defender' dodgeStreak' := by
  have growth : 0 ≤ EvasionConfig.prdDodgeGrowth := by decide +kernel
  have ramps : 1 + EvasionConfig.prdDodgeGrowth * dodgeStreak ≤
      1 + EvasionConfig.prdDodgeGrowth * dodgeStreak' :=
    add_le_add le_rfl (mul_le_mul_of_nonneg_left eases.streak growth)
  have ramp : 0 ≤ 1 + EvasionConfig.prdDodgeGrowth * dodgeStreak :=
    add_nonneg zero_le_one (mul_nonneg growth eases.nonneg)
  exact min_le_min eases.caps.2 (mul_le_mul eases.dodgeBase_le ramps ramp le_clamp)

end Eases

theorem outcome_rollEvasion (attackerSpeed defenderSpeed : ℚ) (defender : Combatant) (dodgeStreak r : ℚ) :
    (rollEvasion attackerSpeed defenderSpeed defender dodgeStreak r).outcome =
      outcomeOf (dodgeChance attackerSpeed defenderSpeed defender dodgeStreak)
        (dodgeChance attackerSpeed defenderSpeed defender dodgeStreak +
          glanceChance attackerSpeed defenderSpeed defender) r := by
  unfold rollEvasion outcomeOf
  change EvasionRoll.outcome (if r < dodgeChance attackerSpeed defenderSpeed defender dodgeStreak then _
    else if r < dodgeChance attackerSpeed defenderSpeed defender dodgeStreak +
      glanceChance attackerSpeed defenderSpeed defender then _ else _) = _
  split
  · rfl
  · split <;> rfl

theorem Eases.outcome_le (eases : Eases attackerSpeed defenderSpeed defender dodgeStreak attackerSpeed'
    defenderSpeed' defender' dodgeStreak') (r : ℚ) :
    (rollEvasion attackerSpeed defenderSpeed defender dodgeStreak r).outcome ≤
      (rollEvasion attackerSpeed' defenderSpeed' defender' dodgeStreak' r).outcome := by
  rw [outcome_rollEvasion, outcome_rollEvasion]
  exact outcomeOf_le_outcomeOf eases.dodgeChance_le (add_le_add eases.dodgeChance_le eases.glanceChance_le)

theorem lt_cap_of_dodged
    (dodged : (rollEvasion attackerSpeed defenderSpeed defender dodgeStreak r).outcome = .dodged) :
    r < (EvasionConfig.cap defender).dodge := by
  rw [outcome_rollEvasion, outcomeOf] at dodged
  split at dodged
  · rename_i below
    exact below.trans_le (min_le_left _ _)
  · split at dodged <;> cases dodged

theorem lt_caps_of_evaded
    (evaded : (rollEvasion attackerSpeed defenderSpeed defender dodgeStreak r).outcome ≠ .normal) :
    r < (EvasionConfig.cap defender).dodge + (EvasionConfig.cap defender).glance := by
  have caps := cap_nonneg defender
  have glance : glanceChance attackerSpeed defenderSpeed defender ≤ (EvasionConfig.cap defender).glance :=
    clamp_le caps.1
  have dodge : dodgeChance attackerSpeed defenderSpeed defender dodgeStreak ≤
      (EvasionConfig.cap defender).dodge := min_le_left _ _
  rw [outcome_rollEvasion, outcomeOf] at evaded
  split at evaded
  · linarith
  · split at evaded
    · linarith
    · exact absurd rfl evaded

structure Attempt where
  attackerSpeed : ℚ
  defenderSpeed : ℚ
  defender : Combatant
  draw : ℚ

def Attempt.roll (attempt : Attempt) (dodgeStreak : ℚ) : EvasionRoll :=
  rollEvasion attempt.attackerSpeed attempt.defenderSpeed attempt.defender dodgeStreak attempt.draw

def rollAll : ℚ → List Attempt → List EvasionRoll
  | _, [] => []
  | dodgeStreak, attempt :: later =>
    attempt.roll dodgeStreak :: rollAll (attempt.roll dodgeStreak).nextDodgeStreak later

def streakAfter (start : ℚ) (rolls : List EvasionRoll) : ℚ :=
  (rolls.getLast?.map EvasionRoll.nextDodgeStreak).getD start

def sinceDodge (rolls : List EvasionRoll) : ℕ :=
  (rolls.reverse.takeWhile fun roll => roll.outcome ≠ .dodged).length

theorem streakAfter_cons (start : ℚ) (roll : EvasionRoll) (rolls : List EvasionRoll) :
    streakAfter start (roll :: rolls) = streakAfter roll.nextDodgeStreak rolls := by
  cases rolls with
  | nil => rfl
  | cons next rest => simp [streakAfter, List.getLast?_cons]

theorem streakAfter_snoc (start : ℚ) (rolls : List EvasionRoll) (roll : EvasionRoll) :
    streakAfter start (rolls ++ [roll]) = roll.nextDodgeStreak := by
  simp [streakAfter]

theorem rollAll_snoc (start : ℚ) (attempts : List Attempt) (attempt : Attempt) :
    rollAll start (attempts ++ [attempt]) =
      rollAll start attempts ++ [attempt.roll (streakAfter start (rollAll start attempts))] := by
  induction attempts generalizing start with
  | nil => rfl
  | cons first later ih => simp only [List.cons_append, rollAll, ih, streakAfter_cons]

theorem sinceDodge_snoc (rolls : List EvasionRoll) (roll : EvasionRoll) :
    sinceDodge (rolls ++ [roll]) = if roll.outcome = .dodged then 0 else sinceDodge rolls + 1 := by
  by_cases dodged : roll.outcome = .dodged <;> simp [sinceDodge, dodged]

theorem nextDodgeStreak_roll (attempt : Attempt) (dodgeStreak : ℚ) :
    (attempt.roll dodgeStreak).nextDodgeStreak =
      if (attempt.roll dodgeStreak).outcome = .dodged then 0 else dodgeStreak + 1 := by
  unfold Attempt.roll rollEvasion
  dsimp only
  split
  · rfl
  · split <;> rfl

theorem streakAfter_rollAll (attempts : List Attempt) :
    streakAfter 0 (rollAll 0 attempts) = sinceDodge (rollAll 0 attempts) := by
  induction attempts using List.reverseRecOn with
  | nil => rfl
  | append_singleton attempts attempt ih =>
    rw [rollAll_snoc, sinceDodge_snoc, streakAfter_snoc, nextDodgeStreak_roll, ih]
    split
    · simp
    · push_cast
      rfl

/-- A roll dodges below the cap of the defender and evades below both caps. With the draw fixed, the
outcome gets no worse for the defender when it is faster, the attacker slower or the streak longer, and
is no worse for a player than for a creature. The streak counts the rolls since the last dodge. -/
theorem rollEvasion_favours_defender :
    (∀ attackerSpeed defenderSpeed defender dodgeStreak r,
      ((rollEvasion attackerSpeed defenderSpeed defender dodgeStreak r).outcome = .dodged →
        r < (EvasionConfig.cap defender).dodge) ∧
      ((rollEvasion attackerSpeed defenderSpeed defender dodgeStreak r).outcome ≠ .normal →
        r < (EvasionConfig.cap defender).dodge + (EvasionConfig.cap defender).glance)) ∧
    (∀ {attackerSpeed attackerSpeed' defenderSpeed defenderSpeed' dodgeStreak dodgeStreak' : ℚ},
      attackerSpeed' ≤ attackerSpeed → defenderSpeed ≤ defenderSpeed' → 0 ≤ dodgeStreak →
      dodgeStreak ≤ dodgeStreak' → ∀ defender r,
      (rollEvasion attackerSpeed defenderSpeed defender dodgeStreak r).outcome ≤
        (rollEvasion attackerSpeed' defenderSpeed' defender dodgeStreak' r).outcome) ∧
    (∀ {dodgeStreak : ℚ}, 0 ≤ dodgeStreak → ∀ attackerSpeed defenderSpeed r,
      (rollEvasion attackerSpeed defenderSpeed .creature dodgeStreak r).outcome ≤
        (rollEvasion attackerSpeed defenderSpeed .player dodgeStreak r).outcome) ∧
    ∀ attempts, streakAfter 0 (rollAll 0 attempts) = sinceDodge (rollAll 0 attempts) := by
  refine ⟨fun _ _ _ _ _ => ⟨lt_cap_of_dodged, lt_caps_of_evaded⟩, ?_, ?_, streakAfter_rollAll⟩
  · intro _ _ _ _ _ _ slower faster nonneg longer defender r
    exact Eases.outcome_le ⟨slower, faster, .inl rfl, nonneg, longer⟩ r
  · intro _ nonneg attackerSpeed defenderSpeed r
    exact Eases.outcome_le ⟨le_rfl, le_rfl, .inr ⟨rfl, rfl⟩, nonneg, le_rfl⟩ r

/-- After two hits that it did not dodge, a player ten faster dodges the draw that would have glanced. -/
theorem rollEvasion_favours_defender_ramped :
    (rollEvasion 10 20 .player 0 0.1).outcome = .glancing ∧ (rollEvasion 10 20 .player 2 0.1).outcome = .dodged ∧
      (rollEvasion 10 20 .player 0 0.1).outcome ≤ (rollEvasion 10 20 .player 2 0.1).outcome :=
  ⟨by decide +kernel, by decide +kernel,
    rollEvasion_favours_defender.2.1 le_rfl le_rfl le_rfl (by norm_num) .player 0.1⟩

end WalkingRpg

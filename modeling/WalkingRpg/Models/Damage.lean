import Mathlib.Tactic.Positivity
import WalkingRpg.Models.Ability
import WalkingRpg.Models.Creature
import WalkingRpg.Models.Evasion

/-! The damage of a direct hit, from the attack to what lands.

Mitigation, resistance and evasion each round down and clamp. Each of them is monotone in what it is
given, so the pipeline is; the one step that is not term by term is the ratio in the mitigation,
where attack is in the numerator and in the denominator.
-/

set_option autoImplicit false

namespace WalkingRpg

def mitigationRatio (attack defense : ℚ) : ℚ :=
  max 0 attack * max 0 attack / (max 0 attack + max 0 defense)

/-- The source tests for a denominator of zero; dividing by zero gives zero as well. -/
theorem mitigateDamage_eq (attack defense multiplier : ℚ) :
    mitigateDamage attack defense multiplier = max 1 (⌊mitigationRatio attack defense * multiplier⌋ : ℚ) := by
  unfold mitigateDamage mitigationRatio
  dsimp only
  split
  · rename_i zero
    rw [zero, div_zero]
  · rfl

theorem ratio_le_ratio {first second defense : ℚ} (nonneg : 0 ≤ first) (le : first ≤ second)
    (defended : 0 ≤ defense) :
    first * first / (first + defense) ≤ second * second / (second + defense) := by
  rcases (add_nonneg nonneg defended).eq_or_lt with zero | positive
  · rw [← zero, div_zero]
    exact div_nonneg (mul_self_nonneg second) (by linarith)
  · rw [div_le_div_iff₀ positive (by linarith)]
    -- Cross-multiplied, the two products with an attack of their own and those with the defense.
    have attacks : first * first * second ≤ second * second * first := by
      have product : first * second * first ≤ first * second * second :=
        mul_le_mul_of_nonneg_left le (mul_nonneg nonneg (nonneg.trans le))
      linarith
    have squares : first * first * defense ≤ second * second * defense :=
      mul_le_mul_of_nonneg_right (mul_self_le_mul_self nonneg le) defended
    linarith

theorem mitigationRatio_mono (defense : ℚ) : Monotone fun attack => mitigationRatio attack defense :=
  fun _ _ le => ratio_le_ratio (le_max_left _ _) (max_le_max le_rfl le) (le_max_left _ _)

theorem mitigationRatio_anti (attack : ℚ) : Antitone fun defense => mitigationRatio attack defense := by
  intro first second le
  have attacker : 0 ≤ max 0 attack := le_max_left _ _
  have armor : max 0 first ≤ max 0 second := max_le_max le_rfl le
  rcases (add_nonneg attacker (le_max_left 0 first)).eq_or_lt with zero | positive
  · -- Without attack or defense there is nothing to mitigate.
    have none : max 0 attack = 0 := by
      have defended : (0 : ℚ) ≤ max 0 first := le_max_left _ _
      linarith
    simp [mitigationRatio, none]
  · exact div_le_div_of_nonneg_left (mul_self_nonneg _) positive (by linarith)

theorem mitigationRatio_nonneg (attack defense : ℚ) : 0 ≤ mitigationRatio attack defense :=
  div_nonneg (mul_self_nonneg _) (add_nonneg (le_max_left _ _) (le_max_left _ _))

theorem mitigationRatio_le (attack defense : ℚ) : mitigationRatio attack defense ≤ max 0 attack := by
  have attacker : 0 ≤ max 0 attack := le_max_left _ _
  have defended : 0 ≤ max 0 defense := le_max_left _ _
  refine div_le_of_le_mul₀ (add_nonneg attacker defended) attacker ?_
  exact mul_le_mul_of_nonneg_left (by linarith) attacker

theorem roundedHit_le {first second : ℚ} (le : first ≤ second) :
    max 1 (⌊first⌋ : ℚ) ≤ max 1 (⌊second⌋ : ℚ) :=
  max_le_max le_rfl (Int.cast_le.mpr (Int.floor_le_floor le))

section Mitigation

variable {multiplier : ℚ}

theorem mitigateDamage_mono (scale : 0 ≤ multiplier) (defense : ℚ) :
    Monotone fun attack => mitigateDamage attack defense multiplier := by
  intro first second le
  simp only [mitigateDamage_eq]
  exact roundedHit_le (mul_le_mul_of_nonneg_right (mitigationRatio_mono defense le) scale)

theorem mitigateDamage_anti (scale : 0 ≤ multiplier) (attack : ℚ) :
    Antitone fun defense => mitigateDamage attack defense multiplier := by
  intro first second le
  simp only [mitigateDamage_eq]
  exact roundedHit_le (mul_le_mul_of_nonneg_right (mitigationRatio_anti attack le) scale)

theorem mitigateDamage_mono_multiplier (attack defense : ℚ) :
    Monotone fun multiplier => mitigateDamage attack defense multiplier := by
  intro first second le
  simp only [mitigateDamage_eq]
  exact roundedHit_le (mul_le_mul_of_nonneg_left le (mitigationRatio_nonneg attack defense))

theorem one_le_mitigateDamage (attack defense multiplier : ℚ) : 1 ≤ mitigateDamage attack defense multiplier :=
  le_max_left _ _

theorem mitigateDamage_le (scale : 0 ≤ multiplier) (attack defense : ℚ) :
    mitigateDamage attack defense multiplier ≤ max 1 (⌊max 0 attack * multiplier⌋ : ℚ) := by
  rw [mitigateDamage_eq]
  exact roundedHit_le (mul_le_mul_of_nonneg_right (mitigationRatio_le attack defense) scale)

end Mitigation

theorem applyResistance_nonneg (rawDamage resistance : ℚ) : 0 ≤ applyResistance rawDamage resistance :=
  le_max_left _ _

theorem exists_applyResistance (rawDamage resistance : ℚ) :
    ∃ amount : ℕ, applyResistance rawDamage resistance = amount := by
  refine ⟨⌊rawDamage * (1 - resistance)⌋.toNat, ?_⟩
  have cast : ((⌊rawDamage * (1 - resistance)⌋.toNat : ℤ) : ℚ) =
      ((max ⌊rawDamage * (1 - resistance)⌋ 0 : ℤ) : ℚ) := by
    rw [Int.toNat_eq_max]
  rw [Int.cast_natCast, Int.cast_max, Int.cast_zero, max_comm] at cast
  exact cast.symm

theorem resisted_le {first second : ℚ} (le : first ≤ second) : max 0 (⌊first⌋ : ℚ) ≤ max 0 (⌊second⌋ : ℚ) :=
  max_le_max le_rfl (Int.cast_le.mpr (Int.floor_le_floor le))

theorem applyResistance_mono {resistance : ℚ} (atMost : resistance ≤ 1) :
    Monotone fun rawDamage => applyResistance rawDamage resistance :=
  fun _ _ le => resisted_le (mul_le_mul_of_nonneg_right le (by linarith))

theorem applyResistance_anti {rawDamage : ℚ} (nonneg : 0 ≤ rawDamage) :
    Antitone fun resistance => applyResistance rawDamage resistance :=
  fun _ _ le => resisted_le (mul_le_mul_of_nonneg_left (by linarith) nonneg)

theorem applyEvasionDamage_mono (outcome : EvadeOutcome) :
    Monotone fun baseDamage => applyEvasionDamage baseDamage outcome := by
  have half : (0 : ℚ) ≤ EvasionConfig.glanceMultiplier := by decide +kernel
  intro first second le
  by_cases harmless : first ≤ 0
  · -- A harmless hit stays harmless, and no outcome makes damage negative.
    have nothing : applyEvasionDamage first outcome = 0 := if_pos (.inr harmless)
    dsimp only
    rw [nothing]
    unfold applyEvasionDamage
    split
    · exact le_rfl
    · rename_i hurts
      split
      · exact zero_le_one.trans (le_max_left _ _)
      · exact (not_le.mp fun none => hurts (.inr none)).le
  · have hurts : ¬second ≤ 0 := fun none => harmless (le.trans none)
    cases outcome with
    | normal => simpa [applyEvasionDamage, harmless, hurts] using le
    | glancing =>
      simp only [applyEvasionDamage, harmless, hurts, or_false, if_true]
      exact roundedHit_le (mul_le_mul_of_nonneg_right le half)
    | dodged => simp [applyEvasionDamage]

theorem applyEvasionDamage_anti (amount : ℕ) :
    Antitone fun outcome => applyEvasionDamage amount outcome := by
  have glancing : applyEvasionDamage amount .glancing ≤ applyEvasionDamage amount .normal := by
    rcases Nat.eq_zero_or_pos amount with rfl | positive
    · simp [applyEvasionDamage]
    · have one : (1 : ℚ) ≤ amount := by exact_mod_cast positive
      have hurts : ¬(amount : ℚ) ≤ 0 := by linarith
      simp only [applyEvasionDamage, hurts, or_false, if_false, if_true, reduceCtorEq]
      refine max_le one ((Int.floor_le _).trans ?_)
      have half : EvasionConfig.glanceMultiplier ≤ 1 := by decide +kernel
      exact mul_le_of_le_one_right (zero_le_one.trans one) half
  have dodged : applyEvasionDamage amount .dodged = 0 := if_pos (.inl rfl)
  have softened : (0 : ℚ) ≤ applyEvasionDamage amount .glancing := by
    unfold applyEvasionDamage
    split
    · exact le_rfl
    · exact zero_le_one.trans (le_max_left _ _)
  intro first second le
  dsimp only
  cases first <;> cases second <;> first
    | exact le_rfl
    | exact glancing
    | exact dodged ▸ softened
    | exact dodged ▸ softened.trans glancing
    | exact absurd le (by decide)

theorem exists_applyEvasionDamage (amount : ℕ) (outcome : EvadeOutcome) :
    ∃ dealt : ℕ, applyEvasionDamage amount outcome = dealt := by
  unfold applyEvasionDamage
  split
  · exact ⟨0, Nat.cast_zero.symm⟩
  · split
    · refine ⟨max 1 ⌊(amount : ℚ) * EvasionConfig.glanceMultiplier⌋.toNat, ?_⟩
      have nonneg : 0 ≤ ⌊(amount : ℚ) * EvasionConfig.glanceMultiplier⌋ :=
        Int.floor_nonneg.mpr (mul_nonneg (Nat.cast_nonneg _) (by decide +kernel))
      have cast : ((⌊(amount : ℚ) * EvasionConfig.glanceMultiplier⌋.toNat : ℤ) : ℚ) =
          ⌊(amount : ℚ) * EvasionConfig.glanceMultiplier⌋ := by
        rw [Int.toNat_of_nonneg nonneg]
      rw [Nat.cast_max, Nat.cast_one, ← cast, Int.cast_natCast]
    · exact ⟨amount, rfl⟩

theorem applyEvasionDamage_pos_iff {outcome : EvadeOutcome} (lands : outcome ≠ .dodged) (baseDamage : ℚ) :
    0 < applyEvasionDamage baseDamage outcome ↔ 0 < baseDamage := by
  by_cases harmless : baseDamage ≤ 0
  · simp [applyEvasionDamage, harmless, not_lt.mpr harmless]
  · cases outcome with
    | normal => simp [applyEvasionDamage, harmless]
    | glancing => simp [applyEvasionDamage, harmless, not_le.mp harmless]
    | dodged => exact absurd rfl lands

def dealt (attack defense multiplier resistance : ℚ) (outcome : EvadeOutcome) : ℚ :=
  applyEvasionDamage (applyResistance (mitigateDamage attack defense multiplier) resistance) outcome

/-- The damage dealt is a whole number that grows with the attack and the multiplier and shrinks with
the defense, the resistance and the outcome; a glancing hit hurts exactly when a normal one would. -/
theorem dealt_monotone {multiplier resistance : ℚ} (scale : 0 ≤ multiplier) (atMost : resistance ≤ 1)
    (attack defense : ℚ) (outcome : EvadeOutcome) :
    (∃ amount : ℕ, dealt attack defense multiplier resistance outcome = amount) ∧
      Monotone (fun attack => dealt attack defense multiplier resistance outcome) ∧
      Monotone (fun multiplier => dealt attack defense multiplier resistance outcome) ∧
      Antitone (fun defense => dealt attack defense multiplier resistance outcome) ∧
      Antitone (fun resistance => dealt attack defense multiplier resistance outcome) ∧
      Antitone (fun outcome => dealt attack defense multiplier resistance outcome) ∧
      1 ≤ mitigateDamage attack defense multiplier ∧
      mitigateDamage attack defense multiplier ≤ max 1 (⌊max 0 attack * multiplier⌋ : ℚ) ∧
      (0 < dealt attack defense multiplier resistance .glancing ↔
        0 < dealt attack defense multiplier resistance .normal) := by
  have evasion := applyEvasionDamage_mono outcome
  have lands := one_le_mitigateDamage attack defense multiplier
  obtain ⟨amount, whole⟩ := exists_applyResistance (mitigateDamage attack defense multiplier) resistance
  refine ⟨?_, ?_, ?_, ?_, ?_, ?_, lands, mitigateDamage_le scale attack defense, ?_⟩
  · rw [dealt, whole]
    exact exists_applyEvasionDamage amount outcome
  · exact evasion.comp ((applyResistance_mono atMost).comp (mitigateDamage_mono scale defense))
  · exact evasion.comp ((applyResistance_mono atMost).comp (mitigateDamage_mono_multiplier attack defense))
  · exact evasion.comp_antitone ((applyResistance_mono atMost).comp_antitone (mitigateDamage_anti scale attack))
  · exact evasion.comp_antitone (applyResistance_anti (zero_le_one.trans lands))
  · simp only [dealt, whole]
    exact applyEvasionDamage_anti amount
  · rw [dealt, dealt, applyEvasionDamage_pos_iff (by decide), applyEvasionDamage_pos_iff (by decide)]

/-- A fifth more attack against half a resistance, glancing. -/
theorem dealt_monotone_strike :
    dealt 10 10 1.1 0.5 .glancing ≤ dealt 12 10 1.1 0.5 .glancing ∧ dealt 12 10 1.1 0.5 .glancing = 1 :=
  ⟨(dealt_monotone (by norm_num) (by norm_num) 10 10 .glancing).2.1 (by norm_num), by decide +kernel⟩

end WalkingRpg

import WalkingRpg.Library.Rounding
import WalkingRpg.Models.Damage

/-! When a direct hit does damage at all, in exact and in double arithmetic.

The mitigation never goes below one, but the resistance is applied after it and rounds down. What
decides is whether the hit reaches the least whole number whose unresisted part is one.
-/

set_option autoImplicit false

namespace WalkingRpg

open Doubles (Rounding Representable)

section Rounded

variable (rounding : Rounding)

/-- `mitigateDamage`, with every operation rounded. -/
def mitigateDamageBy (attack defense multiplier : ℚ) : ℚ :=
  let atk := max 0 attack
  let dfn := max 0 defense
  let denom := rounding.round (atk + dfn)
  let raw := if denom = 0 then 0 else rounding.round (rounding.round (atk * atk) / denom)
  max 1 ⌊rounding.round (raw * multiplier)⌋

def applyResistanceBy (rawDamage resistance : ℚ) : ℚ :=
  max 0 ⌊rounding.round (rawDamage * rounding.round (1 - resistance))⌋

/-- The damage that `resolveAbility` returns for a direct ability. -/
def directDamageBy (attack defense multiplier resistance : ℚ) : ℚ :=
  applyResistanceBy rounding (mitigateDamageBy rounding attack defense multiplier) resistance

end Rounded

theorem damage_resolveAbility {ability : Ability} {damageMultiplier : ℚ} {damageType : DamageType}
    (direct : ability.primitive = .direct damageMultiplier damageType) (casterAttack targetDefense : ℚ)
    (targetResistances : Resistances) (casterMaxHp : ℚ) :
    (resolveAbility ability casterAttack targetDefense targetResistances casterMaxHp).damage =
      directDamageBy .exact casterAttack targetDefense damageMultiplier (targetResistances.get damageType) := by
  rw [resolveAbility, direct]
  rfl

theorem one_le_max_floor_iff (value : ℚ) : 1 ≤ max 0 (⌊value⌋ : ℚ) ↔ 1 ≤ value := by
  have floor : (1 : ℚ) ≤ ⌊value⌋ ↔ 1 ≤ value := by
    rw [← Int.cast_one, Int.cast_le, Int.le_floor]
  rw [le_max_iff, floor]
  exact ⟨fun reached => reached.resolve_left (by norm_num), .inr⟩

section Resistance

variable (rounding : Rounding) {resistance : ℚ} {hit : ℤ}

theorem one_le_round_of_share (representable : Representable resistance) (lands : 1 ≤ hit)
    (share : 1 ≤ hit * (1 - resistance)) : 1 ≤ rounding.round (hit * rounding.round (1 - resistance)) := by
  have positive : (1 : ℚ) ≤ hit := by exact_mod_cast lands
  refine rounding.one_le_round ?_
  rcases le_or_gt resistance 0 with vulnerable | resists
  · exact one_le_mul_of_one_le_of_one_le positive (rounding.one_le_round (by linarith))
  have two : (2 : ℚ) ≤ hit := by
    have one : hit ≠ 1 := by
      rintro rfl
      push_cast at share
      linarith
    exact_mod_cast (show 2 ≤ hit by omega)
  rcases le_or_gt resistance (1 / 2) with half | strong
  · have kept : 1 / 2 ≤ rounding.round (1 - resistance) := rounding.half_le_round (by linarith)
    nlinarith
  · -- The difference is a number of the format, so it is exact.
    have below : resistance < 1 := by nlinarith
    obtain ⟨count, small, difference⟩ := representable.one_sub strong below.le
    rw [difference, rounding.round_fraction small, ← difference]
    exact share

theorem share_of_one_le_round (representable : Representable resistance) (lands : 1 ≤ hit)
    (harms : 1 ≤ rounding.round (hit * rounding.round (1 - resistance))) :
    resistance < 1 / 2 ^ 53 ∨ 1 ≤ hit * (1 - resistance) := by
  have positive : (1 : ℚ) ≤ hit := by exact_mod_cast lands
  by_contra fails
  push Not at fails
  obtain ⟨noticeable, small⟩ := fails
  rcases le_or_gt resistance (1 / 2) with half | strong
  · -- Only a hit of one is that small, and the difference has already been rounded below one.
    have one : hit = 1 := by
      by_contra more
      have two : (2 : ℚ) ≤ hit := by exact_mod_cast (show 2 ≤ hit by omega)
      nlinarith
    have below : rounding.round (1 - resistance) ≤ 1 - 1 / 2 ^ 53 := rounding.round_le_pred (by linarith)
    rw [one, Int.cast_one, one_mul] at harms
    have again := harms.trans (rounding.round_le_pred below)
    norm_num at again
  · rcases le_or_gt 1 resistance with immune | below
    · have none : rounding.round (1 - resistance) ≤ 0 := rounding.round_zero ▸ rounding.mono (by linarith)
      have nothing : rounding.round (hit * rounding.round (1 - resistance)) ≤ 0 :=
        rounding.round_zero ▸ rounding.mono (mul_nonpos_of_nonneg_of_nonpos (by linarith) none)
      linarith
    · obtain ⟨count, bounded, difference⟩ := representable.one_sub strong below.le
      rw [difference, rounding.round_fraction bounded, ← mul_div_assoc] at harms
      rw [difference, ← mul_div_assoc, div_lt_one (by positivity)] at small
      -- The product is a multiple of the last place, too, and the largest one below one is kept.
      have last : hit * count ≤ 2 ^ 53 - 1 := by
        have whole : hit * count < 2 ^ 53 := by exact_mod_cast small
        omega
      have again := harms.trans (rounding.round_le_pred ?_)
      · norm_num at again
      · rw [div_le_iff₀ (by positivity), sub_mul, one_mul, div_mul_cancel₀ _ (by positivity)]
        exact_mod_cast last

end Resistance

section Mitigation

variable (rounding : Rounding) {value attack defense multiplier : ℚ}

theorem round_bounds_of_moderate (low : 1 / 2 ^ 200 ≤ value) (high : value ≤ 2 ^ 200) :
    value * (1 - 1 / 2 ^ 52) ≤ rounding.round value ∧ rounding.round value ≤ value * (1 + 1 / 2 ^ 52) :=
  rounding.round_bounds
    (le_trans (one_div_le_one_div_of_le (by positivity) (pow_le_pow_right₀ one_le_two (by norm_num))) low)
    (high.trans (pow_le_pow_right₀ one_le_two (by norm_num)))

/-- Stats that are far from overflow. -/
structure Moderate (attack defense multiplier : ℚ) : Prop where
  attack : attack ≤ 2 ^ 60
  defense : defense ≤ 2 ^ 60
  multiplier : multiplier ≤ 2 ^ 60

theorem quotient_bounds {error above below dividend divisor raw : ℚ} (atMost : error ≤ 1) (positive : 0 < divisor)
    (rawNonneg : 0 ≤ raw) (errorNonneg : 0 ≤ error)
    (dividendFrom : above * (1 - error) ≤ dividend) (dividendTo : dividend ≤ above * (1 + error))
    (divisorFrom : below * (1 - error) ≤ divisor) (divisorTo : divisor ≤ below * (1 + error))
    (rawFrom : dividend / divisor * (1 - error) ≤ raw) (rawTo : raw ≤ dividend / divisor * (1 + error)) :
    above * (1 - error) ^ 2 ≤ raw * below * (1 + error) ∧ raw * below * (1 - error) ≤ above * (1 + error) ^ 2 := by
  have cancelled (factor : ℚ) : dividend * factor = dividend / divisor * factor * divisor := by
    field_simp
  constructor
  · calc above * (1 - error) ^ 2 = above * (1 - error) * (1 - error) := by ring
      _ ≤ dividend * (1 - error) := mul_le_mul_of_nonneg_right dividendFrom (by linarith)
      _ = dividend / divisor * (1 - error) * divisor := cancelled _
      _ ≤ raw * divisor := mul_le_mul_of_nonneg_right rawFrom positive.le
      _ ≤ raw * (below * (1 + error)) := mul_le_mul_of_nonneg_left divisorTo rawNonneg
      _ = raw * below * (1 + error) := by ring
  · calc raw * below * (1 - error) = raw * (below * (1 - error)) := by ring
      _ ≤ raw * divisor := mul_le_mul_of_nonneg_left divisorFrom rawNonneg
      _ ≤ dividend / divisor * (1 + error) * divisor := mul_le_mul_of_nonneg_right rawTo positive.le
      _ = dividend * (1 + error) := (cancelled _).symm
      _ ≤ above * (1 + error) * (1 + error) := mul_le_mul_of_nonneg_right dividendTo (by linarith)
      _ = above * (1 + error) ^ 2 := by ring

theorem raw_bounds (attacks : 1 ≤ attack) (defends : 0 ≤ defense) (attackHigh : attack ≤ 2 ^ 60)
    (defenseHigh : defense ≤ 2 ^ 60) {raw : ℚ}
    (hit : raw = rounding.round (rounding.round (attack * attack) / rounding.round (attack + defense))) :
    0 ≤ raw ∧ raw ≤ 2 ^ 123 ∧
      attack * attack * (1 - 1 / 2 ^ 52) ^ 2 ≤ raw * (attack + defense) * (1 + 1 / 2 ^ 52) ∧
      raw * (attack + defense) * (1 - 1 / 2 ^ 52) ≤ attack * attack * (1 + 1 / 2 ^ 52) ^ 2 := by
  have squareLow : 1 ≤ attack * attack := one_le_mul_of_one_le_of_one_le attacks attacks
  have squareHigh : attack * attack ≤ 2 ^ 60 * 2 ^ 60 :=
    mul_le_mul attackHigh attackHigh (by linarith) (by positivity)
  obtain ⟨squareFrom, squareTo⟩ := round_bounds_of_moderate rounding
    (le_trans (by norm_num) squareLow) (squareHigh.trans (by norm_num))
  obtain ⟨sumFrom, sumTo⟩ := @round_bounds_of_moderate rounding (attack + defense)
    (le_trans (by norm_num) (by linarith : 1 ≤ attack + defense))
    (le_trans (by linarith : attack + defense ≤ 2 ^ 61) (by norm_num))
  have sumOne : 1 ≤ rounding.round (attack + defense) := rounding.one_le_round (by linarith)
  have squareOne : 1 ≤ rounding.round (attack * attack) := rounding.one_le_round squareLow
  generalize rounding.round (attack + defense) = sum at *
  generalize rounding.round (attack * attack) = square at *
  have sumPositive : 0 < sum := by linarith
  have quotientLow : 1 / 2 ^ 200 ≤ square / sum := by
    rw [div_le_div_iff₀ (by positivity) sumPositive]
    linarith
  have quotientHigh : square / sum ≤ 2 ^ 122 := by
    rw [div_le_iff₀ sumPositive]
    linarith
  obtain ⟨rawFrom, rawTo⟩ := round_bounds_of_moderate rounding quotientLow (quotientHigh.trans (by norm_num))
  have rawNonneg := rounding.round_nonneg (le_trans (by positivity) quotientLow)
  rw [← hit] at rawFrom rawTo rawNonneg
  refine ⟨rawNonneg, by linarith, ?_⟩
  exact quotient_bounds (by norm_num) sumPositive rawNonneg (by norm_num) squareFrom squareTo sumFrom sumTo rawFrom rawTo

theorem exists_mitigateDamageBy (attacks : 1 ≤ attack) (defends : 0 ≤ defense) (multiplier : ℚ) :
    ∃ hit : ℤ, mitigateDamageBy rounding attack defense multiplier = hit ∧ hit = max 1 ⌊rounding.round
      (rounding.round (rounding.round (attack * attack) / rounding.round (attack + defense)) * multiplier)⌋ := by
  have divides : rounding.round (attack + defense) ≠ 0 := by
    have one := rounding.one_le_round (by linarith : 1 ≤ attack + defense)
    linarith
  refine ⟨_, ?_, rfl⟩
  unfold mitigateDamageBy
  dsimp only
  rw [max_eq_right (by linarith : 0 ≤ attack), max_eq_right defends, if_neg divides]
  push_cast
  rfl

theorem round_margins (attacks : 1 ≤ attack) (defends : 0 ≤ defense) (scales : 0 < multiplier)
    (moderate : Moderate attack defense multiplier) {raw : ℚ}
    (hit : raw = rounding.round (rounding.round (attack * attack) / rounding.round (attack + defense)))
    {count : ℤ} (small : |count| ≤ 2 ^ 53) :
    (count * (attack + defense) * (1 + 1 / 2 ^ 50) ≤ multiplier * attack ^ 2 → 0 ≤ count →
      count ≤ rounding.round (raw * multiplier)) ∧
    (count ≤ rounding.round (raw * multiplier) → 2 ≤ count →
      count * (attack + defense) ≤ multiplier * attack ^ 2 * (1 + 1 / 2 ^ 49)) := by
  obtain ⟨rawNonneg, rawHigh, rawFrom, rawTo⟩ :=
    raw_bounds rounding attacks defends moderate.attack moderate.defense hit
  have total : 0 < attack + defense := by linarith
  refine ⟨fun reaches nonneg => ?_, fun reached two => ?_⟩
  · have product : 0 ≤ (count : ℚ) * (attack + defense) := mul_nonneg (by exact_mod_cast nonneg) total.le
    have enough : count * ((attack + defense) * (1 + 1 / 2 ^ 52)) ≤
        raw * multiplier * ((attack + defense) * (1 + 1 / 2 ^ 52)) :=
      calc count * ((attack + defense) * (1 + 1 / 2 ^ 52))
          = count * (attack + defense) * (1 + 1 / 2 ^ 52) := by ring
        _ ≤ count * (attack + defense) * ((1 + 1 / 2 ^ 50) * (1 - 1 / 2 ^ 52) ^ 2) :=
          mul_le_mul_of_nonneg_left (by norm_num) product
        _ = count * (attack + defense) * (1 + 1 / 2 ^ 50) * (1 - 1 / 2 ^ 52) ^ 2 := by ring
        _ ≤ multiplier * attack ^ 2 * (1 - 1 / 2 ^ 52) ^ 2 := mul_le_mul_of_nonneg_right reaches (by positivity)
        _ = attack * attack * (1 - 1 / 2 ^ 52) ^ 2 * multiplier := by ring
        _ ≤ raw * (attack + defense) * (1 + 1 / 2 ^ 52) * multiplier := mul_le_mul_of_nonneg_right rawFrom scales.le
        _ = raw * multiplier * ((attack + defense) * (1 + 1 / 2 ^ 52)) := by ring
    exact rounding.round_intCast small ▸ rounding.mono (le_of_mul_le_mul_right enough (by positivity))
  · have two : (2 : ℚ) ≤ count := by exact_mod_cast two
    -- A product below one would have been rounded to one at most.
    have one : 1 ≤ raw * multiplier := by
      by_contra below
      have rounded := rounding.mono (not_le.mp below).le
      rw [rounding.round_one] at rounded
      linarith
    have high : raw * multiplier ≤ 2 ^ 123 * 2 ^ 60 := mul_le_mul rawHigh moderate.multiplier scales.le (by positivity)
    obtain ⟨_, roundTo⟩ := round_bounds_of_moderate rounding (le_trans (by norm_num) one) (high.trans (by norm_num))
    have within : count * (attack + defense) * (1 - 1 / 2 ^ 52) ≤
        multiplier * attack ^ 2 * (1 + 1 / 2 ^ 49) * (1 - 1 / 2 ^ 52) :=
      calc count * (attack + defense) * (1 - 1 / 2 ^ 52)
          = count * ((attack + defense) * (1 - 1 / 2 ^ 52)) := by ring
        _ ≤ raw * multiplier * (1 + 1 / 2 ^ 52) * ((attack + defense) * (1 - 1 / 2 ^ 52)) :=
          mul_le_mul_of_nonneg_right (reached.trans roundTo) (mul_nonneg total.le (by norm_num))
        _ = raw * (attack + defense) * (1 - 1 / 2 ^ 52) * (multiplier * (1 + 1 / 2 ^ 52)) := by ring
        _ ≤ attack * attack * (1 + 1 / 2 ^ 52) ^ 2 * (multiplier * (1 + 1 / 2 ^ 52)) :=
          mul_le_mul_of_nonneg_right rawTo (by positivity)
        _ = multiplier * attack ^ 2 * (1 + 1 / 2 ^ 52) ^ 3 := by ring
        _ ≤ multiplier * attack ^ 2 * ((1 + 1 / 2 ^ 49) * (1 - 1 / 2 ^ 52)) :=
          mul_le_mul_of_nonneg_left (by norm_num) (by positivity)
        _ = multiplier * attack ^ 2 * (1 + 1 / 2 ^ 49) * (1 - 1 / 2 ^ 52) := by ring
    exact le_of_mul_le_mul_right within (by norm_num)

end Mitigation

theorem ceil_le_iff {resistance : ℚ} (below : resistance < 1) (hit : ℤ) :
    ⌈1 / (1 - resistance)⌉ ≤ hit ↔ 1 ≤ hit * (1 - resistance) := by
  rw [Int.ceil_le, div_le_iff₀ (by linarith)]

theorem two_le_ceil {resistance : ℚ} (resists : 0 < resistance) (below : resistance < 1) :
    2 ≤ ⌈1 / (1 - resistance)⌉ := by
  have more : 1 < ⌈1 / (1 - resistance)⌉ := by
    rw [Int.lt_ceil, Int.cast_one, lt_div_iff₀ (by linarith)]
    linarith
  omega

theorem ceil_le_of_representable {resistance : ℚ} (representable : Representable resistance)
    (below : resistance < 1) : ⌈1 / (1 - resistance)⌉ ≤ 2 ^ 53 := by
  rw [ceil_le_iff below]
  have room := representable.le_one_sub below
  rw [div_le_iff₀ (by positivity)] at room
  push_cast
  linarith

theorem le_max_one_floor_iff {count : ℤ} (two : 2 ≤ count) (value : ℚ) : count ≤ max 1 ⌊value⌋ ↔ count ≤ value := by
  rw [le_max_iff, Int.le_floor]
  exact ⟨fun reached => reached.resolve_left (by omega), .inr⟩

section Direct

variable {casterAttack targetDefense damageMultiplier resistance : ℚ}

theorem one_le_directDamage_iff (attacks : 1 ≤ casterAttack) (defends : 0 ≤ targetDefense)
    (damageMultiplier resistance : ℚ) :
    1 ≤ directDamageBy .exact casterAttack targetDefense damageMultiplier resistance ↔ resistance ≤ 0 ∨
      resistance < 1 ∧ ⌈1 / (1 - resistance)⌉ * (casterAttack + targetDefense) ≤ damageMultiplier * casterAttack ^ 2 := by
  obtain ⟨hit, mitigated, hits⟩ := exists_mitigateDamageBy .exact attacks defends damageMultiplier
  have total : 0 < casterAttack + targetDefense := by linarith
  have lands : (1 : ℚ) ≤ hit := by exact_mod_cast hits ▸ le_max_left 1 _
  have share : 1 ≤ directDamageBy .exact casterAttack targetDefense damageMultiplier resistance ↔
      1 ≤ hit * (1 - resistance) := by
    rw [directDamageBy, mitigated]
    exact one_le_max_floor_iff _
  rw [share]
  rcases le_or_gt resistance 0 with vulnerable | resists
  · exact iff_of_true (one_le_mul_of_one_le_of_one_le lands (by linarith)) (.inl vulnerable)
  rcases lt_or_ge resistance 1 with below | immune
  · have reached : (⌈1 / (1 - resistance)⌉ : ℚ) ≤
        casterAttack * casterAttack / (casterAttack + targetDefense) * damageMultiplier ↔
        ⌈1 / (1 - resistance)⌉ * (casterAttack + targetDefense) ≤ damageMultiplier * casterAttack ^ 2 := by
      rw [div_mul_eq_mul_div, le_div_iff₀ total, ← sq, mul_comm (casterAttack ^ 2)]
    rw [← ceil_le_iff below, hits, le_max_one_floor_iff (two_le_ceil resists below)]
    exact reached.trans ⟨fun reaches => .inr ⟨below, reaches⟩,
      fun condition => (condition.resolve_left (not_le.mpr resists)).2⟩
  · refine iff_of_false (not_le.mpr ?_) ?_
    · have none : (hit : ℚ) * (1 - resistance) ≤ 0 := mul_nonpos_of_nonneg_of_nonpos (by linarith) (by linarith)
      linarith
    · rintro (vulnerable | ⟨below, _⟩) <;> linarith

theorem one_le_directDamageBy (rounding : Rounding) (representable : Representable resistance)
    (attacks : 1 ≤ casterAttack) (defends : 0 ≤ targetDefense) (scales : 0 < damageMultiplier)
    (moderate : Moderate casterAttack targetDefense damageMultiplier)
    (reaches : resistance ≤ 0 ∨ resistance < 1 ∧
      ⌈1 / (1 - resistance)⌉ * (casterAttack + targetDefense) * (1 + 1 / 2 ^ 50) ≤ damageMultiplier * casterAttack ^ 2) :
    1 ≤ directDamageBy rounding casterAttack targetDefense damageMultiplier resistance := by
  obtain ⟨hit, mitigated, hits⟩ := exists_mitigateDamageBy rounding attacks defends damageMultiplier
  have lands : 1 ≤ hit := hits ▸ le_max_left 1 _
  rw [directDamageBy, mitigated, applyResistanceBy, one_le_max_floor_iff]
  refine one_le_round_of_share rounding representable lands ?_
  rcases le_or_gt resistance 0 with vulnerable | resists
  · exact one_le_mul_of_one_le_of_one_le (by exact_mod_cast lands) (by linarith)
  obtain ⟨below, reaches⟩ := reaches.resolve_left (not_le.mpr resists)
  have two := two_le_ceil resists below
  have small := ceil_le_of_representable representable below
  rw [← ceil_le_iff below, hits, le_max_one_floor_iff two]
  exact (round_margins rounding attacks defends scales moderate rfl (abs_le.mpr ⟨by omega, small⟩)).1 reaches (by omega)

theorem of_one_le_directDamageBy (rounding : Rounding) (representable : Representable resistance)
    (attacks : 1 ≤ casterAttack) (defends : 0 ≤ targetDefense) (scales : 0 < damageMultiplier)
    (moderate : Moderate casterAttack targetDefense damageMultiplier)
    (harms : 1 ≤ directDamageBy rounding casterAttack targetDefense damageMultiplier resistance) :
    resistance < 1 / 2 ^ 53 ∨ resistance < 1 ∧
      ⌈1 / (1 - resistance)⌉ * (casterAttack + targetDefense) ≤
        damageMultiplier * casterAttack ^ 2 * (1 + 1 / 2 ^ 49) := by
  obtain ⟨hit, mitigated, hits⟩ := exists_mitigateDamageBy rounding attacks defends damageMultiplier
  have lands : 1 ≤ hit := hits ▸ le_max_left 1 _
  rw [directDamageBy, mitigated, applyResistanceBy, one_le_max_floor_iff] at harms
  rcases share_of_one_le_round rounding representable lands harms with tiny | share
  · exact .inl tiny
  rcases le_or_gt resistance 0 with vulnerable | resists
  · exact .inl (vulnerable.trans_lt (by positivity))
  have below : resistance < 1 := by
    by_contra immune
    have positive : (1 : ℚ) ≤ hit := by exact_mod_cast lands
    nlinarith
  have two := two_le_ceil resists below
  have small := ceil_le_of_representable representable below
  rw [← ceil_le_iff below, hits, le_max_one_floor_iff two] at share
  exact .inr ⟨below,
    (round_margins rounding attacks defends scales moderate rfl (abs_le.mpr ⟨by omega, small⟩)).2 share two⟩

end Direct

/-- A direct ability does damage exactly when the target does not resist, or resists less than all of it and
the attack, squared and multiplied, reaches attack and defense times the least whole number whose
unresisted part is one. In double arithmetic the same holds up to a relative margin, or up to a resistance
that rounding does not notice. An immune target is never harmed. -/
theorem resolveAbility_harms_iff {ability : Ability} {damageMultiplier : ℚ} {damageType : DamageType}
    (direct : ability.primitive = .direct damageMultiplier damageType) {casterAttack targetDefense : ℚ}
    (attacks : 1 ≤ casterAttack) (defends : 0 ≤ targetDefense) (scales : 0 < damageMultiplier)
    (targetResistances : Resistances) (casterMaxHp : ℚ) :
    let resistance := targetResistances.get damageType
    let damage := (resolveAbility ability casterAttack targetDefense targetResistances casterMaxHp).damage
    let needed := ⌈1 / (1 - resistance)⌉ * (casterAttack + targetDefense)
    (1 ≤ damage ↔ resistance ≤ 0 ∨ resistance < 1 ∧ needed ≤ damageMultiplier * casterAttack ^ 2) ∧
    (resistance = 1 → damage = 0) ∧
    ∀ rounding, Representable resistance → Moderate casterAttack targetDefense damageMultiplier →
      let rounded := directDamageBy rounding casterAttack targetDefense damageMultiplier resistance
      (resistance ≤ 0 ∨ resistance < 1 ∧ needed * (1 + 1 / 2 ^ 50) ≤ damageMultiplier * casterAttack ^ 2 →
        1 ≤ rounded) ∧
      (1 ≤ rounded → resistance < 1 / 2 ^ 53 ∨
        resistance < 1 ∧ needed ≤ damageMultiplier * casterAttack ^ 2 * (1 + 1 / 2 ^ 49)) ∧
      (resistance = 1 → rounded = 0) := by
  intro resistance damage needed
  have exact : damage = directDamageBy .exact casterAttack targetDefense damageMultiplier resistance :=
    damage_resolveAbility direct casterAttack targetDefense targetResistances casterMaxHp
  have immune (rounding : Rounding) (all : resistance = 1) :
      directDamageBy rounding casterAttack targetDefense damageMultiplier resistance = 0 := by
    simp [directDamageBy, applyResistanceBy, all]
  refine ⟨?_, fun all => exact.trans (immune .exact all), fun rounding representable moderate => ⟨?_, ?_, immune rounding⟩⟩
  · rw [exact]
    exact one_le_directDamage_iff attacks defends damageMultiplier resistance
  · exact one_le_directDamageBy rounding representable attacks defends scales moderate
  · exact of_one_le_directDamageBy rounding representable attacks defends scales moderate

def frostBolt : Ability := ⟨"frost_bolt", "Frost Bolt", 20, .direct 1.3 .frost⟩

def unbothered : Resistances := SomeResistances.orDefault (some { frost := some 0.25 })

theorem resolveAbility_harms_iff_frostBolt :
    1 ≤ (resolveAbility frostBolt 20 8 unbothered 100).damage ∧ 1 ≤ directDamageBy .nearest 20 8 1.3 0.25 := by
  have harms := @resolveAbility_harms_iff frostBolt 1.3 .frost rfl 20 8 (by norm_num) (by norm_num) (by norm_num)
    unbothered 100
  have quarter : unbothered.get .frost = 0.25 := rfl
  simp only [quarter] at harms
  have needed : ⌈1 / (1 - 0.25 : ℚ)⌉ = 2 := by decide +kernel
  refine ⟨harms.1.mpr (.inr ⟨by norm_num, by rw [needed]; norm_num⟩), ?_⟩
  refine (harms.2.2 .nearest ⟨1, -2, by norm_num, by norm_num, by norm_num⟩ ⟨by norm_num, by norm_num, by norm_num⟩).1
    (.inr ⟨by norm_num, by rw [needed]; norm_num⟩)

def quickSlash : Ability := ⟨"quick_slash", "Quick Slash", 0, .direct 0.85 .physical⟩

def barkskin : Resistances := SomeResistances.orDefault (some { physical := some 0.2, fire := some (-0.25) })

/-- An attack of 5 is mitigated to one point, and a fifth of resistance takes all of it. -/
theorem quickSlash_barkskin_harmless :
    quickSlash ∈ archetypeAbilities .agile ∧ barkskin.get .physical < 1 ∧
      mitigateDamage 5 15 0.85 = 1 ∧ (resolveAbility quickSlash 5 15 barkskin 100).damage = 0 := by
  decide +kernel

/-- The double next to nine tenths is above it, so that ten points leave nothing. -/
example : directDamageBy .nearest 20 20 1 (Doubles.nearestEven 0.9) = 0 ∧
    directDamageBy .exact 20 20 1 0.9 = 1 := by
  decide +kernel

end WalkingRpg

import Mathlib.Algebra.Order.Field.Power
import Mathlib.Data.Int.Log
import Mathlib.Data.Rat.Floor
import Mathlib.Tactic.Linarith
import Mathlib.Tactic.NormNum
import Mathlib.Tactic.Positivity
import Mathlib.Tactic.Ring

/-! Arithmetic in double precision.

Every operation is exact and then rounded. A rounding is only asked to be monotone and to keep the numbers
of the format, so exact arithmetic is one as well; away from underflow and overflow it moves a number by at
most one unit in the last place. Rounding to nearest, ties to even, is the one that machines use.
-/

set_option autoImplicit false

namespace Doubles

/-- A number with at most 53 binary digits, none of them below the last subnormal place. -/
def Representable (value : ℚ) : Prop :=
  ∃ significand exponent : ℤ, |significand| ≤ 2 ^ 53 ∧ -1074 ≤ exponent ∧ value = significand * 2 ^ exponent

/-- What happens beyond the largest number of the format is left open. -/
structure Rounding where
  round : ℚ → ℚ
  mono : Monotone round
  keeps : ∀ value, Representable value → |value| ≤ 2 ^ 1023 → round value = value

theorem representable_intCast {value : ℤ} (small : |value| ≤ 2 ^ 53) : Representable value :=
  ⟨value, 0, small, by norm_num, by simp⟩

theorem representable_fraction {count : ℤ} (small : |count| ≤ 2 ^ 53) : Representable (count / 2 ^ 53) :=
  ⟨count, -53, small, by norm_num, by rw [zpow_neg, div_eq_mul_inv]; norm_cast⟩

theorem Representable.fraction_or_le {value : ℚ} (representable : Representable value) :
    (∃ count : ℤ, value = count / 2 ^ 53) ∨ value ≤ 1 / 2 := by
  obtain ⟨significand, exponent, small, _, rfl⟩ := representable
  rcases le_or_gt (-53) exponent with coarse | fine
  · obtain ⟨shift, rfl⟩ := Int.le.dest coarse
    refine .inl ⟨significand * 2 ^ shift, ?_⟩
    rw [zpow_add₀ two_ne_zero, zpow_neg, zpow_natCast]
    push_cast
    field_simp
    norm_num
  · right
    have bound : (significand : ℚ) ≤ 2 ^ 53 := by exact_mod_cast (le_abs_self significand).trans small
    have place : (2 : ℚ) ^ exponent ≤ 2 ^ (-54 : ℤ) := zpow_le_zpow_right₀ (by norm_num) (by omega)
    calc (significand : ℚ) * 2 ^ exponent ≤ 2 ^ 53 * 2 ^ exponent := by gcongr
      _ ≤ 2 ^ 53 * 2 ^ (-54 : ℤ) := by gcongr
      _ = 1 / 2 := by norm_num

theorem Representable.one_sub {value : ℚ} (representable : Representable value) (above : 1 / 2 < value)
    (atMost : value ≤ 1) : ∃ count : ℤ, |count| ≤ 2 ^ 53 ∧ 1 - value = count / 2 ^ 53 := by
  rcases representable.fraction_or_le with ⟨count, rfl⟩ | half
  · rw [div_le_one (by positivity)] at atMost
    have bounds : 0 ≤ count ∧ count ≤ 2 ^ 53 := by
      refine ⟨?_, by exact_mod_cast atMost⟩
      by_contra negative
      have cast : (count : ℚ) < 0 := by exact_mod_cast not_le.mp negative
      exact absurd (div_neg_of_neg_of_pos cast (by positivity : (0 : ℚ) < 2 ^ 53)) (by linarith)
    refine ⟨2 ^ 53 - count, abs_le.mpr ⟨by omega, by omega⟩, ?_⟩
    rw [Int.cast_sub, sub_div]
    norm_num
  · exact absurd half (not_le.mpr above)

theorem Representable.le_one_sub {value : ℚ} (representable : Representable value) (below : value < 1) :
    1 / 2 ^ 53 ≤ 1 - value := by
  rcases le_or_gt value (1 / 2) with half | above
  · exact le_trans (by norm_num) (by linarith : 1 / 2 ≤ 1 - value)
  · obtain ⟨count, _, distance⟩ := representable.one_sub above below.le
    have positive : 0 < (count : ℚ) / 2 ^ 53 := by linarith
    rw [distance]
    have one : 1 ≤ count := by exact_mod_cast (div_pos_iff_of_pos_right (by positivity)).mp positive
    exact div_le_div_of_nonneg_right (by exact_mod_cast one) (by positivity)

namespace Rounding

variable (rounding : Rounding)

def exact : Rounding := ⟨id, monotone_id, fun _ _ _ => rfl⟩

theorem round_intCast {value : ℤ} (small : |value| ≤ 2 ^ 53) : rounding.round value = value := by
  refine rounding.keeps _ (representable_intCast small) ?_
  have bound : |(value : ℚ)| ≤ 2 ^ 53 := by exact_mod_cast small
  exact bound.trans (pow_le_pow_right₀ one_le_two (by norm_num))

@[simp] theorem round_zero : rounding.round 0 = 0 := by
  simpa using @round_intCast rounding 0 (by norm_num)

@[simp] theorem round_one : rounding.round 1 = 1 := by
  simpa using @round_intCast rounding 1 (by norm_num)

theorem round_fraction {count : ℤ} (small : |count| ≤ 2 ^ 53) : rounding.round (count / 2 ^ 53) = count / 2 ^ 53 := by
  refine rounding.keeps _ (representable_fraction small) ?_
  have bound : |(count : ℚ)| ≤ 2 ^ 53 := by exact_mod_cast small
  rw [abs_div, abs_of_pos (by positivity : (0 : ℚ) < 2 ^ 53)]
  exact (div_le_one_of_le₀ bound (by positivity)).trans (one_le_pow₀ one_le_two)

theorem round_nonneg {value : ℚ} (nonneg : 0 ≤ value) : 0 ≤ rounding.round value :=
  rounding.round_zero ▸ rounding.mono nonneg

theorem one_le_round {value : ℚ} (large : 1 ≤ value) : 1 ≤ rounding.round value :=
  rounding.round_one ▸ rounding.mono large

theorem half_le_round {value : ℚ} (large : 1 / 2 ≤ value) : 1 / 2 ≤ rounding.round value := by
  have kept := @round_fraction rounding (2 ^ 52) (by norm_num)
  rw [show ((2 ^ 52 : ℤ) : ℚ) / 2 ^ 53 = 1 / 2 by norm_num] at kept
  exact kept ▸ rounding.mono large

theorem round_le_pred {value : ℚ} (small : value ≤ 1 - 1 / 2 ^ 53) : rounding.round value ≤ 1 - 1 / 2 ^ 53 := by
  have kept := @round_fraction rounding (2 ^ 53 - 1) (by norm_num)
  rw [show ((2 ^ 53 - 1 : ℤ) : ℚ) / 2 ^ 53 = 1 - 1 / 2 ^ 53 by norm_num] at kept
  exact kept ▸ rounding.mono small

end Rounding

/-- The exponent of the last binary place of a number. -/
def lastPlace (value : ℚ) : ℤ := max (Int.log 2 |value| - 52) (-1074)

theorem abs_lt_lastPlace (value : ℚ) : |value| < 2 ^ 53 * 2 ^ lastPlace value := by
  have above := Int.lt_zpow_succ_log_self one_lt_two |value|
  have place : Int.log 2 |value| + 1 ≤ 53 + lastPlace value := by
    unfold lastPlace
    omega
  calc |value| < 2 ^ (Int.log 2 |value| + 1) := by exact_mod_cast above
    _ ≤ 2 ^ (53 + lastPlace value) := zpow_le_zpow_right₀ (by norm_num) place
    _ = 2 ^ 53 * 2 ^ lastPlace value := by rw [zpow_add₀ two_ne_zero]; norm_cast

theorem lastPlace_le_abs {value : ℚ} (nonzero : value ≠ 0) (normal : -1022 ≤ Int.log 2 |value|) :
    2 ^ 52 * 2 ^ lastPlace value ≤ |value| := by
  have below := Int.zpow_log_le_self one_lt_two (abs_pos.mpr nonzero)
  have place : 52 + lastPlace value = Int.log 2 |value| := by
    unfold lastPlace
    omega
  calc 2 ^ 52 * 2 ^ lastPlace value = (2 : ℚ) ^ (52 + lastPlace value) := by
        rw [zpow_add₀ two_ne_zero]; norm_cast
    _ ≤ |value| := by rw [place]; exact_mod_cast below

theorem representable_lastPlace (value : ℚ) {count : ℤ} (small : |count| ≤ 2 ^ 53) :
    Representable (count * 2 ^ lastPlace value) :=
  ⟨count, lastPlace value, small, le_max_right _ _, rfl⟩

theorem Rounding.round_bounds (rounding : Rounding) {value : ℚ} (normal : 1 / 2 ^ 1022 ≤ value)
    (finite : value ≤ 2 ^ 1022) :
    value * (1 - 1 / 2 ^ 52) ≤ rounding.round value ∧ rounding.round value ≤ value * (1 + 1 / 2 ^ 52) := by
  have positive : 0 < value := lt_of_lt_of_le (by positivity) normal
  have same : |value| = value := abs_of_pos positive
  have unit : (0 : ℚ) < 2 ^ lastPlace value := by positivity
  have share : 2 ^ 52 * 2 ^ lastPlace value ≤ value := by
    have place : -1022 ≤ Int.log 2 |value| := by
      rw [same]
      refine (Int.zpow_le_iff_le_log one_lt_two positive).mp ?_
      rw [zpow_neg, zpow_ofNat, ← one_div, Nat.cast_ofNat]
      exact normal
    exact (lastPlace_le_abs positive.ne' place).trans same.le
  -- The two neighbours in the format, between which the number is rounded.
  let count := ⌊value / 2 ^ lastPlace value⌋
  have countNonneg : 0 ≤ count := Int.floor_nonneg.mpr (by positivity)
  have countLt : count < 2 ^ 53 := by
    refine Int.floor_lt.mpr ?_
    rw [div_lt_iff₀ unit]
    exact_mod_cast same ▸ abs_lt_lastPlace value
  have lower : count * 2 ^ lastPlace value ≤ value := by
    rw [← le_div_iff₀ unit]
    exact Int.floor_le _
  have upper : value ≤ ((count + 1 : ℤ) : ℚ) * 2 ^ lastPlace value := by
    rw [← div_le_iff₀ unit]
    push_cast
    exact (Int.lt_floor_add_one _).le
  have step : ((count + 1 : ℤ) : ℚ) * 2 ^ lastPlace value = count * 2 ^ lastPlace value + 2 ^ lastPlace value := by
    push_cast
    ring
  have range : 2 * value ≤ 2 ^ 1023 := by
    rw [pow_succ']
    exact mul_le_mul_of_nonneg_left finite zero_le_two
  have lowerNonneg : 0 ≤ (count : ℚ) * 2 ^ lastPlace value :=
    mul_nonneg (by exact_mod_cast countNonneg) unit.le
  have keptLower : rounding.round (count * 2 ^ lastPlace value) = count * 2 ^ lastPlace value := by
    refine rounding.keeps _ (representable_lastPlace value (abs_le.mpr ⟨by omega, by omega⟩)) ?_
    rw [abs_of_nonneg lowerNonneg]
    exact le_trans (by linarith only [lower, positive]) range
  have keptUpper : rounding.round (((count + 1 : ℤ) : ℚ) * 2 ^ lastPlace value) =
      ((count + 1 : ℤ) : ℚ) * 2 ^ lastPlace value := by
    refine rounding.keeps _ (representable_lastPlace value (abs_le.mpr ⟨by omega, by omega⟩)) ?_
    rw [abs_of_nonneg (by linarith only [upper, positive]), step]
    exact le_trans (by linarith only [lower, share, unit]) range
  constructor
  · calc value * (1 - 1 / 2 ^ 52) ≤ count * 2 ^ lastPlace value := by linarith
      _ = rounding.round (count * 2 ^ lastPlace value) := keptLower.symm
      _ ≤ rounding.round value := rounding.mono lower
  · calc rounding.round value ≤ rounding.round (((count + 1 : ℤ) : ℚ) * 2 ^ lastPlace value) := rounding.mono upper
      _ = ((count + 1 : ℤ) : ℚ) * 2 ^ lastPlace value := keptUpper
      _ ≤ value * (1 + 1 / 2 ^ 52) := by rw [step]; linarith

def roundEven (value : ℚ) : ℤ :=
  if 2 * Int.fract value < 1 ∨ 2 * Int.fract value = 1 ∧ Even ⌊value⌋ then ⌊value⌋ else ⌊value⌋ + 1

theorem abs_sub_roundEven_le (value : ℚ) (other : ℤ) : |value - roundEven value| ≤ |value - other| := by
  have split := Int.floor_add_fract value
  have nonneg := Int.fract_nonneg value
  have below := Int.fract_lt_one value
  -- The distance to an integer on either side is at least that to the next one there.
  have far : Int.fract value ≤ |value - other| ∨ 1 - Int.fract value ≤ |value - other| := by
    rcases le_or_gt other ⌊value⌋ with left | right
    · have cast : (other : ℚ) ≤ ⌊value⌋ := by exact_mod_cast left
      exact .inl ((by linarith : Int.fract value ≤ value - other).trans (le_abs_self _))
    · have cast : (⌊value⌋ : ℚ) + 1 ≤ other := by exact_mod_cast right
      exact .inr ((by linarith : 1 - Int.fract value ≤ -(value - other)).trans (neg_le_abs _))
  unfold roundEven
  split_ifs with down
  · have half : 2 * Int.fract value ≤ 1 := by
      rcases down with less | ⟨tie, _⟩
      · exact less.le
      · exact tie.le
    rw [abs_of_nonneg (by linarith)]
    rcases far with far | far <;> linarith
  · have half : 1 ≤ 2 * Int.fract value := not_lt.mp fun less => down (.inl less)
    push_cast
    rw [abs_of_nonpos (by linarith)]
    rcases far with far | far <;> linarith

def nearestEven (value : ℚ) : ℚ := roundEven (value / 2 ^ lastPlace value) * 2 ^ lastPlace value

theorem representable_nearestEven (value : ℚ) : Representable (nearestEven value) := by
  have unit : (0 : ℚ) < 2 ^ lastPlace value := by positivity
  have small : |value / 2 ^ lastPlace value| < 2 ^ 53 := by
    rw [abs_div, abs_of_pos unit, div_lt_iff₀ unit]
    exact abs_lt_lastPlace value
  obtain ⟨above, below⟩ := abs_lt.mp small
  refine representable_lastPlace value ?_
  generalize value / 2 ^ lastPlace value = scaled at *
  -- Beyond a bound of the scaled number the bound itself is nearer.
  refine abs_le.mpr ⟨?_, ?_⟩
  · by_contra beyond
    have cast : (roundEven scaled : ℚ) + 1 ≤ -2 ^ 53 := by exact_mod_cast not_le.mp beyond
    have nearer := abs_sub_roundEven_le scaled (-2 ^ 53)
    push_cast at nearer
    rw [abs_of_nonneg (by linarith), abs_of_nonneg (by linarith)] at nearer
    linarith
  · by_contra beyond
    have cast : (2 : ℚ) ^ 53 + 1 ≤ roundEven scaled := by exact_mod_cast not_le.mp beyond
    have nearer := abs_sub_roundEven_le scaled (2 ^ 53)
    push_cast at nearer
    rw [abs_of_nonpos (by linarith), abs_of_nonpos (by linarith)] at nearer
    linarith

theorem abs_sub_nearestEven_le_multiple (value : ℚ) (count : ℤ) :
    |value - nearestEven value| ≤ |value - count * 2 ^ lastPlace value| := by
  have unit : (0 : ℚ) < 2 ^ lastPlace value := by positivity
  have scale (other : ℤ) : |value - other * 2 ^ lastPlace value| =
      |value / 2 ^ lastPlace value - other| * 2 ^ lastPlace value := by
    rw [← abs_of_pos unit, ← abs_mul, abs_of_pos unit, sub_mul, div_mul_cancel₀ _ unit.ne']
  rw [nearestEven, scale, scale]
  exact mul_le_mul_of_nonneg_right (abs_sub_roundEven_le _ _) unit.le

theorem abs_sub_nearestEven_le (value : ℚ) {other : ℚ} (representable : Representable other) :
    |value - nearestEven value| ≤ |value - other| := by
  obtain ⟨significand, exponent, small, least, rfl⟩ := representable
  rcases le_or_gt (lastPlace value) exponent with coarse | fine
  · -- A number with a higher last place is a multiple of the last place of the value.
    obtain ⟨shift, rfl⟩ := Int.le.dest coarse
    have multiple := abs_sub_nearestEven_le_multiple value (significand * 2 ^ shift)
    rw [zpow_add₀ two_ne_zero, zpow_natCast]
    push_cast at multiple
    rwa [mul_assoc, mul_comm (2 ^ shift : ℚ)] at multiple
  · -- One with a lower last place is smaller than the value, with the least number of as many digits between.
    rcases eq_or_ne value 0 with rfl | nonzero
    · have none := abs_sub_nearestEven_le_multiple 0 0
      rw [Int.cast_zero, zero_mul, sub_zero, abs_zero] at none
      exact none.trans (abs_nonneg _)
    have share : 2 ^ 52 * 2 ^ lastPlace value ≤ |value| := by
      refine lastPlace_le_abs nonzero ?_
      unfold lastPlace at fine
      omega
    have smaller : |(significand : ℚ) * 2 ^ exponent| ≤ 2 ^ 52 * 2 ^ lastPlace value := by
      have bound : |(significand : ℚ)| ≤ 2 ^ 53 := by exact_mod_cast small
      have place : (2 : ℚ) ^ exponent ≤ 2 ^ (lastPlace value - 1) := zpow_le_zpow_right₀ one_le_two (by omega)
      rw [abs_mul, abs_of_pos (by positivity : (0 : ℚ) < 2 ^ exponent)]
      calc |(significand : ℚ)| * 2 ^ exponent ≤ 2 ^ 53 * 2 ^ (lastPlace value - 1) := by gcongr
        _ = 2 ^ 52 * 2 ^ lastPlace value := by rw [zpow_sub_one₀ two_ne_zero]; ring
    obtain ⟨above, below⟩ := abs_le.mp smaller
    rcases lt_or_gt_of_ne nonzero with negative | positive
    · rw [abs_of_neg negative] at share
      refine (abs_sub_nearestEven_le_multiple value (-2 ^ 52)).trans ?_
      push_cast
      rw [abs_of_nonpos (by linarith)]
      exact le_trans (by linarith) (neg_le_abs _)
    · rw [abs_of_pos positive] at share
      refine (abs_sub_nearestEven_le_multiple value (2 ^ 52)).trans ?_
      push_cast
      rw [abs_of_nonneg (by linarith)]
      exact le_trans (by linarith) (le_abs_self _)

theorem monotone_nearestEven : Monotone nearestEven := by
  intro first second le
  rcases le.eq_or_lt with rfl | less
  · exact le_rfl
  by_contra inverted
  -- Each of the two results would be at most as near as the other, which puts the values in the wrong order.
  have firstNearest := abs_sub_nearestEven_le first (representable_nearestEven second)
  have secondNearest := abs_sub_nearestEven_le second (representable_nearestEven first)
  have order := not_le.mp inverted
  rw [← sq_le_sq₀ (abs_nonneg _) (abs_nonneg _), sq_abs, sq_abs] at firstNearest secondNearest
  nlinarith

def Rounding.nearest : Rounding where
  round := nearestEven
  mono := monotone_nearestEven
  keeps value representable _ := by
    have none := abs_sub_nearestEven_le value representable
    rw [sub_self, abs_zero, abs_nonpos_iff, sub_eq_zero] at none
    exact none.symm

end Doubles

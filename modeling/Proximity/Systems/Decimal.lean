import Mathlib.Algebra.Order.Floor.Ring
import Mathlib.Algebra.Order.Round
import Mathlib.Data.Rat.Floor
import Mathlib.Tactic.Linarith

/-!
# Rounding to decimals

A number is rounded to the nearest multiple of `1 / scale`, halves away from zero.
-/

namespace Proximity.Systems

/-- The multiple of `1 / scale` below or at half a step above the magnitude. -/
def roundMagnitude (scale : ℕ) (magnitude : ℚ) : ℚ := ⌊magnitude * scale + 1 / 2⌋ / scale

def roundTo (scale : ℕ) (number : ℚ) : ℚ :=
  if 0 ≤ number then roundMagnitude scale number else -roundMagnitude scale (-number)

theorem abs_roundMagnitude_sub_le {scale : ℕ} (positive : 0 < scale) (magnitude : ℚ) :
    |roundMagnitude scale magnitude - magnitude| ≤ 1 / (2 * scale) := by
  have scale_positive : (0 : ℚ) < scale := by exact_mod_cast positive
  have below := Int.floor_le (magnitude * scale + 1 / 2)
  have above := Int.lt_floor_add_one (magnitude * scale + 1 / 2)
  have difference : roundMagnitude scale magnitude - magnitude =
      (⌊magnitude * scale + 1 / 2⌋ - magnitude * scale) / scale := by
    unfold roundMagnitude
    rw [sub_div, mul_div_cancel_right₀ magnitude scale_positive.ne']
  rw [difference, abs_div, abs_of_pos scale_positive, ← div_div, div_le_div_iff_of_pos_right
    scale_positive, abs_le]
  constructor
  · linarith
  · linarith

/-- Rounding moves a number by at most half a step. -/
theorem abs_roundTo_sub_le {scale : ℕ} (positive : 0 < scale) (number : ℚ) :
    |roundTo scale number - number| ≤ 1 / (2 * scale) := by
  unfold roundTo
  split
  case isTrue => exact abs_roundMagnitude_sub_le positive number
  case isFalse =>
      rw [← abs_neg, neg_sub, sub_neg_eq_add, add_comm, ← sub_neg_eq_add]
      exact abs_roundMagnitude_sub_le positive (-number)

/-- Numbers that round to the same decimals are at most a step apart. -/
theorem abs_sub_le_of_roundTo_eq {scale : ℕ} (positive : 0 < scale) {first second : ℚ}
    (same : roundTo scale first = roundTo scale second) : |first - second| ≤ 1 / scale := by
  have left := abs_roundTo_sub_le positive first
  have right := abs_roundTo_sub_le positive second
  have halves : (1 : ℚ) / scale = 1 / (2 * scale) + 1 / (2 * scale) := by
    rw [← add_div, ← mul_div_mul_left 1 (scale : ℚ) two_ne_zero]
    norm_num
  calc |first - second|
      = |(roundTo scale second - second) - (roundTo scale first - first)| := by
        rw [same]
        congr 1
        ring
    _ ≤ |roundTo scale second - second| + |roundTo scale first - first| := abs_sub _ _
    _ ≤ 1 / (2 * scale) + 1 / (2 * scale) := add_le_add right left
    _ = 1 / scale := halves.symm

end Proximity.Systems

import Mathlib.Algebra.Order.Group.Unbundled.Int
import Mathlib.Tactic.Linarith

/-! Exponential smoothing of integers with weight one quarter and truncating division.
Truncation never leaves the range of the values, and it costs the smoothed differences
of neighbouring values only a constant against the smoothed values themselves. -/

namespace Cutout.Library

/-- One step from the mean towards a value. -/
def smooth (mean value : ℤ) : ℤ := mean + (value - mean).tdiv 4

theorem tdiv_four (a : ℤ) : a - 3 ≤ 4 * a.tdiv 4 ∧ 4 * a.tdiv 4 ≤ a + 3 ∧ (0 ≤ a → 0 ≤ a.tdiv 4 ∧ 4 * a.tdiv 4 ≤ a) ∧
    (a ≤ 0 → a.tdiv 4 ≤ 0 ∧ a ≤ 4 * a.tdiv 4) := by
  rcases le_total 0 a with positive | negative
  · rw [Int.tdiv_eq_ediv_of_nonneg positive]
    omega
  · have mirrored : a.tdiv 4 = -(-a / 4) := by
      rw [← Int.tdiv_eq_ediv_of_nonneg (by omega), Int.neg_tdiv, neg_neg]
    rw [mirrored]
    omega

theorem smooth_between {low high mean value : ℤ} (mean_low : low ≤ mean) (mean_high : mean ≤ high) (value_low : low ≤ value)
    (value_high : value ≤ high) : low ≤ smooth mean value ∧ smooth mean value ≤ high := by
  obtain ⟨-, -, up, down⟩ := tdiv_four (value - mean)
  unfold smooth
  omega

theorem smooth_near (mean value : ℤ) : 3 * mean + value - 3 ≤ 4 * smooth mean value ∧
    4 * smooth mean value ≤ 3 * mean + value + 3 := by
  obtain ⟨above, below, -, -⟩ := tdiv_four (value - mean)
  unfold smooth
  omega

structure Smoothing where
  mean : ℤ
  spread : ℤ
  last : ℤ
  deriving Repr, DecidableEq

namespace Smoothing

def start (value : ℤ) : Smoothing := ⟨value, 0, value⟩

def follow (smoothing : Smoothing) (value : ℤ) : Smoothing :=
  ⟨smooth smoothing.mean value, smooth smoothing.spread |value - smoothing.last|, value⟩

/-- Where smoothing stands while the values keep to a range. -/
structure Within (low high : ℤ) (smoothing : Smoothing) : Prop where
  mean_low : low ≤ smoothing.mean
  mean_high : smoothing.mean ≤ high
  last_low : low ≤ smoothing.last
  last_high : smoothing.last ≤ high
  spread_low : 0 ≤ smoothing.spread
  spread_high : smoothing.spread ≤ high - low
  -- A large step leaves a large value on one of its sides, and the mean has felt that value.
  spread_mean : 3 * smoothing.spread ≤ 7 * smoothing.mean - smoothing.last + 30

variable {low high value : ℤ} {smoothing : Smoothing}

theorem start_within (positive : 0 ≤ low) (above : low ≤ value) (below : value ≤ high) : Within low high (start value) := by
  refine ⟨above, below, above, below, le_refl 0, ?_, ?_⟩
  · exact sub_nonneg.mpr (above.trans below)
  · simp only [start]
    omega

theorem Within.follow (within : Within low high smoothing) (positive : 0 ≤ low) (above : low ≤ value)
    (below : value ≤ high) : Within low high (smoothing.follow value) := by
  obtain ⟨mean_low, mean_high, last_low, last_high, spread_low, spread_high, spread_mean⟩ := within
  have mean := smooth_between mean_low mean_high above below
  have step : 0 ≤ |value - smoothing.last| ∧ |value - smoothing.last| ≤ high - low := by
    refine ⟨abs_nonneg _, abs_le.mpr ⟨?_, ?_⟩⟩ <;> omega
  have spread := smooth_between spread_low spread_high step.1 step.2
  refine ⟨mean.1, mean.2, above, below, spread.1, spread.2, ?_⟩
  have near := (smooth_near smoothing.mean value).1
  have far := (smooth_near smoothing.spread |value - smoothing.last|).2
  simp only [Smoothing.follow]
  rcases abs_cases (value - smoothing.last) with ⟨same, -⟩ | ⟨same, -⟩
  · rw [same] at far ⊢
    omega
  · rw [same] at far ⊢
    omega

end Smoothing

end Cutout.Library

import Mathlib.Tactic.Linarith
import Mathlib.Tactic.Ring
import Mathlib.Algebra.Order.Ring.Int

/-! Division rounded to the nearest integer, ties away from zero. The nearest integer is
described without division, by its distance from the numerator, so that rounding up,
down and symmetrically are all consequences of one description. -/

namespace Cutout.Library

/-- The integer nearest to a quotient; of two equally near ones, the one farther from zero. -/
structure Nearest (numerator denominator rounded : ℤ) : Prop where
  close : 2 * |numerator - rounded * denominator| ≤ denominator
  away : 2 * |numerator - rounded * denominator| = denominator → |numerator| < |rounded * denominator|

/-- Half the denominator is added on the numerator's side, and the quotient cut off. -/
def divRound (numerator denominator : ℤ) : ℤ :=
  if 0 ≤ numerator then Int.tdiv (numerator + Int.tdiv denominator 2) denominator
  else Int.tdiv (numerator - Int.tdiv denominator 2) denominator

namespace Nearest
variable {numerator larger denominator rounded other : ℤ}

theorem neg (nearest : Nearest numerator denominator rounded) : Nearest (-numerator) denominator (-rounded) := by
  have distance : |-numerator - -rounded * denominator| = |numerator - rounded * denominator| := by
    rw [show -numerator - -rounded * denominator = -(numerator - rounded * denominator) by ring, abs_neg]
  refine ⟨?_, ?_⟩
  · rw [distance]
    exact nearest.close
  · rw [distance, abs_neg, neg_mul, abs_neg]
    exact nearest.away

theorem mono (positive : 0 < denominator) (low : Nearest numerator denominator rounded)
    (high : Nearest larger denominator other) (grows : numerator ≤ larger) : rounded ≤ other := by
  by_contra above
  have apart : other * denominator + denominator ≤ rounded * denominator := by
    have step : (other + 1) * denominator ≤ rounded * denominator :=
      mul_le_mul_of_nonneg_right (by omega) positive.le
    linarith
  have sign : other * denominator < 0 → other * denominator + denominator ≤ 0 := by
    intro negative
    have below : other + 1 ≤ 0 := by
      by_contra least
      have := mul_nonneg (show 0 ≤ other by omega) positive.le
      omega
    have product := mul_nonpos_of_nonpos_of_nonneg below positive.le
    linarith
  have lower := low.close
  have upper := high.close
  have lowAway := low.away
  have highAway := high.away
  generalize other * denominator = base at *
  generalize rounded * denominator = top at *
  have left := neg_abs_le (numerator - top)
  have right := le_abs_self (larger - base)
  -- Both are at the same tie, and rounding away from zero cannot leave it on both sides.
  have outer := lowAway (by omega)
  have inner := highAway (by omega)
  have same : numerator = larger := by omega
  subst same
  by_cases negative : base < 0
  · have nonpositive := sign negative
    rw [abs_of_nonpos (show top ≤ 0 by omega), abs_of_nonpos (show numerator ≤ 0 by omega)] at outer
    omega
  · rw [abs_of_nonneg (show 0 ≤ base by omega), abs_of_nonneg (show 0 ≤ numerator by omega)] at inner
    omega

theorem unique (positive : 0 < denominator) (one : Nearest numerator denominator rounded)
    (two : Nearest numerator denominator other) : rounded = other :=
  le_antisymm (one.mono positive two (le_refl _)) (two.mono positive one (le_refl _))

end Nearest

variable {numerator denominator : ℤ}

private theorem nearest_of_nonneg (positive : 0 < denominator) (above : 0 ≤ numerator) :
    Nearest numerator denominator ((numerator + denominator / 2) / denominator) := by
  have half : 0 ≤ denominator / 2 := Int.ediv_nonneg positive.le (by decide)
  have quotient := Int.mul_ediv_add_emod (numerator + denominator / 2) denominator
  have least := Int.emod_nonneg (numerator + denominator / 2) positive.ne'
  have most := Int.emod_lt_of_pos (numerator + denominator / 2) positive
  have front : 0 ≤ (numerator + denominator / 2) / denominator * denominator :=
    mul_nonneg (Int.ediv_nonneg (by omega) positive.le) positive.le
  rw [mul_comm] at quotient
  constructor <;> generalize (numerator + denominator / 2) / denominator * denominator = base at *
  · rcases abs_cases (numerator - base) with ⟨same, -⟩ | ⟨same, -⟩ <;> omega
  · intro tie
    rw [abs_of_nonneg above, abs_of_nonneg front]
    rcases abs_cases (numerator - base) with ⟨same, -⟩ | ⟨same, -⟩ <;> omega

theorem divRound_nearest (positive : 0 < denominator) : Nearest numerator denominator (divRound numerator denominator) := by
  have half : 0 ≤ denominator / 2 := Int.ediv_nonneg positive.le (by decide)
  have halved : Int.tdiv denominator 2 = denominator / 2 := Int.tdiv_eq_ediv_of_nonneg positive.le
  unfold divRound
  rw [halved]
  split
  · next above =>
    rw [Int.tdiv_eq_ediv_of_nonneg (by omega)]
    exact nearest_of_nonneg positive above
  · next below =>
    have mirrored := (nearest_of_nonneg positive (show 0 ≤ -numerator by omega)).neg
    rw [neg_neg] at mirrored
    rw [show numerator - denominator / 2 = -(-numerator + denominator / 2) by ring, Int.neg_tdiv,
      Int.tdiv_eq_ediv_of_nonneg (by omega)]
    exact mirrored

end Cutout.Library

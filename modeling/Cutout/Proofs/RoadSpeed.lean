import Cutout.VescNotifications
import Cutout.Library.Rounding

/-! Road speed from electrical revolutions. The program multiplies and divides in 128-bit
integers; nothing it computes on the way leaves their range, so the speed is the rounded
quotient itself, symmetric and monotone in the revolutions. -/

namespace Cutout.Protocols
open Library

def i128Min : Int := -2 ^ 127
def i128Max : Int := 2 ^ 127 - 1

structure VescBoardProfile.Typed (profile : VescBoardProfile) : Prop where
  motorPolePairs : profile.motorPolePairs ≤ 255
  gearRatioDenominator : profile.gearRatioDenominator ≤ u32Max
  wheelCircumference : profile.wheelCircumference ≤ u64Max

namespace VescSpeedGeometry

def denominator (geometry : VescSpeedGeometry) : Int := geometry.motorPolePairs * geometry.gearRatioDenominator * 60

def numerator (geometry : VescSpeedGeometry) (erpm : Int) : Int := erpm * geometry.wheelCircumference * 1000

/-- Every value `speed_from_erpm` computes, in the order it computes them. -/
def computed (geometry : VescSpeedGeometry) (erpm : Int) : List Int :=
  let denominator := geometry.denominator
  let numerator := geometry.numerator erpm
  [geometry.motorPolePairs, geometry.gearRatioDenominator, geometry.motorPolePairs * geometry.gearRatioDenominator,
    denominator, erpm, geometry.wheelCircumference, erpm * geometry.wheelCircumference, numerator, Int.tdiv denominator 2,
    (if 0 ≤ numerator then numerator + Int.tdiv denominator 2 else numerator - Int.tdiv denominator 2),
    divRound numerator denominator]

theorem denominator_pos (geometry : VescSpeedGeometry) : 0 < geometry.denominator := by
  obtain ⟨poles, gear, circumference, usable⟩ := geometry
  have product : 0 < poles * gear := Nat.mul_pos usable.1 usable.2.1
  simp only [denominator]
  omega

end VescSpeedGeometry

theorem VescBoardProfile.speedFromErpm_eq (profile : VescBoardProfile) (erpm : Int) :
    profile.speedFromErpm erpm = profile.speedGeometry.bind fun geometry =>
      let rounded := divRound (geometry.numerator erpm) geometry.denominator
      if i32Min ≤ rounded ∧ rounded ≤ i32Max then some rounded else none := rfl

section Bounds
variable {geometry : VescSpeedGeometry} {erpm : Int}

private theorem abs_numerator_le (least : i32Min ≤ erpm) (most : erpm ≤ i32Max) :
    |erpm * geometry.wheelCircumference| ≤ 2 ^ 94 ∧ |geometry.numerator erpm| ≤ 2 ^ 104 := by
  have wheel : |(geometry.wheelCircumference : Int)| ≤ 2 ^ 63 := by
    have bound := geometry.usable.2.2.2
    rw [Nat.abs_cast]
    simp only [u64Max] at bound
    omega
  have turns : |erpm| ≤ 2 ^ 31 := by
    simp only [i32Min, i32Max] at least most
    exact abs_le.mpr ⟨by omega, by omega⟩
  have product : |erpm * geometry.wheelCircumference| ≤ 2 ^ 94 := by
    rw [abs_mul]
    calc |erpm| * |(geometry.wheelCircumference : Int)|
        ≤ 2 ^ 31 * 2 ^ 63 := mul_le_mul turns wheel (abs_nonneg _) (by decide)
      _ = 2 ^ 94 := by norm_num
  refine ⟨product, ?_⟩
  rw [VescSpeedGeometry.numerator, abs_mul]
  have thousand : |(1000 : Int)| = 1000 := rfl
  rw [thousand]
  omega

private theorem denominator_le (poles : geometry.motorPolePairs ≤ 255) (gear : geometry.gearRatioDenominator ≤ u32Max) :
    (geometry.motorPolePairs * geometry.gearRatioDenominator : Int) ≤ 2 ^ 40 ∧ geometry.denominator ≤ 2 ^ 46 := by
  have product : geometry.motorPolePairs * geometry.gearRatioDenominator ≤ 255 * u32Max := Nat.mul_le_mul poles gear
  have cast : (geometry.motorPolePairs * geometry.gearRatioDenominator : Int) =
      (geometry.motorPolePairs * geometry.gearRatioDenominator : Nat) := by push_cast; rfl
  simp only [VescSpeedGeometry.denominator, cast]
  simp only [u32Max] at product
  omega

/-- A rounded quotient is not larger than the numerator and half the denominator. -/
theorem abs_rounded_le {numerator denominator rounded : Int} (positive : 0 < denominator)
    (nearest : Nearest numerator denominator rounded) : |rounded| ≤ |numerator| + denominator := by
  have close := nearest.close
  have reach := abs_sub_abs_le_abs_sub (rounded * denominator) numerator
  rw [abs_sub_comm] at reach
  have grows : |rounded| ≤ |rounded * denominator| := by
    rw [abs_mul, abs_of_pos positive]
    exact le_mul_of_one_le_right (abs_nonneg _) positive
  have distance := abs_nonneg (numerator - rounded * denominator)
  omega

private theorem computed_fits (poles : geometry.motorPolePairs ≤ 255) (gear : geometry.gearRatioDenominator ≤ u32Max)
    (least : i32Min ≤ erpm) (most : erpm ≤ i32Max) :
    ∀ value ∈ geometry.computed erpm, i128Min ≤ value ∧ value ≤ i128Max := by
  obtain ⟨product, large⟩ := @abs_numerator_le geometry erpm least most
  obtain ⟨ratio, small⟩ := denominator_le poles gear
  have positive := geometry.denominator_pos
  have nearest : Nearest (geometry.numerator erpm) geometry.denominator _ := divRound_nearest positive
  have rounded := abs_rounded_le positive nearest
  have halved : Int.tdiv geometry.denominator 2 = geometry.denominator / 2 := Int.tdiv_eq_ediv_of_nonneg positive.le
  have wheel := geometry.usable.2.2.2
  have nonnegative : 0 ≤ (geometry.motorPolePairs * geometry.gearRatioDenominator : Int) := by positivity
  have quotient := le_trans rounded (add_le_add large small)
  rw [abs_le] at product large quotient
  simp only [u32Max, u64Max, i32Min, i32Max] at gear wheel least most
  simp only [VescSpeedGeometry.computed, halved, List.mem_cons, List.not_mem_nil, or_false, i128Min, i128Max]
  rintro value (rfl | rfl | rfl | rfl | rfl | rfl | rfl | rfl | rfl | rfl | rfl)
  case inr.inr.inr.inr.inr.inr.inr.inr.inr.inl => split <;> omega
  all_goals omega

end Bounds

/-- The rounded speed of a geometry is a speed only inside 32 bits. -/
theorem speedFromErpm_some_iff {profile : VescBoardProfile} {erpm speed : Int} :
    profile.speedFromErpm erpm = some speed ↔ ∃ geometry, profile.speedGeometry = some geometry ∧
      Nearest (geometry.numerator erpm) geometry.denominator speed ∧ i32Min ≤ speed ∧ speed ≤ i32Max := by
  rw [profile.speedFromErpm_eq, Option.bind_eq_some_iff]
  constructor
  · rintro ⟨geometry, known, done⟩
    dsimp only at done
    split at done
    · next fits =>
      cases done
      exact ⟨geometry, known, divRound_nearest geometry.denominator_pos, fits⟩
    · cases done
  · rintro ⟨geometry, known, nearest, fits⟩
    refine ⟨geometry, known, ?_⟩
    have same := nearest.unique geometry.denominator_pos (divRound_nearest geometry.denominator_pos)
    dsimp only
    rw [← same, if_pos fits]

/-- Road speed is exact: nothing on the way overflows, no speed is given only without a
geometry or where the rounded quotient is outside 32 bits, and otherwise the speed is the
nearest integer, so that it is odd and monotone in the revolutions. -/
theorem road_speed_is_exact_rounding (profile : VescBoardProfile) (typed : profile.Typed) :
    (∀ geometry erpm, profile.speedGeometry = some geometry → i32Min ≤ erpm → erpm ≤ i32Max →
      geometry.denominator ≠ 0 ∧ ∀ value ∈ geometry.computed erpm, i128Min ≤ value ∧ value ≤ i128Max) ∧
    (∀ erpm, profile.speedFromErpm erpm = none ↔ profile.speedGeometry = none ∨
      ∃ geometry rounded, profile.speedGeometry = some geometry ∧
        Nearest (geometry.numerator erpm) geometry.denominator rounded ∧ ¬(i32Min ≤ rounded ∧ rounded ≤ i32Max)) ∧
    (∀ erpm speed, profile.speedFromErpm erpm = some speed → ∃ geometry, profile.speedGeometry = some geometry ∧
      Nearest (erpm * geometry.wheelCircumference * 1000)
        (geometry.motorPolePairs * geometry.gearRatioDenominator * 60) speed) ∧
    (∀ erpm speed opposite, profile.speedFromErpm erpm = some speed → profile.speedFromErpm (-erpm) = some opposite →
      opposite = -speed) ∧
    (∀ slow fast low high, slow ≤ fast → profile.speedFromErpm slow = some low → profile.speedFromErpm fast = some high →
      low ≤ high) := by
  refine ⟨?_, ?_, ?_, ?_, ?_⟩
  · intro geometry erpm known least most
    have fields : geometry.motorPolePairs = profile.motorPolePairs ∧
        geometry.gearRatioDenominator = profile.gearRatioDenominator := by
      unfold VescBoardProfile.speedGeometry VescSpeedGeometry.new at known
      split at known
      · split at known
        · cases known
          exact ⟨rfl, rfl⟩
        · cases known
      · cases known
    refine ⟨geometry.denominator_pos.ne', computed_fits ?_ ?_ least most⟩
    · rw [fields.1]
      exact typed.motorPolePairs
    · rw [fields.2]
      exact typed.gearRatioDenominator
  · intro erpm
    constructor
    · intro unavailable
      cases known : profile.speedGeometry with
      | none => exact .inl rfl
      | some geometry =>
        have nearest : Nearest (geometry.numerator erpm) geometry.denominator _ := divRound_nearest geometry.denominator_pos
        refine .inr ⟨geometry, _, rfl, nearest, ?_⟩
        intro fits
        have given := speedFromErpm_some_iff.mpr ⟨geometry, known, nearest, fits⟩
        rw [unavailable] at given
        cases given
    · rintro (missing | ⟨geometry, rounded, known, nearest, outside⟩)
      · rw [profile.speedFromErpm_eq, missing]
        rfl
      · by_contra given
        obtain ⟨speed, given⟩ := Option.ne_none_iff_exists'.mp given
        obtain ⟨other, same, near, fits⟩ := speedFromErpm_some_iff.mp given
        cases known.symm.trans same
        rw [nearest.unique geometry.denominator_pos near] at outside
        exact outside fits
  · intro erpm speed given
    obtain ⟨geometry, known, nearest, -⟩ := speedFromErpm_some_iff.mp given
    exact ⟨geometry, known, nearest⟩
  · intro erpm speed opposite forward backward
    obtain ⟨geometry, known, nearest, -⟩ := speedFromErpm_some_iff.mp forward
    obtain ⟨other, same, mirrored, -⟩ := speedFromErpm_some_iff.mp backward
    cases known.symm.trans same
    have negated : geometry.numerator (-erpm) = -geometry.numerator erpm := by
      simp only [VescSpeedGeometry.numerator]
      ring
    rw [negated] at mirrored
    exact mirrored.unique geometry.denominator_pos nearest.neg
  · intro slow fast low high grows one two
    obtain ⟨geometry, known, below, -⟩ := speedFromErpm_some_iff.mp one
    obtain ⟨other, same, above, -⟩ := speedFromErpm_some_iff.mp two
    cases known.symm.trans same
    refine below.mono geometry.denominator_pos above ?_
    have scaled : slow * geometry.wheelCircumference ≤ fast * geometry.wheelCircumference :=
      mul_le_mul_of_nonneg_right grows (by positivity)
    simp only [VescSpeedGeometry.numerator]
    omega

/-- A tie in either direction, with a ratio of 2.5 and a circumference of 3 mm. -/
theorem road_speed_rounds_ties_away :
    let profile : VescBoardProfile := ⟨1, 2500, 3, true⟩
    profile.Typed ∧ profile.speedFromErpm 25 = some 1 ∧ profile.speedFromErpm (-25) = some (-1) := by
  intro profile
  have typed : profile.Typed := ⟨by decide, by decide, by decide⟩
  have forward : profile.speedFromErpm 25 = some 1 := by decide
  refine ⟨typed, forward, ?_⟩
  cases backward : profile.speedFromErpm (-25) with
  | none => exact absurd backward (by decide)
  | some opposite => rw [(road_speed_is_exact_rounding profile typed).2.2.2.1 25 1 opposite forward backward]

end Cutout.Protocols

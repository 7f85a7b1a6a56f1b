import Mathlib.Algebra.Order.Floor.Div
import Cutout.Library.Smoothing
import Cutout.Proofs.ChargeEstimate
import Cutout.Library.Outcomes

/-! What a charging time estimate is worth. The window of charging currents is the exact
account of its samples, none of its bounded operations ever meets its bound, and the
estimate made from it is exact arithmetic with every quotient rounded up. -/

namespace Cutout.Core
open Library
open Protocols (u32Max u64Max i64Max i64Min)

def ChargeEstimateInput.milliamps (input : ChargeEstimateInput) : Nat :=
  (input.batteryCurrent.map fun reading => reading.value.magnitudeMilliamps).getD 0

/-- The currents of the samples, smoothed in 256ths of a milliamp without any bound. -/
def rateOf : List ChargeEstimateInput → Smoothing
  | [] => .start 0
  | first :: later =>
    later.foldl (fun smoothing sample => smoothing.follow (256 * sample.milliamps)) (.start (256 * first.milliamps))

theorem rateOf_snoc {samples : List ChargeEstimateInput} (nonempty : samples ≠ []) (sample : ChargeEstimateInput) :
    rateOf (samples ++ [sample]) = (rateOf samples).follow (256 * sample.milliamps) := by
  cases samples with
  | nil => exact absurd rfl nonempty
  | cons first later =>
    rw [rateOf, List.cons_append, rateOf, List.foldl_append]
    rfl

def InRange (sample : ChargeEstimateInput) : Prop := 100 ≤ sample.milliamps ∧ sample.milliamps ≤ u32Max

theorem rateOf_within {samples : List ChargeEstimateInput} (nonempty : samples ≠ []) {low high : Nat}
    (within : ∀ sample ∈ samples, low ≤ sample.milliamps ∧ sample.milliamps ≤ high) :
    Smoothing.Within (256 * low) (256 * high) (rateOf samples) := by
  induction samples using List.reverseRecOn with
  | nil => exact absurd rfl nonempty
  | append_singleton samples sample ih =>
    have bounds := within sample (List.mem_append_right _ (List.mem_singleton_self _))
    by_cases first : samples = []
    · rw [first]
      exact Smoothing.start_within (by omega) (by omega) (by omega)
    · rw [rateOf_snoc first]
      refine (ih first ?_).follow (by omega) (by omega) (by omega)
      intro earlier member
      exact within earlier (List.mem_append_left _ member)

theorem i64Saturate_exact {value : Int} (low : -(2 ^ 62) ≤ value) (high : value ≤ 2 ^ 62) : i64Saturate value = value := by
  unfold i64Saturate i64Min i64Max
  omega

structure Accounts (samples : List ChargeEstimateInput) (window : CurrentRateWindow) : Prop where
  counted : window.count = min samples.length 65535
  started : window.start = samples.head?.map ChargeEstimateInput.observedAt
  last : window.last = samples.getLast?.map ChargeEstimateInput.observedAt
  inRange : ∀ sample ∈ samples, InRange sample
  mean : window.meanQ8 = (rateOf samples).mean
  variability : window.variabilityQ8 = (rateOf samples).spread
  lastCurrent : 256 * window.lastCurrent = (rateOf samples).last
  minimum : samples ≠ [] → (∃ sample ∈ samples, window.minimum = sample.milliamps) ∧
    ∀ sample ∈ samples, window.minimum ≤ sample.milliamps
  maximum : samples ≠ [] → (∃ sample ∈ samples, window.maximum = sample.milliamps) ∧
    ∀ sample ∈ samples, (sample.milliamps : Int) ≤ window.maximum

theorem Accounts.empty : Accounts [] {} :=
  ⟨rfl, rfl, rfl, List.forall_mem_nil _, rfl, rfl, rfl, fun nonempty => absurd rfl nonempty,
    fun nonempty => absurd rfl nonempty⟩

variable {samples : List ChargeEstimateInput} {window : CurrentRateWindow} {input : ChargeEstimateInput}

theorem Accounts.count_zero (accounts : Accounts samples window) : window.count = 0 ↔ samples = [] := by
  rw [accounts.counted, ← List.length_eq_zero_iff]
  omega

theorem i64Saturate_current {sample : ChargeEstimateInput} (inRange : InRange sample) :
    i64Saturate (sample.milliamps * 256) = 256 * sample.milliamps := by
  have bounded := inRange.2
  unfold u32Max at bounded
  rw [i64Saturate_exact (by omega) (by omega), Int.mul_comm]

theorem difference_exact {current last : Int} (range : 0 ≤ current ∧ current ≤ u32Max) (before : 0 ≤ last ∧ last ≤ u32Max) :
    i64Saturate (min ((i64Saturate (current - last)).natAbs : Int) i64Max * 256) = |256 * current - 256 * last| := by
  unfold u32Max at range before
  have inner : i64Saturate (current - last) = current - last := i64Saturate_exact (by omega) (by omega)
  have small : (((current - last).natAbs : Nat) : Int) ≤ 2 ^ 32 := by omega
  rw [inner, min_eq_left (le_trans small (by decide)), i64Saturate_exact (by omega) (by omega), Int.natCast_natAbs,
    ← Int.mul_sub, abs_mul, Int.mul_comm]
  rfl

theorem observe_first (fresh : window.replays input.observedAt input.milliamps = false) (none : window.count = 0)
    (inRange : InRange input) : window.observe input.observedAt input.milliamps =
      { window with
        start := some input.observedAt, last := some input.observedAt, count := 1, meanQ8 := 256 * input.milliamps
        minimum := input.milliamps, maximum := input.milliamps, lastCurrent := input.milliamps } := by
  simp only [CurrentRateWindow.observe, fresh, none, i64Saturate_current inRange]
  rfl

theorem observe_later (accounts : Accounts samples window) (nonempty : samples ≠ [])
    (fresh : window.replays input.observedAt input.milliamps = false) (inRange : InRange input) :
    window.observe input.observedAt input.milliamps =
      { window with
        last := some input.observedAt, count := min (window.count + 1) 65535
        meanQ8 := ((rateOf samples).follow (256 * input.milliamps)).mean
        variabilityQ8 := ((rateOf samples).follow (256 * input.milliamps)).spread
        minimum := min window.minimum input.milliamps, maximum := max window.maximum input.milliamps
        lastCurrent := input.milliamps } := by
  have some : window.count ≠ 0 := fun none => nonempty (accounts.count_zero.mp none)
  have within := rateOf_within nonempty accounts.inRange
  have low := inRange.1
  have high := inRange.2
  have stepped := within.follow (by omega) (show (256 * 100 : Int) ≤ 256 * input.milliamps by omega)
    (show (256 * input.milliamps : Int) ≤ 256 * u32Max by omega)
  have lastLow := within.last_low
  have lastHigh := within.last_high
  rw [← accounts.lastCurrent] at lastLow lastHigh
  have meanLow := within.mean_low
  have meanHigh := within.mean_high
  have spreadLow := within.spread_low
  have spreadHigh := within.spread_high
  have difference := difference_exact (show 0 ≤ (input.milliamps : Int) ∧ (input.milliamps : Int) ≤ u32Max by omega)
    (show 0 ≤ window.lastCurrent ∧ window.lastCurrent ≤ u32Max by omega)
  rw [accounts.lastCurrent] at difference
  have spread := abs_nonneg (256 * (input.milliamps : Int) - (rateOf samples).last)
  have spread' : |256 * (input.milliamps : Int) - (rateOf samples).last| ≤ 2 ^ 41 := by
    rw [← accounts.lastCurrent]
    unfold u32Max at *
    refine abs_le.mpr ⟨?_, ?_⟩ <;> omega
  unfold u32Max at *
  have delta : i64Saturate (256 * input.milliamps - (rateOf samples).mean) = 256 * input.milliamps - (rateOf samples).mean :=
    i64Saturate_exact (by omega) (by omega)
  have change : i64Saturate (|256 * (input.milliamps : Int) - (rateOf samples).last| - (rateOf samples).spread) =
      |256 * (input.milliamps : Int) - (rateOf samples).last| - (rateOf samples).spread :=
    i64Saturate_exact (by omega) (by omega)
  have mean := i64Saturate_exact (le_trans (by omega) stepped.mean_low) (le_trans stepped.mean_high (by omega))
  have variability := i64Saturate_exact (le_trans (by omega) stepped.spread_low) (le_trans stepped.spread_high (by omega))
  simp only [Smoothing.follow, smooth] at mean variability
  simp only [CurrentRateWindow.observe, fresh, if_neg some, i64Saturate_current inRange, accounts.mean,
    accounts.variability, difference, delta, change, Bool.false_eq_true, if_false]
  simp only [ewmaShift, Int.reducePow, mean, variability]
  rfl


/-- A sample joins the account, or it is the last one over again. -/
theorem Accounts.observe (accounts : Accounts samples window) (inRange : InRange input) :
    Accounts (if window.replays input.observedAt input.milliamps then samples else samples ++ [input])
      (window.observe input.observedAt input.milliamps) := by
  by_cases replays : window.replays input.observedAt input.milliamps = true
  · rw [if_pos replays, ChargeEstimator.observe_replays replays]
    exact accounts
  have fresh := Bool.eq_false_of_not_eq_true replays
  rw [if_neg replays]
  have all : ∀ sample ∈ samples ++ [input], InRange sample := by
    intro sample member
    rcases List.mem_append.mp member with before | now
    · exact accounts.inRange sample before
    · rw [List.mem_singleton.mp now]
      exact inRange
  by_cases none : samples = []
  · have still : window.variabilityQ8 = 0 := by
      rw [accounts.variability, none]
      rfl
    rw [observe_first fresh (accounts.count_zero.mpr none) inRange]
    subst none
    refine ⟨rfl, rfl, rfl, all, rfl, still, rfl, ?_, ?_⟩
    · intro _
      refine ⟨⟨input, List.mem_singleton_self _, rfl⟩, ?_⟩
      intro sample member
      rw [List.mem_singleton.mp member]
    · intro _
      refine ⟨⟨input, List.mem_singleton_self _, rfl⟩, ?_⟩
      intro sample member
      rw [List.mem_singleton.mp member]
  · rw [observe_later accounts none fresh inRange]
    obtain ⟨⟨least, inside, isLeast⟩, below⟩ := accounts.minimum none
    obtain ⟨⟨most, within, isMost⟩, above⟩ := accounts.maximum none
    have here : input ∈ samples ++ [input] := List.mem_append_right _ (List.mem_singleton_self _)
    refine ⟨?_, ?_, ?_, all, ?_, ?_, ?_, ?_, ?_⟩
    · dsimp only
      rw [accounts.counted, List.length_append, List.length_singleton]
      omega
    · rw [List.head?_append_of_ne_nil _ none]
      exact accounts.started
    · rw [List.getLast?_append]
      rfl
    · rw [rateOf_snoc none]
    · rw [rateOf_snoc none]
    · rw [rateOf_snoc none]
      rfl
    · intro _
      constructor
      · rcases min_choice window.minimum (input.milliamps : Int) with kept | lowered
        · exact ⟨least, List.mem_append_left _ inside, kept.trans isLeast⟩
        · exact ⟨input, here, lowered⟩
      · intro sample member
        rcases List.mem_append.mp member with before | now
        · exact (min_le_left _ _).trans (below sample before)
        · rw [List.mem_singleton.mp now]
          exact min_le_right _ _
    · intro _
      constructor
      · rcases max_choice window.maximum (input.milliamps : Int) with kept | raised
        · exact ⟨most, List.mem_append_left _ within, kept.trans isMost⟩
        · exact ⟨input, here, raised⟩
      · intro sample member
        rcases List.mem_append.mp member with before | now
        · exact (above sample before).trans (le_max_left _ _)
        · rw [List.mem_singleton.mp now]
          exact le_max_right _ _

/-- The currents of a summary are the window's own, and the mean lies between them. -/
structure Summarizes (samples : List ChargeEstimateInput) (summary : CurrentRateSummary) : Prop where
  mean : (summary.mean.milliamps : Int) = ((rateOf samples).mean + 128) / 256
  variability : (summary.variabilityPermille : Int) = (rateOf samples).spread * 1000 / (rateOf samples).mean
  minimum : (∃ sample ∈ samples, summary.minimum.milliamps = sample.milliamps) ∧
    ∀ sample ∈ samples, summary.minimum.milliamps ≤ sample.milliamps
  maximum : (∃ sample ∈ samples, summary.maximum.milliamps = sample.milliamps) ∧
    ∀ sample ∈ samples, sample.milliamps ≤ summary.maximum.milliamps
  mean_low : summary.minimum.milliamps ≤ summary.mean.milliamps
  mean_high : summary.mean.milliamps ≤ summary.maximum.milliamps

theorem CurrentMagnitude.new_some {milliamps : Nat} (positive : 0 < milliamps) (bounded : milliamps ≤ u32Max) :
    CurrentMagnitude.new milliamps = some ⟨milliamps, positive, bounded⟩ := by
  unfold CurrentMagnitude.new
  rw [dif_pos ⟨by omega, by omega⟩]
  rfl

theorem variability_bounded {low high : Int} {rate : Smoothing} (within : rate.Within low high) (large : 256 * 100 ≤ low) :
    0 < rate.mean ∧ 0 ≤ rate.spread * 1000 / rate.mean ∧ rate.spread * 1000 / rate.mean ≤ 65535 := by
  have positive : 0 < rate.mean := by
    have := within.mean_low
    omega
  have spread := within.spread_low
  have bound := within.spread_mean
  have last := within.last_low
  refine ⟨positive, Int.ediv_nonneg (by omega) (by omega), ?_⟩
  have less : rate.spread * 1000 / rate.mean < 65536 := Int.ediv_lt_of_lt_mul positive (by omega)
  omega

theorem Accounts.summary (accounts : Accounts samples window) (nonempty : samples ≠ []) :
    ∃ summary, window.summary = some summary ∧ Summarizes samples summary := by
  obtain ⟨⟨least, inside, isLeast⟩, below⟩ := accounts.minimum nonempty
  obtain ⟨⟨most, within, isMost⟩, above⟩ := accounts.maximum nonempty
  have leastRange := accounts.inRange least inside
  have mostRange := accounts.inRange most within
  have bounds : (rateOf samples).Within (256 * least.milliamps) (256 * most.milliamps) := by
    refine rateOf_within nonempty ?_
    intro sample member
    have low := below sample member
    have high := above sample member
    rw [isLeast] at low
    rw [isMost] at high
    exact ⟨by omega, by omega⟩
  have lowest := leastRange.1
  obtain ⟨positive, nonnegative, small⟩ := variability_bounded bounds (by omega)
  have meanLow := bounds.mean_low
  have meanHigh := bounds.mean_high
  have spreadHigh := bounds.spread_high
  have spreadLow := bounds.spread_low
  have highest := mostRange.2
  obtain ⟨mean, isMean⟩ : ∃ mean : Nat, (mean : Int) = ((rateOf samples).mean + 128) / 256 :=
    ⟨(((rateOf samples).mean + 128) / 256).toNat, by omega⟩
  obtain ⟨permille, isPermille⟩ : ∃ permille : Nat,
      (permille : Int) = (rateOf samples).spread * 1000 / (rateOf samples).mean :=
    ⟨((rateOf samples).spread * 1000 / (rateOf samples).mean).toNat, by omega⟩
  have some : window.count ≠ 0 := fun none => nonempty (accounts.count_zero.mp none)
  have rounded : (i64Saturate (window.meanQ8 + 128)).tdiv 256 = mean := by
    unfold u32Max at highest
    rw [accounts.mean, i64Saturate_exact (by omega) (by omega), Int.tdiv_eq_ediv_of_nonneg (by omega), isMean]
  have varies : (i64Saturate (window.variabilityQ8 * 1000)).tdiv window.meanQ8 = permille := by
    unfold u32Max at highest
    rw [accounts.variability, accounts.mean, i64Saturate_exact (by omega) (by omega),
      Int.tdiv_eq_ediv_of_nonneg (by omega), isPermille]
  have clamped : (max 0 (min 65535 (permille : Int))).toNat = permille := by omega
  refine ⟨⟨⟨mean, by omega, by omega⟩, ⟨least.milliamps, by omega, leastRange.2⟩,
    ⟨most.milliamps, by have := mostRange.1; omega, highest⟩, permille⟩, ?_, ?_⟩
  · unfold CurrentRateWindow.summary
    rw [if_neg (not_or.mpr ⟨some, by rw [accounts.mean]; omega⟩), rounded, varies]
    dsimp only
    rw [clamped, isLeast, isMost,
      CurrentMagnitude.new_some (by omega) (by omega), CurrentMagnitude.new_some (by omega) leastRange.2,
      CurrentMagnitude.new_some (by have := mostRange.1; omega) highest]
    rfl
  · refine ⟨isMean, isPermille, ⟨⟨least, inside, rfl⟩, ?_⟩, ⟨⟨most, within, rfl⟩, ?_⟩, ?_, ?_⟩
    · intro sample member
      have low := below sample member
      rw [isLeast] at low
      exact Int.ofNat_le.mp low
    · intro sample member
      have high := above sample member
      rw [isMost] at high
      exact Int.ofNat_le.mp high
    · dsimp only
      omega
    · dsimp only
      omega

def ChargeEstimateInput.remaining (input : ChargeEstimateInput) : Nat :=
  (input.usableCapacity.value * (100 - percentOr input 100)) ⌈/⌉ 100

/-- The time the missing charge takes at a current, in milliseconds. -/
def ChargeEstimateInput.timeAt (input : ChargeEstimateInput) (current : CurrentMagnitude) : Nat :=
  (input.remaining * millisecondsPerMilliampHour) ⌈/⌉ current.milliamps

def exactEstimate (input : ChargeEstimateInput) (rate : CurrentRateSummary) (levelConfidence : EstimateConfidence) :
    ChargeTimeEstimate where
  lower := (input.timeAt rate.maximum * (1000 - widenPermille input rate)) ⌈/⌉ 1000
  expected := input.timeAt rate.mean
  upper := (input.timeAt rate.minimum * (1000 + widenPermille input rate)) ⌈/⌉ 1000
  kind := .atPresentCurrent
  confidence := estimateConfidence input levelConfidence
  currentRate := rate
  batteryLevelBasis := input.batteryLevel
  capacitySource := input.usableCapacity.source
  voltageSag := input.voltageSag
  calculatedAt := input.at_
  validUntil := Protocols.saturatingAdd input.at_ input.freshness

theorem widenPermille_le (input : ChargeEstimateInput) (rate : CurrentRateSummary) : widenPermille input rate ≤ 800 := by
  unfold widenPermille
  have rate := min_le_right (rate.variabilityPermille / 2) 200
  dsimp only
  split <;> split <;> split <;> (try split) <;> (try split) <;> omega

theorem remaining_le (bounded : input.usableCapacity.value ≤ u32Max) : input.remaining ≤ u32Max := by
  unfold ChargeEstimateInput.remaining
  rw [ceilDiv_le_iff_le_mul (by omega)]
  calc input.usableCapacity.value * (100 - percentOr input 100)
      ≤ u32Max * 100 := Nat.mul_le_mul bounded (Nat.sub_le _ _)
    _ = 100 * u32Max := Nat.mul_comm _ _

theorem product_lt (bounded : input.usableCapacity.value ≤ u32Max) :
    input.remaining * millisecondsPerMilliampHour < 2 ^ 54 := by
  have remaining := remaining_le bounded
  have hour : millisecondsPerMilliampHour = 3600000 := rfl
  unfold u32Max at remaining
  rw [hour]
  omega

theorem timeAt_le (bounded : input.usableCapacity.value ≤ u32Max) (current : CurrentMagnitude) :
    input.timeAt current ≤ 2 ^ 54 := by
  have positive := current.positive
  unfold ChargeEstimateInput.timeAt
  rw [ceilDiv_le_iff_le_mul positive]
  calc input.remaining * millisecondsPerMilliampHour ≤ 2 ^ 54 := (product_lt bounded).le
    _ ≤ current.milliamps * 2 ^ 54 := Nat.le_mul_of_pos_left _ positive

theorem timeAt_antitone {slow fast : CurrentMagnitude} (faster : slow.milliamps ≤ fast.milliamps) :
    input.timeAt fast ≤ input.timeAt slow := by
  unfold ChargeEstimateInput.timeAt
  rw [ceilDiv_le_iff_le_mul fast.positive]
  calc input.remaining * millisecondsPerMilliampHour
      ≤ slow.milliamps * (input.remaining * millisecondsPerMilliampHour ⌈/⌉ slow.milliamps) :=
        (ceilDiv_le_iff_le_mul slow.positive).mp (le_refl _)
    _ ≤ fast.milliamps * (input.remaining * millisecondsPerMilliampHour ⌈/⌉ slow.milliamps) :=
        Nat.mul_le_mul_right _ faster

theorem checkedU128_small {value : Nat} (small : value < 2 ^ 100) : checkedU128 value = .ok value :=
  if_pos (by omega)

theorem checked_ceilDiv {time : Nat} (product : time < 2 ^ 54) (current : CurrentMagnitude) :
    (checkedU128 time >>= fun product => checkedU128 (product + (current.milliamps - 1)) >>= fun rounded =>
      pure (rounded / current.milliamps)) = Except.ok (time ⌈/⌉ current.milliamps) := by
  have small := current.bounded
  have positive := current.positive
  have added : time + (current.milliamps - 1) < 2 ^ 100 := by
    unfold u32Max at small
    omega
  rw [checkedU128_small (by omega), ok_then, checkedU128_small added, ok_then, Nat.ceilDiv_eq_add_pred_div,
    Nat.add_sub_assoc positive]
  rfl

theorem durationAtCurrent_exact (bounded : input.usableCapacity.value ≤ u32Max) (current : CurrentMagnitude) :
    durationAtCurrent input.remaining current = .ok (input.timeAt current) :=
  checked_ceilDiv (product_lt bounded) current

theorem scaledDuration_exact {value factor : Nat} (small : value ≤ 2 ^ 54) (narrow : factor ≤ 1800) :
    scaledDuration value factor = .ok ((value * factor) ⌈/⌉ 1000) := by
  have product : value * factor ≤ 2 ^ 54 * 1800 := Nat.mul_le_mul small narrow
  have same : value * factor + 1000 - 1 = value * factor + 999 := by omega
  unfold scaledDuration
  rw [checkedU128_small (by omega), ok_then, checkedU128_small (by omega), ok_then, Nat.ceilDiv_eq_add_pred_div, same,
    toDuration]
  unfold u64Max
  exact if_pos (by omega)

/-- No capacity and no current of 32 bits brings an estimate to the end of its arithmetic. -/
theorem calculateEstimate_exact (bounded : input.usableCapacity.value ≤ u32Max) (rate : CurrentRateSummary)
    (levelConfidence : EstimateConfidence) :
    calculateEstimate input rate levelConfidence = .ok (exactEstimate input rate levelConfidence) := by
  have widen := widenPermille_le input rate
  have capacity : input.usableCapacity.value * (100 - percentOr input 100) ≤ u32Max * 100 :=
    Nat.mul_le_mul bounded (Nat.sub_le _ _)
  have fits (current : CurrentMagnitude) : input.timeAt current ≤ u64Max :=
    le_trans (timeAt_le bounded current) (by decide)
  have missing : (input.usableCapacity.value * (100 - percentOr input 100) + 99) / 100 = input.remaining := by
    have same : input.usableCapacity.value * (100 - percentOr input 100) + 100 - 1 =
        input.usableCapacity.value * (100 - percentOr input 100) + 99 := by omega
    rw [ChargeEstimateInput.remaining, Nat.ceilDiv_eq_add_pred_div, same]
  have lower : scaledDuration (input.timeAt rate.maximum) (1000 - min (widenPermille input rate) 900) =
      .ok ((input.timeAt rate.maximum * (1000 - widenPermille input rate)) ⌈/⌉ 1000) := by
    rw [min_eq_left (by omega)]
    exact scaledDuration_exact (timeAt_le bounded _) (by omega)
  have upper : scaledDuration (input.timeAt rate.minimum) (1000 + widenPermille input rate) =
      .ok ((input.timeAt rate.minimum * (1000 + widenPermille input rate)) ⌈/⌉ 1000) :=
    scaledDuration_exact (timeAt_le bounded _) (by omega)
  unfold u32Max at capacity
  unfold calculateEstimate
  dsimp only
  rw [checkedU128_small (by omega), ok_then, checkedU128_small (by omega), ok_then, missing,
    durationAtCurrent_exact bounded, ok_then, toDuration, if_pos (fits _), ok_then, durationAtCurrent_exact bounded,
    ok_then, durationAtCurrent_exact bounded, ok_then, lower, ok_then, upper, ok_then]
  rfl

theorem exactEstimate_ordered {rate : CurrentRateSummary} (low : rate.minimum.milliamps ≤ rate.mean.milliamps)
    (high : rate.mean.milliamps ≤ rate.maximum.milliamps) (levelConfidence : EstimateConfidence) :
    (exactEstimate input rate levelConfidence).lower ≤ (exactEstimate input rate levelConfidence).expected ∧
      (exactEstimate input rate levelConfidence).expected ≤ (exactEstimate input rate levelConfidence).upper := by
  have fastest : input.timeAt rate.maximum ≤ input.timeAt rate.mean := timeAt_antitone high
  have slowest : input.timeAt rate.mean ≤ input.timeAt rate.minimum := timeAt_antitone low
  constructor
  · refine le_trans ?_ fastest
    refine (ceilDiv_le_iff_le_mul (by omega)).mpr ?_
    calc input.timeAt rate.maximum * (1000 - widenPermille input rate)
        ≤ input.timeAt rate.maximum * 1000 := Nat.mul_le_mul_left _ (Nat.sub_le _ _)
      _ = 1000 * input.timeAt rate.maximum := Nat.mul_comm _ _
  · refine le_trans slowest ?_
    have wide := (ceilDiv_le_iff_le_mul (show 0 < 1000 by omega)).mp
      (le_refl ((input.timeAt rate.minimum * (1000 + widenPermille input rate)) ⌈/⌉ 1000))
    have grows : input.timeAt rate.minimum * 1000 ≤ input.timeAt rate.minimum * (1000 + widenPermille input rate) :=
      Nat.mul_le_mul_left _ (Nat.le_add_right _ _)
    show input.timeAt rate.minimum ≤ (input.timeAt rate.minimum * (1000 + widenPermille input rate)) ⌈/⌉ 1000
    omega

namespace ChargeEstimator
variable {estimator : ChargeEstimator}
variable {sample : ValidatedChargeSample} {estimate : ChargeTimeEstimate} {state : ChargeEstimateState}
variable {after : ChargeEstimator}

/-- A sample is taken with the current of its update, which is large enough to charge. -/
theorem validateEvidence_sample (valid : estimator.validateEvidence input = (after, .ok sample)) :
    sample.current = input.milliamps ∧ InRange input := by
  obtain ⟨known, taken, enough⟩ := validateEvidence_current valid
  have same : input.milliamps = sample.batteryCurrent.value.magnitudeMilliamps := by
    rw [ChargeEstimateInput.milliamps, known]
    rfl
  refine ⟨taken.trans same.symm, ?_⟩
  rw [InRange, same, ← taken]
  refine ⟨enough, ?_⟩
  rw [taken]
  cases sample.batteryCurrent.value with
  | zero => exact Nat.zero_le _
  | into magnitude => exact magnitude.bounded
  | out magnitude => exact magnitude.bounded
                    | unknown magnitude => exact magnitude.bounded

theorem prepare_sample (taken : (estimator.prepare input).2 = .ok sample) :
    sample.current = input.milliamps ∧ InRange input := by
  unfold prepare at taken
  split at taken
  · cases taken
  · split at taken
    · cases taken
    · next validated found valid =>
      split at taken
      · cases taken
      · cases taken
        exact validateEvidence_sample valid

theorem update_accounts (accounts : Accounts samples estimator.window) (input : ChargeEstimateInput) :
    Accounts (followWindow samples estimator input) (estimator.update input).1.window := by
  have prepared := prepare_cases estimator input
  have sampled := @prepare_sample input estimator
  unfold followWindow update
  generalize estimator.prepare input = result at prepared sampled
  obtain ⟨middle, result⟩ := result
  dsimp only at sampled ⊢
  have kept : Accounts (if middle.window.last = none then [] else samples) middle.window := by
    have cases : middle.window = {} ∨ middle.window = estimator.window := by
      cases prepared with
      | empties _ empty | restarts _ empty => exact .inl empty
      | waits _ continues | joins _ continues => exact .inr continues.window
    rcases cases with empty | same
    · rw [empty, if_pos rfl]
      exact .empty
    · rw [same]
      by_cases unseen : estimator.window.last = none
      · have none : samples = [] := by
          rw [accounts.last, Option.map_eq_none_iff, List.getLast?_eq_none_iff] at unseen
          exact unseen
        rw [if_pos unseen, ← none]
        exact accounts
      · rw [if_neg unseen]
        exact accounts
  cases result with
  | error state => exact kept
  | ok sample =>
    obtain ⟨current, inRange⟩ := sampled rfl
    dsimp only
    rw [admitSample, current]
    exact kept.observe inRange

theorem run_accounts (updates : List ChargeEstimateInput) :
    Accounts (windowSamples (Runs.history update {} updates)) (Runs.final update {} updates).window := by
  refine Runs.induction_on
    (P := fun past estimator => Accounts (windowSamples past) (ChargeEstimator.window estimator)) ?_ ?_ updates
  · exact .empty
  · intro past estimator input accounts
    rw [windowSamples_snoc]
    exact update_accounts accounts input

def Repeatable : ChargeEstimateState → Bool
  | .collectingSamples _ _ | .available _ => true
  | _ => false

/-- What the evidence of an update comes to, whatever was collected before. -/
inductive Evidence (input : ChargeEstimateInput) : Prop where
  | refused (refused : ∀ estimator : ChargeEstimator, ∃ after state,
      estimator.validateEvidence input = (after, .error state) ∧ Repeatable state = false)
  | nearlyFull (same : ∀ estimator : ChargeEstimator,
      estimator.validateEvidence input = (estimator.clearWindow.clearProgress, .error (.collectingSamples 0 0)))
  | progress (same : ∀ estimator : ChargeEstimator,
      estimator.validateEvidence input = ((estimator.progressState input).1, .error (estimator.progressState input).2))
  | sample (sample : ValidatedChargeSample)
      (same : ∀ estimator : ChargeEstimator, estimator.validateEvidence input = (estimator.clearProgress, .ok sample))

theorem validateChargingEvidence_uniform (input : ChargeEstimateInput) :
    (∀ estimator : ChargeEstimator, ∃ after reason,
      estimator.validateChargingEvidence input = (after, .error (.unavailable reason))) ∨
    ∀ estimator : ChargeEstimator, estimator.validateChargingEvidence input = (estimator, .ok (inferredCharging input)) := by
  unfold validateChargingEvidence
  split
  · exact .inl fun estimator => ⟨_, _, rfl⟩
  · split
    · exact .inl fun estimator => ⟨_, _, rfl⟩
    · split
      · exact .inl fun estimator => ⟨_, _, rfl⟩
      · split
        · exact .inl fun estimator => ⟨_, _, rfl⟩
        · exact .inr fun estimator => rfl

theorem validateBatteryLevel_error {basis : BatteryLevelBasis} {profile : Nat}
    (refused : validateBatteryLevel basis profile = .error state) : Repeatable state = false := by
  unfold validateBatteryLevel at refused
  split at refused
  · split at refused
    · cases refused
      rfl
    · cases refused
  · dsimp only at refused
    split at refused
    · cases refused
      rfl
    · cases refused
  · cases refused
    rfl

theorem validateBatteryTemperature_error {temperature : Option (Measured Int)}
    (refused : validateBatteryTemperature temperature = .error state) : Repeatable state = false := by
  unfold validateBatteryTemperature at refused
  split at refused
  · cases refused
    rfl
  · cases refused

theorem evidence_cases (input : ChargeEstimateInput) : Evidence input := by
  rcases validateChargingEvidence_uniform input with stopped | charging
  · refine .refused fun estimator => ?_
    obtain ⟨after, reason, refused⟩ := stopped estimator
    exact ⟨after, .unavailable reason, by rw [validateEvidence, refused], rfl⟩
  · by_cases capacity : input.usableCapacity.verification.isTrusted = false ∨ input.usableCapacity.value = 0
    · refine .refused fun estimator => ⟨estimator, .unavailable .capacityMissing, ?_, rfl⟩
      simp only [validateEvidence, charging, if_pos capacity]
    cases level : validateBatteryLevel input.batteryLevel input.profile with
    | error state =>
      refine .refused fun estimator => ⟨estimator, state, ?_, validateBatteryLevel_error level⟩
      simp only [validateEvidence, charging, if_neg capacity, level]
    | ok confidence =>
      cases temperature : validateBatteryTemperature input.batteryTemperature with
      | error state =>
        refine .refused fun estimator => ⟨estimator, state, ?_, validateBatteryTemperature_error temperature⟩
        simp only [validateEvidence, charging, if_neg capacity, level, temperature]
      | ok done =>
        cases done
        by_cases near : nearFull (percentOr input 0)
            (input.batteryCurrent.map fun reading => reading.value.magnitudeMilliamps) = true
        · by_cases inferred : inferredCharging input = true
          · refine .nearlyFull fun estimator => ?_
            simp only [validateEvidence, charging, if_neg capacity, level, temperature, inferred, near, and_self, if_true]
          · have known := Bool.eq_false_of_not_eq_true inferred
            refine .refused fun estimator => ⟨estimator.clearWindow.clearProgress,
              if percentOr input 0 = 100 ∧ (input.batteryCurrent.map fun reading =>
                reading.value.magnitudeMilliamps).any (fun current => decide (current < 100)) = true
              then .full else .balancing, ?_, ?_⟩
            · simp only [validateEvidence, charging, if_neg capacity, level, temperature, near, known,
                Bool.false_eq_true, false_and, if_false, if_true]
            · split <;> rfl
        · cases known : input.batteryCurrent with
          | none =>
            refine .progress fun estimator => ?_
            rw [known] at near
            simp only [validateEvidence, charging, if_neg capacity, level, temperature, near, known,
              Bool.false_eq_true, and_false, if_false]
          | some reading =>
            rw [known] at near
            by_cases still : reading.value.magnitudeMilliamps = 0
            · refine .progress fun estimator => ?_
              simp only [validateEvidence, charging, if_neg capacity, level, temperature, near, known,
                Bool.false_eq_true, and_false, if_false, if_pos still]
            · by_cases small : reading.value.magnitudeMilliamps < minChargeCurrentMilliamps
              · refine .refused fun estimator => ⟨estimator.resetWithReason .chargingStopped,
                  .unavailable .currentTooSmall, ?_, rfl⟩
                simp only [validateEvidence, charging, if_neg capacity, level, temperature, near, known,
                  Bool.false_eq_true, and_false, if_false, if_neg still, if_pos small]
              · refine .sample ⟨reading.value.magnitudeMilliamps, reading,
                  if inferredCharging input = true then .low else confidence⟩ fun estimator => ?_
                simp only [validateEvidence, charging, if_neg capacity, level, temperature, near, known,
                  Bool.false_eq_true, and_false, if_false, if_neg still, if_neg small]

/-- The identity of an update is known after it, so a repeated update keeps what was collected. -/
theorem prepareIdentity_again (timely : input.Timely) (session : estimator.session = some input.session)
    (profile : estimator.profile = none ∨ estimator.profile = some input.profile) :
    estimator.prepareIdentity input = ({ estimator with profile := some input.profile }, .ok ()) := by
  have same : estimator.profile.any (fun known => known ≠ input.profile) = false := by
    rcases profile with unknown | known
    · rw [unknown]
      rfl
    · rw [known]
      simp
  unfold prepareIdentity
  rw [if_neg (Nat.not_lt_of_le timely.1), if_neg (Nat.not_lt_of_le timely.2), admitSession, if_pos session, admitProfile,
    same]
  rfl

section Estimator
variable (estimator : ChargeEstimator) (input : ChargeEstimateInput)

theorem prepareIdentity_timely :
    (∃ after state, estimator.prepareIdentity input = (after, .error state) ∧ Repeatable state = false) ∨
      (input.Timely ∧ ∃ after, estimator.prepareIdentity input = (after, .ok ()) ∧ after.session = some input.session ∧
        after.profile = some input.profile) := by
  have cases := prepareIdentity_cases estimator input
  by_cases early : input.at_ < input.observedAt
  · refine .inl ⟨estimator.resetWithReason .timestampOrder, .failed .timestampOrder, ?_, rfl⟩
    exact if_pos early
  by_cases stale : input.freshness < input.at_ - input.observedAt
  · refine .inl ⟨estimator.resetWithReason .staleGap, .stale, ?_, rfl⟩
    rw [prepareIdentity, if_neg early, if_pos stale]
  · refine .inr ⟨⟨Nat.le_of_not_lt early, Nat.le_of_not_lt stale⟩, ?_⟩
    rcases cases with ⟨after, state, refused, -⟩ | ⟨after, admitted, identity⟩
    · rw [prepareIdentity, if_neg early, if_neg stale] at refused
      cases refused
    · exact ⟨after, admitted, identity.session, identity.profile⟩

theorem recordProgress_again :
    ((((estimator.restartProgress input).recordProgress input).restartProgress input).recordProgress input) =
      (estimator.restartProgress input).recordProgress input := by
  have kept : ((estimator.restartProgress input).recordProgress input).restartProgress input =
      (estimator.restartProgress input).recordProgress input := by
    refine if_neg (not_or.mpr ⟨?_, ?_⟩)
    · simp [recordProgress]
    · unfold restartProgress recordProgress
      split
      · simp
      · next kept =>
        cases started : estimator.progressStart with
        | none => simp
        | some start =>
          rw [started] at kept
          simpa [started] using (not_or.mp kept).2
  rw [kept]
  simp [recordProgress]

theorem restartProgress_identity :
    ((estimator.restartProgress input).recordProgress input).session = estimator.session ∧
      ((estimator.restartProgress input).recordProgress input).profile = estimator.profile := by
  unfold restartProgress
  split
  · exact ⟨rfl, rfl⟩
  · exact ⟨rfl, rfl⟩

end Estimator

def forgetCurrent (estimator : ChargeEstimator) : ChargeEstimator :=
  { estimator.clearWindow with lastCurrentSource := none, lastCurrentVerification := none }

theorem progressState_recorded {recorded : ChargeEstimator} (cleared : recorded.forgetCurrent = recorded)
    (last : recorded.progressLast = some input.observedAt)
    (again : (recorded.restartProgress input).recordProgress input = recorded) :
    recorded.progressState input = (recorded, recorded.progressEstimate input) := by
  have early : recorded.forgetCurrent.progressLast.any (fun last => decide (input.observedAt < last)) = false := by
    rw [cleared, last, Option.any_some, decide_eq_false (Nat.lt_irrefl _)]
  have gap : recorded.forgetCurrent.progressLast.any
      (fun last => decide (input.freshness < input.observedAt - last)) = false := by
    rw [cleared, last, Option.any_some, Nat.sub_self, decide_eq_false (Nat.not_lt_zero _)]
  refine (if_neg (ne_true_of_eq_false early)).trans ((if_neg (ne_true_of_eq_false gap)).trans ?_)
  show ((recorded.forgetCurrent.restartProgress input).recordProgress input,
    ((recorded.forgetCurrent.restartProgress input).recordProgress input).progressEstimate input) = _
  rw [cleared, again]

theorem progressState_again (progressed : estimator.progressState input = (after, state))
    (repeatable : Repeatable state = true) :
    after.progressState input = (after, state) ∧ after.session = estimator.session ∧ after.profile = estimator.profile := by
  unfold progressState at progressed
  dsimp only at progressed
  split at progressed
  · cases progressed
    cases repeatable
  · split at progressed
    · cases progressed
      cases repeatable
    · cases progressed
      refine ⟨progressState_recorded ?_ rfl (recordProgress_again _ input), restartProgress_identity _ input⟩
      unfold restartProgress
      split <;> rfl

theorem prepare_identity {prepared : ChargeEstimator} (taken : estimator.prepare input = (prepared, .ok sample)) :
    prepared.session = some input.session ∧ (prepared.profile = none ∨ prepared.profile = some input.profile) := by
  have cases := prepare_cases estimator input
  rw [taken] at cases
  cases cases with
  | restarts _ empty session profile current => exact ⟨session, profile⟩
  | joins _ continues agrees current => exact ⟨continues.session, .inr continues.profile⟩

theorem observe_last (window : CurrentRateWindow) (at_ : Nat) (current : Int) :
    (window.observe at_ current).replays at_ current = true := by
  unfold CurrentRateWindow.observe
  split
  · assumption
  · dsimp only
    split
    · simp [CurrentRateWindow.replays]
    · simp [CurrentRateWindow.replays]

theorem prepareSample_again {admitted : ChargeEstimator} (last : admitted.window.last = some input.observedAt)
    (source : admitted.lastCurrentSource = some sample.batteryCurrent.source)
    (verification : admitted.lastCurrentVerification = some sample.batteryCurrent.verification)
    (modeSource : admitted.lastChargeModeSource = some input.chargeMode.source)
    (modeVerification : admitted.lastChargeModeVerification = some input.chargeMode.verification)
    (capacity : admitted.capacity = some input.usableCapacity) :
    admitted.prepareSample input sample = (admitted, .ok ()) := by
  have unchanged : admitted.evidenceChanged input sample = false := by
    simp [evidenceChanged, source, verification, modeSource, modeVerification]
  have known : admitted.capacity.any (fun known => known ≠ input.usableCapacity) = false := by
    simp [capacity]
  simp only [prepareSample, last, Option.any_some, Nat.lt_irrefl, Nat.sub_self, Nat.not_lt_zero, decide_false,
    Bool.false_eq_true, if_false, admitEvidence, unchanged, admitCapacity, known]

theorem prepareSample_error (refused : estimator.prepareSample input sample = (after, .error state)) :
    Repeatable state = false := by
  unfold prepareSample at refused
  split at refused
  · cases refused
    rfl
  · split at refused
    · cases refused
      rfl
    · cases refused

/-- An update that is repeated after a result that stands gives that result again. -/
theorem update_again (estimator : ChargeEstimator) (input : ChargeEstimateInput)
    (repeatable : Repeatable (estimator.update input).2 = true) :
    ((estimator.update input).1.update input).2 = (estimator.update input).2 := by
  rcases prepareIdentity_timely estimator input with ⟨after, state, refused, unsettled⟩ | ⟨timely, identified, admitted, session, profile⟩
  · rw [update, prepare, refused] at repeatable
    exact absurd (repeatable.symm.trans unsettled) (by decide)
  cases evidence_cases input with
  | refused refused =>
    obtain ⟨after, state, found, unsettled⟩ := refused identified
    rw [update, prepare, admitted] at repeatable
    simp only [found] at repeatable
    exact absurd (repeatable.symm.trans unsettled) (by decide)
  | nearlyFull same =>
    have first : estimator.update input = (identified.clearWindow.clearProgress, .collectingSamples 0 0) := by
      simp only [update, prepare, admitted, same]
    have again := @prepareIdentity_again input identified.clearWindow.clearProgress timely session (.inr profile)
    rw [first]
    simp only [update, prepare, again, same]
  | progress same =>
    cases progressed : identified.progressState input with
    | mk after state =>
      have first : estimator.update input = (after, state) := by
        simp only [update, prepare, admitted, same, progressed]
      rw [first] at repeatable ⊢
      obtain ⟨still, keptSession, keptProfile⟩ := progressState_again progressed repeatable
      have again := @prepareIdentity_again input after timely (keptSession.trans session) (.inr (keptProfile.trans profile))
      have unmoved : { after with profile := some input.profile } = after := by
        rw [← keptProfile.trans profile]
      rw [unmoved] at again
      simp only [update, prepare, again, same, still]
  | sample sample same =>
    cases placed : identified.clearProgress.prepareSample input sample with
    | mk prepared result =>
      cases result with
      | error state =>
        have first : estimator.update input = (prepared, state) := by
          simp only [update, prepare, admitted, same, placed]
        rw [first] at repeatable
        exact absurd (repeatable.symm.trans (prepareSample_error placed)) (by decide)
      | ok done =>
        cases done
        have first : estimator.update input =
            (prepared.admitSample input sample, (prepared.admitSample input sample).currentState input sample.levelConfidence) := by
          simp only [update, prepare, admitted, same, placed]
        have identity := prepare_identity (show estimator.prepare input = (prepared, .ok sample) by
          simp only [prepare, admitted, same, placed])
        have replays := observe_last prepared.window input.observedAt sample.current
        have last : (prepared.admitSample input sample).window.last = some input.observedAt :=
          (of_decide_eq_true replays).1
        have again := @prepareIdentity_again input (prepared.admitSample input sample) timely identity.1 identity.2
        have settled := @prepareSample_again input sample
          { prepared.admitSample input sample with profile := some input.profile }.clearProgress last rfl rfl rfl rfl rfl
        rw [first]
        simp only [update, prepare, again, same, settled]
        unfold currentState
        have window : ({ prepared.admitSample input sample with profile := some input.profile }.clearProgress.admitSample
            input sample).window = (prepared.admitSample input sample).window := observe_replays replays
        rw [window]

/-- An estimate from the progress of the level is halved and doubled for its bounds. -/
theorem progressEstimate_available (bounded : input.usableCapacity.value ≤ u32Max)
    (available : estimator.progressEstimate input = .available estimate) :
    estimate.kind = .observedProgressTimeToFull ∧ estimate.lower ≤ estimate.expected ∧ estimate.expected ≤ estimate.upper := by
  unfold progressEstimate at available
  dsimp only at available
  split at available
  · cases available
  · split at available
    · cases available
    · split at available
      · cases available
      · split at available
        · cases available
        · next rate found =>
          rw [calculateEstimate_exact bounded] at available
          cases available
          have fits : input.timeAt rate ≤ u64Max := le_trans (timeAt_le bounded rate) (by decide)
          refine ⟨rfl, Nat.div_le_self _ _, ?_⟩
          show input.timeAt rate ≤ min (input.timeAt rate * 2) u64Max
          omega

theorem progressState_available (bounded : input.usableCapacity.value ≤ u32Max)
    (available : (estimator.progressState input).2 = .available estimate) :
    estimate.kind = .observedProgressTimeToFull ∧ estimate.lower ≤ estimate.expected ∧ estimate.expected ≤ estimate.upper := by
  unfold progressState at available
  dsimp only at available
  split at available
  · cases available
  · split at available
    · cases available
    · exact progressEstimate_available bounded available

/-- What the checks of an update answer themselves is no estimate at the present current. -/
theorem prepare_available (bounded : input.usableCapacity.value ≤ u32Max)
    (available : (estimator.prepare input).2 = .error (.available estimate)) :
    estimate.kind = .observedProgressTimeToFull ∧ estimate.lower ≤ estimate.expected ∧ estimate.expected ≤ estimate.upper := by
  rcases prepareIdentity_timely estimator input with ⟨after, state, refused, unsettled⟩ | ⟨-, identified, admitted, -, -⟩
  · rw [prepare, refused] at available
    cases available
    cases unsettled
  cases evidence_cases input with
  | refused refused =>
    obtain ⟨after, state, found, unsettled⟩ := refused identified
    simp only [prepare, admitted, found] at available
    cases available
    cases unsettled
  | nearlyFull same =>
    simp only [prepare, admitted, same] at available
    cases available
  | progress same =>
    simp only [prepare, admitted, same, Except.error.injEq] at available
    exact progressState_available bounded available
  | sample sample same =>
    cases placed : identified.clearProgress.prepareSample input sample with
    | mk prepared result =>
      cases result with
      | error state =>
        simp only [prepare, admitted, same, placed] at available
        cases available
        cases prepareSample_error placed
      | ok done =>
        simp only [prepare, admitted, same, placed] at available
        cases available

structure RestsOn (samples : List ChargeEstimateInput) (input : ChargeEstimateInput) (estimate : ChargeTimeEstimate) :
    Prop where
  enough : 3 ≤ samples.length
  long : ∃ first last, samples.head? = some first ∧ samples.getLast? = some last ∧
    first.observedAt + 30000 ≤ last.observedAt
  summarizes : Summarizes samples estimate.currentRate
  expected : estimate.expected =
    (((input.usableCapacity.value * (100 - percentOr input 100)) ⌈/⌉ 100) * 3600000) ⌈/⌉ estimate.currentRate.mean.milliamps
  -- The bounds too are the exact ones.
  exact : ∃ levelConfidence, estimate = exactEstimate input estimate.currentRate levelConfidence

theorem currentState_cases (accounts : Accounts samples estimator.window)
    (last : estimator.window.last = some input.observedAt) (bounded : input.usableCapacity.value ≤ u32Max)
    (levelConfidence : EstimateConfidence) :
    (∃ counted observedFor, estimator.currentState input levelConfidence = .collectingSamples counted observedFor) ∨
    estimator.currentState input levelConfidence = .unavailable .unstableCurrent ∨
    ∃ estimate, estimator.currentState input levelConfidence = .available estimate ∧ RestsOn samples input estimate := by
  unfold currentState
  dsimp only
  split
  · exact .inl ⟨_, _, rfl⟩
  · next collected =>
    obtain ⟨enough, long⟩ := not_or.mp collected
    have nonempty : samples ≠ [] := by
      intro none
      rw [accounts.count_zero.mpr none] at enough
      exact enough (by decide)
    obtain ⟨summary, found, summarizes⟩ := accounts.summary nonempty
    rw [found]
    dsimp only
    split
    · exact .inr (.inl rfl)
    · rw [calculateEstimate_exact bounded]
      refine .inr (.inr ⟨exactEstimate input summary levelConfidence, rfl, ?_, ?_, summarizes, rfl, levelConfidence, rfl⟩)
      · rw [accounts.counted] at enough
        unfold minSamples at enough
        omega
      · obtain ⟨final, ends, same⟩ := Option.map_eq_some_iff.mp (accounts.last.symm.trans last)
        cases samples with
        | nil => exact absurd rfl nonempty
        | cons first later =>
          refine ⟨first, final, rfl, ends, ?_⟩
          rw [accounts.started] at long
          simp only [List.head?_cons, Option.map_some, Option.getD_some, minObservationMilliseconds, Nat.not_lt] at long
          omega

theorem RestsOn.ordered (rests : RestsOn samples input estimate) :
    estimate.lower ≤ estimate.expected ∧ estimate.expected ≤ estimate.upper := by
  obtain ⟨levelConfidence, same⟩ := rests.exact
  rw [same]
  exact exactEstimate_ordered rests.summarizes.mean_low rests.summarizes.mean_high levelConfidence

/-- An update is answered by its checks, or from the window its sample joined. -/
theorem update_path (estimator : ChargeEstimator) (bounded : input.usableCapacity.value ≤ u32Max)
    (accounts : Accounts samples (estimator.update input).1.window) :
    (∃ state, (estimator.prepare input).2 = .error state ∧ (estimator.update input).2 = state) ∨
    ∃ sample, (estimator.prepare input).2 = .ok sample ∧ 0 < (estimator.update input).1.window.meanQ8 ∧
      ((∃ counted observedFor, (estimator.update input).2 = .collectingSamples counted observedFor) ∨
        (estimator.update input).2 = .unavailable .unstableCurrent ∨
        ∃ estimate, (estimator.update input).2 = .available estimate ∧ RestsOn samples input estimate) := by
  unfold update at accounts ⊢
  cases prepared : estimator.prepare input with
  | mk after result =>
    rw [prepared] at accounts
    cases result with
    | error state => exact .inl ⟨state, rfl, rfl⟩
    | ok sample =>
      have last : (after.admitSample input sample).window.last = some input.observedAt :=
        (of_decide_eq_true (observe_last after.window input.observedAt sample.current)).1
      refine .inr ⟨sample, rfl, ?_, currentState_cases accounts last bounded sample.levelConfidence⟩
      have nonempty : samples ≠ [] := by
        intro none
        rw [none] at accounts
        cases accounts.last.symm.trans last
      have within := rateOf_within nonempty accounts.inRange
      have positive := within.mean_low
      rw [← accounts.mean] at positive
      exact lt_of_lt_of_le (by decide) positive

/-- After every run of updates, an estimate lies between its bounds; at the present current it rests on at
least three samples over thirty seconds, with their exact extrema and a mean between them, and every step
of its arithmetic is exact; and an update repeated after a result that stands gives that result again. -/
theorem charge_estimates_are_well_founded (updates : List ChargeEstimateInput) (input : ChargeEstimateInput)
    (capacity : input.usableCapacity.value ≤ u32Max) :
    (∀ estimate, ((Runs.final update {} updates).update input).2 = .available estimate →
      estimate.lower ≤ estimate.expected ∧ estimate.expected ≤ estimate.upper) ∧
    (∀ estimate, ((Runs.final update {} updates).update input).2 = .available estimate →
      estimate.kind = .atPresentCurrent →
      RestsOn (windowSamples (Runs.history update {} (updates ++ [input]))) input estimate) ∧
    (∀ sample, ((Runs.final update {} updates).prepare input).2 = .ok sample →
      Accounts (windowSamples (Runs.history update {} (updates ++ [input])))
        ((Runs.final update {} updates).update input).1.window ∧
      0 < ((Runs.final update {} updates).update input).1.window.meanQ8 ∧
      ∀ error, ((Runs.final update {} updates).update input).2 ≠ .failed error) ∧
    (((∃ samples observedFor, ((Runs.final update {} updates).update input).2 = .collectingSamples samples observedFor) ∨
      ∃ estimate, ((Runs.final update {} updates).update input).2 = .available estimate) →
      (((Runs.final update {} updates).update input).1.update input).2 =
        ((Runs.final update {} updates).update input).2) := by
  have accounts := run_accounts (updates ++ [input])
  rw [Runs.final_append] at accounts
  generalize windowSamples (Runs.history update {} (updates ++ [input])) = samples at accounts ⊢
  change Accounts samples ((Runs.final update {} updates).update input).1.window at accounts
  generalize Runs.final update {} updates = estimator at accounts ⊢
  refine ⟨?_, ?_, ?_, ?_⟩
  · intro estimate available
    rcases update_path estimator capacity accounts with ⟨state, answered, same⟩ | ⟨sample, taken, -, cases⟩
    · rw [same] at available
      rw [available] at answered
      exact (prepare_available capacity answered).2
    · rcases cases with ⟨counted, observedFor, same⟩ | same | ⟨found, same, rests⟩
      · rw [same] at available
        cases available
      · rw [same] at available
        cases available
      · rw [same] at available
        cases available
        exact rests.ordered
  · intro estimate available present
    rcases update_path estimator capacity accounts with ⟨state, answered, same⟩ | ⟨sample, taken, -, cases⟩
    · rw [same] at available
      rw [available] at answered
      rw [(prepare_available capacity answered).1] at present
      cases present
    · rcases cases with ⟨counted, observedFor, same⟩ | same | ⟨found, same, rests⟩
      · rw [same] at available
        cases available
      · rw [same] at available
        cases available
      · rw [same] at available
        cases available
        exact rests
  · intro sample taken
    rcases update_path estimator capacity accounts with ⟨state, answered, -⟩ | ⟨other, -, positive, cases⟩
    · rw [answered] at taken
      cases taken
    · refine ⟨accounts, positive, ?_⟩
      intro error failed
      rcases cases with ⟨counted, observedFor, same⟩ | same | ⟨found, same, -⟩
      · rw [same] at failed
        cases failed
      · rw [same] at failed
        cases failed
      · rw [same] at failed
        cases failed
  · intro stands
    apply update_again
    rcases stands with ⟨counted, observedFor, same⟩ | ⟨estimate, same⟩
    · rw [same]
      rfl
    · rw [same]
      rfl

/-- Three readings of two amperes over thirty seconds, at half of ten ampere-hours. -/
theorem half_charge_takes_two_and_a_half_hours :
    ((Runs.final update {} [chargingReading 0 1 .reported, chargingReading 15000 1 .reported]).update
      (chargingReading 30000 1 .reported)).2 = .available (exactEstimate (chargingReading 30000 1 .reported)
        ⟨⟨2000, by decide, by decide⟩, ⟨2000, by decide, by decide⟩, ⟨2000, by decide, by decide⟩, 0⟩ .high) ∧
    (exactEstimate (chargingReading 30000 1 .reported)
      ⟨⟨2000, by decide, by decide⟩, ⟨2000, by decide, by decide⟩, ⟨2000, by decide, by decide⟩, 0⟩ .high).expected = 9000000 ∧
    RestsOn (windowSamples (Runs.history update {}
        ([chargingReading 0 1 .reported, chargingReading 15000 1 .reported] ++ [chargingReading 30000 1 .reported])))
      (chargingReading 30000 1 .reported) (exactEstimate (chargingReading 30000 1 .reported)
        ⟨⟨2000, by decide, by decide⟩, ⟨2000, by decide, by decide⟩, ⟨2000, by decide, by decide⟩, 0⟩ .high) := by
  have result : ((Runs.final update {} [chargingReading 0 1 .reported, chargingReading 15000 1 .reported]).update
      (chargingReading 30000 1 .reported)).2 = .available (exactEstimate (chargingReading 30000 1 .reported)
        ⟨⟨2000, by decide, by decide⟩, ⟨2000, by decide, by decide⟩, ⟨2000, by decide, by decide⟩, 0⟩ .high) := by
    decide
  refine ⟨result, by decide, ?_⟩
  exact (charge_estimates_are_well_founded [chargingReading 0 1 .reported, chargingReading 15000 1 .reported]
    (chargingReading 30000 1 .reported) (by decide)).2.1 _ result rfl

end ChargeEstimator

end Cutout.Core

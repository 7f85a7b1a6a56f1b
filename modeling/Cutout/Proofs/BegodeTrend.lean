import Cutout.BegodeCharging
import Cutout.Library.RunningPeak

/-! The voltage trend as a series of readings. Baseline, peak, last rise and count of rises
summarise the readings taken in since the baseline, and charging is concluded from them
alone. -/

namespace Cutout.Begode
open Library
open Cutout.Protocols (i32Min i32Max)

theorem le_saturatingSub {bound a b : Int} (least : i32Min < bound) (greatest : bound ≤ i32Max) :
    bound ≤ saturatingSub a b ↔ bound ≤ a - b := by
  unfold saturatingSub
  omega

def raises (peak mv : Int) : Bool := decide (materialRiseMv ≤ mv - peak)

def drops (peak mv : Int) : Bool := decide (stopDropMv ≤ peak - mv)

def apart (last at_ : Nat) : Bool := decide (increaseSpacing ≤ elapsed last at_)

abbrev Readings := List (Reading Int Nat)

/-- Some reading lies high enough above the baseline, and late enough behind it. -/
def Risen (readings : Readings) : Prop :=
  ∃ base, readings.getLast? = some base ∧
    ∃ reading ∈ readings, base.value + requiredRiseMv ≤ reading.value ∧ base.time + trend ≤ reading.time

theorem Risen.later {readings : Readings} (risen : Risen readings) (reading : Reading Int Nat) : Risen (reading :: readings) := by
  obtain ⟨base, oldest, high, member, rises⟩ := risen
  refine ⟨base, ?_, high, List.mem_cons_of_mem _ member, rises⟩
  rw [List.getLast?_cons, oldest]
  rfl

namespace BegodeCharging
variable {state before after : BegodeCharging} {readings : Readings} {mv : Int} {at_ : Nat}
variable {peak : Int} {last : Nat}

structure Follows (state : BegodeCharging) (readings : Readings) : Prop where
  baseline : state.baselineMv = readings.getLast?.map Reading.value
  started : state.trendStartedAt = readings.getLast?.map Reading.time
  peak : state.peakMv = runningPeak raises readings
  lastRise : state.lastRiseAt = (spacedRises raises apart readings).head?.map Reading.time
  rises : state.rises = min (spacedRises raises apart readings).length 255
  sustained : Sustained raises drops readings
  concluded : state.charging = true → 3 ≤ (spacedRises raises apart readings).length ∧ Risen readings

structure SameTrend (before after : BegodeCharging) : Prop where
  baseline : after.baselineMv = before.baselineMv
  started : after.trendStartedAt = before.trendStartedAt
  peak : after.peakMv = before.peakMv
  lastRise : after.lastRiseAt = before.lastRiseAt
  rises : after.rises = before.rises
  charging : after.charging = before.charging

theorem SameTrend.refl : SameTrend state state := ⟨rfl, rfl, rfl, rfl, rfl, rfl⟩

theorem Follows.congr (follows : Follows before readings) (same : SameTrend before after) : Follows after readings where
  baseline := same.baseline.trans follows.baseline
  started := same.started.trans follows.started
  peak := same.peak.trans follows.peak
  lastRise := same.lastRise.trans follows.lastRise
  rises := same.rises.trans follows.rises
  sustained := follows.sustained
  concluded charging := follows.concluded (same.charging.symm.trans charging)

theorem resetTrend_follows : Follows state.resetTrend [] where
  baseline := rfl
  started := rfl
  peak := rfl
  lastRise := rfl
  rises := rfl
  sustained := trivial
  concluded charging := absurd charging (by simp [resetTrend])

theorem stopOnDrop_follows (mv : Int) (follows : Follows state readings) :
    ∃ kept, (state.stopOnDrop mv = state ∧ kept = readings ∨ state.stopOnDrop mv = state.resetTrend ∧ kept = []) ∧
      Follows (state.stopOnDrop mv) kept ∧ ∀ peak, runningPeak raises kept = some peak → drops peak mv = false := by
  unfold stopOnDrop
  split
  · refine ⟨[], .inr ⟨rfl, rfl⟩, resetTrend_follows, ?_⟩
    intro peak held
    cases held
  next steady =>
    refine ⟨readings, .inl ⟨rfl, rfl⟩, follows, ?_⟩
    intro peak held
    rw [follows.peak, held, Option.any_some, decide_eq_true_eq, le_saturatingSub (by decide) (by decide)] at steady
    exact decide_eq_false steady

theorem startTrend_begun {base : Int} (settled : state.baselineMv = some base) (known : state.peakMv = some peak) :
    state.startTrend mv at_ = state := by
  have begun : state.baselineMv.isNone = false := by
    rw [settled]
    rfl
  simp only [startTrend, begun, Bool.false_eq_true, if_false, known, Option.getD_some]
  rw [← known]

theorem raises_kept (known : state.peakMv = some peak) :
    (state.peakMv.any fun peak => materialRiseMv ≤ saturatingSub mv peak) = raises peak mv := by
  rw [known, Option.any_some, raises]
  exact decide_eq_decide.mpr (le_saturatingSub (by decide) (by decide))

theorem countRise_follows (follows : Follows state readings)
    (steady : ∀ peak, runningPeak raises readings = some peak → drops peak mv = false) :
    Follows ((state.startTrend mv at_).countRise mv at_) (⟨mv, at_⟩ :: readings) := by
  cases held : runningPeak raises readings with
  | none =>
    rw [runningPeak_eq_none] at held
    subst held
    have idle : state.charging = false := by
      by_contra charging
      exact absurd (follows.concluded (Bool.eq_true_of_not_eq_false charging)).1 (by simp [spacedRises])
    have started : (state.startTrend mv at_).countRise mv at_ =
        { state with baselineMv := some mv, trendStartedAt := some at_, peakMv := some mv } := by
      have flat : ¬ materialRiseMv ≤ saturatingSub mv mv := by
        rw [le_saturatingSub (by decide) (by decide), Int.sub_self]
        decide
      simp [startTrend, countRise, follows.baseline, follows.peak, runningPeak, flat]
    rw [started]
    exact ⟨rfl, rfl, rfl, follows.lastRise, follows.rises, ⟨steady, trivial⟩, fun charging => absurd charging (by simp [idle])⟩
  | some peak =>
    have known : state.peakMv = some peak := follows.peak.trans held
    obtain ⟨base, oldest⟩ : ∃ base, readings.getLast? = some base := by
      refine Option.ne_none_iff_exists'.mp fun empty => ?_
      rw [List.getLast?_eq_none_iff.mp empty] at held
      cases held
    have still : (Reading.mk mv at_ :: readings).getLast? = readings.getLast? := by
      rw [List.getLast?_cons, oldest]
      rfl
    have begun : state.startTrend mv at_ = state :=
      startTrend_begun (follows.baseline.trans (congrArg _ oldest)) known
    have rise : isRise raises ⟨mv, at_⟩ readings = raises peak mv := isRise_eq held
    have far : (state.lastRiseAt.all fun last => increaseSpacing ≤ elapsed last at_) =
        (spacedRises raises apart readings).head?.all fun last => apart last.time at_ := by
      rw [follows.lastRise, Option.all_map]
      rfl
    have concluded (count : List (Reading Int Nat)) (more : (spacedRises raises apart readings).length ≤ count.length)
        (charging : state.charging = true) : 3 ≤ count.length ∧ Risen (⟨mv, at_⟩ :: readings) :=
      ⟨(follows.concluded charging).1.trans more, (follows.concluded charging).2.later ⟨mv, at_⟩⟩
    rw [begun, countRise, raises_kept known, far]
    by_cases material : raises peak mv = true
    · by_cases counts : ((spacedRises raises apart readings).head?.all fun last => apart last.time at_) = true
      · have spaced : spacedRises raises apart (⟨mv, at_⟩ :: readings) = ⟨mv, at_⟩ :: spacedRises raises apart readings := by
          rw [spacedRises, rise, material, counts, Bool.and_self, if_pos rfl]
        rw [if_pos material, if_pos counts]
        refine ⟨by rw [still]; exact follows.baseline, by rw [still]; exact follows.started, ?_, ?_, ?_,
          ⟨steady, follows.sustained⟩, ?_⟩
        · rw [runningPeak_cons held, if_pos material]
        · rw [spaced]
          rfl
        · rw [spaced, List.length_cons]
          show min (state.rises + 1) 255 = _
          rw [follows.rises]
          omega
        · rw [spaced]
          exact concluded _ (by rw [List.length_cons]; omega)
      · have spaced : spacedRises raises apart (⟨mv, at_⟩ :: readings) = spacedRises raises apart readings := by
          rw [spacedRises, if_neg (by simp [counts])]
        rw [if_pos material, if_neg counts]
        refine ⟨by rw [still]; exact follows.baseline, by rw [still]; exact follows.started, ?_,
          by rw [spaced]; exact follows.lastRise, by rw [spaced]; exact follows.rises, ⟨steady, follows.sustained⟩, ?_⟩
        · rw [runningPeak_cons held, if_pos material]
        · rw [spaced]
          exact concluded _ le_rfl
    · have spaced : spacedRises raises apart (⟨mv, at_⟩ :: readings) = spacedRises raises apart readings := by
        rw [spacedRises, rise, if_neg (by simp [material])]
      rw [if_neg material]
      refine ⟨by rw [still]; exact follows.baseline, by rw [still]; exact follows.started, ?_,
        by rw [spaced]; exact follows.lastRise, by rw [spaced]; exact follows.rises, ⟨steady, follows.sustained⟩, ?_⟩
      · rw [runningPeak_cons held, if_neg material]
        exact known
      · rw [spaced]
        exact concluded _ le_rfl

theorem conclude_follows (follows : Follows state (⟨mv, at_⟩ :: readings)) :
    Follows (state.conclude mv at_) (⟨mv, at_⟩ :: readings) := by
  unfold conclude
  split
  next enough =>
    simp only [Bool.and_eq_true, decide_eq_true_eq, Option.any_eq_true, follows.baseline, follows.started,
      Option.map_eq_some_iff] at enough
    obtain ⟨⟨rises, _, ⟨base, oldest, rfl⟩, high⟩, _, ⟨_, same, rfl⟩, late⟩ := enough
    cases oldest.symm.trans same
    rw [le_saturatingSub (by decide) (by decide)] at high
    refine ⟨follows.baseline, follows.started, follows.peak, follows.lastRise, follows.rises, follows.sustained, ?_⟩
    intro _
    rw [follows.rises] at rises
    refine ⟨by omega, base, oldest, ⟨mv, at_⟩, List.mem_cons_self, ?_, ?_⟩
    · exact by dsimp only; omega
    · unfold elapsed trend at late
      unfold trend
      dsimp only
      omega
  · exact follows

theorem followVoltage_follows (mv : Int) (at_ : Nat) (follows : Follows state readings) :
    ∃ kept, (kept = readings ∨ kept = []) ∧ Follows (state.followVoltage mv at_) (⟨mv, at_⟩ :: kept) := by
  obtain ⟨kept, which, started, steady⟩ := stopOnDrop_follows mv follows
  refine ⟨kept, which.imp And.right And.right, conclude_follows ?_⟩
  exact (countRise_follows started steady).congr ⟨rfl, rfl, rfl, rfl, rfl, rfl⟩

/-- The reading completes a trend whose last rise is too old to count. -/
structure LateReading (state : BegodeCharging) (mv : Int) (at_ : Nat) : Prop where
  waiting : state.charging = false
  rises : 3 ≤ state.rises
  old : ∃ last, state.lastRiseAt = some last ∧ last + trend < at_
  high : ∃ base, state.baselineMv = some base ∧ base + requiredRiseMv ≤ mv
  flat : ∃ peak, state.peakMv = some peak ∧ mv < peak + materialRiseMv

theorem conclude_lastRiseAt : (state.conclude mv at_).lastRiseAt = state.lastRiseAt := by
  unfold conclude
  split
  · rfl
  · rfl

theorem countRise_old (known : state.peakMv = some peak) (rise : (state.countRise mv at_).lastRiseAt = some last)
    (old : last + trend < at_) : raises peak mv = false ∧ state.countRise mv at_ = state := by
  unfold countRise at rise ⊢
  rw [raises_kept known] at rise ⊢
  by_cases material : raises peak mv = true
  · rw [if_pos material] at rise
    split at rise
    · cases rise
      omega
    next soon =>
      rw [show state.lastRiseAt = some last from rise, Option.all_some, decide_eq_true_eq] at soon
      unfold elapsed increaseSpacing at soon
      unfold trend at old
      omega
  · exact ⟨Bool.eq_false_of_not_eq_true material, if_neg material⟩

/-- Charging with an old rise is the conclusion from a late reading. -/
theorem followVoltage_late (follows : Follows state readings)
    (timely : state.charging = true → ∀ last, state.lastRiseAt = some last → at_ ≤ last + trend)
    (charging : (state.followVoltage mv at_).charging = true)
    (rise : (state.followVoltage mv at_).lastRiseAt = some last) (old : last + trend < at_) :
    LateReading state mv at_ := by
  obtain ⟨kept, which, started, steady⟩ := stopOnDrop_follows mv follows
  have summed : Follows (state.followVoltage mv at_) (⟨mv, at_⟩ :: kept) :=
    conclude_follows ((countRise_follows started steady).congr ⟨rfl, rfl, rfl, rfl, rfl, rfl⟩)
  have three := (summed.concluded charging).1
  cases held : runningPeak raises kept with
  | none =>
    rw [runningPeak_eq_none.mp held] at three
    exact absurd three (by simp [spacedRises, isRise, runningPeak])
  | some peak =>
    rcases which with ⟨same, rfl⟩ | ⟨-, rfl⟩
    · have known : state.peakMv = some peak := follows.peak.trans held
      obtain ⟨base, oldest⟩ : ∃ base, kept.getLast? = some base := by
        refine Option.ne_none_iff_exists'.mp fun empty => ?_
        rw [List.getLast?_eq_none_iff.mp empty] at held
        cases held
      have settled : state.baselineMv = some base.value := follows.baseline.trans (congrArg _ oldest)
      rw [followVoltage, same, startTrend_begun settled known] at charging rise
      rw [conclude_lastRiseAt] at rise
      obtain ⟨flat, kept⟩ := countRise_old known rise old
      rw [kept] at charging rise
      have waiting : state.charging = false := by
        by_contra concluded
        have soon := timely (Bool.eq_true_of_not_eq_false concluded) last rise
        omega
      unfold conclude at charging
      split at charging
      next enough =>
        simp only [settled, Bool.and_eq_true, decide_eq_true_eq, Option.any_some] at enough
        refine ⟨waiting, enough.1.1, ⟨last, rise, old⟩, ⟨base.value, settled, ?_⟩, peak, known, ?_⟩
        · rw [le_saturatingSub (by decide) (by decide)] at enough
          omega
        · have low := of_decide_eq_false flat
          omega
      · exact absurd charging (by rw [waiting]; exact Bool.false_ne_true)
    · cases held

theorem followVoltage_flat (follows : Follows state readings) (known : state.peakMv = some peak)
    (flat : mv < peak + materialRiseMv) (charging : (state.followVoltage mv at_).charging = true) :
    (state.followVoltage mv at_).lastRiseAt = state.lastRiseAt := by
  obtain ⟨kept, which, started, steady⟩ := stopOnDrop_follows mv follows
  have summed : Follows (state.followVoltage mv at_) (⟨mv, at_⟩ :: kept) :=
    conclude_follows ((countRise_follows started steady).congr ⟨rfl, rfl, rfl, rfl, rfl, rfl⟩)
  rcases which with ⟨same, rfl⟩ | ⟨-, rfl⟩
  · obtain ⟨base, settled⟩ : ∃ base, state.baselineMv = some base := by
      rw [follows.baseline]
      cases kept with
      | nil => cases follows.peak.symm.trans known
      | cons newest older => exact ⟨_, by rw [List.getLast?_cons]; rfl⟩
    have level : raises peak mv = false := decide_eq_false (by omega)
    rw [followVoltage, same, startTrend_begun settled known, conclude_lastRiseAt, countRise, raises_kept known, level,
      if_neg Bool.false_ne_true]
  · exact absurd (summed.concluded charging).1 (by simp [spacedRises, isRise, runningPeak])

/-- A voltage joins a trend of a settled wheel, or the trend is gone. -/
theorem observeVoltage_follows (mv : Int) (follows : Follows state readings) (new : state.lastVoltageAt ≠ some at_)
    (settled : readings ≠ [] → ∃ start, state.stationarySince = some start ∧ start + settle ≤ at_) :
    Follows (state.observeVoltage mv at_) [] ∨
      ∃ kept, (kept = readings ∨ kept = []) ∧ Follows (state.observeVoltage mv at_) (⟨mv, at_⟩ :: kept) ∧
        ∃ start, state.stationarySince = some start ∧ start + settle ≤ at_ := by
  unfold observeVoltage
  rw [if_neg new]
  split
  · have gone : Follows state.resetTrend [] := resetTrend_follows
    exact .inl (gone.congr ⟨rfl, rfl, rfl, rfl, rfl, rfl⟩)
  split
  · exact .inl resetTrend_follows
  split
  next young =>
    have idle : readings = [] := by
      by_contra busy
      obtain ⟨start, standing, past⟩ := settled busy
      rw [standing, Option.all_some, decide_eq_true_eq] at young
      unfold elapsed at young
      omega
    rw [idle] at follows
    exact .inl (follows.congr ⟨rfl, rfl, rfl, rfl, rfl, rfl⟩)
  next old =>
    obtain ⟨kept, which, joined⟩ := followVoltage_follows mv at_ follows
    refine .inr ⟨kept, which, joined, ?_⟩
    cases standing : state.stationarySince with
    | none => exact absurd (by rw [standing]; rfl) old
    | some start =>
      rw [standing, Option.all_some, decide_eq_true_eq] at old
      unfold elapsed at old
      refine ⟨start, rfl, ?_⟩
      have positive : 0 < settle := by decide
      omega

theorem observeVoltage_late (follows : Follows state readings)
    (timely : state.charging = true → ∀ last, state.lastRiseAt = some last → at_ ≤ last + trend)
    (charging : (state.observeVoltage mv at_).charging = true)
    (rise : (state.observeVoltage mv at_).lastRiseAt = some last) (old : last + trend < at_) :
    state.lastVoltageAt ≠ some at_ ∧ LateReading state mv at_ := by
  have kept (concluded : state.charging = true) (same : state.lastRiseAt = some last) : False := by
    have soon := timely concluded last same
    omega
  unfold observeVoltage at charging rise
  by_cases repeated : state.lastVoltageAt = some at_
  · rw [if_pos repeated] at charging rise
    exact (kept charging rise).elim
  · refine ⟨repeated, ?_⟩
    rw [if_neg repeated] at charging rise
    split at charging
    · cases charging
    next positive =>
      rw [if_neg positive] at rise
      split at charging
      · cases charging
      next ordered =>
        rw [if_neg ordered] at rise
        split at charging
        next young =>
          rw [if_pos young] at rise
          exact (kept charging rise).elim
        next settled =>
          rw [if_neg settled] at rise
          exact followVoltage_late follows timely charging rise old

theorem observeVoltage_flat (follows : Follows state readings) (known : state.peakMv = some peak)
    (flat : mv < peak + materialRiseMv) (charging : (state.observeVoltage mv at_).charging = true) :
    (state.observeVoltage mv at_).lastRiseAt = state.lastRiseAt := by
  unfold observeVoltage at charging ⊢
  split at charging
  next repeated => rw [if_pos repeated]
  next new =>
    rw [if_neg new]
    split at charging
    · cases charging
    next positive =>
      rw [if_neg positive]
      split at charging
      · cases charging
      next ordered =>
        rw [if_neg ordered]
        split at charging
        next young => rw [if_pos young]
        next settled =>
          rw [if_neg settled]
          exact followVoltage_flat follows known flat charging

theorem observeVoltage_begun (follows : Follows state []) : (state.observeVoltage mv at_).charging = false := by
  have idle : state.charging = false := by
    by_contra charging
    exact absurd (follows.concluded (Bool.eq_true_of_not_eq_false charging)).1 (by simp [spacedRises])
  unfold observeVoltage
  split
  · exact idle
  split
  · rfl
  split
  · rfl
  split
  · exact idle
  · by_contra charging
    obtain ⟨kept, which, joined⟩ := followVoltage_follows mv at_ follows
    have empty : kept = [] := which.elim id id
    rw [empty] at joined
    exact absurd (joined.concluded (Bool.eq_true_of_not_eq_false charging)).1 (by simp [spacedRises, isRise, runningPeak])

structure SameEvidence (before after : BegodeCharging) : Prop where
  source : after.source = before.source
  placeholderSummary : after.placeholderSummaryAt = before.placeholderSummaryAt
  placeholderCells : after.placeholderCellsAt = before.placeholderCellsAt
  validSummary : after.validSummaryAt = before.validSummaryAt
  realCells : after.realCellsAt = before.realCellsAt
  input : after.lastInputAt = before.lastInputAt
  speed : after.lastSpeedAt = before.lastSpeedAt
  standing : after.stationarySince = before.stationarySince

theorem SameEvidence.refl : SameEvidence state state := ⟨rfl, rfl, rfl, rfl, rfl, rfl, rfl, rfl⟩

theorem SameEvidence.trans {middle : BegodeCharging} (first : SameEvidence before middle)
    (second : SameEvidence middle after) : SameEvidence before after where
  source := second.source.trans first.source
  placeholderSummary := second.placeholderSummary.trans first.placeholderSummary
  placeholderCells := second.placeholderCells.trans first.placeholderCells
  validSummary := second.validSummary.trans first.validSummary
  realCells := second.realCells.trans first.realCells
  input := second.input.trans first.input
  speed := second.speed.trans first.speed
  standing := second.standing.trans first.standing

theorem resetTrend_same : SameEvidence state state.resetTrend := ⟨rfl, rfl, rfl, rfl, rfl, rfl, rfl, rfl⟩

theorem expireTrend_same : SameEvidence state (state.expireTrend at_) := by
  unfold expireTrend
  split
  · exact resetTrend_same
  · exact .refl

theorem followVoltage_same : SameEvidence state (state.followVoltage mv at_) := by
  have dropped : SameEvidence state (state.stopOnDrop mv) := by
    unfold stopOnDrop
    split
    · exact resetTrend_same
    · exact .refl
  have started {state : BegodeCharging} : SameEvidence state (state.startTrend mv at_) := by
    unfold startTrend
    dsimp only
    split
    · exact ⟨rfl, rfl, rfl, rfl, rfl, rfl, rfl, rfl⟩
    · exact ⟨rfl, rfl, rfl, rfl, rfl, rfl, rfl, rfl⟩
  have counted {state : BegodeCharging} : SameEvidence state (state.countRise mv at_) := by
    unfold countRise
    split
    · split
      · exact ⟨rfl, rfl, rfl, rfl, rfl, rfl, rfl, rfl⟩
      · exact ⟨rfl, rfl, rfl, rfl, rfl, rfl, rfl, rfl⟩
    · exact .refl
  have concluded {state : BegodeCharging} : SameEvidence state (state.conclude mv at_) := by
    unfold conclude
    split
    · exact ⟨rfl, rfl, rfl, rfl, rfl, rfl, rfl, rfl⟩
    · exact .refl
  have noted {state : BegodeCharging} : SameEvidence state { state with lastVoltageAt := some at_ } :=
    ⟨rfl, rfl, rfl, rfl, rfl, rfl, rfl, rfl⟩
  exact (((dropped.trans started).trans counted).trans noted).trans concluded

theorem observeVoltage_same : SameEvidence state (state.observeVoltage mv at_) := by
  unfold observeVoltage
  split
  · exact .refl
  split
  · exact ⟨rfl, rfl, rfl, rfl, rfl, rfl, rfl, rfl⟩
  split
  · exact resetTrend_same
  split
  · exact ⟨rfl, rfl, rfl, rfl, rfl, rfl, rfl, rfl⟩
  · exact followVoltage_same

end BegodeCharging

end Cutout.Begode

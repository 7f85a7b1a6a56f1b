import Cutout.RouteProjection
import Mathlib.Data.List.Basic

/-! What the bounded projection shows. The targets of the accumulator are strictly
increasing and end at the last candidate, so no target is missed and none coincides with
another: the projection is a sublist of the visible points of exactly the budgeted
length, with both ends. -/

namespace Cutout.Rides
open Protocols (saturatingAdd u64Max)
variable {grid : RoutePrivacyGridE7}

section Ordinals
variable {outputOrdinal outputCount candidateCount : Nat}

private theorem evenlySpacedOrdinal_zero : evenlySpacedOrdinal 0 outputCount candidateCount = 0 := by
  unfold evenlySpacedOrdinal
  split
  · rfl
  · rw [Nat.zero_mul, Nat.zero_div]

private theorem evenlySpacedOrdinal_lt (some : outputOrdinal + 1 < outputCount) (enough : outputCount ≤ candidateCount) :
    evenlySpacedOrdinal outputOrdinal outputCount candidateCount <
      evenlySpacedOrdinal (outputOrdinal + 1) outputCount candidateCount := by
  have several : ¬outputCount ≤ 1 := by omega
  have positive : 0 < outputCount - 1 := by omega
  unfold evenlySpacedOrdinal
  rw [if_neg several, if_neg several, Nat.add_mul, Nat.one_mul]
  calc outputOrdinal * (candidateCount - 1) / (outputCount - 1)
      < outputOrdinal * (candidateCount - 1) / (outputCount - 1) + 1 := Nat.lt_succ_self _
    _ = (outputOrdinal * (candidateCount - 1) + (outputCount - 1)) / (outputCount - 1) := (Nat.add_div_right _ positive).symm
    _ ≤ (outputOrdinal * (candidateCount - 1) + (candidateCount - 1)) / (outputCount - 1) :=
      Nat.div_le_div_right (by omega)

private theorem evenlySpacedOrdinal_last (several : 2 ≤ outputCount) :
    evenlySpacedOrdinal (outputCount - 1) outputCount candidateCount = candidateCount - 1 := by
  unfold evenlySpacedOrdinal
  rw [if_neg (by omega), Nat.mul_div_cancel_left _ (by omega)]

private theorem evenlySpacedOrdinal_le (inside : outputOrdinal < outputCount) :
    evenlySpacedOrdinal outputOrdinal outputCount candidateCount ≤ candidateCount - 1 := by
  unfold evenlySpacedOrdinal
  split
  · exact Nat.zero_le _
  · calc outputOrdinal * (candidateCount - 1) / (outputCount - 1)
        ≤ (outputCount - 1) * (candidateCount - 1) / (outputCount - 1) :=
          Nat.div_le_div_right (Nat.mul_le_mul_right _ (by omega))
      _ = candidateCount - 1 := Nat.mul_div_cancel_left _ (by omega)

end Ordinals

namespace RouteProjectionAccumulator
variable {accumulator : RouteProjectionAccumulator}
variable {ordinal : Nat}

/-- The accumulator waits for its next target, which has not passed by. -/
structure Waiting (accumulator : RouteProjectionAccumulator) (ordinal : Nat) : Prop where
  enough : accumulator.outputCount ≤ accumulator.candidateCount
  unfinished : accumulator.outputOrdinal < accumulator.outputCount
  target : accumulator.nextTarget =
    evenlySpacedOrdinal accumulator.outputOrdinal accumulator.outputCount accumulator.candidateCount
  ahead : ordinal ≤ accumulator.nextTarget

theorem Waiting.new {candidateCount : Nat} (budget : RouteDisplayBudget) (privacy : RoutePrivacyPolicy)
    (some : 0 < candidateCount) : (new candidateCount budget privacy).Waiting 0 := by
  refine ⟨Nat.min_le_left _ _, ?_, evenlySpacedOrdinal_zero.symm, Nat.le_refl _⟩
  exact Nat.lt_min.mpr ⟨some, budget.positive⟩

private theorem Waiting.pass (waiting : accumulator.Waiting ordinal) (other : ordinal ≠ accumulator.nextTarget)
    (sequence : Nat) (point : RideMapPoint) :
    accumulator.push ordinal sequence point = accumulator ∧ accumulator.Waiting (ordinal + 1) := by
  refine ⟨if_pos (.inr other), waiting.enough, waiting.unfinished, waiting.target, ?_⟩
  have ahead := waiting.ahead
  omega

theorem Waiting.keep (waiting : accumulator.Waiting ordinal) (reached : ordinal = accumulator.nextTarget)
    (sequence : Nat) (point : RideMapPoint) : let kept := accumulator.push ordinal sequence point
    kept.projected = accumulator.projected ++ [accumulator.privacy.display sequence point none] ∧
      kept.outputCount = accumulator.outputCount ∧ kept.candidateCount = accumulator.candidateCount ∧
      kept.privacy = accumulator.privacy ∧ kept.outputOrdinal = accumulator.outputOrdinal + 1 ∧
      (kept.outputOrdinal < kept.outputCount → kept.Waiting (ordinal + 1)) := by
  have unfinished := waiting.unfinished
  have taken : ¬(accumulator.outputOrdinal = accumulator.outputCount ∨ ordinal ≠ accumulator.nextTarget) := by omega
  intro kept
  have same : kept = { accumulator with
      projected := accumulator.projected ++ [accumulator.privacy.display sequence point none]
      outputOrdinal := accumulator.outputOrdinal + 1
      nextTarget :=
        if accumulator.outputOrdinal + 1 < accumulator.outputCount then
          evenlySpacedOrdinal (accumulator.outputOrdinal + 1) accumulator.outputCount accumulator.candidateCount
        else accumulator.nextTarget } := if_neg taken
  rw [same]
  refine ⟨rfl, rfl, rfl, rfl, rfl, ?_⟩
  intro unfilled
  have more : accumulator.outputOrdinal + 1 < accumulator.outputCount := unfilled
  have next : (if accumulator.outputOrdinal + 1 < accumulator.outputCount then
      evenlySpacedOrdinal (accumulator.outputOrdinal + 1) accumulator.outputCount accumulator.candidateCount
    else accumulator.nextTarget) =
      evenlySpacedOrdinal (accumulator.outputOrdinal + 1) accumulator.outputCount accumulator.candidateCount := if_pos more
  refine ⟨waiting.enough, more, next, ?_⟩
  have later := evenlySpacedOrdinal_lt more waiting.enough
  have target := waiting.target
  have counts : ordinal + 1 ≤ evenlySpacedOrdinal (accumulator.outputOrdinal + 1) accumulator.outputCount
      accumulator.candidateCount := by omega
  exact counts.trans (Nat.le_of_eq next.symm)

/-- What the rest of the candidates contributes: a sublist of exactly the missing length. It begins
with the next candidate when that is the target, and ends with the last candidate when that is
the last target. -/
theorem pushAll_picks (waiting : accumulator.Waiting ordinal) (points : List (Nat × RideMapPoint))
    (all : ordinal + points.length = accumulator.candidateCount) :
    ∃ picked : List (Nat × RideMapPoint), picked.Sublist points ∧
      picked.length = accumulator.outputCount - accumulator.outputOrdinal ∧
      (accumulator.pushAll ordinal points).projected =
        accumulator.projected ++ picked.map (fun candidate => accumulator.privacy.display candidate.1 candidate.2 none) ∧
      (ordinal = accumulator.nextTarget → picked.head? = points.head?) ∧
      (2 ≤ accumulator.outputCount → picked.getLast? = points.getLast?) := by
  induction points generalizing accumulator ordinal with
  | nil =>
    have target := @evenlySpacedOrdinal_le _ _ accumulator.candidateCount waiting.unfinished
    have ahead := waiting.ahead
    have unfinished := waiting.unfinished
    have enough := waiting.enough
    rw [waiting.target] at ahead
    simp only [List.length_nil] at all
    omega
  | cons candidate points ih =>
    obtain ⟨sequence, point⟩ := candidate
    rw [List.length_cons] at all
    rw [pushAll]
    by_cases reached : ordinal = accumulator.nextTarget
    · obtain ⟨projected, outputs, candidates, privacy, count, next⟩ := waiting.keep reached sequence point
      generalize accumulator.push ordinal sequence point = kept at projected outputs candidates privacy count next ⊢
      by_cases more : kept.outputOrdinal < kept.outputCount
      · have incomplete : kept.isComplete = false := decide_eq_false (Nat.ne_of_lt more)
        obtain ⟨picked, inside, length, result, -, ends⟩ := ih (next more) (by omega)
        rw [incomplete]
        refine ⟨(sequence, point) :: picked, inside.cons_cons _, ?_, ?_, fun _ => rfl, ?_⟩
        · rw [List.length_cons]
          omega
        · simp only [Bool.false_eq_true, if_false]
          rw [result, projected, privacy, List.append_assoc]
          rfl
        · intro several
          have picks : picked ≠ [] := by
            intro none
            rw [none, List.length_nil] at length
            omega
          have rest : points ≠ [] := by
            intro none
            rw [none] at inside
            exact picks (List.sublist_nil.mp inside)
          rw [List.getLast?_cons_of_ne_nil picks, List.getLast?_cons_of_ne_nil rest]
          exact ends (by omega)
      · have complete : kept.isComplete = true := by
          have unfinished := waiting.unfinished
          exact decide_eq_true (by omega)
        rw [complete]
        refine ⟨[(sequence, point)], List.singleton_sublist.mpr List.mem_cons_self, ?_, projected, fun _ => rfl, ?_⟩
        · have unfinished := waiting.unfinished
          rw [List.length_singleton]
          omega
        · intro several
          -- the last target is the last candidate, so nothing is left behind it
          have last := @evenlySpacedOrdinal_last _ accumulator.candidateCount several
          have target := waiting.target
          have final : accumulator.outputOrdinal = accumulator.outputCount - 1 := by
            have unfinished := waiting.unfinished
            omega
          rw [final, last] at target
          have empty : points = [] := by
            apply List.eq_nil_of_length_eq_zero
            omega
          rw [empty]
    · obtain ⟨same, later⟩ := waiting.pass reached sequence point
      have incomplete : accumulator.isComplete = false := decide_eq_false (Nat.ne_of_lt waiting.unfinished)
      obtain ⟨picked, inside, length, result, -, ends⟩ := ih later (by omega)
      rw [same, incomplete]
      refine ⟨picked, inside.cons _, length, result, fun here => absurd here reached, ?_⟩
      intro several
      have picks : picked ≠ [] := by
        intro none
        have unfinished := waiting.unfinished
        rw [none, List.length_nil] at length
        omega
      have rest : points ≠ [] := by
        intro none
        rw [none] at inside
        exact picks (List.sublist_nil.mp inside)
      rw [List.getLast?_cons_of_ne_nil rest]
      exact ends several

end RouteProjectionAccumulator

def visiblePoints (points : List RideMapPoint) (firstSequence : Nat) (viewport : Option RouteViewport) (offset : Nat) :
    List (Nat × RideMapPoint) :=
  ((points.zipIdx offset).filter fun entry => isVisibleIn viewport entry.1).map fun entry =>
    (saturatingAdd firstSequence entry.2, entry.1)

section Passes
variable {viewport : Option RouteViewport} {firstSequence : Nat}
variable (points : List RideMapPoint)

theorem visiblePoints_cons (point : RideMapPoint) (points : List RideMapPoint) (offset : Nat) :
    visiblePoints (point :: points) firstSequence viewport offset =
      if isVisibleIn viewport point then
        (saturatingAdd firstSequence offset, point) :: visiblePoints points firstSequence viewport (offset + 1)
      else visiblePoints points firstSequence viewport (offset + 1) := by
  unfold visiblePoints
  rw [List.zipIdx_cons, List.filter_cons]
  split <;> rfl

private theorem countVisible_uncancelled (offset asked count : Nat) :
    ∃ later, countVisible (isVisibleIn viewport) (fun _ => false) points asked count =
      .ok (later, count + (visiblePoints points firstSequence viewport offset).length) := by
  induction points generalizing offset asked count with
  | nil => exact ⟨asked, rfl⟩
  | cons point points ih =>
    obtain ⟨later, counted⟩ := ih (offset + 1) (asked + 1) (count + if isVisibleIn viewport point then 1 else 0)
    refine ⟨later, ?_⟩
    rw [countVisible, visiblePoints_cons]
    simp only [Bool.false_eq_true, if_false]
    rw [counted]
    split
    · rw [List.length_cons]
      congr 2
      omega
    · rfl

/-- Without a cancellation the second pass is the loop over the visible points. -/
theorem projectVisible_uncancelled (offset asked ordinal : Nat) (accumulator : RouteProjectionAccumulator) :
    ∃ later, projectVisible (isVisibleIn viewport) (fun _ => false) firstSequence points offset asked ordinal accumulator =
      .ok (later, accumulator.pushAll ordinal (visiblePoints points firstSequence viewport offset)) := by
  induction points generalizing offset asked ordinal accumulator with
  | nil => exact ⟨asked, rfl⟩
  | cons point points ih =>
    rw [projectVisible, visiblePoints_cons]
    simp only [Bool.false_eq_true, if_false]
    cases visible : isVisibleIn viewport point with
    | false => exact ih (offset + 1) (asked + 1) ordinal accumulator
    | true =>
      simp only [Bool.not_true, Bool.false_eq_true, if_false, if_true, RouteProjectionAccumulator.pushAll]
      split
      · exact ⟨asked + 1, rfl⟩
      · exact ih (offset + 1) (asked + 1) (ordinal + 1) _

theorem projectRoutePoints_eq_fromIter (budget : RouteDisplayBudget) (privacy : RoutePrivacyPolicy) :
    projectRoutePoints points firstSequence viewport budget privacy =
      projectRoutePointsFromIter (visiblePoints points firstSequence viewport 0)
        (visiblePoints points firstSequence viewport 0).length budget privacy := by
  obtain ⟨asked, counted⟩ := @countVisible_uncancelled viewport firstSequence points 0 1 0
  obtain ⟨last, projected⟩ := @projectVisible_uncancelled viewport firstSequence points 0 asked 0
    (.new (visiblePoints points firstSequence viewport 0).length budget privacy)
  rw [Nat.zero_add] at counted
  have result : projectRoutePointsCancellable points firstSequence viewport budget privacy (fun _ => false) =
      .ok (projectRoutePointsFromIter (visiblePoints points firstSequence viewport 0)
        (visiblePoints points firstSequence viewport 0).length budget privacy) := by
    unfold projectRoutePointsCancellable
    rw [counted]
    simp only [Bool.false_eq_true, if_false]
    exact congrArg (fun answer => answer >>= fun passed =>
      (pure passed.2.projected : Except RouteProjectionError (List RouteDisplayPoint))) projected
  unfold projectRoutePoints
  rw [result]

theorem visiblePoints_sequence_le (offset : Nat) :
    ((visiblePoints points firstSequence viewport offset).map Prod.fst).Pairwise (· ≤ ·) ∧
      ∀ sequence ∈ (visiblePoints points firstSequence viewport offset).map Prod.fst,
        saturatingAdd firstSequence offset ≤ sequence := by
  induction points generalizing offset with
  | nil => exact ⟨List.Pairwise.nil, nofun⟩
  | cons point points ih =>
    obtain ⟨ordered, later⟩ := ih (offset + 1)
    have grows : saturatingAdd firstSequence offset ≤ saturatingAdd firstSequence (offset + 1) := by
      unfold saturatingAdd
      omega
    have behind : ∀ sequence ∈ (visiblePoints points firstSequence viewport (offset + 1)).map Prod.fst,
        saturatingAdd firstSequence offset ≤ sequence := fun sequence member => grows.trans (later sequence member)
    rw [visiblePoints_cons]
    split
    · rw [List.map_cons]
      refine ⟨List.pairwise_cons.mpr ⟨behind, ordered⟩, ?_⟩
      intro sequence member
      rcases List.mem_cons.mp member with rfl | rest
      · exact Nat.le_refl _
      · exact behind sequence rest
    · exact ⟨ordered, behind⟩

private theorem visiblePoints_sequence_lt (offset : Nat) (fits : firstSequence + (offset + points.length) ≤ u64Max + 1) :
    ((visiblePoints points firstSequence viewport offset).map Prod.fst).Pairwise (· < ·) := by
  induction points generalizing offset with
  | nil => exact List.Pairwise.nil
  | cons point points ih =>
    rw [List.length_cons] at fits
    have ordered := ih (offset + 1) (by omega)
    rw [visiblePoints_cons]
    split
    · rw [List.map_cons]
      refine List.pairwise_cons.mpr ⟨?_, ordered⟩
      intro sequence member
      have behind := (visiblePoints_sequence_le points (offset + 1)).2 sequence member
      -- a point behind this one keeps the next sequence below the bound
      have some : 0 < points.length := by
        cases points with
        | nil => cases member
        | cons => exact Nat.succ_pos _
      unfold saturatingAdd at behind ⊢
      omega
    · exact ordered

end Passes

section Grid
variable {grid : RoutePrivacyGridE7} {bound : Nat}

/-- Snapping between bounds that the grid divides: the floor of the cell, clamped. -/
theorem snapToGrid_eq (divides : (grid.asU32 : Int) ∣ bound) (value : Int) :
    snapToGrid value grid (-bound) bound = max (-bound : Int) (min (value / grid.asU32 * grid.asU32) bound) := by
  unfold snapToGrid
  obtain ⟨cells, whole⟩ := divides
  have positive : (0 : Int) < grid.asU32 := by exact_mod_cast grid.positive
  generalize value / (grid.asU32 : Int) = cell
  by_cases below : cell * grid.asU32 < -bound
  · have inward : cell * grid.asU32 + grid.asU32 ≤ -(bound : Int) := by
      have fewer : cell < -cells := by
        apply lt_of_mul_lt_mul_right (a := (grid.asU32 : Int)) _ positive.le
        rw [whole] at below
        linarith
      rw [whole]
      have step : (cell + 1) * grid.asU32 ≤ -cells * grid.asU32 := mul_le_mul_of_nonneg_right (by omega) positive.le
      linarith
    dsimp only
    rw [if_pos below]
    omega
  · dsimp only
    rw [if_neg below]

theorem snapToGrid_spec (divides : (grid.asU32 : Int) ∣ bound) (value : Int) :
    (-bound ≤ snapToGrid value grid (-bound) bound ∧ snapToGrid value grid (-bound) bound ≤ bound) ∧
      (grid.asU32 : Int) ∣ snapToGrid value grid (-bound) bound ∧
      snapToGrid (snapToGrid value grid (-bound) bound) grid (-bound) bound = snapToGrid value grid (-bound) bound := by
  have inside : -bound ≤ snapToGrid value grid (-bound) bound ∧ snapToGrid value grid (-bound) bound ≤ bound := by
    rw [snapToGrid_eq divides]
    omega
  have multiple : (grid.asU32 : Int) ∣ snapToGrid value grid (-bound) bound := by
    rw [snapToGrid_eq divides]
    rcases max_choice (-bound : Int) (min (value / grid.asU32 * grid.asU32) bound) with lower | upper
    · rw [lower]
      exact (Int.dvd_neg).mpr divides
    · rw [upper]
      rcases min_choice (value / grid.asU32 * grid.asU32) (bound : Int) with floor | top
      · rw [floor]
        exact Int.dvd_mul_left _ _
      · rw [top]
        exact divides
  refine ⟨inside, multiple, ?_⟩
  generalize snapToGrid value grid (-bound) bound = snapped at inside multiple ⊢
  rw [snapToGrid_eq divides, Int.ediv_mul_cancel multiple]
  omega

end Grid

/-- The projection of a list of candidates is a sublist of exactly the budgeted length, with both ends. -/
theorem projectRoutePointsFromIter_picks (candidates : List (Nat × RideMapPoint)) (budget : RouteDisplayBudget)
    (privacy : RoutePrivacyPolicy) :
    ∃ picked : List (Nat × RideMapPoint), picked.Sublist candidates ∧
      picked.length = min candidates.length budget.asUsize ∧
      projectRoutePointsFromIter candidates candidates.length budget privacy =
        picked.map (fun candidate => privacy.display candidate.1 candidate.2 none) ∧
      picked.head? = candidates.head? ∧ (2 ≤ picked.length → picked.getLast? = candidates.getLast?) := by
  rcases Nat.eq_zero_or_pos candidates.length with none | some
  · have empty : candidates = [] := List.eq_nil_of_length_eq_zero none
    rw [empty]
    exact ⟨[], List.Sublist.refl _, (Nat.zero_min _).symm, rfl, rfl, fun _ => rfl⟩
  · obtain ⟨picked, inside, length, result, first, last⟩ := RouteProjectionAccumulator.pushAll_picks
      (RouteProjectionAccumulator.Waiting.new budget privacy some) candidates (Nat.zero_add _)
    have total : picked.length = min candidates.length budget.asUsize := length.trans (Nat.sub_zero _)
    refine ⟨picked, inside, total, result, first rfl, ?_⟩
    intro several
    exact last (several.trans (Nat.le_of_eq total))

structure SameCell (grid : RoutePrivacyGridE7) (point other : RideMapPoint) : Prop where
  segment : point.segmentId = other.segmentId
  reason : point.segmentStartReason = other.segmentStartReason
  latitude : point.sample.coordinate.latitude / (grid.asU32 : Int) = other.sample.coordinate.latitude / (grid.asU32 : Int)
  longitude : point.sample.coordinate.longitude / (grid.asU32 : Int) = other.sample.coordinate.longitude / (grid.asU32 : Int)

theorem SameCell.display {point other : RideMapPoint} (same : SameCell grid point other) (sequence : Nat)
    (count : Option Nat) :
    RoutePrivacyPolicy.display (.grid grid) sequence point count = RoutePrivacyPolicy.display (.grid grid) sequence other count := by
  have snapped : ∀ bound value another : Int, value / (grid.asU32 : Int) = another / (grid.asU32 : Int) →
      snapToGrid value grid (-bound) bound = snapToGrid another grid (-bound) bound := by
    intro bound value another cell
    unfold snapToGrid
    rw [cell]
  simp only [RoutePrivacyPolicy.display, RoutePrivacyPolicy.project, same.segment, same.reason,
    snapped _ _ _ same.latitude, snapped _ _ _ same.longitude]

/-- Candidates that are displayed alike leave the accumulator alike. -/
theorem pushAll_congr {candidates others : List (Nat × RideMapPoint)} {privacy : RoutePrivacyPolicy}
    (alike : List.Forall₂ (fun candidate other => privacy.display candidate.1 candidate.2 none =
      privacy.display other.1 other.2 none) candidates others) (accumulator : RouteProjectionAccumulator)
    (uses : accumulator.privacy = privacy) (ordinal : Nat) :
    accumulator.pushAll ordinal candidates = accumulator.pushAll ordinal others := by
  induction alike generalizing accumulator ordinal with
  | nil => rfl
  | @cons candidate other candidates others same rest ih =>
    have pushed : accumulator.push ordinal candidate.1 candidate.2 = accumulator.push ordinal other.1 other.2 := by
      unfold RouteProjectionAccumulator.push RouteProjectionAccumulator.pushWithCanonicalPointCount
      rw [uses, same]
    have kept : (accumulator.push ordinal other.1 other.2).privacy = accumulator.privacy := by
      unfold RouteProjectionAccumulator.push RouteProjectionAccumulator.pushWithCanonicalPointCount
      split <;> rfl
    rw [RouteProjectionAccumulator.pushAll, RouteProjectionAccumulator.pushAll, pushed]
    split
    · rfl
    · exact ih (accumulator.push ordinal other.1 other.2) (kept.trans uses) (ordinal + 1)

private theorem visiblePoints_alike {points others : List RideMapPoint} (firstSequence offset : Nat)
    (same : List.Forall₂ (SameCell grid) points others) :
    List.Forall₂ (fun candidate other => RoutePrivacyPolicy.display (.grid grid) candidate.1 candidate.2 none =
      RoutePrivacyPolicy.display (.grid grid) other.1 other.2 none)
      (visiblePoints points firstSequence none offset) (visiblePoints others firstSequence none offset) := by
  induction same generalizing offset with
  | nil => exact .nil
  | cons cell _ ih =>
    rw [visiblePoints_cons, visiblePoints_cons]
    exact .cons (cell.display _ _) (ih (offset + 1))

/-- Bounded route projection. Exactly the smaller of the budget and the number of visible points is
shown: visible points of the route in its order, the first and, where two are shown, the last of
them, as the streaming projection of the visible points shows them. Their sequences never decrease,
and they strictly increase while the sequences of the route fit `u64`. A grid policy shows only
coordinates within bounds on the grid, which it would not move again, and without a viewport
nothing but the cell of a coordinate matters. -/
theorem route_projection_is_bounded (points : List RideMapPoint) (firstSequence : Nat) (viewport : Option RouteViewport)
    (budget : RouteDisplayBudget) (privacy : RoutePrivacyPolicy) :
    let visible := visiblePoints points firstSequence viewport 0
    let shown := projectRoutePoints points firstSequence viewport budget privacy
    shown.length = min visible.length budget.asUsize ∧
    (∃ picked : List (Nat × RideMapPoint), picked.Sublist visible ∧
      shown = picked.map (fun candidate => privacy.display candidate.1 candidate.2 none) ∧
      picked.head? = visible.head? ∧ (2 ≤ picked.length → picked.getLast? = visible.getLast?)) ∧
    (shown.map RouteDisplayPoint.sequence).Pairwise (· ≤ ·) ∧
    (firstSequence + points.length ≤ u64Max + 1 → (shown.map RouteDisplayPoint.sequence).Pairwise (· < ·)) ∧
    shown = projectRoutePointsFromIter visible visible.length budget privacy ∧
    ∀ grid, privacy = .grid grid →
      (∀ display ∈ shown,
        (-900000000 ≤ display.coordinate.latitude ∧ display.coordinate.latitude ≤ 900000000) ∧
        (-1800000000 ≤ display.coordinate.longitude ∧ display.coordinate.longitude ≤ 1800000000) ∧
        (grid.asU32 : Int) ∣ display.coordinate.latitude ∧ (grid.asU32 : Int) ∣ display.coordinate.longitude ∧
        (privacy.project display.coordinate).1 = display.coordinate) ∧
      ∀ others, viewport = none → List.Forall₂ (SameCell grid) points others →
        projectRoutePoints others firstSequence viewport budget privacy = shown := by
  intro visible shown
  have streamed : shown = projectRoutePointsFromIter visible visible.length budget privacy :=
    projectRoutePoints_eq_fromIter points budget privacy
  obtain ⟨picked, inside, length, result, first, last⟩ := projectRoutePointsFromIter_picks visible budget privacy
  have drawn : shown = picked.map (fun candidate => privacy.display candidate.1 candidate.2 none) := streamed.trans result
  have sequences : shown.map RouteDisplayPoint.sequence = picked.map Prod.fst := by
    rw [drawn, List.map_map]
    rfl
  refine ⟨?_, ⟨picked, inside, drawn, first, last⟩, ?_, ?_, streamed, ?_⟩
  · rw [drawn, List.length_map, length]
  · rw [sequences]
    exact (visiblePoints_sequence_le points 0).1.sublist (inside.map Prod.fst)
  · intro fits
    rw [sequences]
    exact (visiblePoints_sequence_lt points 0 (by omega)).sublist (inside.map Prod.fst)
  · rintro grid rfl
    refine ⟨?_, ?_⟩
    · intro display member
      rw [drawn] at member
      obtain ⟨candidate, -, rfl⟩ := List.mem_map.mp member
      have quarter : (grid.asU32 : Int) ∣ ((900000000 : Nat) : Int) :=
        Int.natCast_dvd_natCast.mpr (Nat.dvd_of_mod_eq_zero grid.divides)
      have half : (grid.asU32 : Int) ∣ ((1800000000 : Nat) : Int) :=
        quarter.trans (Int.natCast_dvd_natCast.mpr (by decide))
      obtain ⟨latitude, onLatitude, stays⟩ := snapToGrid_spec quarter candidate.2.sample.coordinate.latitude
      obtain ⟨longitude, onLongitude, rests⟩ := snapToGrid_spec half candidate.2.sample.coordinate.longitude
      refine ⟨latitude, longitude, onLatitude, onLongitude, ?_⟩
      exact congrArg₂ Coordinate.mk stays rests
    · rintro others rfl same
      rw [projectRoutePoints_eq_fromIter, streamed]
      have alike := visiblePoints_alike firstSequence 0 same
      unfold projectRoutePointsFromIter
      rw [← alike.length_eq]
      exact congrArg _ (pushAll_congr alike _ rfl 0).symm

/-- A route whose second sequence does not fit `u64`. -/
def saturatedRoute : List RideMapPoint :=
  let point : RideMapPoint :=
    ⟨⟨⟨0, 0⟩, 0, 0, none, .live⟩, 0, .gpsOnly, .initial⟩
  [point, point]

theorem route_projection_repeats_saturated_sequences :
    ((projectRoutePoints saturatedRoute u64Max none ⟨2, by decide, by decide⟩ .precise).map RouteDisplayPoint.sequence) =
      [u64Max, u64Max] ∧
    ¬((projectRoutePoints saturatedRoute u64Max none ⟨2, by decide, by decide⟩ .precise).map
      RouteDisplayPoint.sequence).Pairwise (· < ·) := by
  have repeated : ((projectRoutePoints saturatedRoute u64Max none ⟨2, by decide, by decide⟩ .precise).map
      RouteDisplayPoint.sequence) = [u64Max, u64Max] := by decide
  refine ⟨repeated, ?_⟩
  rw [repeated]
  decide

end Cutout.Rides

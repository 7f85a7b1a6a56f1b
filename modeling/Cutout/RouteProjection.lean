import Cutout.RideRecorder

/-! Bounded projection of a route for display. A streaming accumulator keeps evenly
spaced candidates among the points a viewport shows, and a privacy policy snaps every
coordinate that leaves to a grid. -/

namespace Cutout.Rides
open Protocols (saturatingAdd)

def maxRouteDisplayPoints : Nat := 16384

structure RouteDisplayBudget where
  asUsize : Nat
  positive : 0 < asUsize
  bounded : asUsize ≤ maxRouteDisplayPoints
  deriving Repr

/-- A grid size that divides a quarter turn in fixed-point degrees. -/
structure RoutePrivacyGridE7 where
  asU32 : Nat
  positive : 0 < asU32
  divides : 900000000 % asU32 = 0
  deriving Repr

inductive RoutePrivacyClass where
  | precise | gridRedacted
  deriving Repr, DecidableEq

inductive RoutePrivacyPolicy where
  | precise
  | grid (size : RoutePrivacyGridE7)
  deriving Repr

/-- Flooring that crosses the lower bound is moved inward before clamping. -/
def snapToGrid (value : Int) (grid : RoutePrivacyGridE7) (minimum maximum : Int) : Int :=
  let snapped := value / grid.asU32 * grid.asU32
  let snapped := if snapped < minimum then snapped + grid.asU32 else snapped
  max minimum (min snapped maximum)

def RoutePrivacyPolicy.project (coordinate : Coordinate) : RoutePrivacyPolicy → Coordinate × RoutePrivacyClass
  | .precise => (coordinate, .precise)
  | .grid size =>
    ({ latitude := snapToGrid coordinate.latitude size (-900000000) 900000000
       longitude := snapToGrid coordinate.longitude size (-1800000000) 1800000000 }, .gridRedacted)

structure RouteViewport where
  minimumLatitude : Int
  maximumLatitude : Int
  minimumLongitude : Int
  maximumLongitude : Int
  ordered : minimumLatitude ≤ maximumLatitude
  deriving Repr, DecidableEq

namespace RouteViewport

def crossesAntimeridian (viewport : RouteViewport) : Bool :=
  decide (viewport.maximumLongitude < viewport.minimumLongitude)

def contains (viewport : RouteViewport) (coordinate : Coordinate) : Bool :=
  let latitudeVisible := decide (viewport.minimumLatitude ≤ coordinate.latitude ∧ coordinate.latitude ≤ viewport.maximumLatitude)
  let longitudeVisible :=
    if viewport.crossesAntimeridian then
      decide (viewport.minimumLongitude ≤ coordinate.longitude ∨ coordinate.longitude ≤ viewport.maximumLongitude)
    else decide (viewport.minimumLongitude ≤ coordinate.longitude ∧ coordinate.longitude ≤ viewport.maximumLongitude)
  latitudeVisible && longitudeVisible

end RouteViewport

structure RouteDisplayPoint where
  sequence : Nat
  segmentId : Nat
  segmentStartReason : RideSegmentStartReason
  canonicalPointCount : Option Nat
  coordinate : Coordinate
  privacyClass : RoutePrivacyClass
  deriving Repr, DecidableEq

/-- The source divides in `u128`, where nothing overflows. -/
def evenlySpacedOrdinal (outputOrdinal outputCount candidateCount : Nat) : Nat :=
  if outputCount ≤ 1 then 0 else outputOrdinal * (candidateCount - 1) / (outputCount - 1)

structure RouteProjectionAccumulator where
  outputCount : Nat
  candidateCount : Nat
  privacy : RoutePrivacyPolicy
  projected : List RouteDisplayPoint
  outputOrdinal : Nat
  nextTarget : Nat
  deriving Repr

/-- The display point of a candidate. -/
def RoutePrivacyPolicy.display (privacy : RoutePrivacyPolicy) (sequence : Nat) (point : RideMapPoint)
    (canonicalPointCount : Option Nat) : RouteDisplayPoint :=
  let (coordinate, privacyClass) := privacy.project point.sample.coordinate
  { sequence, segmentId := point.segmentId, segmentStartReason := point.segmentStartReason, canonicalPointCount
    coordinate, privacyClass }

namespace RouteProjectionAccumulator

def new (candidateCount : Nat) (budget : RouteDisplayBudget) (privacy : RoutePrivacyPolicy) : RouteProjectionAccumulator :=
  { outputCount := min candidateCount budget.asUsize
    candidateCount, privacy
    projected := []
    outputOrdinal := 0
    nextTarget := 0 }

def pushWithCanonicalPointCount (accumulator : RouteProjectionAccumulator) (candidateOrdinal sequence : Nat)
    (point : RideMapPoint) (canonicalPointCount : Option Nat) : RouteProjectionAccumulator :=
  if accumulator.outputOrdinal = accumulator.outputCount ∨ candidateOrdinal ≠ accumulator.nextTarget then accumulator
  else
    let outputOrdinal := accumulator.outputOrdinal + 1
    { accumulator with
      projected := accumulator.projected ++ [accumulator.privacy.display sequence point canonicalPointCount]
      outputOrdinal
      nextTarget :=
        if outputOrdinal < accumulator.outputCount then
          evenlySpacedOrdinal outputOrdinal accumulator.outputCount accumulator.candidateCount
        else accumulator.nextTarget }

def push (accumulator : RouteProjectionAccumulator) (candidateOrdinal sequence : Nat) (point : RideMapPoint) :
    RouteProjectionAccumulator :=
  accumulator.pushWithCanonicalPointCount candidateOrdinal sequence point none

def isComplete (accumulator : RouteProjectionAccumulator) : Bool :=
  decide (accumulator.outputOrdinal = accumulator.outputCount)

/-- The loop of `project_route_points_from_iter`, which stops at a complete projection. -/
def pushAll : RouteProjectionAccumulator → Nat → List (Nat × RideMapPoint) → RouteProjectionAccumulator
  | accumulator, _, [] => accumulator
  | accumulator, candidateOrdinal, (sequence, point) :: points =>
    let accumulator := accumulator.push candidateOrdinal sequence point
    if accumulator.isComplete then accumulator else pushAll accumulator (candidateOrdinal + 1) points

end RouteProjectionAccumulator

inductive RouteProjectionError where
  | cancelled
  deriving Repr, DecidableEq

/-- The first pass: how many points are visible. The predicate's answers are numbered by the calls made. -/
def countVisible (isVisible : RideMapPoint → Bool) (isCancelled : Nat → Bool) :
    List RideMapPoint → (asked count : Nat) → Except RouteProjectionError (Nat × Nat)
  | [], asked, count => .ok (asked, count)
  | point :: points, asked, count =>
    if isCancelled asked then .error .cancelled
    else countVisible isVisible isCancelled points (asked + 1) (count + if isVisible point then 1 else 0)

/-- The second pass: every visible point is offered to the accumulator until it is complete. -/
def projectVisible (isVisible : RideMapPoint → Bool) (isCancelled : Nat → Bool) (firstSequence : Nat) :
    List RideMapPoint → (offset asked candidateOrdinal : Nat) → RouteProjectionAccumulator →
      Except RouteProjectionError (Nat × RouteProjectionAccumulator)
  | [], _, asked, _, accumulator => .ok (asked, accumulator)
  | point :: points, offset, asked, candidateOrdinal, accumulator =>
    if isCancelled asked then .error .cancelled
    else if !isVisible point then
      projectVisible isVisible isCancelled firstSequence points (offset + 1) (asked + 1) candidateOrdinal accumulator
    else
      let accumulator := accumulator.push candidateOrdinal (saturatingAdd firstSequence offset) point
      if accumulator.isComplete then .ok (asked + 1, accumulator)
      else projectVisible isVisible isCancelled firstSequence points (offset + 1) (asked + 1) (candidateOrdinal + 1) accumulator

def isVisibleIn (viewport : Option RouteViewport) (point : RideMapPoint) : Bool :=
  viewport.all (·.contains point.sample.coordinate)

def projectRoutePointsCancellable (points : List RideMapPoint) (firstSequence : Nat) (viewport : Option RouteViewport)
    (budget : RouteDisplayBudget) (privacy : RoutePrivacyPolicy) (isCancelled : Nat → Bool) :
    Except RouteProjectionError (List RouteDisplayPoint) := do
  if isCancelled 0 then throw .cancelled
  let (asked, candidateCount) ← countVisible (isVisibleIn viewport) isCancelled points 1 0
  let (asked, accumulator) ← projectVisible (isVisibleIn viewport) isCancelled firstSequence points 0 asked 0
    (RouteProjectionAccumulator.new candidateCount budget privacy)
  if isCancelled asked then throw .cancelled
  return accumulator.projected

/-- A cancelled projection would be empty, but nothing cancels this one. -/
def projectRoutePoints (points : List RideMapPoint) (firstSequence : Nat) (viewport : Option RouteViewport)
    (budget : RouteDisplayBudget) (privacy : RoutePrivacyPolicy) : List RouteDisplayPoint :=
  match projectRoutePointsCancellable points firstSequence viewport budget privacy fun _ => false with
  | .ok projected => projected
  | .error _ => []

def projectRoutePointsFromIter (points : List (Nat × RideMapPoint)) (candidateCount : Nat) (budget : RouteDisplayBudget)
    (privacy : RoutePrivacyPolicy) : List RouteDisplayPoint :=
  ((RouteProjectionAccumulator.new candidateCount budget privacy).pushAll 0 points).projected

end Cutout.Rides

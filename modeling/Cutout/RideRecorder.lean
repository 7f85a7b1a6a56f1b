import Cutout.Wire

/-! The live recording projection of a ride: lifecycle, route segments, and the
admission of location fixes. The distance of two coordinates is a parameter; the
source computes it with the platform's trigonometric functions. -/

namespace Cutout.Rides
open Protocols (saturatingAdd u64Max)

structure Coordinate where
  latitude : Int
  longitude : Int
  deriving Repr, DecidableEq

inductive LocationSource where
  | live | pevcapImport
  deriving Repr, DecidableEq

structure LocationSample where
  coordinate : Coordinate
  monotonic : Nat
  wallClock : Nat
  horizontalAccuracy : Option Nat
  source : LocationSource
  deriving Repr, DecidableEq

inductive LocationAdmission where
  | accepted | duplicate | outOfOrder | accuracyTooLow | unrealisticJump
  deriving Repr, DecidableEq

namespace LocationSample

def sameValues (sample other : LocationSample) : Bool :=
  decide (sample.coordinate = other.coordinate ∧ sample.horizontalAccuracy = other.horizontalAccuracy ∧
    sample.source = other.source)

def admission (sample : LocationSample) : Option LocationSample → LocationAdmission
  | none => .accepted
  | some previous =>
    if sample = previous then .duplicate
    else if sample.monotonic ≤ previous.monotonic then .outOfOrder
    else .accepted

end LocationSample

def maxHorizontalAccuracy : Nat := 100000
def maxGapMilliseconds : Nat := 30000
def maxImpliedSpeed : Nat := 100000
def telemetryFreshnessMilliseconds : Nat := 2000
def maxLiveRoutePoints : Nat := 4096

/-- Rounded millimetres between two coordinates. -/
abbrev Distance := Coordinate → Coordinate → Nat

def routeAdmission (distance : Distance) (recordingStartedAt : Option Nat) (previous : Option LocationSample)
    (sample : LocationSample) : LocationAdmission :=
  if recordingStartedAt.any fun started => sample.monotonic < started then .outOfOrder
  else if sample.horizontalAccuracy.any fun accuracy => maxHorizontalAccuracy < accuracy then .accuracyTooLow
  else match sample.admission previous, previous with
    | .accepted, some previous =>
      let elapsed := sample.monotonic - previous.monotonic
      if elapsed ≤ maxGapMilliseconds ∧
          maxImpliedSpeed * elapsed < distance previous.coordinate sample.coordinate * 1000 then .unrealisticJump
      else .accepted
    | admission, _ => admission

inductive RideLifecycleState where
  | draft | active | paused | stopped | interrupted | discarded | saved | imported
  deriving Repr, DecidableEq

inductive RideEvent where
  | start | pause | resume | stop | interrupt | discard | save | «import»
  deriving Repr, DecidableEq

namespace RideLifecycleState

def isRecording : RideLifecycleState → Bool
  | .active | .paused => true
  | _ => false

/-- The states in which a queued write may still settle. -/
def settles : RideLifecycleState → Bool
  | .active | .paused | .interrupted | .stopped | .saved => true
  | _ => false

def allowsAutoRecordingReplacement : RideLifecycleState → Bool
  | .interrupted | .saved | .discarded => true
  | _ => false

def apply : RideLifecycleState → RideEvent → Option RideLifecycleState
  | .draft, .start | .paused, .resume | .interrupted, .resume => some .active
  | .draft, .import => some .imported
  | .active, .pause => some .paused
  | .active, .stop | .paused, .stop => some .stopped
  | .active, .interrupt | .paused, .interrupt => some .interrupted
  | .draft, .discard | .active, .discard | .paused, .discard | .stopped, .discard | .interrupted, .discard =>
    some .discarded
  | .stopped, .save | .interrupted, .save => some .saved
  | _, _ => none

end RideLifecycleState

structure ValidatedRideTransition where
  previous : RideLifecycleState
  event : RideEvent
  next : RideLifecycleState
  valid : previous.apply event = some next
  deriving Repr, DecidableEq

def RideLifecycleState.transition (state : RideLifecycleState) (event : RideEvent) : Option ValidatedRideTransition :=
  match valid : state.apply event with
  | some next => some ⟨state, event, next, valid⟩
  | none => none

/-- A paused or interrupted ride becomes active again. -/
def ValidatedRideTransition.resumes (transition : ValidatedRideTransition) : Bool :=
  decide ((transition.previous = .paused ∨ transition.previous = .interrupted) ∧ transition.next = .active)

def clampedTransitionTimestamp (createdAt latestObserved requestedAt : Nat) : Nat :=
  max (max requestedAt createdAt) latestObserved

structure RideRecordingTiming where
  lastEvent : Nat
  pausedAt : Option Nat
  pausedDuration : Nat
  completedDuration : Nat
  deriving Repr, DecidableEq

namespace RideRecordingTiming

/-- Active time, without pauses and interruptions. -/
def durationAt (timing : RideRecordingTiming) (state : RideLifecycleState) (createdAt time : Nat) : Nat :=
  match state with
  | .active => time - createdAt - timing.pausedDuration
  | .paused => timing.pausedAt.getD time - createdAt - timing.pausedDuration
  | _ => timing.completedDuration

def transitioned (timing : RideRecordingTiming) (transition : ValidatedRideTransition) (createdAt time : Nat) :
    RideRecordingTiming :=
  let time := clampedTransitionTimestamp createdAt timing.lastEvent time
  let settled := match transition.previous, transition.next with
    | .active, .paused => { timing with pausedAt := some time }
    | .paused, .active | .interrupted, .active =>
      { timing with
        pausedDuration := time - createdAt - timing.durationAt transition.previous createdAt time
        pausedAt := none }
    | .active, .stopped | .active, .interrupted | .paused, .stopped | .paused, .interrupted =>
      { timing with completedDuration := timing.durationAt transition.previous createdAt time, pausedAt := none }
    | _, _ => timing
  match transition.previous, transition.next with
  | .stopped, .saved | .stopped, .discarded | .interrupted, .saved | .interrupted, .discarded => settled
  | _, _ => { settled with lastEvent := time }

end RideRecordingTiming

inductive RideSegmentStartReason where
  | initial | resume | backgroundGap | importBoundary | stationary
  deriving Repr, DecidableEq

inductive RouteTelemetryState where
  | gpsOnly | associatedNoTelemetry | associatedFresh | associatedStale
  deriving Repr, DecidableEq

structure RideMapPoint where
  sample : LocationSample
  segmentId : Nat
  telemetryState : RouteTelemetryState
  segmentStartReason : RideSegmentStartReason
  deriving Repr, DecidableEq

structure RideSummary where
  pointCount : Nat
  distance : Nat
  deriving Repr, DecidableEq

inductive AdmittedLocationBoundary where
  | continues | start
  deriving Repr, DecidableEq

/-- A fix that passed the route policy of a recorder. -/
structure AdmittedLocationSample where
  point : RideMapPoint
  boundary : AdmittedLocationBoundary
  recordingGeneration : Nat
  activeIntervalGeneration : Nat
  deriving Repr, DecidableEq

def AdmittedLocationSample.sample (admitted : AdmittedLocationSample) : LocationSample := admitted.point.sample

/-- A fix that repeats the last retained values, or one taken while the wheel was parked. -/
structure LocationObservation where
  sample : LocationSample
  recordingGeneration : Nat
  activeIntervalGeneration : Nat
  deriving Repr, DecidableEq

inductive LocationRecordingDecision where
  | record (admitted : AdmittedLocationSample)
  | observeClockOnly (observation : LocationObservation)
  | rejected (reason : LocationAdmission)
  deriving Repr, DecidableEq

inductive TelemetryObservation where
  | observed | alreadyObserved | notAssociated | timestampOutOfOrder | rideNotOpen
  deriving Repr, DecidableEq

inductive VehicleAssociation where
  | associated | alreadyAssociated | identityMismatch | timestampOutOfOrder | rideNotOpen
  deriving Repr, DecidableEq

structure VehicleIdentity where
  name : String
  nonempty : name ≠ ""
  deriving Repr, DecidableEq

structure RideMapRecorder where
  state : Option RideLifecycleState := none
  recordingGeneration : Option Nat := none
  activeIntervalGeneration : Nat := 0
  createdAt : Nat := 0
  candidateVehicle : Option VehicleIdentity := none
  associatedVehicle : Option VehicleIdentity := none
  associatedAt : Option Nat := none
  lastTelemetryAt : Option Nat := none
  latestLocationObservation : Option LocationSample := none
  stationaryBoundaryAt : Option Nat := none
  points : List RideMapPoint := []
  firstPointSequence : Nat := 0
  summary : RideSummary := ⟨0, 0⟩
  segmentId : Nat := 0
  segmentStarted : Bool := false
  backgroundGapCount : Nat := 0
  lastMonotonic : Nat := 0
  activeStartedAt : Option Nat := none
  pausedAt : Option Nat := none
  pausedDuration : Nat := 0
  completedDuration : Nat := 0
  deriving Repr, DecidableEq

/-- `RideMapSegmentId::next`, which saturates. -/
def nextSegment (segmentId : Nat) : Nat := if segmentId < u64Max then segmentId + 1 else segmentId

namespace RideMapRecorder

def lastPointAt (recorder : RideMapRecorder) : Option Nat :=
  recorder.points.getLast?.map fun point => point.sample.monotonic

/-- The next later point starts a new movement segment. -/
def markStationaryBoundary (recorder : RideMapRecorder) (time : Nat) : RideMapRecorder :=
  if recorder.lastPointAt.any fun last => time ≤ last then recorder
  else if recorder.stationaryBoundaryAt.all fun previous => previous < time then
    { recorder with stationaryBoundaryAt := some time }
  else recorder

def behindBoundary (recorder : RideMapRecorder) (sample : LocationSample) : Bool :=
  recorder.stationaryBoundaryAt.any fun time => time < sample.monotonic

def segmentIdForSample (recorder : RideMapRecorder) (sample : LocationSample) : Nat :=
  if recorder.points ≠ [] ∧ recorder.behindBoundary sample then
    if recorder.segmentStarted then recorder.segmentId else nextSegment recorder.segmentId
  else if !recorder.segmentStarted && recorder.latestLocationObservation.any fun previous =>
      maxGapMilliseconds < sample.monotonic - previous.monotonic then nextSegment recorder.segmentId
  else recorder.segmentId

def segmentStartReasonForSample (recorder : RideMapRecorder) (sample : LocationSample) (next : Nat) :
    RideSegmentStartReason :=
  if !recorder.segmentStarted ∧ recorder.points ≠ [] ∧ recorder.behindBoundary sample then .stationary
  else if next ≠ recorder.segmentId then .backgroundGap
  else match recorder.points.getLast? with
    | some point => if recorder.segmentStarted then .resume else point.segmentStartReason
    | none => match sample.source with
      | .live => .initial
      | .pevcapImport => .importBoundary

def nextSampleMetadata (recorder : RideMapRecorder) (sample : LocationSample) :
    Nat × Bool × RideSegmentStartReason :=
  let next := recorder.segmentIdForSample sample
  (next, recorder.segmentStarted || decide (next ≠ recorder.segmentId),
    recorder.segmentStartReasonForSample sample next)

def telemetryStateAt (recorder : RideMapRecorder) (time : Nat) : RouteTelemetryState :=
  if recorder.associatedVehicle.isNone ∨ recorder.associatedAt.any (fun associated => time < associated) then .gpsOnly
  else match recorder.lastTelemetryAt with
    | none => .associatedNoTelemetry
    | some last =>
      if time < last then .associatedNoTelemetry
      else if telemetryFreshnessMilliseconds < time - last then .associatedStale
      else .associatedFresh

/-- `start`; the generation is the process-wide number drawn for the recording. -/
def start (recorder : RideMapRecorder) (time : Nat) (candidateVehicle : Option VehicleIdentity)
    (generation : Option Nat) : Option RideMapRecorder :=
  let closed := match recorder.state with
    | none | some .stopped | some .interrupted | some .saved | some .discarded => true
    | _ => false
  match closed, generation with
  | true, some generation => some
    { state := some .active
      recordingGeneration := some generation
      createdAt := time
      lastMonotonic := time
      activeStartedAt := some time
      candidateVehicle
      segmentStarted := true }
  | _, _ => none

def recordingTiming (recorder : RideMapRecorder) : RideRecordingTiming :=
  ⟨recorder.lastMonotonic, recorder.pausedAt, recorder.pausedDuration, recorder.completedDuration⟩

/-- `duration_milliseconds_at`; without a recording the ride is a draft. -/
def durationMillisecondsAt (recorder : RideMapRecorder) (time : Nat) : Nat :=
  recorder.recordingTiming.durationAt (recorder.state.getD .draft) recorder.createdAt time

/-- A resume behind a point opens a new segment. -/
def applyTransitionAt (recorder : RideMapRecorder) (transition : ValidatedRideTransition) (time : Nat) :
    Option RideMapRecorder :=
  if recorder.state ≠ some transition.previous ∨
      (transition.resumes ∧ recorder.activeIntervalGeneration = u64Max) then none
  else
    let time := clampedTransitionTimestamp recorder.createdAt recorder.lastMonotonic time
    let timing := recorder.recordingTiming.transitioned transition recorder.createdAt time
    let opens := transition.resumes && !recorder.segmentStarted && decide (recorder.points ≠ [])
    some { recorder with
      pausedAt := timing.pausedAt
      pausedDuration := timing.pausedDuration
      completedDuration := timing.completedDuration
      segmentId := if opens then nextSegment recorder.segmentId else recorder.segmentId
      segmentStarted := recorder.segmentStarted || opens
      activeStartedAt := match transition.previous, transition.next with
        | .active, .paused | .active, .interrupted | .active, .stopped | .paused, .stopped | .interrupted, .stopped => none
        | .paused, .active | .interrupted, .active => some time
        | _, _ => recorder.activeStartedAt
      activeIntervalGeneration :=
        if transition.resumes then recorder.activeIntervalGeneration + 1 else recorder.activeIntervalGeneration
      lastMonotonic := timing.lastEvent
      state := some transition.next }

def observeVehicle (recorder : RideMapRecorder) (identity : VehicleIdentity) (time : Nat) :
    RideMapRecorder × VehicleAssociation :=
  if !recorder.state.any RideLifecycleState.isRecording then (recorder, .rideNotOpen)
  else if time < recorder.lastMonotonic then (recorder, .timestampOutOfOrder)
  else match recorder.associatedVehicle with
    | some associated => (recorder, if associated = identity then .alreadyAssociated else .identityMismatch)
    | none =>
      if recorder.candidateVehicle.any fun candidate => candidate ≠ identity then (recorder, .identityMismatch)
      else ({ recorder with
        associatedVehicle := some identity
        candidateVehicle := none
        associatedAt := some time }, .associated)

def observeTelemetry (recorder : RideMapRecorder) (time : Nat) : RideMapRecorder × TelemetryObservation :=
  if !recorder.state.any RideLifecycleState.isRecording then (recorder, .rideNotOpen)
  else match recorder.associatedAt with
    | none => (recorder, .notAssociated)
    | some associatedAt =>
      if time < associatedAt ∨ time < recorder.createdAt then (recorder, .timestampOutOfOrder)
      else if recorder.lastTelemetryAt = some time then (recorder, .alreadyObserved)
      else if recorder.lastTelemetryAt.any fun previous => time < previous then (recorder, .timestampOutOfOrder)
      else ({ recorder with lastTelemetryAt := some time }, .observed)

section Admission
variable (distance : Distance)

def checkSample (recorder : RideMapRecorder) (sample : LocationSample) : LocationAdmission :=
  routeAdmission distance recorder.activeStartedAt recorder.latestLocationObservation sample

def admitSample (recorder : RideMapRecorder) (sample : LocationSample) :
    Except LocationAdmission AdmittedLocationSample :=
  match recorder.recordingGeneration, recorder.checkSample distance sample with
  | none, _ => .error .outOfOrder
  | some recordingGeneration, .accepted =>
    let (segmentId, segmentStarted, segmentStartReason) := recorder.nextSampleMetadata sample
    .ok
      { point := ⟨sample, segmentId, recorder.telemetryStateAt sample.monotonic, segmentStartReason⟩
        boundary := if segmentStarted then .start else .continues
        recordingGeneration
        activeIntervalGeneration := recorder.activeIntervalGeneration }
  | some _, admission => .error admission

def admitStationarySample (recorder : RideMapRecorder) (sample : LocationSample) :
    Except LocationAdmission LocationObservation :=
  if recorder.state ≠ some .active ∨ sample.source ≠ .live then .error .outOfOrder
  else (recorder.admitSample distance sample).map fun admitted =>
    ⟨sample, admitted.recordingGeneration, recorder.activeIntervalGeneration⟩

def observeClock (recorder : RideMapRecorder) (sample : LocationSample) : RideMapRecorder :=
  { recorder with
    latestLocationObservation := some sample
    lastMonotonic := max recorder.lastMonotonic sample.monotonic }

/-- `observe_stationary`; `none` is a refusal. -/
def observeStationary (recorder : RideMapRecorder) (observation : LocationObservation) : Option RideMapRecorder :=
  if recorder.recordingGeneration ≠ some observation.recordingGeneration ∨
      recorder.activeIntervalGeneration ≠ observation.activeIntervalGeneration ∨
      !(recorder.admitStationarySample distance observation.sample).isOk then none
  else some ((recorder.observeClock observation.sample).markStationaryBoundary observation.sample.monotonic)

/-- Live repeats inside a segment only advance the clock. -/
def classifySample (recorder : RideMapRecorder) (sample : LocationSample) : LocationRecordingDecision :=
  match recorder.admitSample distance sample with
  | .error reason => .rejected reason
  | .ok admitted =>
    let repeats := recorder.points.getLast?.any fun previous =>
      sample.sameValues previous.sample && previous.telemetryState == recorder.telemetryStateAt sample.monotonic
    if sample.source = .live ∧ admitted.boundary ≠ .start ∧ repeats then
      .observeClockOnly ⟨sample, admitted.recordingGeneration, recorder.activeIntervalGeneration⟩
    else .record admitted

/-- `observe_clock_only`; `none` is a refusal. -/
def observeClockOnly (recorder : RideMapRecorder) (observation : LocationObservation) : Option RideMapRecorder :=
  if recorder.state ≠ some .active ∨ recorder.recordingGeneration ≠ some observation.recordingGeneration ∨
      recorder.activeIntervalGeneration ≠ observation.activeIntervalGeneration then none
  else match recorder.classifySample distance observation.sample with
    | .observeClockOnly _ => some (recorder.observeClock observation.sample)
    | _ => none

/-- Whether an admitted sample still belongs to this recording and lies behind its last point. -/
def takes (recorder : RideMapRecorder) (admitted : AdmittedLocationSample) : Bool :=
  recorder.state.any RideLifecycleState.settles &&
    decide (recorder.recordingGeneration = some admitted.recordingGeneration) &&
    recorder.lastPointAt.all fun last => last < admitted.sample.monotonic

/-- Whether settling keeps the boundary of a resume that came after the sample's admission. -/
def preservesResume (recorder : RideMapRecorder) (admitted : AdmittedLocationSample) : Bool :=
  recorder.segmentStarted && decide (admitted.activeIntervalGeneration ≠ recorder.activeIntervalGeneration)

/-- What the distance grows by: nothing across a segment boundary. -/
def addedDistance (recorder : RideMapRecorder) (point : RideMapPoint) : Nat :=
  match recorder.points.getLast? with
  | some previous =>
    if previous.segmentId = point.segmentId then distance previous.sample.coordinate point.sample.coordinate else 0
  | none => 0

/-- The retained tail of the points. -/
def pushPoint (points : List RideMapPoint) (point : RideMapPoint) : List RideMapPoint :=
  (points ++ [point]).drop (points.length + 1 - maxLiveRoutePoints)

/-- The recorder behind a settled point. -/
def recorded (recorder : RideMapRecorder) (admitted : AdmittedLocationSample) : RideMapRecorder :=
  let point := admitted.point
  let continues := recorder.points.getLast?.any fun previous => previous.segmentId = point.segmentId
  let preserves := recorder.preservesResume admitted
  let summary : RideSummary :=
    ⟨saturatingAdd recorder.summary.pointCount 1,
      saturatingAdd recorder.summary.distance (recorder.addedDistance distance point)⟩
  let points := pushPoint recorder.points point
  { recorder with
    backgroundGapCount :=
      if !continues ∧ point.segmentStartReason = .backgroundGap then saturatingAdd recorder.backgroundGapCount 1
      else recorder.backgroundGapCount
    segmentId := max recorder.segmentId (if preserves then nextSegment point.segmentId else point.segmentId)
    summary
    lastMonotonic := max recorder.lastMonotonic point.sample.monotonic
    latestLocationObservation :=
      if recorder.latestLocationObservation.all fun previous => previous.monotonic < point.sample.monotonic then
        some point.sample
      else recorder.latestLocationObservation
    points
    firstPointSequence := summary.pointCount - points.length
    segmentStarted := preserves
    stationaryBoundaryAt := if recorder.behindBoundary point.sample then none else recorder.stationaryBoundaryAt }

/-- `record_admitted_sample`; `none` is a refusal. -/
def recordAdmittedSample (recorder : RideMapRecorder) (admitted : AdmittedLocationSample) : Option RideMapRecorder :=
  if recorder.takes admitted then some (recorder.recorded distance admitted) else none

end Admission

def restoreStationaryObservation (recorder : RideMapRecorder) (sample : LocationSample) : RideMapRecorder :=
  if sample.source ≠ .live ∨ sample.monotonic < recorder.createdAt ∨ recorder.lastMonotonic < sample.monotonic ∨
      (recorder.latestLocationObservation.any fun previous => sample.monotonic < previous.monotonic) then recorder
  else { recorder with latestLocationObservation := some sample }.markStationaryBoundary sample.monotonic

def restoreLocationObservation (recorder : RideMapRecorder) (time wallClock : Nat) : RideMapRecorder :=
  match recorder.points.getLast? with
  | none => recorder
  | some point =>
    if time < point.sample.monotonic ∨ recorder.lastMonotonic < time ∨
        (recorder.latestLocationObservation.any fun latest => time < latest.monotonic) then recorder
    else { recorder with latestLocationObservation := some { point.sample with monotonic := time, wallClock } }

end RideMapRecorder

structure RideMapMetadata where
  candidateVehicle : Option VehicleIdentity
  associatedVehicle : Option VehicleIdentity
  associatedAt : Option Nat
  lastTelemetryAt : Option Nat
  backgroundGapCount : Nat
  deriving Repr, DecidableEq

/-- `restored_with_summary_and_timing`: a bounded tail of the stored route under a new generation. -/
def RideMapRecorder.restored (state : RideLifecycleState) (createdAt : Nat) (metadata : RideMapMetadata)
    (route : List RideMapPoint) (summary : RideSummary) (timing : RideRecordingTiming) (generation : Option Nat) :
    RideMapRecorder :=
  let points := route.drop (route.length - maxLiveRoutePoints)
  let routeLast := (points.getLast?.map fun point => point.sample.monotonic).getD createdAt
  let last := max (max timing.lastEvent routeLast) createdAt
  let gaps := (points.filter fun point => point.segmentStartReason = .backgroundGap).length
  { state := some state
    recordingGeneration := generation
    createdAt
    candidateVehicle := metadata.candidateVehicle
    associatedVehicle := metadata.associatedVehicle
    associatedAt := metadata.associatedAt
    lastTelemetryAt := metadata.lastTelemetryAt
    latestLocationObservation := points.getLast?.map RideMapPoint.sample
    lastMonotonic := last
    activeStartedAt := if state = .active then some last else none
    pausedAt := if state = .paused then
        some ((timing.pausedAt.map fun paused => min (max paused createdAt) last).getD last)
      else none
    pausedDuration := timing.pausedDuration
    completedDuration := timing.completedDuration
    segmentId := (points.getLast?.map RideMapPoint.segmentId).getD 0
    backgroundGapCount := max metadata.backgroundGapCount gaps
    firstPointSequence := summary.pointCount - points.length
    summary
    points }

/-- `save_interrupted_at_recorded_duration`; `none` is a refusal. -/
def RideMapRecorder.saveInterruptedAtRecordedDuration (recorder : RideMapRecorder) (recordedDuration : Nat) :
    Option RideMapRecorder :=
  if recorder.state ≠ some .interrupted ∨ recorder.pausedAt.isSome ∨ recorder.completedDuration < recordedDuration then none
  else do
    let save ← RideLifecycleState.interrupted.transition .save
    let saved ← recorder.applyTransitionAt save recorder.lastMonotonic
    some { saved with completedDuration := recordedDuration }

inductive RecorderCall where
  | recordAdmitted (sample : LocationSample)
  | recordSample (sample : LocationSample)
  | observeStationary (observation : LocationObservation)
  | observeClockOnly (observation : LocationObservation)
  | markStationaryBoundary (time : Nat)
  | applyTransition (transition : ValidatedRideTransition) (time : Nat)
  | saveInterrupted (recordedDuration : Nat)
  | observeVehicle (identity : VehicleIdentity) (time : Nat)
  | observeTelemetry (time : Nat)
  deriving Repr, DecidableEq

inductive RouteEffect where
  | still
  | recorded (point : RideMapPoint)
  | observed (sample : LocationSample)
  | parked (sample : LocationSample)
  | marked (time : Nat)
  | resumed
  deriving Repr, DecidableEq

namespace RideMapRecorder
variable (distance : Distance)

def settle (recorder : RideMapRecorder) (admitted : AdmittedLocationSample) : RideMapRecorder × RouteEffect :=
  match recorder.recordAdmittedSample distance admitted with
  | some next => (next, .recorded admitted.point)
  | none => (recorder, .still)

def observeRepeat (recorder : RideMapRecorder) (observation : LocationObservation) : RideMapRecorder × RouteEffect :=
  match recorder.observeClockOnly distance observation with
  | some next => (next, .observed observation.sample)
  | none => (recorder, .still)

def recordSample (recorder : RideMapRecorder) (sample : LocationSample) : RideMapRecorder × RouteEffect :=
  if recorder.state ≠ some .active then (recorder, .still)
  else match recorder.classifySample distance sample with
    | .record admitted => recorder.settle distance admitted
    | .observeClockOnly observation => recorder.observeRepeat distance observation
    | .rejected _ => (recorder, .still)

def step (recorder : RideMapRecorder) : RecorderCall → RideMapRecorder × RouteEffect
  | .recordAdmitted sample =>
    match recorder.admitSample distance sample with
    | .ok admitted => recorder.settle distance admitted
    | .error _ => (recorder, .still)
  | .recordSample sample => recorder.recordSample distance sample
  | .observeStationary observation =>
    match recorder.observeStationary distance observation with
    | some next => (next, .parked observation.sample)
    | none => (recorder, .still)
  | .observeClockOnly observation => recorder.observeRepeat distance observation
  | .markStationaryBoundary time => (recorder.markStationaryBoundary time, .marked time)
  | .applyTransition transition time =>
    match recorder.applyTransitionAt transition time with
    | some next => (next, if transition.resumes then .resumed else .still)
    | none => (recorder, .still)
  | .saveInterrupted recordedDuration =>
    ((recorder.saveInterruptedAtRecordedDuration recordedDuration).getD recorder, .still)
  | .observeVehicle identity time => ((recorder.observeVehicle identity time).1, .still)
  | .observeTelemetry time => ((recorder.observeTelemetry time).1, .still)

end RideMapRecorder

/-- Calls on a recorder over several recordings. A queued write may settle long after its admission. -/
inductive RecordingCall where
  | start (time : Nat) (candidateVehicle : Option VehicleIdentity) (generation : Option Nat)
  | applyTransition (transition : ValidatedRideTransition) (time : Nat)
  | saveInterrupted (recordedDuration : Nat)
  | recordSample (sample : LocationSample)
  | recordAdmittedSample (admitted : AdmittedLocationSample)
  | observeStationary (observation : LocationObservation)
  | observeClockOnly (observation : LocationObservation)
  | markStationaryBoundary (time : Nat)
  | restoreStationaryObservation (sample : LocationSample)
  | restoreLocationObservation (time wallClock : Nat)
  | observeVehicle (identity : VehicleIdentity) (time : Nat)
  | observeTelemetry (time : Nat)
  deriving Repr, DecidableEq

namespace RideMapRecorder
variable (distance : Distance)

/-- A refused call leaves the recorder as it was. -/
def taken (recorder : RideMapRecorder) : Option RideMapRecorder → RideMapRecorder × Bool
  | some next => (next, true)
  | none => (recorder, false)

/-- The recorder behind a call, and whether it was taken. -/
def perform (recorder : RideMapRecorder) : RecordingCall → RideMapRecorder × Bool
  | .start time candidateVehicle generation => recorder.taken (recorder.start time candidateVehicle generation)
  | .applyTransition transition time => recorder.taken (recorder.applyTransitionAt transition time)
  | .saveInterrupted recordedDuration => recorder.taken (recorder.saveInterruptedAtRecordedDuration recordedDuration)
  | .recordSample sample => ((recorder.recordSample distance sample).1, true)
  | .recordAdmittedSample admitted => recorder.taken (recorder.recordAdmittedSample distance admitted)
  | .observeStationary observation => recorder.taken (recorder.observeStationary distance observation)
  | .observeClockOnly observation => recorder.taken (recorder.observeClockOnly distance observation)
  | .markStationaryBoundary time => (recorder.markStationaryBoundary time, true)
  | .restoreStationaryObservation sample => (recorder.restoreStationaryObservation sample, true)
  | .restoreLocationObservation time wallClock => (recorder.restoreLocationObservation time wallClock, true)
  | .observeVehicle identity time => ((recorder.observeVehicle identity time).1, true)
  | .observeTelemetry time => ((recorder.observeTelemetry time).1, true)

end RideMapRecorder

end Cutout.Rides

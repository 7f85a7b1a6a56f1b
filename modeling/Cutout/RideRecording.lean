import Cutout.RideRecorder

/-! The owner of a ride recording. Two recorders are kept: the durable one holds
what the database has confirmed, the admission one also what is still queued. The
database answers each call through values that the call carries. -/

namespace Cutout.Rides
open Protocols (saturatingAdd u64Max isMoving)

def maxPendingLocationWrites : Nat := 64
def maxMotionTransitions : Nat := 64
def interruptedRideResumeWindow : Nat := 3 * 60 * 60 * 1000

structure RideMotionObservation where
  parked : Bool
  observedAt : Nat
  lastStationaryAt : Option Nat
  deriving Repr, DecidableEq

/-- The motion part of `RecordingSpeedState`, oldest transition first; the speeds only feed displays. -/
structure RecordingSpeedState where
  motion : List RideMotionObservation := []
  latestVerifiedMotionAt : Option Nat := none
  firstVerifiedMotionAt : Option Nat := none
  retiredMotionBefore : Option Nat := none
  deriving Repr, DecidableEq

namespace RecordingSpeedState

def latestMotion (speed : RecordingSpeedState) : Option RideMotionObservation := speed.motion.getLast?

def restoreMotion (_ : RecordingSpeedState) (observation : RideMotionObservation) : RecordingSpeedState :=
  let motion := match observation.parked, observation.lastStationaryAt with
    | false, some time => if time < observation.observedAt then [⟨true, time, some time⟩, observation] else [observation]
    | _, _ => [observation]
  { motion
    latestVerifiedMotionAt := some observation.observedAt
    firstVerifiedMotionAt := motion.head?.map RideMotionObservation.observedAt }

/-- Only transitions are kept; says whether there was one. -/
def observeVerifiedMotion (speed : RecordingSpeedState) (millimetresPerSecond : Int) (sourceAt receiptAt : Nat) :
    RecordingSpeedState × Bool :=
  if receiptAt < sourceAt ∨ telemetryFreshnessMilliseconds < receiptAt - sourceAt ∨
      (speed.latestVerifiedMotionAt.any fun time => sourceAt ≤ time) then (speed, false)
  else
    let speed := { speed with
      latestVerifiedMotionAt := some sourceAt
      firstVerifiedMotionAt := speed.firstVerifiedMotionAt.or (some sourceAt) }
    let parked := !isMoving millimetresPerSecond
    if speed.latestMotion.any fun previous => previous.parked = parked then (speed, false)
    else
      let lastStationaryAt :=
        if parked then some sourceAt else speed.latestMotion.bind RideMotionObservation.lastStationaryAt
      let speed := if speed.motion.length = maxMotionTransitions then
          { speed with
            motion := speed.motion.drop 1
            retiredMotionBefore := (speed.motion.drop 1).head?.map RideMotionObservation.observedAt }
        else speed
      ({ speed with motion := speed.motion ++ [⟨parked, sourceAt, lastStationaryAt⟩] }, true)

/-- The latest transition at or before a source time. -/
def motionAt (speed : RecordingSpeedState) (time : Nat) : Option RideMotionObservation :=
  speed.motion.reverse.find? fun motion => motion.observedAt ≤ time

def parkedAt (speed : RecordingSpeedState) (time : Nat) : Bool :=
  (speed.motionAt time).any RideMotionObservation.parked

def motionHistoryRetiredAt (speed : RecordingSpeedState) (time : Nat) : Bool :=
  (speed.firstVerifiedMotionAt.any fun first => first ≤ time) &&
    speed.retiredMotionBefore.any fun oldest => time < oldest

end RecordingSpeedState

inductive RestorePhase where
  | pending | ready | recoveryRequired
  deriving Repr, DecidableEq

/-- The storage failures that a command tells apart. -/
inductive StorageError where
  | responseDropped | deadlineExceeded | other
  deriving Repr, DecidableEq

inductive RideRecordingError where
  | restorationNotReady | recoveryRequired | commandPending | noActiveRide | staleCommand | invalidTransition
  | commandIdExhausted | musicAdmission
  | storage (error : StorageError)
  deriving Repr, DecidableEq

/-- What the writer says about one queued point. -/
inductive LocationWriteResult where
  | settled (admission : LocationAdmission)
  | failed (error : StorageError)
  deriving Repr, DecidableEq

structure PendingLocation where
  requestId : Nat
  rideId : Nat
  admitted : AdmittedLocationSample
  point : RideMapPoint
  sequence : Nat
  deriving Repr, DecidableEq

structure RideLocationWriteOutcome where
  requestId : Nat
  rideId : Nat
  point : RideMapPoint
  sequence : Nat
  result : LocationWriteResult
  projectionApplied : Bool
  deriving Repr, DecidableEq

inductive RideLocationAdmission where
  | queued (requestId : Nat) (point : RideMapPoint) (sequence : Nat)
  | acceptedInMemory (point : RideMapPoint) (sequence : Nat)
  | clockOnly | parked | motionHistoryRetired | queueFull
  | rejected (reason : LocationAdmission)
  deriving Repr, DecidableEq

inductive RideLocationAdmissionFailureDisposition where
  | notObserved | clockOnlyObservation
  deriving Repr, DecidableEq

inductive RideLocationObservationCheckpointOutcome where
  | applied | alreadyObserved | pointChanged
  deriving Repr, DecidableEq

structure RideRecordingToken where
  rideId : Nat
  generation : Nat
  deriving Repr, DecidableEq

structure CommittedRide where
  rideId : Nat
  lifecycle : RideLifecycleState
  deriving Repr, DecidableEq

structure PreparedRideStart where
  id : Nat
  time : Nat
  candidateVehicle : Option VehicleIdentity
  deriving Repr, DecidableEq

structure PreparedRideTransition where
  id : Nat
  rideId : Nat
  transition : ValidatedRideTransition
  time : Nat
  monotonicEpochOffset : Nat
  lastTelemetryAt : Option Nat
  deriving Repr, DecidableEq

/-- `VerifiedConnectionLifecycleMutation`: connecting stops, saves, resumes and starts rides. -/
inductive LifecycleMutation where
  | transition (event : RideEvent) (keeps : event ≠ .discard) (time : Nat)
  | startLive (time : Nat) (candidateVehicle : VehicleIdentity)
  deriving Repr, DecidableEq

structure PreparedVerifiedConnection where
  id : Nat
  mutations : List LifecycleMutation
  monotonicEpochOffset : Nat
  vehicle : VehicleIdentity
  connectionGeneration : Nat
  logicalAt : Nat
  selectedLogicalAt : Nat
  deriving Repr, DecidableEq

structure VerifiedConnectionOutcome where
  createdRideId : Option Nat
  committed : Option CommittedRide
  selectedDeviceMatches : Bool
  deriving Repr, DecidableEq

structure RestoredRide where
  id : Nat
  state : RideLifecycleState
  monotonicCreatedAt : Option Nat
  duration : Nat
  candidateVehicle : Option VehicleIdentity
  associatedVehicle : Option VehicleIdentity
  associatedAt : Option Nat
  monotonicLastEvent : Option Nat
  pausedAt : Option Nat
  pausedDuration : Nat
  completedDuration : Nat
  summary : RideSummary
  routePoints : List RideMapPoint
  motion : Option RideMotionObservation
  stationaryObservation : Option LocationSample
  lastLocationObserved : Option (Nat × Nat)
  lastTelemetryAt : Option Nat
  updatedAt : Nat
  deriving Repr, DecidableEq

structure RecordingState where
  recorder : RideMapRecorder := {}
  admissionRecorder : RideMapRecorder := {}
  rideId : Option Nat := none
  generation : Nat := 0
  speedGenerationStarted : Nat := 0
  speed : RecordingSpeedState := {}
  persistedTelemetryReceipt : Option (Nat × Nat) := none
  recoverableUpdatedAt : Option Nat := none
  monotonicEpochOffset : Nat := 0
  lastConnectionTransitionGeneration : Option Nat := none
  lastConnectionTransitionRideId : Option Nat := none
  lastConnectionAdmissionGeneration : Option Nat := none
  pendingLocations : List PendingLocation := []
  settledLocations : List RideLocationWriteOutcome := []
  nextLocationRequestId : Nat := 1
  nextCommandId : Nat := 1
  pendingCommandId : Option Nat := none
  restorePhase : RestorePhase := .pending
  /-- The process-wide counter behind `next_recording_generation`. -/
  nextRecordingGeneration : Nat := 1
  deriving Repr, DecidableEq

/-- How far the writer has got: how many queued writes are ready, and with which results. -/
structure WriteProgress where
  ready : Nat
  results : Nat → LocationWriteResult

/-- The database's answers to one admission. -/
structure AdmissionStorage where
  barrier : Option StorageError := none
  results : Nat → LocationWriteResult := fun _ => .settled .accepted
  checkpoint : Except StorageError RideLocationObservationCheckpointOutcome := .ok .applied
  queue : Option StorageError := none

structure RideVehicleSpeedSample where
  millimetresPerSecond : Int
  sourceAt : Nat
  deriving Repr, DecidableEq

inductive RideOutput where
  | done
  | prepared (id : Nat)
  | preparedStart (operation : PreparedRideStart)
  | preparedTransition (operation : PreparedRideTransition)
  | preparedConnection (operation : PreparedVerifiedConnection)
  | failed (error : RideRecordingError)
  | location (admission : RideLocationAdmission)
  | locationFailed (error : RideRecordingError) (disposition : RideLocationAdmissionFailureDisposition)
  | writes (outcomes : List RideLocationWriteOutcome)
  | telemetry (observation : TelemetryObservation) (motionChanged : Bool)
  deriving Repr, DecidableEq

namespace RecordingState

def requireReady (state : RecordingState) : Option RideRecordingError :=
  match state.restorePhase with
  | .ready => none
  | .pending => some .restorationNotReady
  | .recoveryRequired => some .recoveryRequired

/-- `next_recording_generation`. -/
def drawnGeneration (state : RecordingState) : Option Nat :=
  if state.nextRecordingGeneration < u64Max then some state.nextRecordingGeneration else none

def countGeneration (state : RecordingState) : RecordingState :=
  { state with generation := saturatingAdd state.generation 1 }

def release (state : RecordingState) (id : Nat) : RecordingState :=
  if state.pendingCommandId = some id then { state with pendingCommandId := none } else state

/-- The projection has to be restored before the next command. -/
def requireRecovery (state : RecordingState) : RecordingState :=
  { state with pendingCommandId := none, restorePhase := .recoveryRequired }

def commandStorageError (state : RecordingState) (id : Nat) (error : StorageError) : RecordingState × RideOutput :=
  if state.pendingCommandId = some id then
    let state := { state with pendingCommandId := none }
    (match error with
      | .responseDropped | .deadlineExceeded => state.requireRecovery
      | .other => state, .failed (.storage error))
  else (state, .failed (.storage error))

section Settlement
variable (distance : Distance)

/-- A recorder after a queued write, if it still takes it. -/
def settled (recorder : RideMapRecorder) (admitted : AdmittedLocationSample) : RideMapRecorder :=
  (recorder.recordAdmittedSample distance admitted).getD recorder

/-- One ready write: a confirmed point of the current ride enters the durable recorder. -/
def settleWrite (rideId : Option Nat) (results : Nat → LocationWriteResult)
    (work : RideMapRecorder × List RideLocationWriteOutcome) (pending : PendingLocation) :
    RideMapRecorder × List RideLocationWriteOutcome :=
  let result := results pending.requestId
  let recorded := if result = .settled .accepted ∧ rideId = some pending.rideId then
      work.1.recordAdmittedSample distance pending.admitted
    else none
  (recorded.getD work.1, work.2 ++
    [⟨pending.requestId, pending.rideId, pending.point, pending.sequence, result, recorded.isSome⟩])

/-- The queue replayed over a recorder. -/
def replay (recorder : RideMapRecorder) (queue : List PendingLocation) : RideMapRecorder :=
  queue.foldl (fun recorder pending => settled distance recorder pending.admitted) recorder

/-- The admission recorder is rebuilt from what is left. -/
def settleReadyLocationWrites (state : RecordingState) (progress : WriteProgress) :
    RecordingState × List RideLocationWriteOutcome :=
  let (recorder, outcomes) := (state.pendingLocations.take progress.ready).foldl
    (settleWrite distance state.rideId progress.results) (state.recorder, state.settledLocations)
  let pendingLocations := state.pendingLocations.drop progress.ready
  ({ state with
      recorder
      pendingLocations
      settledLocations := []
      admissionRecorder := replay distance recorder pendingLocations }, outcomes)

def settleKeeping (state : RecordingState) (progress : WriteProgress) : RecordingState :=
  let (state, outcomes) := state.settleReadyLocationWrites distance progress
  { state with settledLocations := outcomes }

end Settlement

/-- `begin_restore`; `queued` is the database's refusal to queue the request. -/
def beginRestore (database : Bool) (state : RecordingState) (queued : Option StorageError) :
    RecordingState × RideOutput :=
  if state.pendingCommandId.isSome then (state, .failed .commandPending)
  else if state.nextCommandId = u64Max then (state, .failed .commandIdExhausted)
  else
    let id := state.nextCommandId
    let state := { state with nextCommandId := id + 1 }
    match database, queued with
    | true, some error => (state, .failed (.storage error))
    | _, _ => ({ state with pendingCommandId := some id, restorePhase := .pending }, .prepared id)

/-- The recorder that `restore_projection` builds from a stored ride. -/
def restoredRecorder (ride : RestoredRide) (generation : Option Nat) : RideMapRecorder :=
  let lastRestored := ride.routePoints.getLast?.map fun point => point.sample.monotonic
  let createdAt := (ride.monotonicCreatedAt.or (lastRestored.map fun last => last - ride.duration)).getD 0
  let recorder := RideMapRecorder.restored ride.state createdAt
    ⟨ride.candidateVehicle, ride.associatedVehicle, ride.associatedAt, none, 0⟩ ride.routePoints ride.summary
    ⟨(ride.monotonicLastEvent.or lastRestored).getD createdAt, ride.pausedAt, ride.pausedDuration,
      ride.completedDuration⟩ generation
  let recorder := match ride.motion.bind RideMotionObservation.lastStationaryAt with
    | some time => recorder.markStationaryBoundary time
    | none => recorder
  match ride.stationaryObservation, ride.lastLocationObserved with
  | some sample, _ => recorder.restoreStationaryObservation sample
  | none, some (time, wallClock) => recorder.restoreLocationObservation time wallClock
  | none, none => recorder

/-- `restore_projection` without automatic recovery. -/
def restoreProjection (state : RecordingState) (restored : Option RestoredRide) : RecordingState :=
  let state := { state with
    lastConnectionTransitionGeneration := none
    lastConnectionTransitionRideId := none
    lastConnectionAdmissionGeneration := none
    speed := {} }
  match restored with
  | none =>
    { state with
      recorder := {}
      admissionRecorder := {}
      rideId := none
      persistedTelemetryReceipt := none
      recoverableUpdatedAt := none }.countGeneration
  | some ride =>
    let recorder := restoredRecorder ride state.drawnGeneration
    { state with
      recorder
      admissionRecorder := recorder
      nextRecordingGeneration := min (state.nextRecordingGeneration + 1) u64Max
      speedGenerationStarted :=
        ((ride.routePoints.getLast?.map fun point : RideMapPoint => point.sample.monotonic).or
          ride.monotonicCreatedAt).getD 0
      speed := match ride.motion with
        | some motion => state.speed.restoreMotion motion
        | none => state.speed
      rideId := some ride.id
      persistedTelemetryReceipt := ride.lastTelemetryAt.map fun time => (ride.id, time)
      recoverableUpdatedAt := some ride.updatedAt }.countGeneration

def finishRestore (database : Bool) (state : RecordingState) (id : Nat)
    (snapshot : Except StorageError (Option RestoredRide)) : RecordingState × RideOutput :=
  match database, snapshot with
  | true, .error error => (state.release id, .failed (.storage error))
  | _, _ =>
    if state.pendingCommandId ≠ some id then (state, .failed .staleCommand)
    else if state.generation = u64Max then (state.requireRecovery, .failed .commandIdExhausted)
    else
      let state := match database, snapshot with
        | true, .ok restored => state.restoreProjection restored
        | _, _ => { state with recorder := {}, admissionRecorder := {}, rideId := none }.countGeneration
      ({ state with restorePhase := .ready, pendingCommandId := none }, .done)

/-- The lifecycle states that a new recording may replace. -/
def startable : RideLifecycleState → Bool
  | .stopped | .interrupted | .saved | .discarded => true
  | _ => false

def beginStart (database : Bool) (state : RecordingState) (time : Nat) (candidateVehicle : Option VehicleIdentity)
    (queued : Option StorageError) : RecordingState × RideOutput :=
  match state.requireReady with
  | some error => (state, .failed error)
  | none =>
    if state.pendingCommandId.isSome then (state, .failed .commandPending)
    else if state.recorder.state.any fun lifecycle => !startable lifecycle then (state, .failed .invalidTransition)
    else if state.nextCommandId = u64Max then (state, .failed .commandIdExhausted)
    else
      let id := state.nextCommandId
      let state := { state with nextCommandId := id + 1 }
      match database, queued with
      | true, some error => (state, .failed (.storage error))
      | _, _ => ({ state with pendingCommandId := some id }, .preparedStart ⟨id, time, candidateVehicle⟩)

/-- The ride that a start publishes, with empty speed evidence. -/
def publishStart (state : RecordingState) (recorder : RideMapRecorder) (rideId time : Nat) : RecordingState :=
  { state with
    recorder
    admissionRecorder := recorder
    nextRecordingGeneration := state.nextRecordingGeneration + 1
    rideId := some rideId
    speed := {}
    speedGenerationStarted := time
    persistedTelemetryReceipt := none }.countGeneration

/-- `finish_start`; without a database the ride number is a fresh one. -/
def finishStart (database : Bool) (state : RecordingState) (operation : PreparedRideStart)
    (committed : Except StorageError CommittedRide) (freshRideId : Nat) : RecordingState × RideOutput :=
  match database, committed with
  | true, .error error => state.commandStorageError operation.id error
  | _, _ =>
    if state.pendingCommandId ≠ some operation.id then (state, .failed .staleCommand)
    else
      let ride : Option CommittedRide := match database, committed with
        | true, .ok ride => some ride
        | _, _ => none
      if ride.any fun ride => ride.lifecycle ≠ .active then (state.requireRecovery, .failed .invalidTransition)
      else match state.recorder.start operation.time operation.candidateVehicle state.drawnGeneration with
        | none => (state.requireRecovery, .failed .invalidTransition)
        | some recorder =>
          ({ state.publishStart recorder ((ride.map CommittedRide.rideId).getD freshRideId) operation.time with
              pendingCommandId := none }, .done)

/-- The clock offset under which a resumed ride continues its timeline. -/
def epochOffset (recorder : RideMapRecorder) (current : Nat) (event : RideEvent) (time : Nat) : Nat :=
  if event = .resume ∧ (recorder.state = some .interrupted ∨ recorder.state = some .paused) then
    recorder.lastMonotonic - time
  else current

def beginTransition (database : Bool) (state : RecordingState) (token : RideRecordingToken) (event : RideEvent)
    (time : Nat) (lastTelemetryAt : Option Nat) (queued : Option StorageError) : RecordingState × RideOutput :=
  match state.requireReady with
  | some error => (state, .failed error)
  | none =>
    if state.pendingCommandId.isSome then (state, .failed .commandPending)
    else if state.rideId ≠ some token.rideId ∨ state.generation ≠ token.generation then (state, .failed .staleCommand)
    else match state.recorder.state.bind fun lifecycle => lifecycle.transition event with
      | none => (state, .failed .invalidTransition)
      | some transition =>
        if state.nextCommandId = u64Max then (state, .failed .commandIdExhausted)
        else
          let monotonicEpochOffset := epochOffset state.recorder state.monotonicEpochOffset event time
          let id := state.nextCommandId
          let state := { state with nextCommandId := id + 1 }
          match database, queued with
          | true, some error => (state, .failed (.storage error))
          | _, _ => ({ state with pendingCommandId := some id }, .preparedTransition
              { id, transition, monotonicEpochOffset, lastTelemetryAt
                rideId := token.rideId
                time := saturatingAdd time monotonicEpochOffset })

def beginStopAfterMusic (state : RecordingState) (token : RideRecordingToken) (time : Nat)
    (lastTelemetryAt : Option Nat) : RecordingState × RideOutput :=
  match state.requireReady with
  | some error => (state, .failed error)
  | none =>
    if state.pendingCommandId.isSome then (state, .failed .commandPending)
    else if state.rideId ≠ some token.rideId ∨ state.generation ≠ token.generation then (state, .failed .staleCommand)
    else match state.recorder.state.bind fun lifecycle => lifecycle.transition .stop with
      | none => (state, .failed .invalidTransition)
      | some transition =>
        if state.nextCommandId = u64Max then (state, .failed .commandIdExhausted)
        else
          let id := state.nextCommandId
          ({ state with nextCommandId := id + 1, pendingCommandId := some id }, .preparedTransition
            { id, transition, lastTelemetryAt
              monotonicEpochOffset := state.monotonicEpochOffset
              rideId := token.rideId
              time := saturatingAdd time state.monotonicEpochOffset })

/-- Whether the committed checkpoint is not the one of the requested transition. -/
def contradicts (operation : PreparedRideTransition) (committed : CommittedRide) : Bool :=
  decide (committed.rideId ≠ operation.rideId ∨ committed.lifecycle ≠ operation.transition.next)

section Commands
variable (distance : Distance)

/-- What both ways of finishing a transition share: the writes that are ready settle, the ticket and the
checkpoint are checked, both recorders take the transition. A stop changes the durable recorder `inPlace`. -/
def finishLifecycle (state : RecordingState) (operation : PreparedRideTransition) (committed : Option CommittedRide)
    (progress : WriteProgress) (inPlace : Bool)
    (publish : RecordingState → RideMapRecorder → RideMapRecorder → RecordingState) : RecordingState × RideOutput :=
  let (polled, outcomes) := state.settleReadyLocationWrites distance progress
  if polled.pendingCommandId ≠ some operation.id then (polled, .failed .staleCommand)
  else
    let state := { polled with settledLocations := outcomes }
    if state.rideId ≠ some operation.rideId ∨ (committed.any fun ride => contradicts operation ride) then
      (if committed.isSome then state.requireRecovery else { state with pendingCommandId := none }, .failed .staleCommand)
    else
      let state := match operation.lastTelemetryAt with
        | some time => { state with persistedTelemetryReceipt := some (operation.rideId, time) }
        | none => state
      match state.recorder.applyTransitionAt operation.transition operation.time,
          state.admissionRecorder.applyTransitionAt operation.transition operation.time with
      | some recorder, some admissionRecorder =>
        ({ publish state recorder admissionRecorder with pendingCommandId := none }, .done)
      | some recorder, none =>
        ((if inPlace then { state with recorder } else state).requireRecovery, .failed .invalidTransition)
      | none, _ => (state.requireRecovery, .failed .invalidTransition)

/-- The state behind a transition; a discarded ride drops its queue. -/
def publishTransition (operation : PreparedRideTransition) (state : RecordingState)
    (recorder admissionRecorder : RideMapRecorder) : RecordingState :=
  let state := { state with
    recorder
    admissionRecorder
    monotonicEpochOffset := operation.monotonicEpochOffset }.countGeneration
  match operation.transition.event with
  | .resume => { state with recoverableUpdatedAt := none, speedGenerationStarted := operation.time }
  | .discard =>
    { state with
      rideId := none
      persistedTelemetryReceipt := none
      recoverableUpdatedAt := none
      pendingLocations := [] }
  | _ => state

def publishStop (operation : PreparedRideTransition) (state : RecordingState)
    (recorder admissionRecorder : RideMapRecorder) : RecordingState :=
  { state with
    recorder
    admissionRecorder
    monotonicEpochOffset := operation.monotonicEpochOffset }.countGeneration

def finishTransition (database : Bool) (state : RecordingState) (operation : PreparedRideTransition)
    (committed : Except StorageError CommittedRide) (progress : WriteProgress) : RecordingState × RideOutput :=
  match database, committed with
  | true, .error error => state.commandStorageError operation.id error
  | true, .ok ride => state.finishLifecycle distance operation (some ride) progress false (publishTransition operation)
  | false, _ => state.finishLifecycle distance operation none progress false (publishTransition operation)

/-- `finish_stop_after_music`; `fenced` says whether the music written before the stop has settled. -/
def finishStopAfterMusic (database : Bool) (state : RecordingState) (operation : PreparedRideTransition) (fenced : Bool)
    (committed : Except StorageError CommittedRide) (progress : WriteProgress) : RecordingState × RideOutput :=
  if !fenced then (state.release operation.id, .failed .musicAdmission)
  else match database, committed with
    | true, .error error => state.commandStorageError operation.id error
    | true, .ok ride => state.finishLifecycle distance operation (some ride) progress true (publishStop operation)
    | false, _ => state.finishLifecycle distance operation none progress true (publishStop operation)

/-- The decision on a moving fix: with writes in flight every admitted fix is recorded. -/
def locationDecision (state : RecordingState) (sample : LocationSample) : LocationRecordingDecision :=
  if state.pendingLocations = [] then state.recorder.classifySample distance sample
  else match state.admissionRecorder.admitSample distance sample with
    | .ok admitted => .record admitted
    | .error reason => .rejected reason

/-- Both recorders learn when the wheel last stood still before a fix. -/
def markStationary (state : RecordingState) (sample : LocationSample) : RecordingState :=
  match state.recorder.associatedVehicle,
      (state.speed.motionAt sample.monotonic).bind RideMotionObservation.lastStationaryAt with
  | some _, some time =>
    { state with
      recorder := state.recorder.markStationaryBoundary time
      admissionRecorder := state.admissionRecorder.markStationaryBoundary time }
  | _, _ => state

/-- A fix while the wheel is parked: the queue settles, then only clocks advance. -/
def admitParked (database : Bool) (state : RecordingState) (sample : LocationSample) (storage : AdmissionStorage) :
    RecordingState × RideOutput :=
  let waits := database && decide (state.pendingLocations ≠ [])
  match waits, storage.barrier with
  | true, some error => (state, .locationFailed (.storage error) .notObserved)
  | _, _ =>
    -- The writer answers in order, so every earlier write is ready behind the barrier.
    let state := if waits then
        state.settleKeeping distance ⟨state.pendingLocations.length, storage.results⟩
      else state
    match state.recorder.admitStationarySample distance sample with
    | .error reason => (state, .location (.rejected reason))
    | .ok observation =>
      match database, storage.checkpoint with
      | true, .error error => (state, .locationFailed (.storage error) .notObserved)
      | true, .ok .pointChanged => (state, .locationFailed .staleCommand .notObserved)
      | _, _ => match state.recorder.observeStationary distance observation with
        | none => (state, .locationFailed .staleCommand .notObserved)
        | some recorder => ({ state with recorder, admissionRecorder := recorder }, .location .parked)

/-- A fix that repeats the last point. -/
def admitClockOnly (database : Bool) (state : RecordingState) (observation : LocationObservation)
    (storage : AdmissionStorage) : RecordingState × RideOutput :=
  if state.recorder.summary.pointCount = 0 then (state, .locationFailed .invalidTransition .clockOnlyObservation)
  else match database, storage.checkpoint with
    | true, .error error => (state, .locationFailed (.storage error) .clockOnlyObservation)
    | true, .ok .pointChanged => (state, .locationFailed .staleCommand .clockOnlyObservation)
    | _, _ => match state.recorder.observeClockOnly distance observation with
      | none => (state, .locationFailed .staleCommand .clockOnlyObservation)
      | some recorder => ({ state with recorder, admissionRecorder := recorder }, .location .clockOnly)

/-- A fix that becomes a route point, in memory or through the bounded queue. -/
def admitRecord (database : Bool) (state : RecordingState) (sample : LocationSample) (rideId : Nat)
    (admitted : AdmittedLocationSample) (storage : AdmissionStorage) : RecordingState × RideOutput :=
  let (segmentId, _, startReason) := state.admissionRecorder.nextSampleMetadata sample
  let point : RideMapPoint :=
    ⟨sample, segmentId, state.admissionRecorder.telemetryStateAt sample.monotonic, startReason⟩
  let sequence := state.admissionRecorder.summary.pointCount
  let requestId := state.nextLocationRequestId
  if requestId = u64Max then (state, .locationFailed .commandIdExhausted .notObserved)
  else match state.admissionRecorder.recordAdmittedSample distance admitted, database with
    | none, _ => (state, .locationFailed .invalidTransition .notObserved)
    | some _, false => match state.recorder.recordAdmittedSample distance admitted with
      | none => (state, .locationFailed .invalidTransition .notObserved)
      | some recorder =>
        ({ state with recorder, admissionRecorder := recorder }, .location (.acceptedInMemory point sequence))
    | some admissionRecorder, true =>
      if maxPendingLocationWrites ≤ state.pendingLocations.length + state.settledLocations.length then
        (state, .location .queueFull)
      else match storage.queue with
        | some error => (state, .locationFailed (.storage error) .notObserved)
        | none =>
          ({ state with
              nextLocationRequestId := requestId + 1
              admissionRecorder
              pendingLocations := state.pendingLocations ++ [⟨requestId, rideId, admitted, point, sequence⟩] },
            .location (.queued requestId point sequence))

/-- `admit_location_with_policy`. -/
def admitLocation (database : Bool) (state : RecordingState) (sample : LocationSample) (storage : AdmissionStorage) :
    RecordingState × RideOutput :=
  match state.requireReady, state.rideId with
  | some error, _ => (state, .locationFailed error .notObserved)
  | none, none => (state, .locationFailed .noActiveRide .notObserved)
  | none, some rideId =>
    let associated := state.recorder.associatedVehicle.isSome
    if associated && state.speed.motionHistoryRetiredAt sample.monotonic then (state, .location .motionHistoryRetired)
    else
      let state := state.markStationary sample
      if associated && state.speed.parkedAt sample.monotonic then state.admitParked distance database sample storage
      else match state.locationDecision distance sample with
        | .rejected reason => (state, .location (.rejected reason))
        | .observeClockOnly observation => state.admitClockOnly distance database observation storage
        | .record admitted => state.admitRecord distance database sample rideId admitted storage

/-- Behind the barrier every earlier write is ready. -/
def checkpointLocationWrites (database : Bool) (state : RecordingState) (barrier : Option StorageError)
    (progress : WriteProgress) : RecordingState × RideOutput :=
  match database, barrier with
  | true, some error => (state, .failed (.storage error))
  | _, _ =>
    let ready := if database then state.pendingLocations.length else progress.ready
    let (state, outcomes) := state.settleReadyLocationWrites distance ⟨ready, progress.results⟩
    (state, .writes outcomes)

end Commands

/-- `observe_telemetry`; a verified speed also moves the motion history. -/
def observeTelemetry (database : Bool) (state : RecordingState) (time : Nat) (speed : Option RideVehicleSpeedSample)
    (verified : Bool) (storage : Option StorageError) : RecordingState × RideOutput :=
  match state.requireReady with
  | some error => (state, .failed error)
  | none =>
    let (staged, observation) := state.admissionRecorder.observeTelemetry time
    let accepted := decide (observation = .observed ∨ observation = .alreadyObserved)
    let (stagedSpeed, motionChanged) := match speed with
      | some sample =>
        if accepted && verified && decide (state.speedGenerationStarted ≤ sample.sourceAt ∧ sample.sourceAt ≤ time) then
          state.speed.observeVerifiedMotion sample.millimetresPerSecond sample.sourceAt time
        else (state.speed, false)
      | none => (state.speed, false)
    let published := { state with admissionRecorder := staged, speed := stagedSpeed }
    if observation = .observed ∨ motionChanged then
      let published := { published with recorder := (state.recorder.observeTelemetry time).1 }
      match database, state.rideId with
      | true, some rideId =>
        if state.persistedTelemetryReceipt.map Prod.fst ≠ some rideId ∨ motionChanged then
          match storage with
          | some error => (state, .failed (.storage error))
          | none => ({ published with persistedTelemetryReceipt := some (rideId, time) },
              .telemetry observation motionChanged)
        else (published, .telemetry observation motionChanged)
      | _, _ => (published, .telemetry observation motionChanged)
    else (published, .telemetry observation motionChanged)

def observeVerifiedVehicleSpeed (state : RecordingState) (millimetresPerSecond : Option Int)
    (sourceAt receiptAt generation : Nat) : RecordingState :=
  match millimetresPerSecond with
  | some speed =>
    if state.generation ≠ generation ∨ sourceAt < state.speedGenerationStarted ∨ receiptAt < sourceAt ∨
        telemetryFreshnessMilliseconds < receiptAt - sourceAt then state
    else { state with speed := (state.speed.observeVerifiedMotion speed sourceAt receiptAt).1 }
  | none => state

end RecordingState

end Cutout.Rides

import Cutout.RideRecovery

/-! The verified connection of a vehicle: which rides it stops, saves, resumes or
starts, and its association with the ride that records. The calls of the recording
owner are collected at the end. -/

namespace Cutout.Rides
open Protocols (saturatingAdd u64Max)

/-- The state that a verified connection is planned on. -/
structure AdmissionPreview where
  recorder : RideMapRecorder
  admissionRecorder : RideMapRecorder
  rideId : Option Nat
  monotonicEpochOffset : Nat
  recoverableUpdatedAt : Option Nat
  nextRecordingGeneration : Nat
  mutations : List LifecycleMutation
  deriving Repr, DecidableEq

namespace AdmissionPreview

/-- `transition` of a preview; the planner never discards. -/
def transition (preview : AdmissionPreview) (event : RideEvent) (keeps : event ≠ .discard) (time : Nat) :
    Except RideRecordingError AdmissionPreview :=
  match preview.rideId, preview.recorder.state with
  | some _, some lifecycle => match lifecycle.transition event with
    | none => .error .invalidTransition
    | some transition =>
      let offset := RecordingState.epochOffset preview.recorder preview.monotonicEpochOffset event time
      match preview.recorder.applyTransitionAt transition (saturatingAdd time offset),
          preview.admissionRecorder.applyTransitionAt transition (saturatingAdd time offset) with
      | some recorder, some admissionRecorder => .ok { preview with
          recorder
          admissionRecorder
          monotonicEpochOffset := offset
          recoverableUpdatedAt := if event = .resume then none else preview.recoverableUpdatedAt
          mutations := preview.mutations ++ [.transition event keeps (saturatingAdd time offset)] }
      | _, _ => .error .invalidTransition
  | _, _ => .error .noActiveRide

def startLive (preview : AdmissionPreview) (time : Nat) (vehicle : VehicleIdentity) :
    Except RideRecordingError AdmissionPreview :=
  let generation :=
    if preview.nextRecordingGeneration < u64Max then some preview.nextRecordingGeneration else none
  match preview.recorder.start time (some vehicle) generation with
  | none => .error .invalidTransition
  | some recorder => .ok { preview with
      recorder
      admissionRecorder := recorder
      rideId := none
      monotonicEpochOffset := 0
      recoverableUpdatedAt := none
      nextRecordingGeneration := preview.nextRecordingGeneration + 1
      mutations := preview.mutations ++ [.startLive time vehicle] }

/-- Whether an interrupted ride of this vehicle is recent enough to go on. -/
def resumable (preview : AdmissionPreview) (vehicle : VehicleIdentity) (wallClock : Nat) : Bool :=
  decide (preview.recorder.state = some .interrupted) &&
    decide ((preview.recorder.associatedVehicle.or preview.recorder.candidateVehicle) = some vehicle) &&
    preview.recoverableUpdatedAt.any fun updatedAt =>
      decide (updatedAt ≤ wallClock ∧ wallClock - updatedAt ≤ interruptedRideResumeWindow)

def planAutoRecording (preview : AdmissionPreview) (vehicle : VehicleIdentity) (time wallClock : Nat) :
    Except RideRecordingError AdmissionPreview := do
  let anotherVehicle := preview.recorder.state.any RideLifecycleState.isRecording &&
    (preview.recorder.associatedVehicle.or preview.recorder.candidateVehicle).any fun current => current ≠ vehicle
  let preview ← if anotherVehicle then do
      let preview ← preview.transition .stop (by decide) time
      preview.transition .save (by decide) time
    else pure preview
  let preview ← if preview.resumable vehicle wallClock then preview.transition .resume (by decide) time
    else pure preview
  if preview.recorder.state.all RideLifecycleState.allowsAutoRecordingReplacement then preview.startLive time vehicle
  else pure preview

end AdmissionPreview

namespace RecordingState

/-- `begin_verified_connection_admission`; `automatic` is the stored preference to record this vehicle, read when
this connection has not started a ride before. -/
def beginVerifiedConnection (database : Bool) (state : RecordingState) (vehicle : VehicleIdentity)
    (time connectionGeneration wallClock : Nat) (automatic : Except StorageError Bool) (queued : Option StorageError) :
    RecordingState × RideOutput :=
  match state.requireReady with
  | some error => (state, .failed error)
  | none =>
    if state.lastConnectionTransitionGeneration = some connectionGeneration ∧
        state.lastConnectionTransitionRideId = state.rideId then (state, .done)
    else if state.pendingCommandId.isSome then (state, .failed .commandPending)
    else if state.nextCommandId = u64Max then (state, .failed .commandIdExhausted)
    else
      let consumed := decide (state.lastConnectionAdmissionGeneration = some connectionGeneration)
      let preview : AdmissionPreview :=
        { recorder := state.recorder
          admissionRecorder := state.admissionRecorder
          rideId := state.rideId
          monotonicEpochOffset := state.monotonicEpochOffset
          recoverableUpdatedAt := state.recoverableUpdatedAt
          nextRecordingGeneration := state.nextRecordingGeneration
          mutations := [] }
      let planned : Except RideRecordingError AdmissionPreview := if !database || consumed then .ok preview
        else match automatic with
          | .error error => .error (.storage error)
          | .ok wanted => if wanted then preview.planAutoRecording vehicle time wallClock else .ok preview
      match planned with
      | .error error => (state, .failed error)
      | .ok preview =>
        let state := { state with nextRecordingGeneration := preview.nextRecordingGeneration }
        match database, queued with
        | true, some error => (state, .failed (.storage error))
        | _, _ =>
          ({ state with
              nextCommandId := state.nextCommandId + 1
              pendingCommandId := some state.nextCommandId }, .preparedConnection
            { id := state.nextCommandId
              mutations := preview.mutations
              monotonicEpochOffset := preview.monotonicEpochOffset
              vehicle
              connectionGeneration
              logicalAt := saturatingAdd time state.monotonicEpochOffset
              selectedLogicalAt := saturatingAdd time preview.monotonicEpochOffset })

/-- `apply_transition_mutation`; a recorder that already took the transition keeps it when the other refuses. -/
def applyTransitionMutation (state : RecordingState) (event : RideEvent) (time : Nat) :
    Except (RecordingState × RideRecordingError) RecordingState :=
  match state.recorder.state with
  | none => .error (state, .noActiveRide)
  | some lifecycle => match lifecycle.transition event with
    | none => .error (state, .invalidTransition)
    | some transition => match state.recorder.applyTransitionAt transition time with
      | none => .error (state, .invalidTransition)
      | some recorder =>
        let state := { state with recorder }
        match state.admissionRecorder.applyTransitionAt transition time with
        | none => .error (state, .invalidTransition)
        | some admissionRecorder => .ok { state with
            admissionRecorder
            recoverableUpdatedAt :=
              if event = RideEvent.resume then none else state.recoverableUpdatedAt }.countGeneration

def applyStartMutation (database : Bool) (state : RecordingState) (outcome : VerifiedConnectionOutcome)
    (freshRideId time : Nat) (vehicle : VehicleIdentity) :
    Except (RecordingState × RideRecordingError) RecordingState :=
  match outcome.createdRideId, database with
  | none, true => .error (state, .invalidTransition)
  | created, _ =>
    let rideId := created.getD freshRideId
    if database && !(outcome.committed.any fun ride => ride.rideId = rideId) then .error (state, .invalidTransition)
    else match state.recorder.start time (some vehicle) state.drawnGeneration with
      | none => .error (state, .invalidTransition)
      | some recorder => .ok { state.publishStart recorder rideId time with recoverableUpdatedAt := none }

/-- `apply_selected_mutations`. -/
def applyMutations (database : Bool) (outcome : VerifiedConnectionOutcome) (freshRideId : Nat) :
    RecordingState → List LifecycleMutation → Except (RecordingState × RideRecordingError) RecordingState
  | state, [] => .ok state
  | state, .transition event _ time :: mutations =>
    match state.applyTransitionMutation event time with
    | .error failure => .error failure
    | .ok state => applyMutations database outcome freshRideId state mutations
  | state, .startLive time vehicle :: mutations =>
    match state.applyStartMutation database outcome freshRideId time vehicle with
    | .error failure => .error failure
    | .ok state => applyMutations database outcome freshRideId state mutations

/-- `apply_verified_admission_receipt`. -/
def applyReceipt (database : Bool) (state : RecordingState) (operation : PreparedVerifiedConnection)
    (outcome : VerifiedConnectionOutcome) (freshRideId : Nat) :
    Except (RecordingState × RideRecordingError) RecordingState :=
  if !(outcome.selectedDeviceMatches || !database) then .ok state
  else match applyMutations database outcome freshRideId state operation.mutations with
    | .error (state, error) => .error (if database then state.requireRecovery else state, error)
    | .ok state =>
      let state := { state with monotonicEpochOffset := operation.monotonicEpochOffset }
      let state := if operation.mutations = [] then state else
        { state with
          lastConnectionTransitionGeneration := some operation.connectionGeneration
          lastConnectionTransitionRideId := state.rideId }
      if database && outcome.committed.any fun ride =>
          decide (state.rideId = some ride.rideId ∧ state.recorder.state ≠ some ride.lifecycle) then
        .error (state.requireRecovery, .invalidTransition)
      else .ok state

/-- The association of a connected vehicle: the durable recorder follows the admission one. -/
def associate (state : RecordingState) (operation : PreparedVerifiedConnection) (time : Nat) : RecordingState :=
  let (staged, association) := state.admissionRecorder.observeVehicle operation.vehicle time
  let state := { state with
    admissionRecorder := staged
    recorder := if association = .associated then (state.recorder.observeVehicle operation.vehicle time).1
      else state.recorder }
  if association = .associated ∨ association = .alreadyAssociated then
    { state with
      lastConnectionTransitionGeneration := some operation.connectionGeneration
      lastConnectionTransitionRideId := state.rideId }
  else state

/-- `finish_verified_connection_admission`. -/
def finishVerifiedConnection (distance : Distance) (database : Bool) (state : RecordingState)
    (operation : PreparedVerifiedConnection) (receipt : Except StorageError VerifiedConnectionOutcome)
    (freshRideId : Nat) (progress : WriteProgress) : RecordingState × RideOutput :=
  match database, receipt with
  | true, .error error => state.commandStorageError operation.id error
  | _, _ =>
    let outcome : VerifiedConnectionOutcome := match database, receipt with
      | true, .ok outcome => outcome
      | _, _ => ⟨none, none, false⟩
    let state := state.settleKeeping distance progress
    if state.pendingCommandId ≠ some operation.id then (state, .failed .staleCommand)
    else match state.applyReceipt database operation outcome freshRideId with
      | .error (state, error) => (state.release operation.id, .failed error)
      | .ok state =>
        let state := { state with
          lastConnectionAdmissionGeneration := some operation.connectionGeneration
          pendingCommandId := none }
        if state.recorder.state.any RideLifecycleState.isRecording then
          (state.associate operation
            (if outcome.selectedDeviceMatches || !database then operation.selectedLogicalAt else operation.logicalAt),
            .done)
        else (state, .done)

end RecordingState

/-- The calls that a recording owner receives, each with the database's answers. -/
inductive RideCall where
  | beginRestore (queued : Option StorageError)
  | finishRestore (id : Nat) (snapshot : Except StorageError (Option RestoredRide))
  | finishRestoreWithPolicy (id : Nat) (restored : Except StorageError (Option RecoverableRide))
      (policy : RideRecoveryPolicy) (storage : RecoveryStorage)
  | beginStart (time : Nat) (candidateVehicle : Option VehicleIdentity) (queued : Option StorageError)
  | finishStart (operation : PreparedRideStart) (committed : Except StorageError CommittedRide) (freshRideId : Nat)
  | beginTransition (token : RideRecordingToken) (event : RideEvent) (time : Nat) (lastTelemetryAt : Option Nat)
      (queued : Option StorageError)
  | finishTransition (operation : PreparedRideTransition) (committed : Except StorageError CommittedRide)
      (progress : WriteProgress)
  | beginStopAfterMusic (token : RideRecordingToken) (time : Nat) (lastTelemetryAt : Option Nat)
  | finishStopAfterMusic (operation : PreparedRideTransition) (stops : operation.transition.event = .stop)
      (fenced : Bool) (committed : Except StorageError CommittedRide) (progress : WriteProgress)
  | dropCommand (id : Nat)
  | admitLocation (sample : LocationSample) (storage : AdmissionStorage)
  | pollLocationWrites (progress : WriteProgress)
  | checkpointLocationWrites (barrier : Option StorageError) (progress : WriteProgress)
  | observeTelemetry (time : Nat) (speed : Option RideVehicleSpeedSample) (verified : Bool)
      (storage : Option StorageError)
  | observeVerifiedVehicleSpeed (millimetresPerSecond : Option Int) (sourceAt receiptAt generation : Nat)
  | restoreMotion (motion : RideMotionObservation)
  | beginVerifiedConnection (vehicle : VehicleIdentity) (time connectionGeneration wallClock : Nat)
      (automatic : Except StorageError Bool) (queued : Option StorageError)
  | finishVerifiedConnection (operation : PreparedVerifiedConnection)
      (receipt : Except StorageError VerifiedConnectionOutcome) (freshRideId : Nat) (progress : WriteProgress)

namespace RecordingState

def step (distance : Distance) (database : Bool) (state : RecordingState) : RideCall → RecordingState × RideOutput
  | .beginRestore queued => state.beginRestore database queued
  | .finishRestore id snapshot => state.finishRestore database id snapshot
  | .finishRestoreWithPolicy id restored policy storage =>
    match state.finishRestoreWithPolicy database id restored policy storage with
    | (state, .ok _) => (state, .done)
    | (state, .error error) => (state, .failed error)
  | .beginStart time candidateVehicle queued => state.beginStart database time candidateVehicle queued
  | .finishStart operation committed freshRideId => state.finishStart database operation committed freshRideId
  | .beginTransition token event time lastTelemetryAt queued =>
    state.beginTransition database token event time lastTelemetryAt queued
  | .finishTransition operation committed progress => state.finishTransition distance database operation committed progress
  | .beginStopAfterMusic token time lastTelemetryAt => state.beginStopAfterMusic token time lastTelemetryAt
  | .finishStopAfterMusic operation _ fenced committed progress =>
    state.finishStopAfterMusic distance database operation fenced committed progress
  | .dropCommand id => (state.release id, .done)
  | .admitLocation sample storage => state.admitLocation distance database sample storage
  | .pollLocationWrites progress =>
    let (state, outcomes) := state.settleReadyLocationWrites distance progress
    (state, .writes outcomes)
  | .checkpointLocationWrites barrier progress => state.checkpointLocationWrites distance database barrier progress
  | .observeTelemetry time speed verified storage => state.observeTelemetry database time speed verified storage
  | .observeVerifiedVehicleSpeed millimetresPerSecond sourceAt receiptAt generation =>
    (state.observeVerifiedVehicleSpeed millimetresPerSecond sourceAt receiptAt generation, .done)
  | .restoreMotion motion => ({ state with speed := state.speed.restoreMotion motion }, .done)
  | .beginVerifiedConnection vehicle time connectionGeneration wallClock automatic queued =>
    state.beginVerifiedConnection database vehicle time connectionGeneration wallClock automatic queued
  | .finishVerifiedConnection operation receipt freshRideId progress =>
    state.finishVerifiedConnection distance database operation receipt freshRideId progress

/-- `new` and `in_memory`. -/
def new (database : Bool) : RecordingState where
  restorePhase := if database then .pending else .ready

end RecordingState

end Cutout.Rides

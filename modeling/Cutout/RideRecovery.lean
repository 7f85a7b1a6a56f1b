import Cutout.RideRecording

/-! The restoration at startup with its recovery policy. The stored ride is projected first; then the
policy resumes it, keeps it, or settles it in the database. A recovery that fails leaves what it had
projected, and the owner not ready. -/

namespace Cutout.Rides
open Protocols (saturatingAdd u64Max)

def explicitPausePersistenceWindow : Nat := 24 * 60 * 60 * 1000

inductive RideRecoveryKind where
  | involuntaryInterruption | explicitPause
  deriving Repr, DecidableEq

inductive RideRecoveryDecision where
  | resume | keepPaused | finalize
  deriving Repr, DecidableEq

/-- `ride_recovery_decision`; a wall clock that went back finalizes. -/
def rideRecoveryDecision (kind : RideRecoveryKind) (now updatedAt : Nat) : RideRecoveryDecision :=
  if now < updatedAt then .finalize
  else match kind with
    | .involuntaryInterruption => if now - updatedAt ≤ interruptedRideResumeWindow then .resume else .finalize
    | .explicitPause => if now - updatedAt ≤ explicitPausePersistenceWindow then .keepPaused else .finalize

structure RideRecoveryPolicy where
  monotonicNow : Nat
  wallClockNow : Nat
  enabled : Bool
  autostartEnabled : Bool
  selectedVehicleIdentifier : Option String
  deriving Repr, DecidableEq

inductive RideRecoveryDisposition where
  | empty | active | resumed | pauseRetained | unchanged | saved | discarded | replaced | awaitingConnection
  deriving Repr, DecidableEq

structure RecoverableRide extends RestoredRide where
  recordedDuration : Option Nat
  lastConnectedVehicle : Option VehicleIdentity
  deriving Repr, DecidableEq

/-- The database's answers to one recovery. -/
structure RecoveryStorage where
  resumed : Except StorageError CommittedRide := .error .other
  settled : Except StorageError (Option CommittedRide) := .ok none

/-- `restore_projection` with automatic recovery: an explicitly paused ride comes back paused. -/
def RestoredRide.recovered (ride : RestoredRide) (automatic : Bool) : RestoredRide :=
  if automatic ∧ ride.state = .interrupted ∧ ride.pausedAt.isSome then { ride with state := .paused } else ride

namespace RecoverableRide

def timingLast (ride : RecoverableRide) : Nat :=
  (ride.monotonicLastEvent.or (ride.routePoints.getLast?.map fun point => point.sample.monotonic)).getD 0

def explicitPause (ride : RecoverableRide) : Bool := ride.pausedAt.isSome

def hasVehicleIdentity (ride : RecoverableRide) : Bool := ride.candidateVehicle.isSome || ride.associatedVehicle.isSome

def discardEmpty (ride : RecoverableRide) : Bool := decide (ride.summary.pointCount = 0) && ride.lastTelemetryAt.isNone

/-- The vehicle of a replacement ride: the last connected one, if it is still selected. -/
def replacementCandidate (ride : RecoverableRide) (policy : RideRecoveryPolicy) : Option VehicleIdentity :=
  ride.lastConnectedVehicle.filter fun identity =>
    policy.autostartEnabled && decide (policy.selectedVehicleIdentifier = some identity.name)

end RecoverableRide

namespace RideMapRecorder

/-- `validate_transition` and `apply_transition`. -/
def applyEvent (recorder : RideMapRecorder) (event : RideEvent) : Option RideMapRecorder := do
  let transition ← recorder.state.bind fun lifecycle => lifecycle.transition event
  recorder.applyTransitionAt transition recorder.lastMonotonic

/-- One recorder of `save_recovered_projection`; `none` is a refusal. -/
def saveRecovered (recorder : RideMapRecorder) (explicitPause : Bool) (recordedDuration : Option Nat) :
    Option RideMapRecorder :=
  match recordedDuration.filter fun _ => !explicitPause with
  | some duration => recorder.saveInterruptedAtRecordedDuration duration
  | none => (if explicitPause then recorder.applyEvent .stop else some recorder).bind fun stopped => stopped.applyEvent .save

end RideMapRecorder

namespace RecordingState

def resetAfterRecovery (state : RecordingState) : RecordingState :=
  { state with
    recorder := {}
    admissionRecorder := {}
    rideId := none
    persistedTelemetryReceipt := none
    speed := {}
    pendingLocations := [] }.countGeneration

def startReplacement (state : RecordingState) (committed : CommittedRide) (now : Nat)
    (candidate : Option VehicleIdentity) : RecordingState × Except RideRecordingError RideRecoveryDisposition :=
  if committed.lifecycle ≠ .active then (state, .error .invalidTransition)
  else match RideMapRecorder.start {} now candidate state.drawnGeneration with
    | none => (state, .error .invalidTransition)
    | some recorder =>
      ({ state.publishStart recorder committed.rideId now with
          monotonicEpochOffset := 0
          recoverableUpdatedAt := none
          pendingLocations := [] }, .ok .replaced)

/-- A recorder that already took the transition keeps it when the other refuses. -/
def resumeRestored (state : RecordingState) (rideId timingLast now : Nat) (resumed : Except StorageError CommittedRide) :
    RecordingState × Except RideRecordingError RideRecoveryDisposition :=
  let epochOffset := timingLast - now
  let logicalAt := saturatingAdd now epochOffset
  match state.recorder.state.bind fun lifecycle => lifecycle.transition .resume with
  | none => (state, .error .invalidTransition)
  | some transition => match resumed with
    | .error error => (state, .error (.storage error))
    | .ok committed =>
      if committed.rideId ≠ rideId ∨ committed.lifecycle ≠ .active then (state, .error .staleCommand)
      else match state.recorder.applyTransitionAt transition logicalAt with
        | none => (state, .error .invalidTransition)
        | some recorder => match state.admissionRecorder.applyTransitionAt transition logicalAt with
          | none => ({ state with recorder }, .error .invalidTransition)
          | some admissionRecorder =>
            ({ state with
                recorder
                admissionRecorder
                monotonicEpochOffset := epochOffset
                recoverableUpdatedAt := none }.countGeneration, .ok .resumed)

/-- Both recorders are saved or neither is. -/
def saveRecoveredProjection (state : RecordingState) (explicitPause : Bool) (recordedDuration : Option Nat) :
    RecordingState × Except RideRecordingError RideRecoveryDisposition :=
  match state.recorder.saveRecovered explicitPause recordedDuration,
      state.admissionRecorder.saveRecovered explicitPause recordedDuration with
  | some recorder, some admissionRecorder => ({ state with recorder, admissionRecorder }.countGeneration, .ok .saved)
  | _, _ => (state, .error .invalidTransition)

/-- The end of `apply_recovery`: an expired ride is settled in the database, which may have started another one. -/
def settleRecovered (state : RecordingState) (ride : RecoverableRide) (policy : RideRecoveryPolicy)
    (settled : Except StorageError (Option CommittedRide)) :
    RecordingState × Except RideRecordingError RideRecoveryDisposition :=
  match settled with
  | .error error => (state, .error (.storage error))
  | .ok committed =>
    let state := { state with recoverableUpdatedAt := none }
    match committed.filter fun replacement => replacement.rideId ≠ ride.id with
    | some replacement =>
      state.resetAfterRecovery.startReplacement replacement policy.monotonicNow (ride.replacementCandidate policy)
    | none =>
      if ride.discardEmpty then (state.resetAfterRecovery, .ok .discarded)
      else state.saveRecoveredProjection ride.explicitPause ride.recordedDuration

/-- `apply_recovery` behind the projection of a ride; a stored ride always comes from a database. -/
def applyRecovery (state : RecordingState) (ride : RecoverableRide) (policy : RideRecoveryPolicy)
    (storage : RecoveryStorage) : RecordingState × Except RideRecordingError RideRecoveryDisposition :=
  if !policy.enabled then (state, .ok .unchanged)
  else if ride.state = .active then
    let receipt := (state.persistedTelemetryReceipt.filter fun receipt => receipt.1 = ride.id).elim 0 Prod.snd
    let latest := max (max ride.timingLast (state.recorder.associatedAt.getD 0)) receipt
    ({ state with monotonicEpochOffset := latest - policy.monotonicNow, recoverableUpdatedAt := none }, .ok .active)
  else match rideRecoveryDecision (if ride.explicitPause then .explicitPause else .involuntaryInterruption)
      policy.wallClockNow ride.updatedAt with
    | .resume =>
      -- A ride with a vehicle resumes when that vehicle connects.
      if ride.hasVehicleIdentity then (state, .ok .awaitingConnection)
      else state.resumeRestored ride.id ride.timingLast policy.monotonicNow storage.resumed
    | .keepPaused => (state, .ok .pauseRetained)
    | .finalize => state.settleRecovered ride policy storage.settled

/-- The projection of `finish_restore_with_policy` and its recovery. -/
def recoverProjection (database : Bool) (state : RecordingState) (restored : Except StorageError (Option RecoverableRide))
    (policy : RideRecoveryPolicy) (storage : RecoveryStorage) :
    RecordingState × Except RideRecordingError RideRecoveryDisposition :=
  match database, restored with
  | true, .ok (some ride) =>
    (state.restoreProjection (some (ride.toRestoredRide.recovered policy.enabled))).applyRecovery ride policy storage
  | true, .ok none => (state.restoreProjection none, .ok .empty)
  -- `clear_projection`.
  | _, _ => (state.resetAfterRecovery, .ok .empty)

def finishRestoreWithPolicy (database : Bool) (state : RecordingState) (id : Nat)
    (restored : Except StorageError (Option RecoverableRide)) (policy : RideRecoveryPolicy) (storage : RecoveryStorage) :
    RecordingState × Except RideRecordingError RideRecoveryDisposition :=
  match database, restored with
  | true, .error error => (state.release id, .error (.storage error))
  | _, _ =>
    if state.pendingCommandId ≠ some id then (state, .error .staleCommand)
    else if state.generation = u64Max then (state.requireRecovery, .error .commandIdExhausted)
    else match state.recoverProjection database restored policy storage with
      | (state, .ok disposition) => ({ state with restorePhase := .ready, pendingCommandId := none }, .ok disposition)
      -- The lease gives the command back.
      | (state, .error error) => (state.release id, .error error)

end RecordingState

end Cutout.Rides

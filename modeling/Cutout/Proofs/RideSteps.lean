import Cutout.RideConnection

/-! What each call of the recording owner can do. Every case of a call is listed once,
with the state that it leaves and the result that it returns. -/

namespace Cutout.Rides
open Protocols (u64Max)

def RideOutput.records : RideOutput → Bool
  | .location (.queued _ _ _) | .location (.acceptedInMemory _ _) => true
  | _ => false

namespace RecordingState
variable {distance : Distance} {database : Bool} {state : RecordingState} {sample : LocationSample}
  {storage : AdmissionStorage}

/-- The state that a parked fix is classified in: the queue has settled, or nothing was in flight. -/
def parkedState (distance : Distance) (database : Bool) (state : RecordingState) (storage : AdmissionStorage) :
    RecordingState :=
  if database && decide (state.pendingLocations ≠ []) then
    state.settleKeeping distance ⟨state.pendingLocations.length, storage.results⟩
  else state

def parkedFix (distance : Distance) (database : Bool) (state : RecordingState) (sample : LocationSample)
    (storage : AdmissionStorage) : RecordingState × RideOutput :=
  match state.recorder.admitStationarySample distance sample with
  | .error reason => (state, .location (.rejected reason))
  | .ok observation =>
    match database, storage.checkpoint with
    | true, .error error => (state, .locationFailed (.storage error) .notObserved)
    | true, .ok .pointChanged => (state, .locationFailed .staleCommand .notObserved)
    | _, _ => match state.recorder.observeStationary distance observation with
      | none => (state, .locationFailed .staleCommand .notObserved)
      | some recorder => ({ state with recorder, admissionRecorder := recorder }, .location .parked)

def parkedBarrier (distance : Distance) (database : Bool) (state : RecordingState) (sample : LocationSample)
    (storage : AdmissionStorage) : RecordingState × RideOutput :=
  match database && decide (state.pendingLocations ≠ []), storage.barrier with
  | true, some error => (state, .locationFailed (.storage error) .notObserved)
  | _, _ => parkedFix distance database (state.parkedState distance database storage) sample storage

section Distance
variable (distance : Distance) (database : Bool) (state : RecordingState)

theorem admitParked_cases (sample : LocationSample) (storage : AdmissionStorage) :
    (∃ error, storage.barrier = some error ∧
      state.admitParked distance database sample storage = (state, .locationFailed (.storage error) .notObserved)) ∨
    (∃ output, output.records = false ∧
      state.admitParked distance database sample storage = (state.parkedState distance database storage, output)) ∨
    (∃ observation recorder,
      (state.parkedState distance database storage).recorder.observeStationary distance observation = some recorder ∧
      state.admitParked distance database sample storage =
        ({ state.parkedState distance database storage with recorder, admissionRecorder := recorder },
          .location .parked)) := by
  have shape : state.admitParked distance database sample storage =
      parkedBarrier distance database state sample storage := rfl
  rw [shape, parkedBarrier]
  split
  · rename_i error _ refused
    exact .inl ⟨error, refused, rfl⟩
  · right
    unfold parkedFix
    split
    · exact .inl ⟨_, rfl, rfl⟩
    · split
      · exact .inl ⟨_, rfl, rfl⟩
      · exact .inl ⟨_, rfl, rfl⟩
      · split
        · exact .inl ⟨_, rfl, rfl⟩
        · rename_i recorder accepted
          exact .inr ⟨_, recorder, accepted, rfl⟩

theorem admitClockOnly_cases (observation : LocationObservation) (storage : AdmissionStorage) :
    (∃ error, state.admitClockOnly distance database observation storage =
      (state, .locationFailed error .clockOnlyObservation)) ∨
    (∃ recorder, state.recorder.observeClockOnly distance observation = some recorder ∧
      state.admitClockOnly distance database observation storage =
        ({ state with recorder, admissionRecorder := recorder }, .location .clockOnly)) := by
  unfold admitClockOnly
  split
  · exact .inl ⟨_, rfl⟩
  · split
    · exact .inl ⟨_, rfl⟩
    · exact .inl ⟨_, rfl⟩
    · split
      · exact .inl ⟨_, rfl⟩
      · rename_i recorder accepted
        exact .inr ⟨recorder, accepted, rfl⟩

def locationPoint (state : RecordingState) (sample : LocationSample) : RideMapPoint :=
  let metadata := state.admissionRecorder.nextSampleMetadata sample
  ⟨sample, metadata.1, state.admissionRecorder.telemetryStateAt sample.monotonic, metadata.2.2⟩

theorem admitRecord_cases (sample : LocationSample) (rideId : Nat) (admitted : AdmittedLocationSample)
    (storage : AdmissionStorage) : (∃ output, output.records = false ∧
      state.admitRecord distance database sample rideId admitted storage = (state, output)) ∨
    (∃ recorder, database = false ∧ state.recorder.recordAdmittedSample distance admitted = some recorder ∧
      state.admitRecord distance database sample rideId admitted storage =
        ({ state with recorder, admissionRecorder := recorder },
          .location (.acceptedInMemory (state.locationPoint sample) state.admissionRecorder.summary.pointCount))) ∨
    (∃ admissionRecorder, database = true ∧
      state.admissionRecorder.recordAdmittedSample distance admitted = some admissionRecorder ∧
      state.admitRecord distance database sample rideId admitted storage =
        ({ state with
            nextLocationRequestId := state.nextLocationRequestId + 1
            admissionRecorder
            pendingLocations := state.pendingLocations ++ [⟨state.nextLocationRequestId, rideId, admitted,
              state.locationPoint sample, state.admissionRecorder.summary.pointCount⟩] },
          .location (.queued state.nextLocationRequestId (state.locationPoint sample)
            state.admissionRecorder.summary.pointCount))) := by
  unfold admitRecord
  simp only
  split
  · exact .inl ⟨_, rfl, rfl⟩
  · split
    · exact .inl ⟨_, rfl, rfl⟩
    · split
      · exact .inl ⟨_, rfl, rfl⟩
      · rename_i recorder recorded
        exact .inr (.inl ⟨recorder, rfl, recorded, rfl⟩)
    · rename_i admissionRecorder recorded
      split
      · exact .inl ⟨_, rfl, rfl⟩
      · split
        · exact .inl ⟨_, rfl, rfl⟩
        · exact .inr (.inr ⟨admissionRecorder, rfl, recorded, rfl⟩)

theorem admitLocation_cases (sample : LocationSample) (storage : AdmissionStorage) :
    (∃ output, output.records = false ∧ state.admitLocation distance database sample storage = (state, output)) ∨
    (state.requireReady = none ∧
      (state.recorder.associatedVehicle.isSome && state.speed.parkedAt sample.monotonic) = true ∧
      state.admitLocation distance database sample storage =
        (state.markStationary sample).admitParked distance database sample storage) ∨
    (state.requireReady = none ∧
      (state.recorder.associatedVehicle.isSome && state.speed.parkedAt sample.monotonic) = false ∧
      ((∃ output, output.records = false ∧
        state.admitLocation distance database sample storage = (state.markStationary sample, output)) ∨
      (∃ observation, (state.markStationary sample).locationDecision distance sample = .observeClockOnly observation ∧
        state.admitLocation distance database sample storage =
          (state.markStationary sample).admitClockOnly distance database observation storage) ∨
      (∃ rideId admitted, state.rideId = some rideId ∧
        (state.markStationary sample).locationDecision distance sample = .record admitted ∧
        state.admitLocation distance database sample storage =
          (state.markStationary sample).admitRecord distance database sample rideId admitted storage))) := by
  have speed : (state.markStationary sample).speed = state.speed := by
    unfold markStationary
    split <;> rfl
  unfold admitLocation
  simp only [speed]
  split
  · exact .inl ⟨_, rfl, rfl⟩
  · exact .inl ⟨_, rfl, rfl⟩
  · rename_i rideId ready ride
    split
    · exact .inl ⟨_, rfl, rfl⟩
    · split
      · rename_i parked
        exact .inr (.inl ⟨ready, parked, rfl⟩)
      · rename_i moving
        refine .inr (.inr ⟨ready, Bool.eq_false_iff.mpr moving, ?_⟩)
        split
        · exact .inl ⟨_, rfl, rfl⟩
        · rename_i observation decision
          exact .inr (.inl ⟨observation, decision, rfl⟩)
        · rename_i admitted decision
          exact .inr (.inr ⟨rideId, admitted, ride, decision, rfl⟩)

end Distance

theorem finishStart_cases (database : Bool) (state : RecordingState) (operation : PreparedRideStart)
    (committed : Except StorageError CommittedRide) (freshRideId : Nat) :
    let result := state.finishStart database operation committed freshRideId
    (∃ error, database = true ∧ committed = .error error ∧ result = state.commandStorageError operation.id error) ∨
    (state.pendingCommandId ≠ some operation.id ∧ result = (state, .failed .staleCommand)) ∨
    (state.pendingCommandId = some operation.id ∧ result = (state.requireRecovery, .failed .invalidTransition)) ∨
    (state.pendingCommandId = some operation.id ∧ (database = true → ∃ ride, committed = .ok ride) ∧ ∃ recorder rideId,
      state.recorder.start operation.time operation.candidateVehicle state.drawnGeneration = some recorder ∧
      result = ({ state.publishStart recorder rideId operation.time with pendingCommandId := none }, .done)) := by
  intro result
  have finish : ∀ ride : Option CommittedRide,
      result = (if state.pendingCommandId ≠ some operation.id then (state, .failed .staleCommand)
        else if ride.any fun ride => ride.lifecycle ≠ .active then (state.requireRecovery, .failed .invalidTransition)
        else match state.recorder.start operation.time operation.candidateVehicle state.drawnGeneration with
          | none => (state.requireRecovery, .failed .invalidTransition)
          | some recorder =>
            ({ state.publishStart recorder ((ride.map CommittedRide.rideId).getD freshRideId) operation.time with
                pendingCommandId := none }, .done)) →
      (state.pendingCommandId ≠ some operation.id ∧ result = (state, .failed .staleCommand)) ∨
      (state.pendingCommandId = some operation.id ∧ result = (state.requireRecovery, .failed .invalidTransition)) ∨
      (state.pendingCommandId = some operation.id ∧ ∃ recorder rideId,
        state.recorder.start operation.time operation.candidateVehicle state.drawnGeneration = some recorder ∧
        result = ({ state.publishStart recorder rideId operation.time with pendingCommandId := none }, .done)) := by
    intro ride shape
    rw [shape]
    split
    · rename_i stale
      exact .inl ⟨stale, rfl⟩
    · rename_i holds
      have holds := not_not.mp holds
      split
      · exact .inr (.inl ⟨holds, rfl⟩)
      · split
        · exact .inr (.inl ⟨holds, rfl⟩)
        · rename_i recorder start
          exact .inr (.inr ⟨holds, recorder, _, start, rfl⟩)
  cases database with
  | false =>
    rcases finish none rfl with stale | failed | ⟨holds, done⟩
    · exact .inr (.inl stale)
    · exact .inr (.inr (.inl failed))
    · exact .inr (.inr (.inr ⟨holds, fun stored => absurd stored Bool.false_ne_true, done⟩))
  | true =>
    cases committed with
    | error error => exact .inl ⟨error, rfl, rfl, rfl⟩
    | ok ride =>
      rcases finish (some ride) rfl with stale | failed | ⟨holds, done⟩
      · exact .inr (.inl stale)
      · exact .inr (.inr (.inl failed))
      · exact .inr (.inr (.inr ⟨holds, fun _ => ⟨ride, rfl⟩, done⟩))

theorem finishRestore_cases (database : Bool) (state : RecordingState) (id : Nat)
    (snapshot : Except StorageError (Option RestoredRide)) :
    let result := state.finishRestore database id snapshot
    (∃ error, database = true ∧ snapshot = .error error ∧ result = (state.release id, .failed (.storage error))) ∨
    (state.pendingCommandId ≠ some id ∧ result = (state, .failed .staleCommand)) ∨
    (state.pendingCommandId = some id ∧ result = (state.requireRecovery, .failed .commandIdExhausted)) ∨
    (state.pendingCommandId = some id ∧ ∃ restored, result = ({ restored with restorePhase := .ready, pendingCommandId := none }, .done) ∧
      ((∃ ride, database = true ∧ snapshot = .ok ride ∧ restored = state.restoreProjection ride) ∨
        (database = false ∧
          restored = { state with recorder := {}, admissionRecorder := {}, rideId := none }.countGeneration))) := by
  intro result
  have finish : ∀ restored : RecordingState,
      result = (if state.pendingCommandId ≠ some id then (state, .failed .staleCommand)
        else if state.generation = u64Max then (state.requireRecovery, .failed .commandIdExhausted)
        else ({ restored with restorePhase := .ready, pendingCommandId := none }, .done)) →
      (state.pendingCommandId ≠ some id ∧ result = (state, .failed .staleCommand)) ∨
      (state.pendingCommandId = some id ∧ result = (state.requireRecovery, .failed .commandIdExhausted)) ∨
      (state.pendingCommandId = some id ∧
        result = ({ restored with restorePhase := .ready, pendingCommandId := none }, .done)) := by
    intro restored shape
    rw [shape]
    split
    · rename_i stale
      exact .inl ⟨stale, rfl⟩
    · rename_i holds
      have holds := not_not.mp holds
      split
      · exact .inr (.inl ⟨holds, rfl⟩)
      · exact .inr (.inr ⟨holds, rfl⟩)
  cases database with
  | false =>
    rcases finish _ rfl with stale | exhausted | ⟨holds, done⟩
    · exact .inr (.inl stale)
    · exact .inr (.inr (.inl exhausted))
    · exact .inr (.inr (.inr ⟨holds, _, done, .inr ⟨rfl, rfl⟩⟩))
  | true =>
    cases snapshot with
    | error error => exact .inl ⟨error, rfl, rfl, rfl⟩
    | ok ride =>
      rcases finish _ rfl with stale | exhausted | ⟨holds, done⟩
      · exact .inr (.inl stale)
      · exact .inr (.inr (.inl exhausted))
      · exact .inr (.inr (.inr ⟨holds, _, done, .inl ⟨ride, rfl, rfl, rfl⟩⟩))

/-- The state behind a poll whose outcomes are kept for the next one. -/
def heldState (distance : Distance) (state : RecordingState) (operation : PreparedRideTransition)
    (progress : WriteProgress) : RecordingState :=
  let held := state.settleKeeping distance progress
  match operation.lastTelemetryAt with
  | some time => { held with persistedTelemetryReceipt := some (operation.rideId, time) }
  | none => held

def applyLifecycle (held : RecordingState) (operation : PreparedRideTransition) (inPlace : Bool)
    (publish : RecordingState → RideMapRecorder → RideMapRecorder → RecordingState) : RecordingState × RideOutput :=
  match held.recorder.applyTransitionAt operation.transition operation.time,
      held.admissionRecorder.applyTransitionAt operation.transition operation.time with
  | some recorder, some admissionRecorder =>
    ({ publish held recorder admissionRecorder with pendingCommandId := none }, .done)
  | some recorder, none =>
    ((if inPlace then { held with recorder } else held).requireRecovery, .failed .invalidTransition)
  | none, _ => (held.requireRecovery, .failed .invalidTransition)

theorem finishLifecycle_cases (distance : Distance) (state : RecordingState) (operation : PreparedRideTransition)
    (committed : Option CommittedRide) (progress : WriteProgress) (inPlace : Bool)
    (publish : RecordingState → RideMapRecorder → RideMapRecorder → RecordingState) :
    let polled := (state.settleReadyLocationWrites distance progress).1
    let held := state.heldState distance operation progress
    let result := state.finishLifecycle distance operation committed progress inPlace publish
    (state.pendingCommandId ≠ some operation.id ∧ result = (polled, .failed .staleCommand)) ∨
    (state.pendingCommandId = some operation.id ∧ ∃ failed error, result = (failed, .failed error) ∧
      (failed = { state.settleKeeping distance progress with pendingCommandId := none } ∧ committed = none ∨
        failed = (state.settleKeeping distance progress).requireRecovery ∨ failed = held.requireRecovery)) ∨
    (state.pendingCommandId = some operation.id ∧ held.admissionRecorder.applyTransitionAt operation.transition operation.time = none ∧
      ∃ recorder, held.recorder.applyTransitionAt operation.transition operation.time = some recorder ∧
      result = ((if inPlace then { held with recorder } else held).requireRecovery, .failed .invalidTransition)) ∨
    (state.pendingCommandId = some operation.id ∧ state.rideId = some operation.rideId ∧
      (∀ ride, committed = some ride → contradicts operation ride = false) ∧ ∃ recorder admissionRecorder,
      held.recorder.applyTransitionAt operation.transition operation.time = some recorder ∧
      held.admissionRecorder.applyTransitionAt operation.transition operation.time = some admissionRecorder ∧
      result = ({ publish held recorder admissionRecorder with pendingCommandId := none }, .done)) := by
  intro polled held result
  have shape : result = if polled.pendingCommandId ≠ some operation.id then (polled, .failed .staleCommand)
      else if (state.settleKeeping distance progress).rideId ≠ some operation.rideId ∨
          (committed.any fun ride => contradicts operation ride) = true then
        (if committed.isSome then (state.settleKeeping distance progress).requireRecovery
          else { state.settleKeeping distance progress with pendingCommandId := none }, .failed .staleCommand)
      else held.applyLifecycle operation inPlace publish := rfl
  have pending : polled.pendingCommandId = state.pendingCommandId := rfl
  have ride : (state.settleKeeping distance progress).rideId = state.rideId := rfl
  rw [shape, pending, ride]
  split
  · rename_i stale
    exact .inl ⟨stale, rfl⟩
  · rename_i holds
    have holds : state.pendingCommandId = some operation.id := not_not.mp holds
    split
    · refine .inr (.inl ⟨holds, _, _, rfl, ?_⟩)
      cases committed with
      | none => exact .inl ⟨rfl, rfl⟩
      | some ride => exact .inr (.inl rfl)
    · rename_i current
      rw [not_or, not_not] at current
      unfold applyLifecycle
      split
      · rename_i recorder admissionRecorder durable staged
        refine .inr (.inr (.inr ⟨holds, current.1, ?_, recorder, admissionRecorder, durable, staged, rfl⟩))
        rintro ride rfl
        simpa using current.2
      · rename_i recorder durable staged
        exact .inr (.inr (.inl ⟨holds, staged, recorder, durable, rfl⟩))
      · exact .inr (.inl ⟨holds, _, _, rfl, .inr (.inr rfl)⟩)

def publishTelemetry (database : Bool) (state : RecordingState) (time : Nat) (storage : Option StorageError)
    (motion : RecordingSpeedState × Bool) : RecordingState × RideOutput :=
  let staged := state.admissionRecorder.observeTelemetry time
  let published := { state with admissionRecorder := staged.1, speed := motion.1 }
  if staged.2 = .observed ∨ motion.2 then
    let published := { published with recorder := (state.recorder.observeTelemetry time).1 }
    match database, state.rideId with
    | true, some rideId =>
      if state.persistedTelemetryReceipt.map Prod.fst ≠ some rideId ∨ motion.2 then
        match storage with
        | some error => (state, .failed (.storage error))
        | none => ({ published with persistedTelemetryReceipt := some (rideId, time) }, .telemetry staged.2 motion.2)
      else (published, .telemetry staged.2 motion.2)
    | _, _ => (published, .telemetry staged.2 motion.2)
  else (published, .telemetry staged.2 motion.2)

section Database
variable (database : Bool) (state : RecordingState)

private theorem publishTelemetry_cases (time : Nat) (storage : Option StorageError) (motion : RecordingSpeedState × Bool) :
    let result := publishTelemetry database state time storage motion
    let staged := state.admissionRecorder.observeTelemetry time
    (∃ error, result = (state, .failed error)) ∨
    (∃ recorder speed receipt changed,
      result = ({ state with
        admissionRecorder := staged.1, recorder, speed, persistedTelemetryReceipt := receipt }, .telemetry staged.2 changed) ∧
      (recorder = (state.recorder.observeTelemetry time).1 ∨ (staged.2 ≠ .observed ∧ recorder = state.recorder))) := by
  intro result staged
  simp only [result, publishTelemetry]
  split
  · split
    · split
      · split
        · exact .inl ⟨_, rfl⟩
        · exact .inr ⟨_, _, _, _, rfl, .inl rfl⟩
      · exact .inr ⟨_, _, _, _, rfl, .inl rfl⟩
    · exact .inr ⟨_, _, _, _, rfl, .inl rfl⟩
  · rename_i unchanged
    rw [not_or] at unchanged
    exact .inr ⟨_, _, _, _, rfl, .inr ⟨unchanged.1, rfl⟩⟩

/-- New telemetry reaches both recorders; a refusal of the database leaves everything as it was. -/
theorem observeTelemetry_cases (time : Nat) (speed : Option RideVehicleSpeedSample) (verified : Bool)
    (storage : Option StorageError) : let result := state.observeTelemetry database time speed verified storage
    let staged := state.admissionRecorder.observeTelemetry time
    (∃ error, result = (state, .failed error)) ∨
    (∃ recorder speed receipt changed,
      result = ({ state with
        admissionRecorder := staged.1, recorder, speed, persistedTelemetryReceipt := receipt }, .telemetry staged.2 changed) ∧
      (recorder = (state.recorder.observeTelemetry time).1 ∨ (staged.2 ≠ .observed ∧ recorder = state.recorder))) := by
  intro result staged
  cases ready : state.requireReady with
  | some error =>
    refine .inl ⟨error, ?_⟩
    simp only [result, observeTelemetry, ready]
  | none =>
    have shape : ∃ motion, result = publishTelemetry database state time storage motion := by
      simp only [result, observeTelemetry, ready]
      exact ⟨_, rfl⟩
    obtain ⟨motion, shape⟩ := shape
    rw [shape]
    exact publishTelemetry_cases database state time storage motion

def Refuses (state : RecordingState) (result : RecordingState × RideOutput) : Prop :=
  ∃ error, result = (state, .failed error) ∨
    result = ({ state with nextCommandId := state.nextCommandId + 1 }, .failed error)

theorem beginRestore_cases (queued : Option StorageError) : state.Refuses (state.beginRestore database queued) ∨
    (state.pendingCommandId = none ∧ state.beginRestore database queued =
      ({ state with
        nextCommandId := state.nextCommandId + 1
        pendingCommandId := some state.nextCommandId
        restorePhase := .pending }, .prepared state.nextCommandId)) := by
  unfold beginRestore
  split
  · exact .inl ⟨_, .inl rfl⟩
  · rename_i free
    split
    · exact .inl ⟨_, .inl rfl⟩
    · simp only
      split
      · exact .inl ⟨_, .inr rfl⟩
      · exact .inr ⟨Option.not_isSome_iff_eq_none.mp free, rfl⟩

theorem beginStart_cases (time : Nat) (candidateVehicle : Option VehicleIdentity) (queued : Option StorageError) :
    state.Refuses (state.beginStart database time candidateVehicle queued) ∨
    (state.requireReady = none ∧ state.pendingCommandId = none ∧
      state.beginStart database time candidateVehicle queued =
        ({ state with nextCommandId := state.nextCommandId + 1, pendingCommandId := some state.nextCommandId },
          .preparedStart ⟨state.nextCommandId, time, candidateVehicle⟩)) := by
  unfold beginStart
  split
  · exact .inl ⟨_, .inl rfl⟩
  · rename_i ready
    split
    · exact .inl ⟨_, .inl rfl⟩
    · rename_i free
      split
      · exact .inl ⟨_, .inl rfl⟩
      · split
        · exact .inl ⟨_, .inl rfl⟩
        · simp only
          split
          · exact .inl ⟨_, .inr rfl⟩
          · exact .inr ⟨ready, Option.not_isSome_iff_eq_none.mp free, rfl⟩

end Database

theorem transition_event {lifecycle : RideLifecycleState} {event : RideEvent} {transition : ValidatedRideTransition}
    (valid : lifecycle.transition event = some transition) :
    transition.previous = lifecycle ∧ transition.event = event := by
  unfold RideLifecycleState.transition at valid
  split at valid
  · cases valid
    exact ⟨rfl, rfl⟩
  · cases valid

structure Prepares (state : RecordingState) (token : RideRecordingToken) (event : RideEvent)
    (operation : PreparedRideTransition) : Prop where
  id : operation.id = state.nextCommandId
  ride : operation.rideId = token.rideId ∧ state.rideId = some token.rideId
  generation : state.generation = token.generation
  previous : state.recorder.state = some operation.transition.previous
  event : operation.transition.event = event

theorem beginTransition_cases (database : Bool) (state : RecordingState) (token : RideRecordingToken) (event : RideEvent)
    (time : Nat) (lastTelemetryAt : Option Nat) (queued : Option StorageError) :
    state.Refuses (state.beginTransition database token event time lastTelemetryAt queued) ∨
    (state.requireReady = none ∧ state.pendingCommandId = none ∧ ∃ operation, state.Prepares token event operation ∧
      state.beginTransition database token event time lastTelemetryAt queued =
        ({ state with nextCommandId := state.nextCommandId + 1, pendingCommandId := some state.nextCommandId },
          .preparedTransition operation)) := by
  unfold beginTransition
  split
  · exact .inl ⟨_, .inl rfl⟩
  · rename_i ready
    split
    · exact .inl ⟨_, .inl rfl⟩
    · rename_i free
      split
      · exact .inl ⟨_, .inl rfl⟩
      · rename_i current
        rw [not_or, not_not, not_not] at current
        split
        · exact .inl ⟨_, .inl rfl⟩
        · rename_i transition known
          obtain ⟨lifecycle, before, valid⟩ := Option.bind_eq_some_iff.mp known
          obtain ⟨previous, same⟩ := transition_event valid
          split
          · exact .inl ⟨_, .inl rfl⟩
          · simp only
            split
            · exact .inl ⟨_, .inr rfl⟩
            · exact .inr ⟨ready, Option.not_isSome_iff_eq_none.mp free, _,
                ⟨rfl, ⟨rfl, current.1⟩, current.2, by rw [before, previous], same⟩, rfl⟩

/-- A stop behind the music fence is the transition without a database, whose offset no stop moves. -/
theorem beginStopAfterMusic_eq (token : RideRecordingToken) (time : Nat) (lastTelemetryAt : Option Nat) :
    state.beginStopAfterMusic token time lastTelemetryAt = state.beginTransition false token .stop time lastTelemetryAt none := by
  unfold beginStopAfterMusic beginTransition epochOffset
  rfl

theorem beginStopAfterMusic_cases (state : RecordingState) (token : RideRecordingToken) (time : Nat)
    (lastTelemetryAt : Option Nat) :
    state.Refuses (state.beginStopAfterMusic token time lastTelemetryAt) ∨
    (state.requireReady = none ∧ state.pendingCommandId = none ∧ ∃ operation, state.Prepares token .stop operation ∧
      state.beginStopAfterMusic token time lastTelemetryAt =
        ({ state with nextCommandId := state.nextCommandId + 1, pendingCommandId := some state.nextCommandId },
          .preparedTransition operation)) := by
  rw [beginStopAfterMusic_eq]
  exact beginTransition_cases false state token .stop time lastTelemetryAt none

theorem beginVerifiedConnection_frame (database : Bool) (state : RecordingState) (vehicle : VehicleIdentity)
    (time connectionGeneration wallClock : Nat) (automatic : Except StorageError Bool) (queued : Option StorageError) :
    let after := (state.beginVerifiedConnection database vehicle time connectionGeneration wallClock automatic queued).1
    after.recorder = state.recorder ∧ after.admissionRecorder = state.admissionRecorder ∧
      after.pendingLocations = state.pendingLocations := by
  intro after
  simp only [after, beginVerifiedConnection]
  split
  · exact ⟨rfl, rfl, rfl⟩
  · split
    · exact ⟨rfl, rfl, rfl⟩
    · split
      · exact ⟨rfl, rfl, rfl⟩
      · split
        · exact ⟨rfl, rfl, rfl⟩
        · split
          · exact ⟨rfl, rfl, rfl⟩
          · split <;> exact ⟨rfl, rfl, rfl⟩

end RecordingState

end Cutout.Rides

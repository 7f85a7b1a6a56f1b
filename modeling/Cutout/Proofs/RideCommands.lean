import Cutout.Proofs.RideProjection

/-! The fence around the durable commands of a recording: one command at a time holds
the lifecycle, only its own successful end moves the ride, and a lost result closes the
owner until a restoration has succeeded. -/

namespace Cutout.Rides
open Library
open Protocols (u64Max)
open RecordingState (settled replay)
open RecordingState (publishTransition publishStop beginStart_cases)
variable {publish : RecordingState → RideMapRecorder → RideMapRecorder → RecordingState}
variable {committed : Option CommittedRide}

namespace RideCall

def isCommand : RideCall → Bool
  | .beginVerifiedConnection .. | .finishVerifiedConnection .. => false
  | _ => true

def begins : RideCall → Bool
  | .beginRestore _ | .beginStart .. | .beginTransition .. | .beginStopAfterMusic .. => true
  | _ => false

def finishes : RideCall → Option Nat
  | .finishRestore id _ | .finishRestoreWithPolicy id _ _ _ => some id
  | .finishStart operation _ _ => some operation.id
  | .finishTransition operation _ _ | .finishStopAfterMusic operation _ _ _ _ => some operation.id
  | _ => none

def consumes : RideCall → Option Nat
  | .dropCommand id => some id
  | call => call.finishes

def progress : RideCall → Option WriteProgress
  | .finishTransition _ _ progress | .finishStopAfterMusic _ _ _ _ progress => some progress
  | _ => none

def recovers : RideCall → Bool
  | .finishRestoreWithPolicy .. => true
  | _ => false

def restores : RideCall → Bool
  | .finishRestore _ _ => true
  | call => call.recovers

/-- The storage result of a command was lost after it may have been committed. -/
def loses : RideCall → Bool
  | .finishStart _ (.error .responseDropped) _ | .finishStart _ (.error .deadlineExceeded) _
  | .finishTransition _ (.error .responseDropped) _ | .finishTransition _ (.error .deadlineExceeded) _
  | .finishStopAfterMusic _ _ true (.error .responseDropped) _
  | .finishStopAfterMusic _ _ true (.error .deadlineExceeded) _ => true
  | _ => false

def token : RideCall → Option RideRecordingToken
  | .beginTransition token .. | .beginStopAfterMusic token .. => some token
  | _ => none

/-- The transition that a call finishes, with the answer of the database. -/
def transition : RideCall → Option (PreparedRideTransition × Except StorageError CommittedRide)
  | .finishTransition operation committed _ | .finishStopAfterMusic operation _ _ committed _ => some (operation, committed)
  | _ => none

def asks : RideCall → Bool
  | .beginStart .. | .beginTransition .. | .beginStopAfterMusic .. | .admitLocation .. => true
  | _ => false

end RideCall

namespace RideOutput

def preparedId : RideOutput → Option Nat
  | .prepared id => some id
  | .preparedStart operation => some operation.id
  | .preparedTransition operation => some operation.id
  | .preparedConnection operation => some operation.id
  | _ => none

def fails : RideOutput → Bool
  | .failed _ | .locationFailed _ _ => true
  | _ => false

end RideOutput

structure SameRide (before after : RecordingState) : Prop where
  together : Together after
  lifecycle : after.recorder.state = before.recorder.state
  rideId : after.rideId = before.rideId
  generation : after.generation = before.generation

/-- The durable recorder is as it was, or as the poll of a finished transition left it. -/
def Settles (distance : Distance) (before : RecordingState) (call : RideCall) (after : RecordingState) : Prop :=
  after.recorder = before.recorder ∨ ∃ progress, call.progress = some progress ∧
    after.recorder = (before.settleReadyLocationWrites distance progress).1.recorder

/-- A policy restore of the pending command showed a stored ride, and then failed in its recovery. -/
def FailsRecovery (before : RecordingState) (call : RideCall) (after : RecordingState) : Prop :=
  ∃ id ride policy storage error recovered, call = .finishRestoreWithPolicy id (.ok (some ride)) policy storage ∧
    before.pendingCommandId = some id ∧
    (before.restoreProjection (some (ride.toRestoredRide.recovered policy.enabled))).applyRecovery ride policy storage =
      (recovered, .error error) ∧
    after = { recovered with pendingCommandId := none }

inductive Fences (distance : Distance) (database : Bool) (before : RecordingState) (call : RideCall) :
    RecordingState → RideOutput → Prop
  | keeps {after : RecordingState} {output : RideOutput} (same : SameRide before after)
      (held : after.pendingCommandId = before.pendingCommandId) (ids : before.nextCommandId ≤ after.nextCommandId)
      (phase : after.restorePhase = before.restorePhase) (silent : output.preparedId = none)
      (refused : ∀ id, call.finishes = some id → output.fails = true ∧ Settles distance before call after ∧
        before.pendingCommandId ≠ some id)
      (closed : before.requireReady ≠ none → call.asks = true → output.fails = true) :
      Fences distance database before call after output
  | prepares {after : RecordingState} {output : RideOutput} (same : SameRide before after)
      (free : before.pendingCommandId = none) (held : after.pendingCommandId = some before.nextCommandId)
      (ids : after.nextCommandId = before.nextCommandId + 1) (prepared : output.preparedId = some before.nextCommandId)
      (phase : (before.requireReady = none ∧ after.restorePhase = before.restorePhase) ∨
        (call.asks = false ∧ after.restorePhase = .pending))
      (begins : call.begins = true) :
      Fences distance database before call after output
  | releases {after : RecordingState} {output : RideOutput} {id : Nat} (same : SameRide before after)
      (consumes : call.consumes = some id) (held : before.pendingCommandId = some id) (free : after.pendingCommandId = none)
      (ids : after.nextCommandId = before.nextCommandId)
      (phase : after.restorePhase = before.restorePhase ∨ after.restorePhase = .recoveryRequired)
      (lost : database = true → call.loses = true → after.restorePhase = .recoveryRequired)
      (silent : output.preparedId = none)
      (refused : ∀ id, call.finishes = some id → output.fails = true ∧ Settles distance before call after) :
      Fences distance database before call after output
  | recovers {after : RecordingState} {output : RideOutput} {error : RideRecordingError} {id : Nat}
      (together : Together after) (recovery : FailsRecovery before call after) (finishes : call.finishes = some id)
      (failed : output = .failed error) (held : before.pendingCommandId = some id) (free : after.pendingCommandId = none)
      (ids : after.nextCommandId = before.nextCommandId) (phase : after.restorePhase = before.restorePhase) :
      Fences distance database before call after output
  | completes {after : RecordingState} {output : RideOutput} {id : Nat} (together : Together after)
      (finishes : call.finishes = some id) (done : output = .done) (held : before.pendingCommandId = some id)
      (free : after.pendingCommandId = none)
      (ids : after.nextCommandId = before.nextCommandId)
      (phase : after.restorePhase = before.restorePhase ∨ call.restores = true)
      (known : database = true → call.loses = false) :
      Fences distance database before call after output

variable {distance : Distance} {database : Bool} {state after : RecordingState} {call : RideCall}
variable {progress : WriteProgress}

section Together
variable {recorder : RideMapRecorder}
variable {observation : LocationObservation} {observed : RideMapRecorder} {middle : RecordingState}

theorem Together.settle (distance : Distance) (state : RecordingState) (progress : WriteProgress) :
    SameRide state (state.settleReadyLocationWrites distance progress).1 := by
  have lifecycle := (settleKeeping_frame distance state progress).1
  have frame := replay_frame distance (state.settleReadyLocationWrites distance progress).1.recorder
    (state.pendingLocations.drop progress.ready)
  exact ⟨⟨frame.1, frame.2.2.1⟩, lifecycle, rfl, rfl⟩

theorem SameRide.of_settled
    (recorder : after.recorder = (state.settleReadyLocationWrites distance progress).1.recorder)
    (admission : after.admissionRecorder = (state.settleReadyLocationWrites distance progress).1.admissionRecorder)
    (rideId : after.rideId = state.rideId) (generation : after.generation = state.generation) :
    SameRide state after := by
  have settles := Together.settle distance state progress
  refine ⟨?_, by rw [recorder]; exact settles.lifecycle, rideId, generation⟩
  unfold Together
  rw [recorder, admission]
  exact settles.together

theorem SameRide.of_same (together : Together state) (recorder : after.recorder = state.recorder)
    (admission : after.admissionRecorder = state.admissionRecorder) (rideId : after.rideId = state.rideId)
    (generation : after.generation = state.generation) : SameRide state after := by
  refine ⟨?_, by rw [recorder], rideId, generation⟩
  unfold Together
  rw [recorder, admission]
  exact together

theorem SameRide.refl (together : Together state) : SameRide state state := ⟨together, rfl, rfl, rfl⟩

theorem SameRide.trans (before : SameRide state middle) (later : SameRide middle after) : SameRide state after :=
  ⟨later.together, later.lifecycle.trans before.lifecycle, later.rideId.trans before.rideId,
    later.generation.trans before.generation⟩

/-- Both recorders become one that is in the same lifecycle state. -/
theorem SameRide.one (same : after.admissionRecorder = after.recorder) (lifecycle : after.recorder.state = state.recorder.state)
    (rideId : after.rideId = state.rideId) (generation : after.generation = state.generation) : SameRide state after :=
  ⟨by rw [Together, same]; exact ⟨rfl, rfl⟩, lifecycle, rideId, generation⟩

theorem mark_lifecycle (recorder : RideMapRecorder) (time : Nat) :
    (recorder.markStationaryBoundary time).state = recorder.state ∧
      (recorder.markStationaryBoundary time).activeIntervalGeneration = recorder.activeIntervalGeneration := by
  unfold RideMapRecorder.markStationaryBoundary
  split
  · exact ⟨rfl, rfl⟩
  · split <;> exact ⟨rfl, rfl⟩

def SameFence (before after : RecordingState) : Prop :=
  after.pendingCommandId = before.pendingCommandId ∧ after.nextCommandId = before.nextCommandId ∧
    after.restorePhase = before.restorePhase

theorem SameFence.refl (state : RecordingState) : SameFence state state := ⟨rfl, rfl, rfl⟩

/-- The ride and its fence are as they were. -/
def Untouched (before after : RecordingState) : Prop := SameRide before after ∧ SameFence before after

theorem Untouched.refl (together : Together state) : Untouched state state := ⟨.refl together, .refl state⟩

theorem Untouched.trans (before : Untouched state middle) (later : SameRide middle after)
    (fence : SameFence middle after) : Untouched state after :=
  ⟨before.1.trans later, fence.1.trans before.2.1, fence.2.1.trans before.2.2.1, fence.2.2.trans before.2.2.2⟩

theorem Untouched.mark (together : Together state) (sample : LocationSample) :
    Untouched state (state.markStationary sample) := by
  rw [markStationary_eq]
  split
  · rename_i time _
    have durable := mark_lifecycle state.recorder time
    have staged := mark_lifecycle state.admissionRecorder time
    refine ⟨⟨⟨?_, ?_⟩, durable.1, rfl, rfl⟩, .refl _⟩
    · exact staged.1.trans (together.1.trans durable.1.symm)
    · exact staged.2.trans (together.2.trans durable.2.symm)
  · exact .refl together

private theorem observeStationary_lifecycle (accepted : recorder.observeStationary distance observation = some observed) :
    observed.state = recorder.state := by
  unfold RideMapRecorder.observeStationary at accepted
  split at accepted
  · cases accepted
  · cases accepted
    exact (mark_lifecycle _ _).1

private theorem observeClockOnly_lifecycle (accepted : recorder.observeClockOnly distance observation = some observed) :
    observed.state = recorder.state := by
  unfold RideMapRecorder.observeClockOnly at accepted
  split at accepted
  · cases accepted
  · split at accepted
    · cases accepted
      rfl
    · cases accepted

theorem recordAdmittedSample_lifecycle {recorded : RideMapRecorder} {admitted : AdmittedLocationSample}
    (accepted : recorder.recordAdmittedSample distance admitted = some recorded) :
    recorded.state = recorder.state ∧ recorded.activeIntervalGeneration = recorder.activeIntervalGeneration := by
  unfold RideMapRecorder.recordAdmittedSample at accepted
  split at accepted
  · cases accepted
    exact ⟨rfl, rfl⟩
  · cases accepted

theorem Untouched.parkedState (distance : Distance) (together : Together state) (database : Bool)
    (storage : AdmissionStorage) : Untouched state (state.parkedState distance database storage) := by
  unfold RecordingState.parkedState
  split
  · exact ⟨.of_settled rfl rfl rfl rfl, .refl _⟩
  · exact .refl together

section Together
variable (together : Together state)
include together

theorem Untouched.admitParked (database : Bool) (sample : LocationSample) (storage : AdmissionStorage) :
    Untouched state (state.admitParked distance database sample storage).1 := by
  have parked := Untouched.parkedState distance together database storage
  rcases RecordingState.admitParked_cases distance database state sample storage with
    ⟨error, -, result⟩ | ⟨output, -, result⟩ | ⟨observation, recorder, accepted, result⟩
  · rw [result]
    exact .refl together
  · rw [result]
    exact parked
  · rw [result]
    exact parked.trans (.one rfl (observeStationary_lifecycle accepted) rfl rfl) (.refl _)

theorem Untouched.admitLocation (database : Bool) (sample : LocationSample) (storage : AdmissionStorage) :
    Untouched state (state.admitLocation distance database sample storage).1 := by
  have marked := Untouched.mark together sample
  rcases RecordingState.admitLocation_cases distance database state sample storage with
    ⟨output, -, result⟩ | ⟨-, -, result⟩ | ⟨-, -, cases⟩
  · rw [result]
    exact .refl together
  · rw [result]
    obtain ⟨ride, fence⟩ := Untouched.admitParked marked.1.together database sample storage
    exact marked.trans ride fence
  · rcases cases with ⟨output, -, result⟩ | ⟨observation, -, result⟩ | ⟨rideId, admitted, -, -, result⟩
    · rw [result]
      exact marked
    · rw [result]
      rcases RecordingState.admitClockOnly_cases distance database (state.markStationary sample) observation storage with
        ⟨error, result⟩ | ⟨recorder, accepted, result⟩
      · rw [result]
        exact marked
      · rw [result]
        exact marked.trans (.one rfl (observeClockOnly_lifecycle accepted) rfl rfl) (.refl _)
    · rw [result]
      rcases RecordingState.admitRecord_cases distance database (state.markStationary sample) sample rideId admitted storage
        with ⟨output, -, result⟩ | ⟨recorder, -, recorded, result⟩ | ⟨admission, -, recorded, result⟩
      · rw [result]
        exact marked
      · rw [result]
        exact marked.trans (.one rfl (recordAdmittedSample_lifecycle recorded).1 rfl rfl) (.refl _)
      · rw [result]
        have staged := recordAdmittedSample_lifecycle recorded
        refine marked.trans ⟨⟨?_, ?_⟩, rfl, rfl, rfl⟩ (.refl _)
        · exact staged.1.trans marked.1.together.1
        · exact staged.2.trans marked.1.together.2

theorem SameRide.observeTelemetry (database : Bool) (time : Nat) (speed : Option RideVehicleSpeedSample)
    (verified : Bool) (storage : Option StorageError) :
    SameRide state (state.observeTelemetry database time speed verified storage).1 := by
  have staged := observeTelemetry_route state.admissionRecorder time
  have durable := observeTelemetry_route state.recorder time
  rcases RecordingState.observeTelemetry_cases database state time speed verified storage with
    ⟨error, result⟩ | ⟨recorder, speed, receipt, changed, result, source⟩
  · rw [result]
    exact .refl together
  · rw [result]
    have route : SameRoute state.recorder recorder := by
      rcases source with rfl | ⟨-, rfl⟩
      · exact durable
      · exact ⟨rfl, rfl, rfl, rfl, rfl, rfl⟩
    refine ⟨⟨?_, ?_⟩, route.state, rfl, rfl⟩
    · exact staged.state.trans (together.1.trans route.state.symm)
    · exact staged.interval.trans (together.2.trans route.interval.symm)

theorem Together.transitioned {transition : ValidatedRideTransition} {time : Nat} {admission : RideMapRecorder}
    (durable : state.recorder.applyTransitionAt transition time = some recorder)
    (staged : state.admissionRecorder.applyTransitionAt transition time = some admission) :
    admission.state = recorder.state ∧ admission.activeIntervalGeneration = recorder.activeIntervalGeneration ∧
      recorder.state = some transition.next := by
  have first := (applyTransitionAt_some durable).2
  have second := (applyTransitionAt_some staged).2
  have lifecycle : recorder.state = some transition.next := congrArg RideMapRecorder.state first
  have staged : admission.state = some transition.next := congrArg RideMapRecorder.state second
  refine ⟨staged.trans lifecycle.symm, ?_, lifecycle⟩
  have durableInterval := congrArg RideMapRecorder.activeIntervalGeneration first
  have stagedInterval := congrArg RideMapRecorder.activeIntervalGeneration second
  have same : state.admissionRecorder.activeIntervalGeneration = state.recorder.activeIntervalGeneration := together.2
  exact stagedInterval.trans (Eq.trans (by simp only [RideMapRecorder.moved, RideMapRecorder.untimed, same])
    durableInterval.symm)

end Together

end Together

section Fence
variable {id : Nat} {output : RideOutput}
variable {error : RideRecordingError}

theorem Fences.outside (same : SameRide state after) (fence : SameFence state after) (finishes : call.finishes = none)
    (silent : output.preparedId = none) (closed : state.requireReady ≠ none → call.asks = true → output.fails = true) :
    Fences distance database state call after output :=
  .keeps same fence.1 fence.2.1.ge fence.2.2 silent (fun id known => by rw [finishes] at known; cases known) closed

theorem Fences.refused {result : RecordingState × RideOutput} (together : Together state)
    (refuses : state.Refuses result) (finishes : call.finishes = none) :
    Fences distance database state call result.1 result.2 := by
  obtain ⟨error, rfl | rfl⟩ := refuses
  · exact .outside (.refl together) (.refl _) finishes rfl fun _ _ => rfl
  · refine .keeps (.of_same together rfl rfl rfl rfl) rfl (Nat.le_succ _) rfl rfl ?_ fun _ _ => rfl
    intro id known
    rw [finishes] at known
    cases known

theorem Fences.release (together : Together state) (consumes : call.consumes = some id)
    (silent : output.preparedId = none) (fails : call.finishes ≠ none → output.fails = true)
    (known : database = true → call.loses = false) (asks : call.asks = false) :
    Fences distance database state call (state.release id) output := by
  unfold RecordingState.release
  split
  · rename_i held
    refine .releases (SameRide.of_same together rfl rfl rfl rfl) consumes held rfl rfl (.inl rfl) ?_ silent ?_
    · intro stored lost
      rw [known stored] at lost
      cases lost
    · intro other finishes
      exact ⟨fails (by rw [finishes]; exact Option.some_ne_none _), .inl rfl⟩
  · rename_i stale
    refine .keeps (SameRide.refl together) rfl (Nat.le_refl _) rfl silent ?_ ?_
    · intro other finishes
      refine ⟨fails (by rw [finishes]; exact Option.some_ne_none _), .inl rfl, ?_⟩
      have same : other = id := by
        cases call <;> simp_all [RideCall.finishes, RideCall.consumes]
      rw [same]
      exact stale
    · intro _ asking
      rw [asks] at asking
      cases asking

theorem Fences.stale (same : SameRide state after) (fence : SameFence state after)
    (finishes : call.finishes = some id) (asks : call.asks = false) (stale : state.pendingCommandId ≠ some id)
    (settles : Settles distance state call after) : Fences distance database state call after (.failed error) := by
  refine .keeps same fence.1 fence.2.1.ge fence.2.2 rfl ?_ ?_
  · intro other known
    rw [finishes] at known
    cases known
    exact ⟨rfl, settles, stale⟩
  · intro _ asking
    rw [asks] at asking
    cases asking

theorem consumes_of_finishes (finishes : call.finishes = some id) : call.consumes = some id := by
  cases call <;> first
    | exact finishes
    | cases finishes

theorem consumes_apart (consumes : call.consumes = some id) : call.asks = false ∧ call.begins = false := by
  cases call <;> first
    | exact ⟨rfl, rfl⟩
    | cases consumes

theorem Fences.gaveUp (same : SameRide state after) (finishes : call.finishes = some id)
    (held : state.pendingCommandId = some id) (free : after.pendingCommandId = none)
    (ids : after.nextCommandId = state.nextCommandId)
    (phase : after.restorePhase = state.restorePhase ∨ after.restorePhase = .recoveryRequired)
    (lost : database = true → call.loses = true → after.restorePhase = .recoveryRequired)
    (settles : Settles distance state call after) : Fences distance database state call after (.failed error) :=
  .releases same (consumes_of_finishes finishes) held free ids phase lost rfl fun _ _ => ⟨rfl, settles⟩

theorem Fences.commandStorageError {error : StorageError} (together : Together state)
    (finishes : call.finishes = some id) (asks : call.asks = false)
    (kept : error = .other → call.loses = false) :
    Fences distance database state call (state.commandStorageError id error).1 (state.commandStorageError id error).2 := by
  unfold RecordingState.commandStorageError
  split
  · rename_i held
    cases error with
    | responseDropped | deadlineExceeded =>
      exact .gaveUp (.of_same together rfl rfl rfl rfl) finishes held rfl rfl (.inr rfl) (fun _ _ => rfl) (.inl rfl)
    | other =>
      refine .gaveUp (.of_same together rfl rfl rfl rfl) finishes held rfl rfl (.inl rfl) ?_ (.inl rfl)
      intro _ loses
      rw [kept rfl] at loses
      cases loses
  · rename_i stale
    exact .stale (.refl together) (.refl _) finishes asks stale (.inl rfl)

theorem Fences.finishRestore (together : Together state) (id : Nat) (snapshot : Except StorageError (Option RestoredRide)) :
    Fences distance database state (.finishRestore id snapshot) (state.finishRestore database id snapshot).1
      (state.finishRestore database id snapshot).2 := by
  rcases RecordingState.finishRestore_cases database state id snapshot with
    ⟨error, -, -, result⟩ | ⟨stale, result⟩ | ⟨held, result⟩ | ⟨held, restored, result, source⟩
  · rw [result]
    exact .release together rfl rfl (fun _ => rfl) (fun _ => rfl) rfl
  · rw [result]
    exact .stale (.refl together) (.refl _) rfl rfl stale (.inl rfl)
  · rw [result]
    exact .gaveUp (.of_same together rfl rfl rfl rfl) rfl held rfl rfl (.inr rfl) (fun _ _ => rfl) (.inl rfl)
  · rw [result]
    have same : restored.nextCommandId = state.nextCommandId ∧ restored.admissionRecorder = restored.recorder := by
      rcases source with ⟨ride, -, -, rfl⟩ | ⟨-, rfl⟩
      · cases ride <;> exact ⟨rfl, rfl⟩
      · exact ⟨rfl, rfl⟩
    refine .completes ?_ rfl rfl held rfl same.1 (.inr rfl) fun _ => rfl
    show restored.admissionRecorder.state = restored.recorder.state ∧ _
    rw [same.2]
    exact ⟨rfl, rfl⟩

theorem Recovered.fenced {projected : RecordingState} (recovered : Recovered projected after)
    (projects : state.Projects database restored projected) :
    after.nextCommandId = state.nextCommandId ∧ after.pendingCommandId = state.pendingCommandId ∧
      after.restorePhase = state.restorePhase := by
  obtain ⟨held, ids, phase⟩ := recovered.fence
  cases projects <;> exact ⟨ids, held, phase⟩

theorem Fences.finishRestoreWithPolicy (together : Together state) (id : Nat)
    (restored : Except StorageError (Option RecoverableRide)) (policy : RideRecoveryPolicy) (storage : RecoveryStorage) :
    Fences distance database state (.finishRestoreWithPolicy id restored policy storage)
      (state.step distance database (.finishRestoreWithPolicy id restored policy storage)).1
      (state.step distance database (.finishRestoreWithPolicy id restored policy storage)).2 := by
  rw [RecordingState.step]
  rcases RecordingState.finishRestoreWithPolicy_cases database state id restored policy storage with
    ⟨error, -, -, result⟩ | ⟨stale, result⟩ | ⟨held, result⟩ | ⟨held, projected, after, projects, recovered, ends⟩
  · rw [result]
    exact .release together rfl rfl (fun _ => rfl) (fun _ => rfl) rfl
  · rw [result]
    exact .stale (.refl together) (.refl _) rfl rfl stale (.inl rfl)
  · rw [result]
    exact .gaveUp (.of_same together rfl rfl rfl rfl) rfl held rfl rfl (.inr rfl) (fun _ _ => rfl) (.inl rfl)
  · obtain ⟨ids, pending, phase⟩ := recovered.fenced projects
    have one : after.admissionRecorder = after.recorder := recovered.one
    rcases ends with ⟨disposition, result⟩ | ⟨error, fails, result⟩
    · rw [result]
      refine .completes ?_ rfl rfl held rfl ids (.inr rfl) fun _ => rfl
      exact ⟨congrArg RideMapRecorder.state one, congrArg RideMapRecorder.activeIntervalGeneration one⟩
    · rw [result]
      have released : after.release id = { after with pendingCommandId := none } := by
        rw [RecordingState.release, if_pos (pending.trans held)]
      obtain ⟨-, ride, rfl, recovery⟩ := RecordingState.recoverProjection_fails fails
      rw [released]
      refine .recovers ?_ ⟨id, ride, policy, storage, error, after, rfl, held, recovery, rfl⟩ rfl rfl held rfl ids phase
      exact ⟨congrArg RideMapRecorder.state one, congrArg RideMapRecorder.activeIntervalGeneration one⟩

theorem Fences.finishStart (together : Together state) (operation : PreparedRideStart)
    (committed : Except StorageError CommittedRide) (freshRideId : Nat) :
    Fences distance database state (.finishStart operation committed freshRideId)
      (state.finishStart database operation committed freshRideId).1
      (state.finishStart database operation committed freshRideId).2 := by
  rcases RecordingState.finishStart_cases database state operation committed freshRideId with
    ⟨error, -, rfl, result⟩ | ⟨stale, result⟩ | ⟨held, result⟩ | ⟨held, answered, recorder, rideId, start, result⟩
  · rw [result]
    refine .commandStorageError together rfl rfl ?_
    rintro rfl
    rfl
  · rw [result]
    exact .stale (.refl together) (.refl _) rfl rfl stale (.inl rfl)
  · rw [result]
    exact .gaveUp (.of_same together rfl rfl rfl rfl) rfl held rfl rfl (.inr rfl) (fun _ _ => rfl) (.inl rfl)
  · rw [result]
    refine .completes ⟨rfl, rfl⟩ rfl rfl held rfl rfl (.inl rfl) ?_
    intro stored
    obtain ⟨ride, rfl⟩ := answered stored
    rfl

/-- Both recorders are put in place; the command numbers and the restore phase stay. -/
def Publishes (publish : RecordingState → RideMapRecorder → RideMapRecorder → RecordingState) : Prop :=
  ∀ held recorder admissionRecorder, let after := publish held recorder admissionRecorder
    after.recorder = recorder ∧ after.admissionRecorder = admissionRecorder ∧
      after.nextCommandId = held.nextCommandId ∧ after.restorePhase = held.restorePhase

private theorem publishTransition_publishes (operation : PreparedRideTransition) : Publishes (publishTransition operation) := by
  intro held recorder admissionRecorder
  unfold publishTransition
  split <;> exact ⟨rfl, rfl, rfl, rfl⟩

theorem Fences.finishLifecycle {operation : PreparedRideTransition} {inPlace : Bool}
    (finishes : call.finishes = some operation.id) (polls : call.progress = some progress) (asks : call.asks = false)
    (answered : database = true → call.loses = false) (published : Publishes publish) :
    Fences distance database state call
      (state.finishLifecycle distance operation committed progress inPlace publish).1
      (state.finishLifecycle distance operation committed progress inPlace publish).2 := by
  have settles : ∀ {after : RecordingState},
      after.recorder = (state.settleReadyLocationWrites distance progress).1.recorder →
        Settles distance state call after := fun same => .inr ⟨progress, polls, same⟩
  have lost : ∀ {after : RecordingState}, database = true → call.loses = true → after.restorePhase = .recoveryRequired := by
    intro after stored loses
    rw [answered stored] at loses
    cases loses
  have held : SameRide state (state.heldState distance operation progress) ∧
      SameFence state (state.heldState distance operation progress) ∧
      (state.heldState distance operation progress).recorder =
        (state.settleReadyLocationWrites distance progress).1.recorder := by
    unfold RecordingState.heldState
    simp only
    split
    · exact ⟨.of_settled rfl rfl rfl rfl, ⟨rfl, rfl, rfl⟩, rfl⟩
    · exact ⟨.of_settled rfl rfl rfl rfl, ⟨rfl, rfl, rfl⟩, rfl⟩
  obtain ⟨ride, fence, recorded⟩ := held
  rcases RecordingState.finishLifecycle_cases distance state operation committed progress inPlace publish with
    ⟨stale, result⟩ | ⟨holds, failed, error, result, source⟩ | ⟨-, staged, recorder, durable, -⟩ |
    ⟨holds, -, -, recorder, admissionRecorder, durable, staged, result⟩
  · rw [result]
    exact .stale (.of_settled rfl rfl rfl rfl) ⟨rfl, rfl, rfl⟩ finishes asks stale (settles rfl)
  · rw [result]
    rcases source with ⟨rfl, -⟩ | rfl | rfl
    · exact .gaveUp (.of_settled rfl rfl rfl rfl) finishes holds rfl rfl (.inl rfl) lost (settles rfl)
    · exact .gaveUp (.of_settled rfl rfl rfl rfl) finishes holds rfl rfl (.inr rfl) lost (settles rfl)
    · exact .gaveUp (ride.trans (.of_same ride.together rfl rfl rfl rfl)) finishes holds rfl fence.2.1 (.inr rfl)
        lost (settles recorded)
  · obtain ⟨admission, known⟩ := ride.together.transition durable
    rw [staged] at known
    cases known
  · rw [result]
    obtain ⟨first, second, ids, phase⟩ := published (state.heldState distance operation progress) recorder admissionRecorder
    have together := ride.together.transitioned durable staged
    refine .completes ⟨?_, ?_⟩ finishes rfl holds rfl (ids.trans fence.2.1) (.inl (phase.trans fence.2.2)) answered
    · show (publish _ recorder admissionRecorder).admissionRecorder.state = (publish _ recorder admissionRecorder).recorder.state
      rw [first, second]
      exact together.1
    · show (publish _ recorder admissionRecorder).admissionRecorder.activeIntervalGeneration =
        (publish _ recorder admissionRecorder).recorder.activeIntervalGeneration
      rw [first, second]
      exact together.2.1

theorem Fences.finishTransition (together : Together state) (operation : PreparedRideTransition)
    (committed : Except StorageError CommittedRide) (progress : WriteProgress) :
    Fences distance database state (.finishTransition operation committed progress)
      (state.finishTransition distance database operation committed progress).1
      (state.finishTransition distance database operation committed progress).2 := by
  have published := publishTransition_publishes operation
  cases database with
  | false => exact .finishLifecycle rfl rfl rfl (fun stored => absurd stored Bool.false_ne_true) published
  | true =>
    cases committed with
    | ok ride => exact .finishLifecycle rfl rfl rfl (fun _ => rfl) published
    | error error =>
      refine .commandStorageError together rfl rfl ?_
      rintro rfl
      rfl

theorem Fences.finishStopAfterMusic (together : Together state) (operation : PreparedRideTransition)
    (stops : operation.transition.event = .stop) (fenced : Bool) (committed : Except StorageError CommittedRide)
    (progress : WriteProgress) :
    Fences distance database state (.finishStopAfterMusic operation stops fenced committed progress)
      (state.finishStopAfterMusic distance database operation fenced committed progress).1
      (state.finishStopAfterMusic distance database operation fenced committed progress).2 := by
  have published : Publishes (publishStop operation) := fun _ _ _ => ⟨rfl, rfl, rfl, rfl⟩
  cases fenced with
  | false =>
    refine .release together rfl rfl (fun _ => rfl) ?_ rfl
    intro _
    cases committed with
    | ok ride => rfl
    | error error => cases error <;> rfl
  | true =>
    cases database with
    | false => exact .finishLifecycle rfl rfl rfl (fun stored => absurd stored Bool.false_ne_true) published
    | true =>
      cases committed with
      | ok ride => exact .finishLifecycle rfl rfl rfl (fun _ => rfl) published
      | error error =>
        refine .commandStorageError together rfl rfl ?_
        rintro rfl
        rfl

private theorem admitLocation_silent (distance : Distance) (database : Bool) (state : RecordingState) (sample : LocationSample)
    (storage : AdmissionStorage) : (state.admitLocation distance database sample storage).2.preparedId = none := by
  have parked : ∀ state : RecordingState, (state.admitParked distance database sample storage).2.preparedId = none := by
    intro state
    unfold RecordingState.admitParked
    simp only
    repeat' split
    all_goals rfl
  have clock : ∀ (state : RecordingState) (observation : LocationObservation),
      (state.admitClockOnly distance database observation storage).2.preparedId = none := by
    intro state observation
    unfold RecordingState.admitClockOnly
    repeat' split
    all_goals rfl
  have record : ∀ (state : RecordingState) (rideId : Nat) (admitted : AdmittedLocationSample),
      (state.admitRecord distance database sample rideId admitted storage).2.preparedId = none := by
    intro state rideId admitted
    unfold RecordingState.admitRecord
    simp only
    repeat' split
    all_goals rfl
  unfold RecordingState.admitLocation
  split
  · rfl
  · rfl
  · simp only
    split
    · rfl
    · split
      · exact parked _
      · split
        · rfl
        · exact clock _ _
        · exact record _ _ _

theorem Fences.begun (together : Together state) (ready : state.requireReady = none)
    (free : state.pendingCommandId = none) (prepared : output.preparedId = some state.nextCommandId)
    (begins : call.begins = true) : Fences distance database state call
      { state with nextCommandId := state.nextCommandId + 1, pendingCommandId := some state.nextCommandId } output :=
  .prepares (.of_same together rfl rfl rfl rfl) free rfl rfl prepared (.inl ⟨ready, rfl⟩) begins

theorem Fences.step (together : Together state) (command : call.isCommand = true) :
    Fences distance database state call (state.step distance database call).1 (state.step distance database call).2 := by
  cases call with
  | beginRestore queued =>
    rcases RecordingState.beginRestore_cases database state queued with refuses | ⟨free, result⟩
    · exact .refused together refuses rfl
    · rw [RecordingState.step, result]
      exact .prepares (SameRide.of_same together rfl rfl rfl rfl) free rfl rfl rfl (.inr ⟨rfl, rfl⟩) rfl
  | finishRestore id snapshot => exact .finishRestore together id snapshot
  | finishRestoreWithPolicy id restored policy storage =>
    exact .finishRestoreWithPolicy together id restored policy storage
  | beginStart time candidateVehicle queued =>
    rcases beginStart_cases database state time candidateVehicle queued with refuses | ⟨ready, free, result⟩
    · exact .refused together refuses rfl
    · rw [RecordingState.step, result]
      exact .begun together ready free rfl rfl
  | finishStart operation committed freshRideId => exact .finishStart together operation committed freshRideId
  | beginTransition token event time lastTelemetryAt queued =>
    rcases RecordingState.beginTransition_cases database state token event time lastTelemetryAt queued with
      refuses | ⟨ready, free, operation, prepares, result⟩
    · exact .refused together refuses rfl
    · rw [RecordingState.step, result]
      exact .begun together ready free (congrArg some prepares.id) rfl
  | finishTransition operation committed progress => exact .finishTransition together operation committed progress
  | beginStopAfterMusic token time lastTelemetryAt =>
    rcases RecordingState.beginStopAfterMusic_cases state token time lastTelemetryAt with
      refuses | ⟨ready, free, operation, prepares, result⟩
    · exact .refused together refuses rfl
    · rw [RecordingState.step, result]
      exact .begun together ready free (congrArg some prepares.id) rfl
  | finishStopAfterMusic operation stops fenced committed progress =>
    exact .finishStopAfterMusic together operation stops fenced committed progress
  | dropCommand id => exact .release together rfl rfl (fun finishes => absurd rfl finishes) (fun _ => rfl) rfl
  | admitLocation sample storage =>
    have untouched : Untouched state (state.admitLocation distance database sample storage).1 :=
      .admitLocation together database sample storage
    refine .outside untouched.1 untouched.2 rfl
      (admitLocation_silent distance database state sample storage) ?_
    intro unready _
    obtain ⟨error, known⟩ := Option.ne_none_iff_exists'.mp unready
    simp only [RecordingState.step, RecordingState.admitLocation, known]
    rfl
  | pollLocationWrites progress =>
    exact .outside (SameRide.of_settled rfl rfl rfl rfl) ⟨rfl, rfl, rfl⟩ rfl rfl fun _ asks => by cases asks
  | checkpointLocationWrites barrier progress =>
    simp only [RecordingState.step, RecordingState.checkpointLocationWrites]
    split
    · exact .outside (SameRide.refl together) (SameFence.refl _) rfl rfl fun _ asks => by cases asks
    · exact .outside (SameRide.of_settled rfl rfl rfl rfl) ⟨rfl, rfl, rfl⟩ rfl rfl fun _ asks => by cases asks
  | observeTelemetry time speed verified storage =>
    have same := SameRide.observeTelemetry together database time speed verified storage
    rw [RecordingState.step]
    rcases RecordingState.observeTelemetry_cases database state time speed verified storage with
      ⟨error, result⟩ | ⟨recorder, speed, receipt, changed, result, -⟩
    · rw [result] at same ⊢
      exact .outside same ⟨rfl, rfl, rfl⟩ rfl rfl fun _ asks => by cases asks
    · rw [result] at same ⊢
      exact .outside same ⟨rfl, rfl, rfl⟩ rfl rfl fun _ asks => by cases asks
  | observeVerifiedVehicleSpeed millimetresPerSecond sourceAt receiptAt generation =>
    simp only [RecordingState.step, RecordingState.observeVerifiedVehicleSpeed]
    split
    · split
      · exact .outside (SameRide.refl together) (SameFence.refl _) rfl rfl fun _ asks => by cases asks
      · exact .outside (SameRide.of_same together rfl rfl rfl rfl) ⟨rfl, rfl, rfl⟩ rfl rfl fun _ asks => by cases asks
    · exact .outside (SameRide.refl together) (SameFence.refl _) rfl rfl fun _ asks => by cases asks
  | restoreMotion motion =>
    exact .outside (SameRide.of_same together rfl rfl rfl rfl) ⟨rfl, rfl, rfl⟩ rfl rfl fun _ asks => by cases asks
  | beginVerifiedConnection | finishVerifiedConnection => cases command

end Fence

section Runs
variable {calls : List RideCall}
variable {output : RideOutput} {id : Nat} {operation : PreparedRideTransition}

theorem Fences.together (fences : Fences distance database state call after output) : Together after := by
  cases fences with
  | keeps same | prepares same | releases same => exact same.together
  | recovers together | completes together => exact together

/-- A closed owner stays closed unless a restoration succeeds. -/
theorem Fences.unfinished (fences : Fences distance database state call after output) (closed : state.restorePhase ≠ .ready)
    (failed : call.restores = true → output ≠ .done) : after.restorePhase ≠ .ready := by
  cases fences with
  | keeps _ _ _ phase | recovers _ _ _ _ _ _ _ phase => rwa [phase]
  | prepares _ _ _ _ _ phase =>
    rcases phase with ⟨-, phase⟩ | ⟨-, phase⟩
    · rwa [phase]
    · rw [phase]
      decide
  | releases _ _ _ _ _ phase =>
    rcases phase with phase | phase
    · rwa [phase]
    · rw [phase]
      decide
  | completes _ _ done _ _ _ phase =>
    rcases phase with phase | restores
    · rwa [phase]
    · exact absurd done (failed restores)

section Together
variable (together : Together state) (commands : ∀ call ∈ calls, call.isCommand = true)
include together commands

theorem fences_run : Together (Runs.final (RecordingState.step distance database) state calls) ∧
      ∀ here ∈ Runs.history (RecordingState.step distance database) state calls,
        Fences distance database here.before here.input here.after here.output := by
  induction calls generalizing state with
  | nil => exact ⟨together, fun _ member => by cases member⟩
  | cons call calls ih =>
    have fences : Fences distance database state call _ _ := Fences.step together (commands call List.mem_cons_self)
    obtain ⟨rest, later⟩ := ih fences.together fun other member => commands other (List.mem_cons_of_mem _ member)
    refine ⟨rest, fun here member => ?_⟩
    cases member with
    | head => exact fences
    | tail _ inside => exact later here inside

theorem held_run (held : state.pendingCommandId = some id) (unconsumed : ∀ call ∈ calls, call.consumes ≠ some id) :
    (Runs.final (RecordingState.step distance database) state calls).pendingCommandId = some id := by
  induction calls generalizing state with
  | nil => exact held
  | cons call calls ih =>
    have fences : Fences distance database state call _ _ := Fences.step together (commands call List.mem_cons_self)
    refine ih fences.together (fun other member => commands other (List.mem_cons_of_mem _ member)) ?_
      fun other member => unconsumed other (List.mem_cons_of_mem _ member)
    cases fences with
    | keeps _ same => exact same.trans held
    | prepares _ free =>
      rw [held] at free
      cases free
    | releases _ consumes holds =>
      rw [held] at holds
      cases holds
      exact absurd consumes (unconsumed call List.mem_cons_self)
    | recovers _ _ finishes _ holds | completes _ finishes _ holds =>
      rw [held] at holds
      cases holds
      exact absurd (consumes_of_finishes finishes) (unconsumed call List.mem_cons_self)

theorem closed_run (closed : state.restorePhase ≠ .ready)
    (unrestored : ∀ here ∈ Runs.history (RecordingState.step distance database) state calls,
      here.input.restores = true → here.output ≠ .done) :
    (Runs.final (RecordingState.step distance database) state calls).restorePhase ≠ .ready := by
  induction calls generalizing state with
  | nil => exact closed
  | cons call calls ih =>
    have fences : Fences distance database state call _ _ := Fences.step together (commands call List.mem_cons_self)
    refine ih fences.together (fun other member => commands other (List.mem_cons_of_mem _ member)) ?_
      fun here member => unrestored here (List.mem_cons_of_mem _ member)
    exact fences.unfinished closed (unrestored (Runs.take _ state call) List.mem_cons_self)

private theorem restoring_run (held : state.pendingCommandId = some id) (closed : state.restorePhase ≠ .ready)
    (unconsumed : ∀ call ∈ calls, call.consumes ≠ some id) :
    (Runs.final (RecordingState.step distance database) state calls).restorePhase ≠ .ready := by
  refine closed_run together commands closed ?_
  intro here member restores done
  obtain ⟨past, later, split⟩ := List.append_of_mem member
  obtain ⟨first, last, cut, -, same, -⟩ := Runs.history_split split
  have kept : here.before.pendingCommandId = some id := by
    rw [same]
    refine held_run together ?_ held ?_
    · exact fun call inside => commands call (cut ▸ List.mem_append_left _ inside)
    · exact fun call inside => unconsumed call (cut ▸ List.mem_append_left _ inside)
  have fences := (fences_run together commands).2 here member
  cases fences with
  | keeps _ _ _ _ _ refused =>
    cases call : here.input with
    | finishRestore other | finishRestoreWithPolicy other =>
      have fails := (refused other (by rw [call]; rfl)).1
      rw [done] at fails
      cases fails
    | _ =>
      rw [call] at restores
      cases restores
  | prepares _ free =>
    rw [kept] at free
    cases free
  | releases _ consumes holds =>
    rw [kept] at holds
    cases holds
    exact unconsumed _ (cut ▸ List.mem_append_right _ List.mem_cons_self) consumes
  | recovers _ _ finishes _ holds | completes _ finishes _ holds =>
    rw [kept] at holds
    cases holds
    exact unconsumed _ (cut ▸ List.mem_append_right _ List.mem_cons_self) (consumes_of_finishes finishes)

end Together

/-- A command that was prepared and that no later call has ended or dropped. -/
def Outstanding (run : List (Step RecordingState RideCall RideOutput)) (id : Nat) : Prop :=
  ∃ past here later, run = past ++ here :: later ∧ here.output.preparedId = some id ∧
    ∀ step ∈ later, step.input.consumes ≠ some id

/-- A restoration that was prepared and that no later call has ended or dropped. -/
def Restoring (run : List (Step RecordingState RideCall RideOutput)) (id : Nat) : Prop :=
  ∃ past here later, run = past ++ here :: later ∧ here.output = .prepared id ∧
    ∀ step ∈ later, step.input.consumes ≠ some id

theorem together_new (database : Bool) : Together (.new database) := ⟨rfl, rfl⟩

theorem inputs_unconsumed {last : List RideCall} (start : RecordingState)
    (unconsumed : ∀ step ∈ Runs.history (RecordingState.step distance database) start last, step.input.consumes ≠ some id) :
    ∀ call ∈ last, call.consumes ≠ some id := by
  intro call member
  rw [← Runs.history_inputs (RecordingState.step distance database) start last, List.mem_map] at member
  obtain ⟨step, inside, rfl⟩ := member
  exact unconsumed step inside

theorem final_of_split {here : Step RecordingState RideCall RideOutput} {first last : List RideCall} (cut : calls = first ++ here.input :: last)
    (same : here = Runs.take (RecordingState.step distance database)
      (Runs.final (RecordingState.step distance database) (.new database) first) here.input) :
    Runs.final (RecordingState.step distance database) (.new database) calls =
      Runs.final (RecordingState.step distance database) here.after last := by
  rw [cut, Runs.final_append, same]
  rfl

/-- A number is handed out only by a call that begins a command, and the owner then waits for it. -/
theorem Fences.prepared (fences : Fences distance database state call after output) (prepared : output.preparedId = some id) :
    call.begins = true ∧ after.pendingCommandId = some id := by
  cases fences with
  | keeps _ _ _ _ silent | releases _ _ _ _ _ _ _ silent =>
    rw [prepared] at silent
    cases silent
  | prepares _ _ held _ known _ begins =>
    rw [prepared] at known
    cases known
    exact ⟨begins, held⟩
  | recovers _ _ _ done | completes _ _ done =>
    rw [done] at prepared
    cases prepared

/-- What a call that begins a command answers. -/
inductive Begun (state : RecordingState) (call : RideCall) : RecordingState × RideOutput → Prop
  | refused {result : RecordingState × RideOutput} (refuses : state.Refuses result) : Begun state call result
  | restore {after : RecordingState} {id : Nat} (phase : after.restorePhase = .pending) :
      Begun state call (after, .prepared id)
  | start {after : RecordingState} {operation : PreparedRideStart} : Begun state call (after, .preparedStart operation)
  | transition {after : RecordingState} {operation : PreparedRideTransition} {token : RideRecordingToken}
      (asked : call.token = some token) (ride : operation.rideId = token.rideId) (current : state.rideId = some token.rideId)
      (generation : state.generation = token.generation)
      (previous : state.recorder.state = some operation.transition.previous) :
      Begun state call (after, .preparedTransition operation)

theorem begun_step (begins : call.begins = true) : Begun state call (state.step distance database call) := by
  cases call with
  | beginRestore queued =>
    rcases RecordingState.beginRestore_cases database state queued with refuses | ⟨-, result⟩
    · exact .refused refuses
    · rw [RecordingState.step, result]
      exact .restore rfl
  | beginStart time candidateVehicle queued =>
    rcases beginStart_cases database state time candidateVehicle queued with refuses | ⟨-, -, result⟩
    · exact .refused refuses
    · rw [RecordingState.step, result]
      exact .start
  | beginTransition token event time lastTelemetryAt queued =>
    rcases RecordingState.beginTransition_cases database state token event time lastTelemetryAt queued with
      refuses | ⟨-, -, operation, prepares, result⟩
    · exact .refused refuses
    · rw [RecordingState.step, result]
      exact .transition rfl prepares.ride.1 prepares.ride.2 prepares.generation prepares.previous
  | beginStopAfterMusic token time lastTelemetryAt =>
    rcases RecordingState.beginStopAfterMusic_cases state token time lastTelemetryAt with
      refuses | ⟨-, -, operation, prepares, result⟩
    · exact .refused refuses
    · rw [RecordingState.step, result]
      exact .transition rfl prepares.ride.1 prepares.ride.2 prepares.generation prepares.previous
  | _ => cases begins

theorem Outstanding.held (commands : ∀ call ∈ calls, call.isCommand = true)
    (outstanding : Outstanding (Runs.history (RecordingState.step distance database) (.new database) calls) id) :
    (Runs.final (RecordingState.step distance database) (.new database) calls).pendingCommandId = some id := by
  obtain ⟨past, here, later, split, prepared, unconsumed⟩ := outstanding
  obtain ⟨first, last, cut, -, same, rest⟩ := Runs.history_split split
  have fences := (fences_run (together_new database) commands).2 here (split ▸ List.mem_append_right _ List.mem_cons_self)
  rw [final_of_split cut same]
  refine held_run fences.together ?_ (fences.prepared prepared).2 ?_
  · intro call member
    exact commands call (cut ▸ List.mem_append_right _ (List.mem_cons_of_mem _ member))
  · rw [rest] at unconsumed
    exact inputs_unconsumed here.after unconsumed

/-- A prepared transition was asked for with the token of the ride as it was then. -/
theorem prepared_current
    (fences : Fences distance database state call (state.step distance database call).1 (state.step distance database call).2)
    (prepared : (state.step distance database call).2 = .preparedTransition operation) :
    ∃ token, call.token = some token ∧ operation.rideId = token.rideId ∧ state.rideId = some token.rideId ∧
      state.generation = token.generation ∧ state.recorder.state = some operation.transition.previous := by
  have begins := (fences.prepared (congrArg RideOutput.preparedId prepared)).1
  have begun : Begun state call (state.step distance database call) := begun_step begins
  generalize state.step distance database call = result at begun prepared
  cases begun with
  | refused refuses => obtain ⟨error, rfl | rfl⟩ := refuses <;> cases prepared
  | restore | start => cases prepared
  | transition asked ride current generation previous =>
    cases prepared
    exact ⟨_, asked, ride, current, generation, previous⟩

/-- Only `begin_restore` hands out a bare number, and it closes the owner. -/
theorem prepared_restore
    (fences : Fences distance database state call (state.step distance database call).1 (state.step distance database call).2)
    (prepared : (state.step distance database call).2 = .prepared id) :
    (state.step distance database call).1.restorePhase ≠ .ready := by
  have begins := (fences.prepared (congrArg RideOutput.preparedId prepared)).1
  have begun : Begun state call (state.step distance database call) := begun_step begins
  generalize state.step distance database call = result at begun prepared
  cases begun with
  | refused refuses => obtain ⟨error, rfl | rfl⟩ := refuses <;> cases prepared
  | start | transition => cases prepared
  | restore phase =>
    show _ ≠ _
    rw [phase]
    decide

theorem Restoring.closed (commands : ∀ call ∈ calls, call.isCommand = true)
    (restoring : Restoring (Runs.history (RecordingState.step distance database) (.new database) calls) id) :
    (Runs.final (RecordingState.step distance database) (.new database) calls).restorePhase ≠ .ready := by
  obtain ⟨past, here, later, split, prepared, unconsumed⟩ := restoring
  obtain ⟨first, last, cut, -, same, rest⟩ := Runs.history_split split
  have fences := (fences_run (together_new database) commands).2 here (split ▸ List.mem_append_right _ List.mem_cons_self)
  have held := (fences.prepared (congrArg RideOutput.preparedId prepared)).2
  have begun : here.after.restorePhase ≠ .ready := by
    rw [same] at fences prepared ⊢
    exact prepared_restore fences prepared
  rw [final_of_split cut same]
  refine restoring_run fences.together ?_ held begun ?_
  · intro call member
    exact commands call (cut ▸ List.mem_append_right _ (List.mem_cons_of_mem _ member))
  · rw [rest] at unconsumed
    exact inputs_unconsumed here.after unconsumed

theorem finishLifecycle_done {inPlace : Bool}
    (published : ∀ held recorder admissionRecorder, (publish held recorder admissionRecorder).recorder = recorder)
    (done : (state.finishLifecycle distance operation committed progress inPlace publish).2 = .done) :
    state.rideId = some operation.rideId ∧
      (state.finishLifecycle distance operation committed progress inPlace publish).1.recorder.state =
        some operation.transition.next ∧
      ∀ ride, committed = some ride → ride.rideId = operation.rideId ∧ ride.lifecycle = operation.transition.next := by
  rcases RecordingState.finishLifecycle_cases distance state operation committed progress inPlace publish with
    ⟨-, result⟩ | ⟨-, failed, error, result, -⟩ | ⟨-, -, recorder, -, result⟩ |
    ⟨-, current, agrees, recorder, admissionRecorder, durable, -, result⟩
  · rw [result] at done
    cases done
  · rw [result] at done
    cases done
  · rw [result] at done
    cases done
  · rw [result]
    refine ⟨current, ?_, ?_⟩
    · show (publish _ recorder admissionRecorder).recorder.state = _
      rw [published]
      exact congrArg RideMapRecorder.state (applyTransitionAt_some durable).2
    · intro ride known
      have same := agrees ride known
      unfold RecordingState.contradicts at same
      rw [decide_eq_false_iff_not, not_or, not_not, not_not] at same
      exact same

/-- A transition is applied to its own ride, and as the database committed it. -/
theorem transition_done {committed : Except StorageError CommittedRide}
    (finishes : call.transition = some (operation, committed)) (done : (state.step distance database call).2 = .done) :
    state.rideId = some operation.rideId ∧
      (state.step distance database call).1.recorder.state = some operation.transition.next ∧
      (database = true → ∃ ride, committed = .ok ride ∧ ride.rideId = operation.rideId ∧
        ride.lifecycle = operation.transition.next) := by
  have stored : ∀ {id : Nat} {error : StorageError}, (state.commandStorageError id error).2 ≠ .done := by
    intro id error
    unfold RecordingState.commandStorageError
    split <;> exact fun known => by cases known
  have published : ∀ held recorder admissionRecorder,
      (publishTransition operation held recorder admissionRecorder).recorder = recorder := by
    intro held recorder admissionRecorder
    unfold publishTransition
    split <;> rfl
  cases call with
  | finishTransition operation' committed' progress =>
    cases finishes
    cases database with
    | false =>
      obtain ⟨ride, lifecycle, -⟩ := finishLifecycle_done published done
      exact ⟨ride, lifecycle, fun stored => absurd stored Bool.false_ne_true⟩
    | true =>
      cases committed with
      | error error => exact absurd done stored
      | ok ride =>
        obtain ⟨current, lifecycle, agrees⟩ := finishLifecycle_done published done
        exact ⟨current, lifecycle, fun _ => ⟨ride, rfl, agrees ride rfl⟩⟩
  | finishStopAfterMusic operation' stops fenced committed' progress =>
    cases finishes
    cases fenced with
    | false => cases done
    | true =>
      cases database with
      | false =>
        obtain ⟨ride, lifecycle, -⟩ := finishLifecycle_done (fun _ _ _ => rfl) done
        exact ⟨ride, lifecycle, fun stored => absurd stored Bool.false_ne_true⟩
      | true =>
        cases committed with
        | error error => exact absurd done stored
        | ok ride =>
          obtain ⟨current, lifecycle, agrees⟩ := finishLifecycle_done (fun _ _ _ => rfl) done
          exact ⟨current, lifecycle, fun _ => ⟨ride, rfl, agrees ride rfl⟩⟩
  | _ => cases finishes

section Fences
variable (fences : Fences distance database state call after output)
include fences

/-- A finish that fails leaves the ride where it was, and the recorder only settles writes that were ready, unless it
failed in a recovery. -/
theorem Fences.failure (finishes : call.finishes = some id) (failed : output ≠ .done) :
    output.fails = true ∧ (FailsRecovery state call after ∨
      after.rideId = state.rideId ∧ after.generation = state.generation ∧ after.recorder.state = state.recorder.state ∧
        Settles distance state call after) := by
  cases fences with
  | keeps same _ _ _ _ refused =>
    obtain ⟨fails, settles, -⟩ := refused id finishes
    exact ⟨fails, .inr ⟨same.rideId, same.generation, same.lifecycle, settles⟩⟩
  | prepares _ _ _ _ _ _ begins =>
    rw [(consumes_apart (consumes_of_finishes finishes)).2] at begins
    cases begins
  | releases same _ _ _ _ _ _ _ refused =>
    obtain ⟨fails, settles⟩ := refused id finishes
    exact ⟨fails, .inr ⟨same.rideId, same.generation, same.lifecycle, settles⟩⟩
  | recovers _ recovery _ fails =>
    subst fails
    exact ⟨rfl, .inl recovery⟩
  | completes _ _ done => exact absurd done failed

theorem Fences.moved (moved : ¬(after.recorder.state = state.recorder.state ∧ after.rideId = state.rideId ∧
      after.generation = state.generation)) :
    ∃ id, call.finishes = some id ∧ state.pendingCommandId = some id ∧
      (output = .done ∨ FailsRecovery state call after) := by
  cases fences with
  | keeps same | prepares same | releases same => exact absurd ⟨same.lifecycle, same.rideId, same.generation⟩ moved
  | recovers _ recovery finishes _ held => exact ⟨_, finishes, held, .inr recovery⟩
  | completes _ finishes done held => exact ⟨_, finishes, held, .inl done⟩

theorem Fences.lost (stored : database = true) (loses : call.loses = true) (finishes : call.finishes = some id)
    (held : state.pendingCommandId = some id) : after.restorePhase ≠ .ready := by
  cases fences with
  | keeps _ _ _ _ _ refused => exact absurd held (refused id finishes).2.2
  | prepares _ free =>
    rw [held] at free
    cases free
  | releases _ _ _ _ _ _ lost =>
    rw [lost stored loses]
    decide
  | recovers _ recovery =>
    obtain ⟨id, ride, policy, storage, error, recovered, same, -⟩ := recovery
    subst same
    cases loses
  | completes _ _ _ _ _ _ _ known =>
    rw [known stored] at loses
    cases loses

theorem Fences.closed (closed : state.restorePhase ≠ .ready) (asks : call.asks = true) : output.fails = true := by
  have unready : state.requireReady ≠ none := by
    unfold RecordingState.requireReady
    cases phase : state.restorePhase with
    | ready => exact absurd phase closed
    | pending | recoveryRequired => exact Option.some_ne_none _
  cases fences with
  | keeps _ _ _ _ _ _ refuses => exact refuses unready asks
  | prepares _ _ _ _ _ phase =>
    rcases phase with ⟨ready, -⟩ | ⟨other, -⟩
    · exact absurd ready unready
    · rw [asks] at other
      cases other
  | releases _ consumes =>
    rw [(consumes_apart consumes).1] at asks
    cases asks
  | recovers _ _ finishes | completes _ finishes =>
    rw [(consumes_apart (consumes_of_finishes finishes)).1] at asks
    cases asks

end Fences

/-- The fence of the durable commands, for every interleaving of them with location and telemetry calls and for every
answer of the database. At most one command is outstanding. The ride moves only in a finish of the command that holds
the fence, which succeeds or is a policy restore that fails in its recovery. A transition is applied only to the ride
it was asked for, with the token that was current then, and as it was committed. Any other failed finish leaves the
ride, and of the recorder all but the writes that its poll settles. Behind a lost result, and behind a restoration
that failed, nothing is accepted before a restoration has succeeded. -/
theorem durable_commands_are_fenced (distance : Distance) (database : Bool) (calls : List RideCall)
    (commands : ∀ call ∈ calls, call.isCommand = true) :
    let run := Runs.history (RecordingState.step distance database) (.new database) calls
    (∀ first second, Outstanding run first → Outstanding run second → first = second) ∧
    ∀ past (here : Step RecordingState RideCall RideOutput) later, run = past ++ here :: later →
      (¬(here.after.recorder.state = here.before.recorder.state ∧ here.after.rideId = here.before.rideId ∧
          here.after.generation = here.before.generation) →
        ∃ id, here.input.finishes = some id ∧ here.before.pendingCommandId = some id ∧
          (here.output = .done ∨ FailsRecovery here.before here.input here.after)) ∧
      (∀ operation committed, here.input.transition = some (operation, committed) → here.output = .done →
        here.before.rideId = some operation.rideId ∧ here.after.recorder.state = some operation.transition.next ∧
        (database = true → ∃ ride, committed = .ok ride ∧ ride.rideId = operation.rideId ∧
          ride.lifecycle = operation.transition.next) ∧
        ∀ began ∈ past, began.output = .preparedTransition operation → ∃ token, began.input.token = some token ∧
          operation.rideId = token.rideId ∧ began.before.rideId = some token.rideId ∧
          began.before.generation = token.generation ∧
          began.before.recorder.state = some operation.transition.previous) ∧
      (∀ id, here.input.finishes = some id → here.output ≠ .done → here.output.fails = true ∧
        (FailsRecovery here.before here.input here.after ∨
          here.after.rideId = here.before.rideId ∧ here.after.generation = here.before.generation ∧
            here.after.recorder.state = here.before.recorder.state ∧
            Settles distance here.before here.input here.after)) ∧
      (∀ id, here.input.finishes = some id →
        (database = true ∧ here.input.loses = true ∧ Outstanding past id ∨
          here.output ≠ .done ∧ Restoring past id) →
        ∀ middle there rest, later = middle ++ there :: rest →
          (∀ step ∈ middle, step.input.restores = true → step.output ≠ .done) →
            there.input.asks = true → there.output.fails = true) := by
  intro run
  have fences : ∀ here ∈ run, Fences distance database here.before here.input here.after here.output :=
    (fences_run (together_new database) commands).2
  refine ⟨fun first second one other => ?_, ?_⟩
  · have same := Outstanding.held commands one
    rw [Outstanding.held commands other] at same
    exact (Option.some.inj same).symm
  · intro past here later split
    have member : here ∈ run := split ▸ List.mem_append_right _ List.mem_cons_self
    have fence := fences here member
    obtain ⟨first, last, cut, before, same, rest⟩ := Runs.history_split split
    refine ⟨fence.moved, ?_, fun id finishes failed => fence.failure finishes failed, ?_⟩
    · intro operation committed finishes done
      rw [same] at done ⊢
      obtain ⟨ride, lifecycle, answer⟩ := transition_done finishes done
      refine ⟨ride, lifecycle, answer, ?_⟩
      intro began inside prepared
      have taken := (Runs.before_of_mem (P := fun _ => True) (fun _ _ _ => trivial) trivial (before ▸ inside)).2
      have begun := fences began (split ▸ List.mem_append_left _ inside)
      rw [taken] at begun prepared ⊢
      exact prepared_current begun prepared
    · intro id finishes lost middle there rest' also unrestored asks
      have early : ∀ call ∈ first, call.isCommand = true :=
        fun call inside => commands call (cut ▸ List.mem_append_left _ inside)
      have late : ∀ call ∈ last, call.isCommand = true :=
        fun call inside => commands call (cut ▸ List.mem_append_right _ (List.mem_cons_of_mem _ inside))
      have closed : here.after.restorePhase ≠ .ready := by
        rcases lost with ⟨stored, loses, outstanding⟩ | ⟨failed, restoring⟩
        · apply fence.lost stored loses finishes
          rw [before] at outstanding
          rw [same]
          exact Outstanding.held early outstanding
        · have waiting : here.before.restorePhase ≠ .ready := by
            rw [before] at restoring
            rw [same]
            exact Restoring.closed early restoring
          exact fence.unfinished waiting fun _ => failed
      rw [rest] at also
      obtain ⟨onward, end', cut', pause, there', -⟩ := Runs.history_split also
      have still : there.before.restorePhase ≠ .ready := by
        rw [there']
        refine closed_run fence.together ?_ closed ?_
        · intro call inside
          exact late call (cut' ▸ List.mem_append_left _ inside)
        · rw [← pause]
          exact unrestored
      have inside : there ∈ run := by
        rw [split, rest, also]
        simp
      exact (fences there inside).closed still asks

/-- An interrupted ride of two seconds without a vehicle. -/
def interruptedStored : RecoverableRide :=
  { id := 9, state := .interrupted, monotonicCreatedAt := some 0, duration := 2000, candidateVehicle := none
    associatedVehicle := none, associatedAt := none, monotonicLastEvent := some 2000, pausedAt := none, pausedDuration := 0
    completedDuration := 2000, summary := ⟨0, 0⟩, routePoints := [], motion := none, stationaryObservation := none
    lastLocationObserved := none, lastTelemetryAt := none, updatedAt := 0, recordedDuration := none
    lastConnectedVehicle := none }

/-- The ride is to be resumed, which the database refuses. -/
def refusedRecovery (id : Nat) : RideCall :=
  .finishRestoreWithPolicy id (.ok (some interruptedStored)) ⟨0, 1000, true, false, none⟩ { resumed := .error .other }

def lostResumeCalls : List RideCall :=
  startedCalls ++
    [.admitLocation (liveFix 10 5) {}, .beginTransition ⟨7, 2⟩ .pause 20 none none,
      .finishTransition ⟨3, 7, ⟨.active, .pause, .paused, active_pauses⟩, 20, 0, none⟩ (.ok ⟨7, .paused⟩)
        ⟨1, fun _ => .settled .accepted⟩,
      .beginTransition ⟨7, 3⟩ .resume 30 none none,
      .finishTransition ⟨4, 7, ⟨.paused, .resume, .active, paused_resumes⟩, 30, 0, none⟩ (.error .responseDropped)
        ⟨0, fun _ => .settled .accepted⟩,
      .admitLocation (liveFix 40 5) {}, .beginRestore none, refusedRecovery 5, .beginStart 50 none none]

/-- The pause was asked for with the token of its ride. The resume is lost behind it, and neither a fix nor, after a
restoration that failed in its recovery, a start is accepted. -/
theorem lost_resume_is_fenced :
    let run := Runs.history (RecordingState.step level true) (.new true) lostResumeCalls
    ∃ past, ∃ asked paused resuming lost fix restoring recovery start : Step RecordingState RideCall RideOutput,
      run = past ++ [asked, paused, resuming, lost, fix, restoring, recovery, start] ∧
      (∃ token, asked.input.token = some token ∧ asked.before.rideId = some token.rideId ∧
        asked.before.generation = token.generation ∧ paused.after.recorder.state = some .paused) ∧
      lost.input.loses = true ∧ fix.output.fails = true ∧
      FailsRecovery recovery.before recovery.input recovery.after ∧ recovery.before.rideId = some 7 ∧
      recovery.after.rideId = some 9 ∧ start.output.fails = true := by
  intro run
  let at_ (index : Fin 13) : Step RecordingState RideCall RideOutput := run.get index
  have fenced := (durable_commands_are_fenced level true lostResumeCalls (by decide)).2
  refine ⟨run.take 5, at_ 5, at_ 6, at_ 7, at_ 8, at_ 9, at_ 10, at_ 11, at_ 12, rfl, ?_, rfl, ?_, ?_, rfl, rfl, ?_⟩
  · obtain ⟨-, lifecycle, -, prepared⟩ := (fenced (run.take 6) (at_ 6) (run.drop 7) rfl).2.1 _ _ rfl rfl
    obtain ⟨token, asks, -, ride, generation, -⟩ := prepared (at_ 5) (List.mem_of_getElem? (i := 5) rfl) rfl
    exact ⟨token, asks, ride, generation, lifecycle⟩
  · have resumed : Outstanding (run.take 8) 4 := ⟨run.take 7, at_ 7, [], rfl, rfl, fun _ member => by cases member⟩
    exact (fenced (run.take 8) (at_ 8) (run.drop 9) rfl).2.2.2 4 rfl (.inl ⟨rfl, rfl, resumed⟩) [] (at_ 9) (run.drop 10) rfl
      (fun _ member => by cases member) rfl
  · rcases ((fenced (run.take 11) (at_ 11) [at_ 12] rfl).2.2.1 5 rfl fun done => by cases done).2 with fails | ⟨same, -⟩
    · exact fails
    · cases same
  · have restoring : Restoring (run.take 11) 5 := ⟨run.take 10, at_ 10, [], rfl, rfl, fun _ member => by cases member⟩
    exact (fenced (run.take 11) (at_ 11) [at_ 12] rfl).2.2.2 5 rfl (.inr ⟨(fun done => by cases done), restoring⟩) []
      (at_ 12) [] rfl (fun _ member => by cases member) rfl

/-- The fix of a started ride is queued; a pause is asked for, and the database answers that the ride is still active. -/
def contradictedCalls : List RideCall :=
  startedCalls ++ [.admitLocation (liveFix 10 5) {}, .beginTransition ⟨7, 2⟩ .pause 20 none none]

/-- Two finishes that fail: one settles the queued write, the other shows the stored ride before the resume fails. -/
theorem failed_finish_leaves_traces :
    (let state := Runs.final (RecordingState.step level true) (.new true) contradictedCalls
      let result := state.step level true (.finishTransition ⟨3, 7, ⟨.active, .pause, .paused, active_pauses⟩, 20, 0, none⟩
        (.ok ⟨7, .active⟩) ⟨1, fun _ => .settled .accepted⟩)
      result.2 = .failed .staleCommand ∧ state.recorder.points = [] ∧
        result.1.recorder.points.map RideMapPoint.sample = [liveFix 10 5]) ∧
    (let state := Runs.final (RecordingState.step level true) (.new true) [.beginRestore none]
      let result := state.step level true (refusedRecovery 1)
      result.2 = .failed (.storage .other) ∧ state.rideId = none ∧ state.recorder.state = none ∧
        result.1.rideId = some 9 ∧ result.1.recorder.state = some .interrupted) := by
  decide

end Runs

end Cutout.Rides

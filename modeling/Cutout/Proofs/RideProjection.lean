import Cutout.Proofs.RideRecovery
import Cutout.Proofs.RideSteps
import Cutout.Library.Runs
import Cutout.Library.Outcomes

/-! The admission recorder is the durable recorder with the queue replayed over it,
along every run whose calls stay clear of three situations: a stationary mark at the
very time of the newest queued fix, a discard with writes in flight, and a resume of
a ride that was restored without points. -/

namespace Cutout.Rides
open Library
open Protocols (u64Max)
open RecordingState (settled replay)
open RecordingState (settleWrite locationDecision heldState publishTransition applyMutations)
variable {queue : List PendingLocation}

structure Tracked (database : Bool) (state : RecordingState) : Prop where
  queued : Queued state.recorder state.pendingLocations
  points : ∀ pending ∈ state.pendingLocations, pending.point = pending.admitted.point
  drawn : ∀ generation, state.recorder.recordingGeneration = some generation → generation < state.nextRecordingGeneration
  issued : ∀ pending ∈ state.pendingLocations, pending.admitted.recordingGeneration < state.nextRecordingGeneration
  memory : database = false → state.pendingLocations = []
  bounded : state.nextRecordingGeneration ≤ u64Max

structure Projected (distance : Distance) (database : Bool) (state : RecordingState) : Prop extends
    Tracked database state where
  replayed : state.admissionRecorder.untimed = (replay distance state.recorder state.pendingLocations).untimed

variable {distance : Distance} {database : Bool} {state after : RecordingState}

theorem untimed_fields {first second : RideMapRecorder} (same : first.untimed = second.untimed) :
    first.state = second.state ∧ first.recordingGeneration = second.recordingGeneration ∧
      first.activeIntervalGeneration = second.activeIntervalGeneration ∧ first.createdAt = second.createdAt ∧
      first.candidateVehicle = second.candidateVehicle ∧ first.associatedVehicle = second.associatedVehicle ∧
      first.associatedAt = second.associatedAt ∧ first.lastTelemetryAt = second.lastTelemetryAt ∧
      first.latestLocationObservation = second.latestLocationObservation ∧
      first.stationaryBoundaryAt = second.stationaryBoundaryAt ∧ first.points = second.points ∧
      first.summary = second.summary ∧ first.segmentId = second.segmentId ∧
      first.segmentStarted = second.segmentStarted ∧ first.lastMonotonic = second.lastMonotonic := by
  simp only [RideMapRecorder.untimed, RideMapRecorder.mk.injEq] at same
  obtain ⟨h1, h2, h3, h4, h5, h6, h7, h8, h9, h10, h11, -, h13, h14, h15, -, h17, -⟩ := same
  exact ⟨h1, h2, h3, h4, h5, h6, h7, h8, h9, h10, h11, h13, h14, h15, h17⟩

/-- Both recorders are in one lifecycle state and one active interval. -/
def Together (state : RecordingState) : Prop :=
  state.admissionRecorder.state = state.recorder.state ∧
    state.admissionRecorder.activeIntervalGeneration = state.recorder.activeIntervalGeneration

/-- In one lifecycle state and interval, both recorders take a transition or neither does. -/
theorem Together.transition (together : Together state) {transition : ValidatedRideTransition} {time : Nat}
    {recorder : RideMapRecorder}
    (applied : state.recorder.applyTransitionAt transition time = some recorder) :
    ∃ admission, state.admissionRecorder.applyTransitionAt transition time = some admission := by
  have durable := applyTransitionAt_eq state.recorder transition time
  have staged := applyTransitionAt_eq state.admissionRecorder transition time
  rw [together.1, together.2] at staged
  rw [applied] at durable
  split at durable
  · cases durable
  · rename_i allowed
    rw [if_neg allowed] at staged
    obtain ⟨admission, known, -⟩ := Option.map_eq_some_iff.mp staged
    exact ⟨admission, known⟩

namespace Projected

/-- A call that touches neither recorder nor the queue; it may have drawn numbers for recordings. -/
theorem drawing (projected : Projected distance database state) (recorder : after.recorder = state.recorder)
    (admission : after.admissionRecorder = state.admissionRecorder)
    (pending : after.pendingLocations = state.pendingLocations)
    (generation : state.nextRecordingGeneration ≤ after.nextRecordingGeneration)
    (bounded : after.nextRecordingGeneration ≤ u64Max) : Projected distance database after where
  queued := by
    rw [recorder, pending]
    exact projected.queued
  points := by
    rw [pending]
    exact projected.points
  drawn := by
    rw [recorder]
    exact fun drawn known => (projected.drawn drawn known).trans_le generation
  issued := by
    rw [pending]
    exact fun other member => (projected.issued other member).trans_le generation
  memory := by
    rw [pending]
    exact projected.memory
  bounded := bounded
  replayed := by
    rw [recorder, admission, pending]
    exact projected.replayed

theorem frame (projected : Projected distance database state) (recorder : after.recorder = state.recorder)
    (admission : after.admissionRecorder = state.admissionRecorder)
    (pending : after.pendingLocations = state.pendingLocations)
    (generation : after.nextRecordingGeneration = state.nextRecordingGeneration) : Projected distance database after :=
  projected.drawing recorder admission pending generation.ge (generation ▸ projected.bounded)

/-- Without writes of the recording the recorders are the same but for their clocks. -/
theorem foreign (projected : Projected distance database state)
    (foreign : ∀ pending ∈ state.pendingLocations, ¬state.recorder.Owns pending) :
    state.admissionRecorder.untimed = state.recorder.untimed := by
  rw [projected.replayed, replay_foreign foreign]

end Projected

namespace Tracked

theorem replaced (tracked : Tracked database state) (same : after.admissionRecorder = after.recorder)
    (pending : ∀ other ∈ after.pendingLocations, other ∈ state.pendingLocations)
    (generation : state.nextRecordingGeneration ≤ after.nextRecordingGeneration)
    (bounded : after.nextRecordingGeneration ≤ u64Max)
    (fresh : ∀ drawn, after.recorder.recordingGeneration = some drawn →
      state.nextRecordingGeneration ≤ drawn ∧ drawn < after.nextRecordingGeneration) :
    Projected distance database after := by
  have foreign : ∀ other ∈ after.pendingLocations, ¬after.recorder.Owns other := by
    intro other member owned
    have old := tracked.issued other (pending other member)
    have new := fresh _ owned
    omega
  refine ⟨⟨.of_foreign foreign, fun other member => tracked.points other (pending other member),
    fun drawn known => (fresh drawn known).2, fun other member => (tracked.issued other (pending other member)).trans_le generation,
    fun unstored => ?_, bounded⟩, ?_⟩
  · apply List.eq_nil_iff_forall_not_mem.mpr
    intro other member
    have held := pending other member
    rw [tracked.memory unstored] at held
    cases held
  · rw [replay_foreign foreign, same]

/-- Both recorders become one of the same recording, with nothing in flight. -/
theorem emptied (tracked : Tracked database state) (same : after.admissionRecorder.untimed = after.recorder.untimed)
    (empty : after.pendingLocations = [])
    (generation : after.nextRecordingGeneration = state.nextRecordingGeneration)
    (recording : after.recorder.recordingGeneration = state.recorder.recordingGeneration) :
    Projected distance database after := by
  refine ⟨⟨?_, ?_, ?_, ?_, fun _ => empty, generation ▸ tracked.bounded⟩, ?_⟩
  · rw [empty]
    exact .of_foreign fun _ member => absurd member List.not_mem_nil
  · simp [empty]
  · rw [recording, generation]
    exact tracked.drawn
  · simp [empty]
  · rw [empty]
    exact same

end Tracked

section Settlement

theorem settleWrite_eq (rideId : Option Nat) (results : Nat → LocationWriteResult)
    (work : RideMapRecorder × List RideLocationWriteOutcome) (next : PendingLocation) :
    (settleWrite distance rideId results work next).1 =
      if results next.requestId = .settled .accepted ∧ rideId = some next.rideId then
        settled distance work.1 next.admitted
      else work.1 := by
  simp only [settleWrite]
  split <;> rfl

theorem Queued.settleWrites {rideId : Option Nat} {results : Nat → LocationWriteResult} {ready : List PendingLocation}
    {work : RideMapRecorder × List RideLocationWriteOutcome} (queued : Queued work.1 (ready ++ queue)) :
    Queued (ready.foldl (settleWrite distance rideId results) work).1 queue ∧
      (ready.foldl (settleWrite distance rideId results) work).1.recordingGeneration =
        work.1.recordingGeneration := by
  induction ready generalizing work with
  | nil => exact ⟨queued, rfl⟩
  | cons next ready ih =>
    have first : Queued (settleWrite distance rideId results work next).1 (ready ++ queue) ∧
        (settleWrite distance rideId results work next).1.recordingGeneration =
          work.1.recordingGeneration := by
      rw [settleWrite_eq]
      split
      · exact ⟨queued.settle, (settled_frame distance work.1 next.admitted).2.1⟩
      · exact ⟨queued.tail, rfl⟩
    obtain ⟨rest, same⟩ := ih first.1
    exact ⟨rest, same.trans first.2⟩

theorem Tracked.settle (tracked : Tracked database state) (progress : WriteProgress) :
    Projected distance database (state.settleReadyLocationWrites distance progress).1 := by
  have queued := tracked.queued
  rw [← List.take_append_drop progress.ready state.pendingLocations] at queued
  have settles : Queued (state.settleReadyLocationWrites distance progress).1.recorder
      (state.pendingLocations.drop progress.ready) ∧ _ :=
    @Queued.settleWrites _ _ _ _ _ (state.recorder, state.settledLocations) queued
  obtain ⟨rest, same⟩ := settles
  refine ⟨⟨rest, ?_, ?_, ?_, ?_, tracked.bounded⟩, rfl⟩
  · exact fun pending member => tracked.points pending (List.mem_of_mem_drop member)
  · exact fun generation known => tracked.drawn generation (same ▸ known)
  · exact fun pending member => tracked.issued pending (List.mem_of_mem_drop member)
  · intro memory
    show state.pendingLocations.drop progress.ready = []
    rw [tracked.memory memory]
    exact List.drop_nil

/-- A poll gives a ride a point when it confirms one of its writes. -/
theorem Resumable.settleWrites {rideId : Option Nat} {results : Nat → LocationWriteResult}
    {ready : List PendingLocation} {work : RideMapRecorder × List RideLocationWriteOutcome}
    (queued : Queued work.1 (ready ++ queue)) (opens : work.1.segmentStarted = true ∨ work.1.points ≠ [] ∨
      (∃ pending ∈ ready, work.1.Owns pending ∧ results pending.requestId = .settled .accepted ∧
        rideId = some pending.rideId) ∨ ∀ pending ∈ queue, ¬work.1.Owns pending) :
    Resumable (ready.foldl (settleWrite distance rideId results) work).1 queue := by
  induction ready generalizing work with
  | nil =>
    rcases opens with started | points | ⟨_, member, _⟩ | foreign
    · exact .inl started
    · exact .inr (.inl points)
    · cases member
    · exact .inr (.inr foreign)
  | cons next ready ih =>
    have first : Queued (settleWrite distance rideId results work next).1 (ready ++ queue) := by
      rw [settleWrite_eq]
      split
      · exact queued.settle
      · exact queued.tail
    refine ih first ?_
    rw [settleWrite_eq]
    by_cases confirmed : results next.requestId = .settled .accepted ∧ rideId = some next.rideId
    · rw [if_pos confirmed]
      by_cases owned : work.1.Owns next
      · rw [queued.settled_eq_recorded distance owned]
        exact .inr (.inl (recorded_points _ _ _))
      · rw [settled_foreign owned]
        rcases opens with started | points | ⟨other, member, mine, accepted⟩ | foreign
        · exact .inl started
        · exact .inr (.inl points)
        · cases member with
          | head => exact absurd mine owned
          | tail _ inside => exact .inr (.inr (.inl ⟨other, inside, mine, accepted⟩))
        · exact .inr (.inr (.inr foreign))
    · rw [if_neg confirmed]
      rcases opens with started | points | ⟨other, member, mine, accepted⟩ | foreign
      · exact .inl started
      · exact .inr (.inl points)
      · cases member with
        | head => exact absurd accepted confirmed
        | tail _ inside => exact .inr (.inr (.inl ⟨other, inside, mine, accepted⟩))
      · exact .inr (.inr (.inr foreign))

end Settlement

namespace Projected
variable {transition : ValidatedRideTransition} {time : Nat} {recorder admission : RideMapRecorder}

theorem together (projected : Projected distance database state) : Together state := by
  have fields := untimed_fields projected.replayed
  have frame := replay_frame distance state.recorder state.pendingLocations
  exact ⟨fields.1.trans frame.1, fields.2.2.1.trans frame.2.2.1⟩

theorem transitioned (projected : Projected distance database state)
    (durable : state.recorder.applyTransitionAt transition time = some after.recorder)
    (staged : state.admissionRecorder.applyTransitionAt transition time = some after.admissionRecorder)
    (keeps : transition.event ≠ .discard)
    (resumable : transition.resumes = true → Resumable state.recorder state.pendingLocations)
    (pending : after.pendingLocations = state.pendingLocations)
    (generation : after.nextRecordingGeneration = state.nextRecordingGeneration) :
    Projected distance database after := by
  have recording := applyTransitionAt_recording durable
  obtain ⟨previous, durable⟩ := applyTransitionAt_some durable
  obtain ⟨-, staged⟩ := applyTransitionAt_some staged
  have untimed : Queued state.recorder.untimed state.pendingLocations :=
    ⟨projected.queued.lifecycle, projected.queued.interval, projected.queued.behind, projected.queued.ordered,
      projected.queued.segment⟩
  have moved : Queued (state.recorder.untimed.moved transition time) state.pendingLocations := untimed.moved previous keeps
  have queued : Queued after.recorder state.pendingLocations := by
    have shape : Queued after.recorder.untimed state.pendingLocations := durable ▸ moved
    exact ⟨shape.lifecycle, shape.interval, shape.behind, shape.ordered, shape.segment⟩
  refine ⟨⟨?_, ?_, ?_, ?_, ?_, generation ▸ projected.bounded⟩, ?_⟩
  · rw [pending]
    exact queued
  · rw [pending]
    exact projected.points
  · rw [generation]
    intro drawn known
    exact projected.drawn drawn (recording.symm.trans known)
  · rw [pending, generation]
    exact projected.issued
  · rw [pending]
    exact projected.memory
  · rw [staged, projected.replayed, replay_untimed, pending, replay_untimed, durable]
    exact (replay_moved distance untimed previous keeps resumable).symm

theorem discarded (projected : Projected distance database state)
    (durable : state.recorder.applyTransitionAt transition time = some after.recorder)
    (staged : state.admissionRecorder.applyTransitionAt transition time = some after.admissionRecorder)
    (settled : ∀ pending ∈ state.pendingLocations, ¬state.recorder.Owns pending)
    (pending : after.pendingLocations = [])
    (generation : after.nextRecordingGeneration = state.nextRecordingGeneration) :
    Projected distance database after := by
  apply projected.toTracked.emptied _ pending generation (applyTransitionAt_recording durable)
  obtain ⟨-, durable⟩ := applyTransitionAt_some durable
  obtain ⟨-, staged⟩ := applyTransitionAt_some staged
  rw [staged, durable, projected.foreign settled]

end Projected

namespace RecordingState

/-- The time of the stationary mark that a fix brings to both recorders. -/
def stationaryMark (state : RecordingState) (sample : LocationSample) : Option Nat :=
  if state.recorder.associatedVehicle.isSome then
    (state.speed.motionAt sample.monotonic).bind RideMotionObservation.lastStationaryAt
  else none

/-- A fix of a parked wheel that waits until every write has settled. -/
def settlesParked (state : RecordingState) (sample : LocationSample) (storage : AdmissionStorage) : Bool :=
  state.speed.parkedAt sample.monotonic && storage.barrier.isNone

def Completes (database : Bool) (state : RecordingState) (operation : PreparedRideTransition)
    (committed : Except StorageError CommittedRide) : Prop :=
  state.pendingCommandId = some operation.id ∧ state.rideId = some operation.rideId ∧
    state.recorder.state = some operation.transition.previous ∧
    (database = true → ∃ ride, committed = .ok ride ∧ contradicts operation ride = false)

/-- Behind a poll a resume finds an open segment, a point, or no write of its recording in flight. -/
def Reopens (state : RecordingState) (progress : WriteProgress) : Prop :=
  state.recorder.segmentStarted = true ∨ state.recorder.points ≠ [] ∨
    (∃ pending ∈ state.pendingLocations.take progress.ready, state.recorder.Owns pending ∧
      progress.results pending.requestId = .settled .accepted ∧ state.rideId = some pending.rideId) ∨
    ∀ pending ∈ state.pendingLocations.drop progress.ready, ¬state.recorder.Owns pending

/-- The calls under which the admission recorder stays the replay of the queue. -/
def Regular (database : Bool) (state : RecordingState) : RideCall → Prop
  | .admitLocation sample storage => ∀ time, state.stationaryMark sample = some time →
      state.settlesParked sample storage = false → state.admissionRecorder.lastPointAt = some time →
        state.recorder.markStationaryBoundary time = state.recorder
  | .finishTransition operation committed progress => state.Completes database operation committed →
      (operation.transition.event = .discard →
        ∀ pending ∈ state.pendingLocations.drop progress.ready, ¬state.recorder.Owns pending) ∧
      (operation.transition.event = .resume → state.Reopens progress)
  | .finishVerifiedConnection operation _ _ progress =>
      (∃ keeps time, LifecycleMutation.transition .resume keeps time ∈ operation.mutations) → state.Reopens progress
  | _ => True

section Decidable
variable {database : Bool} {state : RecordingState} {progress : WriteProgress}

instance {committed : Except StorageError CommittedRide} {accepts : CommittedRide → Prop} [DecidablePred accepts] :
    Decidable (∃ ride, committed = .ok ride ∧ accepts ride) :=
  match committed with
  | .ok ride => decidable_of_iff (accepts ride) (by simp)
  | .error _ => isFalse (by simp)

instance {operation : PreparedRideTransition} {committed : Except StorageError CommittedRide} :
    Decidable (state.Completes database operation committed) := inferInstanceAs (Decidable (_ ∧ _ ∧ _ ∧ (_ → _)))

instance {recorder : RideMapRecorder} {pending : PendingLocation} : Decidable (recorder.Owns pending) :=
  inferInstanceAs (Decidable (_ = _))

instance : Decidable (state.Reopens progress) := inferInstanceAs (Decidable (_ ∨ _ ∨ _ ∨ _))

def resumes : LifecycleMutation → Bool
  | .transition event _ _ => decide (event = .resume)
  | .startLive _ _ => false

instance {mutations : List LifecycleMutation} :
    Decidable (∃ keeps time, LifecycleMutation.transition .resume keeps time ∈ mutations) :=
  decidable_of_iff (∃ mutation ∈ mutations, resumes mutation = true) (by
    constructor
    · rintro ⟨mutation | _, member, resumed⟩
      · cases of_decide_eq_true resumed
        exact ⟨_, _, member⟩
      · cases resumed
    · rintro ⟨keeps, time, member⟩
      exact ⟨_, member, rfl⟩)

instance : (call : RideCall) → Decidable (state.Regular database call)
  | .admitLocation sample storage =>
    decidable_of_iff (∀ time ∈ state.stationaryMark sample, state.settlesParked sample storage = false →
      state.admissionRecorder.lastPointAt = some time → state.recorder.markStationaryBoundary time = state.recorder) Iff.rfl
  | .finishTransition operation committed progress =>
    inferInstanceAs (Decidable (state.Completes database operation committed →
      (operation.transition.event = .discard →
        ∀ pending ∈ state.pendingLocations.drop progress.ready, ¬state.recorder.Owns pending) ∧
      (operation.transition.event = .resume → state.Reopens progress)))
  | .finishVerifiedConnection operation _ _ progress =>
    inferInstanceAs (Decidable ((∃ keeps time, LifecycleMutation.transition .resume keeps time ∈ operation.mutations) →
      state.Reopens progress))
  | .beginRestore .. | .finishRestore .. | .finishRestoreWithPolicy .. | .beginStart .. | .finishStart ..
  | .beginTransition .. | .beginStopAfterMusic .. | .finishStopAfterMusic .. | .dropCommand .. | .pollLocationWrites ..
  | .checkpointLocationWrites .. | .observeTelemetry .. | .observeVerifiedVehicleSpeed .. | .restoreMotion ..
  | .beginVerifiedConnection .. => isTrue trivial

end Decidable

end RecordingState

section Location
variable {sample : LocationSample} {storage : AdmissionStorage}
variable {admitted : AdmittedLocationSample} {recorder : RideMapRecorder}

theorem markStationary_eq (state : RecordingState) (sample : LocationSample) :
    state.markStationary sample = match state.stationaryMark sample with
      | some time => { state with
          recorder := state.recorder.markStationaryBoundary time
          admissionRecorder := state.admissionRecorder.markStationaryBoundary time }
      | none => state := by
  unfold RecordingState.markStationary RecordingState.stationaryMark
  cases state.recorder.associatedVehicle with
  | none => rfl
  | some vehicle =>
    cases (state.speed.motionAt sample.monotonic).bind RideMotionObservation.lastStationaryAt <;> rfl

theorem mark_untimed (recorder : RideMapRecorder) (time : Nat) :
    (recorder.markStationaryBoundary time).untimed = recorder.untimed.markStationaryBoundary time := by
  unfold RideMapRecorder.markStationaryBoundary
  show RideMapRecorder.untimed (if _ then _ else if _ then _ else _) =
    if recorder.lastPointAt.any _ = true then _ else if recorder.stationaryBoundaryAt.all _ = true then _ else _
  split
  · rfl
  · split <;> rfl

theorem mark_recording (recorder : RideMapRecorder) (time : Nat) :
    (recorder.markStationaryBoundary time).recordingGeneration = recorder.recordingGeneration := by
  unfold RideMapRecorder.markStationaryBoundary
  split
  · rfl
  · split <;> rfl

theorem Tracked.mark (tracked : Tracked database state) (sample : LocationSample) :
    Tracked database (state.markStationary sample) := by
  rw [markStationary_eq]
  cases state.stationaryMark sample with
  | none => exact tracked
  | some time =>
    refine ⟨tracked.queued.mark time, tracked.points, ?_, tracked.issued, tracked.memory, tracked.bounded⟩
    intro generation known
    apply tracked.drawn generation
    exact mark_recording state.recorder time ▸ known

theorem Projected.mark (projected : Projected distance database state)
    (apart : ∀ time, state.stationaryMark sample = some time → state.admissionRecorder.lastPointAt = some time →
      state.recorder.markStationaryBoundary time = state.recorder) :
    Projected distance database (state.markStationary sample) := by
  refine ⟨projected.toTracked.mark sample, ?_⟩
  have points := (untimed_fields projected.replayed).2.2.2.2.2.2.2.2.2.2.1
  rw [markStationary_eq]
  cases known : state.stationaryMark sample with
  | none => exact projected.replayed
  | some time =>
    have passes := replay_mark distance state.recorder state.pendingLocations time fun last =>
      apart time known (by rw [← last, RideMapRecorder.lastPointAt, points]; rfl)
    show (state.admissionRecorder.markStationaryBoundary time).untimed =
      (replay distance (state.recorder.markStationaryBoundary time) state.pendingLocations).untimed
    rw [passes, mark_untimed, mark_untimed, projected.replayed]

private theorem Projected.mark_of_empty (projected : Projected distance database state) (empty : state.pendingLocations = []) :
    Projected distance database (state.markStationary sample) := by
  apply projected.mark
  intro time _ last
  have points := (untimed_fields projected.replayed).2.2.2.2.2.2.2.2.2.2.1
  rw [empty] at points
  apply mark_fixed
  exact .inl ⟨time, by rw [← last, RideMapRecorder.lastPointAt, RideMapRecorder.lastPointAt, points]; rfl, Nat.le_refl _⟩

private theorem observeStationary_recording {observed : RideMapRecorder} {observation : LocationObservation}
    (accepted : recorder.observeStationary distance observation = some observed) :
    observed.recordingGeneration = recorder.recordingGeneration := by
  unfold RideMapRecorder.observeStationary at accepted
  split at accepted
  · cases accepted
  · cases accepted
    exact mark_recording _ _

private theorem observeClockOnly_recording {observed : RideMapRecorder} {observation : LocationObservation}
    (accepted : recorder.observeClockOnly distance observation = some observed) :
    observed.recordingGeneration = recorder.recordingGeneration := by
  unfold RideMapRecorder.observeClockOnly at accepted
  split at accepted
  · cases accepted
  · split at accepted
    · cases accepted
      rfl
    · cases accepted

theorem Projected.observed (projected : Projected distance database state) (empty : state.pendingLocations = [])
    (recording : recorder.recordingGeneration = state.recorder.recordingGeneration) :
    Projected distance database { state with recorder, admissionRecorder := recorder } :=
  projected.toTracked.emptied rfl empty rfl recording

theorem Tracked.settleKeeping (distance : Distance) (tracked : Tracked database state) (progress : WriteProgress) :
    Projected distance database (state.settleKeeping distance progress) :=
  (tracked.settle progress).frame rfl rfl rfl rfl

theorem Tracked.parkedState (tracked : Tracked database state)
    (before : Projected distance database state ∨ (database = true ∧ state.pendingLocations ≠ [])) :
    Projected distance database (state.parkedState distance database storage) ∧
      (state.parkedState distance database storage).pendingLocations = [] := by
  unfold RecordingState.parkedState
  split
  · refine ⟨tracked.settleKeeping distance _, ?_⟩
    exact List.drop_length
  · rename_i idle
    rcases before with projected | ⟨stored, waiting⟩
    · refine ⟨projected, ?_⟩
      cases memory : database with
      | false => exact tracked.memory memory
      | true => simpa [memory] using idle
    · simp [stored, waiting] at idle

theorem Tracked.admitParked (tracked : Tracked database state)
    (before : Projected distance database state ∨
      (database = true ∧ state.pendingLocations ≠ [] ∧ storage.barrier = none)) :
    Projected distance database (state.admitParked distance database sample storage).1 := by
  obtain ⟨polled, empty⟩ : Projected distance database (state.parkedState distance database storage) ∧
      (state.parkedState distance database storage).pendingLocations = [] :=
    tracked.parkedState (before.imp_right fun waiting => ⟨waiting.1, waiting.2.1⟩)
  rcases RecordingState.admitParked_cases distance database state sample storage with
    ⟨error, refused, result⟩ | ⟨output, -, result⟩ | ⟨observation, recorder, accepted, result⟩
  · rw [result]
    rcases before with projected | ⟨-, -, passed⟩
    · exact projected
    · rw [passed] at refused
      cases refused
  · rw [result]
    exact polled
  · rw [result]
    exact polled.observed empty (observeStationary_recording accepted)

theorem admitSample_point (accepted : recorder.admitSample distance sample = .ok admitted) :
    admitted.point = ⟨sample, (recorder.nextSampleMetadata sample).1, recorder.telemetryStateAt sample.monotonic,
        (recorder.nextSampleMetadata sample).2.2⟩ ∧
      admitted.activeIntervalGeneration = recorder.activeIntervalGeneration := by
  unfold RideMapRecorder.admitSample at accepted
  split at accepted
  · cases accepted
  · cases accepted
    exact ⟨rfl, rfl⟩
  · cases accepted

theorem classifySample_record (decision : recorder.classifySample distance sample = .record admitted) :
    recorder.admitSample distance sample = .ok admitted := by
  unfold RideMapRecorder.classifySample at decision
  split at decision
  · cases decision
  · rename_i known
    simp only at decision
    split at decision
    · cases decision
    · cases decision
      exact known

/-- With writes in flight or without, an admitted fix is the point that the admission recorder sees. -/
theorem Projected.decided (projected : Projected distance database state)
    (decision : state.locationDecision distance sample = .record admitted) :
    admitted.point = state.locationPoint sample ∧
      admitted.activeIntervalGeneration = state.recorder.activeIntervalGeneration := by
  unfold locationDecision at decision
  split at decision
  · rename_i empty
    obtain ⟨point, interval⟩ := admitSample_point (classifySample_record decision)
    refine ⟨point.trans ?_, interval⟩
    have same : state.admissionRecorder.untimed = state.recorder.untimed := by
      rw [projected.replayed, empty]
      rfl
    show _ = RideMapPoint.mk sample (state.admissionRecorder.untimed.nextSampleMetadata sample).1
      (state.admissionRecorder.untimed.telemetryStateAt sample.monotonic)
      (state.admissionRecorder.untimed.nextSampleMetadata sample).2.2
    rw [same]
    rfl
  · split at decision
    · rename_i known
      cases decision
      obtain ⟨point, interval⟩ := admitSample_point known
      have fields := untimed_fields projected.replayed
      have frame := replay_frame distance state.recorder state.pendingLocations
      exact ⟨point, interval.trans (fields.2.2.1.trans frame.2.2.1)⟩
    · cases decision

private theorem le_segmentIdForSample (recorder : RideMapRecorder) (sample : LocationSample) :
    recorder.segmentId ≤ recorder.segmentIdForSample sample := by
  have next := le_nextSegment recorder.segmentId
  unfold RideMapRecorder.segmentIdForSample
  split
  · split
    · exact Nat.le_refl _
    · exact next
  · split
    · exact next
    · exact Nat.le_refl _

theorem Projected.admitRecord (projected : Projected distance database state) {rideId : Nat}
    (decision : state.locationDecision distance sample = .record admitted) :
    Projected distance database (state.admitRecord distance database sample rideId admitted storage).1 := by
  obtain ⟨point, interval⟩ := projected.decided decision
  rcases RecordingState.admitRecord_cases distance database state sample rideId admitted storage with
    ⟨output, -, result⟩ | ⟨recorder, memory, recorded, result⟩ | ⟨admission, stored, recorded, result⟩
  · rw [result]
    exact projected
  · rw [result]
    apply projected.observed (projected.memory memory)
    unfold RideMapRecorder.recordAdmittedSample at recorded
    split at recorded
    · cases recorded
      rfl
    · cases recorded
  · rw [result]
    have taken : state.admissionRecorder.takes admitted = true ∧ state.admissionRecorder.recorded distance admitted = admission := by
      unfold RideMapRecorder.recordAdmittedSample at recorded
      split at recorded
      · rename_i taken
        exact ⟨taken, Option.some.inj recorded⟩
      · cases recorded
    have same : (replay distance state.recorder state.pendingLocations).takes admitted = true := by
      show (replay distance state.recorder state.pendingLocations).untimed.takes admitted = true
      rw [← projected.replayed]
      exact taken.1
    have fields := untimed_fields projected.replayed
    have frame := replay_frame distance state.recorder state.pendingLocations
    have owned := (RideMapRecorder.takes_iff.mp same).2.1
    rw [frame.2.1] at owned
    have behind : (replay distance state.recorder state.pendingLocations).segmentId ≤ admitted.point.segmentId := by
      rw [← fields.2.2.2.2.2.2.2.2.2.2.2.2.1, point]
      exact le_segmentIdForSample state.admissionRecorder sample
    refine ⟨⟨?_, ?_, projected.drawn, ?_, ?_, projected.bounded⟩, ?_⟩
    · exact projected.queued.push same interval behind
    · intro pending member
      rcases List.mem_append.mp member with inside | newest
      · exact projected.points pending inside
      · rw [List.mem_singleton.mp newest]
        exact point.symm
    · intro pending member
      rcases List.mem_append.mp member with inside | newest
      · exact projected.issued pending inside
      · rw [List.mem_singleton.mp newest]
        exact projected.drawn _ owned
    · intro memory
      rw [stored] at memory
      cases memory
    · have settles : admission = settled distance state.admissionRecorder admitted := by
        rw [settled_eq, if_pos taken.1, taken.2]
      show admission.untimed = (replay distance state.recorder (state.pendingLocations ++ [_])).untimed
      rw [settles, settled_untimed, projected.replayed, ← settled_untimed]
      unfold replay
      rw [List.foldl_append]
      rfl

theorem Projected.admitLocation (projected : Projected distance database state)
    (regular : state.Regular database (.admitLocation sample storage)) :
    Projected distance database (state.admitLocation distance database sample storage).1 := by
  have tracked := projected.toTracked.mark sample
  have pending : (state.markStationary sample).pendingLocations = state.pendingLocations := by
    rw [markStationary_eq]
    split <;> rfl
  rcases RecordingState.admitLocation_cases distance database state sample storage with
    ⟨output, -, result⟩ | ⟨-, parked, result⟩ | ⟨-, moving, cases⟩
  · rw [result]
    exact projected
  · rw [result]
    apply tracked.admitParked
    rw [Bool.and_eq_true] at parked
    by_cases empty : state.pendingLocations = []
    · exact .inl (projected.mark_of_empty empty)
    · cases barrier : storage.barrier with
      | none =>
        refine .inr ⟨?_, by rw [pending]; exact empty, rfl⟩
        by_contra memory
        exact empty (projected.memory (Bool.eq_false_iff.mpr memory))
      | some error =>
        refine .inl (projected.mark fun time mark last => regular time mark ?_ last)
        simp [RecordingState.settlesParked, barrier]
  · have marked : Projected distance database (state.markStationary sample) := by
      apply projected.mark
      intro time mark last
      apply regular time mark _ last
      unfold RecordingState.stationaryMark at mark
      split at mark
      · rename_i associated
        rw [associated, Bool.true_and] at moving
        simp [RecordingState.settlesParked, moving]
      · cases mark
    rcases cases with ⟨output, -, result⟩ | ⟨observation, decision, result⟩ | ⟨rideId, admitted, -, decision, result⟩
    · rw [result]
      exact marked
    · rw [result]
      have empty : (state.markStationary sample).pendingLocations = [] := by
        by_contra waiting
        unfold locationDecision at decision
        rw [if_neg waiting] at decision
        split at decision <;> cases decision
      rcases RecordingState.admitClockOnly_cases distance database (state.markStationary sample) observation storage with
        ⟨error, result⟩ | ⟨recorder, accepted, result⟩
      · rw [result]
        exact marked
      · rw [result]
        exact marked.observed empty (observeClockOnly_recording accepted)
    · rw [result]
      exact marked.admitRecord decision

end Location

section Commands
variable {recorder : RideMapRecorder}

private theorem restoreStationaryObservation_recording (recorder : RideMapRecorder) (sample : LocationSample) :
    (recorder.restoreStationaryObservation sample).recordingGeneration = recorder.recordingGeneration := by
  unfold RideMapRecorder.restoreStationaryObservation
  split
  · rfl
  · exact mark_recording _ _

private theorem restoreLocationObservation_recording (recorder : RideMapRecorder) (time wallClock : Nat) :
    (recorder.restoreLocationObservation time wallClock).recordingGeneration = recorder.recordingGeneration := by
  unfold RideMapRecorder.restoreLocationObservation
  split
  · rfl
  · split <;> rfl

/-- What the observations of a restored ride keep, its recorder keeps. -/
theorem observed_same {α : Type} (part : RideMapRecorder → α)
    (mark : ∀ recorder time, part (recorder.markStationaryBoundary time) = part recorder)
    (stationary : ∀ recorder sample, part (recorder.restoreStationaryObservation sample) = part recorder)
    (location : ∀ recorder time wallClock, part (recorder.restoreLocationObservation time wallClock) = part recorder)
    (recorder : RideMapRecorder) (stationaryAt : Option Nat) (sample : Option LocationSample)
    (observed : Option (Nat × Nat)) :
    part (match sample, observed with
      | some sample, _ => (match stationaryAt with
        | some time => recorder.markStationaryBoundary time
        | none => recorder).restoreStationaryObservation sample
      | none, some (time, wallClock) => (match stationaryAt with
        | some time => recorder.markStationaryBoundary time
        | none => recorder).restoreLocationObservation time wallClock
      | none, none => match stationaryAt with
        | some time => recorder.markStationaryBoundary time
        | none => recorder) = part recorder := by
  have marked : part (match stationaryAt with
      | some time => recorder.markStationaryBoundary time
      | none => recorder) = part recorder := by
    cases stationaryAt with
    | none => rfl
    | some time => exact mark recorder time
  split
  · rw [stationary, marked]
  · rw [location, marked]
  · exact marked

private theorem restoredRecorder_generation (ride : RestoredRide) (generation : Option Nat) :
    (RecordingState.restoredRecorder ride generation).recordingGeneration = generation :=
  observed_same RideMapRecorder.recordingGeneration mark_recording restoreStationaryObservation_recording
    restoreLocationObservation_recording _ _ _ _

theorem start_generation {started : RideMapRecorder} {time : Nat} {vehicle : Option VehicleIdentity}
    {generation : Option Nat} (start : recorder.start time vehicle generation = some started) :
    generation.isSome = true ∧ started.recordingGeneration = generation := by
  unfold RideMapRecorder.start at start
  simp only at start
  split at start
  · cases start
    exact ⟨rfl, rfl⟩
  · cases start

theorem drawnGeneration_some {generation : Nat} (drawn : state.drawnGeneration = some generation) :
    generation = state.nextRecordingGeneration ∧ generation < u64Max := by
  unfold RecordingState.drawnGeneration at drawn
  split at drawn
  · cases drawn
    exact ⟨rfl, ‹_›⟩
  · cases drawn

theorem Tracked.publishStart (tracked : Tracked database state) {time : Nat} {vehicle : Option VehicleIdentity}
    (start : state.recorder.start time vehicle state.drawnGeneration = some recorder) (rideId : Nat) :
    Projected distance database (state.publishStart recorder rideId time) := by
  obtain ⟨drawn, recording⟩ := start_generation start
  obtain ⟨generation, drawn⟩ := Option.isSome_iff_exists.mp drawn
  obtain ⟨rfl, small⟩ := drawnGeneration_some drawn
  refine tracked.replaced rfl (fun _ member => member) (Nat.le_succ _) small ?_
  intro generation known
  have same : state.nextRecordingGeneration = generation := Option.some.inj (drawn.symm.trans (recording.symm.trans known))
  subst same
  exact ⟨Nat.le_refl _, Nat.lt_succ_self _⟩

theorem Projected.release (projected : Projected distance database state) (id : Nat) :
    Projected distance database (state.release id) := by
  unfold RecordingState.release
  split
  · exact projected.frame rfl rfl rfl rfl
  · exact projected

theorem Projected.commandStorageError (projected : Projected distance database state) (id : Nat) (error : StorageError) :
    Projected distance database (state.commandStorageError id error).1 := by
  unfold RecordingState.commandStorageError
  split
  · cases error <;> exact projected.frame rfl rfl rfl rfl
  · exact projected

/-- A projected ride is a recording of its own. -/
structure Fresh (before after : RecordingState) : Prop where
  pending : ∀ other ∈ after.pendingLocations, other ∈ before.pendingLocations
  numbers : before.nextRecordingGeneration ≤ after.nextRecordingGeneration
  bounded : after.nextRecordingGeneration ≤ u64Max
  drawn : ∀ drawn, after.recorder.recordingGeneration = some drawn →
    before.nextRecordingGeneration ≤ drawn ∧ drawn < after.nextRecordingGeneration

theorem Fresh.restoreProjection (bounded : state.nextRecordingGeneration ≤ u64Max) (restored : Option RestoredRide) :
    Fresh state (state.restoreProjection restored) := by
  cases restored with
  | none =>
    refine ⟨fun _ member => member, Nat.le_refl _, bounded, fun drawn known => ?_⟩
    cases known
  | some ride =>
    refine ⟨fun _ member => member, Nat.le_min.mpr ⟨Nat.le_succ _, bounded⟩, Nat.min_le_right _ _, ?_⟩
    intro generation known
    have drawn : state.drawnGeneration = some generation :=
      (restoredRecorder_generation ride state.drawnGeneration).symm.trans known
    obtain ⟨rfl, below⟩ := drawnGeneration_some drawn
    exact ⟨Nat.le_refl _, Nat.lt_min.mpr ⟨Nat.lt_succ_self _, below⟩⟩

theorem Fresh.recovered {projected : RecordingState} (fresh : Fresh state projected) (recovered : Recovered projected after) :
    Fresh state after := by
  have pending : ∀ other ∈ after.pendingLocations, other ∈ state.pendingLocations := by
    intro other member
    rcases recovered.pending with same | empty
    · exact fresh.pending other (same ▸ member)
    · rw [empty] at member
      cases member
  have numbers := fresh.numbers
  cases recovered.recorder with
  | moved recording _ drawn =>
    refine ⟨pending, drawn ▸ numbers, drawn ▸ fresh.bounded, ?_⟩
    rw [recording, drawn]
    exact fresh.drawn
  | emptied empty drawn =>
    refine ⟨pending, drawn ▸ numbers, drawn ▸ fresh.bounded, ?_⟩
    intro generation known
    rw [empty] at known
    cases known
  | started start drawn =>
    obtain ⟨draws, recording⟩ := start_generation start
    obtain ⟨generation, draws⟩ := Option.isSome_iff_exists.mp draws
    obtain ⟨rfl, small⟩ := drawnGeneration_some draws
    refine ⟨pending, by omega, by omega, ?_⟩
    intro generation known
    have same := Option.some.inj (draws.symm.trans (recording.symm.trans known))
    omega

theorem Tracked.restoreProjection (tracked : Tracked database state) (restored : Option RestoredRide) :
    Projected distance database (state.restoreProjection restored) := by
  have fresh := Fresh.restoreProjection tracked.bounded restored
  refine tracked.replaced ?_ fresh.pending fresh.numbers fresh.bounded fresh.drawn
  cases restored <;> rfl

theorem Projected.finishRestore (projected : Projected distance database state) (id : Nat)
    (snapshot : Except StorageError (Option RestoredRide)) :
    Projected distance database (state.finishRestore database id snapshot).1 := by
  rcases RecordingState.finishRestore_cases database state id snapshot with
    ⟨error, -, -, result⟩ | ⟨-, result⟩ | ⟨-, result⟩ | ⟨-, restored, result, source⟩
  · rw [result]
    exact projected.release id
  · rw [result]
    exact projected
  · rw [result]
    exact projected.frame rfl rfl rfl rfl
  · rw [result]
    rcases source with ⟨ride, -, -, rfl⟩ | ⟨-, rfl⟩
    · exact (projected.toTracked.restoreProjection ride).frame rfl rfl rfl rfl
    · refine projected.toTracked.replaced rfl (fun _ member => member) (Nat.le_refl _) projected.bounded ?_
      intro generation known
      cases known

theorem Projected.finishRestoreWithPolicy (projected : Projected distance database state) (id : Nat)
    (restored : Except StorageError (Option RecoverableRide)) (policy : RideRecoveryPolicy) (storage : RecoveryStorage) :
    Projected distance database (state.finishRestoreWithPolicy database id restored policy storage).1 := by
  rcases RecordingState.finishRestoreWithPolicy_cases database state id restored policy storage with
    ⟨error, -, -, result⟩ | ⟨-, result⟩ | ⟨-, result⟩ | ⟨-, shown, after, projects, recovered, finishes⟩
  · rw [result]
    exact projected.release id
  · rw [result]
    exact projected
  · rw [result]
    exact projected.frame rfl rfl rfl rfl
  · have fresh : Fresh state shown := by
      cases projects with
      | ride | empty => exact .restoreProjection projected.bounded _
      | memory =>
        refine ⟨fun other member => ?_, Nat.le_refl _, projected.bounded, fun drawn known => ?_⟩
        · cases member
        · cases known
    have left := fresh.recovered recovered
    have kept : Projected distance database after :=
      projected.toTracked.replaced recovered.one left.pending left.numbers left.bounded left.drawn
    rcases finishes with ⟨disposition, result⟩ | ⟨error, -, result⟩
    · rw [result]
      exact kept.frame rfl rfl rfl rfl
    · rw [result]
      exact kept.release id

theorem Projected.finishStart (projected : Projected distance database state) (operation : PreparedRideStart)
    (committed : Except StorageError CommittedRide) (freshRideId : Nat) :
    Projected distance database (state.finishStart database operation committed freshRideId).1 := by
  rcases RecordingState.finishStart_cases database state operation committed freshRideId with
    ⟨error, -, -, result⟩ | ⟨-, result⟩ | ⟨-, result⟩ | ⟨-, -, recorder, rideId, start, result⟩
  · rw [result]
    exact projected.commandStorageError _ _
  · rw [result]
    exact projected
  · rw [result]
    exact projected.frame rfl rfl rfl rfl
  · rw [result]
    exact (projected.toTracked.publishStart start rideId).frame rfl rfl rfl rfl

variable {operation : PreparedRideTransition} {committed : Except StorageError CommittedRide} {progress : WriteProgress}

theorem Tracked.held (distance : Distance) (tracked : Tracked database state) (operation : PreparedRideTransition) (progress : WriteProgress) :
    Projected distance database (state.heldState distance operation progress) := by
  unfold heldState
  simp only
  split
  · exact (tracked.settleKeeping distance progress).frame rfl rfl rfl rfl
  · exact tracked.settleKeeping distance progress

theorem heldState_recorder (distance : Distance) (state : RecordingState) (operation : PreparedRideTransition)
    (progress : WriteProgress) :
    (state.heldState distance operation progress).recorder = (state.settleKeeping distance progress).recorder ∧
      (state.heldState distance operation progress).pendingLocations = state.pendingLocations.drop progress.ready := by
  unfold heldState
  simp only
  split <;> exact ⟨rfl, rfl⟩

/-- A poll keeps the identity of the recording and its lifecycle. -/
theorem settleWrites_frame (rideId : Option Nat) (results : Nat → LocationWriteResult) (ready : List PendingLocation)
    (work : RideMapRecorder × List RideLocationWriteOutcome) :
    (ready.foldl (settleWrite distance rideId results) work).1.state = work.1.state ∧
      (ready.foldl (settleWrite distance rideId results) work).1.recordingGeneration =
        work.1.recordingGeneration := by
  induction ready generalizing work with
  | nil => exact ⟨rfl, rfl⟩
  | cons next ready ih =>
    have first : (settleWrite distance rideId results work next).1.state = work.1.state ∧
        (settleWrite distance rideId results work next).1.recordingGeneration =
          work.1.recordingGeneration := by
      rw [settleWrite_eq]
      split
      · have frame := settled_frame distance work.1 next.admitted
        exact ⟨frame.1, frame.2.1⟩
      · exact ⟨rfl, rfl⟩
    obtain ⟨lifecycle, recording⟩ := ih (settleWrite distance rideId results work next)
    exact ⟨lifecycle.trans first.1, recording.trans first.2⟩

theorem settleKeeping_frame (distance : Distance) (state : RecordingState) (progress : WriteProgress) :
    (state.settleKeeping distance progress).recorder.state = state.recorder.state ∧
      (state.settleKeeping distance progress).recorder.recordingGeneration = state.recorder.recordingGeneration :=
  settleWrites_frame state.rideId progress.results (state.pendingLocations.take progress.ready)
    (state.recorder, state.settledLocations)

theorem Tracked.reopens (tracked : Tracked database state) (opens : state.Reopens progress) :
    Resumable (state.settleKeeping distance progress).recorder (state.pendingLocations.drop progress.ready) := by
  have queued := tracked.queued
  rw [← List.take_append_drop progress.ready state.pendingLocations] at queued
  exact @Resumable.settleWrites _ _ _ _ _ (state.recorder, state.settledLocations) queued opens

/-- Only the resume event makes a paused or interrupted ride active. -/
theorem resume_of_resumes {transition : ValidatedRideTransition} (resumes : transition.resumes = true) :
    transition.event = .resume := by
  obtain ⟨previous, event, next, valid⟩ := transition
  simp only [ValidatedRideTransition.resumes, decide_eq_true_eq] at resumes
  obtain ⟨rfl | rfl, rfl⟩ := resumes
  · cases event <;> first
      | rfl
      | cases valid
  · cases event <;> first
      | rfl
      | cases valid

section Projected
variable (projected : Projected distance database state)
include projected

theorem Projected.finishLifecycle (committed : Option CommittedRide) (inPlace : Bool)
    (publish : RecordingState → RideMapRecorder → RideMapRecorder → RecordingState)
    (published : ∀ recorder admissionRecorder,
      state.pendingCommandId = some operation.id → state.rideId = some operation.rideId →
      state.recorder.state = some operation.transition.previous →
      (∀ ride, committed = some ride → RecordingState.contradicts operation ride = false) →
      Projected distance database (state.heldState distance operation progress) →
      (state.heldState distance operation progress).recorder.applyTransitionAt operation.transition operation.time =
        some recorder →
      (state.heldState distance operation progress).admissionRecorder.applyTransitionAt operation.transition operation.time =
        some admissionRecorder →
      Projected distance database (publish (state.heldState distance operation progress) recorder admissionRecorder)) :
    Projected distance database
      (state.finishLifecycle distance operation committed progress inPlace publish).1 := by
  have held := projected.toTracked.held distance operation progress
  have kept := projected.toTracked.settleKeeping distance progress
  rcases RecordingState.finishLifecycle_cases distance state operation committed progress inPlace publish with
    ⟨-, result⟩ | ⟨-, failed, error, result, source⟩ | ⟨-, staged, recorder, durable, -⟩ |
    ⟨holds, ride, agrees, recorder, admissionRecorder, durable, staged, result⟩
  · rw [result]
    exact projected.toTracked.settle progress
  · rw [result]
    rcases source with ⟨rfl, -⟩ | rfl | rfl
    · exact kept.frame rfl rfl rfl rfl
    · exact kept.frame rfl rfl rfl rfl
    · exact held.frame rfl rfl rfl rfl
  · obtain ⟨admission, known⟩ := held.together.transition durable
    rw [staged] at known
    cases known
  · rw [result]
    have lifecycle : state.recorder.state = some operation.transition.previous := by
      have before := (applyTransitionAt_some durable).1
      rw [(heldState_recorder distance state operation progress).1, (settleKeeping_frame distance state progress).1] at before
      exact before
    exact (published recorder admissionRecorder holds ride lifecycle agrees held durable staged).frame rfl rfl rfl rfl

theorem Projected.publishKept (opens : operation.transition.event = .resume → state.Reopens progress)
    (keeps : operation.transition.event ≠ .discard) {admissionRecorder : RideMapRecorder}
    (held : Projected distance database (state.heldState distance operation progress))
    (durable : (state.heldState distance operation progress).recorder.applyTransitionAt operation.transition
      operation.time = some recorder)
    (staged : (state.heldState distance operation progress).admissionRecorder.applyTransitionAt operation.transition
      operation.time = some admissionRecorder) : Projected distance database
      { state.heldState distance operation progress with recorder, admissionRecorder } := by
  refine held.transitioned durable staged keeps ?_ rfl rfl
  intro resumes
  rw [(heldState_recorder distance state operation progress).1, (heldState_recorder distance state operation progress).2]
  exact projected.toTracked.reopens (opens (resume_of_resumes resumes))

theorem Projected.finishTransition (regular : state.Regular database (.finishTransition operation committed progress)) :
    Projected distance database (state.finishTransition distance database operation committed progress).1 := by
  have published : ∀ checkpoint, (∀ ride, checkpoint = some ride → RecordingState.contradicts operation ride = false →
        database = true → committed = .ok ride) → (database = true → checkpoint.isSome = true) →
      Projected distance database (state.finishLifecycle distance operation checkpoint progress false
        (publishTransition operation)).1 := by
    intro checkpoint answers stored
    apply projected.finishLifecycle
    intro recorder admissionRecorder holds ride lifecycle agrees held durable staged
    obtain ⟨dropped, opens⟩ := regular ⟨holds, ride, lifecycle, fun database => by
      obtain ⟨ride, known⟩ := Option.isSome_iff_exists.mp (stored database)
      exact ⟨ride, answers ride known (agrees ride known) database, agrees ride known⟩⟩
    by_cases discards : operation.transition.event = .discard
    · unfold publishTransition
      rw [discards]
      refine held.discarded durable staged ?_ rfl rfl
      intro pending member
      rw [(heldState_recorder distance state operation progress).2] at member
      have foreign := dropped discards pending member
      unfold RideMapRecorder.Owns at foreign ⊢
      rw [(heldState_recorder distance state operation progress).1, (settleKeeping_frame distance state progress).2]
      exact foreign
    · have kept := projected.publishKept opens discards held durable staged
      unfold publishTransition
      split
      · exact kept.frame rfl rfl rfl rfl
      · exact absurd ‹_› discards
      · exact kept.frame rfl rfl rfl rfl
  unfold RecordingState.finishTransition
  split
  · exact projected.commandStorageError _ _
  · rename_i ride
    apply published
    · rintro _ ⟨⟩ - -
      rfl
    · exact fun _ => rfl
  · apply published
    · rintro _ ⟨⟩
    · intro stored
      cases stored

theorem Projected.finishStopAfterMusic (fenced : Bool) (stops : operation.transition.event = .stop) :
    Projected distance database
      (state.finishStopAfterMusic distance database operation fenced committed progress).1 := by
  have published : ∀ checkpoint, Projected distance database (state.finishLifecycle distance operation checkpoint progress
      true (RecordingState.publishStop operation)).1 := by
    intro checkpoint
    apply projected.finishLifecycle
    intro recorder admissionRecorder _ _ _ _ held durable staged
    have kept := projected.publishKept (by rw [stops]; intro resumes; cases resumes) (by rw [stops]; decide) held durable
      staged
    exact kept.frame rfl rfl rfl rfl
  unfold RecordingState.finishStopAfterMusic
  split
  · exact projected.release _
  · split
    · exact projected.commandStorageError _ _
    · exact published _
    · exact published _

end Projected

theorem observeTelemetry_untimed (recorder : RideMapRecorder) (time : Nat) :
    (recorder.observeTelemetry time).1.untimed = (recorder.untimed.observeTelemetry time).1 ∧
      (recorder.untimed.observeTelemetry time).2 = (recorder.observeTelemetry time).2 := by
  obtain ⟨told, ⟨first, second⟩ | ⟨first, second⟩⟩ := observeTelemetry_alike recorder recorder.untimed time rfl rfl rfl rfl
  · rw [first, second]
    exact ⟨rfl, told⟩
  · rw [first, second]
    exact ⟨rfl, told⟩

theorem observeVehicle_untimed (recorder : RideMapRecorder) (identity : VehicleIdentity) (time : Nat) :
    (recorder.observeVehicle identity time).1.untimed = (recorder.untimed.observeVehicle identity time).1 ∧
      (recorder.untimed.observeVehicle identity time).2 = (recorder.observeVehicle identity time).2 := by
  obtain ⟨told, ⟨first, second⟩ | ⟨first, second⟩⟩ :=
    observeVehicle_alike recorder recorder.untimed identity time rfl rfl rfl rfl
  · rw [first, second]
    exact ⟨rfl, told⟩
  · rw [first, second]
    exact ⟨rfl, told⟩

structure SameRoute (before after : RideMapRecorder) : Prop where
  state : after.state = before.state
  recording : after.recordingGeneration = before.recordingGeneration
  interval : after.activeIntervalGeneration = before.activeIntervalGeneration
  points : after.points = before.points
  segmentId : after.segmentId = before.segmentId
  started : after.segmentStarted = before.segmentStarted

private theorem Queued.sameRoute {before after : RideMapRecorder} (queued : Queued before queue)
    (same : SameRoute before after) : Queued after queue := by
  have owns : ∀ pending, after.Owns pending → before.Owns pending := by
    intro pending owned
    exact same.recording.symm.trans owned
  have last : after.lastPointAt = before.lastPointAt := by
    rw [RideMapRecorder.lastPointAt, same.points]
    rfl
  refine ⟨?_, ?_, ?_, ?_, ?_⟩
  · intro pending member owned
    rw [same.state]
    exact queued.lifecycle pending member (owns pending owned)
  · intro pending member owned
    rw [same.interval]
    exact queued.interval pending member (owns pending owned)
  · intro pending member owned
    rw [last]
    exact queued.behind pending member (owns pending owned)
  · exact queued.ordered.imp fun order first second => order (owns _ first) (owns _ second)
  · intro started pending member owned current
    rw [same.started] at started
    rw [same.interval] at current
    rw [same.segmentId, same.interval]
    obtain ⟨above, later⟩ := queued.segment started pending member (owns pending owned) current
    exact ⟨above, fun stale inside theirs => later stale inside (owns stale theirs)⟩

theorem observeTelemetry_route (recorder : RideMapRecorder) (time : Nat) :
    SameRoute recorder (recorder.observeTelemetry time).1 := by
  unfold RideMapRecorder.observeTelemetry
  split
  · exact ⟨rfl, rfl, rfl, rfl, rfl, rfl⟩
  · split
    · exact ⟨rfl, rfl, rfl, rfl, rfl, rfl⟩
    · split
      · exact ⟨rfl, rfl, rfl, rfl, rfl, rfl⟩
      · split
        · exact ⟨rfl, rfl, rfl, rfl, rfl, rfl⟩
        · split <;> exact ⟨rfl, rfl, rfl, rfl, rfl, rfl⟩

private theorem observeVehicle_route (recorder : RideMapRecorder) (identity : VehicleIdentity) (time : Nat) :
    SameRoute recorder (recorder.observeVehicle identity time).1 := by
  unfold RideMapRecorder.observeVehicle
  split
  · exact ⟨rfl, rfl, rfl, rfl, rfl, rfl⟩
  · split
    · exact ⟨rfl, rfl, rfl, rfl, rfl, rfl⟩
    · split
      · exact ⟨rfl, rfl, rfl, rfl, rfl, rfl⟩
      · split <;> exact ⟨rfl, rfl, rfl, rfl, rfl, rfl⟩

theorem Projected.learned (projected : Projected distance database state)
    (route : SameRoute state.recorder after.recorder)
    (replayed : after.admissionRecorder.untimed = (replay distance after.recorder state.pendingLocations).untimed)
    (pending : after.pendingLocations = state.pendingLocations)
    (generation : after.nextRecordingGeneration = state.nextRecordingGeneration) :
    Projected distance database after := by
  refine ⟨⟨?_, ?_, ?_, ?_, ?_, generation ▸ projected.bounded⟩, ?_⟩
  · rw [pending]
    exact projected.queued.sameRoute route
  · rw [pending]
    exact projected.points
  · rw [route.recording, generation]
    exact projected.drawn
  · rw [pending, generation]
    exact projected.issued
  · rw [pending]
    exact projected.memory
  · rw [pending]
    exact replayed

theorem Projected.observeTelemetry (projected : Projected distance database state) (time : Nat)
    (speed : Option RideVehicleSpeedSample) (verified : Bool) (storage : Option StorageError) :
    Projected distance database (state.observeTelemetry database time speed verified storage).1 := by
  have passes := replay_observeTelemetry distance state.recorder state.pendingLocations time
  have staged : (state.admissionRecorder.observeTelemetry time).1.untimed =
      (replay distance (state.recorder.observeTelemetry time).1 state.pendingLocations).untimed := by
    rw [passes.1, (observeTelemetry_untimed _ time).1, (observeTelemetry_untimed _ time).1, projected.replayed]
  have told : (state.admissionRecorder.observeTelemetry time).2 = (state.recorder.observeTelemetry time).2 := by
    rw [← passes.2, ← (observeTelemetry_untimed state.admissionRecorder time).2, projected.replayed]
    exact (observeTelemetry_untimed _ time).2
  rcases RecordingState.observeTelemetry_cases database state time speed verified storage with
    ⟨error, result⟩ | ⟨recorder, speed, receipt, changed, result, source⟩
  · rw [result]
    exact projected
  · rw [result]
    have same : recorder = (state.recorder.observeTelemetry time).1 := by
      rcases source with same | ⟨old, same⟩
      · exact same
      · rw [told] at old
        rw [same, observeTelemetry_refused old]
    subst same
    exact projected.learned (observeTelemetry_route state.recorder time) staged rfl rfl

theorem Projected.associate (projected : Projected distance database state) (operation : PreparedVerifiedConnection)
    (time : Nat) : Projected distance database (state.associate operation time) := by
  have told : ((replay distance state.recorder state.pendingLocations).observeVehicle operation.vehicle time).2 =
      (state.admissionRecorder.observeVehicle operation.vehicle time).2 := by
    rw [← (observeVehicle_untimed _ operation.vehicle time).2, ← projected.replayed]
    exact (observeVehicle_untimed _ operation.vehicle time).2
  have staged : Projected distance database { state with
      admissionRecorder := (state.admissionRecorder.observeVehicle operation.vehicle time).1
      recorder := if (state.admissionRecorder.observeVehicle operation.vehicle time).2 = .associated then
        (state.recorder.observeVehicle operation.vehicle time).1 else state.recorder } := by
    by_cases associated : (state.admissionRecorder.observeVehicle operation.vehicle time).2 = .associated
    · rw [if_pos associated]
      refine projected.learned (observeVehicle_route state.recorder operation.vehicle time) ?_ rfl rfl
      show (state.admissionRecorder.observeVehicle operation.vehicle time).1.untimed = _
      rw [replay_observeVehicle distance state.recorder state.pendingLocations operation.vehicle time (told.trans associated),
        (observeVehicle_untimed _ operation.vehicle time).1, (observeVehicle_untimed _ operation.vehicle time).1,
        projected.replayed]
    · rw [if_neg associated, observeVehicle_refused associated]
      exact projected
  unfold RecordingState.associate
  simp only
  split
  · exact staged.frame rfl rfl rfl rfl
  · exact staged

end Commands

section Connection
variable {preview planned : AdmissionPreview}
variable {time : Nat}

def AdmissionPreview.Draws (preview planned : AdmissionPreview) : Prop :=
  preview.nextRecordingGeneration ≤ planned.nextRecordingGeneration ∧
    (preview.nextRecordingGeneration ≤ u64Max → planned.nextRecordingGeneration ≤ u64Max)

theorem AdmissionPreview.Draws.refl (preview : AdmissionPreview) : preview.Draws preview := ⟨Nat.le_refl _, id⟩

theorem AdmissionPreview.Draws.trans {first second third : AdmissionPreview} (before : first.Draws second)
    (after : second.Draws third) : first.Draws third :=
  ⟨before.1.trans after.1, fun bounded => after.2 (before.2 bounded)⟩

theorem preview_transition_draws {event : RideEvent} {keeps : event ≠ .discard}
    (done : preview.transition event keeps time = .ok planned) : preview.Draws planned := by
  unfold AdmissionPreview.transition at done
  split at done
  · split at done
    · cases done
    · simp only at done
      split at done
      · cases done
        exact AdmissionPreview.Draws.refl _
      · cases done
  · cases done

private theorem preview_startLive_draws {vehicle : VehicleIdentity} (done : preview.startLive time vehicle = .ok planned) :
    preview.Draws planned := by
  unfold AdmissionPreview.startLive at done
  simp only at done
  split at done
  · cases done
  · rename_i recorder start
    cases done
    have drawn := (start_generation start).1
    split at drawn
    · rename_i small
      exact ⟨Nat.le_succ _, fun _ => small⟩
    · cases drawn

private theorem draws_of_ite {condition : Prop} [Decidable condition] {step : Except RideRecordingError AdmissionPreview}
    (draws : ∀ planned, step = .ok planned → preview.Draws planned)
    (done : (if condition then step else pure preview) = .ok planned) : preview.Draws planned := by
  split at done
  · exact draws planned done
  · cases done
    exact AdmissionPreview.Draws.refl _

private theorem planAutoRecording_draws {vehicle : VehicleIdentity} {wallClock : Nat}
    (done : preview.planAutoRecording vehicle time wallClock = .ok planned) : preview.Draws planned := by
  have start : ∀ {first second : AdmissionPreview},
      (if first.recorder.state.all RideLifecycleState.allowsAutoRecordingReplacement = true then
        first.startLive time vehicle else pure first) = .ok second → first.Draws second :=
    fun done => draws_of_ite (fun _ => preview_startLive_draws) done
  have resume : ∀ {first second : AdmissionPreview},
      (if first.resumable vehicle wallClock = true then do
          let resumed ← first.transition .resume (by decide) time
          if resumed.recorder.state.all RideLifecycleState.allowsAutoRecordingReplacement = true then
            resumed.startLive time vehicle else pure resumed
        else if first.recorder.state.all RideLifecycleState.allowsAutoRecordingReplacement = true then
          first.startLive time vehicle else pure first) = .ok second → first.Draws second := by
    intro first second done
    split at done
    · obtain ⟨resumed, resumes, done⟩ := ok_bind done
      exact (preview_transition_draws resumes).trans (start done)
    · exact start done
  simp only [AdmissionPreview.planAutoRecording, pure_bind] at done
  split at done
  · obtain ⟨stopped, stops, done⟩ := ok_bind done
    obtain ⟨saved, saves, done⟩ := ok_bind done
    exact ((preview_transition_draws stops).trans (preview_transition_draws saves)).trans (resume done)
  · exact resume done

theorem Projected.beginVerifiedConnection (projected : Projected distance database state) (vehicle : VehicleIdentity)
    (time connectionGeneration wallClock : Nat) (automatic : Except StorageError Bool) (queued : Option StorageError) :
    Projected distance database
      (state.beginVerifiedConnection database vehicle time connectionGeneration wallClock automatic queued).1 := by
  unfold RecordingState.beginVerifiedConnection
  split
  · exact projected
  · split
    · exact projected
    · split
      · exact projected
      · split
        · exact projected
        · simp only
          split
          · exact projected
          · rename_i planned done
            have draws : AdmissionPreview.Draws ⟨state.recorder, state.admissionRecorder, state.rideId,
                state.monotonicEpochOffset, state.recoverableUpdatedAt, state.nextRecordingGeneration, []⟩ planned := by
              split at done
              · cases done
                exact AdmissionPreview.Draws.refl _
              · split at done
                · cases done
                · split at done
                  · exact planAutoRecording_draws done
                  · cases done
                    exact AdmissionPreview.Draws.refl _
            have bounded := draws.2 projected.bounded
            split
            · exact projected.drawing rfl rfl rfl draws.1 bounded
            · exact projected.drawing rfl rfl rfl draws.1 bounded

/-- Both ways out of an operation that keeps the state it failed in. -/
def Leaves (holds : RecordingState → Prop) : Except (RecordingState × RideRecordingError) RecordingState → Prop
  | .ok state => holds state
  | .error (state, _) => holds state

theorem Resumable.moved {recorder : RideMapRecorder} (resumable : Resumable recorder queue)
    (transition : ValidatedRideTransition) (time : Nat) : Resumable (recorder.moved transition time) queue := by
  rcases resumable with started | points | foreign
  · refine .inl ?_
    simp only [RideMapRecorder.moved, started, Bool.true_or]
  · exact .inr (.inl points)
  · exact .inr (.inr foreign)

section Projected
variable (projected : Projected distance database state)
include projected

theorem Projected.applyTransitionMutation {event : RideEvent} (keeps : event ≠ .discard) (time : Nat)
    (resumable : event = .resume → Resumable state.recorder state.pendingLocations) :
    Leaves (Projected distance database) (state.applyTransitionMutation event time) ∧
      ∀ done, state.applyTransitionMutation event time = .ok done → done.pendingLocations = state.pendingLocations ∧
        (Resumable state.recorder state.pendingLocations → Resumable done.recorder done.pendingLocations) := by
  unfold RecordingState.applyTransitionMutation
  split
  · exact ⟨projected, fun _ done => by cases done⟩
  · split
    · exact ⟨projected, fun _ done => by cases done⟩
    · rename_i transition valid
      have same : transition.event = event := (RecordingState.transition_event valid).2
      split
      · exact ⟨projected, fun _ done => by cases done⟩
      · rename_i recorder durable
        simp only
        split
        · rename_i staged
          obtain ⟨admission, known⟩ := projected.together.transition durable
          rw [staged] at known
          cases known
        · rename_i admission staged
          constructor
          · refine projected.transitioned durable staged (by rw [same]; exact keeps) ?_ rfl rfl
            intro resumes
            exact resumable (same.symm.trans (resume_of_resumes resumes))
          · rintro _ ⟨⟩
            refine ⟨rfl, fun open' => ?_⟩
            have moved := (applyTransitionAt_some durable).2
            have untimed : Resumable recorder.untimed state.pendingLocations := by
              rw [moved]
              exact @Resumable.moved _ state.recorder.untimed open' transition time
            exact untimed

theorem Projected.applyStartMutation (outcome : VerifiedConnectionOutcome) (freshRideId time : Nat)
    (vehicle : VehicleIdentity) :
    Leaves (Projected distance database) (state.applyStartMutation database outcome freshRideId time vehicle) ∧
      ∀ done, state.applyStartMutation database outcome freshRideId time vehicle = .ok done →
        Resumable done.recorder done.pendingLocations := by
  unfold RecordingState.applyStartMutation
  split
  · exact ⟨projected, fun _ done => by cases done⟩
  · simp only
    split
    · exact ⟨projected, fun _ done => by cases done⟩
    · split
      · exact ⟨projected, fun _ done => by cases done⟩
      · rename_i recorder start
        constructor
        · exact (projected.toTracked.publishStart start (outcome.createdRideId.getD freshRideId)).frame rfl rfl rfl rfl
        · rintro _ ⟨⟩
          refine .inl ?_
          unfold RideMapRecorder.start at start
          simp only at start
          split at start
          · cases start
            rfl
          · cases start

theorem Projected.applyMutations (outcome : VerifiedConnectionOutcome) (freshRideId : Nat)
    (mutations : List LifecycleMutation)
    (resumable : (∃ keeps time, LifecycleMutation.transition .resume keeps time ∈ mutations) →
      Resumable state.recorder state.pendingLocations) :
    Leaves (Projected distance database) (applyMutations database outcome freshRideId state mutations) := by
  induction mutations generalizing state with
  | nil => exact projected
  | cons mutation mutations ih =>
    cases mutation with
    | transition event keeps time =>
      obtain ⟨leaves, after⟩ := projected.applyTransitionMutation keeps time (by
        rintro rfl
        exact resumable ⟨keeps, time, List.mem_cons_self⟩)
      unfold applyMutations
      split
      · rename_i failed
        rw [failed] at leaves
        exact leaves
      · rename_i done applied
        rw [applied] at leaves
        apply ih leaves
        rintro ⟨keeps, time, member⟩
        exact (after done applied).2 (resumable ⟨keeps, time, List.mem_cons_of_mem _ member⟩)
    | startLive time vehicle =>
      obtain ⟨leaves, after⟩ := projected.applyStartMutation outcome freshRideId time vehicle
      unfold applyMutations
      split
      · rename_i failed
        rw [failed] at leaves
        exact leaves
      · rename_i done applied
        rw [applied] at leaves
        exact ih leaves fun _ => after done applied

theorem Projected.applyReceipt (operation : PreparedVerifiedConnection) (outcome : VerifiedConnectionOutcome)
    (freshRideId : Nat)
    (resumable : (∃ keeps time, LifecycleMutation.transition .resume keeps time ∈ operation.mutations) →
      Resumable state.recorder state.pendingLocations) :
    Leaves (Projected distance database) (state.applyReceipt database operation outcome freshRideId) := by
  have mutated := projected.applyMutations outcome freshRideId operation.mutations resumable
  unfold RecordingState.applyReceipt
  split
  · exact projected
  · split
    · rename_i failed error known
      rw [known] at mutated
      show Projected distance database (if database = true then failed.requireRecovery else failed)
      split
      · exact .frame mutated rfl rfl rfl rfl
      · exact mutated
    · rename_i done known
      rw [known] at mutated
      have offset : Projected distance database { done with monotonicEpochOffset := operation.monotonicEpochOffset } :=
        Projected.frame mutated rfl rfl rfl rfl
      simp only
      split
      · split
        · exact offset.frame rfl rfl rfl rfl
        · exact offset
      · split
        · exact offset.frame rfl rfl rfl rfl
        · exact offset.frame rfl rfl rfl rfl

theorem Projected.finishVerifiedConnection {operation : PreparedVerifiedConnection}
    {receipt : Except StorageError VerifiedConnectionOutcome} {freshRideId : Nat} {progress : WriteProgress}
    (regular : state.Regular database (.finishVerifiedConnection operation receipt freshRideId progress)) :
    Projected distance database
      (state.finishVerifiedConnection distance database operation receipt freshRideId progress).1 := by
  have kept := projected.toTracked.settleKeeping distance progress
  have opens : (∃ keeps time, .transition .resume keeps time ∈ operation.mutations) →
      Resumable (state.settleKeeping distance progress).recorder (state.settleKeeping distance progress).pendingLocations :=
    fun resumes => projected.toTracked.reopens (regular resumes)
  unfold RecordingState.finishVerifiedConnection
  split
  · exact projected.commandStorageError _ _
  · simp only
    split
    · exact kept
    · split
      · rename_i failed error known
        have applied : Leaves (Projected distance database) (.error (failed, error)) :=
          known ▸ kept.applyReceipt operation _ freshRideId opens
        exact .release applied operation.id
      · rename_i done known
        have applied : Leaves (Projected distance database) (.ok done) :=
          known ▸ kept.applyReceipt operation _ freshRideId opens
        have finished : Projected distance database { done with
            lastConnectionAdmissionGeneration := some operation.connectionGeneration
            pendingCommandId := none } := Projected.frame applied rfl rfl rfl rfl
        split
        · exact finished.associate operation _
        · exact finished

end Projected

end Connection

section Runs

theorem Projected.refuses (projected : Projected distance database state) {result : RecordingState × RideOutput}
    (refuses : state.Refuses result) : Projected distance database result.1 := by
  obtain ⟨error, rfl | rfl⟩ := refuses
  · exact projected
  · exact projected.frame rfl rfl rfl rfl

/-- Every regular call keeps the admission recorder the replay of the queue. -/
theorem Projected.step (projected : Projected distance database state) {call : RideCall}
    (regular : state.Regular database call) : Projected distance database (state.step distance database call).1 := by
  cases call with
  | beginRestore queued =>
    rcases RecordingState.beginRestore_cases database state queued with refuses | ⟨-, result⟩
    · exact projected.refuses refuses
    · rw [RecordingState.step, result]
      exact projected.frame rfl rfl rfl rfl
  | finishRestore id snapshot => exact projected.finishRestore id snapshot
  | finishRestoreWithPolicy id restored policy storage =>
    have kept := projected.finishRestoreWithPolicy id restored policy storage
    rw [RecordingState.step]
    split
    · rename_i finished
      rwa [finished] at kept
    · rename_i failed
      rwa [failed] at kept
  | beginStart time candidateVehicle queued =>
    rcases RecordingState.beginStart_cases database state time candidateVehicle queued with refuses | ⟨-, -, result⟩
    · exact projected.refuses refuses
    · rw [RecordingState.step, result]
      exact projected.frame rfl rfl rfl rfl
  | finishStart operation committed freshRideId => exact projected.finishStart operation committed freshRideId
  | beginTransition token event time lastTelemetryAt queued =>
    rcases RecordingState.beginTransition_cases database state token event time lastTelemetryAt queued with
      refuses | ⟨-, -, operation, -, result⟩
    · exact projected.refuses refuses
    · rw [RecordingState.step, result]
      exact projected.frame rfl rfl rfl rfl
  | finishTransition operation committed progress => exact projected.finishTransition regular
  | beginStopAfterMusic token time lastTelemetryAt =>
    rcases RecordingState.beginStopAfterMusic_cases state token time lastTelemetryAt with
      refuses | ⟨-, -, operation, -, result⟩
    · exact projected.refuses refuses
    · rw [RecordingState.step, result]
      exact projected.frame rfl rfl rfl rfl
  | finishStopAfterMusic operation stops fenced committed progress => exact projected.finishStopAfterMusic fenced stops
  | dropCommand id => exact projected.release id
  | admitLocation sample storage => exact projected.admitLocation regular
  | pollLocationWrites progress => exact projected.toTracked.settle progress
  | checkpointLocationWrites barrier progress =>
    show Projected distance database (state.checkpointLocationWrites distance database barrier progress).1
    unfold RecordingState.checkpointLocationWrites
    split
    · exact projected
    · exact projected.toTracked.settle _
  | observeTelemetry time speed verified storage => exact projected.observeTelemetry time speed verified storage
  | observeVerifiedVehicleSpeed millimetresPerSecond sourceAt receiptAt generation =>
    show Projected distance database
      (state.observeVerifiedVehicleSpeed millimetresPerSecond sourceAt receiptAt generation)
    unfold RecordingState.observeVerifiedVehicleSpeed
    split
    · split
      · exact projected
      · exact projected.frame rfl rfl rfl rfl
    · exact projected
  | restoreMotion motion => exact projected.frame rfl rfl rfl rfl
  | beginVerifiedConnection vehicle time connectionGeneration wallClock automatic queued =>
    exact projected.beginVerifiedConnection vehicle time connectionGeneration wallClock automatic queued
  | finishVerifiedConnection operation receipt freshRideId progress => exact projected.finishVerifiedConnection regular

private theorem projected_new (distance : Distance) (database : Bool) : Projected distance database (.new database) where
  queued := Queued.of_foreign fun _ member => absurd member List.not_mem_nil
  points _ member := absurd member List.not_mem_nil
  drawn _ known := by cases known
  issued _ member := absurd member List.not_mem_nil
  memory _ := rfl
  bounded := by
    show 1 ≤ u64Max
    decide
  replayed := rfl

structure SameProjection (first second : RideMapRecorder) : Prop where
  points : first.points = second.points
  summary : first.summary = second.summary
  segmentId : first.segmentId = second.segmentId
  segmentStarted : first.segmentStarted = second.segmentStarted
  latestObservation : first.latestLocationObservation = second.latestLocationObservation
  stationaryBoundary : first.stationaryBoundaryAt = second.stationaryBoundaryAt
  lifecycle : first.state = second.state

theorem SameProjection.of_untimed {first second : RideMapRecorder} (same : first.untimed = second.untimed) :
    SameProjection first second := by
  obtain ⟨state, -, -, -, -, -, -, -, latest, boundary, points, summary, segmentId, started, -⟩ := untimed_fields same
  exact ⟨points, summary, segmentId, started, latest, boundary, state⟩

private theorem projected_run {calls : List RideCall}
    (regular : ∀ here ∈ Runs.history (RecordingState.step distance database) (.new database) calls,
      here.before.Regular database here.input) :
    Projected distance database (Runs.final (RecordingState.step distance database) (.new database) calls) := by
  refine Runs.induction_on (P := fun past state => (∀ here ∈ past, here.before.Regular database here.input) →
    Projected distance database state) (fun _ => projected_new distance database) ?_ calls regular
  intro past state call before regular
  have kept := before fun here member => regular here (List.mem_append_left _ member)
  exact kept.step (regular (Runs.take _ state call) (List.mem_append_right _ List.mem_cons_self))

/-- Along every run of regular calls the admission recorder shows what the durable one will show when the queue has
settled; a queued write settles as the point that the database was handed; and with an empty queue both agree. -/
theorem admission_recorder_replays_queue (distance : Distance) (database : Bool) (calls : List RideCall)
    (regular : ∀ here ∈ Runs.history (RecordingState.step distance database) (.new database) calls,
      here.before.Regular database here.input) :
    let state := Runs.final (RecordingState.step distance database) (.new database) calls
    SameProjection state.admissionRecorder (replay distance state.recorder state.pendingLocations) ∧
      (∀ pending ∈ state.pendingLocations, ∀ recorder recorded,
        RideMapRecorder.recordAdmittedSample distance recorder pending.admitted = some recorded →
          recorded.points.getLast? = some pending.point) ∧
      (state.pendingLocations = [] → SameProjection state.admissionRecorder state.recorder) := by
  intro state
  have projected : Projected distance database state := projected_run regular
  refine ⟨.of_untimed projected.replayed, ?_, ?_⟩
  · intro pending member recorder recorded settles
    unfold RideMapRecorder.recordAdmittedSample at settles
    split at settles
    · cases settles
      rw [projected.points pending member]
      exact recorded_getLast distance recorder pending.admitted
    · cases settles
  · intro empty
    apply SameProjection.of_untimed
    rw [projected.replayed, empty]
    rfl

def liveFix (time accuracy : Nat) : LocationSample := ⟨⟨0, 0⟩, time, time, some accuracy, .live⟩

def level : Distance := fun _ _ => 0

def startedCalls : List RideCall :=
  [.beginRestore none, .finishRestore 1 (.ok none), .beginStart 0 none none,
    .finishStart ⟨2, 0, none⟩ (.ok ⟨7, .active⟩) 0]

theorem active_pauses : RideLifecycleState.active.apply .pause = some .paused := rfl

theorem paused_resumes : RideLifecycleState.paused.apply .resume = some .active := rfl

/-- One ride is discarded. The next one resumes, its wheel stops and moves on, and a fix is left in the queue. -/
def resumedCalls : List RideCall :=
  let wheel : VehicleIdentity := ⟨"wheel", by decide⟩
  let accepted (ready : Nat) : WriteProgress := ⟨ready, fun _ => .settled .accepted⟩
  startedCalls ++
    [.admitLocation (liveFix 10 5) {}, .beginTransition ⟨7, 2⟩ .discard 12 none none,
      .finishTransition ⟨3, 7, ⟨.active, .discard, .discarded, rfl⟩, 12, 0, none⟩ (.ok ⟨7, .discarded⟩) (accepted 1),
      .beginStart 20 none none, .finishStart ⟨4, 20, none⟩ (.ok ⟨8, .active⟩) 0,
      .beginVerifiedConnection wheel 21 1 0 (.ok false) none,
      .finishVerifiedConnection ⟨5, [], 0, wheel, 1, 21, 21⟩ (.ok ⟨none, none, false⟩) 0 (accepted 0),
      .admitLocation (liveFix 30 5) {}, .beginTransition ⟨8, 4⟩ .pause 31 none none,
      .finishTransition ⟨6, 8, ⟨.active, .pause, .paused, active_pauses⟩, 31, 0, none⟩ (.ok ⟨8, .paused⟩) (accepted 1),
      .beginTransition ⟨8, 5⟩ .resume 32 none none,
      .finishTransition ⟨7, 8, ⟨.paused, .resume, .active, paused_resumes⟩, 32, 0, none⟩ (.ok ⟨8, .active⟩) (accepted 0),
      .observeTelemetry 33 (some ⟨0, 33⟩) true none, .observeTelemetry 35 (some ⟨2000, 34⟩) true none,
      .admitLocation (liveFix 40 5) {}]

theorem queued_fix_is_projected :
    let state := Runs.final (RecordingState.step level true) (.new true) resumedCalls
    state.recorder.stationaryBoundaryAt = some 33 ∧ state.recorder.points.map RideMapPoint.segmentId = [0] ∧
      state.admissionRecorder.points.map RideMapPoint.segmentId = [0, 1] ∧
      SameProjection state.admissionRecorder (replay level state.recorder state.pendingLocations) := by
  refine ⟨by decide +kernel, by decide +kernel, by decide +kernel, ?_⟩
  exact (admission_recorder_replays_queue level true resumedCalls (by decide +kernel)).1

/-- The wheel stands still at the very time of the queued fix; a later fix that is too inaccurate to be admitted
brings that stop to both recorders, but only the durable one takes it. -/
def stoppedAtFixCalls : List RideCall :=
  let wheel : VehicleIdentity := ⟨"wheel", by decide⟩
  startedCalls ++
    [.beginVerifiedConnection wheel 1 1 0 (.ok false) none,
      .finishVerifiedConnection ⟨3, [], 0, wheel, 1, 1, 1⟩ (.ok ⟨none, none, false⟩) 0 ⟨0, fun _ => .settled .accepted⟩,
      .admitLocation (liveFix 10 5) {},
      .observeTelemetry 11 (some ⟨0, 10⟩) true none,
      .observeTelemetry 13 (some ⟨2000, 12⟩) true none,
      .admitLocation (liveFix 13 200000) {}]

theorem stop_at_queued_fix_splits_projection :
    let state := Runs.final (RecordingState.step level true) (.new true) stoppedAtFixCalls
    ¬SameProjection state.admissionRecorder (replay level state.recorder state.pendingLocations) := by
  intro state same
  have apart : state.admissionRecorder.stationaryBoundaryAt = none ∧
      (replay level state.recorder state.pendingLocations).stationaryBoundaryAt = some 10 := by decide
  have boundary := same.stationaryBoundary
  rw [apart.1, apart.2] at boundary
  cases boundary

end Runs

end Cutout.Rides

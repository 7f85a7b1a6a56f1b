import Cutout.Proofs.RideProjection

/-! Where the points of a route come from. A poll settles what earlier calls queued, so
a route grows by fixes that some call admitted; whether the ride was active at that
call is left to the caller, and the theorem says for which runs it was. -/

namespace Cutout.Rides
open Library
open Protocols (saturatingAdd u64Max)
open RecordingState (settled replay)
variable {admitted : AdmittedLocationSample} {recorder : RideMapRecorder}
variable {observation : LocationObservation} {observed : RideMapRecorder}

abbrev Route := List RideMapPoint × RideSummary

def RideMapRecorder.route (recorder : RideMapRecorder) : Route := (recorder.points, recorder.summary)

def Route.extend (distance : Distance) (route : Route) (admitted : AdmittedLocationSample) : Route :=
  let added := match route.1.getLast? with
    | some previous =>
      if previous.segmentId = admitted.point.segmentId then
        distance previous.sample.coordinate admitted.point.sample.coordinate
      else 0
    | none => 0
  (RideMapRecorder.pushPoint route.1 admitted.point,
    ⟨saturatingAdd route.2.pointCount 1, saturatingAdd route.2.distance added⟩)

theorem recorded_route (distance : Distance) (recorder : RideMapRecorder) (admitted : AdmittedLocationSample) :
    (recorder.recorded distance admitted).route = recorder.route.extend distance admitted := by
  cases last : recorder.points.getLast? with
  | none => simp only [RideMapRecorder.route, RideMapRecorder.recorded, Route.extend, RideMapRecorder.addedDistance, last]
  | some previous =>
    simp only [RideMapRecorder.route, RideMapRecorder.recorded, Route.extend, RideMapRecorder.addedDistance, last]

def Grows (distance : Distance) (kind : AdmittedLocationSample → Prop) (before after : Route) : Prop :=
  ∃ added : List AdmittedLocationSample, (∀ admitted ∈ added, kind admitted) ∧
    after = added.foldl (Route.extend distance) before

variable {distance : Distance} {database : Bool} {state : RecordingState} {kind : AdmittedLocationSample → Prop}

theorem Grows.refl (distance : Distance) (kind : AdmittedLocationSample → Prop) (route : Route) :
    Grows distance kind route route := ⟨[], by simp, rfl⟩

theorem Grows.one {route : Route} (known : kind admitted) :
    Grows distance kind route (route.extend distance admitted) := ⟨[admitted], by simpa using known, rfl⟩

theorem Grows.trans {first second third : Route} (before : Grows distance kind first second)
    (after : Grows distance kind second third) : Grows distance kind first third := by
  obtain ⟨early, known, rfl⟩ := before
  obtain ⟨late, also, rfl⟩ := after
  refine ⟨early ++ late, ?_, (List.foldl_append ..).symm⟩
  intro admitted member
  rcases List.mem_append.mp member with inside | inside
  · exact known admitted inside
  · exact also admitted inside

theorem Grows.settled (recorder : RideMapRecorder) (known : kind admitted) :
    Grows distance kind recorder.route (settled distance recorder admitted).route := by
  rw [settled_eq]
  split
  · rw [recorded_route]
    exact .one known
  · exact .refl _ _ _

private theorem Grows.settleReady (known : ∀ pending ∈ state.pendingLocations, kind pending.admitted) (progress : WriteProgress) :
    Grows distance kind state.recorder.route (state.settleReadyLocationWrites distance progress).1.recorder.route := by
  have settles : ∀ (ready : List PendingLocation) (work : RideMapRecorder × List RideLocationWriteOutcome),
      (∀ pending ∈ ready, kind pending.admitted) → Grows distance kind work.1.route
        (ready.foldl (RecordingState.settleWrite distance state.rideId progress.results) work).1.route := by
    intro ready
    induction ready with
    | nil => exact fun work _ => Grows.refl _ _ _
    | cons next ready ih =>
      intro work known
      have first : Grows distance kind work.1.route
          (RecordingState.settleWrite distance state.rideId progress.results work next).1.route := by
        rw [settleWrite_eq]
        split
        · exact .settled work.1 (known next List.mem_cons_self)
        · exact .refl _ _ _
      exact first.trans (ih _ fun pending member => known pending (List.mem_cons_of_mem _ member))
  exact settles _ (state.recorder, state.settledLocations) fun pending member =>
    known pending (List.mem_of_mem_take member)

theorem mark_route (recorder : RideMapRecorder) (time : Nat) :
    (recorder.markStationaryBoundary time).route = recorder.route := by
  unfold RideMapRecorder.markStationaryBoundary
  split
  · rfl
  · split <;> rfl

private theorem observeStationary_route (accepted : recorder.observeStationary distance observation = some observed) :
    observed.route = recorder.route := by
  unfold RideMapRecorder.observeStationary at accepted
  split at accepted
  · cases accepted
  · cases accepted
    exact mark_route _ _

private theorem observeClockOnly_route (accepted : recorder.observeClockOnly distance observation = some observed) :
    observed.route = recorder.route := by
  unfold RideMapRecorder.observeClockOnly at accepted
  split at accepted
  · cases accepted
  · split at accepted
    · cases accepted
      rfl
    · cases accepted

theorem applyTransitionAt_route {after : RideMapRecorder} {transition : ValidatedRideTransition} {time : Nat}
    (applied : recorder.applyTransitionAt transition time = some after) : after.route = recorder.route := by
  have same := congrArg RideMapRecorder.route (applyTransitionAt_some applied).2
  exact same

theorem start_route {started : RideMapRecorder} {time : Nat} {vehicle : Option VehicleIdentity}
    {generation : Option Nat} (start : recorder.start time vehicle generation = some started) :
    started.route = ([], ⟨0, 0⟩) := by
  unfold RideMapRecorder.start at start
  simp only at start
  split at start
  · cases start
    rfl
  · cases start

/-- What one call does to the route and to the queue: a fix that it admits is of the given kind, everything else
was queued before. -/
structure Follows (distance : Distance) (kind : AdmittedLocationSample → Prop) (before after : RecordingState)
    (restored : Route → Prop) : Prop where
  route : ∃ base, (base = before.recorder.route ∨ base = ([], ⟨0, 0⟩) ∨ restored base) ∧
    Grows distance kind base after.recorder.route
  queue : ∀ pending ∈ after.pendingLocations, kind pending.admitted

section Steps
variable {restored : Route → Prop} {after : RecordingState}

section Known
variable (known : ∀ pending ∈ state.pendingLocations, kind pending.admitted)
include known

theorem Follows.same (route : after.recorder.route = state.recorder.route)
    (pending : after.pendingLocations = state.pendingLocations) : Follows distance kind state after restored :=
  ⟨⟨state.recorder.route, .inl rfl, route ▸ Grows.refl _ _ _⟩, by rw [pending]; exact known⟩

theorem Follows.polled (progress : WriteProgress)
    (route : after.recorder.route = (state.settleReadyLocationWrites distance progress).1.recorder.route)
    (pending : ∀ pending ∈ after.pendingLocations, pending ∈ state.pendingLocations) :
    Follows distance kind state after restored :=
  ⟨⟨state.recorder.route, .inl rfl, route ▸ Grows.settleReady known progress⟩, fun other member =>
    known other (pending other member)⟩

theorem Follows.fresh (route : after.recorder.route = ([], ⟨0, 0⟩))
    (pending : ∀ pending ∈ after.pendingLocations, pending ∈ state.pendingLocations) :
    Follows distance kind state after restored :=
  ⟨⟨_, .inr (.inl rfl), route ▸ Grows.refl _ _ _⟩, fun other member => known other (pending other member)⟩

end Known

theorem release_route (state : RecordingState) (id : Nat) :
    (state.release id).recorder.route = state.recorder.route ∧
      (state.release id).pendingLocations = state.pendingLocations := by
  unfold RecordingState.release
  split <;> exact ⟨rfl, rfl⟩

theorem commandStorageError_route (state : RecordingState) (id : Nat) (error : StorageError) :
    (state.commandStorageError id error).1.recorder.route = state.recorder.route ∧
      (state.commandStorageError id error).1.pendingLocations = state.pendingLocations := by
  unfold RecordingState.commandStorageError
  split
  · cases error <;> exact ⟨rfl, rfl⟩
  · exact ⟨rfl, rfl⟩

private theorem markStationary_route (state : RecordingState) (sample : LocationSample) :
    (state.markStationary sample).recorder.route = state.recorder.route ∧
      (state.markStationary sample).pendingLocations = state.pendingLocations := by
  rw [markStationary_eq]
  split
  · exact ⟨mark_route _ _, rfl⟩
  · exact ⟨rfl, rfl⟩

private theorem restoreStationaryObservation_route (recorder : RideMapRecorder) (sample : LocationSample) :
    (recorder.restoreStationaryObservation sample).route = recorder.route := by
  unfold RideMapRecorder.restoreStationaryObservation
  split
  · rfl
  · exact mark_route _ _

private theorem restoreLocationObservation_route (recorder : RideMapRecorder) (time wallClock : Nat) :
    (recorder.restoreLocationObservation time wallClock).route = recorder.route := by
  unfold RideMapRecorder.restoreLocationObservation
  split
  · rfl
  · split <;> rfl

/-- The route that a restoration projects: the tail of the stored one, with the stored summary. -/
def RestoredRide.route (ride : RestoredRide) : Route :=
  (ride.routePoints.drop (ride.routePoints.length - maxLiveRoutePoints), ride.summary)

private theorem restored_route (lifecycle : RideLifecycleState) (createdAt : Nat) (metadata : RideMapMetadata)
    (points : List RideMapPoint) (summary : RideSummary) (timing : RideRecordingTiming) (generation : Option Nat) :
    (RideMapRecorder.restored lifecycle createdAt metadata points summary timing generation).route =
      (points.drop (points.length - maxLiveRoutePoints), summary) := by
  simp only [RideMapRecorder.route, RideMapRecorder.restored]

theorem restoredRecorder_route (ride : RestoredRide) (generation : Option Nat) :
    (RecordingState.restoredRecorder ride generation).route = ride.route := by
  have same := observed_same RideMapRecorder.route mark_route restoreStationaryObservation_route
    restoreLocationObservation_route
  exact (same _ _ _ _).trans (restored_route _ _ _ _ _ _ _)

theorem Follows.finishLifecycle (known : ∀ pending ∈ state.pendingLocations, kind pending.admitted)
    {operation : PreparedRideTransition} {committed : Option CommittedRide} {progress : WriteProgress} {inPlace : Bool}
    {publish : RecordingState → RideMapRecorder → RideMapRecorder → RecordingState}
    (published : ∀ held recorder admissionRecorder, (publish held recorder admissionRecorder).recorder = recorder ∧
      ∀ pending ∈ (publish held recorder admissionRecorder).pendingLocations, pending ∈ held.pendingLocations) :
    Follows distance kind state (state.finishLifecycle distance operation committed progress inPlace publish).1
      restored := by
  have held := heldState_recorder distance state operation progress
  have dropped : ∀ pending ∈ state.pendingLocations.drop progress.ready, pending ∈ state.pendingLocations :=
    fun pending member => List.mem_of_mem_drop member
  rcases RecordingState.finishLifecycle_cases distance state operation committed progress inPlace publish with
    ⟨-, result⟩ | ⟨-, failed, error, result, source⟩ | ⟨-, -, recorder, durable, result⟩ |
    ⟨-, -, -, recorder, admissionRecorder, durable, -, result⟩
  · rw [result]
    exact .polled known progress rfl dropped
  · rw [result]
    rcases source with ⟨rfl, -⟩ | rfl | rfl
    · exact .polled known progress rfl dropped
    · exact .polled known progress rfl dropped
    · refine .polled known progress (congrArg RideMapRecorder.route held.1) ?_
      exact fun pending member => dropped pending (held.2 ▸ member)
  · rw [result]
    refine .polled known progress ?_ fun pending member => dropped pending ?_
    · cases inPlace with
      | false => exact congrArg RideMapRecorder.route held.1
      | true => exact (applyTransitionAt_route durable).trans (congrArg RideMapRecorder.route held.1)
    · cases inPlace <;> exact held.2 ▸ member
  · rw [result]
    obtain ⟨same, kept⟩ := published (state.heldState distance operation progress) recorder admissionRecorder
    refine .polled known progress ?_ fun pending member => dropped pending (held.2 ▸ kept pending member)
    show (publish _ recorder admissionRecorder).recorder.route = _
    rw [same]
    exact (applyTransitionAt_route durable).trans (congrArg RideMapRecorder.route held.1)

theorem publishTransition_queue (operation : PreparedRideTransition) (held : RecordingState)
    (recorder admissionRecorder : RideMapRecorder) :
    (RecordingState.publishTransition operation held recorder admissionRecorder).recorder = recorder ∧
      ∀ pending ∈ (RecordingState.publishTransition operation held recorder admissionRecorder).pendingLocations,
        pending ∈ held.pendingLocations := by
  unfold RecordingState.publishTransition
  split
  · exact ⟨rfl, fun _ member => member⟩
  · exact ⟨rfl, fun _ member => absurd member List.not_mem_nil⟩
  · exact ⟨rfl, fun _ member => member⟩

def Moves (before after : RecordingState) : Prop :=
  (after.recorder.route = before.recorder.route ∨ after.recorder.route = ([], ⟨0, 0⟩)) ∧
    after.pendingLocations = before.pendingLocations

theorem Moves.trans {first second third : RecordingState} (before : Moves first second) (after : Moves second third) :
    Moves first third := by
  refine ⟨?_, after.2.trans before.2⟩
  rcases after.1 with same | fresh
  · rw [same]
    exact before.1
  · exact .inr fresh

private theorem applyTransitionMutation_moves (state : RecordingState) (event : RideEvent) (time : Nat) :
    Leaves (Moves state) (state.applyTransitionMutation event time) := by
  have stays : Moves state state := ⟨.inl rfl, rfl⟩
  unfold RecordingState.applyTransitionMutation
  split
  · exact stays
  · split
    · exact stays
    · split
      · exact stays
      · rename_i recorder durable
        simp only
        split
        · exact ⟨.inl (applyTransitionAt_route durable), rfl⟩
        · exact ⟨.inl (applyTransitionAt_route durable), rfl⟩

private theorem applyStartMutation_moves (database : Bool) (state : RecordingState) (outcome : VerifiedConnectionOutcome) (freshRideId time : Nat)
    (vehicle : VehicleIdentity) :
    Leaves (Moves state) (state.applyStartMutation database outcome freshRideId time vehicle) := by
  have stays : Moves state state := ⟨.inl rfl, rfl⟩
  unfold RecordingState.applyStartMutation
  split
  · exact stays
  · simp only
    split
    · exact stays
    · split
      · exact stays
      · rename_i recorder start
        exact ⟨.inr (start_route start), rfl⟩

theorem Leaves.moves {first middle : RecordingState} {result : Except (RecordingState × RideRecordingError) RecordingState}
    (before : Moves first middle) (after : Leaves (Moves middle) result) : Leaves (Moves first) result := by
  cases result with
  | ok | error => exact before.trans after

private theorem applyMutations_moves (database : Bool) (state : RecordingState) (outcome : VerifiedConnectionOutcome) (freshRideId : Nat)
    (mutations : List LifecycleMutation) :
    Leaves (Moves state) (RecordingState.applyMutations database outcome freshRideId state mutations) := by
  induction mutations generalizing state with
  | nil => exact ⟨.inl rfl, rfl⟩
  | cons mutation mutations ih =>
    cases mutation with
    | transition event keeps time =>
      have first := applyTransitionMutation_moves state event time
      unfold RecordingState.applyMutations
      split
      · rename_i failed
        rw [failed] at first
        exact first
      · rename_i done applied
        rw [applied] at first
        exact .moves first (ih done)
    | startLive time vehicle =>
      have first := applyStartMutation_moves database state outcome freshRideId time vehicle
      unfold RecordingState.applyMutations
      split
      · rename_i failed
        rw [failed] at first
        exact first
      · rename_i done applied
        rw [applied] at first
        exact .moves first (ih done)

theorem applyReceipt_moves (database : Bool) (state : RecordingState) (operation : PreparedVerifiedConnection)
    (outcome : VerifiedConnectionOutcome) (freshRideId : Nat) :
    Leaves (Moves state) (state.applyReceipt database operation outcome freshRideId) := by
  have mutated := applyMutations_moves database state outcome freshRideId operation.mutations
  unfold RecordingState.applyReceipt
  split
  · exact ⟨.inl rfl, rfl⟩
  · split
    · rename_i failed error known
      rw [known] at mutated
      show Moves state (if database = true then failed.requireRecovery else failed)
      split <;> exact mutated
    · rename_i done known
      rw [known] at mutated
      simp only
      split
      · split <;> exact mutated
      · split <;> exact mutated

private theorem associate_moves (state : RecordingState) (operation : PreparedVerifiedConnection) (time : Nat) :
    (state.associate operation time).recorder.route = state.recorder.route ∧
      (state.associate operation time).pendingLocations = state.pendingLocations := by
  have route : ∀ recorder : RideMapRecorder, (recorder.observeVehicle operation.vehicle time).1.route = recorder.route := by
    intro recorder
    obtain ⟨-, ⟨same, -⟩ | ⟨same, -⟩⟩ := observeVehicle_alike recorder recorder operation.vehicle time rfl rfl rfl rfl
    · rw [same]
    · rw [same]
      rfl
  have kept : (if (state.admissionRecorder.observeVehicle operation.vehicle time).2 = .associated then
      (state.recorder.observeVehicle operation.vehicle time).1 else state.recorder).route = state.recorder.route := by
    split
    · exact route _
    · rfl
  unfold RecordingState.associate
  simp only
  split <;> exact ⟨kept, rfl⟩

theorem Follows.finishVerifiedConnection (known : ∀ pending ∈ state.pendingLocations, kind pending.admitted)
    (operation : PreparedVerifiedConnection) (receipt : Except StorageError VerifiedConnectionOutcome) (freshRideId : Nat)
    (progress : WriteProgress) :
    Follows distance kind state
      (state.finishVerifiedConnection distance database operation receipt freshRideId progress).1 restored := by
  have moved : ∀ {after : RecordingState}, Moves (state.settleKeeping distance progress) after →
      Follows distance kind state after restored := by
    rintro after ⟨same | fresh, pending⟩
    · refine .polled known progress same fun other member => ?_
      rw [pending] at member
      exact List.mem_of_mem_drop member
    · refine .fresh known fresh fun other member => ?_
      rw [pending] at member
      exact List.mem_of_mem_drop member
  unfold RecordingState.finishVerifiedConnection
  split
  · obtain ⟨route, pending⟩ := commandStorageError_route state operation.id _
    exact .same known route pending
  · simp only
    split
    · exact moved ⟨.inl rfl, rfl⟩
    · split
      · rename_i failed error applied
        have left : Leaves (Moves (state.settleKeeping distance progress)) (.error (failed, error)) :=
          applied ▸ applyReceipt_moves database _ operation _ freshRideId
        obtain ⟨route, pending⟩ := release_route failed operation.id
        exact moved ⟨by rw [route]; exact left.1, pending.trans left.2⟩
      · rename_i done applied
        have left : Leaves (Moves (state.settleKeeping distance progress)) (.ok done) :=
          applied ▸ applyReceipt_moves database _ operation _ freshRideId
        split
        · obtain ⟨route, pending⟩ := associate_moves { done with
            lastConnectionAdmissionGeneration := some operation.connectionGeneration
            pendingCommandId := none } operation _
          exact moved ⟨by rw [route]; exact left.1, pending.trans left.2⟩
        · exact moved left

private theorem locationDecision_sample {sample : LocationSample}
    (decision : state.locationDecision distance sample = .record admitted) : admitted.sample = sample := by
  have admits : ∀ {recorder : RideMapRecorder}, recorder.admitSample distance sample = .ok admitted →
      admitted.sample = sample := by
    intro recorder accepted
    rw [AdmittedLocationSample.sample, (admitSample_point accepted).1]
  unfold RecordingState.locationDecision at decision
  split at decision
  · exact admits (classifySample_record decision)
  · split at decision
    · cases decision
      exact admits ‹_›
    · cases decision

section Known
variable (known : ∀ pending ∈ state.pendingLocations, kind pending.admitted)
include known

theorem Follows.admitParked (sample : LocationSample) (storage : AdmissionStorage) :
    Follows distance kind state (state.admitParked distance database sample storage).1 restored := by
  have polled : ∀ {after : RecordingState},
      after.recorder.route = (state.parkedState distance database storage).recorder.route →
      after.pendingLocations = (state.parkedState distance database storage).pendingLocations →
      Follows distance kind state after restored := by
    intro after route pending
    unfold RecordingState.parkedState at route pending
    split at route
    · rename_i waits
      rw [if_pos waits] at pending
      refine .polled known _ route fun other member => ?_
      rw [pending] at member
      exact List.mem_of_mem_drop member
    · rename_i idle
      rw [if_neg idle] at pending
      exact .same known route pending
  rcases RecordingState.admitParked_cases distance database state sample storage with
    ⟨error, -, result⟩ | ⟨output, -, result⟩ | ⟨observation, recorder, accepted, result⟩
  · rw [result]
    exact .same known rfl rfl
  · rw [result]
    exact polled rfl rfl
  · rw [result]
    exact polled (observeStationary_route accepted) rfl

theorem Follows.admitLocation (sample : LocationSample) (storage : AdmissionStorage)
    (admits : (state.admitLocation distance database sample storage).2.records = true →
      ∀ admitted : AdmittedLocationSample, admitted.sample = sample → kind admitted) :
    Follows distance kind state (state.admitLocation distance database sample storage).1 restored := by
  obtain ⟨route, pending⟩ := markStationary_route state sample
  have marked : ∀ {after : RecordingState}, Follows distance kind (state.markStationary sample) after restored →
      Follows distance kind state after restored := by
    intro after follows
    obtain ⟨base, source, grows⟩ := follows.route
    exact ⟨⟨base, by rw [← route]; exact source, grows⟩, follows.queue⟩
  have known' : ∀ other ∈ (state.markStationary sample).pendingLocations, kind other.admitted := by
    rw [pending]
    exact known
  rcases RecordingState.admitLocation_cases distance database state sample storage with
    ⟨output, -, result⟩ | ⟨-, -, result⟩ | ⟨-, -, cases⟩
  · rw [result]
    exact .same known rfl rfl
  · rw [result]
    exact marked (.admitParked known' sample storage)
  · rcases cases with ⟨output, -, result⟩ | ⟨observation, -, result⟩ | ⟨rideId, admitted, -, decision, result⟩
    · rw [result]
      exact marked (.same known' rfl rfl)
    · rw [result]
      rcases RecordingState.admitClockOnly_cases distance database (state.markStationary sample) observation storage with
        ⟨error, result⟩ | ⟨recorder, accepted, result⟩
      · rw [result]
        exact marked (.same known' rfl rfl)
      · rw [result]
        exact marked (.same known' (observeClockOnly_route accepted) rfl)
    · have same := locationDecision_sample decision
      rw [result] at admits ⊢
      rcases RecordingState.admitRecord_cases distance database (state.markStationary sample) sample rideId admitted storage
        with ⟨output, -, result⟩ | ⟨recorder, -, recorded, result⟩ | ⟨admission, -, recorded, result⟩
      · rw [result]
        exact marked (.same known' rfl rfl)
      · rw [result] at admits ⊢
        refine marked ⟨⟨_, .inl rfl, ?_⟩, known'⟩
        unfold RideMapRecorder.recordAdmittedSample at recorded
        split at recorded
        · cases recorded
          rw [recorded_route]
          exact .one (admits rfl admitted same)
        · cases recorded
      · rw [result] at admits ⊢
        refine marked ⟨⟨_, .inl rfl, .refl _ _ _⟩, ?_⟩
        intro other member
        rcases List.mem_append.mp member with inside | newest
        · exact known' other inside
        · rw [List.mem_singleton.mp newest]
          exact admits rfl admitted same

theorem Follows.refuses {result : RecordingState × RideOutput} (refuses : state.Refuses result) :
    Follows distance kind state result.1 restored := by
  obtain ⟨error, rfl | rfl⟩ := refuses <;> exact .same known rfl rfl

end Known

def RideCall.Restores (call : RideCall) (route : Route) : Prop :=
  (∃ id ride, call = .finishRestore id (.ok (some ride)) ∧ route = ride.route) ∨
    ∃ id ride policy storage, call = .finishRestoreWithPolicy id (.ok (some ride)) policy storage ∧
      route = ride.toRestoredRide.route

private theorem recovered_route (ride : RestoredRide) (automatic : Bool) : (ride.recovered automatic).route = ride.route := by
  unfold RestoredRide.recovered
  split <;> rfl

theorem Recovered.route {projected : RecordingState} (recovered : Recovered projected after) :
    after.recorder.route = projected.recorder.route ∨ after.recorder.route = ([], ⟨0, 0⟩) := by
  cases recovered.recorder with
  | moved _ route => exact .inl (Prod.ext route.1 route.2)
  | emptied empty =>
    rw [empty]
    exact .inr rfl
  | started start => exact .inr (start_route start)

section Known
variable (known : ∀ pending ∈ state.pendingLocations, kind pending.admitted)
include known

theorem Follows.finishRestoreWithPolicy (id : Nat) (restored : Except StorageError (Option RecoverableRide))
    (policy : RideRecoveryPolicy) (storage : RecoveryStorage) :
    Follows distance kind state (state.finishRestoreWithPolicy database id restored policy storage).1
      (RideCall.finishRestoreWithPolicy id restored policy storage).Restores := by
  rcases RecordingState.finishRestoreWithPolicy_cases database state id restored policy storage with
    ⟨error, -, -, result⟩ | ⟨-, result⟩ | ⟨-, result⟩ | ⟨-, shown, after, projects, recovered, finishes⟩
  · rw [result]
    obtain ⟨route, pending⟩ := release_route state id
    exact .same known route pending
  · rw [result]
    exact .same known rfl rfl
  · rw [result]
    exact .same known rfl rfl
  · have left : Follows distance kind state after (RideCall.finishRestoreWithPolicy id restored policy storage).Restores := by
      have pending : ∀ other ∈ after.pendingLocations, other ∈ shown.pendingLocations := by
        intro other member
        rcases recovered.pending with same | empty
        · exact same ▸ member
        · rw [empty] at member
          cases member
      cases projects with
      | @ride ride automatic stored found =>
        rcases recovered.route with same | empty
        · refine ⟨⟨ride.toRestoredRide.route, .inr (.inr (.inr ⟨id, ride, policy, storage, by rw [found], rfl⟩)), ?_⟩,
            fun other member => known other (pending other member)⟩
          rw [same, ← recovered_route ride.toRestoredRide automatic,
            ← restoredRecorder_route (ride.toRestoredRide.recovered automatic) state.drawnGeneration]
          exact .refl _ _ _
        · exact .fresh known empty pending
      | empty => exact .fresh known (recovered.route.elim (fun same => same) fun same => same) pending
      | memory =>
        refine .fresh known (recovered.route.elim (fun same => same) fun same => same) fun other member => ?_
        have held := pending other member
        cases held
    rcases finishes with ⟨disposition, result⟩ | ⟨error, -, result⟩
    · rw [result]
      exact ⟨left.route, left.queue⟩
    · rw [result]
      obtain ⟨route, pending⟩ := release_route after id
      exact ⟨by rw [route]; exact left.route, by rw [pending]; exact left.queue⟩

theorem Follows.finishRestore (id : Nat) (snapshot : Except StorageError (Option RestoredRide)) :
    Follows distance kind state (state.finishRestore database id snapshot).1 (RideCall.finishRestore id snapshot).Restores := by
  rcases RecordingState.finishRestore_cases database state id snapshot with
    ⟨error, -, -, result⟩ | ⟨-, result⟩ | ⟨-, result⟩ | ⟨-, restored, result, source⟩
  · rw [result]
    obtain ⟨route, pending⟩ := release_route state id
    exact .same known route pending
  · rw [result]
    exact .same known rfl rfl
  · rw [result]
    exact .same known rfl rfl
  · rw [result]
    rcases source with ⟨ride, -, rfl, rfl⟩ | ⟨-, rfl⟩
    · cases ride with
      | none => exact .fresh known rfl fun _ member => member
      | some ride =>
        refine ⟨⟨ride.route, .inr (.inr (.inl ⟨id, ride, rfl, rfl⟩)), ?_⟩, known⟩
        have route := restoredRecorder_route ride state.drawnGeneration
        exact route ▸ Grows.refl _ _ _
    · exact .fresh known rfl fun _ member => member

theorem Follows.finishStart (operation : PreparedRideStart) (committed : Except StorageError CommittedRide)
    (freshRideId : Nat) :
    Follows distance kind state (state.finishStart database operation committed freshRideId).1 restored := by
  rcases RecordingState.finishStart_cases database state operation committed freshRideId with
    ⟨error, -, -, result⟩ | ⟨-, result⟩ | ⟨-, result⟩ | ⟨-, -, recorder, rideId, start, result⟩
  · rw [result]
    obtain ⟨route, pending⟩ := commandStorageError_route state operation.id error
    exact .same known route pending
  · rw [result]
    exact .same known rfl rfl
  · rw [result]
    exact .same known rfl rfl
  · rw [result]
    exact .fresh known (start_route start) fun _ member => member

theorem Follows.finishTransition (operation : PreparedRideTransition) (committed : Except StorageError CommittedRide)
    (progress : WriteProgress) :
    Follows distance kind state (state.finishTransition distance database operation committed progress).1 restored := by
  unfold RecordingState.finishTransition
  split
  · obtain ⟨route, pending⟩ := commandStorageError_route state operation.id _
    exact .same known route pending
  · exact .finishLifecycle known (publishTransition_queue operation)
  · exact .finishLifecycle known (publishTransition_queue operation)

theorem Follows.finishStopAfterMusic (operation : PreparedRideTransition) (fenced : Bool)
    (committed : Except StorageError CommittedRide) (progress : WriteProgress) :
    Follows distance kind state (state.finishStopAfterMusic distance database operation fenced committed progress).1
      restored := by
  have published : ∀ held recorder admissionRecorder,
      (RecordingState.publishStop operation held recorder admissionRecorder).recorder = recorder ∧
        ∀ pending ∈ (RecordingState.publishStop operation held recorder admissionRecorder).pendingLocations,
          pending ∈ held.pendingLocations := fun _ _ _ => ⟨rfl, fun _ member => member⟩
  unfold RecordingState.finishStopAfterMusic
  split
  · obtain ⟨route, pending⟩ := release_route state operation.id
    exact Follows.same known route pending
  · split
    · obtain ⟨route, pending⟩ := commandStorageError_route state operation.id _
      exact Follows.same known route pending
    · exact Follows.finishLifecycle known published
    · exact Follows.finishLifecycle known published

theorem Follows.checkpointLocationWrites (barrier : Option StorageError) (progress : WriteProgress) :
    Follows distance kind state (state.checkpointLocationWrites distance database barrier progress).1 restored := by
  unfold RecordingState.checkpointLocationWrites
  split
  · exact .same known rfl rfl
  · exact .polled known _ rfl fun _ member => List.mem_of_mem_drop member

theorem Follows.observeTelemetry (time : Nat) (speed : Option RideVehicleSpeedSample) (verified : Bool)
    (storage : Option StorageError) :
    Follows distance kind state (state.observeTelemetry database time speed verified storage).1 restored := by
  rcases RecordingState.observeTelemetry_cases database state time speed verified storage with
    ⟨error, result⟩ | ⟨recorder, speed, receipt, changed, result, source⟩
  · rw [result]
    exact .same known rfl rfl
  · rw [result]
    refine .same known ?_ rfl
    rcases source with rfl | ⟨-, rfl⟩
    · obtain ⟨-, ⟨same, -⟩ | ⟨same, -⟩⟩ := observeTelemetry_alike state.recorder state.recorder time rfl rfl rfl rfl
      · rw [same]
      · rw [same]
        rfl
    · rfl

theorem Follows.observeVerifiedVehicleSpeed (millimetresPerSecond : Option Int) (sourceAt receiptAt generation : Nat) :
    Follows distance kind state (state.observeVerifiedVehicleSpeed millimetresPerSecond sourceAt receiptAt generation)
      restored := by
  unfold RecordingState.observeVerifiedVehicleSpeed
  split
  · split <;> exact .same known rfl rfl
  · exact .same known rfl rfl

/-- Each call adds to the route what was queued before it or what it admits itself. -/
theorem Follows.step (call : RideCall) (admits : ∀ sample storage, call = .admitLocation sample storage →
      (state.step distance database call).2.records = true →
        ∀ admitted : AdmittedLocationSample, admitted.sample = sample → kind admitted) :
    Follows distance kind state (state.step distance database call).1 call.Restores := by
  cases call with
  | beginRestore queued =>
    rcases RecordingState.beginRestore_cases database state queued with refuses | ⟨-, result⟩
    · exact .refuses known refuses
    · rw [RecordingState.step, result]
      exact .same known rfl rfl
  | finishRestore id snapshot => exact .finishRestore known id snapshot
  | finishRestoreWithPolicy id restored policy storage =>
    have follows := @Follows.finishRestoreWithPolicy distance database state kind known id restored policy storage
    rw [RecordingState.step]
    split
    · rename_i finished
      rwa [finished] at follows
    · rename_i failed
      rwa [failed] at follows
  | beginStart time candidateVehicle queued =>
    rcases RecordingState.beginStart_cases database state time candidateVehicle queued with refuses | ⟨-, -, result⟩
    · exact .refuses known refuses
    · rw [RecordingState.step, result]
      exact .same known rfl rfl
  | finishStart operation committed freshRideId => exact .finishStart known operation committed freshRideId
  | beginTransition token event time lastTelemetryAt queued =>
    rcases RecordingState.beginTransition_cases database state token event time lastTelemetryAt queued with
      refuses | ⟨-, -, operation, -, result⟩
    · exact .refuses known refuses
    · rw [RecordingState.step, result]
      exact .same known rfl rfl
  | finishTransition operation committed progress => exact .finishTransition known operation committed progress
  | beginStopAfterMusic token time lastTelemetryAt =>
    rcases RecordingState.beginStopAfterMusic_cases state token time lastTelemetryAt with
      refuses | ⟨-, -, operation, -, result⟩
    · exact .refuses known refuses
    · rw [RecordingState.step, result]
      exact .same known rfl rfl
  | finishStopAfterMusic operation stops fenced committed progress =>
    exact .finishStopAfterMusic known operation fenced committed progress
  | dropCommand id =>
    obtain ⟨route, pending⟩ := release_route state id
    exact .same known route pending
  | admitLocation sample storage => exact .admitLocation known sample storage (admits sample storage rfl)
  | pollLocationWrites progress => exact .polled known progress rfl fun _ member => List.mem_of_mem_drop member
  | checkpointLocationWrites barrier progress => exact .checkpointLocationWrites known barrier progress
  | observeTelemetry time speed verified storage => exact .observeTelemetry known time speed verified storage
  | observeVerifiedVehicleSpeed millimetresPerSecond sourceAt receiptAt generation =>
    exact .observeVerifiedVehicleSpeed known millimetresPerSecond sourceAt receiptAt generation
  | restoreMotion motion => exact .same known rfl rfl
  | beginVerifiedConnection vehicle time connectionGeneration wallClock automatic queued =>
    obtain ⟨recorder, -, pending⟩ := RecordingState.beginVerifiedConnection_frame database state vehicle time
      connectionGeneration wallClock automatic queued
    exact .same known (congrArg RideMapRecorder.route recorder) pending
  | finishVerifiedConnection operation receipt freshRideId progress =>
    exact .finishVerifiedConnection known operation receipt freshRideId progress

end Known

end Steps

/-- A recorder of the given recording that still settles points, with its last point before a time. A paused,
interrupted, stopped or saved ride settles as well. -/
structure RideMapRecorder.OpenTo (recorder : RideMapRecorder) (recording : Option Nat) (time : Nat) : Prop where
  settles : recorder.state.any RideLifecycleState.settles = true
  recording : recorder.recordingGeneration = recording
  newer : ∀ last, recorder.lastPointAt = some last → last < time

/-- A live fix inside a segment with the values of the last point. -/
def RideMapRecorder.Repeats (recorder : RideMapRecorder) (sample : LocationSample) : Prop :=
  sample.source = .live ∧ (recorder.nextSampleMetadata sample).2.1 = false ∧
    (recorder.points.getLast?.any fun previous => sample.sameValues previous.sample &&
      previous.telemetryState == recorder.telemetryStateAt sample.monotonic) = true

def RecordingState.checking (state : RecordingState) : RideMapRecorder :=
  if state.pendingLocations = [] then state.recorder else state.admissionRecorder

/-- No check keeps a fix out of the route. None of them asks whether the ride is active. -/
structure RecordingState.Unguarded (distance : Distance) (database : Bool) (state : RecordingState)
    (sample : LocationSample) (storage : AdmissionStorage) : Prop where
  ready : state.restorePhase = .ready
  ride : state.rideId.isSome = true
  moving : state.recorder.associatedVehicle.isSome = true →
    state.speed.motionHistoryRetiredAt sample.monotonic = false ∧ state.speed.parkedAt sample.monotonic = false
  numbered : state.nextLocationRequestId ≠ u64Max
  recording : state.checking.recordingGeneration.isSome = true
  policy : state.checking.checkSample distance sample = .accepted
  fresh : state.pendingLocations = [] → ¬(state.markStationary sample).recorder.Repeats sample
  staged : state.admissionRecorder.OpenTo state.checking.recordingGeneration sample.monotonic
  durable : database = false → state.recorder.OpenTo state.checking.recordingGeneration sample.monotonic
  room : database = true → state.pendingLocations.length + state.settledLocations.length < maxPendingLocationWrites
  writer : database = true → storage.queue = none

section Guards
variable {recorder source : RideMapRecorder} {sample : LocationSample} {admitted : AdmittedLocationSample}

theorem admitSample_isOk : (∃ admitted, recorder.admitSample distance sample = .ok admitted) ↔
    recorder.recordingGeneration.isSome = true ∧ recorder.checkSample distance sample = .accepted := by
  unfold RideMapRecorder.admitSample
  cases recorder.recordingGeneration with
  | none => simp
  | some generation =>
    cases recorder.checkSample distance sample <;> simp

theorem takes_admitted (accepted : source.admitSample distance sample = .ok admitted) :
    recorder.takes admitted = true ↔ recorder.OpenTo source.recordingGeneration sample.monotonic := by
  have known : source.recordingGeneration = some admitted.recordingGeneration ∧ admitted.sample = sample := by
    unfold RideMapRecorder.admitSample at accepted
    split at accepted
    · cases accepted
    · rename_i generation recording _
      cases accepted
      exact ⟨recording, rfl⟩
    · cases accepted
  unfold RideMapRecorder.takes
  rw [known.2, Bool.and_eq_true, Bool.and_eq_true, decide_eq_true_iff, known.1]
  constructor
  · rintro ⟨⟨settles, recording⟩, newer⟩
    refine ⟨settles, recording, fun last at_ => ?_⟩
    rw [at_] at newer
    simpa using newer
  · rintro ⟨settles, recording, newer⟩
    refine ⟨⟨settles, recording⟩, ?_⟩
    cases last : recorder.lastPointAt with
    | none => rfl
    | some last' => simpa using newer last' last

private theorem classifySample_records : recorder.classifySample distance sample = .record admitted ↔
    recorder.admitSample distance sample = .ok admitted ∧ ¬recorder.Repeats sample := by
  unfold RideMapRecorder.classifySample
  cases accepted : recorder.admitSample distance sample with
  | error reason => simp
  | ok point =>
    have boundary : point.boundary ≠ .start ↔ (recorder.nextSampleMetadata sample).2.1 = false := by
      unfold RideMapRecorder.admitSample at accepted
      split at accepted
      · cases accepted
      · cases accepted
        have starts : ∀ started : Bool, (if started = true then AdmittedLocationBoundary.start else .continues) ≠ .start ↔
            started = false := by decide
        exact starts _
      · cases accepted
    simp only [boundary]
    unfold RideMapRecorder.Repeats
    split
    · rename_i repeats
      simp [repeats]
    · rename_i other
      simp [other]

theorem mark_checked (recorder : RideMapRecorder) (time : Nat) (distance : Distance) (sample : LocationSample) :
    let marked := recorder.markStationaryBoundary time
    marked.recordingGeneration = recorder.recordingGeneration ∧
      marked.checkSample distance sample = recorder.checkSample distance sample ∧
      ∀ recording time, marked.OpenTo recording time ↔ recorder.OpenTo recording time := by
  have open_iff : ∀ {marked : RideMapRecorder}, marked.state = recorder.state →
      marked.recordingGeneration = recorder.recordingGeneration → marked.points = recorder.points →
        ∀ recording time, marked.OpenTo recording time ↔ recorder.OpenTo recording time := by
    intro marked lifecycle generation points recording time
    have last : marked.lastPointAt = recorder.lastPointAt := by
      unfold RideMapRecorder.lastPointAt
      rw [points]
    constructor
    · rintro ⟨settles, known, newer⟩
      exact ⟨lifecycle ▸ settles, generation ▸ known, last ▸ newer⟩
    · rintro ⟨settles, known, newer⟩
      exact ⟨lifecycle.symm ▸ settles, generation.symm ▸ known, last.symm ▸ newer⟩
  unfold RideMapRecorder.markStationaryBoundary
  simp only
  split
  · exact ⟨rfl, rfl, fun _ _ => Iff.rfl⟩
  · split
    · exact ⟨rfl, rfl, open_iff rfl rfl rfl⟩
    · exact ⟨rfl, rfl, fun _ _ => Iff.rfl⟩

private theorem markStationary_checked (state : RecordingState) (distance : Distance) (sample : LocationSample) :
    let marked := state.markStationary sample
    (marked.recorder.recordingGeneration = state.recorder.recordingGeneration ∧
      marked.recorder.checkSample distance sample = state.recorder.checkSample distance sample ∧
      ∀ recording time, marked.recorder.OpenTo recording time ↔ state.recorder.OpenTo recording time) ∧
    (marked.admissionRecorder.recordingGeneration = state.admissionRecorder.recordingGeneration ∧
      marked.admissionRecorder.checkSample distance sample = state.admissionRecorder.checkSample distance sample ∧
      ∀ recording time, marked.admissionRecorder.OpenTo recording time ↔ state.admissionRecorder.OpenTo recording time) := by
  simp only [markStationary_eq]
  split
  · exact ⟨mark_checked _ _ distance sample, mark_checked _ _ distance sample⟩
  · exact ⟨⟨rfl, rfl, fun _ _ => Iff.rfl⟩, rfl, rfl, fun _ _ => Iff.rfl⟩

theorem markStationary_frame (state : RecordingState) (sample : LocationSample) :
    let marked := state.markStationary sample
    marked.speed = state.speed ∧ marked.pendingLocations = state.pendingLocations ∧
      marked.settledLocations = state.settledLocations ∧ marked.nextLocationRequestId = state.nextLocationRequestId := by
  simp only [markStationary_eq]
  split <;> exact ⟨rfl, rfl, rfl, rfl⟩

private theorem locationDecision_records (distance : Distance) (database : Bool) (state : RecordingState)
    (sample : LocationSample) :
    (∃ admitted, (state.markStationary sample).locationDecision distance sample = .record admitted ∧
      (state.markStationary sample).admissionRecorder.takes admitted = true ∧
      (database = false → (state.markStationary sample).recorder.takes admitted = true)) ↔
    state.checking.recordingGeneration.isSome = true ∧ state.checking.checkSample distance sample = .accepted ∧
      (state.pendingLocations = [] → ¬(state.markStationary sample).recorder.Repeats sample) ∧
      state.admissionRecorder.OpenTo state.checking.recordingGeneration sample.monotonic ∧
      (database = false → state.recorder.OpenTo state.checking.recordingGeneration sample.monotonic) := by
  set marked := state.markStationary sample with known
  obtain ⟨⟨generation, checks, opens⟩, generation', checks', opens'⟩ := markStationary_checked state distance sample
  have queue : marked.pendingLocations = state.pendingLocations := (markStationary_frame state sample).2.1
  have taken : ∀ {source : RideMapRecorder} {admitted}, source.admitSample distance sample = .ok admitted →
      (marked.admissionRecorder.takes admitted = true ∧ (database = false → marked.recorder.takes admitted = true) ↔
        state.admissionRecorder.OpenTo source.recordingGeneration sample.monotonic ∧
          (database = false → state.recorder.OpenTo source.recordingGeneration sample.monotonic)) := by
    intro source admitted accepted
    rw [takes_admitted accepted, takes_admitted accepted, opens, opens']
  unfold RecordingState.locationDecision RecordingState.checking
  rw [queue]
  by_cases empty : state.pendingLocations = []
  · simp only [if_pos empty, classifySample_records]
    constructor
    · rintro ⟨admitted, ⟨accepted, fresh⟩, takes⟩
      obtain ⟨recording, policy⟩ := admitSample_isOk.mp ⟨admitted, accepted⟩
      have settles := (taken accepted).mp takes
      rw [generation] at recording settles
      exact ⟨recording, checks ▸ policy, fun _ => fresh, settles⟩
    · rintro ⟨recording, policy, fresh, settles⟩
      obtain ⟨admitted, accepted⟩ := admitSample_isOk.mpr ⟨generation ▸ recording, checks ▸ policy⟩
      refine ⟨admitted, ⟨accepted, fresh empty⟩, (taken accepted).mpr ?_⟩
      rw [generation]
      exact settles
  · simp only [if_neg empty]
    constructor
    · rintro ⟨admitted, decision, takes⟩
      have accepted : marked.admissionRecorder.admitSample distance sample = .ok admitted := by
        split at decision
        · rename_i known
          cases decision
          exact known
        · cases decision
      obtain ⟨recording, policy⟩ := admitSample_isOk.mp ⟨admitted, accepted⟩
      have settles := (taken accepted).mp takes
      rw [generation'] at recording settles
      exact ⟨recording, checks' ▸ policy, fun idle => absurd idle empty, settles⟩
    · rintro ⟨recording, policy, -, settles⟩
      obtain ⟨admitted, accepted⟩ := admitSample_isOk.mpr ⟨generation' ▸ recording, checks' ▸ policy⟩
      refine ⟨admitted, by rw [accepted], (taken accepted).mpr ?_⟩
      rw [generation']
      exact settles

end Guards

theorem recordAdmittedSample_eq_none :
    recorder.recordAdmittedSample distance admitted = none ↔ recorder.takes admitted = false := by
  unfold RideMapRecorder.recordAdmittedSample
  split
  · rename_i taken
    simp [taken]
  · rename_i refused
    simp [refused]

private theorem admitRecord_records_iff (database : Bool) (state : RecordingState) (sample : LocationSample) (rideId : Nat)
    (admitted : AdmittedLocationSample) (storage : AdmissionStorage) :
    (state.admitRecord distance database sample rideId admitted storage).2.records = true ↔
      state.nextLocationRequestId ≠ u64Max ∧ state.admissionRecorder.takes admitted = true ∧
        (database = false → state.recorder.takes admitted = true) ∧
        (database = true → state.pendingLocations.length + state.settledLocations.length < maxPendingLocationWrites ∧
          storage.queue = none) := by
  unfold RecordingState.admitRecord
  simp only
  split
  · rename_i exhausted
    simp [RideOutput.records, exhausted]
  · rename_i available
    split
    · rename_i refused
      simp [RideOutput.records, recordAdmittedSample_eq_none.mp refused]
    · rename_i admission taken
      have staged : state.admissionRecorder.takes admitted = true := by
        by_contra refused
        rw [recordAdmittedSample_eq_none.mpr (Bool.eq_false_iff.mpr refused)] at taken
        cases taken
      split
      · rename_i refused
        simp [RideOutput.records, recordAdmittedSample_eq_none.mp refused]
      · rename_i recorder durable
        have takes : state.recorder.takes admitted = true := by
          by_contra refused
          rw [recordAdmittedSample_eq_none.mpr (Bool.eq_false_iff.mpr refused)] at durable
          cases durable
        simp [RideOutput.records, available, staged, takes]
    · rename_i admission taken
      have staged : state.admissionRecorder.takes admitted = true := by
        by_contra refused
        rw [recordAdmittedSample_eq_none.mpr (Bool.eq_false_iff.mpr refused)] at taken
        cases taken
      split
      · rename_i full
        simp only [RideOutput.records, Bool.false_eq_true, false_iff, not_and]
        intro _ _ _ room
        have := (room trivial).1
        omega
      · rename_i room
        split
        · rename_i error refused
          simp [RideOutput.records, refused]
        · rename_i accepted
          have space : state.pendingLocations.length + state.settledLocations.length < maxPendingLocationWrites := by omega
          simp [RideOutput.records, available, staged, accepted, space]

private theorem admitLocation_records (distance : Distance) (database : Bool) (state : RecordingState)
    (sample : LocationSample) (storage : AdmissionStorage) :
    (state.admitLocation distance database sample storage).2.records = true ↔
      state.requireReady = none ∧ state.rideId.isSome = true ∧
      (state.recorder.associatedVehicle.isSome && state.speed.motionHistoryRetiredAt sample.monotonic) = false ∧
      (state.recorder.associatedVehicle.isSome && state.speed.parkedAt sample.monotonic) = false ∧
      state.nextLocationRequestId ≠ u64Max ∧
      (∃ admitted, (state.markStationary sample).locationDecision distance sample = .record admitted ∧
        (state.markStationary sample).admissionRecorder.takes admitted = true ∧
        (database = false → (state.markStationary sample).recorder.takes admitted = true)) ∧
      (database = true → state.pendingLocations.length + state.settledLocations.length < maxPendingLocationWrites ∧
        storage.queue = none) := by
  obtain ⟨speed, pending, settled, next⟩ := markStationary_frame state sample
  unfold RecordingState.admitLocation
  simp only [speed]
  split
  · rename_i error unready
    simp [RideOutput.records, unready]
  · rename_i ready missing
    simp [RideOutput.records, missing]
  · rename_i rideId ready ride
    split
    · rename_i retired
      simp [RideOutput.records, retired]
    · rename_i known
      split
      · rename_i parked
        rw [parked]
        have silent : ((state.markStationary sample).admitParked distance database sample storage).2.records = false := by
          rcases RecordingState.admitParked_cases distance database (state.markStationary sample) sample storage with
            ⟨error, -, result⟩ | ⟨output, silent, result⟩ | ⟨observation, recorder, -, result⟩
          · rw [result]
            rfl
          · rw [result]
            exact silent
          · rw [result]
            rfl
        simp [silent]
      · rename_i moving
        split
        · rename_i decision
          simp [RideOutput.records, decision]
        · rename_i observation decision
          have silent : ((state.markStationary sample).admitClockOnly distance database observation storage).2.records =
              false := by
            rcases RecordingState.admitClockOnly_cases distance database (state.markStationary sample) observation storage
              with ⟨error, result⟩ | ⟨recorder, -, result⟩
            · rw [result]
              rfl
            · rw [result]
              rfl
          simp [silent, decision]
        · rename_i admitted decision
          rw [admitRecord_records_iff, decision, pending, settled, next]
          simp only [ready, ride, Bool.eq_false_iff.mpr known, Bool.eq_false_iff.mpr moving, Option.isSome_some, true_and,
            LocationRecordingDecision.record.injEq, exists_eq_left', and_assoc]

private theorem requireReady_none : state.requireReady = none ↔ state.restorePhase = .ready := by
  unfold RecordingState.requireReady
  cases state.restorePhase <;> simp

/-- A fix announces a point exactly when no check keeps it out. -/
theorem admitLocation_records_iff (distance : Distance) (database : Bool) (state : RecordingState)
    (sample : LocationSample) (storage : AdmissionStorage) :
    (state.admitLocation distance database sample storage).2.records = true ↔
      state.Unguarded distance database sample storage := by
  rw [admitLocation_records, locationDecision_records, requireReady_none]
  constructor
  · rintro ⟨ready, ride, known, moving, numbered, ⟨recording, policy, fresh, staged, durable⟩, writer⟩
    refine ⟨ready, ride, fun associated => ?_, numbered, recording, policy, fresh, staged, durable,
      fun stored => (writer stored).1, fun stored => (writer stored).2⟩
    rw [associated] at known moving
    exact ⟨known, moving⟩
  · rintro ⟨ready, ride, moving, numbered, recording, policy, fresh, staged, durable, room, writer⟩
    refine ⟨ready, ride, ?_, ?_, numbered, ⟨recording, policy, fresh, staged, durable⟩,
      fun stored => ⟨room stored, writer stored⟩⟩
    · cases associated : state.recorder.associatedVehicle.isSome with
      | false => rfl
      | true => exact (moving associated).1
    · cases associated : state.recorder.associatedVehicle.isSome with
      | false => rfl
      | true => exact (moving associated).2

/-- A fix that some call of a run admitted while the ride was active. -/
def AdmittedActive (past : List (Step RecordingState RideCall RideOutput)) (admitted : AdmittedLocationSample) : Prop :=
  ∃ here ∈ past, (∃ storage, here.input = .admitLocation admitted.sample storage) ∧
    here.before.recorder.state = some .active ∧ here.output.records = true

/-- A run in which some check keeps out every fix that arrives while the ride is not active. -/
def TurnsAway (distance : Distance) (database : Bool) (past : List (Step RecordingState RideCall RideOutput)) : Prop :=
  ∀ here ∈ past, ∀ sample storage, here.input = .admitLocation sample storage →
    here.before.recorder.state ≠ some .active → ¬here.before.Unguarded distance database sample storage

theorem AdmittedActive.mono {past : List (Step RecordingState RideCall RideOutput)}
    (admits : AdmittedActive past admitted) (later : List (Step RecordingState RideCall RideOutput)) :
    AdmittedActive (past ++ later) admitted := by
  obtain ⟨here, member, rest⟩ := admits
  exact ⟨here, List.mem_append_left _ member, rest⟩

theorem AdmittedActive.step {past : List (Step RecordingState RideCall RideOutput)} {call : RideCall}
    (turns : TurnsAway distance database (past ++ [Runs.take (RecordingState.step distance database) state call]))
    (queue : ∀ pending ∈ state.pendingLocations, AdmittedActive past pending.admitted) :
    Follows distance (AdmittedActive (past ++ [Runs.take (RecordingState.step distance database) state call])) state
      (state.step distance database call).1 call.Restores := by
  apply Follows.step (fun pending member => (queue pending member).mono _)
  intro sample storage admits records admitted same
  refine ⟨_, List.mem_append_right _ List.mem_cons_self, ⟨storage, by rw [same]; exact admits⟩, ?_, records⟩
  by_contra inactive
  apply turns _ (List.mem_append_right _ List.mem_cons_self) sample storage admits inactive
  apply (admitLocation_records_iff distance database state sample storage).mp
  rw [admits] at records
  exact records

end Cutout.Rides

import Cutout.Proofs.RideReplay

/-! What a recovery can leave behind. Both recorders stay one, of the projected recording or of a
fresh one, and the command numbers are not touched, whether the recovery succeeds or fails. -/

namespace Cutout.Rides
open Protocols (u64Max)

/-- The recorder that a recovery leaves: the projected one moved in its lifecycle, none, or a started one. -/
inductive RecoveredRecorder (before after : RecordingState) : Prop
  | moved (recording : after.recorder.recordingGeneration = before.recorder.recordingGeneration)
      (route : after.recorder.points = before.recorder.points ∧ after.recorder.summary = before.recorder.summary)
      (drawn : after.nextRecordingGeneration = before.nextRecordingGeneration) : RecoveredRecorder before after
  | emptied (empty : after.recorder = {}) (drawn : after.nextRecordingGeneration = before.nextRecordingGeneration) :
      RecoveredRecorder before after
  | started {now : Nat} {candidate : Option VehicleIdentity}
      (start : RideMapRecorder.start {} now candidate before.drawnGeneration = some after.recorder)
      (drawn : after.nextRecordingGeneration = before.nextRecordingGeneration + 1) : RecoveredRecorder before after

structure Recovered (before after : RecordingState) : Prop where
  one : after.admissionRecorder = after.recorder
  recorder : RecoveredRecorder before after
  pending : after.pendingLocations = before.pendingLocations ∨ after.pendingLocations = []
  fence : after.pendingCommandId = before.pendingCommandId ∧ after.nextCommandId = before.nextCommandId ∧
    after.restorePhase = before.restorePhase

namespace Recovered
variable {before after : RecordingState} {recorder saved : RideMapRecorder}

theorem still (one : before.admissionRecorder = before.recorder) : Recovered before before :=
  ⟨one, .moved rfl ⟨rfl, rfl⟩ rfl, .inl rfl, rfl, rfl, rfl⟩

private theorem applied_parts {transition : ValidatedRideTransition} {time : Nat}
    (applied : recorder.applyTransitionAt transition time = some saved) :
    saved.recordingGeneration = recorder.recordingGeneration ∧ saved.points = recorder.points ∧
      saved.summary = recorder.summary := by
  have same := (applyTransitionAt_some applied).2
  have recording : saved.untimed.recordingGeneration = recorder.untimed.recordingGeneration := by rw [same]; rfl
  have points : saved.untimed.points = recorder.untimed.points := by rw [same]; rfl
  have summary : saved.untimed.summary = recorder.untimed.summary := by rw [same]; rfl
  exact ⟨recording, points, summary⟩

private theorem event_parts {event : RideEvent} (applied : recorder.applyEvent event = some saved) :
    saved.recordingGeneration = recorder.recordingGeneration ∧ saved.points = recorder.points ∧
      saved.summary = recorder.summary := by
  obtain ⟨transition, -, moved⟩ := Option.bind_eq_some_iff.mp applied
  exact applied_parts moved

private theorem saved_parts {explicitPause : Bool} {recordedDuration : Option Nat}
    (saves : recorder.saveRecovered explicitPause recordedDuration = some saved) :
    saved.recordingGeneration = recorder.recordingGeneration ∧ saved.points = recorder.points ∧
      saved.summary = recorder.summary := by
  unfold RideMapRecorder.saveRecovered at saves
  split at saves
  · unfold RideMapRecorder.saveInterruptedAtRecordedDuration at saves
    split at saves
    · cases saves
    · obtain ⟨save, -, rest⟩ := Option.bind_eq_some_iff.mp saves
      obtain ⟨moved, applied, same⟩ := Option.bind_eq_some_iff.mp rest
      have parts := applied_parts applied
      cases same
      exact parts
  · obtain ⟨stopped, first, last⟩ := Option.bind_eq_some_iff.mp saves
    have behind := event_parts last
    split at first
    · have ahead := event_parts first
      exact ⟨behind.1.trans ahead.1, behind.2.1.trans ahead.2.1, behind.2.2.trans ahead.2.2⟩
    · cases first
      exact behind

theorem resume (one : before.admissionRecorder = before.recorder) (rideId timingLast now : Nat)
    (resumed : Except StorageError CommittedRide) :
    Recovered before (before.resumeRestored rideId timingLast now resumed).1 := by
  unfold RecordingState.resumeRestored
  simp only
  split
  · exact still one
  · split
    · exact still one
    · split
      · exact still one
      · split
        · exact still one
        · rename_i recorder durable
          obtain ⟨recording, points, summary⟩ := applied_parts durable
          rw [one, durable]
          exact ⟨rfl, .moved recording ⟨points, summary⟩ rfl, .inl rfl, rfl, rfl, rfl⟩

theorem save (one : before.admissionRecorder = before.recorder) (explicitPause : Bool) (recordedDuration : Option Nat) :
    Recovered before (before.saveRecoveredProjection explicitPause recordedDuration).1 := by
  unfold RecordingState.saveRecoveredProjection
  rw [one]
  cases saves : before.recorder.saveRecovered explicitPause recordedDuration with
  | none => exact still one
  | some saved =>
    obtain ⟨recording, points, summary⟩ := saved_parts saves
    exact ⟨rfl, .moved recording ⟨points, summary⟩ rfl, .inl rfl, rfl, rfl, rfl⟩

theorem reset (before : RecordingState) : Recovered before before.resetAfterRecovery :=
  ⟨rfl, .emptied rfl rfl, .inr rfl, rfl, rfl, rfl⟩

theorem replace (before : RecordingState) (committed : CommittedRide) (now : Nat) (candidate : Option VehicleIdentity) :
    Recovered before (before.resetAfterRecovery.startReplacement committed now candidate).1 := by
  unfold RecordingState.startReplacement
  split
  · exact reset before
  · split
    · exact reset before
    · rename_i recorder start
      exact ⟨rfl, .started start rfl, .inr rfl, rfl, rfl, rfl⟩

theorem settle (one : before.admissionRecorder = before.recorder) (ride : RecoverableRide) (policy : RideRecoveryPolicy)
    (settled : Except StorageError (Option CommittedRide)) : Recovered before (before.settleRecovered ride policy settled).1 := by
  -- Forgetting when the ride was updated changes nothing that matters here.
  have forget : ∀ {after}, Recovered { before with recoverableUpdatedAt := none } after → Recovered before after :=
    fun recovered => ⟨recovered.one, by
      cases recovered.recorder with
      | moved recording route drawn => exact .moved recording route drawn
      | emptied empty drawn => exact .emptied empty drawn
      | started start drawn => exact .started start drawn, recovered.pending, recovered.fence⟩
  unfold RecordingState.settleRecovered
  split
  · exact still one
  · apply forget
    simp only
    split
    · exact replace _ _ _ _
    · split
      · exact reset _
      · exact @save { before with recoverableUpdatedAt := none } one _ _

theorem apply (one : before.admissionRecorder = before.recorder) (ride : RecoverableRide) (policy : RideRecoveryPolicy)
    (storage : RecoveryStorage) : Recovered before (before.applyRecovery ride policy storage).1 := by
  unfold RecordingState.applyRecovery
  split
  · exact still one
  · split
    · exact ⟨one, .moved rfl ⟨rfl, rfl⟩ rfl, .inl rfl, rfl, rfl, rfl⟩
    · split
      · split
        · exact still one
        · exact resume one _ _ _ _
      · exact still one
      · exact settle one _ _ _

end Recovered

namespace RecordingState

/-- The projection that a recovery starts from. -/
inductive Projects (database : Bool) (state : RecordingState) (restored : Except StorageError (Option RecoverableRide)) :
    RecordingState → Prop
  | ride {ride : RecoverableRide} {automatic : Bool} (stored : database = true) (found : restored = .ok (some ride)) :
      Projects database state restored (state.restoreProjection (some (ride.toRestoredRide.recovered automatic)))
  | empty (stored : database = true) (found : restored = .ok none) : Projects database state restored (state.restoreProjection none)
  | memory (unstored : database = false) : Projects database state restored state.resetAfterRecovery

private theorem recoverProjection_recovered (database : Bool) (state : RecordingState)
    (restored : Except StorageError (Option RecoverableRide)) (policy : RideRecoveryPolicy) (storage : RecoveryStorage)
    (known : ∀ error, database = true → restored ≠ .error error) :
    ∃ projected, state.Projects database restored projected ∧
      Recovered projected (state.recoverProjection database restored policy storage).1 := by
  unfold recoverProjection
  split
  · exact ⟨_, .ride rfl rfl, .apply rfl _ _ _⟩
  · exact ⟨_, .empty rfl rfl, .still rfl⟩
  · rename_i other unknown
    cases database with
    | false => exact ⟨_, .memory rfl, .still rfl⟩
    | true =>
      cases restored with
      | error error => exact absurd rfl (known error rfl)
      | ok found => cases found <;> simp_all

theorem recoverProjection_fails {database : Bool} {state after : RecordingState}
    {restored : Except StorageError (Option RecoverableRide)} {policy : RideRecoveryPolicy} {storage : RecoveryStorage}
    {error : RideRecordingError}
    (fails : state.recoverProjection database restored policy storage = (after, .error error)) :
    database = true ∧ ∃ ride, restored = .ok (some ride) ∧
      (state.restoreProjection (some (ride.toRestoredRide.recovered policy.enabled))).applyRecovery ride policy storage =
        (after, .error error) := by
  unfold recoverProjection at fails
  split at fails
  · exact ⟨rfl, _, rfl, fails⟩
  · cases fails
  · cases fails

/-- A policy restoration fails before it looks at the ride, or its recovery leaves a projection, ready or not. -/
theorem finishRestoreWithPolicy_cases (database : Bool) (state : RecordingState) (id : Nat)
    (restored : Except StorageError (Option RecoverableRide)) (policy : RideRecoveryPolicy) (storage : RecoveryStorage) :
    let result := state.finishRestoreWithPolicy database id restored policy storage
    (∃ error, database = true ∧ restored = .error error ∧ result = (state.release id, .error (.storage error))) ∨
    (state.pendingCommandId ≠ some id ∧ result = (state, .error .staleCommand)) ∨
    (state.pendingCommandId = some id ∧ result = (state.requireRecovery, .error .commandIdExhausted)) ∨
    (state.pendingCommandId = some id ∧ ∃ projected after, state.Projects database restored projected ∧
      Recovered projected after ∧
      ((∃ disposition, result = ({ after with restorePhase := .ready, pendingCommandId := none }, .ok disposition)) ∨
        ∃ error, state.recoverProjection database restored policy storage = (after, .error error) ∧
          result = (after.release id, .error error))) := by
  intro result
  by_cases lost : ∃ error, database = true ∧ restored = .error error
  · obtain ⟨error, rfl, rfl⟩ := lost
    exact .inl ⟨error, rfl, rfl, rfl⟩
  · right
    have known : ∀ error, database = true → restored ≠ .error error :=
      fun error stored same => lost ⟨error, stored, same⟩
    obtain ⟨projected, projects, recovered⟩ := recoverProjection_recovered database state restored policy storage known
    unfold result finishRestoreWithPolicy
    split
    · exact absurd rfl (known _ rfl)
    · by_cases holds : state.pendingCommandId = some id
      · rw [if_neg (not_not.mpr holds)]
        right
        split
        · exact .inl ⟨holds, rfl⟩
        · refine .inr ⟨holds, projected, _, projects, recovered, ?_⟩
          split
          · rename_i after disposition finished
            exact .inl ⟨disposition, by rw [finished]⟩
          · rename_i after error failed
            exact .inr ⟨error, by rw [failed], by rw [failed]⟩
      · rw [if_pos holds]
        exact .inl ⟨holds, rfl⟩

end RecordingState

end Cutout.Rides

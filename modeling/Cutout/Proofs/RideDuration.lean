import Cutout.RideRecorder
import Cutout.Library.Runs

/-! The duration of a ride against the intervals in which it was active. A ledger notes the
lifecycle events of a run at their clamped times; the recorder's counters say the same. -/

namespace Cutout.Rides
open Library

abbrev RideEntry := Nat × RideLifecycleState

/-- The stretches of active time in a list of entries, newest first; the last one ends at `until_`. -/
def activeIntervals (until_ : Nat) : List RideEntry → List (Nat × Nat)
  | [] => []
  | (time, .active) :: earlier => (time, until_) :: activeIntervals time earlier
  | (time, _) :: earlier => activeIntervals time earlier

def activeTime (until_ : Nat) (entries : List RideEntry) : Nat :=
  ((activeIntervals until_ entries).map fun interval => interval.2 - interval.1).sum

def interruptedTime (entries : List RideEntry) : Nat :=
  activeTime 0 (entries.dropWhile fun entry => decide (entry.2 ≠ .interrupted))

structure RideLedger where
  entries : List RideEntry := []
  /-- The duration of a ride that was discarded while open, or saved at a recorded duration. -/
  fixed : Option Nat := none
  deriving Repr, DecidableEq

namespace RideLedger

def durationAt (ledger : RideLedger) (time : Nat) : Nat := ledger.fixed.getD (activeTime time ledger.entries)

def note (ledger : RideLedger) (here : Step RideMapRecorder RecordingCall Bool) : RideLedger :=
  match here.output, here.input with
  | true, .start time _ _ => ⟨[(time, .active)], none⟩
  | true, .applyTransition transition time =>
    ⟨(clampedTransitionTimestamp here.before.createdAt here.before.lastMonotonic time, transition.next) :: ledger.entries,
      if transition.event = .discard ∧ transition.previous.isRecording = true then some (interruptedTime ledger.entries)
      else ledger.fixed⟩
  | true, .saveInterrupted recordedDuration =>
    ⟨(here.before.lastMonotonic, .saved) :: ledger.entries, some recordedDuration⟩
  | _, _ => ledger

def of (history : List (Step RideMapRecorder RecordingCall Bool)) : RideLedger := history.foldl note {}

end RideLedger

/-- Two entries that follow each other: time does not go back, and active stretches are maximal. -/
def Succeeds (later earlier : RideEntry) : Prop :=
  earlier.1 ≤ later.1 ∧ ¬ (later.2 = .active ∧ earlier.2 = .active)

variable {time since until_ : Nat} {state : RideLifecycleState} {entries earlier : List RideEntry}

@[simp] theorem activeTime_nil (until_ : Nat) : activeTime until_ [] = 0 := rfl

@[simp] theorem activeTime_active :
    activeTime until_ ((since, .active) :: earlier) = (until_ - since) + activeTime since earlier := rfl

theorem activeTime_of_ne (other : state ≠ .active) :
    activeTime until_ ((since, state) :: earlier) = activeTime since earlier := by
  cases state with
  | active => exact absurd rfl other
  | _ => rfl

theorem activeTime_mono (later : since ≤ until_) (entries : List RideEntry) :
    activeTime since entries ≤ activeTime until_ entries := by
  cases entries with
  | nil => exact le_refl _
  | cons entry earlier =>
    obtain ⟨time, state⟩ := entry
    by_cases active : state = .active
    · subst active
      rw [activeTime_active, activeTime_active]
      omega
    · rw [activeTime_of_ne active, activeTime_of_ne active]

@[simp] theorem interruptedTime_interrupted :
    interruptedTime ((since, .interrupted) :: earlier) = activeTime since earlier := by
  simp [interruptedTime, activeTime_of_ne]

theorem interruptedTime_of_ne (other : state ≠ .interrupted) :
    interruptedTime ((since, state) :: earlier) = interruptedTime earlier := by
  simp [interruptedTime, other]

namespace RideMapRecorder
variable {call : RecordingCall}
variable {transition : ValidatedRideTransition} {observation : LocationObservation} {recordedDuration : Nat}

structure Measured (recorder : RideMapRecorder) (state : RideLifecycleState) (since : Nat) (earlier : List RideEntry) : Prop where
  created : recorder.createdAt ≤ since
  reached : since ≤ recorder.lastMonotonic
  active : state = .active → activeTime since earlier + recorder.pausedDuration = since - recorder.createdAt ∧
    recorder.completedDuration = interruptedTime earlier
  paused : state = .paused → recorder.pausedAt = some since ∧
    activeTime since earlier + recorder.pausedDuration = since - recorder.createdAt ∧
    recorder.completedDuration = interruptedTime earlier
  closed : state = .interrupted ∨ state = .stopped → recorder.pausedAt = none ∧
    recorder.completedDuration = activeTime since earlier ∧ recorder.completedDuration ≤ since - recorder.createdAt

inductive Agrees (recorder : RideMapRecorder) : RideLedger → Prop where
  | fresh (state : recorder.state = none) (completed : recorder.completedDuration = 0) : Agrees recorder {}
  | recording (state : RideLifecycleState) (since : Nat) (earlier : List RideEntry) (known : recorder.state = some state)
      (chain : List.IsChain Succeeds ((since, state) :: earlier))
      (measured : recorder.Measured state since earlier)
      (running : state = .active ∨ state = .paused ∨ state = .interrupted ∨ state = .stopped) :
      Agrees recorder ⟨(since, state) :: earlier, none⟩
  | ended (state : RideLifecycleState) (since : Nat) (earlier : List RideEntry) (fixed : Option Nat)
      (known : recorder.state = some state) (chain : List.IsChain Succeeds ((since, state) :: earlier))
      (completed : recorder.completedDuration = fixed.getD (activeTime since earlier))
      (final : state = .saved ∨ state = .discarded) : Agrees recorder ⟨(since, state) :: earlier, fixed⟩

variable {recorder next : RideMapRecorder} {ledger : RideLedger} {distance : Distance}

structure SameTiming (recorder next : RideMapRecorder) : Prop where
  state : next.state = recorder.state
  createdAt : next.createdAt = recorder.createdAt
  pausedAt : next.pausedAt = recorder.pausedAt
  pausedDuration : next.pausedDuration = recorder.pausedDuration
  completedDuration : next.completedDuration = recorder.completedDuration
  later : recorder.lastMonotonic ≤ next.lastMonotonic

theorem SameTiming.refl (recorder : RideMapRecorder) : SameTiming recorder recorder :=
  ⟨rfl, rfl, rfl, rfl, rfl, le_refl _⟩

theorem SameTiming.agrees (same : SameTiming recorder next) (agrees : recorder.Agrees ledger) : next.Agrees ledger := by
  cases agrees with
  | fresh state completed => exact .fresh (same.state.trans state) (same.completedDuration.trans completed)
  | recording state since earlier known chain measured running =>
    refine .recording state since earlier (same.state.trans known) chain ?_ running
    obtain ⟨created, reached, active, paused, closed⟩ := measured
    refine ⟨?_, reached.trans same.later, ?_, ?_, ?_⟩
    · rw [same.createdAt]
      exact created
    · rw [same.createdAt, same.pausedDuration, same.completedDuration]
      exact active
    · rw [same.createdAt, same.pausedAt, same.pausedDuration, same.completedDuration]
      exact paused
    · rw [same.createdAt, same.pausedAt, same.completedDuration]
      exact closed
  | ended state since earlier fixed known chain completed final =>
    exact .ended state since earlier fixed (same.state.trans known) chain (same.completedDuration.trans completed) final

theorem markStationaryBoundary_same (recorder : RideMapRecorder) (time : Nat) :
    SameTiming recorder (recorder.markStationaryBoundary time) := by
  unfold markStationaryBoundary
  split
  · exact .refl recorder
  · split
    · exact ⟨rfl, rfl, rfl, rfl, rfl, le_refl _⟩
    · exact .refl recorder

theorem observeClock_same (recorder : RideMapRecorder) (sample : LocationSample) :
    SameTiming recorder (recorder.observeClock sample) := ⟨rfl, rfl, rfl, rfl, rfl, Nat.le_max_left _ _⟩

theorem SameTiming.trans {last : RideMapRecorder} (first : SameTiming recorder next) (second : SameTiming next last) :
    SameTiming recorder last :=
  ⟨second.state.trans first.state, second.createdAt.trans first.createdAt, second.pausedAt.trans first.pausedAt,
    second.pausedDuration.trans first.pausedDuration, second.completedDuration.trans first.completedDuration,
    first.later.trans second.later⟩

theorem recordAdmittedSample_same {admitted : AdmittedLocationSample}
    (recorded : recorder.recordAdmittedSample distance admitted = some next) : SameTiming recorder next := by
  unfold recordAdmittedSample at recorded
  split at recorded
  · cases recorded
    exact ⟨rfl, rfl, rfl, rfl, rfl, Nat.le_max_left _ _⟩
  · cases recorded

theorem observeStationary_same (observed : recorder.observeStationary distance observation = some next) :
    SameTiming recorder next := by
  unfold observeStationary at observed
  split at observed
  · cases observed
  · cases observed
    exact (observeClock_same recorder _).trans (markStationaryBoundary_same _ _)

theorem observeClockOnly_same (observed : recorder.observeClockOnly distance observation = some next) :
    SameTiming recorder next := by
  unfold observeClockOnly at observed
  split at observed
  · cases observed
  · split at observed
    · cases observed
      exact observeClock_same recorder _
    · cases observed

section Recorder
variable (recorder : RideMapRecorder)

theorem recordSample_same (sample : LocationSample) :
    SameTiming recorder (recorder.recordSample distance sample).1 := by
  unfold recordSample
  split
  · exact .refl recorder
  · split
    · unfold settle
      split
      · next recorded => exact recordAdmittedSample_same recorded
      · exact .refl recorder
    · unfold observeRepeat
      split
      · next observed => exact observeClockOnly_same observed
      · exact .refl recorder
    · exact .refl recorder

theorem restoreStationaryObservation_same (sample : LocationSample) :
    SameTiming recorder (recorder.restoreStationaryObservation sample) := by
  unfold restoreStationaryObservation
  split
  · exact .refl recorder
  · have marked := markStationaryBoundary_same { recorder with latestLocationObservation := some sample } sample.monotonic
    exact ⟨marked.state, marked.createdAt, marked.pausedAt, marked.pausedDuration, marked.completedDuration, marked.later⟩

theorem restoreLocationObservation_same (time wallClock : Nat) :
    SameTiming recorder (recorder.restoreLocationObservation time wallClock) := by
  unfold restoreLocationObservation
  split
  · exact .refl recorder
  · split
    · exact .refl recorder
    · exact ⟨rfl, rfl, rfl, rfl, rfl, le_refl _⟩

theorem observeVehicle_same (identity : VehicleIdentity) (time : Nat) :
    SameTiming recorder (recorder.observeVehicle identity time).1 := by
  unfold observeVehicle
  repeat' split
  all_goals exact ⟨rfl, rfl, rfl, rfl, rfl, le_refl _⟩

theorem observeTelemetry_same (time : Nat) : SameTiming recorder (recorder.observeTelemetry time).1 := by
  unfold observeTelemetry
  repeat' split
  all_goals exact ⟨rfl, rfl, rfl, rfl, rfl, le_refl _⟩

end Recorder

def Lifecycle : RecordingCall → Prop
  | .start .. | .applyTransition .. | .saveInterrupted _ => True
  | _ => False

theorem taken_same {answer : Option RideMapRecorder} (same : ∀ next, answer = some next → SameTiming recorder next) :
    SameTiming recorder (recorder.taken answer).1 := by
  cases answer with
  | none => exact .refl recorder
  | some next => exact same next rfl

theorem perform_same (other : ¬ Lifecycle call) : SameTiming recorder (recorder.perform distance call).1 := by
  cases call with
  | start | applyTransition | saveInterrupted => exact absurd trivial other
  | recordSample sample => exact recordSample_same recorder sample
  | recordAdmittedSample admitted => exact taken_same fun _ => recordAdmittedSample_same
  | observeStationary observation => exact taken_same fun _ => observeStationary_same
  | observeClockOnly observation => exact taken_same fun _ => observeClockOnly_same
  | markStationaryBoundary time => exact markStationaryBoundary_same recorder time
  | restoreStationaryObservation sample => exact restoreStationaryObservation_same recorder sample
  | restoreLocationObservation time wallClock => exact restoreLocationObservation_same recorder time wallClock
  | observeVehicle identity time => exact observeVehicle_same recorder identity time
  | observeTelemetry time => exact observeTelemetry_same recorder time

structure Transitioned (recorder : RideMapRecorder) (transition : ValidatedRideTransition) (time : Nat)
    (next : RideMapRecorder) : Prop where
  previous : recorder.state = some transition.previous
  state : next.state = some transition.next
  createdAt : next.createdAt = recorder.createdAt
  timing : next.recordingTiming = recorder.recordingTiming.transitioned transition recorder.createdAt time

theorem clamped_again (createdAt latest time : Nat) :
    clampedTransitionTimestamp createdAt latest (clampedTransitionTimestamp createdAt latest time) =
      clampedTransitionTimestamp createdAt latest time := by
  unfold clampedTransitionTimestamp
  omega

theorem applyTransitionAt_ok (applied : recorder.applyTransitionAt transition time = some next) :
    Transitioned recorder transition time next := by
  unfold applyTransitionAt at applied
  split at applied
  · cases applied
  · next allowed =>
    have same : recorder.recordingTiming.transitioned transition recorder.createdAt
        (clampedTransitionTimestamp recorder.createdAt recorder.lastMonotonic time) =
        recorder.recordingTiming.transitioned transition recorder.createdAt time := by
      simp only [RideRecordingTiming.transitioned, recordingTiming, clamped_again]
    simp only [not_or, not_not] at allowed
    cases applied
    exact ⟨allowed.1, rfl, rfl, same⟩

section Transitions
variable {at_ : Nat} (measured : recorder.Measured state since earlier) (later : recorder.lastMonotonic ≤ at_)
  (created : next.createdAt = recorder.createdAt) (reached : next.lastMonotonic = at_)
include measured later created reached

theorem Measured.pause (active : state = .active) (paused : next.pausedAt = some at_)
    (duration : next.pausedDuration = recorder.pausedDuration)
    (completed : next.completedDuration = recorder.completedDuration) :
    next.Measured .paused at_ ((since, state) :: earlier) := by
  obtain ⟨begun, reaches, counts, -, -⟩ := measured
  obtain ⟨sum, interrupted⟩ := counts active
  subst active
  refine ⟨by omega, by omega, nofun, fun _ => ⟨paused, ?_, ?_⟩, by simp⟩
  · rw [activeTime_active, duration, created]
    omega
  · simpa [interruptedTime_of_ne] using completed.trans interrupted

/-- A resume counts everything since the pause or the interruption as paused. -/
theorem Measured.resume (resting : state = .paused ∨ state = .interrupted)
    (duration : next.pausedDuration = at_ - recorder.createdAt -
      recorder.recordingTiming.durationAt state recorder.createdAt at_)
    (completed : next.completedDuration = recorder.completedDuration) :
    next.Measured .active at_ ((since, state) :: earlier) := by
  obtain ⟨begun, reaches, -, rests, closes⟩ := measured
  refine ⟨by omega, by omega, fun _ => ?_, nofun, by simp⟩
  rw [activeTime_of_ne (by rcases resting with rfl | rfl <;> nofun), duration, created, completed]
  rcases resting with rfl | rfl
  · obtain ⟨known, sum, interrupted⟩ := rests rfl
    have recorded : recorder.recordingTiming.durationAt .paused recorder.createdAt at_ =
        since - recorder.createdAt - recorder.pausedDuration := by
      simp [RideRecordingTiming.durationAt, recordingTiming, known]
    refine ⟨by omega, ?_⟩
    simpa [interruptedTime_of_ne] using interrupted
  · obtain ⟨-, counted, bounded⟩ := closes (.inl rfl)
    have recorded : recorder.recordingTiming.durationAt .interrupted recorder.createdAt at_ =
        recorder.completedDuration := rfl
    refine ⟨by omega, ?_⟩
    rw [interruptedTime_interrupted, counted]

/-- A stop or an interruption closes with the duration at its time. -/
theorem Measured.close {closed : RideLifecycleState} (open_ : state = .active ∨ state = .paused)
    (closes : closed = .interrupted ∨ closed = .stopped) (cleared : next.pausedAt = none)
    (completed : next.completedDuration = recorder.recordingTiming.durationAt state recorder.createdAt at_) :
    next.Measured closed at_ ((since, state) :: earlier) := by
  obtain ⟨begun, reaches, counts, rests, -⟩ := measured
  refine ⟨by omega, by omega, ?_, ?_, fun _ => ⟨cleared, ?_⟩⟩
  · rcases closes with rfl | rfl <;> nofun
  · rcases closes with rfl | rfl <;> nofun
  · rw [completed, created]
    rcases open_ with rfl | rfl
    · obtain ⟨sum, -⟩ := counts rfl
      have recorded : recorder.recordingTiming.durationAt .active recorder.createdAt at_ =
          at_ - recorder.createdAt - recorder.pausedDuration := rfl
      rw [activeTime_active, recorded]
      omega
    · obtain ⟨known, sum, -⟩ := rests rfl
      have recorded : recorder.recordingTiming.durationAt .paused recorder.createdAt at_ =
          since - recorder.createdAt - recorder.pausedDuration := by
        simp [RideRecordingTiming.durationAt, recordingTiming, known]
      have skipped : activeTime at_ ((since, .paused) :: earlier) = activeTime since earlier := rfl
      omega

end Transitions

theorem succeeds_chain {at_ : Nat} {changed : RideLifecycleState} (chain : List.IsChain Succeeds ((since, state) :: earlier))
    (later : since ≤ at_) (different : ¬ (changed = .active ∧ state = .active)) :
    List.IsChain Succeeds ((at_, changed) :: (since, state) :: earlier) :=
  List.isChain_cons_cons.mpr ⟨⟨later, different⟩, chain⟩

/-- Every transition keeps the ledger and the counters in step. -/
theorem transition_agrees (agrees : recorder.Agrees ledger)
    (applied : recorder.applyTransitionAt transition time = some next) :
    next.Agrees (ledger.note ⟨recorder, .applyTransition transition time, true, next⟩) := by
  obtain ⟨previous, entered, created, timing⟩ := applyTransitionAt_ok applied
  obtain ⟨before, event, after, valid⟩ := transition
  have clamped : recorder.lastMonotonic ≤ clampedTransitionTimestamp recorder.createdAt recorder.lastMonotonic time := by
    unfold clampedTransitionTimestamp
    omega
  have watermark := congrArg RideRecordingTiming.lastEvent timing
  have paused := congrArg RideRecordingTiming.pausedAt timing
  have pausedFor := congrArg RideRecordingTiming.pausedDuration timing
  have completed : next.completedDuration = _ := congrArg RideRecordingTiming.completedDuration timing
  cases agrees with
  | fresh state _ => cases state.symm.trans previous
  | ended state since earlier fixed known chain _ final =>
    cases known.symm.trans previous
    rcases final with rfl | rfl <;> cases event <;> cases valid
  | recording state since earlier known chain measured running =>
    cases known.symm.trans previous
    have late := measured.reached.trans clamped
    rcases running with rfl | rfl | rfl | rfl
    · cases event <;> cases valid
      · exact .recording .paused _ _ entered (succeeds_chain chain late nofun)
          (measured.pause clamped created watermark rfl paused pausedFor completed) (by simp)
      · exact .recording .stopped _ _ entered (succeeds_chain chain late nofun)
          (measured.close clamped created watermark (.inl rfl) (.inr rfl) paused completed) (by simp)
      · exact .recording .interrupted _ _ entered (succeeds_chain chain late nofun)
          (measured.close clamped created watermark (.inl rfl) (.inl rfl) paused completed) (by simp)
      · refine .ended .discarded _ _ _ entered (succeeds_chain chain late nofun) ?_ (by simp)
        simpa [interruptedTime_of_ne, RideLifecycleState.isRecording] using completed.trans (measured.active rfl).2
    · cases event <;> cases valid
      · exact .recording .active _ _ entered (succeeds_chain chain late nofun)
          (measured.resume clamped created watermark (.inl rfl) pausedFor completed) (by simp)
      · exact .recording .stopped _ _ entered (succeeds_chain chain late nofun)
          (measured.close clamped created watermark (.inr rfl) (.inr rfl) paused completed) (by simp)
      · exact .recording .interrupted _ _ entered (succeeds_chain chain late nofun)
          (measured.close clamped created watermark (.inr rfl) (.inl rfl) paused completed) (by simp)
      · refine .ended .discarded _ _ _ entered (succeeds_chain chain late nofun) ?_ (by simp)
        simpa [interruptedTime_of_ne, RideLifecycleState.isRecording] using completed.trans (measured.paused rfl).2.2
    · cases event <;> cases valid
      · exact .recording .active _ _ entered (succeeds_chain chain late nofun)
          (measured.resume clamped created watermark (.inr rfl) pausedFor completed) (by simp)
      · refine .ended .discarded _ _ _ entered (succeeds_chain chain late nofun) ?_ (by simp)
        exact completed.trans (measured.closed (.inl rfl)).2.1
      · refine .ended .saved _ _ _ entered (succeeds_chain chain late nofun) ?_ (by simp)
        exact completed.trans (measured.closed (.inl rfl)).2.1
    · cases event <;> cases valid
      · refine .ended .discarded _ _ _ entered (succeeds_chain chain late nofun) ?_ (by simp)
        exact completed.trans (measured.closed (.inr rfl)).2.1
      · refine .ended .saved _ _ _ entered (succeeds_chain chain late nofun) ?_ (by simp)
        exact completed.trans (measured.closed (.inr rfl)).2.1

theorem start_agrees {candidateVehicle : Option VehicleIdentity} {generation : Option Nat}
    (started : recorder.start time candidateVehicle generation = some next) :
    next.Agrees (ledger.note ⟨recorder, .start time candidateVehicle generation, true, next⟩) := by
  unfold start at started
  extract_lets closed at started
  clear_value closed
  split at started
  · cases started
    refine .recording .active time [] rfl (List.isChain_singleton _) ?_ (.inl rfl)
    exact ⟨le_refl _, le_refl _, fun _ => ⟨by simp, rfl⟩, nofun, by simp⟩
  · cases started

theorem saveInterrupted_ok (saved : recorder.saveInterruptedAtRecordedDuration recordedDuration = some next) :
    recorder.state = some .interrupted ∧ next.state = some .saved ∧ next.completedDuration = recordedDuration ∧
      recordedDuration ≤ recorder.completedDuration := by
  unfold saveInterruptedAtRecordedDuration at saved
  split at saved
  · cases saved
  · next allowed =>
    simp only [not_or, not_not, Nat.not_lt] at allowed
    obtain ⟨transition, valid, rest⟩ := Option.bind_eq_some_iff.mp saved
    obtain ⟨applied, transitioned, same⟩ := Option.bind_eq_some_iff.mp rest
    cases valid
    cases same
    exact ⟨allowed.1, (applyTransitionAt_ok transitioned).state, rfl, allowed.2.2⟩

theorem saveInterrupted_agrees (agrees : recorder.Agrees ledger)
    (saved : recorder.saveInterruptedAtRecordedDuration recordedDuration = some next) :
    next.Agrees (ledger.note ⟨recorder, .saveInterrupted recordedDuration, true, next⟩) := by
  obtain ⟨interrupted, entered, completed, -⟩ := saveInterrupted_ok saved
  cases agrees with
  | fresh state _ => cases state.symm.trans interrupted
  | ended state since earlier fixed known chain _ final =>
    cases known.symm.trans interrupted
    simp at final
  | recording state since earlier known chain measured running =>
    cases known.symm.trans interrupted
    exact .ended .saved _ _ _ entered (succeeds_chain chain measured.reached nofun) completed (.inl rfl)

theorem note_other (lifecycle : ¬ Lifecycle call) :
    ledger.note (Runs.take (perform distance) recorder call) = ledger := by
  have other (input : RecordingCall) (noted : call = input) : ¬ Lifecycle input := noted ▸ lifecycle
  unfold RideLedger.note
  split
  · next noted => exact absurd trivial (other _ noted)
  · next noted => exact absurd trivial (other _ noted)
  · next noted => exact absurd trivial (other _ noted)
  · rfl

theorem perform_agrees (agrees : recorder.Agrees ledger) (call : RecordingCall) :
    (recorder.perform distance call).1.Agrees (ledger.note (Runs.take (perform distance) recorder call)) := by
  by_cases lifecycle : Lifecycle call
  · cases call with
    | start time candidateVehicle generation =>
      rw [Runs.take, perform]
      cases started : recorder.start time candidateVehicle generation with
      | none => exact agrees
      | some next => exact start_agrees started
    | applyTransition transition time =>
      rw [Runs.take, perform]
      cases applied : recorder.applyTransitionAt transition time with
      | none => exact agrees
      | some next => exact transition_agrees agrees applied
    | saveInterrupted recordedDuration =>
      rw [Runs.take, perform]
      cases saved : recorder.saveInterruptedAtRecordedDuration recordedDuration with
      | none => exact agrees
      | some next => exact saveInterrupted_agrees agrees saved
    | _ => cases lifecycle
  · rw [note_other lifecycle]
    exact (perform_same lifecycle).agrees agrees

abbrev performed (distance : Distance) (calls : List RecordingCall) : RideMapRecorder :=
  Runs.final (perform distance) {} calls

abbrev ledgerOf (distance : Distance) (calls : List RecordingCall) : RideLedger :=
  .of (Runs.history (perform distance) {} calls)

theorem performed_agrees (distance : Distance) (calls : List RecordingCall) :
    (performed distance calls).Agrees (ledgerOf distance calls) := by
  refine Runs.induction_on (P := fun history (recorder : RideMapRecorder) => recorder.Agrees (.of history)) ?_ ?_ calls
  · exact .fresh rfl rfl
  · intro past recorder call agrees
    rw [RideLedger.of, List.foldl_append]
    exact perform_agrees agrees call

theorem Agrees.chain (agrees : recorder.Agrees ledger) : List.IsChain Succeeds ledger.entries := by
  cases agrees with
  | fresh => exact List.isChain_nil
  | recording _ _ _ _ chain | ended _ _ _ _ _ chain => exact chain

theorem durationMillisecondsAt_eq (known : recorder.state = some state) (time : Nat) :
    recorder.durationMillisecondsAt time = recorder.recordingTiming.durationAt state recorder.createdAt time := by
  rw [durationMillisecondsAt, known, Option.getD_some]

theorem Agrees.duration (agrees : recorder.Agrees ledger) (later : recorder.lastMonotonic ≤ time) :
    recorder.durationMillisecondsAt time = ledger.durationAt time := by
  cases agrees with
  | fresh state completed =>
    rw [durationMillisecondsAt, state]
    exact completed
  | recording state since earlier known chain measured running =>
    rw [durationMillisecondsAt_eq known, RideLedger.durationAt, Option.getD_none]
    obtain ⟨created, reached, active, paused, closed⟩ := measured
    rcases running with rfl | rfl | rfl | rfl
    · obtain ⟨sum, -⟩ := active rfl
      show time - recorder.createdAt - recorder.pausedDuration = (time - since) + activeTime since earlier
      omega
    · obtain ⟨known, sum, -⟩ := paused rfl
      show recorder.pausedAt.getD time - recorder.createdAt - recorder.pausedDuration = activeTime since earlier
      rw [known, Option.getD_some]
      omega
    · exact (closed (.inl rfl)).2.1
    · exact (closed (.inr rfl)).2.1
  | ended state since earlier fixed known chain completed final =>
    rw [durationMillisecondsAt_eq known, RideLedger.durationAt]
    rcases final with rfl | rfl
    · exact completed
    · exact completed

/-- No subtraction of `duration_at` goes below zero. -/
def Unsaturated (timing : RideRecordingTiming) (state : RideLifecycleState) (createdAt time : Nat) : Prop :=
  match state with
  | .active => createdAt ≤ time ∧ timing.pausedDuration ≤ time - createdAt
  | .paused => createdAt ≤ timing.pausedAt.getD time ∧ timing.pausedDuration ≤ timing.pausedAt.getD time - createdAt
  | _ => True

section Agrees
variable (agrees : recorder.Agrees ledger) (known : recorder.state = some state)
include agrees known

theorem Agrees.unsaturated (later : recorder.lastMonotonic ≤ time) :
    Unsaturated recorder.recordingTiming state recorder.createdAt time := by
  cases agrees with
  | fresh absent _ => cases absent.symm.trans known
  | ended ends since earlier fixed same chain completed final =>
    cases same.symm.trans known
    rcases final with rfl | rfl <;> trivial
  | recording current since earlier same chain measured running =>
    cases same.symm.trans known
    obtain ⟨created, reached, active, paused, closed⟩ := measured
    rcases running with rfl | rfl | rfl | rfl
    · obtain ⟨sum, -⟩ := active rfl
      show recorder.createdAt ≤ time ∧ recorder.pausedDuration ≤ time - recorder.createdAt
      omega
    · obtain ⟨paused, sum, -⟩ := paused rfl
      show recorder.createdAt ≤ recorder.pausedAt.getD time ∧
        recorder.pausedDuration ≤ recorder.pausedAt.getD time - recorder.createdAt
      rw [paused, Option.getD_some]
      omega
    · trivial
    · trivial

/-- A resume subtracts a duration no longer than the time since the start. -/
theorem Agrees.resume_unsaturated (later : recorder.lastMonotonic ≤ time)
    (resting : state = .paused ∨ state = .interrupted) : recorder.createdAt ≤ time ∧
      recorder.recordingTiming.durationAt state recorder.createdAt time ≤ time - recorder.createdAt := by
  cases agrees with
  | fresh absent _ => cases absent.symm.trans known
  | ended ends since earlier fixed same chain completed final =>
    cases same.symm.trans known
    rcases resting with rfl | rfl <;> simp at final
  | recording current since earlier same chain measured running =>
    cases same.symm.trans known
    obtain ⟨created, reached, -, paused, closed⟩ := measured
    refine ⟨by omega, ?_⟩
    rcases resting with rfl | rfl
    · obtain ⟨paused, -, -⟩ := paused rfl
      show recorder.pausedAt.getD time - recorder.createdAt - recorder.pausedDuration ≤ time - recorder.createdAt
      rw [paused, Option.getD_some]
      omega
    · obtain ⟨-, -, bounded⟩ := closed (.inl rfl)
      show recorder.completedDuration ≤ time - recorder.createdAt
      omega

theorem Agrees.restored (metadata : RideMapMetadata) (route : List RideMapPoint) (summary : RideSummary)
    (generation : Option Nat) (time : Nat) :
    (RideMapRecorder.restored state recorder.createdAt metadata route summary recorder.recordingTiming
      generation).durationMillisecondsAt time = recorder.durationMillisecondsAt time := by
  rw [durationMillisecondsAt_eq known]
  cases agrees with
  | fresh absent _ => cases absent.symm.trans known
  | ended ends since earlier fixed same chain completed final =>
    cases same.symm.trans known
    rcases final with rfl | rfl <;> rfl
  | recording current since earlier same chain measured running =>
    cases same.symm.trans known
    obtain ⟨created, reached, -, paused, -⟩ := measured
    rcases running with rfl | rfl | rfl | rfl
    · rfl
    · obtain ⟨paused, -, -⟩ := paused rfl
      have clamped (last : Nat) (later : recorder.lastMonotonic ≤ last) :
          min (max since recorder.createdAt) last = since := by omega
      simp only [RideMapRecorder.restored, durationMillisecondsAt, recordingTiming, Option.getD_some,
        RideRecordingTiming.durationAt, paused, if_true, Option.map_some]
      rw [clamped]
      omega
    · rfl
    · rfl

end Agrees

def Lowers : RecordingCall → Prop
  | .start .. | .saveInterrupted _ => True
  | .applyTransition transition _ => transition.event = .discard
  | _ => False

theorem durationAt_mono (ledger : RideLedger) (later : since ≤ until_) :
    ledger.durationAt since ≤ ledger.durationAt until_ := by
  unfold RideLedger.durationAt
  cases ledger.fixed with
  | none => exact activeTime_mono later ledger.entries
  | some fixed => exact le_refl _

theorem activeTime_entered (until_ : Nat) : activeTime since entries ≤ activeTime until_ ((since, state) :: entries) := by
  by_cases active : state = .active
  · subst active
    rw [activeTime_active]
    omega
  · rw [activeTime_of_ne active]

/-- A duration read no later than the next event is not lowered by it. -/
theorem perform_mono (agrees : recorder.Agrees ledger) (kept : ¬ Lowers call) {asked : Nat}
    (reached : recorder.lastMonotonic ≤ asked) (later : asked ≤ until_)
    (watermark : (recorder.perform distance call).1.lastMonotonic ≤ until_)
    (before : ∀ transition time, call = .applyTransition transition time →
      asked ≤ clampedTransitionTimestamp recorder.createdAt recorder.lastMonotonic time) :
    recorder.durationMillisecondsAt asked ≤ (recorder.perform distance call).1.durationMillisecondsAt until_ := by
  rw [agrees.duration reached, (perform_agrees agrees call).duration watermark]
  have unnoted (same : ledger.note (Runs.take (perform distance) recorder call) = ledger) :
      ledger.durationAt asked ≤ (ledger.note (Runs.take (perform distance) recorder call)).durationAt until_ := by
    rw [same]
    exact durationAt_mono ledger later
  cases call with
  | start | saveInterrupted => exact absurd trivial kept
  | applyTransition transition time =>
    have early := before transition time rfl
    cases applied : recorder.applyTransitionAt transition time with
    | none =>
      apply unnoted
      rw [Runs.take, perform, applied]
      rfl
    | some next =>
      have noted : ledger.note (Runs.take (perform distance) recorder (.applyTransition transition time)) =
          ⟨(clampedTransitionTimestamp recorder.createdAt recorder.lastMonotonic time, transition.next) :: ledger.entries,
            ledger.fixed⟩ := by
        rw [Runs.take, perform, applied]
        show RideLedger.mk _ (if _ then _ else _) = _
        rw [if_neg fun discards => kept discards.1]
      rw [noted]
      unfold RideLedger.durationAt
      cases ledger.fixed with
      | some fixed => exact le_refl _
      | none => exact (activeTime_mono early ledger.entries).trans (activeTime_entered until_)
  | _ =>
    apply unnoted
    exact note_other (by simp [Lifecycle])

/-- Along every run the duration is the active time under the clamped event times, with a fixed one
behind a discard of an open ride and behind a save at a recorded duration. Only these and a new start
lower it, no subtraction goes below zero, and the stored timing restores it. -/
theorem ride_duration_is_active_time (distance : Distance) (calls : List RecordingCall) :
    List.IsChain Succeeds (ledgerOf distance calls).entries ∧
    (∀ time, (performed distance calls).lastMonotonic ≤ time →
      (performed distance calls).durationMillisecondsAt time = (ledgerOf distance calls).durationAt time) ∧
    (∀ call asked until_, ¬ Lowers call → (performed distance calls).lastMonotonic ≤ asked → asked ≤ until_ →
      (performed distance (calls ++ [call])).lastMonotonic ≤ until_ →
      (∀ transition time, call = .applyTransition transition time → asked ≤ clampedTransitionTimestamp
        (performed distance calls).createdAt (performed distance calls).lastMonotonic time) →
      (performed distance calls).durationMillisecondsAt asked ≤
        (performed distance (calls ++ [call])).durationMillisecondsAt until_) ∧
    ∀ state, (performed distance calls).state = some state → ∀ time, (performed distance calls).lastMonotonic ≤ time →
      Unsaturated (performed distance calls).recordingTiming state (performed distance calls).createdAt time ∧
      (state = .paused ∨ state = .interrupted → (performed distance calls).createdAt ≤ time ∧
        (performed distance calls).recordingTiming.durationAt state (performed distance calls).createdAt time ≤
          time - (performed distance calls).createdAt) ∧
      ∀ metadata route summary generation,
        (RideMapRecorder.restored state (performed distance calls).createdAt metadata route summary
          (performed distance calls).recordingTiming generation).durationMillisecondsAt time =
        (performed distance calls).durationMillisecondsAt time := by
  have agrees := performed_agrees distance calls
  refine ⟨agrees.chain, fun time later => agrees.duration later, ?_, ?_⟩
  · intro call asked until_ kept reached later watermark before
    have last : performed distance (calls ++ [call]) = ((performed distance calls).perform distance call).1 :=
      Runs.final_append _ _ calls [call]
    rw [last] at watermark ⊢
    exact perform_mono agrees kept reached later watermark before
  · intro state known time later
    refine ⟨agrees.unsaturated known later, agrees.resume_unsaturated known later, ?_⟩
    intro metadata route summary generation
    exact agrees.restored known metadata route summary generation time

def discardedRide : List RecordingCall :=
  [.start 0 none (some 1), .applyTransition ⟨.active, .discard, .discarded, by decide⟩ 100]

theorem discarded_ride_has_no_duration : ¬ ∀ (distance : Distance) (calls : List RecordingCall) (time : Nat),
    (performed distance calls).lastMonotonic ≤ time →
    (performed distance calls).durationMillisecondsAt time = activeTime time (ledgerOf distance calls).entries := by
  intro always
  have wrong := always (fun _ _ => 0) discardedRide 100 (by decide)
  revert wrong
  decide

/-- A ride of 60 ms, interrupted for 40 ms, resumed and stopped at 150 ms. -/
def interruptedRide : List RecordingCall :=
  [.start 0 none (some 1), .applyTransition ⟨.active, .interrupt, .interrupted, by decide⟩ 60,
    .applyTransition ⟨.interrupted, .resume, .active, by decide⟩ 100, .applyTransition ⟨.active, .stop, .stopped, by decide⟩ 150]

theorem interrupted_ride_lasts : (performed (fun _ _ => 0) interruptedRide).lastMonotonic ≤ 200 ∧
    (performed (fun _ _ => 0) interruptedRide).durationMillisecondsAt 200 = 110 := by
  refine ⟨by decide, ?_⟩
  rw [(ride_duration_is_active_time (fun _ _ => 0) interruptedRide).2.1 200 (by decide)]
  decide

end RideMapRecorder
end Cutout.Rides

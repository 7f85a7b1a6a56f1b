import Cutout.RideConnection
import Cutout.Library.Replay

/-! The queued writes of a ride replayed over its durable recorder. Each operation on
a recorder passes the queue, except a stationary mark at the very time of the newest
queued fix, and a resume of a ride that was restored without points. -/

namespace Cutout.Rides
open Library
open Protocols (u64Max)
open RecordingState (settled replay)
variable {time : Nat}

namespace RideMapRecorder

def untimed (recorder : RideMapRecorder) : RideMapRecorder :=
  { recorder with activeStartedAt := none, pausedAt := none, pausedDuration := 0, completedDuration := 0 }

def Owns (recorder : RideMapRecorder) (pending : PendingLocation) : Prop :=
  recorder.recordingGeneration = some pending.admitted.recordingGeneration

def Reached (recorder : RideMapRecorder) (time : Nat) : Prop :=
  ∃ last, recorder.lastPointAt = some last ∧ time ≤ last

theorem takes_iff {recorder : RideMapRecorder} {admitted : AdmittedLocationSample} :
    recorder.takes admitted = true ↔ recorder.state.any RideLifecycleState.settles = true ∧
      recorder.recordingGeneration = some admitted.recordingGeneration ∧
        ¬recorder.Reached admitted.sample.monotonic := by
  simp only [takes, Reached, Bool.and_eq_true, decide_eq_true_eq, Option.all_eq_true, not_exists, not_and, Nat.not_le,
    and_assoc]

end RideMapRecorder

variable {distance : Distance} {recorder : RideMapRecorder} {pending : PendingLocation} {queue : List PendingLocation}

section Settled
variable (distance)

section Recorder
variable (recorder : RideMapRecorder)

theorem settled_eq (admitted : AdmittedLocationSample) : settled distance recorder admitted =
      if recorder.takes admitted then recorder.recorded distance admitted else recorder := by
  unfold settled RideMapRecorder.recordAdmittedSample
  split <;> rfl

theorem settled_untimed (admitted : AdmittedLocationSample) :
    (settled distance recorder admitted).untimed = settled distance recorder.untimed admitted := by
  have same : recorder.untimed.takes admitted = recorder.takes admitted := rfl
  rw [settled_eq, settled_eq, same]
  split
  · simp only [RideMapRecorder.recorded, RideMapRecorder.untimed, RideMapRecorder.preservesResume,
      RideMapRecorder.behindBoundary, RideMapRecorder.addedDistance]
    congr 1
  · rfl

theorem replay_cons (pending : PendingLocation) (queue : List PendingLocation) :
    replay distance recorder (pending :: queue) =
      replay distance (settled distance recorder pending.admitted) queue := rfl

theorem replay_untimed (queue : List PendingLocation) :
    (replay distance recorder queue).untimed = replay distance recorder.untimed queue := by
  induction queue generalizing recorder with
  | nil => rfl
  | cons pending queue ih =>
    rw [replay_cons, ih, settled_untimed]
    rfl

/-- A settled point moves neither the identity of the recording nor its vehicle. -/
theorem settled_frame (admitted : AdmittedLocationSample) : let after := settled distance recorder admitted
    after.state = recorder.state ∧ after.recordingGeneration = recorder.recordingGeneration ∧
      after.activeIntervalGeneration = recorder.activeIntervalGeneration ∧ after.createdAt = recorder.createdAt ∧
      after.candidateVehicle = recorder.candidateVehicle ∧ after.associatedVehicle = recorder.associatedVehicle ∧
      after.associatedAt = recorder.associatedAt ∧ after.lastTelemetryAt = recorder.lastTelemetryAt := by
  simp only [settled_eq]
  split <;> exact ⟨rfl, rfl, rfl, rfl, rfl, rfl, rfl, rfl⟩

private theorem settled_lastMonotonic (admitted : AdmittedLocationSample) :
    recorder.lastMonotonic ≤ (settled distance recorder admitted).lastMonotonic := by
  rw [settled_eq]
  split
  · exact Nat.le_max_left _ _
  · exact Nat.le_refl _

private theorem settled_segmentId (admitted : AdmittedLocationSample) :
    recorder.segmentId ≤ (settled distance recorder admitted).segmentId := by
  rw [settled_eq]
  split
  · exact Nat.le_max_left _ _
  · exact Nat.le_refl _

theorem replay_frame (queue : List PendingLocation) : let after := replay distance recorder queue
    after.state = recorder.state ∧ after.recordingGeneration = recorder.recordingGeneration ∧
      after.activeIntervalGeneration = recorder.activeIntervalGeneration ∧ after.createdAt = recorder.createdAt ∧
      after.candidateVehicle = recorder.candidateVehicle ∧ after.associatedVehicle = recorder.associatedVehicle ∧
      after.associatedAt = recorder.associatedAt ∧ after.lastTelemetryAt = recorder.lastTelemetryAt := by
  induction queue generalizing recorder with
  | nil => exact ⟨rfl, rfl, rfl, rfl, rfl, rfl, rfl, rfl⟩
  | cons pending queue ih =>
    have frame := settled_frame distance recorder pending.admitted
    have rest := ih (settled distance recorder pending.admitted)
    simp only [frame] at rest
    exact rest

private theorem replay_lastMonotonic (queue : List PendingLocation) :
    recorder.lastMonotonic ≤ (replay distance recorder queue).lastMonotonic :=
  Replay.monotone RideMapRecorder.lastMonotonic
    (fun base (next : PendingLocation) => settled_lastMonotonic distance base next.admitted) recorder queue

theorem replay_segmentId (queue : List PendingLocation) :
    recorder.segmentId ≤ (replay distance recorder queue).segmentId :=
  Replay.monotone RideMapRecorder.segmentId
    (fun base (next : PendingLocation) => settled_segmentId distance base next.admitted) recorder queue

end Recorder

end Settled

private theorem pushPoint_getLast (points : List RideMapPoint) (point : RideMapPoint) :
    (RideMapRecorder.pushPoint points point).getLast? = some point := by
  unfold RideMapRecorder.pushPoint
  have few : points.length + 1 - maxLiveRoutePoints ≤ points.length := by
    unfold maxLiveRoutePoints
    omega
  rw [List.drop_append_of_le_length few]
  simp

theorem recorded_getLast (distance : Distance) (recorder : RideMapRecorder) (admitted : AdmittedLocationSample) :
    (recorder.recorded distance admitted).points.getLast? = some admitted.point := by
  simp only [RideMapRecorder.recorded, pushPoint_getLast]

theorem recorded_lastPointAt (distance : Distance) (recorder : RideMapRecorder) (admitted : AdmittedLocationSample) :
    (recorder.recorded distance admitted).lastPointAt = some admitted.sample.monotonic := by
  rw [RideMapRecorder.lastPointAt, recorded_getLast]
  rfl

theorem settled_reached (distance : Distance) (admitted : AdmittedLocationSample) (reached : recorder.Reached time) :
    (settled distance recorder admitted).Reached time := by
  rw [settled_eq]
  split
  · rename_i taken
    obtain ⟨last, known, behind⟩ := reached
    refine ⟨admitted.sample.monotonic, recorded_lastPointAt distance recorder admitted, ?_⟩
    have fresh := (RideMapRecorder.takes_iff.mp taken).2.2
    by_contra later
    exact fresh ⟨last, known, by omega⟩
  · exact reached

theorem replay_reached (distance : Distance) (queue : List PendingLocation) (reached : recorder.Reached time) :
    (replay distance recorder queue).Reached time := by
  have grows := Replay.monotone (fun recorder => RideMapRecorder.Reached recorder time)
    (fun _ (next : PendingLocation) => settled_reached distance next.admitted) recorder queue
  exact grows reached

theorem settled_foreign (foreign : ¬recorder.Owns pending) : settled distance recorder pending.admitted = recorder := by
  rw [settled_eq, if_neg]
  intro taken
  exact foreign (RideMapRecorder.takes_iff.mp taken).2.1

theorem replay_foreign (foreign : ∀ pending ∈ queue, ¬recorder.Owns pending) : replay distance recorder queue = recorder :=
  Replay.fixed fun pending member => settled_foreign (foreign pending member)

theorem le_nextSegment (segmentId : Nat) : segmentId ≤ nextSegment segmentId := by
  unfold nextSegment
  split <;> omega

private theorem nextSegment_max (first second : Nat) :
    nextSegment (max first second) = max (nextSegment first) (nextSegment second) := by
  unfold nextSegment
  rcases Nat.le_total first second with less | less
  · rw [Nat.max_eq_right less]
    split <;> split <;> omega
  · rw [Nat.max_eq_left less]
    split <;> split <;> omega

/-- What is known of the writes in flight: they belong to this recording only while it may settle them, they lie
behind its points and behind each other, and behind a resume those admitted since then are in later segments. -/
structure Queued (recorder : RideMapRecorder) (queue : List PendingLocation) : Prop where
  lifecycle : ∀ pending ∈ queue, recorder.Owns pending → recorder.state.any RideLifecycleState.settles = true
  interval : ∀ pending ∈ queue, recorder.Owns pending →
    pending.admitted.activeIntervalGeneration ≤ recorder.activeIntervalGeneration
  behind : ∀ pending ∈ queue, recorder.Owns pending → ∀ last, recorder.lastPointAt = some last →
    last < pending.admitted.sample.monotonic
  ordered : queue.Pairwise fun earlier later => recorder.Owns earlier → recorder.Owns later →
    earlier.admitted.sample.monotonic < later.admitted.sample.monotonic
  segment : recorder.segmentStarted = true → ∀ pending ∈ queue, recorder.Owns pending →
    pending.admitted.activeIntervalGeneration = recorder.activeIntervalGeneration →
      recorder.segmentId ≤ pending.admitted.point.segmentId ∧ ∀ stale ∈ queue, recorder.Owns stale →
        stale.admitted.activeIntervalGeneration ≠ recorder.activeIntervalGeneration →
          nextSegment stale.admitted.point.segmentId ≤ pending.admitted.point.segmentId

namespace Queued

theorem of_foreign (foreign : ∀ pending ∈ queue, ¬recorder.Owns pending) : Queued recorder queue where
  lifecycle pending member owned := absurd owned (foreign pending member)
  interval pending member owned := absurd owned (foreign pending member)
  behind pending member owned := absurd owned (foreign pending member)
  ordered := List.pairwise_of_forall_mem_list fun earlier member _ _ owned => absurd owned (foreign earlier member)
  segment _ pending member owned := absurd owned (foreign pending member)

theorem tail (queued : Queued recorder (pending :: queue)) : Queued recorder queue where
  lifecycle other member := queued.lifecycle other (List.mem_cons_of_mem _ member)
  interval other member := queued.interval other (List.mem_cons_of_mem _ member)
  behind other member := queued.behind other (List.mem_cons_of_mem _ member)
  ordered := queued.ordered.of_cons
  segment started other member owned current := by
    obtain ⟨above, later⟩ := queued.segment started other (List.mem_cons_of_mem _ member) owned current
    exact ⟨above, fun stale inside => later stale (List.mem_cons_of_mem _ inside)⟩

theorem takes (queued : Queued recorder (pending :: queue)) (owned : recorder.Owns pending) :
    recorder.takes pending.admitted = true := by
  apply RideMapRecorder.takes_iff.mpr
  refine ⟨queued.lifecycle pending List.mem_cons_self owned, owned, ?_⟩
  rintro ⟨last, known, reached⟩
  have behind := queued.behind pending List.mem_cons_self owned last known
  omega

theorem settled_eq_recorded (distance : Distance) (queued : Queued recorder (pending :: queue)) (owned : recorder.Owns pending) :
    settled distance recorder pending.admitted = recorder.recorded distance pending.admitted := by
  rw [settled_eq, if_pos (queued.takes owned)]

theorem settle (queued : Queued recorder (pending :: queue)) : Queued (settled distance recorder pending.admitted) queue := by
  by_cases taken : recorder.takes pending.admitted = true
  · rw [settled_eq, if_pos taken]
    have owned : recorder.Owns pending := (RideMapRecorder.takes_iff.mp taken).2.1
    have rest := queued.tail
    refine ⟨rest.lifecycle, rest.interval, ?_, rest.ordered, ?_⟩
    · intro other member foreign last known
      rw [recorded_lastPointAt] at known
      cases known
      exact (List.pairwise_cons.mp queued.ordered).1 other member owned foreign
    · intro started other member foreign current
      have preserves : recorder.segmentStarted = true ∧
          pending.admitted.activeIntervalGeneration ≠ recorder.activeIntervalGeneration := by
        simpa [RideMapRecorder.recorded, RideMapRecorder.preservesResume] using started
      obtain ⟨above, later⟩ := queued.segment preserves.1 other (List.mem_cons_of_mem _ member) foreign current
      refine ⟨?_, fun stale inside => later stale (List.mem_cons_of_mem _ inside)⟩
      have bound := later pending List.mem_cons_self owned preserves.2
      have kept : recorder.preservesResume pending.admitted = true := by
        simp [RideMapRecorder.preservesResume, preserves]
      show max recorder.segmentId (if recorder.preservesResume pending.admitted = true then _ else _) ≤ _
      rw [kept, if_pos rfl]
      exact Nat.max_le.mpr ⟨above, bound⟩
  · rw [settled_eq, if_neg taken]
    exact queued.tail

/-- The replayed route ends behind every write of this recording. -/
theorem replay_reaches (queued : Queued recorder queue) (member : pending ∈ queue) (owned : recorder.Owns pending) :
    (replay distance recorder queue).Reached pending.admitted.sample.monotonic := by
  induction queue generalizing recorder with
  | nil => cases member
  | cons next queue ih =>
    have same := (settled_frame distance recorder next.admitted).2.1
    cases member with
    | head =>
      have reached : (settled distance recorder pending.admitted).Reached pending.admitted.sample.monotonic := by
        rw [queued.settled_eq_recorded distance owned]
        exact ⟨_, recorded_lastPointAt _ _ _, Nat.le_refl _⟩
      exact replay_reached distance queue reached
    | tail _ inside =>
      apply ih queued.settle inside
      unfold RideMapRecorder.Owns
      rw [same]
      exact owned

private theorem replay_segments (queued : Queued recorder queue) (started : recorder.segmentStarted = true)
    (member : pending ∈ queue) (owned : recorder.Owns pending)
    (stale : pending.admitted.activeIntervalGeneration ≠ recorder.activeIntervalGeneration) :
    nextSegment pending.admitted.point.segmentId ≤ (replay distance recorder queue).segmentId := by
  induction queue generalizing recorder with
  | nil => cases member
  | cons next queue ih =>
    have frame := settled_frame distance recorder next.admitted
    by_cases mine : recorder.Owns next
    · by_cases current : next.admitted.activeIntervalGeneration = recorder.activeIntervalGeneration
      · -- The first write since the resume is already in a later segment.
        obtain ⟨-, later⟩ := queued.segment started next List.mem_cons_self mine current
        have bound := later pending member owned stale
        have grows : next.admitted.point.segmentId ≤ (settled distance recorder next.admitted).segmentId := by
          rw [queued.settled_eq_recorded distance mine]
          simp only [RideMapRecorder.recorded, RideMapRecorder.preservesResume, current, ne_eq, not_true_eq_false,
            decide_false, Bool.and_false, Bool.false_eq_true, if_false]
          exact Nat.le_max_right _ _
        exact bound.trans (grows.trans (replay_segmentId distance _ queue))
      · have kept : recorder.preservesResume next.admitted = true := by
          simp [RideMapRecorder.preservesResume, started, current]
        have settles := queued.settled_eq_recorded distance mine
        cases member with
        | head =>
          have grows : nextSegment pending.admitted.point.segmentId ≤
              (settled distance recorder pending.admitted).segmentId := by
            rw [settles]
            simp only [RideMapRecorder.recorded, kept, if_true]
            exact Nat.le_max_right _ _
          exact grows.trans (replay_segmentId distance _ queue)
        | tail _ inside =>
          apply ih queued.settle
          · rw [settles]
            exact kept
          · exact inside
          · exact frame.2.1.trans owned
          · rw [frame.2.2.1]
            exact stale
    · have same : settled distance recorder next.admitted = recorder := settled_foreign mine
      cases member with
      | head => exact absurd owned mine
      | tail _ inside =>
        show _ ≤ (replay distance (settled distance recorder next.admitted) queue).segmentId
        rw [same]
        exact ih queued.tail started inside owned stale

theorem push (queued : Queued recorder queue)
    (taken : (replay distance recorder queue).takes pending.admitted = true)
    (current : pending.admitted.activeIntervalGeneration = recorder.activeIntervalGeneration)
    (behind : (replay distance recorder queue).segmentId ≤ pending.admitted.point.segmentId) :
    Queued recorder (queue ++ [pending]) := by
  have frame := replay_frame distance recorder queue
  obtain ⟨lifecycle, owned, fresh⟩ := RideMapRecorder.takes_iff.mp taken
  rw [frame.1] at lifecycle
  rw [frame.2.1] at owned
  have earlier : ∀ time, (replay distance recorder queue).Reached time → time < pending.admitted.sample.monotonic := by
    rintro time ⟨last, known, reached⟩
    by_contra later
    exact fresh ⟨last, known, by omega⟩
  refine ⟨?_, ?_, ?_, ?_, ?_⟩
  · intro other _ _
    exact lifecycle
  · intro other member mine
    rcases List.mem_append.mp member with inside | newest
    · exact queued.interval other inside mine
    · rw [List.mem_singleton.mp newest]
      exact current.le
  · intro other member mine last known
    rcases List.mem_append.mp member with inside | newest
    · exact queued.behind other inside mine last known
    · rw [List.mem_singleton.mp newest]
      exact earlier last (replay_reached distance queue ⟨last, known, Nat.le_refl _⟩)
  · refine List.pairwise_append.mpr ⟨queued.ordered, List.pairwise_singleton _ _, ?_⟩
    intro other inside newest member mine _
    rw [List.mem_singleton.mp member]
    exact earlier _ (queued.replay_reaches inside mine)
  · intro started other member mine interval
    rcases List.mem_append.mp member with inside | newest
    · obtain ⟨above, later⟩ := queued.segment started other inside mine interval
      refine ⟨above, fun stale among theirs old => ?_⟩
      rcases List.mem_append.mp among with within | last
      · exact later stale within theirs old
      · rw [List.mem_singleton.mp last] at old
        exact absurd current old
    · rw [List.mem_singleton.mp newest]
      refine ⟨(replay_segmentId distance recorder queue).trans behind, fun stale among theirs old => ?_⟩
      rcases List.mem_append.mp among with within | last
      · exact (queued.replay_segments started within theirs old).trans behind
      · rw [List.mem_singleton.mp last] at old
        exact absurd current old

end Queued

section Transitions
variable {after : RideMapRecorder}

/-- A closed ride is saved or discarded without an event of its own. -/
def ValidatedRideTransition.closes (transition : ValidatedRideTransition) : Bool :=
  match transition.previous, transition.next with
  | .stopped, .saved | .stopped, .discarded | .interrupted, .saved | .interrupted, .discarded => true
  | _, _ => false

private theorem transitioned_lastEvent (timing : RideRecordingTiming) (transition : ValidatedRideTransition)
    (createdAt time : Nat) :
    (timing.transitioned transition createdAt time).lastEvent =
      if transition.closes then timing.lastEvent else clampedTransitionTimestamp createdAt timing.lastEvent time := by
  obtain ⟨previous, event, next, valid⟩ := transition
  cases previous <;> cases next <;> rfl

def RideMapRecorder.moved (transition : ValidatedRideTransition) (time : Nat) (recorder : RideMapRecorder) :
    RideMapRecorder :=
  let opens := transition.resumes && !recorder.segmentStarted && decide (recorder.points ≠ [])
  { recorder.untimed with
    segmentId := if opens then nextSegment recorder.segmentId else recorder.segmentId
    segmentStarted := recorder.segmentStarted || opens
    activeIntervalGeneration :=
      if transition.resumes then recorder.activeIntervalGeneration + 1 else recorder.activeIntervalGeneration
    lastMonotonic := if transition.closes then recorder.lastMonotonic
      else max recorder.lastMonotonic (max time recorder.createdAt)
    state := some transition.next }

variable {transition : ValidatedRideTransition} {time : Nat}

theorem applyTransitionAt_eq (recorder : RideMapRecorder) (transition : ValidatedRideTransition) (time : Nat) :
    (recorder.applyTransitionAt transition time).map RideMapRecorder.untimed =
      if recorder.state ≠ some transition.previous ∨
          (transition.resumes = true ∧ recorder.activeIntervalGeneration = u64Max) then none
      else some (recorder.untimed.moved transition time) := by
  unfold RideMapRecorder.applyTransitionAt
  split
  · rfl
  · simp only [Option.map_some, Option.some.injEq, transitioned_lastEvent, RideMapRecorder.moved,
      RideMapRecorder.untimed, RideMapRecorder.recordingTiming]
    congr 1
    unfold clampedTransitionTimestamp
    split
    · rfl
    · omega

theorem applyTransitionAt_some (applied : recorder.applyTransitionAt transition time = some after) :
    recorder.state = some transition.previous ∧ after.untimed = recorder.untimed.moved transition time := by
  have shape := applyTransitionAt_eq recorder transition time
  rw [applied] at shape
  split at shape
  · cases shape
  · rename_i refused
    simp only [Option.map_some, Option.some.injEq] at shape
    exact ⟨by_contra fun other => refused (.inl other), shape⟩

theorem applyTransitionAt_recording (applied : recorder.applyTransitionAt transition time = some after) :
    after.recordingGeneration = recorder.recordingGeneration := by
  have same := congrArg RideMapRecorder.recordingGeneration (applyTransitionAt_some applied).2
  exact same

theorem settles_next (transition : ValidatedRideTransition) (keeps : transition.event ≠ .discard)
    (before : transition.previous.settles = true) : transition.next.settles = true := by
  obtain ⟨previous, event, next, valid⟩ := transition
  cases previous <;> cases event <;> first
    | exact absurd rfl keeps
    | exact absurd before Bool.false_ne_true
    | cases valid <;> rfl

/-- A resume finds a segment open, or a point to open one behind, or no write of its recording in flight. -/
def Resumable (recorder : RideMapRecorder) (queue : List PendingLocation) : Prop :=
  recorder.segmentStarted = true ∨ recorder.points ≠ [] ∨ ∀ pending ∈ queue, ¬recorder.Owns pending

theorem recorded_points (distance : Distance) (recorder : RideMapRecorder) (admitted : AdmittedLocationSample) :
    (recorder.recorded distance admitted).points ≠ [] := by
  intro empty
  have last := recorded_lastPointAt distance recorder admitted
  rw [RideMapRecorder.lastPointAt, empty] at last
  cases last

theorem Resumable.settle (resumable : Resumable recorder (pending :: queue)) :
    Resumable (settled distance recorder pending.admitted) queue := by
  rw [settled_eq]
  split
  · exact .inr (.inl (recorded_points _ _ _))
  · rcases resumable with started | points | foreign
    · exact .inl started
    · exact .inr (.inl points)
    · exact .inr (.inr fun other member => foreign other (List.mem_cons_of_mem _ member))

/-- A write in flight from before a transition settles behind it as it would have settled before. -/
theorem recorded_moved (admitted : AdmittedLocationSample)
    (stale : admitted.activeIntervalGeneration ≤ recorder.activeIntervalGeneration)
    (segment : recorder.segmentStarted = true →
      admitted.activeIntervalGeneration = recorder.activeIntervalGeneration →
        recorder.segmentId ≤ admitted.point.segmentId)
    (opened : transition.resumes = true → recorder.segmentStarted = true ∨ recorder.points ≠ []) :
    (recorder.moved transition time).recorded distance admitted =
      (recorder.recorded distance admitted).moved transition time := by
  have points := recorded_points distance recorder admitted
  have clock : ∀ last, max (max last (max time recorder.createdAt)) admitted.point.sample.monotonic =
      max (max last admitted.point.sample.monotonic) (max time recorder.createdAt) := by
    intro last
    omega
  cases resumes : transition.resumes with
  | false =>
    simp only [RideMapRecorder.moved, RideMapRecorder.recorded, RideMapRecorder.untimed, RideMapRecorder.preservesResume,
      RideMapRecorder.behindBoundary, RideMapRecorder.addedDistance, resumes, Bool.false_and, Bool.or_false,
      Bool.false_eq_true, if_false]
    congr 1
    split
    · rfl
    · exact clock _
  | true =>
    have old : admitted.activeIntervalGeneration ≠ recorder.activeIntervalGeneration + 1 := by omega
    have opens : (recorder.segmentStarted || !recorder.segmentStarted && decide (recorder.points ≠ [])) = true := by
      rcases opened resumes with started | points
      · rw [started]
        rfl
      · cases recorder.segmentStarted <;> simp [points]
    have kept : (recorder.moved transition time).preservesResume admitted = true := by
      simp only [RideMapRecorder.preservesResume, RideMapRecorder.moved, resumes, Bool.true_and, opens, if_true, ne_eq,
        old, not_false_eq_true, decide_true]
    have nonempty : decide ((recorder.recorded distance admitted).points ≠ []) = true := decide_eq_true points
    have starts : ((recorder.moved transition time).recorded distance admitted).segmentStarted =
        ((recorder.recorded distance admitted).moved transition time).segmentStarted := by
      have opened : ((recorder.recorded distance admitted).moved transition time).segmentStarted = true := by
        simp only [RideMapRecorder.moved, resumes, Bool.true_and, nonempty, Bool.and_true]
        cases (recorder.recorded distance admitted).segmentStarted <;> rfl
      rw [opened]
      exact kept
    have segments : ((recorder.moved transition time).recorded distance admitted).segmentId =
        ((recorder.recorded distance admitted).moved transition time).segmentId := by
      have before : ((recorder.moved transition time).recorded distance admitted).segmentId =
          max (recorder.moved transition time).segmentId (nextSegment admitted.point.segmentId) := by
        simp only [RideMapRecorder.recorded, kept, if_true]
      have after : ((recorder.recorded distance admitted).moved transition time).segmentId =
          if recorder.preservesResume admitted then max recorder.segmentId (nextSegment admitted.point.segmentId)
          else nextSegment (max recorder.segmentId admitted.point.segmentId) := by
        simp only [RideMapRecorder.moved, resumes, Bool.true_and, nonempty, Bool.and_true]
        cases preserves : recorder.preservesResume admitted <;> simp [RideMapRecorder.recorded, preserves]
      rw [before, after]
      cases started : recorder.segmentStarted with
      | true =>
        have same : (recorder.moved transition time).segmentId = recorder.segmentId := by
          simp [RideMapRecorder.moved, started]
        rw [same]
        split
        · rfl
        · rename_i current
          have current : admitted.activeIntervalGeneration = recorder.activeIntervalGeneration := by
            simpa [RideMapRecorder.preservesResume, started] using current
          have below := segment started current
          rw [Nat.max_eq_right below]
          exact Nat.max_eq_right (below.trans (le_nextSegment _))
      | false =>
        have next : (recorder.moved transition time).segmentId = nextSegment recorder.segmentId := by
          rw [started] at opens
          simp only [RideMapRecorder.moved, resumes, started, Bool.true_and]
          rw [if_pos (by simpa using opens)]
        rw [next, if_neg (by simp [RideMapRecorder.preservesResume, started]), nextSegment_max]
    have parts : (recorder.moved transition time).recorded distance admitted =
        { (recorder.moved transition time).recorded distance admitted with
          segmentId := ((recorder.recorded distance admitted).moved transition time).segmentId
          segmentStarted := ((recorder.recorded distance admitted).moved transition time).segmentStarted } := by
      rw [← starts, ← segments]
    rw [parts]
    simp only [RideMapRecorder.moved, RideMapRecorder.recorded, RideMapRecorder.untimed,
      RideMapRecorder.behindBoundary, RideMapRecorder.addedDistance, resumes]
    simp only [RideMapRecorder.mk.injEq, true_and, and_true]
    refine ⟨rfl, ?_⟩
    split
    · rfl
    · exact clock _

variable (distance) in
theorem replay_moved (queued : Queued recorder queue) (previous : recorder.state = some transition.previous)
    (keeps : transition.event ≠ .discard) (resumable : transition.resumes = true → Resumable recorder queue) :
    replay distance (recorder.moved transition time) queue = (replay distance recorder queue).moved transition time := by
  refine Replay.commute (P := fun recorder queue => Queued recorder queue ∧ recorder.state = some transition.previous ∧
    (transition.resumes = true → Resumable recorder queue)) ?_ ?_ ⟨queued, previous, resumable⟩
  · rintro base next queue ⟨queued, previous, resumable⟩
    exact ⟨queued.settle, (settled_frame distance base next.admitted).1.trans previous,
      fun resumes => (resumable resumes).settle⟩
  · rintro base next queue ⟨queued, previous, resumable⟩
    by_cases owned : base.Owns next
    · have settles : transition.next.settles = true := by
        apply settles_next transition keeps
        have before := queued.lifecycle next List.mem_cons_self owned
        rw [previous] at before
        exact before
      have taken := RideMapRecorder.takes_iff.mp (queued.takes owned)
      have takes : (base.moved transition time).takes next.admitted = true :=
        RideMapRecorder.takes_iff.mpr ⟨settles, taken.2⟩
      rw [settled_eq, settled_eq, if_pos takes, if_pos (queued.takes owned)]
      apply recorded_moved next.admitted (queued.interval next List.mem_cons_self owned)
      · intro started current
        exact (queued.segment started next List.mem_cons_self owned current).1
      · intro resumes
        rcases resumable resumes with started | points | foreign
        · exact .inl started
        · exact .inr points
        · exact absurd owned (foreign next List.mem_cons_self)
    · have foreign : ¬(base.moved transition time).Owns next := owned
      rw [settled_foreign owned, settled_foreign foreign]

theorem Queued.moved (queued : Queued recorder queue) (previous : recorder.state = some transition.previous)
    (keeps : transition.event ≠ .discard) : Queued (recorder.moved transition time) queue where
  lifecycle pending member owned := by
    have before := queued.lifecycle pending member owned
    rw [previous] at before
    exact settles_next transition keeps before
  interval pending member owned := by
    have before := queued.interval pending member owned
    show _ ≤ if transition.resumes = true then _ else _
    split <;> omega
  behind := queued.behind
  ordered := queued.ordered
  segment started pending member owned current := by
    cases resumes : transition.resumes with
    | true =>
      have before := queued.interval pending member owned
      simp only [RideMapRecorder.moved, resumes, if_true] at current
      omega
    | false =>
      simp only [RideMapRecorder.moved, resumes, Bool.false_and, Bool.or_false, Bool.false_eq_true, if_false]
        at started current ⊢
      exact queued.segment started pending member owned current

end Transitions

section Observations
variable (distance)

def RideMapRecorder.withVehicle (candidate associated : Option VehicleIdentity) (associatedAt lastTelemetryAt : Option Nat)
    (recorder : RideMapRecorder) : RideMapRecorder :=
  { recorder with
    candidateVehicle := candidate
    associatedVehicle := associated
    associatedAt
    lastTelemetryAt }

theorem replay_withVehicle (candidate associated : Option VehicleIdentity) (associatedAt lastTelemetryAt : Option Nat)
    (recorder : RideMapRecorder) (queue : List PendingLocation) :
    replay distance (recorder.withVehicle candidate associated associatedAt lastTelemetryAt) queue =
      (replay distance recorder queue).withVehicle candidate associated associatedAt lastTelemetryAt := by
  refine Replay.commute (P := fun _ _ => True) (fun _ => trivial) ?_ trivial
  intro base next queue _
  have same : (base.withVehicle candidate associated associatedAt lastTelemetryAt).takes next.admitted =
      base.takes next.admitted := rfl
  rw [settled_eq, settled_eq, same]
  split
  · simp only [RideMapRecorder.recorded, RideMapRecorder.withVehicle, RideMapRecorder.preservesResume,
      RideMapRecorder.behindBoundary, RideMapRecorder.addedDistance]
    congr 1
  · rfl

/-- Recorders that agree beside their routes are told the same about telemetry, and take it alike. -/
theorem observeTelemetry_alike (first second : RideMapRecorder) (time : Nat) (state : second.state = first.state)
    (createdAt : second.createdAt = first.createdAt) (associatedAt : second.associatedAt = first.associatedAt)
    (telemetry : second.lastTelemetryAt = first.lastTelemetryAt) :
    (second.observeTelemetry time).2 = (first.observeTelemetry time).2 ∧
      (((first.observeTelemetry time).1 = first ∧ (second.observeTelemetry time).1 = second) ∨
        ((first.observeTelemetry time).1 = { first with lastTelemetryAt := some time } ∧
          (second.observeTelemetry time).1 = { second with lastTelemetryAt := some time })) := by
  simp only [RideMapRecorder.observeTelemetry, state, createdAt, associatedAt, telemetry]
  split
  · simp
  · split
    · simp
    · split
      · simp
      · split
        · simp
        · split <;> simp [*]

/-- Telemetry passes the writes in flight and is told the same on both sides of them. -/
theorem replay_observeTelemetry (recorder : RideMapRecorder) (queue : List PendingLocation) (time : Nat) :
    replay distance (recorder.observeTelemetry time).1 queue =
        ((replay distance recorder queue).observeTelemetry time).1 ∧
      ((replay distance recorder queue).observeTelemetry time).2 = (recorder.observeTelemetry time).2 := by
  have passes := replay_withVehicle distance recorder.candidateVehicle recorder.associatedVehicle recorder.associatedAt
    (some time) recorder queue
  obtain ⟨state, -, -, createdAt, candidate, associated, associatedAt, telemetry⟩ := replay_frame distance recorder queue
  obtain ⟨told, ⟨first, second⟩ | ⟨first, second⟩⟩ :=
    observeTelemetry_alike _ _ time state createdAt associatedAt telemetry
  · rw [first, second]
    exact ⟨rfl, told⟩
  · rw [first, second]
    refine ⟨passes.trans ?_, told⟩
    simp only [RideMapRecorder.withVehicle, candidate, associated, associatedAt]

/-- An association with the replayed recorder also succeeds with the durable one, whose clock is behind. -/
theorem replay_observeVehicle (recorder : RideMapRecorder) (queue : List PendingLocation) (identity : VehicleIdentity)
    (time : Nat) (associates : ((replay distance recorder queue).observeVehicle identity time).2 = .associated) :
    replay distance (recorder.observeVehicle identity time).1 queue =
      ((replay distance recorder queue).observeVehicle identity time).1 := by
  have passes := replay_withVehicle distance none (some identity) (some time) recorder.lastTelemetryAt recorder queue
  have clock := replay_lastMonotonic distance recorder queue
  obtain ⟨state, -, -, -, candidate, associated, -, telemetry⟩ := replay_frame distance recorder queue
  simp only [RideMapRecorder.observeVehicle, state, associated, candidate] at associates ⊢
  split at associates
  · cases associates
  · rename_i recording
    rw [if_neg recording, if_neg recording]
    split at associates
    · cases associates
    · rename_i later
      rw [if_neg later, if_neg (by omega)]
      cases vehicle : recorder.associatedVehicle with
      | some other => rfl
      | none =>
        simp only [vehicle] at associates ⊢
        split at associates
        · cases associates
        · rename_i free
          rw [if_neg free, if_neg free]
          refine passes.trans ?_
          simp only [RideMapRecorder.withVehicle, state, telemetry]

/-- Recorders that agree beside their routes and on the clock are told the same about a vehicle, and take it alike. -/
theorem observeVehicle_alike (first second : RideMapRecorder) (identity : VehicleIdentity) (time : Nat)
    (state : second.state = first.state) (clock : second.lastMonotonic = first.lastMonotonic)
    (candidate : second.candidateVehicle = first.candidateVehicle)
    (associated : second.associatedVehicle = first.associatedVehicle) :
    (second.observeVehicle identity time).2 = (first.observeVehicle identity time).2 ∧
      (((first.observeVehicle identity time).1 = first ∧ (second.observeVehicle identity time).1 = second) ∨
        ((first.observeVehicle identity time).1 = first.withVehicle none (some identity) (some time) first.lastTelemetryAt ∧
          (second.observeVehicle identity time).1 =
            second.withVehicle none (some identity) (some time) second.lastTelemetryAt)) := by
  simp only [RideMapRecorder.observeVehicle, state, clock, candidate, associated, RideMapRecorder.withVehicle]
  split
  · simp
  · split
    · simp
    · split
      · simp
      · split <;> simp [*]

theorem observeVehicle_refused {identity : VehicleIdentity}
    (refused : (recorder.observeVehicle identity time).2 ≠ .associated) :
    (recorder.observeVehicle identity time).1 = recorder := by
  unfold RideMapRecorder.observeVehicle at refused ⊢
  split
  · rfl
  · split
    · rfl
    · split
      · rfl
      · split
        · rfl
        · simp_all

theorem observeTelemetry_refused (refused : (recorder.observeTelemetry time).2 ≠ .observed) :
    (recorder.observeTelemetry time).1 = recorder := by
  unfold RideMapRecorder.observeTelemetry at refused ⊢
  split
  · rfl
  · split
    · rfl
    · split
      · rfl
      · split
        · rfl
        · split
          · rfl
          · simp_all

end Observations

section Stationary
variable {time : Nat}
variable {admitted : AdmittedLocationSample}

/-- Whether the recorder already knows of a stop at a time or behind it. -/
def RideMapRecorder.Bounded (recorder : RideMapRecorder) (time : Nat) : Prop :=
  ∃ previous, recorder.stationaryBoundaryAt = some previous ∧ time ≤ previous

def RideMapRecorder.boundedAt (recorder : RideMapRecorder) (time : Nat) : RideMapRecorder :=
  { recorder with stationaryBoundaryAt := some time }

theorem mark_fixed (known : recorder.Reached time ∨ recorder.Bounded time) :
    recorder.markStationaryBoundary time = recorder := by
  unfold RideMapRecorder.markStationaryBoundary
  split
  · rfl
  · rename_i fresh
    rcases known with ⟨last, point, behind⟩ | ⟨previous, boundary, behind⟩
    · simp [point, behind] at fresh
    · rw [boundary, if_neg]
      simpa using behind

theorem mark_set (fresh : ¬recorder.Reached time) (unbounded : ¬recorder.Bounded time) :
    recorder.markStationaryBoundary time = recorder.boundedAt time := by
  have ahead : ¬(recorder.lastPointAt.any fun last => time ≤ last) = true := by
    simp only [Option.any_eq_true, decide_eq_true_eq, not_exists, not_and]
    intro last point behind
    exact fresh ⟨last, point, behind⟩
  have newer : (recorder.stationaryBoundaryAt.all fun previous => previous < time) = true := by
    simp only [Option.all_eq_true, decide_eq_true_eq]
    intro previous boundary
    by_contra behind
    exact unbounded ⟨previous, boundary, by omega⟩
  unfold RideMapRecorder.markStationaryBoundary
  rw [if_neg ahead, if_pos newer]
  rfl

private theorem recorded_cleared (unbounded : ¬recorder.Bounded time) (later : time < admitted.sample.monotonic) :
    (recorder.boundedAt time).recorded distance admitted = recorder.recorded distance admitted := by
  have cleared : (if recorder.behindBoundary admitted.point.sample = true then none else recorder.stationaryBoundaryAt) =
      none := by
    split
    · rfl
    · rename_i ahead
      cases boundary : recorder.stationaryBoundaryAt with
      | none => rfl
      | some previous =>
        have earlier : previous < time := by
          by_contra behind
          exact unbounded ⟨previous, boundary, by omega⟩
        simp only [RideMapRecorder.behindBoundary, boundary, Option.any_some, decide_eq_true_eq] at ahead
        exact absurd (earlier.trans later) ahead
  have behind : (recorder.boundedAt time).behindBoundary admitted.point.sample = true := by
    simpa [RideMapRecorder.behindBoundary, RideMapRecorder.boundedAt, AdmittedLocationSample.sample] using later
  simp only [RideMapRecorder.recorded, behind, cleared, if_true]
  simp only [RideMapRecorder.boundedAt, RideMapRecorder.preservesResume, RideMapRecorder.addedDistance]
  congr 1

private theorem recorded_boundedAt (earlier : admitted.sample.monotonic ≤ time) :
    (recorder.boundedAt time).recorded distance admitted = (recorder.recorded distance admitted).boundedAt time := by
  have ahead : (recorder.boundedAt time).behindBoundary admitted.point.sample = false := by
    simpa [RideMapRecorder.behindBoundary, RideMapRecorder.boundedAt, AdmittedLocationSample.sample] using earlier
  simp only [RideMapRecorder.recorded, ahead, Bool.false_eq_true, if_false]
  simp only [RideMapRecorder.boundedAt, RideMapRecorder.preservesResume, RideMapRecorder.addedDistance]
  congr 1

private theorem recorded_bounded (bounded : (recorder.recorded distance admitted).Bounded time) :
    recorder.Bounded time := by
  obtain ⟨previous, boundary, behind⟩ := bounded
  refine ⟨previous, ?_, behind⟩
  simp only [RideMapRecorder.recorded] at boundary
  split at boundary
  · cases boundary
  · exact boundary

/-- A boundary set behind every other one: the writes up to its time keep it, a later one clears it. -/
theorem replay_boundedAt (queue : List PendingLocation) (unbounded : ¬recorder.Bounded time)
    (fresh : ¬recorder.Reached (time + 1)) :
    ((replay distance recorder queue).Reached (time + 1) ∧
      replay distance (recorder.boundedAt time) queue = replay distance recorder queue) ∨
    (¬(replay distance recorder queue).Reached (time + 1) ∧ ¬(replay distance recorder queue).Bounded time ∧
      replay distance (recorder.boundedAt time) queue = (replay distance recorder queue).boundedAt time) := by
  induction queue generalizing recorder with
  | nil => exact .inr ⟨fresh, unbounded, rfl⟩
  | cons next queue ih =>
    have same : (recorder.boundedAt time).takes next.admitted = recorder.takes next.admitted := rfl
    rw [replay_cons, replay_cons, settled_eq, settled_eq, same]
    by_cases taken : recorder.takes next.admitted = true
    · rw [if_pos taken, if_pos taken]
      have last := recorded_lastPointAt distance recorder next.admitted
      by_cases later : time < next.admitted.sample.monotonic
      · left
        rw [recorded_cleared unbounded later]
        exact ⟨replay_reached distance queue ⟨_, last, later⟩, rfl⟩
      · rw [recorded_boundedAt (by omega)]
        apply ih
        · exact fun bounded => unbounded (recorded_bounded bounded)
        · rintro ⟨reached, known, behind⟩
          rw [last] at known
          cases known
          omega
    · rw [if_neg taken, if_neg taken]
      exact ih unbounded fresh

private theorem settled_known (known : recorder.Reached time ∨ recorder.Bounded time) (admitted : AdmittedLocationSample) :
    (settled distance recorder admitted).Reached time ∨ (settled distance recorder admitted).Bounded time := by
  rcases known with reached | ⟨previous, boundary, behind⟩
  · exact .inl (settled_reached distance admitted reached)
  · rw [settled_eq]
    split
    · by_cases later : previous < admitted.sample.monotonic
      · exact .inl ⟨_, recorded_lastPointAt _ _ _, by omega⟩
      · refine .inr ⟨previous, ?_, behind⟩
        simp only [RideMapRecorder.recorded, RideMapRecorder.behindBoundary, boundary, Option.any_some,
          decide_eq_true_eq]
        exact if_neg later
    · exact .inr ⟨previous, boundary, behind⟩

/-- A stationary mark passes the queue, except at the very time of the newest queued fix: there the durable
recorder takes the mark and the replayed one does not. -/
theorem replay_mark (distance : Distance) (recorder : RideMapRecorder) (queue : List PendingLocation) (time : Nat)
    (apart : (replay distance recorder queue).lastPointAt = some time → recorder.markStationaryBoundary time = recorder) :
    replay distance (recorder.markStationaryBoundary time) queue =
      (replay distance recorder queue).markStationaryBoundary time := by
  by_cases known : recorder.Reached time ∨ recorder.Bounded time
  · have still : (replay distance recorder queue).Reached time ∨ (replay distance recorder queue).Bounded time :=
      Replay.induction_on (P := fun recorder (_ : List PendingLocation) => RideMapRecorder.Reached recorder time ∨ recorder.Bounded time)
        (fun known => settled_known known _) known
    rw [mark_fixed known, mark_fixed still]
  · rw [not_or] at known
    have changed : recorder.markStationaryBoundary time ≠ recorder := by
      rw [mark_set known.1 known.2]
      intro same
      exact known.2 ⟨time, by rw [← same]; rfl, Nat.le_refl _⟩
    have fresh : ¬recorder.Reached (time + 1) := fun ⟨last, point, behind⟩ => known.1 ⟨last, point, by omega⟩
    rw [mark_set known.1 known.2]
    rcases replay_boundedAt queue known.2 fresh with ⟨⟨last, point, behind⟩, same⟩ | ⟨before, unbounded, same⟩
    · rw [same, mark_fixed (.inl ⟨last, point, by omega⟩)]
    · rw [same, mark_set _ unbounded]
      rintro ⟨last, point, behind⟩
      have exactly : last = time := by
        by_contra other
        exact before ⟨last, point, by omega⟩
      exact changed (apart (by rw [point, exactly]))

theorem Queued.mark (queued : Queued recorder queue) (time : Nat) : Queued (recorder.markStationaryBoundary time) queue := by
  by_cases known : recorder.Reached time ∨ recorder.Bounded time
  · rw [mark_fixed known]
    exact queued
  · rw [not_or] at known
    rw [mark_set known.1 known.2]
    exact ⟨queued.lifecycle, queued.interval, queued.behind, queued.ordered, queued.segment⟩

end Stationary

end Cutout.Rides

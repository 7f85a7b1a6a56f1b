import Cutout.RideRecorder

/-! The track of a recorder: the fields that decide where a point goes. Every call moves
the track as its effect says, whatever else it does to the recorder. -/

namespace Cutout.Rides
open Protocols (saturatingAdd u64Max)

structure Track where
  points : List RideMapPoint
  firstPointSequence : Nat
  summary : RideSummary
  segmentId : Nat
  segmentStarted : Bool
  backgroundGapCount : Nat
  latest : Option LocationSample
  boundary : Option Nat

def RideMapRecorder.track (recorder : RideMapRecorder) : Track where
  points := recorder.points
  firstPointSequence := recorder.firstPointSequence
  summary := recorder.summary
  segmentId := recorder.segmentId
  segmentStarted := recorder.segmentStarted
  backgroundGapCount := recorder.backgroundGapCount
  latest := recorder.latestLocationObservation
  boundary := recorder.stationaryBoundaryAt

def RideMapPoint.time (point : RideMapPoint) : Nat := point.sample.monotonic

namespace Track
variable {point : RideMapPoint}

def lastPointAt (track : Track) : Option Nat := track.points.getLast?.map RideMapPoint.time

def mark (track : Track) (time : Nat) : Track :=
  if track.lastPointAt.any fun last => time ≤ last then track
  else if track.boundary.all fun previous => previous < time then { track with boundary := some time }
  else track

variable (track : Track)

theorem mark_latest (time : Nat) : (track.mark time).latest = track.latest := by
  unfold mark
  split
  · rfl
  · split <;> rfl

theorem mark_segmentStarted (time : Nat) : (track.mark time).segmentStarted = track.segmentStarted := by
  unfold mark
  split
  · rfl
  · split <;> rfl

def observe (track : Track) (sample : LocationSample) : Track := { track with latest := some sample }

def resume (track : Track) : Track :=
  if track.segmentStarted = false ∧ track.points ≠ [] then
    { track with segmentId := nextSegment track.segmentId, segmentStarted := true }
  else track

/-- The track behind a point that was admitted and recorded in one go. -/
def record (distance : Distance) (track : Track) (point : RideMapPoint) : Track :=
  let continues := track.points.getLast?.any fun previous => previous.segmentId = point.segmentId
  let added := match track.points.getLast? with
    | some previous =>
      if previous.segmentId = point.segmentId then distance previous.sample.coordinate point.sample.coordinate else 0
    | none => 0
  let pointCount := saturatingAdd track.summary.pointCount 1
  let points := RideMapRecorder.pushPoint track.points point
  { points
    firstPointSequence := pointCount - points.length
    summary := ⟨pointCount, saturatingAdd track.summary.distance added⟩
    segmentId := max track.segmentId point.segmentId
    segmentStarted := false
    backgroundGapCount :=
      if !continues ∧ point.segmentStartReason = .backgroundGap then saturatingAdd track.backgroundGapCount 1
      else track.backgroundGapCount
    latest := some point.sample
    boundary := if track.boundary.any fun time => time < point.time then none else track.boundary }

theorem record_points {distance : Distance} :
    (track.record distance point).points = RideMapRecorder.pushPoint track.points point := by
  simp only [record]

theorem record_first {distance : Distance} : (track.record distance point).firstPointSequence =
      (track.record distance point).summary.pointCount - (track.record distance point).points.length := by
  simp only [record]

def behind (track : Track) (time : Nat) : Prop := ∃ boundary, track.boundary = some boundary ∧ boundary < time

def gap (track : Track) (time : Nat) : Prop :=
  ∃ latest, track.latest = some latest ∧ maxGapMilliseconds < time - latest.monotonic

/-- Where a point of that time goes: the segment and the reason it started for. -/
inductive Places (track : Track) (point : RideMapPoint) : Prop where
  | initial (empty : track.points = []) (segment : point.segmentId = track.segmentId)
      (reason : point.segmentStartReason ≠ .backgroundGap)
  | resumed (last : RideMapPoint) (known : track.points.getLast? = some last) (started : track.segmentStarted = true)
      (segment : point.segmentId = track.segmentId) (reason : point.segmentStartReason ≠ .backgroundGap)
  | stationary (last : RideMapPoint) (known : track.points.getLast? = some last) (open_ : track.segmentStarted = false)
      (parted : track.behind point.time) (segment : point.segmentId = nextSegment track.segmentId)
      (reason : point.segmentStartReason = .stationary)
  | gap (last : RideMapPoint) (known : track.points.getLast? = some last) (open_ : track.segmentStarted = false)
      (parted : track.gap point.time) (segment : point.segmentId = nextSegment track.segmentId)
      (changed : nextSegment track.segmentId ≠ track.segmentId) (reason : point.segmentStartReason = .backgroundGap)
  | continues (last : RideMapPoint) (known : track.points.getLast? = some last) (open_ : track.segmentStarted = false)
      (together : ¬track.behind point.time) (near : ¬track.gap point.time ∨ nextSegment track.segmentId = track.segmentId)
      (segment : point.segmentId = track.segmentId) (reason : point.segmentStartReason = last.segmentStartReason)

theorem Places.segmentId_le {track : Track} (places : track.Places point) : track.segmentId ≤ point.segmentId := by
  cases places with
  | initial _ segment | resumed _ _ _ segment | continues _ _ _ _ _ segment => exact le_of_eq segment.symm
  | stationary _ _ _ _ segment | gap _ _ _ _ segment =>
    rw [segment, nextSegment]
    split <;> omega

inductive Moves (distance : Distance) (track : Track) : Track → RouteEffect → Prop where
  | still : Moves distance track track .still
  | resumed : Moves distance track track.resume .resumed
  | observed (sample : LocationSample) (later : ∀ latest, track.latest = some latest → latest.monotonic < sample.monotonic) :
      Moves distance track (track.observe sample) (.observed sample)
  | parked (sample : LocationSample) (later : ∀ latest, track.latest = some latest → latest.monotonic < sample.monotonic) :
      Moves distance track ((track.observe sample).mark sample.monotonic) (.parked sample)
  | marked (time : Nat) : Moves distance track (track.mark time) (.marked time)
  | recorded (point : RideMapPoint) (later : ∀ last, track.points.getLast? = some last → last.time < point.time)
      (places : track.Places point) : Moves distance track (track.record distance point) (.recorded point)

end Track

namespace RideMapRecorder
variable {distance : Distance} {recorder : RideMapRecorder}
variable {next : RideMapRecorder} {admitted : AdmittedLocationSample} {sample : LocationSample}
variable {observation : LocationObservation}

theorem markStationaryBoundary_track (time : Nat) :
    (recorder.markStationaryBoundary time).track = recorder.track.mark time := by
  unfold markStationaryBoundary Track.mark
  have last : recorder.track.lastPointAt = recorder.lastPointAt := rfl
  rw [last]
  split
  · rfl
  · have same : recorder.track.boundary = recorder.stationaryBoundaryAt := rfl
    rw [same]
    split <;> rfl

theorem applyTransitionAt_track {transition : ValidatedRideTransition} {time : Nat}
    (applied : recorder.applyTransitionAt transition time = some next) :
    next.track = if transition.resumes then recorder.track.resume else recorder.track := by
  unfold applyTransitionAt at applied
  split at applied
  · cases applied
  · cases applied
    cases resumes : transition.resumes with
    | false => simp [track]
    | true =>
      unfold Track.resume
      simp only [if_true, Bool.true_and]
      have started : recorder.track.segmentStarted = recorder.segmentStarted := rfl
      have points : recorder.track.points = recorder.points := rfl
      rw [started, points]
      by_cases opens : recorder.segmentStarted = false ∧ recorder.points ≠ []
      · rw [if_pos opens]
        simp [track, opens.1, opens.2]
      · rw [if_neg opens]
        have closed : (!recorder.segmentStarted && decide (recorder.points ≠ [])) = false := by
          simpa using opens
        simp only [closed, track, Bool.or_false, Bool.false_eq_true, if_false]

private theorem routeAdmission_later {started : Option Nat} {latest : LocationSample}
    (accepted : routeAdmission distance started (some latest) sample = .accepted) :
    latest.monotonic < sample.monotonic := by
  by_contra after
  have refused : sample.admission (some latest) = .duplicate ∨ sample.admission (some latest) = .outOfOrder := by
    simp only [LocationSample.admission]
    split
    · exact .inl rfl
    · exact .inr (if_pos (Nat.le_of_not_lt after))
  unfold routeAdmission at accepted
  split at accepted
  · cases accepted
  · split at accepted
    · cases accepted
    · rcases refused with same | same <;> rw [same] at accepted <;> cases accepted

theorem admitSample_eq (taken : recorder.admitSample distance sample = .ok admitted) :
    (∀ latest, recorder.latestLocationObservation = some latest → latest.monotonic < sample.monotonic) ∧
      admitted.activeIntervalGeneration = recorder.activeIntervalGeneration ∧
      admitted.point = ⟨sample, recorder.segmentIdForSample sample, recorder.telemetryStateAt sample.monotonic,
        recorder.segmentStartReasonForSample sample (recorder.segmentIdForSample sample)⟩ := by
  unfold admitSample at taken
  split at taken
  · cases taken
  · next accepted =>
    cases taken
    refine ⟨?_, rfl, rfl⟩
    intro latest known
    unfold checkSample at accepted
    rw [known] at accepted
    exact routeAdmission_later accepted
  · cases taken

private theorem places_of_metadata {state : RouteTelemetryState}
    (closed : recorder.points = [] → recorder.segmentStarted = true) :
    recorder.track.Places ⟨sample, recorder.segmentIdForSample sample, state,
      recorder.segmentStartReasonForSample sample (recorder.segmentIdForSample sample)⟩ := by
  by_cases empty : recorder.points = []
  · have started := closed empty
    have segment : recorder.segmentIdForSample sample = recorder.segmentId := by
      simp [segmentIdForSample, empty, started]
    refine .initial empty segment ?_
    simp only [segmentStartReasonForSample, segment, empty, started]
    cases sample.source <;> simp
  · obtain ⟨last, known⟩ := Option.ne_none_iff_exists'.mp (mt List.getLast?_eq_none_iff.mp empty)
    cases started : recorder.segmentStarted with
    | true =>
      have segment : recorder.segmentIdForSample sample = recorder.segmentId := by
        simp [segmentIdForSample, empty, started]
      refine .resumed last known started segment ?_
      simp [segmentStartReasonForSample, segment, started, known]
    | false =>
      have behind : recorder.behindBoundary sample = true ↔ recorder.track.behind sample.monotonic := by
        simp [behindBoundary, Track.behind, track, Option.any_eq_true]
      by_cases parted : recorder.behindBoundary sample = true
      · have segment : recorder.segmentIdForSample sample = nextSegment recorder.segmentId := by
          simp [segmentIdForSample, empty, started, parted]
        refine .stationary last known started (behind.mp parted) segment ?_
        simp [segmentStartReasonForSample, started, empty, parted]
      · have together := mt behind.mpr parted
        have gap : (recorder.latestLocationObservation.any fun previous =>
            maxGapMilliseconds < sample.monotonic - previous.monotonic) = true ↔ recorder.track.gap sample.monotonic := by
          simp [Track.gap, track, Option.any_eq_true]
        have segment : recorder.segmentIdForSample sample =
            if recorder.latestLocationObservation.any fun previous =>
              maxGapMilliseconds < sample.monotonic - previous.monotonic then nextSegment recorder.segmentId
            else recorder.segmentId := by
          simp [segmentIdForSample, started, parted]
        by_cases far : (recorder.latestLocationObservation.any fun previous =>
            maxGapMilliseconds < sample.monotonic - previous.monotonic) = true
        · rw [if_pos far] at segment
          by_cases changed : nextSegment recorder.segmentId = recorder.segmentId
          · refine .continues last known started together (.inr changed) (segment.trans changed) ?_
            simp [segmentStartReasonForSample, segment, changed, started, parted, known]
          · refine .gap last known started (gap.mp far) segment changed ?_
            simp [segmentStartReasonForSample, segment, changed, started, parted]
        · rw [if_neg far] at segment
          refine .continues last known started together (.inl (mt gap.mpr far)) segment ?_
          simp [segmentStartReasonForSample, segment, started, parted, known]

/-- Recording what was just admitted preserves no earlier resume. -/
theorem recorded_track (generation : admitted.activeIntervalGeneration = recorder.activeIntervalGeneration)
    (later : ∀ latest, recorder.latestLocationObservation = some latest → latest.monotonic < admitted.point.time) :
    (recorder.recorded distance admitted).track = recorder.track.record distance admitted.point := by
  have settled : recorder.preservesResume admitted = false := by
    simp [preservesResume, generation]
  have newest : (recorder.latestLocationObservation.all fun previous =>
      decide (previous.monotonic < admitted.point.sample.monotonic)) = true := by
    cases known : recorder.latestLocationObservation with
    | none => rfl
    | some latest => exact decide_eq_true (later latest known)
  simp only [track, recorded, Track.record, settled, newest, if_true, Bool.false_eq_true, if_false]
  rfl

theorem settle_moves (closed : recorder.points = [] → recorder.segmentStarted = true)
    (taken : recorder.admitSample distance sample = .ok admitted) :
    recorder.track.Moves distance (recorder.settle distance admitted).1.track (recorder.settle distance admitted).2 := by
  obtain ⟨later, generation, point⟩ := admitSample_eq taken
  unfold settle recordAdmittedSample
  split
  · next next settled =>
    split at settled
    · next accepts =>
      cases settled
      have ordered : ∀ last, recorder.track.points.getLast? = some last → last.time < admitted.point.time := by
        intro last known
        have known : recorder.points.getLast? = some last := known
        simp only [takes, lastPointAt, known, Option.map_some, Option.all_some, Bool.and_eq_true] at accepts
        exact of_decide_eq_true accepts.2
      rw [recorded_track generation (by rw [point]; exact later)]
      refine .recorded _ ordered ?_
      rw [point]
      exact places_of_metadata closed
    · cases settled
  · exact .still

private theorem observeClockOnly_eq (taken : recorder.observeClockOnly distance observation = some next) :
    next.track = recorder.track.observe observation.sample ∧
      ∀ latest, recorder.track.latest = some latest → latest.monotonic < observation.sample.monotonic := by
  unfold observeClockOnly at taken
  split at taken
  · cases taken
  · split at taken
    · next repeated =>
      cases taken
      refine ⟨rfl, ?_⟩
      unfold classifySample at repeated
      split at repeated
      · cases repeated
      · next admitted => exact (admitSample_eq admitted).1
    · cases taken

theorem observeRepeat_moves (observation : LocationObservation) :
    recorder.track.Moves distance (recorder.observeRepeat distance observation).1.track
      (recorder.observeRepeat distance observation).2 := by
  unfold observeRepeat
  split
  · next next taken =>
    obtain ⟨same, later⟩ := observeClockOnly_eq taken
    dsimp only
    rw [same]
    exact .observed _ later
  · exact .still

private theorem observeStationary_eq (taken : recorder.observeStationary distance observation = some next) :
    next.track = (recorder.track.observe observation.sample).mark observation.sample.monotonic ∧
      ∀ latest, recorder.track.latest = some latest → latest.monotonic < observation.sample.monotonic := by
  unfold observeStationary at taken
  split at taken
  · cases taken
  · next passes =>
    cases taken
    refine ⟨markStationaryBoundary_track _, ?_⟩
    have admits := (not_or.mp (not_or.mp passes).2).2
    unfold admitStationarySample at admits
    split at admits
    · simp [Except.isOk, Except.toBool] at admits
    · cases admitted : recorder.admitSample distance observation.sample with
      | error reason => simp [admitted, Except.map, Except.isOk, Except.toBool] at admits
      | ok sample => exact (admitSample_eq admitted).1

private theorem saveInterrupted_track {recordedDuration : Nat}
    (saved : recorder.saveInterruptedAtRecordedDuration recordedDuration = some next) :
    next.track = recorder.track := by
  unfold saveInterruptedAtRecordedDuration at saved
  split at saved
  · cases saved
  · obtain ⟨save, validated, saved⟩ := Option.bind_eq_some_iff.mp saved
    obtain ⟨applied, transition, saved⟩ := Option.bind_eq_some_iff.mp saved
    cases saved
    have moved := applyTransitionAt_track transition
    have stays : save.resumes = false := by
      cases validated
      rfl
    rw [stays] at moved
    exact moved

theorem step_moves (closed : recorder.points = [] → recorder.segmentStarted = true) (call : RecorderCall) :
    recorder.track.Moves distance (recorder.step distance call).1.track (recorder.step distance call).2 := by
  cases call with
  | recordAdmitted sample =>
    simp only [step]
    split
    · next admitted taken => exact settle_moves closed taken
    · exact .still
  | recordSample sample =>
    simp only [step, recordSample]
    split
    · exact .still
    · split
      · next admitted decided =>
        unfold classifySample at decided
        split at decided
        · cases decided
        · next taken =>
          dsimp only at decided
          split at decided
          · cases decided
          · cases decided
            exact settle_moves closed taken
      · exact observeRepeat_moves _
      · exact .still
  | observeStationary observation =>
    simp only [step]
    split
    · next next taken =>
      obtain ⟨same, later⟩ := observeStationary_eq taken
      dsimp only
      rw [same]
      exact .parked _ later
    · exact .still
  | observeClockOnly observation => exact observeRepeat_moves observation
  | markStationaryBoundary time =>
    simp only [step]
    rw [markStationaryBoundary_track]
    exact .marked time
  | applyTransition transition time =>
    simp only [step]
    split
    · next next applied =>
      dsimp only
      rw [applyTransitionAt_track applied]
      cases transition.resumes with
      | true => exact .resumed
      | false => exact .still
    · exact .still
  | saveInterrupted recordedDuration =>
    simp only [step]
    cases saved : recorder.saveInterruptedAtRecordedDuration recordedDuration with
    | none => exact .still
    | some next =>
      rw [Option.getD_some, saveInterrupted_track saved]
      exact .still
  | observeVehicle identity time =>
    have same : (recorder.observeVehicle identity time).1.track = recorder.track := by
      unfold observeVehicle
      split
      · rfl
      · split
        · rfl
        · split
          · rfl
          · split <;> rfl
    simp only [step]
    rw [same]
    exact .still
  | observeTelemetry time =>
    have same : (recorder.observeTelemetry time).1.track = recorder.track := by
      unfold observeTelemetry
      split
      · rfl
      · split
        · rfl
        · split
          · rfl
          · split
            · rfl
            · split <;> rfl
    simp only [step]
    rw [same]
    exact .still

end RideMapRecorder

end Cutout.Rides

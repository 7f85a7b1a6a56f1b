import Cutout.ChargeEstimate
import Cutout.Library.Runs

/-! What one charging-current window is made of. Every check of an update either
empties the window or leaves what its samples were admitted with, so the samples of
a window agree wherever the estimator remembers to compare them. -/

namespace Cutout.Core
open Library
open ChargeEstimator (update)

abbrev EstimateStep := Step ChargeEstimator ChargeEstimateInput ChargeEstimateState

def ChargeEstimateInput.Timely (input : ChargeEstimateInput) : Prop :=
  input.observedAt ≤ input.at_ ∧ input.at_ - input.observedAt ≤ input.freshness

instance (input : ChargeEstimateInput) : Decidable input.Timely := inferInstanceAs (Decidable (_ ∧ _))

/-- The two samples were admitted with one and the same identity and provenance. -/
structure ChargeEstimateInput.SharesEvidence (first second : ChargeEstimateInput) : Prop where
  session : first.session = second.session
  profile : first.profile = second.profile
  capacity : first.usableCapacity = second.usableCapacity
  currentSource : first.batteryCurrent.map Measured.source = second.batteryCurrent.map Measured.source
  currentVerification :
    first.batteryCurrent.map Measured.verification = second.batteryCurrent.map Measured.verification
  modeSource : first.chargeMode.source = second.chargeMode.source
  modeVerification : first.chargeMode.verification = second.chargeMode.verification

/-- The later sample is not older, and it follows within its own freshness limit. -/
def ChargeEstimateInput.Follows (earlier later : ChargeEstimateInput) : Prop :=
  earlier.observedAt ≤ later.observedAt ∧ later.observedAt - earlier.observedAt ≤ later.freshness

namespace ChargeEstimator
variable {sample : ValidatedChargeSample} {after : ChargeEstimator}
variable {earlier : ChargeEstimateInput} {window : CurrentRateWindow}

/-- The samples of the window after an update, from those before it. -/
def followWindow (samples : List ChargeEstimateInput) (estimator : ChargeEstimator) (input : ChargeEstimateInput) :
    List ChargeEstimateInput :=
  let (prepared, result) := estimator.prepare input
  let kept := if prepared.window.last = none then [] else samples
  match result with
  | .error _ => kept
  | .ok sample => if prepared.window.replays input.observedAt sample.current then kept else kept ++ [input]

/-- The samples counted in the window since its start, after a history of updates. -/
def windowSamples (past : List EstimateStep) : List ChargeEstimateInput :=
  past.foldl (fun samples here => followWindow samples here.before here.input) []

theorem windowSamples_snoc (past : List EstimateStep) (here : EstimateStep) :
    windowSamples (past ++ [here]) = followWindow (windowSamples past) here.before here.input := by
  simp [windowSamples]

/-- What the samples of the window were admitted with is still remembered. -/
structure SameEvidence (before after : ChargeEstimator) : Prop where
  window : after.window = before.window
  session : after.session = before.session
  currentSource : after.lastCurrentSource = before.lastCurrentSource
  currentVerification : after.lastCurrentVerification = before.lastCurrentVerification
  modeSource : after.lastChargeModeSource = before.lastChargeModeSource
  modeVerification : after.lastChargeModeVerification = before.lastChargeModeVerification
  capacity : after.capacity = before.capacity

/-- A check empties the window or keeps all that its samples were admitted with. -/
structure Retains (before after : ChargeEstimator) : Prop where
  session : after.session = before.session
  profile : after.profile = none ∨ after.profile = before.profile
  evidence : after.window = {} ∨ (SameEvidence before after ∧ after.profile = before.profile)

namespace Retains
variable {before middle after : ChargeEstimator}

theorem refl (estimator : ChargeEstimator) : Retains estimator estimator :=
  ⟨rfl, .inr rfl, .inr ⟨⟨rfl, rfl, rfl, rfl, rfl, rfl, rfl⟩, rfl⟩⟩

theorem trans (first : Retains before middle) (second : Retains middle after) : Retains before after := by
  refine ⟨second.session.trans first.session, ?_, ?_⟩
  · rcases second.profile with forgotten | same
    · exact .inl forgotten
    · rcases first.profile with forgotten | earlier
      · exact .inl (same.trans forgotten)
      · exact .inr (same.trans earlier)
  · rcases second.evidence with empty | ⟨same, profile⟩
    · exact .inl empty
    · rcases first.evidence with empty | ⟨earlier, before⟩
      · exact .inl (same.window.trans empty)
      · refine .inr ⟨⟨same.window.trans earlier.window, same.session.trans earlier.session,
          same.currentSource.trans earlier.currentSource, same.currentVerification.trans earlier.currentVerification,
          same.modeSource.trans earlier.modeSource, same.modeVerification.trans earlier.modeVerification,
          same.capacity.trans earlier.capacity⟩, profile.trans before⟩

theorem reset (estimator : ChargeEstimator) (reason : ChargeEstimateResetReason) :
    Retains estimator (estimator.resetWithReason reason) := ⟨rfl, .inl rfl, .inl rfl⟩

theorem cleared (estimator : ChargeEstimator) : Retains estimator estimator.clearWindow := ⟨rfl, .inr rfl, .inl rfl⟩

theorem unprogressed (estimator : ChargeEstimator) : Retains estimator estimator.clearProgress :=
  ⟨rfl, .inr rfl, .inr ⟨⟨rfl, rfl, rfl, rfl, rfl, rfl, rfl⟩, rfl⟩⟩

end Retains

variable {estimator : ChargeEstimator} {input : ChargeEstimateInput}

section Estimator
variable (estimator : ChargeEstimator) (input : ChargeEstimateInput)

theorem progressState_retains : Retains estimator (estimator.progressState input).1 := by
  unfold progressState
  dsimp only
  split
  · exact ⟨rfl, .inl rfl, .inl rfl⟩
  · split
    · exact ⟨rfl, .inl rfl, .inl rfl⟩
    · unfold restartProgress
      split
      · exact ⟨rfl, .inr rfl, .inl rfl⟩
      · exact ⟨rfl, .inr rfl, .inl rfl⟩

private theorem validateChargingEvidence_retains : Retains estimator (estimator.validateChargingEvidence input).1 := by
  unfold validateChargingEvidence
  split
  · exact .reset estimator _
  · split
    · exact .reset estimator _
    · split
      · exact .refl estimator
      · split
        · exact .reset estimator _
        · exact .refl estimator

private theorem validateEvidence_retains : Retains estimator (estimator.validateEvidence input).1 := by
  have checked := validateChargingEvidence_retains estimator input
  unfold validateEvidence
  split
  · next same => rw [same] at checked; exact checked
  · next middle inferred same =>
    rw [same] at checked
    apply checked.trans
    have done : Retains middle middle.clearWindow.clearProgress := (Retains.cleared middle).trans (.unprogressed _)
    split
    · exact .refl middle
    · cases validateBatteryLevel input.batteryLevel input.profile with
      | error state => exact .refl middle
      | ok confidence =>
        cases validateBatteryTemperature input.batteryTemperature with
        | error state => exact .refl middle
        | ok =>
          dsimp only
          split
          · exact done
          · split
            · exact done
            · cases input.batteryCurrent with
              | none => exact progressState_retains middle input
              | some reading =>
                dsimp only
                split
                · exact progressState_retains middle input
                · split
                  · exact .reset middle _
                  · exact .unprogressed middle

end Estimator

/-- A validated sample carries the measured current of its update, which is large enough to charge. -/
theorem validateEvidence_current (valid : estimator.validateEvidence input = (after, .ok sample)) :
    input.batteryCurrent = some sample.batteryCurrent ∧
      sample.current = sample.batteryCurrent.value.magnitudeMilliamps ∧ minChargeCurrentMilliamps ≤ sample.current := by
  unfold validateEvidence at valid
  split at valid
  · cases valid
  · split at valid
    · cases valid
    · split at valid
      · cases valid
      · dsimp only at valid
        split at valid
        · cases valid
        · split at valid
          · cases valid
          · split at valid
            · cases valid
            · split at valid
              · cases valid
              · next reading known =>
                split at valid
                · cases valid
                · split at valid
                  · cases valid
                  · next enough =>
                    cases valid
                    exact ⟨known, rfl, Nat.le_of_not_lt enough⟩

private theorem prepareSample_retains (estimator : ChargeEstimator) (input : ChargeEstimateInput) (sample : ValidatedChargeSample) :
    Retains estimator (estimator.prepareSample input sample).1 := by
  unfold prepareSample
  split
  · exact .reset estimator _
  · split
    · exact .reset estimator _
    · have evidence : Retains estimator (estimator.admitEvidence input sample) := by
        unfold admitEvidence
        split
        · exact .reset estimator _
        · exact .refl estimator
      apply evidence.trans
      dsimp only
      unfold admitCapacity
      split
      · exact .reset _ _
      · exact .refl _

/-- The update goes on with the window: nothing its samples were admitted with changed. -/
structure Continues (estimator : ChargeEstimator) (input : ChargeEstimateInput) (prepared : ChargeEstimator) : Prop where
  timely : input.Timely
  window : prepared.window = estimator.window
  session : prepared.session = some input.session
  sessionBefore : estimator.session = none ∨ estimator.session = some input.session
  profile : prepared.profile = some input.profile
  profileBefore : estimator.profile = none ∨ estimator.profile = some input.profile
  currentSource : prepared.lastCurrentSource = estimator.lastCurrentSource
  currentVerification : prepared.lastCurrentVerification = estimator.lastCurrentVerification
  modeSource : prepared.lastChargeModeSource = estimator.lastChargeModeSource
  modeVerification : prepared.lastChargeModeVerification = estimator.lastChargeModeVerification
  capacity : prepared.capacity = estimator.capacity

structure Identified (estimator : ChargeEstimator) (input : ChargeEstimateInput) (after : ChargeEstimator) : Prop where
  session : after.session = some input.session
  profile : after.profile = some input.profile
  window : after.window = {} ∨ Continues estimator input after

theorem prepareIdentity_cases (estimator : ChargeEstimator) (input : ChargeEstimateInput) :
    (∃ after state, estimator.prepareIdentity input = (after, .error state) ∧ after.window = {}) ∨
      ∃ after, estimator.prepareIdentity input = (after, .ok ()) ∧ Identified estimator input after := by
  unfold prepareIdentity
  by_cases early : input.at_ < input.observedAt
  · exact .inl ⟨_, _, if_pos early, rfl⟩
  · rw [if_neg early]
    by_cases stale : input.freshness < input.at_ - input.observedAt
    · exact .inl ⟨_, _, if_pos stale, rfl⟩
    · rw [if_neg stale]
      refine .inr ⟨_, rfl, ?_⟩
      have timely : input.Timely := ⟨Nat.le_of_not_lt early, Nat.le_of_not_lt stale⟩
      have session : (estimator.admitSession input.session).session = some input.session := by
        unfold admitSession
        split
        · assumption
        · split <;> rfl
      unfold admitProfile
      split
      · exact ⟨session, rfl, .inl rfl⟩
      · next same =>
        refine ⟨session, rfl, ?_⟩
        revert same
        unfold admitSession
        by_cases known : estimator.session = some input.session
        · rw [if_pos known]
          intro same
          refine .inr ⟨timely, rfl, known, .inr known, rfl, ?_, rfl, rfl, rfl, rfl, rfl⟩
          cases profile : estimator.profile with
          | none => exact .inl rfl
          | some other => exact .inr (by simpa [profile] using same)
        · rw [if_neg known]
          cases other : estimator.session with
          | some session => exact fun _ => .inl rfl
          | none =>
            intro same
            refine .inr ⟨timely, rfl, rfl, .inl other, rfl, ?_, rfl, rfl, rfl, rfl, rfl⟩
            cases profile : estimator.profile with
            | none => exact .inl rfl
            | some other => exact .inr (by simpa [profile] using same)

theorem Continues.retained {middle : ChargeEstimator} (continues : Continues estimator input middle)
    (same : SameEvidence middle after) (profile : after.profile = middle.profile) : Continues estimator input after :=
  ⟨continues.timely, same.window.trans continues.window, same.session.trans continues.session, continues.sessionBefore,
    profile.trans continues.profile, continues.profileBefore, same.currentSource.trans continues.currentSource,
    same.currentVerification.trans continues.currentVerification, same.modeSource.trans continues.modeSource,
    same.modeVerification.trans continues.modeVerification, same.capacity.trans continues.capacity⟩

/-- The sample agrees with what the estimator remembers of the window's samples. -/
structure Agrees (estimator : ChargeEstimator) (input : ChargeEstimateInput) (sample : ValidatedChargeSample) : Prop where
  evidence : estimator.evidenceChanged input sample = false
  capacity : estimator.capacity = none ∨ estimator.capacity = some input.usableCapacity
  later : ∀ last, estimator.window.last = some last →
    last ≤ input.observedAt ∧ input.observedAt - last ≤ input.freshness

private theorem prepareSample_agrees (prepared : estimator.prepareSample input sample = (after, .ok ()))
    (kept : after.window ≠ {}) : after = estimator ∧ Agrees estimator input sample := by
  unfold prepareSample at prepared
  by_cases earlier : estimator.window.last.any (fun previous => decide (input.observedAt < previous)) = true
  · rw [if_pos earlier] at prepared
    cases prepared
  · rw [if_neg earlier] at prepared
    by_cases gap : estimator.window.last.any (fun previous => decide (input.freshness < input.observedAt - previous)) = true
    · rw [if_pos gap] at prepared
      cases prepared
    · rw [if_neg gap] at prepared
      cases prepared
      by_cases changed : estimator.evidenceChanged input sample = true
      · refine absurd ?_ kept
        simp [admitEvidence, changed, admitCapacity, resetWithReason]
      · have same : estimator.admitEvidence input sample = estimator := by simp [admitEvidence, changed]
        rw [same] at kept ⊢
        by_cases other : estimator.capacity.any (fun known => known ≠ input.usableCapacity) = true
        · refine absurd ?_ kept
          simp only [admitCapacity, other, if_true]
          rfl
        · refine ⟨by simp only [admitCapacity, other]; rfl, by simpa using changed, ?_, ?_⟩
          · cases known : estimator.capacity with
            | none => exact .inl rfl
            | some capacity => exact .inr (by simpa [known] using other)
          · intro last found
            simp only [found, Option.any_some, decide_eq_true_eq, Nat.not_lt] at earlier gap
            exact ⟨earlier, gap⟩

inductive Prepared (estimator : ChargeEstimator) (input : ChargeEstimateInput) :
    ChargeEstimator → Except ChargeEstimateState ValidatedChargeSample → Prop where
  | empties (prepared state) (empty : prepared.window = {}) : Prepared estimator input prepared (.error state)
  | restarts (prepared sample) (empty : prepared.window = {}) (session : prepared.session = some input.session)
      (profile : prepared.profile = none ∨ prepared.profile = some input.profile)
      (current : input.batteryCurrent = some sample.batteryCurrent) : Prepared estimator input prepared (.ok sample)
  | waits (prepared state) (continues : Continues estimator input prepared) :
      Prepared estimator input prepared (.error state)
  | joins (prepared sample) (continues : Continues estimator input prepared) (agrees : Agrees prepared input sample)
      (current : input.batteryCurrent = some sample.batteryCurrent) : Prepared estimator input prepared (.ok sample)

theorem prepare_cases (estimator : ChargeEstimator) (input : ChargeEstimateInput) :
    Prepared estimator input (estimator.prepare input).1 (estimator.prepare input).2 := by
  unfold prepare
  rcases prepareIdentity_cases estimator input with ⟨after, state, refused, empty⟩ | ⟨identified, admitted, identity⟩
  · rw [refused]
    exact .empties after state empty
  · rw [admitted]
    dsimp only
    have valid := validateEvidence_retains identified input
    cases validated : identified.validateEvidence input with
    | mk middle result =>
      rw [validated] at valid
      have continued : middle.window = {} ∨ Continues estimator input middle := by
        rcases valid.evidence with empty | ⟨same, profile⟩
        · exact .inl empty
        · rcases identity.window with empty | continues
          · exact .inl (same.window.trans empty)
          · exact .inr (continues.retained same profile)
      cases result with
      | error state =>
        rcases continued with empty | continues
        · exact .empties middle state empty
        · exact .waits middle state continues
      | ok sample =>
        have current := (validateEvidence_current validated).1
        have placed := prepareSample_retains middle input sample
        dsimp only
        cases taken : middle.prepareSample input sample with
        | mk prepared result =>
          rw [taken] at placed
          have continued : prepared.window = {} ∨ Continues estimator input prepared := by
            rcases placed.evidence with empty | ⟨same, profile⟩
            · exact .inl empty
            · rcases continued with empty | continues
              · exact .inl (same.window.trans empty)
              · exact .inr (continues.retained same profile)
          cases result with
          | error state =>
            rcases continued with empty | continues
            · exact .empties prepared state empty
            · exact .waits prepared state continues
          | ok =>
            by_cases empty : prepared.window = {}
            · have whole := valid.trans placed
              refine .restarts prepared sample empty (whole.session.trans identity.session) ?_ current
              exact whole.profile.imp_right fun same => same.trans identity.profile
            · obtain ⟨rfl, agrees⟩ := prepareSample_agrees taken empty
              exact .joins prepared sample (continued.resolve_left empty) agrees current

structure Remembers (estimator : ChargeEstimator) (sample : ChargeEstimateInput) : Prop where
  session : estimator.session = some sample.session
  current : ∃ reading, sample.batteryCurrent = some reading ∧ estimator.lastCurrentSource = some reading.source ∧
    estimator.lastCurrentVerification = some reading.verification
  modeSource : estimator.lastChargeModeSource = some sample.chargeMode.source
  modeVerification : estimator.lastChargeModeVerification = some sample.chargeMode.verification
  capacity : estimator.capacity = some sample.usableCapacity

structure Tracks (samples : List ChargeEstimateInput) (estimator : ChargeEstimator) : Prop where
  counted : estimator.window.count = min samples.length 65535
  started : estimator.window.start = samples.head?.map ChargeEstimateInput.observedAt
  last : estimator.window.last = samples.getLast?.map ChargeEstimateInput.observedAt
  remembered : ∀ sample ∈ samples, Remembers estimator sample
  alike : ∀ first ∈ samples, ∀ second ∈ samples, first.profile = second.profile
  profile : ∀ sample ∈ samples, ∀ known, estimator.profile = some known → sample.profile = known
  ordered : samples.IsChain ChargeEstimateInput.Follows

variable {samples : List ChargeEstimateInput}

theorem Tracks.empty (empty : estimator.window = {}) : Tracks [] estimator := by
  constructor
  · rw [empty, List.length_nil, Nat.zero_min]
  · rw [empty, List.head?_nil, Option.map_none]
  · rw [empty, List.getLast?_nil, Option.map_none]
  · intro sample member
    cases member
  · intro sample member
    cases member
  · intro sample member
    cases member
  · exact List.isChain_nil

theorem Tracks.last_none (tracks : Tracks samples estimator) : estimator.window.last = none ↔ samples = [] := by
  rw [tracks.last]
  simp

/-- An agreeing sample was admitted with what the samples before it were. -/
theorem Remembers.shares {prepared : ChargeEstimator} (remembers : Remembers estimator earlier)
    (continues : Continues estimator input prepared) (agrees : Agrees prepared input sample)
    (current : input.batteryCurrent = some sample.batteryCurrent) (profile : earlier.profile = input.profile) :
    earlier.SharesEvidence input := by
  obtain ⟨reading, measured, source, verification⟩ := remembers.current
  have unchanged := agrees.evidence
  simp only [evidenceChanged, continues.currentSource, continues.currentVerification, continues.modeSource,
    continues.modeVerification, source, verification, remembers.modeSource, remembers.modeVerification, Option.any_some,
    Bool.or_eq_false_iff, decide_eq_false_iff_not, ne_eq, not_not] at unchanged
  obtain ⟨⟨⟨sameSource, sameVerification⟩, sameModeSource⟩, sameModeVerification⟩ := unchanged
  refine ⟨?_, profile, ?_, ?_, ?_, sameModeSource, sameModeVerification⟩
  · rcases continues.sessionBefore with unknown | known
    · rw [remembers.session] at unknown
      cases unknown
    · exact Option.some.inj (remembers.session.symm.trans known)
  · rcases agrees.capacity with unknown | known
    · rw [continues.capacity, remembers.capacity] at unknown
      cases unknown
    · rw [continues.capacity, remembers.capacity] at known
      exact Option.some.inj known
  · simp [measured, current, sameSource]
  · simp [measured, current, sameVerification]

theorem admitSample_remembers (estimator : ChargeEstimator) (session : estimator.session = some input.session)
    (current : input.batteryCurrent = some sample.batteryCurrent) (shares : earlier.SharesEvidence input) :
    Remembers (estimator.admitSample input sample) earlier := by
  have measured := shares.currentSource
  have verified := shares.currentVerification
  rw [current] at measured verified
  obtain ⟨reading, known, source⟩ := Option.map_eq_some_iff.mp measured
  obtain ⟨same, found, verification⟩ := Option.map_eq_some_iff.mp verified
  rw [known] at found
  cases found
  refine ⟨?_, ⟨reading, known, ?_, ?_⟩, ?_, ?_, ?_⟩
  · exact session.trans (congrArg some shares.session.symm)
  · exact congrArg some source.symm
  · exact congrArg some verification.symm
  · exact congrArg some shares.modeSource.symm
  · exact congrArg some shares.modeVerification.symm
  · exact congrArg some shares.capacity.symm

@[simp] theorem observe_replays {at_ : Nat} {current : Int} (replays : window.replays at_ current = true) :
    window.observe at_ current = window := by
  simp [CurrentRateWindow.observe, replays]

private theorem observe_counts {at_ : Nat} {current : Int} (fresh : window.replays at_ current = false) :
    (window.observe at_ current).count = min (window.count + 1) 65535 ∧
      (window.observe at_ current).last = some at_ ∧
      (window.observe at_ current).start = if window.count = 0 then some at_ else window.start := by
  by_cases first : window.count = 0
  · simp [CurrentRateWindow.observe, fresh, first]
  · simp [CurrentRateWindow.observe, fresh, first]

section Tracks
variable (tracks : Tracks samples estimator)
include tracks

/-- A sample that agrees with the window is counted, or it is a replay of the last one. -/
theorem Tracks.join (session : estimator.session = some input.session)
    (current : input.batteryCurrent = some sample.batteryCurrent)
    (shares : ∀ earlier ∈ samples, earlier.SharesEvidence input)
    (profile : estimator.profile = none ∨ estimator.profile = some input.profile)
    (follows : ∀ earlier, samples.getLast? = some earlier → earlier.Follows input) :
    Tracks (if estimator.window.replays input.observedAt sample.current then samples else samples ++ [input])
      (estimator.admitSample input sample) := by
  have own : ∀ known, (estimator.admitSample input sample).profile = some known → input.profile = known := by
    intro known same
    rcases profile with unknown | same'
    · exact absurd (unknown.symm.trans same) nofun
    · exact Option.some.inj (same'.symm.trans same)
  by_cases replays : estimator.window.replays input.observedAt sample.current = true
  · rw [if_pos replays]
    have window : (estimator.admitSample input sample).window = estimator.window := observe_replays replays
    refine ⟨window ▸ tracks.counted, window ▸ tracks.started, window ▸ tracks.last, ?_, tracks.alike, ?_, tracks.ordered⟩
    · intro earlier member
      exact admitSample_remembers estimator session current (shares earlier member)
    · intro earlier member known same
      exact (shares earlier member).profile.trans (own known same)
  · rw [if_neg replays]
    obtain ⟨count, last, start⟩ := observe_counts (by simpa using replays)
    have all : ∀ earlier ∈ samples ++ [input], earlier.SharesEvidence input := by
      intro earlier member
      rcases List.mem_append.mp member with before | now
      · exact shares earlier before
      · rw [List.mem_singleton.mp now]
        exact ⟨rfl, rfl, rfl, rfl, rfl, rfl, rfl⟩
    refine ⟨?_, ?_, ?_, ?_, ?_, ?_, ?_⟩
    · rw [admitSample, count, tracks.counted, List.length_append, List.length_singleton]
      omega
    · rw [admitSample, start, tracks.counted, tracks.started]
      cases samples with
      | nil => rfl
      | cons first rest =>
        rw [if_neg (by simp)]
        rfl
    · rw [admitSample, last, List.getLast?_append]
      rfl
    · intro earlier member
      exact admitSample_remembers estimator session current (all earlier member)
    · intro first member second other
      exact (all first member).profile.trans (all second other).profile.symm
    · intro earlier member known same
      exact (all earlier member).profile.trans (own known same)
    · refine List.isChain_append.mpr ⟨tracks.ordered, List.isChain_singleton _, ?_⟩
      intro earlier final later first
      cases first
      exact follows earlier final

theorem Tracks.continued {prepared : ChargeEstimator} (continues : Continues estimator input prepared)
    (same : ∀ sample ∈ samples, sample.profile = input.profile) : Tracks samples prepared := by
  refine ⟨continues.window ▸ tracks.counted, continues.window ▸ tracks.started, continues.window ▸ tracks.last, ?_,
    tracks.alike, ?_, tracks.ordered⟩
  · intro sample member
    have remembers := tracks.remembered sample member
    obtain ⟨reading, measured, source, verification⟩ := remembers.current
    refine ⟨?_, ⟨reading, measured, continues.currentSource.trans source,
      continues.currentVerification.trans verification⟩, continues.modeSource.trans remembers.modeSource,
      continues.modeVerification.trans remembers.modeVerification, continues.capacity.trans remembers.capacity⟩
    rcases continues.sessionBefore with unknown | known
    · rw [remembers.session] at unknown
      cases unknown
    · exact continues.session.trans (known.symm.trans remembers.session)
  · intro sample member known profile
    rw [continues.profile] at profile
    exact (same sample member).trans (Option.some.inj profile)

/-- The estimator compares profiles, or the update brings the profile of the samples. -/
def Notices (samples : List ChargeEstimateInput) (estimator : ChargeEstimator) (input : ChargeEstimateInput) : Prop :=
  estimator.profile = none → estimator.session = some input.session → input.Timely →
    ∀ sample ∈ samples, sample.profile = input.profile

theorem Tracks.step (notices : Notices samples estimator input) :
    Tracks (followWindow samples estimator input) (estimator.update input).1 ∧
      ((estimator.update input).1.profile = none →
        ∀ sample ∈ followWindow samples estimator input, sample.profile = input.profile) := by
  have prepared := prepare_cases estimator input
  unfold followWindow update
  generalize estimator.prepare input = result at prepared
  obtain ⟨middle, result⟩ := result
  cases prepared with
  | empties state empty =>
    have unseen : middle.window.last = none := by rw [empty]
    simp only [unseen, if_true]
    refine ⟨.empty empty, ?_⟩
    intro _ sample member
    cases member
  | restarts sample empty session profile current =>
    have unseen : middle.window.last = none := by rw [empty]
    simp only [unseen, if_true]
    have next := (Tracks.empty empty).join session current (by simp) profile (by simp)
    refine ⟨next, ?_⟩
    intro _ counted member
    split at member
    · cases member
    · rw [List.mem_singleton.mp member]
  | waits state continues =>
    have same : ∀ sample ∈ samples, sample.profile = input.profile := by
      intro sample member
      rcases continues.profileBefore with unknown | known
      · refine notices unknown ?_ continues.timely sample member
        rcases continues.sessionBefore with missing | session
        · exact absurd (missing.symm.trans (tracks.remembered sample member).session) nofun
        · exact session
      · exact tracks.profile sample member _ known
    have next := tracks.continued continues same
    dsimp only
    by_cases unseen : middle.window.last = none
    · rw [if_pos unseen, ← next.last_none.mp unseen]
      exact ⟨next, fun _ => same⟩
    · rw [if_neg unseen]
      exact ⟨next, fun _ => same⟩
  | joins sample continues agrees current =>
    have same : ∀ sample ∈ samples, sample.profile = input.profile := by
      intro sample member
      rcases continues.profileBefore with unknown | known
      · refine notices unknown ?_ continues.timely sample member
        rcases continues.sessionBefore with missing | session
        · exact absurd (missing.symm.trans (tracks.remembered sample member).session) nofun
        · exact session
      · exact tracks.profile sample member _ known
    have next := tracks.continued continues same
    have kept : (if middle.window.last = none then [] else samples) = samples := by
      by_cases unseen : middle.window.last = none
      · rw [if_pos unseen, next.last_none.mp unseen]
      · rw [if_neg unseen]
    simp only [kept]
    refine ⟨next.join continues.session current ?_ (.inr continues.profile) ?_, ?_⟩
    · intro earlier member
      exact (tracks.remembered earlier member).shares continues agrees current (same earlier member)
    · intro earlier final
      have last := next.last
      rw [final] at last
      exact agrees.later _ last
    · intro forgotten
      exact absurd (continues.profile.symm.trans forgotten) nofun

/-- A window is the account of its samples, and they belong together. -/
structure Unmixed (samples : List ChargeEstimateInput) (window : CurrentRateWindow) : Prop where
  counted : window.count = min samples.length 65535
  started : window.start = samples.head?.map ChargeEstimateInput.observedAt
  last : window.last = samples.getLast?.map ChargeEstimateInput.observedAt
  shared : ∀ first ∈ samples, ∀ second ∈ samples, first.SharesEvidence second
  ordered : samples.IsChain ChargeEstimateInput.Follows

theorem Tracks.unmixed : Unmixed samples estimator.window := by
  refine ⟨tracks.counted, tracks.started, tracks.last, ?_, tracks.ordered⟩
  intro first member second other
  have one := tracks.remembered first member
  have two := tracks.remembered second other
  obtain ⟨reading, measured, source, verification⟩ := one.current
  obtain ⟨reading', measured', source', verification'⟩ := two.current
  refine ⟨?_, tracks.alike first member second other, ?_, ?_, ?_, ?_, ?_⟩
  · exact Option.some.inj (one.session.symm.trans two.session)
  · exact Option.some.inj (one.capacity.symm.trans two.capacity)
  · simpa [measured, measured'] using source.symm.trans source'
  · simpa [measured, measured'] using verification.symm.trans verification'
  · exact Option.some.inj (one.modeSource.symm.trans two.modeSource)
  · exact Option.some.inj (one.modeVerification.symm.trans two.modeVerification)

end Tracks

/-- Where the window holds samples but no profile is remembered, the update brings the
profile of the update before it, or it cannot join the window's session. -/
def KeepsProfile (earlier here : EstimateStep) : Prop :=
  here.before.profile = none → here.before.window.last ≠ none → here.before.session = some here.input.session →
    here.input.Timely → here.input.profile = earlier.input.profile

instance (earlier here : EstimateStep) : Decidable (KeepsProfile earlier here) :=
  inferInstanceAs (Decidable (_ → _))

/-- The history's window is tracked, and a forgotten profile is the one of the last update. -/
structure Followed (past : List EstimateStep) (estimator : ChargeEstimator) : Prop where
  tracks : Tracks (windowSamples past) estimator
  forgotten : estimator.profile = none → ∀ sample ∈ windowSamples past,
    ∃ early earlier, past = early ++ [earlier] ∧ sample.profile = earlier.input.profile

theorem Followed.step {past : List EstimateStep} (followed : Followed past estimator)
    (keeps : (past ++ [Runs.take update estimator input]).IsChain KeepsProfile) :
    Followed (past ++ [Runs.take update estimator input]) (estimator.update input).1 := by
  have notices : Notices (windowSamples past) estimator input := by
    intro unknown session timely sample member
    obtain ⟨early, earlier, rfl, same⟩ := followed.forgotten unknown sample member
    have seen : estimator.window.last ≠ none := by
      intro unseen
      rw [followed.tracks.last_none.mp unseen] at member
      cases member
    have kept := (List.isChain_append.mp keeps).2.2 earlier (by simp) _ rfl
    exact same.trans (kept unknown seen session timely).symm
  obtain ⟨tracks, forgotten⟩ := followed.tracks.step notices
  refine ⟨windowSamples_snoc past _ ▸ tracks, ?_⟩
  rw [windowSamples_snoc]
  intro unknown sample member
  exact ⟨past, _, rfl, forgotten unknown sample member⟩

theorem followed (updates : List ChargeEstimateInput)
    (keeps : (Runs.history update {} updates).IsChain KeepsProfile) :
    Followed (Runs.history update {} updates) (Runs.final update {} updates) := by
  revert keeps
  refine Runs.induction_on
    (P := fun past estimator => List.IsChain KeepsProfile past → Followed past estimator) ?_ ?_ updates
  · intro _
    have empty : Tracks [] ({} : ChargeEstimator) := .empty rfl
    refine ⟨empty, ?_⟩
    intro _ sample member
    cases member
  · intro past estimator input ih keeps
    exact (ih (List.isChain_append.mp keeps).1).step keeps

/-- The charging-current window never mixes evidence where no update brings another
profile right after one that restarted the window on changed evidence or capacity. -/
theorem window_unmixed (updates : List ChargeEstimateInput)
    (keeps : (Runs.history update {} updates).IsChain KeepsProfile) :
    Unmixed (windowSamples (Runs.history update {} updates))
      (Runs.final update {} updates).window :=
  (followed updates keeps).tracks.unmixed

def chargingReading (at_ profile : Nat) (source : ValueSource) : ChargeEstimateInput where
  session := 1
  profile
  at_
  observedAt := at_
  batteryCurrent := some ⟨.into ⟨2000, by decide, by decide⟩, source, .known, .hardwareVerified⟩
  chargeMode := ⟨.charging, .reported, .known, .hardwareVerified⟩
  flow := ⟨.charging, .reported, .known, .hardwareVerified⟩
  batteryLevel := .reported ⟨⟨50, by decide⟩, .reported, .known, .hardwareVerified⟩
  usableCapacity := ⟨10000, .protocolProfile, .hardwareVerified⟩
  batteryTemperature := none
  voltageSag := none
  freshness := 60000

/-- The evidence changes, the window fills, the profile changes, and two readings of the new profile follow. -/
def noticedReadings : List ChargeEstimateInput :=
  [chargingReading 0 1 .reported, chargingReading 15000 1 .calculated, chargingReading 30000 1 .calculated,
    chargingReading 45000 2 .calculated, chargingReading 60000 2 .calculated]

theorem noticed_profile_change_unmixed :
    windowSamples (Runs.history update {} noticedReadings) =
        [chargingReading 45000 2 .calculated, chargingReading 60000 2 .calculated] ∧
      Unmixed (windowSamples (Runs.history update {} noticedReadings))
        (Runs.final update {} noticedReadings).window := by
  have keeps : (Runs.history update {} noticedReadings).IsChain KeepsProfile := by
    decide
  exact ⟨by decide, window_unmixed _ keeps⟩

/-- The restart on changed current evidence forgets the profile, so the change right
behind it is not compared, and one window holds samples of two profiles. -/
theorem forgotten_profile_mixes : ¬∀ updates : List ChargeEstimateInput,
    Unmixed (windowSamples (Runs.history update {} updates))
      (Runs.final update {} updates).window := by
  intro unmixed
  have samples : windowSamples (Runs.history update {}
      [chargingReading 0 1 .reported, chargingReading 15000 1 .calculated, chargingReading 30000 2 .calculated]) =
      [chargingReading 15000 1 .calculated, chargingReading 30000 2 .calculated] := by
    decide
  have shared := (unmixed
    [chargingReading 0 1 .reported, chargingReading 15000 1 .calculated, chargingReading 30000 2 .calculated]).shared
  rw [samples] at shared
  have same := (shared _ (List.mem_cons_self ..) _ (List.mem_cons_of_mem _ (List.mem_cons_self ..))).profile
  exact absurd same (by decide)

end ChargeEstimator

end Cutout.Core

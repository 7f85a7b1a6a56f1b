import Cutout.DeviceSettingsState

/-! Conservative charging time estimates. The estimator collects charging-current
samples in one window; every update first checks identity, then evidence, then the
sample's place in the window, and each check may discard what was collected. Times
are milliseconds, currents milliamps. -/

namespace Cutout.Core
open Protocols (u32Max u64Max i64Max i64Min saturatingAdd)

def minSamples : Nat := 3
def minObservationMilliseconds : Nat := 30000
def minChargeCurrentMilliamps : Nat := 100
def stableVariabilityPermille : Nat := 100
def ewmaShift : Nat := 2
def millisecondsPerMilliampHour : Nat := 3600000

inductive ChargeMode where
  | unknown | notCharging | charging
  deriving Repr, DecidableEq

def ChargeMode.isActive : ChargeMode → Bool
  | charging => true
  | notCharging | unknown => false

inductive ChargeFlow where
  | charging | discharging | regeneration | zero | unknown
  deriving Repr, DecidableEq

inductive CapacitySource where
  | protocolProfile | hardwareMeasured | estimated
  deriving Repr, DecidableEq

structure UsablePackCapacity where
  value : Nat
  source : CapacitySource
  verification : VerificationStatus
  deriving Repr, DecidableEq

inductive EstimateConfidence where
  | low | medium | high
  deriving Repr, DecidableEq

/-- A state of charge, clamped to one hundred percent. -/
structure BatteryLevel where
  percent : Nat
  bounded : percent ≤ 100
  deriving DecidableEq

inductive BatteryLevelBasis where
  | reported (level : Measured BatteryLevel)
  | profileEstimated (level : Measured BatteryLevel) (profile : Nat) (confidence : EstimateConfidence)
  | unavailable
  deriving DecidableEq

def BatteryLevelBasis.level : BatteryLevelBasis → Option BatteryLevel
  | reported level | profileEstimated level _ _ => some level.value
  | unavailable => none

structure CurrentMagnitude where
  milliamps : Nat
  positive : 0 < milliamps
  bounded : milliamps ≤ u32Max
  deriving DecidableEq

def CurrentMagnitude.new (milliamps : Int) : Option CurrentMagnitude :=
  if range : 0 < milliamps ∧ milliamps ≤ u32Max then some ⟨milliamps.toNat, by omega, by omega⟩ else none

inductive BatteryCurrentDirection where
  | into | out | zero | unknown
  deriving Repr, DecidableEq

inductive BatteryCurrent where
  | zero
  | into (magnitude : CurrentMagnitude)
  | out (magnitude : CurrentMagnitude)
  | unknown (magnitude : CurrentMagnitude)
  deriving DecidableEq

namespace BatteryCurrent

def direction : BatteryCurrent → BatteryCurrentDirection
  | zero => .zero
  | into _ => .into
  | out _ => .out
  | unknown _ => .unknown

def magnitudeMilliamps : BatteryCurrent → Nat
  | zero => 0
  | into magnitude | out magnitude | unknown magnitude => magnitude.milliamps

end BatteryCurrent

structure VoltageSagEstimate where
  delta : Int
  confidence : EstimateConfidence
  validUntil : Nat
  deriving Repr, DecidableEq

structure ChargeEstimateInput where
  session : Nat
  profile : Nat
  at_ : Nat
  observedAt : Nat
  batteryCurrent : Option (Measured BatteryCurrent)
  chargeMode : Measured ChargeMode
  flow : Measured ChargeFlow
  batteryLevel : BatteryLevelBasis
  usableCapacity : UsablePackCapacity
  batteryTemperature : Option (Measured Int)
  voltageSag : Option VoltageSagEstimate
  /-- The maximum age of `TelemetryFreshness`. -/
  freshness : Nat
  deriving DecidableEq

inductive ChargeEstimateUnavailableReason where
  | notCharging | currentMissing | currentDirectionUnverified | currentTooSmall | batteryLevelMissing
  | capacityMissing | unsupportedProfile | unstableCurrent | staleInput | temperatureOutOfModel
  | contradictoryInputs
  deriving Repr, DecidableEq

inductive ChargeEstimateResetReason where
  | sessionChanged | chargingStopped | staleGap | timestampOrder | currentEvidenceChanged | capacityChanged
  | profileChanged | manual
  deriving Repr, DecidableEq

inductive ChargeEstimateError where
  | timestampOrder | arithmeticOverflow
  deriving Repr, DecidableEq

structure CurrentRateSummary where
  mean : CurrentMagnitude
  minimum : CurrentMagnitude
  maximum : CurrentMagnitude
  variabilityPermille : Nat
  deriving DecidableEq

def CurrentRateSummary.isStable (summary : CurrentRateSummary) : Bool :=
  decide (summary.variabilityPermille ≤ stableVariabilityPermille)

inductive EstimateKind where
  | atPresentCurrent | profileBackedTimeToFull | observedTaperTimeToFull | observedProgressTimeToFull
  deriving Repr, DecidableEq

structure ChargeTimeEstimate where
  lower : Nat
  expected : Nat
  upper : Nat
  kind : EstimateKind
  confidence : EstimateConfidence
  currentRate : CurrentRateSummary
  batteryLevelBasis : BatteryLevelBasis
  capacitySource : CapacitySource
  voltageSag : Option VoltageSagEstimate
  calculatedAt : Nat
  validUntil : Nat
  deriving DecidableEq

inductive ChargeEstimateState where
  | full | balancing
  | collectingSamples (samples observedFor : Nat)
  | available (estimate : ChargeTimeEstimate)
  | unavailable (reason : ChargeEstimateUnavailableReason)
  | stale
  | failed (error : ChargeEstimateError)
  deriving DecidableEq

def i64Saturate (value : Int) : Int := max i64Min (min i64Max value)

structure CurrentRateWindow where
  start : Option Nat := none
  last : Option Nat := none
  count : Nat := 0
  meanQ8 : Int := 0
  minimum : Int := 0
  maximum : Int := 0
  lastCurrent : Int := 0
  variabilityQ8 : Int := 0
  deriving Repr, DecidableEq

namespace CurrentRateWindow

/-- Reevaluating one observation must not reweight the current rate. -/
def replays (window : CurrentRateWindow) (at_ : Nat) (current : Int) : Bool :=
  decide (window.last = some at_ ∧ window.lastCurrent = current)

def observe (window : CurrentRateWindow) (at_ : Nat) (current : Int) : CurrentRateWindow :=
  if window.replays at_ current then window
  else
    let currentQ8 := i64Saturate (current * 256)
    let weighed : CurrentRateWindow :=
      if window.count = 0 then
        { window with start := some at_, meanQ8 := currentQ8, minimum := current, maximum := current }
      else
        let deltaQ8 := i64Saturate (currentQ8 - window.meanQ8)
        let difference := min ((i64Saturate (current - window.lastCurrent)).natAbs : Int) i64Max
        let differenceQ8 := i64Saturate (difference * 256)
        { window with
          meanQ8 := i64Saturate (window.meanQ8 + deltaQ8.tdiv (2 ^ ewmaShift))
          variabilityQ8 := i64Saturate (window.variabilityQ8
            + (i64Saturate (differenceQ8 - window.variabilityQ8)).tdiv (2 ^ ewmaShift))
          minimum := min window.minimum current
          maximum := max window.maximum current }
    -- a sixteen-bit counter that saturates
    { weighed with lastCurrent := current, last := some at_, count := min (weighed.count + 1) 65535 }

def summary (window : CurrentRateWindow) : Option CurrentRateSummary := do
  if window.count = 0 ∨ window.meanQ8 ≤ 0 then none
  else
    let mean ← CurrentMagnitude.new ((i64Saturate (window.meanQ8 + 128)).tdiv 256)
    let minimum ← CurrentMagnitude.new window.minimum
    let maximum ← CurrentMagnitude.new window.maximum
    let variability := max 0 (min 65535 ((i64Saturate (window.variabilityQ8 * 1000)).tdiv window.meanQ8))
    pure ⟨mean, minimum, maximum, variability.toNat⟩

end CurrentRateWindow

structure ChargeEstimator where
  session : Option Nat := none
  window : CurrentRateWindow := {}
  lastCurrentSource : Option ValueSource := none
  lastCurrentVerification : Option VerificationStatus := none
  lastChargeModeSource : Option ValueSource := none
  lastChargeModeVerification : Option VerificationStatus := none
  profile : Option Nat := none
  capacity : Option UsablePackCapacity := none
  lastResetReason : Option ChargeEstimateResetReason := none
  progressStart : Option (Nat × Nat) := none
  progressLast : Option Nat := none
  progressSamples : Nat := 0
  deriving Repr, DecidableEq

structure ValidatedChargeSample where
  current : Nat
  batteryCurrent : Measured BatteryCurrent
  levelConfidence : EstimateConfidence
  deriving DecidableEq

def validateBatteryLevel (basis : BatteryLevelBasis) (selectedProfile : Nat) :
    Except ChargeEstimateState EstimateConfidence :=
  match basis with
  | .reported level =>
    if level.verification.isTrusted = false ∨ level.quality ≠ .known then .error (.unavailable .batteryLevelMissing)
    else .ok .high
  | .profileEstimated level profile confidence =>
    let profileDerived := level.source = .estimated ∧ level.quality = .inferred ∧ level.verification = .inferred
    if profile = 0 ∨ profile ≠ selectedProfile ∨ (level.verification.isTrusted = false ∧ ¬profileDerived) then
      .error (.unavailable .unsupportedProfile)
    else .ok confidence
  | .unavailable => .error (.unavailable .batteryLevelMissing)

/-- Millidegrees outside the supported conservative model are refused. -/
def validateBatteryTemperature (temperature : Option (Measured Int)) : Except ChargeEstimateState Unit :=
  if temperature.any fun temperature => ¬(-10000 ≤ temperature.value ∧ temperature.value ≤ 50000) then
    .error (.unavailable .temperatureOutOfModel)
  else .ok ()

/-- Checked arithmetic on 128 bits. -/
def checkedU128 (value : Nat) : Except ChargeEstimateError Nat :=
  if value < 2 ^ 128 then .ok value else .error .arithmeticOverflow

/-- `u64::try_from`, as a duration. -/
def toDuration (value : Nat) : Except ChargeEstimateError Nat :=
  if value ≤ u64Max then .ok value else .error .arithmeticOverflow

def durationAtCurrent (remainingMilliampHours : Nat) (current : CurrentMagnitude) : Except ChargeEstimateError Nat := do
  let product ← checkedU128 (remainingMilliampHours * millisecondsPerMilliampHour)
  let rounded ← checkedU128 (product + (current.milliamps - 1))
  pure (rounded / current.milliamps)

def scaledDuration (value factorPermille : Nat) : Except ChargeEstimateError Nat := do
  let product ← checkedU128 (value * factorPermille)
  let rounded ← checkedU128 (product + 999)
  toDuration (rounded / 1000)

def widenPermille (input : ChargeEstimateInput) (currentRate : CurrentRateSummary) : Nat :=
  let basis := match input.batteryLevel with
    | .profileEstimated _ _ _ => 200
    | .reported _ | .unavailable => 0
  let capacity := if input.usableCapacity.source = .estimated then 150 else 0
  let sag := match input.voltageSag with
    | some sag =>
      if sag.validUntil < input.at_ ∨ sag.confidence = .low then 200
      else if 1000 < sag.delta.natAbs then 100 else 0
    | none => 0
  50 + basis + capacity + sag + min (currentRate.variabilityPermille / 2) 200

def estimateConfidence (input : ChargeEstimateInput) (levelConfidence : EstimateConfidence) : EstimateConfidence :=
  if levelConfidence = .high ∧ input.usableCapacity.source ≠ .estimated
      ∧ (input.usableCapacity.verification = .hardwareVerified
        ∨ input.usableCapacity.verification = .sourceAndHardwareVerified)
      ∧ input.voltageSag.all (fun sag => decide (sag.confidence ≠ .low)) = true then .high
  else if levelConfidence = .low ∨ input.usableCapacity.source = .estimated then .low
  else .medium

def percentOr (input : ChargeEstimateInput) (missing : Nat) : Nat :=
  (input.batteryLevel.level.map BatteryLevel.percent).getD missing

def calculateEstimate (input : ChargeEstimateInput) (currentRate : CurrentRateSummary)
    (levelConfidence : EstimateConfidence) : Except ChargeEstimateError ChargeTimeEstimate := do
  let missingPercent := 100 - percentOr input 100
  let product ← checkedU128 (input.usableCapacity.value * missingPercent)
  let rounded ← checkedU128 (product + 99)
  let remainingMilliampHours := rounded / 100
  let expected ← toDuration (← durationAtCurrent remainingMilliampHours currentRate.mean)
  let widen := widenPermille input currentRate
  let fastest ← durationAtCurrent remainingMilliampHours currentRate.maximum
  let slowest ← durationAtCurrent remainingMilliampHours currentRate.minimum
  let lower ← scaledDuration fastest (1000 - min widen 900)
  let upper ← scaledDuration slowest (1000 + widen)
  pure {
    lower, expected, upper
    kind := .atPresentCurrent
    confidence := estimateConfidence input levelConfidence
    currentRate
    batteryLevelBasis := input.batteryLevel
    capacitySource := input.usableCapacity.source
    voltageSag := input.voltageSag
    calculatedAt := input.at_
    validUntil := saturatingAdd input.at_ input.freshness }

namespace ChargeEstimator

/-- Discards what was collected; the session stays known. -/
def resetWithReason (estimator : ChargeEstimator) (reason : ChargeEstimateResetReason) : ChargeEstimator :=
  { session := estimator.session, lastResetReason := some reason }

def admitSession (estimator : ChargeEstimator) (session : Nat) : ChargeEstimator :=
  if estimator.session = some session then estimator
  else if estimator.session.isSome then { estimator.resetWithReason .sessionChanged with session := some session }
  else { estimator with session := some session }

def admitProfile (estimator : ChargeEstimator) (profile : Nat) : ChargeEstimator :=
  if estimator.profile.any (fun known => known ≠ profile) then
    { estimator.resetWithReason .profileChanged with profile := some profile }
  else { estimator with profile := some profile }

def prepareIdentity (estimator : ChargeEstimator) (input : ChargeEstimateInput) :
    ChargeEstimator × Except ChargeEstimateState Unit :=
  if input.at_ < input.observedAt then (estimator.resetWithReason .timestampOrder, .error (.failed .timestampOrder))
  else if input.freshness < input.at_ - input.observedAt then (estimator.resetWithReason .staleGap, .error .stale)
  else ((estimator.admitSession input.session).admitProfile input.profile, .ok ())

/-- Charging that no device reported, only telemetry suggests. -/
def inferredCharging (input : ChargeEstimateInput) : Bool :=
  decide (input.chargeMode.value = .charging ∧ input.chargeMode.source = .estimated
    ∧ input.chargeMode.quality = .inferred ∧ input.chargeMode.verification = .inferred)

def validateChargingEvidence (estimator : ChargeEstimator) (input : ChargeEstimateInput) :
    ChargeEstimator × Except ChargeEstimateState Bool :=
  if ¬(inferredCharging input = true
      ∨ (input.chargeMode.verification.isTrusted = true ∧ input.chargeMode.value.isActive = true)) then
    (estimator.resetWithReason .chargingStopped, .error (.unavailable .notCharging))
  else if input.flow.value = .discharging ∨ input.flow.value = .regeneration then
    (estimator.resetWithReason .chargingStopped, .error (.unavailable .contradictoryInputs))
  else if input.batteryCurrent.any (fun reading => !reading.verification.isTrusted) then
    (estimator, .error (.unavailable .currentDirectionUnverified))
  else if input.batteryCurrent.any (fun reading => decide (reading.value.direction = .out)) then
    (estimator.resetWithReason .chargingStopped, .error (.unavailable .contradictoryInputs))
  else (estimator, .ok (inferredCharging input))

def clearProgress (estimator : ChargeEstimator) : ChargeEstimator :=
  { estimator with progressStart := none, progressLast := none, progressSamples := 0 }

def clearWindow (estimator : ChargeEstimator) : ChargeEstimator := { estimator with window := {} }

/-- Progress starts again where the capacity changed or the level fell. -/
def restartProgress (estimator : ChargeEstimator) (input : ChargeEstimateInput) : ChargeEstimator :=
  if estimator.capacity.any (fun capacity => capacity ≠ input.usableCapacity)
      ∨ estimator.progressStart.any (fun start => decide (percentOr input 0 < start.2)) then
    { estimator with progressStart := none, progressSamples := 0 }
  else estimator

def recordProgress (estimator : ChargeEstimator) (input : ChargeEstimateInput) : ChargeEstimator :=
  { estimator with
    capacity := some input.usableCapacity
    progressStart := some (estimator.progressStart.getD (input.observedAt, percentOr input 0))
    progressSamples :=
      if estimator.progressLast = some input.observedAt then estimator.progressSamples
      else min (estimator.progressSamples + 1) 65535
    progressLast := some input.observedAt }

/-- The estimate from recorded progress, whose whole-percent levels are coarse rate evidence. -/
def progressEstimate (estimator : ChargeEstimator) (input : ChargeEstimateInput) : ChargeEstimateState :=
  let start := estimator.progressStart.getD (input.observedAt, percentOr input 0)
  let observedFor := input.observedAt - start.1
  let delta := percentOr input 0 - start.2
  if delta = 0 ∨ observedFor < minObservationMilliseconds then
    .collectingSamples estimator.progressSamples observedFor
  else
    let rate := min (min (input.usableCapacity.value * delta) u64Max * 36000) u64Max / observedFor
    if 2 ^ 31 ≤ rate then .failed .arithmeticOverflow
    else if rate < 100 then .collectingSamples estimator.progressSamples observedFor
    else
      match CurrentMagnitude.new rate with
      | none => .failed .arithmeticOverflow
      | some rate =>
        match calculateEstimate input ⟨rate, rate, rate, 0⟩ .low with
        | .ok estimate =>
          .available { estimate with
            kind := .observedProgressTimeToFull
            lower := estimate.expected / 2
            upper := min (estimate.expected * 2) u64Max }
        | .error error => .failed error

/-- Charging without a measured current is told from the progress of the level. -/
def progressState (estimator : ChargeEstimator) (input : ChargeEstimateInput) : ChargeEstimator × ChargeEstimateState :=
  let cleared := { estimator.clearWindow with lastCurrentSource := none, lastCurrentVerification := none }
  if cleared.progressLast.any (fun last => decide (input.observedAt < last)) then
    (cleared.resetWithReason .timestampOrder, .failed .timestampOrder)
  else if cleared.progressLast.any (fun last => decide (input.freshness < input.observedAt - last)) then
    (cleared.resetWithReason .staleGap, .stale)
  else
    let recorded := (cleared.restartProgress input).recordProgress input
    (recorded, recorded.progressEstimate input)

/-- The level and current say that charging is finished or balancing. -/
def nearFull (level : Nat) (magnitude : Option Nat) : Bool :=
  decide (99 ≤ level ∨ (95 ≤ level ∧ magnitude = some 0))

def validateEvidence (estimator : ChargeEstimator) (input : ChargeEstimateInput) :
    ChargeEstimator × Except ChargeEstimateState ValidatedChargeSample :=
  match estimator.validateChargingEvidence input with
  | (checked, .error state) => (checked, .error state)
  | (checked, .ok inferred) =>
    if input.usableCapacity.verification.isTrusted = false ∨ input.usableCapacity.value = 0 then
      (checked, .error (.unavailable .capacityMissing))
    else
      match validateBatteryLevel input.batteryLevel input.profile with
      | .error state => (checked, .error state)
      | .ok confidence =>
        let levelConfidence := if inferred then .low else confidence
        match validateBatteryTemperature input.batteryTemperature with
        | .error state => (checked, .error state)
        | .ok () =>
          let level := percentOr input 0
          let magnitude := input.batteryCurrent.map fun reading => reading.value.magnitudeMilliamps
          if inferred ∧ nearFull level magnitude then
            (checked.clearWindow.clearProgress, .error (.collectingSamples 0 0))
          else if nearFull level magnitude then
            (checked.clearWindow.clearProgress,
              .error (if level = 100 ∧ magnitude.any (fun current => decide (current < 100)) then .full else .balancing))
          else
            match input.batteryCurrent with
            | none =>
              let (progressed, state) := checked.progressState input
              (progressed, .error state)
            | some batteryCurrent =>
              let current := batteryCurrent.value.magnitudeMilliamps
              if current = 0 then
                let (progressed, state) := checked.progressState input
                (progressed, .error state)
              else if current < minChargeCurrentMilliamps then
                (checked.resetWithReason .chargingStopped, .error (.unavailable .currentTooSmall))
              else (checked.clearProgress, .ok ⟨current, batteryCurrent, levelConfidence⟩)

/-- The current or the charge mode comes with other evidence than the window's samples. -/
def evidenceChanged (estimator : ChargeEstimator) (input : ChargeEstimateInput) (sample : ValidatedChargeSample) : Bool :=
  estimator.lastCurrentSource.any (fun source => source ≠ sample.batteryCurrent.source)
    || estimator.lastCurrentVerification.any (fun verification => verification ≠ sample.batteryCurrent.verification)
    || estimator.lastChargeModeSource.any (fun source => source ≠ input.chargeMode.source)
    || estimator.lastChargeModeVerification.any (fun verification => verification ≠ input.chargeMode.verification)

def admitEvidence (estimator : ChargeEstimator) (input : ChargeEstimateInput) (sample : ValidatedChargeSample) :
    ChargeEstimator :=
  if estimator.evidenceChanged input sample then estimator.resetWithReason .currentEvidenceChanged else estimator

def admitCapacity (estimator : ChargeEstimator) (capacity : UsablePackCapacity) : ChargeEstimator :=
  if estimator.capacity.any (fun known => known ≠ capacity) then estimator.resetWithReason .capacityChanged
  else estimator

def prepareSample (estimator : ChargeEstimator) (input : ChargeEstimateInput) (sample : ValidatedChargeSample) :
    ChargeEstimator × Except ChargeEstimateState Unit :=
  if estimator.window.last.any (fun previous => decide (input.observedAt < previous)) then
    (estimator.resetWithReason .timestampOrder, .error (.failed .timestampOrder))
  else if estimator.window.last.any (fun previous => decide (input.freshness < input.observedAt - previous)) then
    (estimator.resetWithReason .staleGap, .error .stale)
  else ((estimator.admitEvidence input sample).admitCapacity input.usableCapacity, .ok ())

def currentState (estimator : ChargeEstimator) (input : ChargeEstimateInput) (levelConfidence : EstimateConfidence) :
    ChargeEstimateState :=
  let observedFor := input.observedAt - estimator.window.start.getD input.observedAt
  if estimator.window.count < minSamples ∨ observedFor < minObservationMilliseconds then
    .collectingSamples estimator.window.count observedFor
  else
    match estimator.window.summary with
    | none => .failed .arithmeticOverflow
    | some currentRate =>
      if currentRate.isStable = false then .unavailable .unstableCurrent
      else
        match calculateEstimate input currentRate levelConfidence with
        | .ok estimate => .available estimate
        | .error error => .failed error

/-- The checks of one update, before its sample is counted. -/
def prepare (estimator : ChargeEstimator) (input : ChargeEstimateInput) :
    ChargeEstimator × Except ChargeEstimateState ValidatedChargeSample :=
  match estimator.prepareIdentity input with
  | (identified, .error state) => (identified, .error state)
  | (identified, .ok ()) =>
    match identified.validateEvidence input with
    | (validated, .error state) => (validated, .error state)
    | (validated, .ok sample) =>
      match validated.prepareSample input sample with
      | (prepared, .error state) => (prepared, .error state)
      | (prepared, .ok ()) => (prepared, .ok sample)

def admitSample (estimator : ChargeEstimator) (input : ChargeEstimateInput) (sample : ValidatedChargeSample) :
    ChargeEstimator :=
  { estimator with
    window := estimator.window.observe input.observedAt sample.current
    lastCurrentSource := some sample.batteryCurrent.source
    lastCurrentVerification := some sample.batteryCurrent.verification
    lastChargeModeSource := some input.chargeMode.source
    lastChargeModeVerification := some input.chargeMode.verification
    capacity := some input.usableCapacity }

def update (estimator : ChargeEstimator) (input : ChargeEstimateInput) : ChargeEstimator × ChargeEstimateState :=
  match estimator.prepare input with
  | (prepared, .error state) => (prepared, state)
  | (prepared, .ok sample) =>
    let admitted := prepared.admitSample input sample
    (admitted, admitted.currentState input sample.levelConfidence)

end ChargeEstimator

end Cutout.Core

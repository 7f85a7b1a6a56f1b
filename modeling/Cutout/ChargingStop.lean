import Cutout.RideRecorder
import Cutout.VescNotifications
import Cutout.ElapsedTime
import Cutout.Library.BinaryFloat

/-! Suggestions to record a charging stop. One ride keeps the locations at which a
suggestion was shown, and one suggestion may be pending while observations, dismissals
and delayed acknowledgements of the user interface arrive in any order. -/

namespace Cutout.Rides
open Library
open Library.BinaryFloat (Value binary64)
open Protocols (RideOperatingState)

abbrev RideUuid := BitVec 128

def chargingStopPromptRadiusMillimetres : Nat := 1609344

def connectedWheelMotionFreshnessMs : Nat := 5000

def chargingLocationFixMaximumAgeSeconds : Value := .finite 120

/-- A fix whose timestamp and accuracy were validated to be finite, the accuracy not negative. -/
structure ChargingLocationFix where
  coordinate : Coordinate
  sourceTimestampUnixSeconds : ℚ
  horizontalAccuracyMeters : ℚ
  accurate : 0 ≤ horizontalAccuracyMeters
  deriving Repr, DecidableEq

namespace ChargingLocationFix

def isFresh (fix : ChargingLocationFix) : Value → Bool
  | .finite now =>
    let age := binary64.subFinite now fix.sourceTimestampUnixSeconds
    (Value.finite 0).le age && age.le chargingLocationFixMaximumAgeSeconds
  | .infinite _ | .nan => false

end ChargingLocationFix

/-- Chooses a fresh map fix using the caller's wall-clock time. -/
def selectChargingLocationFix (distance : Distance) (current : Option ChargingLocationFix)
    (candidate : ChargingLocationFix) (now : Value) : Option ChargingLocationFix :=
  if !now.isFinite || !candidate.isFresh now then none
  else match current.filter (·.isFresh now) with
    | none => some candidate
    | some current =>
      let newer := decide (current.sourceTimestampUnixSeconds < candidate.sourceTimestampUnixSeconds)
      let distanceMillimetres := binary64.round (distance current.coordinate candidate.coordinate)
      let uncertainty := binary64.mul
        (binary64.addFinite current.horizontalAccuracyMeters candidate.horizontalAccuracyMeters) (.finite 1000)
      let movedBeyondAccuracy := newer && uncertainty.lt distanceMillimetres
      let morePrecise := decide (candidate.horizontalAccuracyMeters < current.horizontalAccuracyMeters)
      let newerAndAtLeastAsPrecise :=
        decide (candidate.horizontalAccuracyMeters ≤ current.horizontalAccuracyMeters) && newer
      if movedBeyondAccuracy || morePrecise || newerAndAtLeastAsPrecise then some candidate else none

inductive ChargingStopSuppression where
  | noAssociatedRide | rideEnded | notCharging | staleTelemetry | locationUnavailable | nearbyPrompt
  | presentationUnavailable
  deriving Repr, DecidableEq

inductive ChargingStopEvidence where
  | wheel (operatingState : RideOperatingState) (telemetryAt : Option MonotonicMilliseconds)
  | phoneExternalPower
  deriving Repr, DecidableEq

def ChargingStopEvidence.suppression (now : MonotonicMilliseconds) :
    ChargingStopEvidence → Option ChargingStopSuppression
  | .phoneExternalPower => none
  | .wheel operatingState telemetryAt =>
    if operatingState ≠ .charging then some .notCharging
    else if !telemetryAt.any fun time =>
        decide (time.asU64 ≤ now.asU64 ∧ now.asU64 - time.asU64 ≤ connectedWheelMotionFreshnessMs) then
      some .staleTelemetry
    else none

structure ChargingStopObservation where
  rideId : RideUuid
  lifecycle : RideLifecycleState
  evidence : ChargingStopEvidence
  now : MonotonicMilliseconds
  location : Option ChargingLocationFix
  nowUnixSeconds : Value
  deriving Repr, DecidableEq

/-- The fix an observation may prompt at: fresh, and accurate to 100 metres. -/
def ChargingStopObservation.selectedFix (distance : Distance) (observation : ChargingStopObservation) :
    Option ChargingLocationFix :=
  (observation.location.bind fun fix => selectChargingLocationFix distance none fix observation.nowUnixSeconds).filter
    fun fix => decide (fix.horizontalAccuracyMeters ≤ 100)

structure ChargingStopPrompt where
  rideId : RideUuid
  coordinate : Coordinate
  deriving Repr, DecidableEq

inductive ChargingStopDecision where
  | offer (prompt : ChargingStopPrompt)
  | suppressed (reason : ChargingStopSuppression)
  deriving Repr, DecidableEq

structure ChargingStopPrompts where
  rideId : Option RideUuid := none
  locations : List Coordinate := []
  pending : Option ChargingStopPrompt := none
  deriving Repr, DecidableEq

namespace ChargingStopPrompts

def restored (rideId : RideUuid) (locations : List Coordinate) : ChargingStopPrompts :=
  { rideId := some rideId, locations, pending := none }

def suppress (prompts : ChargingStopPrompts) (reason : ChargingStopSuppression) :
    ChargingStopPrompts × ChargingStopDecision :=
  ({ prompts with pending := none }, .suppressed reason)

/-- The history an observation of a ride is judged against: another ride's is dropped. -/
def forRide (prompts : ChargingStopPrompts) (rideId : RideUuid) : ChargingStopPrompts :=
  if prompts.rideId ≠ some rideId then restored rideId [] else prompts

def nearby (distance : Distance) (prompts : ChargingStopPrompts) (coordinate : Coordinate) : Bool :=
  prompts.locations.any fun previous => decide (distance previous coordinate ≤ chargingStopPromptRadiusMillimetres)

def observe (distance : Distance) (prompts : ChargingStopPrompts) (observation : Option ChargingStopObservation)
    (canPresent : Bool) : ChargingStopPrompts × ChargingStopDecision :=
  match observation with
  | none => prompts.suppress .noAssociatedRide
  | some observation =>
    let prompts := prompts.forRide observation.rideId
    if !observation.lifecycle.isRecording then prompts.suppress .rideEnded
    else match observation.evidence.suppression observation.now with
      | some reason => prompts.suppress reason
      | none =>
        match observation.selectedFix distance with
        | none => prompts.suppress .locationUnavailable
        | some location =>
          if !canPresent then prompts.suppress .presentationUnavailable
          else match prompts.pending with
            | some pending => (prompts, .offer pending)
            | none =>
              if prompts.nearby distance location.coordinate then (prompts, .suppressed .nearbyPrompt)
              else
                let prompt := { rideId := observation.rideId, coordinate := location.coordinate }
                ({ prompts with pending := some prompt }, .offer prompt)

/-- Records a suggestion only after the user interface has shown it. -/
def presented (prompts : ChargingStopPrompts) (prompt : ChargingStopPrompt) : ChargingStopPrompts × Bool :=
  if prompts.pending ≠ some prompt then (prompts, false)
  else if prompt.coordinate ∈ prompts.locations then (prompts, true)
  else ({ prompts with locations := prompts.locations ++ [prompt.coordinate] }, true)

def dismiss (prompts : ChargingStopPrompts) : ChargingStopPrompts := { prompts with pending := none }

end ChargingStopPrompts

inductive ChargingStopCall where
  | observe (observation : Option ChargingStopObservation) (canPresent : Bool)
  | presented (prompt : ChargingStopPrompt)
  | dismiss
  deriving Repr, DecidableEq

inductive ChargingStopReply where
  | decision (decision : ChargingStopDecision)
  | presented (recorded : Bool)
  | dismissed
  deriving Repr, DecidableEq

def ChargingStopPrompts.step (distance : Distance) (prompts : ChargingStopPrompts) :
    ChargingStopCall → ChargingStopPrompts × ChargingStopReply
  | .observe observation canPresent =>
    ((prompts.observe distance observation canPresent).1, .decision (prompts.observe distance observation canPresent).2)
  | .presented prompt => ((prompts.presented prompt).1, .presented (prompts.presented prompt).2)
  | .dismiss => (prompts.dismiss, .dismissed)

end Cutout.Rides

import Cutout.WheelFrames
import Cutout.ChargeEstimate

/-! Charging inferred from a sustained voltage rise of a standing wheel. The voltage comes
from the first battery pack, or from the live frames while that pack only sends
placeholders; whatever casts doubt on the evidence drops the trend or everything. Times
are milliseconds, voltages millivolts. -/

namespace Cutout.Protocols

def BegodeFrame.tag (frame : BegodeFrame) : Nat := (frame.bytes.getD 18 0).toNat

def BegodeFrame.subIndex (frame : BegodeFrame) : Nat := (frame.bytes.getD 19 0).toNat

end Cutout.Protocols

namespace Cutout.Begode
open Cutout.Core (ChargeMode Measured)
open Cutout.Protocols (Byte BegodeFrame unsignedFromBe signedFromBe saturatingAdd isMoving i32Min i32Max)

def beU16 (frame : BegodeFrame) (offset : Nat) : Nat := unsignedFromBe ((frame.bytes.drop offset).take 2)

def beI16 (frame : BegodeFrame) (offset : Nat) : Int := signedFromBe ((frame.bytes.drop offset).take 2)

inductive BegodeBmsPageError where
  | unexpectedFrameTag (expected actual : Nat)
  deriving Repr, DecidableEq

/-- The summary of a battery pack: millivolts, milliamps and millicelsius. -/
structure BegodeBmsSummary where
  subIndex : Nat
  bmsIndex : Nat
  halfIndex : Nat
  pwmLimit : Nat
  packVoltage : Int
  current : Int
  temperature0 : Int
  temperature1 : Int
  halfPackVoltage : Int
  deriving Repr, DecidableEq

def BegodeBmsSummary.decode (frame : BegodeFrame) : Except BegodeBmsPageError BegodeBmsSummary :=
  if frame.tag = 0x01 then
    .ok { subIndex := frame.subIndex
          bmsIndex := if 2 ≤ frame.subIndex then 1 else 0
          halfIndex := frame.subIndex % 2
          pwmLimit := beU16 frame 2
          packVoltage := beU16 frame 6 * 100
          current := beI16 frame 8 * 100
          temperature0 := beI16 frame 10 * 1000
          temperature1 := beI16 frame 12 * 1000
          halfPackVoltage := beI16 frame 14 * 100 }
  else .error (.unexpectedFrameTag 0x01 (frame.tag))

/-- Eight cell voltages of a battery pack. -/
structure BegodeBmsCellPage where
  tag : Nat
  bmsIndex : Nat
  pageIndex : Nat
  firstCellIndex : Nat
  cellVoltage : List Int
  deriving Repr, DecidableEq

def BegodeBmsCellPage.decode (frame : BegodeFrame) : Except BegodeBmsPageError BegodeBmsCellPage :=
  if frame.tag = 0x02 ∨ frame.tag = 0x03 then
    .ok { tag := frame.tag
          bmsIndex := frame.tag - 0x02
          pageIndex := frame.subIndex
          firstCellIndex := frame.subIndex * 8
          cellVoltage := [2, 4, 6, 8, 10, 12, 14, 16].map fun offset => (beU16 frame offset : Int) }
  else .error (.unexpectedFrameTag 0x02 (frame.tag))

def estimated {α : Type} (value : α) : Measured α := ⟨value, .estimated, .inferred, .inferred⟩

/-- The telemetry that the inference reads: speed in millimetres per second, live voltage. -/
structure TelemetryDelta where
  speed : Option (Measured Int) := none
  voltage : Option (Measured Int) := none
  deriving Repr, DecidableEq

/-- `FRESH`: how long speed, voltage and battery pages count. -/
def freshFor : Nat := 5000

/-- `SETTLE`: how long the wheel must stand before voltages count. -/
def settle : Nat := 60000

/-- `TREND`: the least span of the net rise, and the longest time behind the last rise. -/
def trend : Nat := 120000

def increaseSpacing : Nat := 20000
def requiredRiseMv : Int := 200
def materialRiseMv : Int := 50
def stopDropMv : Int := 100

def saturatingSub (a b : Int) : Int := max i32Min (min (a - b) i32Max)

def elapsed (earlier later : Nat) : Nat := later - earlier

def fresh (seen now : Nat) : Bool := decide (seen ≤ now) && decide (elapsed seen now ≤ freshFor)

def stale (seen : Option Nat) (now : Nat) : Bool := seen.any fun seen => !fresh seen now

def validSummary (summary : BegodeBmsSummary) : Bool :=
  decide (-20000 ≤ summary.temperature0 ∧ summary.temperature0 ≤ 100000) &&
    decide (-20000 ≤ summary.temperature1 ∧ summary.temperature1 ≤ 100000) &&
    decide (40000 ≤ summary.packVoltage ∧ summary.packVoltage ≤ 250000) &&
    decide (0 < summary.halfPackVoltage) && decide (summary.halfPackVoltage ≤ summary.packVoltage)

def isPlaceholder (summary : BegodeBmsSummary) : Bool :=
  summary.current = 0 && summary.temperature0 = 0 && summary.temperature1 = 5000000 && summary.halfPackVoltage = 0

def workingCell (voltage : Int) : Bool := decide (2500 ≤ voltage ∧ voltage ≤ 4500)

def BegodeBmsCellPage.real (page : BegodeBmsCellPage) : Bool :=
  (page.cellVoltage.all fun voltage => voltage = 0 || workingCell voltage) && page.cellVoltage.any workingCell

def BegodeBmsCellPage.zero (page : BegodeBmsCellPage) : Bool := page.cellVoltage.all fun voltage => voltage = 0

inductive Source where
  | unknown | placeholders | usable
  deriving Repr, DecidableEq

structure BegodeCharging where
  source : Source := .unknown
  placeholderSummaryAt : Option Nat := none
  placeholderCellsAt : Option Nat := none
  validSummaryAt : Option Nat := none
  realCellsAt : Option Nat := none
  lastInputAt : Option Nat := none
  lastSpeedAt : Option Nat := none
  stationarySince : Option Nat := none
  lastVoltageAt : Option Nat := none
  trendStartedAt : Option Nat := none
  baselineMv : Option Int := none
  peakMv : Option Int := none
  lastRiseAt : Option Nat := none
  rises : Nat := 0
  charging : Bool := false
  deriving Repr, DecidableEq

namespace BegodeCharging
variable (state : BegodeCharging)

def resetTrend : BegodeCharging :=
  { state with baselineMv := none, peakMv := none, trendStartedAt := none, lastRiseAt := none, rises := 0, charging := false }

/-- `reset` and `reset_evidence`. -/
def reset (_ : BegodeCharging) : BegodeCharging := {}

def clearBmsEvidence : BegodeCharging :=
  { state with source := .unknown, placeholderSummaryAt := none, placeholderCellsAt := none, validSummaryAt := none,
               realCellsAt := none }.resetTrend

def evidenceStale (at_ : Nat) : Bool :=
  stale state.lastSpeedAt at_ || stale state.lastVoltageAt at_ ||
    match state.source with
    | .unknown => false
    | .placeholders => stale state.placeholderSummaryAt at_ || stale state.placeholderCellsAt at_
    | .usable => stale state.validSummaryAt at_ || stale state.realCellsAt at_

def ready (at_ : Nat) : Bool :=
  state.lastSpeedAt.any (fresh · at_) && state.lastVoltageAt.any (fresh · at_) &&
    match state.source with
    | .unknown => false
    | .placeholders => state.placeholderSummaryAt.any (fresh · at_) && state.placeholderCellsAt.any (fresh · at_)
    | .usable => state.validSummaryAt.any (fresh · at_) && state.realCellsAt.any (fresh · at_)

def expireTrend (at_ : Nat) : BegodeCharging :=
  if state.charging && state.lastRiseAt.any fun last => trend < elapsed last at_ then state.resetTrend else state

/-- A fall from the peak drops the trend. -/
def stopOnDrop (mv : Int) : BegodeCharging :=
  if state.peakMv.any fun peak => stopDropMv ≤ saturatingSub peak mv then state.resetTrend else state

/-- The first voltage becomes baseline and peak. -/
def startTrend (mv : Int) (at_ : Nat) : BegodeCharging :=
  let state := if state.baselineMv.isNone then { state with baselineMv := some mv, trendStartedAt := some at_ } else state
  { state with peakMv := some (state.peakMv.getD mv) }

/-- A material rise becomes the peak, and counts unless it follows the last one too soon. -/
def countRise (mv : Int) (at_ : Nat) : BegodeCharging :=
  if state.peakMv.any fun peak => materialRiseMv ≤ saturatingSub mv peak then
    if state.lastRiseAt.all fun last => increaseSpacing ≤ elapsed last at_ then
      { state with rises := min (state.rises + 1) 255, lastRiseAt := some at_, peakMv := some mv }
    else { state with peakMv := some mv }
  else state

def conclude (mv : Int) (at_ : Nat) : BegodeCharging :=
  if 3 ≤ state.rises && (state.baselineMv.any fun base => requiredRiseMv ≤ saturatingSub mv base) &&
      state.trendStartedAt.any fun start => trend ≤ elapsed start at_ then
    { state with charging := true }
  else state

/-- What a settled voltage does to the trend. -/
def followVoltage (mv : Int) (at_ : Nat) : BegodeCharging :=
  { ((state.stopOnDrop mv).startTrend mv at_).countRise mv at_ with lastVoltageAt := some at_ }.conclude mv at_

def observeVoltage (mv : Int) (at_ : Nat) : BegodeCharging :=
  if state.lastVoltageAt = some at_ then state
  else if mv ≤ 0 then { state.resetTrend with lastVoltageAt := some at_ }
  else if state.lastVoltageAt.any fun last => at_ < last then state.resetTrend
  else if state.stationarySince.all fun start => elapsed start at_ < settle then { state with lastVoltageAt := some at_ }
  else state.followVoltage mv at_

/-- The trend dropped for a source of its own, unless that source is in use. -/
def useUsable : BegodeCharging :=
  if state.source ≠ .usable then { state.resetTrend with lastVoltageAt := none } else state

def observeSummary (summary : BegodeBmsSummary) (at_ : Nat) : BegodeCharging :=
  if summary.bmsIndex ≠ 0 then state
  else if validSummary summary then
    let state := { state.useUsable with validSummaryAt := some at_, placeholderSummaryAt := none, source := .usable }
    if state.realCellsAt.any (fresh · at_) then state.observeVoltage summary.packVoltage at_ else state
  else if isPlaceholder summary then
    let state :=
      if state.source = .usable then
        { state.resetTrend with lastVoltageAt := none, realCellsAt := none, source := .unknown }
      else state
    { state with placeholderSummaryAt := some at_, validSummaryAt := none }
  else state.clearBmsEvidence

def observeCells (page : BegodeBmsCellPage) (at_ : Nat) : BegodeCharging :=
  if page.bmsIndex ≠ 0 then state
  else if page.real then
    let state := { state with realCellsAt := some at_ }
    { state.useUsable with source := .usable }
  else if page.zero then { state with placeholderCellsAt := some at_ }
  else state.clearBmsEvidence

def refreshSource (at_ : Nat) : BegodeCharging :=
  if state.source = .usable then state
  else if state.placeholderSummaryAt.any (fresh · at_) && state.placeholderCellsAt.any (fresh · at_) then
    { state with source := .placeholders }
  else if state.source = .placeholders then { state with source := .unknown, lastVoltageAt := none }.resetTrend
  else state

def observeFrame (frame : BegodeFrame) (delta : TelemetryDelta) (at_ : Nat) : BegodeCharging :=
  match frame.tag with
  | 0x00 =>
    match state.source, delta.voltage with
    | .placeholders, some voltage => state.observeVoltage voltage.value at_
    | _, _ => state
  | 0x01 =>
    match BegodeBmsSummary.decode frame with
    | .ok summary => state.observeSummary summary at_
    | .error _ => state
  | 0x02 | 0x03 =>
    match BegodeBmsCellPage.decode frame with
    | .ok page => state.observeCells page at_
    | .error _ => state
  | _ => state

def result (at_ : Nat) : BegodeCharging × Measured ChargeMode :=
  if state.stationarySince.any fun start => settle ≤ elapsed start at_ then
    (state, estimated (if state.charging then .charging else .unknown))
  else ({ state with charging := false }.resetTrend, estimated .unknown)

/-- The answer of a call: the estimate, where all of its evidence is fresh. -/
def answer (at_ : Nat) : BegodeCharging × Measured ChargeMode :=
  if state.ready at_ then state.result at_ else (state, estimated .unknown)

/-- The part of `observe` behind the speed. -/
def observeBattery (frame : BegodeFrame) (delta : TelemetryDelta) (at_ : Nat) : BegodeCharging × Measured ChargeMode :=
  ((state.observeFrame frame delta at_).refreshSource at_).answer at_

def observe (frame : BegodeFrame) (delta : TelemetryDelta) (at_ : Nat) : BegodeCharging × Measured ChargeMode :=
  if state.lastInputAt.any fun last => at_ < last then (state.reset, estimated .unknown)
  else
    let state := if state.evidenceStale at_ then state.reset else state
    let state := { state.expireTrend at_ with lastInputAt := some at_ }
    match delta.speed with
    | some speed =>
      let state := { state with lastSpeedAt := some at_ }
      if isMoving speed.value then
        ({ state.reset with lastInputAt := some at_, lastSpeedAt := some at_ }, estimated .notCharging)
      else
        let state := if state.stationarySince.isNone then { state with stationarySince := some at_ } else state
        state.observeBattery frame delta at_
    | none => state.observeBattery frame delta at_

def tick (at_ : Nat) : BegodeCharging × Measured ChargeMode :=
  if state.lastInputAt.any fun last => at_ < last then (state.reset, estimated .unknown)
  else if state.evidenceStale at_ then ({ state.reset with lastInputAt := some at_ }, estimated .unknown)
  else ({ state with lastInputAt := some at_ }.expireTrend at_).answer at_

def nextTickAt : Option Nat :=
  if !state.charging then none
  else do
    let oldest ← state.lastSpeedAt
    let voltage ← state.lastVoltageAt
    let oldest := min oldest voltage
    let oldest ← match state.source with
      | .unknown => none
      | .placeholders => do
        let summary ← state.placeholderSummaryAt
        let cells ← state.placeholderCellsAt
        pure (min (min oldest summary) cells)
      | .usable => do
        let summary ← state.validSummaryAt
        let cells ← state.realCellsAt
        pure (min (min oldest summary) cells)
    let rise ← state.lastRiseAt
    pure (min (saturatingAdd oldest (freshFor + 1)) (saturatingAdd rise (trend + 1)))

/-- The calls that the inference takes. -/
inductive Call where
  | observe (frame : BegodeFrame) (delta : TelemetryDelta) (at_ : Nat)
  | tick (at_ : Nat)
  | reset
  deriving DecidableEq

/-- One call, and the estimate that it returns. -/
def step (state : BegodeCharging) : Call → BegodeCharging × Option (Measured ChargeMode)
  | .observe frame delta at_ => ((state.observe frame delta at_).1, some (state.observe frame delta at_).2)
  | .tick at_ => ((state.tick at_).1, some (state.tick at_).2)
  | .reset => (state.reset, none)

end BegodeCharging

end Cutout.Begode

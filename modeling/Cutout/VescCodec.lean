import Cutout.Wire

/-! The read-only VESC codec: UART framing, the typed replies this crate decodes
itself, and the mapping of what the `vesc` dependency decodes. Quantities keep
the integer unit of their constructor; every failure is a `VescCodecError`. -/

namespace Cutout.Protocols
open Library.BinaryFloat

def vescMaxFrameLen : Nat := 1024
def vescMaxHashLen : Nat := 47
def vescMaxStreamReplies : Nat := 4
def vescFrameStartShort : Byte := 2
def vescFrameStartLong : Byte := 3
def vescFrameEnd : Byte := 3
def vescMcconfSignature : Nat := 1470992211
def vescMcconfSetupOffset : Nat := 452
def vescMcconfTempSetupOffset : Nat := 40

inductive VescCodecError where
  | encodedFrameTooLong | encodeFailed | decodeFailed | unsupportedReply
  deriving Repr, DecidableEq

inductive VescFaultCode where
  | none | absOverCurrent | other (value : Byte)
  deriving Repr, DecidableEq

def VescFaultCode.fromRaw (value : Byte) : VescFaultCode :=
  if value = 0 then .none else if value = 4 then .absOverCurrent else .other value

/-- Bits of `VescValuesMask`, in wire order. -/
inductive VescValuesField where
  | tempMosfet | tempMotor | avgCurrentMotor | avgCurrentInput | avgCurrentD | avgCurrentQ | dutyCycle | rpm
  | voltageIn | ampHours | ampHoursCharged | wattHours | wattHoursCharged | tachometer | tachometerAbs | faultCode
  | pidPos | controllerId | tempMosfetAll | avgVoltageD | avgVoltageQ | status
  deriving Repr, DecidableEq

def VescValuesField.bit : VescValuesField → Nat
  | .tempMosfet => 0 | .tempMotor => 1 | .avgCurrentMotor => 2 | .avgCurrentInput => 3
  | .avgCurrentD => 4 | .avgCurrentQ => 5 | .dutyCycle => 6 | .rpm => 7
  | .voltageIn => 8 | .ampHours => 9 | .ampHoursCharged => 10 | .wattHours => 11
  | .wattHoursCharged => 12 | .tachometer => 13 | .tachometerAbs => 14 | .faultCode => 15
  | .pidPos => 16 | .controllerId => 17 | .tempMosfetAll => 18 | .avgVoltageD => 19
  | .avgVoltageQ => 20 | .status => 21

/-- A `u32` whose low 22 bits are the fields above. -/
abbrev VescValuesMask := Nat

def VescValuesMask.all : VescValuesMask := 2 ^ 22 - 1

def VescValuesMask.contains (mask : VescValuesMask) (field : VescValuesField) : Bool := mask.testBit field.bit

/-- `from_bits` refuses unknown bits. -/
def VescValuesMask.fromBits (bits : Nat) : Option VescValuesMask :=
  if bits ≤ VescValuesMask.all then some bits else none

structure VescValuesTelemetry where
  consumedCharge : Int := 0
  regeneratedCharge : Int := 0
  consumedEnergy : Int := 0
  regeneratedEnergy : Int := 0
  controllerTemperature : Int := 0
  motorTemperature : Int := 0
  motorCurrent : Int := 0
  inputCurrent : Int := 0
  directAxisCurrent : Int := 0
  quadratureAxisCurrent : Int := 0
  rpm : Int := 0
  voltage : Int := 0
  tachometer : Int := 0
  tachometerAbsolute : Int := 0
  motorPosition : Int := 0
  mosfetTemperature1 : Int := 0
  mosfetTemperature2 : Int := 0
  mosfetTemperature3 : Int := 0
  directAxisVoltage : Int := 0
  quadratureAxisVoltage : Int := 0
  presentFields : VescValuesMask := 0
  dutyCycle : Int := 0
  faultCode : VescFaultCode := .none
  controllerId : Byte := 0
  status : Byte := 0
  deriving Repr, DecidableEq

/-- Bits of `VescStatsMask`, in wire order. -/
inductive VescStatsField where
  | speedAvg | speedMax | powerAvg | powerMax | currentAvg | currentMax
  | tempMosfetAvg | tempMosfetMax | tempMotorAvg | tempMotorMax | countTime
  deriving Repr, DecidableEq

def VescStatsField.bit : VescStatsField → Nat
  | .speedAvg => 0 | .speedMax => 1 | .powerAvg => 2 | .powerMax => 3 | .currentAvg => 4 | .currentMax => 5
  | .tempMosfetAvg => 6 | .tempMosfetMax => 7 | .tempMotorAvg => 8 | .tempMotorMax => 9 | .countTime => 10

abbrev VescStatsMask := Nat

def VescStatsMask.all : VescStatsMask := 2 ^ 11 - 1

def VescStatsMask.contains (mask : VescStatsMask) (field : VescStatsField) : Bool := mask.testBit field.bit

structure VescStatsTelemetry where
  presentFields : VescStatsMask := 0
  speedAvg : Int := 0
  speedMax : Int := 0
  powerAvg : Int := 0
  powerMax : Int := 0
  currentAvg : Int := 0
  peakCurrent : Int := 0
  mosfetTemperatureAvg : Int := 0
  mosfetTemperatureMax : Int := 0
  motorTemperatureAvg : Int := 0
  motorTemperatureMax : Int := 0
  countTime : Nat := 0
  deriving Repr, DecidableEq

/-- Geometry whose three factors are all usable; `new` is the only way to build one. -/
structure VescSpeedGeometry where
  motorPolePairs : Nat
  gearRatioDenominator : Nat
  wheelCircumference : Nat
  usable : 0 < motorPolePairs ∧ 0 < gearRatioDenominator ∧ 0 < wheelCircumference ∧
    wheelCircumference ≤ u64Max / 2
  deriving DecidableEq

instance : Repr VescSpeedGeometry where
  reprPrec geometry := reprPrec (geometry.motorPolePairs, geometry.gearRatioDenominator, geometry.wheelCircumference)

inductive VescBatteryType where
  | liIon | liIron | leadAcid | other (value : Byte)
  deriving Repr, DecidableEq

structure VescMotorConfig where
  speedGeometry : Option VescSpeedGeometry
  batteryType : VescBatteryType
  batteryCells : Byte
  serialized : List Byte
  deriving Repr, DecidableEq

inductive VescReadOnlyReply where
  | customConfig (index : Byte) (bytes : List Byte)
  | appConfig (bytes : List Byte)
  | configurationStored
  | customConfigDispatched
  | firmwareInfo (major minor testVersionNumber : Byte) (commitHash userCommitHash : String)
  | values (telemetry : VescValuesTelemetry)
  | stats (telemetry : VescStatsTelemetry)
  | motorConfig (config : VescMotorConfig)
  | motorSetupConfig (geometry : VescSpeedGeometry)
  deriving Repr, DecidableEq

/-- Requests of the `vesc` dependency that this adapter encodes. -/
inductive Command where
  | fwVersion | fwInfo | getValues
  | getValuesSelective (mask : Nat)
  | getStats (mask : Nat)
  | forwardCan (controllerId : Byte) (nested : Command)
  deriving Repr, DecidableEq

structure CrateStats where
  speedAvg : Value
  speedMax : Value
  powerAvg : Value
  powerMax : Value
  currentAvg : Value
  currentMax : Value
  tempMosfetAvg : Value
  tempMosfetMax : Value
  tempMotorAvg : Value
  tempMotorMax : Value
  countTime : Value
  deriving Repr, DecidableEq

/-- Replies of the `vesc` dependency. The payloads of the unsupported ones are never read. -/
inductive CommandReply where
  | fwVersion (major minor testVersionNumber : Byte)
  | fwInfo (major minor testVersionNumber : Byte) (commitHash userCommitHash : Option String)
  | getStats (stats : CrateStats)
  | getValues | getValuesSelective | getValuesSetupSelective | resetStats
  deriving Repr, DecidableEq

/-- The third-party `vesc` crate: its frame decoder and its request encoder. -/
structure VescCrate where
  decode : List Byte → Option (Nat × CommandReply)
  encode : Command → Option (List Byte)

/-- Header length and payload length announced at the front; `none` while the header is incomplete. -/
def frameHeader : List Byte → Except VescCodecError (Option (Nat × Nat))
  | [] => .ok none
  | start :: rest =>
    if start = vescFrameStartShort then
      match rest with
      | length :: _ => .ok (some (2, length.toNat))
      | [] => .ok none
    else if start = vescFrameStartLong then
      match rest with
      | high :: low :: _ => .ok (some (3, u16FromBe high low))
      | _ => .ok none
    else .error .decodeFailed

/-- Payload start, payload length and total length of the frame at the front,
`none` while it is incomplete. -/
def frameParts (bytes : List Byte) : Except VescCodecError (Option (Nat × Nat × Nat)) :=
  match frameHeader bytes with
  | .error error => .error error
  | .ok none => .ok none
  | .ok (some (payloadStart, payloadLen)) =>
    let checksumStart := payloadStart + payloadLen
    let totalLen := checksumStart + 3
    if totalLen > vescMaxFrameLen then .error .decodeFailed
    else if bytes.length < totalLen then .ok none
    else if bytes[totalLen - 1]? ≠ some vescFrameEnd then .error .decodeFailed
    else if unsignedFromBe ((bytes.drop checksumStart).take 2) ≠
        crc16Xmodem ((bytes.drop payloadStart).take payloadLen) then .error .decodeFailed
    else .ok (some (payloadStart, payloadLen, totalLen))

def frameLen (bytes : List Byte) : Except VescCodecError (Option Nat) :=
  (frameParts bytes).map fun parts => parts.map fun (_, _, length) => length

/-- The whole candidate when only its checksum can be wrong. -/
def recoverableFrameLen (bytes : List Byte) : Option Nat :=
  match frameHeader bytes with
  | .ok (some (headerLen, payloadLen)) =>
    let totalLen := headerLen + payloadLen + 3
    if totalLen ≤ vescMaxFrameLen ∧ totalLen ≤ bytes.length ∧ bytes[totalLen - 1]? = some vescFrameEnd then
      some totalLen
    else none
  | _ => none

/-- The unread bytes of a reply body. -/
abbrev VescValuesReader := StateT (List Byte) (Except VescCodecError)

namespace VescValuesReader

def read (count : Nat) : VescValuesReader (List Byte) := fun bytes =>
  if count ≤ bytes.length then .ok (bytes.take count, bytes.drop count) else .error .decodeFailed

def readU8 : VescValuesReader Byte := do return (← read 1).headD 0
def readI16 : VescValuesReader Int := do return signedFromBe (← read 2)
def readI32 : VescValuesReader Int := do return signedFromBe (← read 4)
def readU32 : VescValuesReader Nat := do return unsignedFromBe (← read 4)

/-- `read_f32` refuses infinities and undefined values. -/
def readF32 : VescValuesReader Value := do
  let value := Value.ofBits32 (UInt32.ofNat (← readU32))
  if value.isFinite then return value else throw .decodeFailed

end VescValuesReader

def temperatureFromDeciCelsius (value : Int) : Int := value * 100

def voltageFromDeciVolts (value : Int) : Int := value * 100

/-- `phase_current_from_centi_amps` and `battery_current_from_centi_amps`: a checked product. -/
def currentFromCentiAmps (value : Int) : Except VescCodecError Int :=
  if i32Min ≤ value * 10 ∧ value * 10 ≤ i32Max then .ok (value * 10) else .error .decodeFailed

def fullValuesMask (bodyLen : Nat) : Except VescCodecError VescValuesMask :=
  match bodyLen with
  | 53 => .ok (2 ^ 16 - 1)
  | 57 => .ok (2 ^ 17 - 1)
  | 58 => .ok (2 ^ 18 - 1)
  | 64 => .ok (2 ^ 19 - 1)
  | 72 => .ok (2 ^ 21 - 1)
  | 73 => .ok (2 ^ 22 - 1)
  | _ => .error .decodeFailed

open VescValuesReader in
/-- One step of `decode_values`: reads the field's wire form when the mask announces it. -/
def readValuesField (values : VescValuesTelemetry) (field : VescValuesField) :
    VescValuesReader VescValuesTelemetry := do
  if !VescValuesMask.contains values.presentFields field then return values
  match field with
  | .tempMosfet => return { values with controllerTemperature := temperatureFromDeciCelsius (← readI16) }
  | .tempMotor => return { values with motorTemperature := temperatureFromDeciCelsius (← readI16) }
  | .avgCurrentMotor => return { values with motorCurrent := ← currentFromCentiAmps (← readI32) }
  | .avgCurrentInput => return { values with inputCurrent := ← currentFromCentiAmps (← readI32) }
  | .avgCurrentD => return { values with directAxisCurrent := ← currentFromCentiAmps (← readI32) }
  | .avgCurrentQ => return { values with quadratureAxisCurrent := ← currentFromCentiAmps (← readI32) }
  | .dutyCycle => return { values with dutyCycle := ← readI16 }
  | .rpm => return { values with rpm := ← readI32 }
  | .voltageIn => return { values with voltage := voltageFromDeciVolts (← readI16) }
  | .ampHours => return { values with consumedCharge := ← readI32 }
  | .ampHoursCharged => return { values with regeneratedCharge := ← readI32 }
  | .wattHours => return { values with consumedEnergy := ← readI32 }
  | .wattHoursCharged => return { values with regeneratedEnergy := ← readI32 }
  | .tachometer => return { values with tachometer := ← readI32 }
  | .tachometerAbs => return { values with tachometerAbsolute := ← readI32 }
  | .faultCode => return { values with faultCode := VescFaultCode.fromRaw (← readU8) }
  | .pidPos => return { values with motorPosition := ← readI32 }
  | .controllerId => return { values with controllerId := ← readU8 }
  | .tempMosfetAll =>
    return { values with
      mosfetTemperature1 := temperatureFromDeciCelsius (← readI16)
      mosfetTemperature2 := temperatureFromDeciCelsius (← readI16)
      mosfetTemperature3 := temperatureFromDeciCelsius (← readI16) }
  | .avgVoltageD => return { values with directAxisVoltage := ← readI32 }
  | .avgVoltageQ => return { values with quadratureAxisVoltage := ← readI32 }
  | .status => return { values with status := ← readU8 }

def valuesWireOrder : List VescValuesField :=
  [.tempMosfet, .tempMotor, .avgCurrentMotor, .avgCurrentInput, .avgCurrentD, .avgCurrentQ, .dutyCycle, .rpm,
    .voltageIn, .ampHours, .ampHoursCharged, .wattHours, .wattHoursCharged, .tachometer, .tachometerAbs, .faultCode,
    .pidPos, .controllerId, .tempMosfetAll, .avgVoltageD, .avgVoltageQ, .status]

/-- Runs a reader over a whole body; unread bytes are an error. -/
def readExactly {α : Type} (reader : VescValuesReader α) (body : List Byte) : Except VescCodecError α :=
  match reader body with
  | .error error => .error error
  | .ok (value, []) => .ok value
  | .ok (_, _ :: _) => .error .decodeFailed

def decodeValues (body : List Byte) (presentFields : VescValuesMask) : Except VescCodecError VescValuesTelemetry :=
  readExactly (valuesWireOrder.foldlM readValuesField { presentFields }) body

def decodeSelectiveValues (body : List Byte) : Except VescCodecError VescValuesTelemetry := do
  let (bits, rest) ← VescValuesReader.readU32 body
  match VescValuesMask.fromBits bits with
  | some presentFields => decodeValues rest presentFields
  | none => throw .decodeFailed

/-- `(value * 1_000.0).round() as i32`, which saturates where `round_f32_to_i32` gives zero. -/
def temperatureFromCelsius (value : Value) : Int := (thousandfold value).round.toInt i32Min i32Max

open VescValuesReader in
def readStatsField (stats : VescStatsTelemetry) (field : VescStatsField) : VescValuesReader VescStatsTelemetry := do
  if !VescStatsMask.contains stats.presentFields field then return stats
  let value ← readF32
  match field with
  | .speedAvg => return { stats with speedAvg := roundF32ToI32 (thousandfold value) }
  | .speedMax => return { stats with speedMax := roundF32ToI32 (thousandfold value) }
  | .powerAvg => return { stats with powerAvg := roundF32ToI64 (thousandfold value) }
  | .powerMax => return { stats with powerMax := roundF32ToI64 (thousandfold value) }
  | .currentAvg => return { stats with currentAvg := roundF32ToI32 (thousandfold value) }
  | .currentMax => return { stats with peakCurrent := roundF32ToI32 (thousandfold value) }
  | .tempMosfetAvg => return { stats with mosfetTemperatureAvg := temperatureFromCelsius value }
  | .tempMosfetMax => return { stats with mosfetTemperatureMax := temperatureFromCelsius value }
  | .tempMotorAvg => return { stats with motorTemperatureAvg := temperatureFromCelsius value }
  | .tempMotorMax => return { stats with motorTemperatureMax := temperatureFromCelsius value }
  | .countTime => return { stats with countTime := roundF32ToU64 (thousandfold value) }

def statsWireOrder : List VescStatsField :=
  [.speedAvg, .speedMax, .powerAvg, .powerMax, .currentAvg, .currentMax,
    .tempMosfetAvg, .tempMosfetMax, .tempMotorAvg, .tempMotorMax, .countTime]

def readStats : VescValuesReader VescStatsTelemetry := do
  let rawMask ← VescValuesReader.readU32
  if rawMask ≤ VescStatsMask.all then statsWireOrder.foldlM readStatsField { presentFields := rawMask }
  else throw .decodeFailed

def decodeStats (body : List Byte) : Except VescCodecError VescStatsTelemetry := readExactly readStats body

/-- `From<vesc::Stats>`: the dependency's statistics carry every field. -/
def CrateStats.toTelemetry (stats : CrateStats) : VescStatsTelemetry where
  presentFields := VescStatsMask.all
  speedAvg := roundF32ToI32 (thousandfold stats.speedAvg)
  speedMax := roundF32ToI32 (thousandfold stats.speedMax)
  powerAvg := roundF32ToI64 (thousandfold stats.powerAvg)
  powerMax := roundF32ToI64 (thousandfold stats.powerMax)
  currentAvg := roundF32ToI32 (thousandfold stats.currentAvg)
  peakCurrent := roundF32ToI32 (thousandfold stats.currentMax)
  mosfetTemperatureAvg := temperatureFromCelsius stats.tempMosfetAvg
  mosfetTemperatureMax := temperatureFromCelsius stats.tempMosfetMax
  motorTemperatureAvg := temperatureFromCelsius stats.tempMotorAvg
  motorTemperatureMax := temperatureFromCelsius stats.tempMotorMax
  countTime := roundF32ToU64 (thousandfold stats.countTime)

/-- `MotorPolePairs::from_motor_poles`: even and nonzero counts only. -/
def motorPolePairsFromMotorPoles (poles : Byte) : Option Nat :=
  if poles = 0 ∨ poles.toNat % 2 ≠ 0 then none else some (poles.toNat / 2)

/-- `GearRatioDenominator::from_ratio`: the ratio in thousandths, when thousandths reproduce the float. -/
def gearRatioDenominatorFromRatio (value : Value) : Option Nat :=
  match value with
  | .finite ratio =>
    if ratio ≤ 0 then none
    else match (binary64.mul value (.finite 1000)).round with
      | .finite scaled =>
        if 1 ≤ scaled ∧ scaled ≤ u32Max then
          let milli := (truncate scaled).toNat
          if binary32.convert (binary64.divBy (.finite milli) 1000) = value then some milli else none
        else none
      | _ => none
  | _ => none

/-- `core::f32::consts::PI`. -/
def f32Pi : ℚ := 13176795 / 4194304

def VescSpeedGeometry.new (motorPolePairs gearRatioDenominator wheelCircumference : Nat) : Option VescSpeedGeometry :=
  if usable : 0 < motorPolePairs ∧ 0 < gearRatioDenominator ∧ 0 < wheelCircumference ∧
      wheelCircumference ≤ u64Max / 2 then
    some { motorPolePairs, gearRatioDenominator, wheelCircumference, usable }
  else none

def checkedSetupGeometry (motorPoles : Byte) (gearRatio wheelDiameterMetres : Value) : Option VescSpeedGeometry := do
  let motorPolePairs ← motorPolePairsFromMotorPoles motorPoles
  match wheelDiameterMetres with
  | .finite diameter =>
    if diameter ≤ 0 then none
    else
      let gearRatioDenominator ← gearRatioDenominatorFromRatio gearRatio
      VescSpeedGeometry.new motorPolePairs gearRatioDenominator
        (roundF32ToU64 (thousandfold (binary32.mul wheelDiameterMetres (.finite f32Pi))))
  | _ => none

def readVescF32Auto (bytes : List Byte) (offset : Nat) : Except VescCodecError Value :=
  if offset + 4 ≤ bytes.length then
    .ok (Value.ofBits32 (UInt32.ofNat (unsignedFromBe ((bytes.drop offset).take 4))))
  else .error .decodeFailed

def decodeSetupFields (body : List Byte) : Except VescCodecError (Option VescSpeedGeometry × Nat) :=
  match body with
  | [] => .error .decodeFailed
  | motorPoles :: _ => do
    let gearRatio ← readVescF32Auto body 1
    let wheelDiameterMetres ← readVescF32Auto body 5
    return (checkedSetupGeometry motorPoles gearRatio wheelDiameterMetres, 9)

def VescBatteryType.fromRaw (value : Byte) : VescBatteryType :=
  if value = 0 then .liIon else if value = 1 then .liIron else if value = 2 then .leadAcid else .other value

def decodeMotorConfig (body : List Byte) : Except VescCodecError VescMotorConfig :=
  if body.length < 4 ∨ unsignedFromBe (body.take 4) ≠ vescMcconfSignature then .error .decodeFailed
  else if body.length < vescMcconfSetupOffset then .error .decodeFailed
  else do
    let setup := body.drop vescMcconfSetupOffset
    let (speedGeometry, next) ← decodeSetupFields setup
    match setup[next]?, setup[next + 1]? with
    | some batteryType, some batteryCells =>
      return { speedGeometry, batteryType := .fromRaw batteryType, batteryCells, serialized := body }
    | _, _ => throw .decodeFailed

def decodeSpeedGeometry (body : List Byte) : Except VescCodecError VescSpeedGeometry :=
  if body.length < vescMcconfTempSetupOffset then .error .decodeFailed
  else do
    match (← decodeSetupFields (body.drop vescMcconfTempSetupOffset)).1 with
    | some geometry => return geometry
    | none => throw .decodeFailed

/-- An oversized text is dropped whole. -/
def boundedString (value : String) : String := if value.utf8ByteSize ≤ vescMaxHashLen then value else ""

def mapCommandReply : CommandReply → Except VescCodecError VescReadOnlyReply
  | .fwInfo major minor test commitHash userCommitHash =>
    .ok (.firmwareInfo major minor test (boundedString (commitHash.getD "")) (boundedString (userCommitHash.getD "")))
  | .getStats stats => .ok (.stats stats.toTelemetry)
  | .fwVersion major minor test => .ok (.firmwareInfo major minor test "" "")
  | .getValues | .getValuesSelective | .getValuesSetupSelective | .resetStats => .error .unsupportedReply

/-- The typed part of a reply payload; `none` leaves the payload to the dependency. -/
def decodeTypedPayload : List Byte → Except VescCodecError (Option VescReadOnlyReply)
  | [] => .error .decodeFailed
  | commandId :: body =>
    if commandId = 93 then
      match body with
      | [] => .error .decodeFailed
      | index :: bytes =>
        if bytes.length > vescMaxFrameLen - 4 then .error .decodeFailed else .ok (some (.customConfig index bytes))
    else if commandId = 17 then .ok (some (.appConfig body))
    else if (commandId = 13 ∨ commandId = 16) ∧ body = [] then .ok (some .configurationStored)
    else if commandId = 95 ∧ body = [] then .ok (some .customConfigDispatched)
    else if commandId = 4 then do return some (.values (← decodeValues body (← fullValuesMask body.length)))
    else if commandId = 128 then do return some (.stats (← decodeStats body))
    else if commandId = 14 then do return some (.motorConfig (← decodeMotorConfig body))
    else if commandId = 50 then do return some (.values (← decodeSelectiveValues body))
    else if commandId = 91 then do return some (.motorSetupConfig (← decodeSpeedGeometry body))
    else .ok none

def decodeTypedReply (frame : List Byte) : Except VescCodecError (Option VescReadOnlyReply) := do
  match ← frameParts frame with
  | none => return none
  | some (payloadStart, payloadLen, _) => decodeTypedPayload ((frame.drop payloadStart).take payloadLen)

namespace VescCrate
variable (vesc : VescCrate)

/-- `decode_frame` and `VescReadOnlyCodec::decode_reply`, which have the same body. -/
def decodeFrame (frame : List Byte) : Except VescCodecError VescReadOnlyReply := do
  match ← decodeTypedReply frame with
  | some reply => return reply
  | none =>
    match vesc.decode frame with
    | some (_, reply) => mapCommandReply reply
    | none => throw .decodeFailed

end VescCrate

end Cutout.Protocols

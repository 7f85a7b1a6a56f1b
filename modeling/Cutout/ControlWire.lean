import Cutout.VescSettingsSession

/-! Controls of the wheels and their wire form. A control is a literal, a byte in a
checksummed field, or a walk through a menu: a sequence of single bytes, each with a
delay behind the one before it. -/

namespace Cutout.Wheels
open Protocols (Byte SettingId DeviceSettingValue CommandKind crc32)

inductive SafetyClass where
  | readOnly | benignControl | stationaryOnly | actuation | firmware
  deriving Repr, DecidableEq

def safetyClass : CommandKind → SafetyClass
  | .requestIdentity | .requestTelemetry | .requestFirmwareInfo | .requestBatteryInfo | .requestDiagnostics
  | .requestFaultHistory | .requestSettings => .readOnly
  | .setLights | .setTaillight | .soundHorn | .resetTripMeter => .benignControl
  | .gyroCalibration | .setSetting => .stationaryOnly
  | .setRawMotorCurrent => .actuation

inductive LightState where
  | off | on | strobe
  deriving Repr, DecidableEq

inductive DeviceActionId where
  | horn | resetTripMeter | gyroCalibration
  deriving Repr, DecidableEq

inductive DeviceActionStep where
  | invoke | prepareGyroCalibration | startGyroCalibration
  deriving Repr, DecidableEq

inductive DeviceCommand where
  | requestIdentity | requestTelemetry | requestFirmwareInfo | requestBatteryInfo | requestDiagnostics
  | requestFaultHistory | requestSettings
  | setSetting (id : SettingId) (value : DeviceSettingValue)
  | invokeAction (id : DeviceActionId) (actionStep : DeviceActionStep)
  | setLights (state : LightState)
  | setTaillight (state : LightState)
  | soundHorn
  | setRawMotorCurrent (current : Int)
  deriving Repr, DecidableEq

namespace DeviceCommand

def kind : DeviceCommand → CommandKind
  | requestIdentity => .requestIdentity
  | requestTelemetry => .requestTelemetry
  | requestFirmwareInfo => .requestFirmwareInfo
  | requestBatteryInfo => .requestBatteryInfo
  | requestDiagnostics => .requestDiagnostics
  | requestFaultHistory => .requestFaultHistory
  | requestSettings => .requestSettings
  | setSetting _ _ => .setSetting
  | invokeAction .horn _ => .soundHorn
  | invokeAction .resetTripMeter _ => .resetTripMeter
  | invokeAction .gyroCalibration _ => .gyroCalibration
  | setLights _ => .setLights
  | setTaillight _ => .setTaillight
  | soundHorn => .soundHorn
  | setRawMotorCurrent _ => .setRawMotorCurrent

/-- A few settings are benign controls; the others ask for a standing wheel. -/
def safetyClass : DeviceCommand → SafetyClass
  | setSetting .headlight _ | setSetting .highBeam _ | setSetting .displayBrightness _ | setSetting .displayUnits _ =>
    .benignControl
  | command => Wheels.safetyClass command.kind

end DeviceCommand

inductive WriteMode where
  | withResponse | withoutResponse
  deriving Repr, DecidableEq

/-- Bytes to write, and the host operation they belong to. -/
structure WritePayload where
  bytes : List Byte
  operationId : Option Nat := none
  deriving Repr, DecidableEq

structure EncodedControl where
  payload : WritePayload
  mode : WriteMode
  deriving Repr, DecidableEq

/-- One delayed write of a sequence; the delay counts from the step before. -/
structure EncodedControlStep where
  delayMs : Nat
  payload : WritePayload
  mode : WriteMode
  deriving Repr, DecidableEq

inductive Layout where
  | field (magic : List Byte) (bank : List Byte) (offset : Nat)
  | literal (bytes : List Byte)
  | decimalMenu (selector : Byte) (digits : Nat)
  deriving Repr, DecidableEq

/-- A destination of a checked schema and the value for it. -/
structure Selection where
  layout : Layout
  value : Byte
  deriving Repr, DecidableEq

def fieldPayload (magic bank : List Byte) (offset : Nat) (value : Byte) : List Byte :=
  let front := magic ++ [UInt8.ofNat (offset + 5)] ++ bank
  let frame := front ++ List.replicate (offset - front.length) 0x80 ++ [value]
  let crc := crc32 frame
  frame ++ [UInt8.ofNat (crc / 2 ^ 24), UInt8.ofNat (crc / 2 ^ 16), UInt8.ofNat (crc / 2 ^ 8), UInt8.ofNat crc]

namespace Selection

def single (selection : Selection) : Option EncodedControl :=
  match selection.layout with
  | .literal bytes => some ⟨⟨bytes, none⟩, .withoutResponse⟩
  | .decimalMenu _ _ => none
  | .field magic bank offset => some ⟨⟨fieldPayload magic bank offset selection.value, none⟩, .withoutResponse⟩

/-- The menu is opened, the entry selected, its digits typed and the menu closed. -/
def sequence (selection : Selection) : Option (List EncodedControlStep) :=
  match selection.layout with
  | .decimalMenu selector digits =>
    let value := selection.value.toNat
    if (digits = 1 ∧ 9 < value) ∨ 99 < value then none
    else
      let push delayMs byte : EncodedControlStep := ⟨delayMs, ⟨[byte], none⟩, .withoutResponse⟩
      some ([push 0 0x57, push 100 selector] ++
        (if digits = 2 then [push 200 (UInt8.ofNat (0x30 + value / 10))] else []) ++
        [push 200 (UInt8.ofNat (0x30 + value % 10)), push 200 0x62])
  | _ => none

end Selection

def exactDeciKmh (value : Int) : Option Nat :=
  if 0 ≤ value ∧ value % 10 = 0 ∧ value / 10 ≤ 255 then some (value / 10).toNat else none

/-- The Falcon dialect of the Begode protocol. -/
def falconSelect : DeviceCommand → Option Selection
  | .setLights .on | .setSetting .headlight (.boolean true) => some ⟨.literal [0x51], 0⟩
  | .setLights .off | .setSetting .headlight (.boolean false) => some ⟨.literal [0x45], 0⟩
  | .setLights .strobe => some ⟨.literal [0x54], 0⟩
  | .setSetting .pedalMode (.choice 0) => some ⟨.literal [0x68], 0⟩
  | .setSetting .pedalMode (.choice 1) => some ⟨.literal [0x66], 0⟩
  | .setSetting .pedalMode (.choice 2) => some ⟨.literal [0x73], 0⟩
  | .setSetting .rollAngleMode (.choice 0) => some ⟨.literal [0x3e], 0⟩
  | .setSetting .rollAngleMode (.choice 1) => some ⟨.literal [0x3d], 0⟩
  | .setSetting .rollAngleMode (.choice 2) => some ⟨.literal [0x3c], 0⟩
  | .setSetting .speedAlarmMode (.choice 0) => some ⟨.literal [0x6f], 0⟩
  | .setSetting .speedAlarmMode (.choice 1) => some ⟨.literal [0x75], 0⟩
  | .setSetting .maximumSpeed (.number value) =>
    ((exactDeciKmh value).filter (· ≤ 99)).map fun speed => ⟨.decimalMenu 0x59 2, UInt8.ofNat speed⟩
  | .setSetting .beeperVolumeLevel (.number value) =>
    if 1 ≤ value ∧ value ≤ 9 then some ⟨.decimalMenu 0x42 1, UInt8.ofNat value.toNat⟩ else none
  | .setSetting .lightingPattern (.choice value) =>
    if value ≤ 9 then some ⟨.decimalMenu 0x4d 1, UInt8.ofNat value⟩ else none
  | _ => none

/-- A menu takes its four or five steps. -/
example : (falconSelect (.setSetting .maximumSpeed (.number 450))).bind Selection.sequence =
    some [⟨0, ⟨[0x57], none⟩, .withoutResponse⟩, ⟨100, ⟨[0x59], none⟩, .withoutResponse⟩,
      ⟨200, ⟨[0x34], none⟩, .withoutResponse⟩, ⟨200, ⟨[0x35], none⟩, .withoutResponse⟩,
      ⟨200, ⟨[0x62], none⟩, .withoutResponse⟩] := by decide

end Cutout.Wheels

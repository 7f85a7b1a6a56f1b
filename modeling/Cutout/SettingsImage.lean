import Cutout.VescNotifications

/-! Complete configuration objects of one write procedure, the frames that read
and set them, the evidence a session has of them, and the profile that says which
values a setting takes while that evidence stands. -/

namespace Cutout.Protocols

/-- Distinct reply domains: an answer for one object settles no read of another. -/
inductive ConfigurationKind where
  | refloat | motor | app
  deriving Repr, DecidableEq

def VescConfigurationKind.configurationKind : VescConfigurationKind → ConfigurationKind
  | .motor => .motor
  | .app => .app

namespace ConfigurationKind

def all : List ConfigurationKind := [.refloat, .motor, .app]

def forSetting (id : SettingId) : Option ConfigurationKind :=
  if (refloatSpec id).isSome then some .refloat
  else (vescSpec id).map fun field => field.kind.configurationKind

def readCommand : ConfigurationKind → List Byte
  | .refloat => [93, 0]
  | .motor => VescConfigurationKind.motor.readCommandPayload
  | .app => VescConfigurationKind.app.readCommandPayload

end ConfigurationKind

structure ConfigurationKindValues (α : Type) where
  refloat : α
  motor : α
  app : α
  deriving Repr, DecidableEq

namespace ConfigurationKindValues
variable {α : Type}

def get (values : ConfigurationKindValues α) : ConfigurationKind → α
  | .refloat => values.refloat
  | .motor => values.motor
  | .app => values.app

def set (values : ConfigurationKindValues α) (kind : ConfigurationKind) (value : α) : ConfigurationKindValues α :=
  match kind with
  | .refloat => { values with refloat := value }
  | .motor => { values with motor := value }
  | .app => { values with app := value }

@[simp]
theorem get_set (values : ConfigurationKindValues α) (kind other : ConfigurationKind) (value : α) :
    (values.set kind value).get other = if other = kind then value else values.get other := by
  cases kind <;> cases other <;> rfl

end ConfigurationKindValues

inductive SettingsImage where
  | refloat (image : RefloatSettings)
  | firmware (image : VescConfiguration)
  deriving DecidableEq

/-- The Refloat table's `field_id`: two fields keep their older numbers, the others count up with the table. -/
def refloatFieldId (id : SettingId) : Option Nat :=
  match id with
  | .tiltbackSpeed => some 0x9006
  | .pwmTiltback => some 0x9005
  | _ => if (refloatSpec id).isSome then some (0x9100 + refloatSupportedSettingIds.idxOf id) else none

/-- `field_id` of the motor and application tables. -/
def vescFieldId (id : SettingId) : Option Nat :=
  (vescSpec id).map fun field =>
    match bitProjection id, field.kind with
    | some bit, _ => 0xA800 + bit
    | none, .motor => 0xA000 + field.offset
    | none, .app => 0xB000 + field.offset

namespace SettingsImage

def kind : SettingsImage → ConfigurationKind
  | .refloat _ => .refloat
  | .firmware image => image.kind.configurationKind

def bytes : SettingsImage → List Byte
  | .refloat image => image.bytes
  | .firmware image => image.bytes

def ids : SettingsImage → List SettingId
  | .refloat _ => refloatSupportedSettingIds
  | .firmware image => supportedSettingIds image.kind

def fieldId (image : SettingsImage) (id : SettingId) : Option Nat :=
  match image with
  | .refloat _ => refloatFieldId id
  | .firmware _ => vescFieldId id

def value (image : SettingsImage) (id : SettingId) : Option DeviceSettingValue :=
  match image with
  | .refloat image => image.value id
  | .firmware image => image.value id

def changed (image : SettingsImage) (id : SettingId) (value : DeviceSettingValue) : Option SettingsImage :=
  match image with
  | .refloat image => (image.changed id value).toOption.map .refloat
  | .firmware image => (image.changed id value).toOption.map .firmware

/-- `matches`: the image a write expects against the one observed. -/
def matchesImage : SettingsImage → SettingsImage → Bool
  | .refloat expected, .refloat observed => expected.isSameExceptDefault observed
  | .firmware expected, .firmware observed => decide (expected.kind = observed.kind ∧ expected.bytes = observed.bytes)
  | _, _ => false

def readCommandPayload (image : SettingsImage) : List Byte := image.kind.readCommand

def writeCommandPayload : SettingsImage → List Byte
  | .refloat image => image.writeCommandPayload
  | .firmware image => image.writeCommandPayload

end SettingsImage

/-- One frame around a payload that fits a transport write. -/
def encodeSettingsPayload (payload : List Byte) : Option (List Byte) :=
  if payload = [] ∨ maxTransportWriteLen - 7 < payload.length then none
  else
    let header := if payload.length < 256 then [2, UInt8.ofNat payload.length] else 3 :: u16ToBe payload.length
    some (header ++ payload ++ u16ToBe (crc16Xmodem payload) ++ [3])

def commandByte (bytes : List Byte) : Option Byte :=
  match bytes.head? with
  | some 2 => bytes[2]?
  | some 3 => bytes[3]?
  | _ => none

def settingsReadbackCapacity : Nat := 18

/-- The raw number that `push_settings_readback` emits for a setting. -/
def SettingsImage.readbackRaw (image : SettingsImage) (id : SettingId) : Int :=
  match image.value id with
  | some (.number value) => value
  | some (.boolean value) => if value then 1 else 0
  | some (.choice value) => value
  | some .disabled => if id = .pwmTiltback then 100 else if id = .tiltbackSpeed then 0 else i64Min
  | none => i64Min

structure SettingsEntry where
  field : Nat
  value : Int
  deriving Repr, DecidableEq

/-- `push_settings_readback`: the settings of an image in batches of bounded size. -/
def SettingsImage.readback (image : SettingsImage) : List (List (Option SettingsEntry)) :=
  (image.ids.toChunks settingsReadbackCapacity).map fun batch =>
    batch.map fun id => (image.fieldId id).map fun field => ⟨field, image.readbackRaw id⟩

/-- What the decoder knows of the controller, its package and its configurations. -/
structure VescSettingsEvidence where
  package : Option RefloatInfo
  config : Option (RefloatSettings × Nat)
  configGeneration : Nat
  motorConfig : Option (VescConfiguration × Nat)
  appConfig : Option (VescConfiguration × Nat)
  motorGeneration : Nat
  appGeneration : Nat
  firmware : Option (Byte × Byte)
  controllerId : Option Byte

def VescNotificationDecoder.settingsEvidence (decoder : VescNotificationDecoder) : VescSettingsEvidence where
  package := decoder.refloatPackage
  config := decoder.refloatConfig
  configGeneration := decoder.refloatConfigGeneration
  motorConfig := decoder.motorSettings
  appConfig := decoder.appSettings
  motorGeneration := decoder.motorSettingsGeneration
  appGeneration := decoder.appSettingsGeneration
  firmware := decoder.firmwareVersion
  controllerId := decoder.controllerId

namespace VescSettingsEvidence

def image (evidence : VescSettingsEvidence) : ConfigurationKind → Option (SettingsImage × Nat)
  | .refloat => evidence.config.map fun (image, time) => (.refloat image, time)
  | .motor => evidence.motorConfig.map fun (image, time) => (.firmware image, time)
  | .app => evidence.appConfig.map fun (image, time) => (.firmware image, time)

def generation (evidence : VescSettingsEvidence) : ConfigurationKind → Nat
  | .refloat => evidence.configGeneration
  | .motor => evidence.motorGeneration
  | .app => evidence.appGeneration

/-- `supported_firmware_facts`. -/
def supportedFirmware (evidence : VescSettingsEvidence) : Bool :=
  evidence.firmware == some (7, 0) && evidence.controllerId.isSome

/-- `supported_package_facts`. -/
def supportedPackage (evidence : VescSettingsEvidence) : Bool :=
  (evidence.package.any fun package => package.packageName = "Refloat" ∧ package.packageMajor = 1 ∧
    package.packageMinor = 3 ∧ package.packagePatch = 0 ∧ package.packageVersionSuffix = "") &&
    evidence.supportedFirmware

/-- Something known before is no longer what it was. -/
def identityChanged (previous current : VescSettingsEvidence) : Bool :=
  previous.firmware.any (fun value => current.firmware ≠ some value) ||
    previous.controllerId.any (fun value => current.controllerId ≠ some value) ||
    previous.package.any (fun value => current.package ≠ some value)

end VescSettingsEvidence

inductive RefloatLightingMode where
  | off | internal | external | internalAndExternal | unknown
  deriving Repr, DecidableEq

/-- Where the observed package routes its lights. -/
def RefloatSettings.lightingMode (settings : RefloatSettings) : RefloatLightingMode :=
  match (refloatSpec .lightingHardwareMode).bind (readRaw settings.bytes) with
  | some 0 => .off
  | some 1 => .internal
  | some 2 => .external
  | some 3 => .internalAndExternal
  | _ => .unknown

/-- The rows of the lighting group. -/
def refloatLightingIds : List SettingId :=
  [.lightingOn, .lightingHeadlightsOn, .lightingHeadlightsTransition, .lightingDirectionTransition,
    .lightingLightsOffWhenLifted, .lightingStatusOnFrontWhenLifted, .lightingFrontMode, .lightingFrontBrightness,
    .lightingFrontColor1, .lightingFrontColor2, .lightingFrontSpeed, .lightingRearMode, .lightingRearBrightness,
    .lightingRearColor1, .lightingRearColor2, .lightingRearSpeed, .lightingHeadlightsMode,
    .lightingHeadlightsBrightness, .lightingHeadlightsColor1, .lightingHeadlightsColor2, .lightingHeadlightsSpeed,
    .lightingTaillightsMode, .lightingTaillightsBrightness, .lightingTaillightsColor1, .lightingTaillightsColor2,
    .lightingTaillightsSpeed, .lightingStatusBrightnessHeadlightsOff, .lightingStatusBrightnessHeadlightsOn,
    .lightingStatusShowSensorsWhileRunning, .lightingStatusMotorUtilizationThreshold,
    .lightingStatusRedBarPercentage, .lightingStatusIdleTimeout, .lightingStatusIdleMode,
    .lightingStatusIdleBrightness, .lightingStatusIdleColor1, .lightingStatusIdleColor2, .lightingStatusIdleSpeed]

inductive RefloatSettingApplicability where
  | applicable | configuredButInactive | externalControllerIgnoresSetting | unknownHardware | notLighting
  deriving Repr, DecidableEq

def refloatApplicability (id : SettingId) (mode : RefloatLightingMode) : RefloatSettingApplicability :=
  if (refloatSpec id).isNone then .unknownHardware
  else if id ∉ refloatLightingIds then .notLighting
  else match mode with
    | .off => .configuredButInactive
    | .internal | .internalAndExternal => .applicable
    | .external =>
      if id ∈ [.lightingOn, .lightingHeadlightsOn, .lightingFrontBrightness, .lightingHeadlightsBrightness,
          .lightingStatusBrightnessHeadlightsOff, .lightingStatusBrightnessHeadlightsOn] then .applicable
      else .externalControllerIgnoresSetting
    | .unknown => .unknownHardware

inductive SettingsRequestError where
  | unavailable | readOnly | unverified | invalidValue
  deriving Repr, DecidableEq

/-- `accepts` of the motor and application tables: a writable value that encodes into an empty image. -/
def FieldSpec.accepts (field : FieldSpec) (value : DeviceSettingValue) : Bool :=
  decide (field.readOnly = .writable) && (encodeValue (List.replicate field.kind.imageLen 0) field value).isOk

/-- `accepts` of the control a row is shown with. -/
def FieldSpec.controlAccepts (field : FieldSpec) (value : DeviceSettingValue) : Bool :=
  if field.boolean then match value with
    | .boolean _ => true
    | _ => false
  else if field.bitfield then false
  else if field.choices ≠ 0 then match value with
    | .choice choice => decide (1 ≤ choice ∧ choice ≤ field.choices ∧ field.readOnly = .writable)
    | _ => false
  else match value with
    | .number number => decide (field.minimum ≤ number ∧ number ≤ field.maximum ∧ 0 < field.wireStep ∧
        Int.tmod (number - field.minimum) field.wireStep = 0)
    | _ => false

/-- The part of `DeviceControlProfile` that a VESC session selects. -/
structure VescControlProfile where
  refloat : Bool
  motor : Bool
  app : Bool
  lightingMode : RefloatLightingMode
  firmwareWritesReady : Bool
  deriving Repr, DecidableEq

/-- Whether a value may be requested while the profile stands. -/
def VescControlProfile.command (profile : VescControlProfile) (id : SettingId) (value : DeviceSettingValue) :
    Except SettingsRequestError Unit :=
  match (if profile.refloat then refloatSpec id else none), vescSpec id with
  | some field, _ =>
    if !field.writable ∨ refloatApplicability id profile.lightingMode = .externalControllerIgnoresSetting ∨
        refloatApplicability id profile.lightingMode = .unknownHardware then .error .readOnly
    else if field.accepts value then .ok () else .error .invalidValue
  | none, some field =>
    if !(match field.kind with | .motor => profile.motor | .app => profile.app) then .error .unavailable
    else if field.readOnly ≠ .writable ∨ !profile.firmwareWritesReady then .error .readOnly
    else if field.controlAccepts value ∧ field.accepts value then .ok () else .error .invalidValue
  | none, none => .error .unavailable

end Cutout.Protocols

import Cutout.VescConfiguration

/-! The complete Refloat 1.3.0 custom configuration. All fields are scaled
integers; a write sends the whole 282-byte image with one field replaced. -/

namespace Cutout.Protocols

def refloatConfigLen : Nat := 282
def refloatConfigSignature : Nat := 421162011

inductive RefloatValueKind where
  | number | boolean | choice
  deriving Repr, DecidableEq

/-- One row of the package's field table. -/
structure RefloatFieldSpec where
  id : SettingId
  offset : Nat
  width : Nat
  signed : Bool
  semanticPerWire : Int
  minimum : Int
  maximum : Int
  wireStep : Int
  kind : RefloatValueKind
  choices : Nat
  writable : Bool
  deriving Repr, DecidableEq

def refloatFields : List RefloatFieldSpec :=
  [ ⟨.tiltbackSpeed, 83, 1, false, 10, 50, 1000, 10, .number, 0, true⟩,
    ⟨.pwmTiltback, 68, 2, true, 1, 0, 99, 1, .number, 0, true⟩,
    ⟨.pushbackDutyAngle, 64, 2, true, 1, 0, 3000, 1, .number, 0, true⟩,
    ⟨.pushbackDutySpeed, 66, 2, true, 1, 0, 3000, 1, .number, 0, true⟩,
    ⟨.pushbackReturnSpeed, 84, 2, true, 1, 0, 1000, 1, .number, 0, true⟩,
    ⟨.pushbackDutyBeepEnabled, 70, 1, false, 1, 0, 1, 1, .boolean, 0, true⟩,
    ⟨.pushbackPersistentFatalError, 86, 1, false, 1, 0, 1, 1, .boolean, 0, true⟩,
    ⟨.pushbackHighVoltageAngle, 71, 2, true, 1, 0, 3000, 1, .number, 0, true⟩,
    ⟨.pushbackHighVoltageSpeed, 73, 2, true, 1, 0, 3000, 1, .number, 0, true⟩,
    ⟨.pushbackLowVoltageAngle, 77, 2, true, 1, 0, 3000, 1, .number, 0, true⟩,
    ⟨.pushbackLowVoltageSpeed, 79, 2, true, 1, 0, 3000, 1, .number, 0, true⟩,
    ⟨.hapticsDutyFrequency, 250, 2, false, 1, 300, 1000, 1, .number, 0, true⟩,
    ⟨.hapticsDutyStrength, 252, 2, true, 1, 0, 120, 1, .number, 0, true⟩,
    ⟨.hapticsErrorFrequency, 254, 2, false, 1, 300, 1000, 1, .number, 0, true⟩,
    ⟨.hapticsErrorStrength, 256, 2, true, 1, 0, 120, 1, .number, 0, true⟩,
    ⟨.hapticsVibrateFrequency, 258, 2, false, 1, 10, 200, 1, .number, 0, true⟩,
    ⟨.hapticsVibrateStrength, 260, 2, true, 1, 0, 250, 1, .number, 0, true⟩,
    ⟨.hapticsDutySolidOffset, 262, 2, true, 1, 0, 10000, 1, .number, 0, true⟩,
    ⟨.hapticsCurrentThreshold, 264, 2, true, 1, 0, 10000, 1, .number, 0, true⟩,
    ⟨.hapticsMinStrength, 266, 2, true, 1, 0, 10000, 1, .number, 0, true⟩,
    ⟨.hapticsMaxStrengthSpeed, 268, 1, false, 1, 10, 100, 1, .number, 0, true⟩,
    ⟨.hapticsStrengthCurvature, 269, 2, true, 1, 0, 1000, 1, .number, 0, true⟩,
    ⟨.remoteReceiverType, 99, 1, false, 1, 0, 2, 1, .choice, 3, true⟩,
    ⟨.remoteInputDeadband, 103, 2, true, 1, 0, 5000, 1, .number, 0, true⟩,
    ⟨.lightingOn, 180, 1, false, 1, 0, 1, 1, .boolean, 0, true⟩,
    ⟨.lightingHeadlightsOn, 181, 1, false, 1, 0, 1, 1, .boolean, 0, true⟩,
    ⟨.lightingHeadlightsTransition, 182, 1, false, 1, 0, 3, 1, .choice, 4, true⟩,
    ⟨.lightingDirectionTransition, 183, 1, false, 1, 0, 3, 1, .choice, 4, true⟩,
    ⟨.lightingLightsOffWhenLifted, 184, 1, false, 1, 0, 1, 1, .boolean, 0, true⟩,
    ⟨.lightingStatusOnFrontWhenLifted, 185, 1, false, 1, 0, 1, 1, .boolean, 0, true⟩,
    ⟨.lightingFrontMode, 186, 1, false, 1, 0, 8, 1, .choice, 9, true⟩,
    ⟨.lightingFrontBrightness, 187, 2, true, 1, 0, 10000, 1, .number, 0, true⟩,
    ⟨.lightingFrontColor1, 189, 1, false, 1, 0, 31, 1, .choice, 32, true⟩,
    ⟨.lightingFrontColor2, 190, 1, false, 1, 0, 31, 1, .choice, 32, true⟩,
    ⟨.lightingFrontSpeed, 191, 2, true, 1, 0, 15000, 1, .number, 0, true⟩,
    ⟨.lightingRearMode, 193, 1, false, 1, 0, 8, 1, .choice, 9, true⟩,
    ⟨.lightingRearBrightness, 194, 2, true, 1, 0, 10000, 1, .number, 0, true⟩,
    ⟨.lightingRearColor1, 196, 1, false, 1, 0, 31, 1, .choice, 32, true⟩,
    ⟨.lightingRearColor2, 197, 1, false, 1, 0, 31, 1, .choice, 32, true⟩,
    ⟨.lightingRearSpeed, 198, 2, true, 1, 0, 15000, 1, .number, 0, true⟩,
    ⟨.lightingHeadlightsMode, 200, 1, false, 1, 0, 8, 1, .choice, 9, true⟩,
    ⟨.lightingHeadlightsBrightness, 201, 2, true, 1, 0, 10000, 1, .number, 0, true⟩,
    ⟨.lightingHeadlightsColor1, 203, 1, false, 1, 0, 31, 1, .choice, 32, true⟩,
    ⟨.lightingHeadlightsColor2, 204, 1, false, 1, 0, 31, 1, .choice, 32, true⟩,
    ⟨.lightingHeadlightsSpeed, 205, 2, true, 1, 0, 15000, 1, .number, 0, true⟩,
    ⟨.lightingTaillightsMode, 207, 1, false, 1, 0, 8, 1, .choice, 9, true⟩,
    ⟨.lightingTaillightsBrightness, 208, 2, true, 1, 0, 10000, 1, .number, 0, true⟩,
    ⟨.lightingTaillightsColor1, 210, 1, false, 1, 0, 31, 1, .choice, 32, true⟩,
    ⟨.lightingTaillightsColor2, 211, 1, false, 1, 0, 31, 1, .choice, 32, true⟩,
    ⟨.lightingTaillightsSpeed, 212, 2, true, 1, 0, 15000, 1, .number, 0, true⟩,
    ⟨.lightingStatusBrightnessHeadlightsOff, 214, 2, true, 1, 0, 10000, 1, .number, 0, true⟩,
    ⟨.lightingStatusBrightnessHeadlightsOn, 216, 2, true, 1, 0, 10000, 1, .number, 0, true⟩,
    ⟨.lightingStatusShowSensorsWhileRunning, 218, 1, false, 1, 0, 1, 1, .boolean, 0, true⟩,
    ⟨.lightingStatusMotorUtilizationThreshold, 219, 2, true, 1, 1500, 10000, 1, .number, 0, true⟩,
    ⟨.lightingStatusRedBarPercentage, 221, 2, true, 1, 0, 5000, 1, .number, 0, true⟩,
    ⟨.lightingStatusIdleTimeout, 223, 2, false, 1, 0, 300, 1, .number, 0, true⟩,
    ⟨.lightingStatusIdleMode, 225, 1, false, 1, 0, 8, 1, .choice, 9, true⟩,
    ⟨.lightingStatusIdleBrightness, 226, 2, true, 1, 0, 10000, 1, .number, 0, true⟩,
    ⟨.lightingStatusIdleColor1, 228, 1, false, 1, 0, 31, 1, .choice, 32, true⟩,
    ⟨.lightingStatusIdleColor2, 229, 1, false, 1, 0, 31, 1, .choice, 32, true⟩,
    ⟨.lightingStatusIdleSpeed, 230, 2, true, 1, 0, 15000, 1, .number, 0, true⟩,
    ⟨.packageDisabled, 249, 1, false, 1, 0, 1, 1, .boolean, 0, false⟩,
    ⟨.pushbackHv, 75, 2, true, 1, 0, 15000, 1, .number, 0, false⟩,
    ⟨.pushbackLv, 81, 2, true, 1, 0, 15000, 1, .number, 0, false⟩,
    ⟨.sensorsAdcchannel1, 44, 2, true, 1, 0, 3300, 1, .number, 0, false⟩,
    ⟨.sensorsAdcchannel2, 46, 2, true, 1, 0, 3300, 1, .number, 0, false⟩,
    ⟨.sensorsSwapFootpadAdcs, 247, 1, false, 1, 0, 1, 1, .boolean, 0, false⟩,
    ⟨.sensorsFootFaultBeepEnabled, 48, 1, false, 1, 0, 1, 1, .boolean, 0, true⟩,
    ⟨.hardwareBeeperEnabled, 248, 1, false, 1, 0, 1, 1, .boolean, 0, true⟩,
    ⟨.lightingHardwareMode, 232, 1, false, 1, 0, 3, 1, .choice, 4, false⟩,
    ⟨.lightingHardwarePin, 233, 1, false, 1, 0, 2, 1, .choice, 3, false⟩,
    ⟨.lightingHardwarePinConfig, 234, 1, false, 1, 0, 1, 1, .choice, 2, false⟩,
    ⟨.lightingHardwareStatusOrder, 235, 1, false, 1, 0, 3, 1, .choice, 4, false⟩,
    ⟨.lightingHardwareStatusCount, 236, 1, false, 1, 0, 30, 1, .number, 0, false⟩,
    ⟨.lightingHardwareStatusColorOrder, 237, 1, false, 1, 0, 3, 1, .choice, 4, false⟩,
    ⟨.lightingHardwareStatusReverse, 238, 1, false, 1, 0, 1, 1, .boolean, 0, false⟩,
    ⟨.lightingHardwareFrontOrder, 239, 1, false, 1, 0, 3, 1, .choice, 4, false⟩,
    ⟨.lightingHardwareFrontCount, 240, 1, false, 1, 0, 30, 1, .number, 0, false⟩,
    ⟨.lightingHardwareFrontColorOrder, 241, 1, false, 1, 0, 3, 1, .choice, 4, false⟩,
    ⟨.lightingHardwareFrontReverse, 242, 1, false, 1, 0, 1, 1, .boolean, 0, false⟩,
    ⟨.lightingHardwareRearOrder, 243, 1, false, 1, 0, 3, 1, .choice, 4, false⟩,
    ⟨.lightingHardwareRearCount, 244, 1, false, 1, 0, 30, 1, .number, 0, false⟩,
    ⟨.lightingHardwareRearColorOrder, 245, 1, false, 1, 0, 3, 1, .choice, 4, false⟩,
    ⟨.lightingHardwareRearReverse, 246, 1, false, 1, 0, 1, 1, .boolean, 0, false⟩,
    ⟨.bmsEnabled, 271, 1, false, 1, 0, 1, 1, .boolean, 0, true⟩,
    ⟨.bmsCellLvThreshold, 272, 2, true, 1, 2500, 4500, 1, .number, 0, true⟩,
    ⟨.bmsCellHvThreshold, 274, 2, true, 1, 2500, 4500, 1, .number, 0, true⟩,
    ⟨.bmsCellBalanceThreshold, 276, 2, true, 1, 10, 1000, 1, .number, 0, true⟩,
    ⟨.bmsCellHtThreshold, 278, 1, true, 1, 0, 60, 1, .number, 0, true⟩,
    ⟨.bmsCellLtThreshold, 279, 1, true, 1, (-20), 20, 1, .number, 0, true⟩,
    ⟨.bmsBmsHtThreshold, 280, 1, true, 1, 0, 80, 1, .number, 0, true⟩ ]

/-- The Refloat table's `spec`. -/
def refloatSpec (id : SettingId) : Option RefloatFieldSpec := refloatFields.find? fun field => field.id = id

def refloatSupportedSettingIds : List SettingId := refloatFields.map RefloatFieldSpec.id

/-- `accepts_value` of the control a row is shown with. -/
def RefloatFieldSpec.accepts (field : RefloatFieldSpec) (value : DeviceSettingValue) : Bool :=
  match field.kind, value with
  | .boolean, .boolean _ => true
  | .number, .number number =>
    decide (field.minimum ≤ number ∧ number ≤ field.maximum ∧ 0 < field.wireStep ∧
      Int.tmod (number - field.minimum) field.wireStep = 0)
  | .number, .disabled => decide (field.id = .pwmTiltback ∨ field.id = .tiltbackSpeed)
  | .choice, .choice choice => decide (1 ≤ choice ∧ choice ≤ field.choices)
  | _, _ => false

inductive RefloatSettingsError where
  | unsupportedLength | unsupportedSignature | unsupportedSetting | invalidValue | invalidCombination
  deriving Repr, DecidableEq

/-- One or two bytes, signed or not. -/
def readRaw (bytes : List Byte) (field : RefloatFieldSpec) : Option Int :=
  if (field.width = 1 ∨ field.width = 2) ∧ field.offset + field.width ≤ bytes.length then
    let word := (bytes.drop field.offset).take field.width
    some (if field.signed then signedFromBe word else unsignedFromBe word)
  else none

/-- Whether a number has a wire form of the field's width and sign. -/
def RefloatFieldSpec.fits (field : RefloatFieldSpec) (value : Int) : Bool :=
  let bits := 8 * field.width
  if field.signed then decide (-2 ^ (bits - 1) ≤ value ∧ value < 2 ^ (bits - 1))
  else decide (0 ≤ value ∧ value < 2 ^ bits)

/-- Refused when the value does not fit the wire type. -/
def writeRaw (bytes : List Byte) (field : RefloatFieldSpec) (value : Int) :
    Except RefloatSettingsError (List Byte) :=
  if (field.width = 1 ∨ field.width = 2) ∧ field.offset + field.width ≤ bytes.length ∧ field.fits value then
    .ok (patch bytes field.offset (toBe field.width (value % 2 ^ (8 * field.width)).toNat))
  else .error .invalidValue

theorem writeRaw_layout {bytes written : List Byte} {field : RefloatFieldSpec} {value : Int}
    (behind : 4 ≤ field.offset) (wrote : writeRaw bytes field value = .ok written) :
    written.length = bytes.length ∧ written.take 4 = bytes.take 4 := by
  unfold writeRaw at wrote
  split at wrote
  · next fits =>
    cases wrote
    exact patch_layout (by rw [toBe_length]; exact fits.2.1) behind
  · cases wrote

theorem refloatFields_behind_signature : ∀ field ∈ refloatFields, 4 ≤ field.offset := by decide

def RefloatFieldSpec.wireValue (field : RefloatFieldSpec) (value : DeviceSettingValue) : Option Int :=
  match field.kind, value with
  | .boolean, .boolean enabled => some (if enabled then 1 else 0)
  | .choice, .choice choice => some (choice - 1)
  | .number, .number number =>
    if field.id = .pwmTiltback then some (number * 10)
    else if field.id = .tiltbackSpeed then some (Int.tdiv number 10)
    else some (Int.tdiv number field.semanticPerWire)
  | .number, .disabled =>
    if field.id = .pwmTiltback then some 1000 else if field.id = .tiltbackSpeed then some 0 else none
  | _, _ => none

/-- `decode_wire_value` of a row. -/
def RefloatFieldSpec.decodeWireValue (field : RefloatFieldSpec) (raw : Int) : Option DeviceSettingValue :=
  match field.kind with
  | .boolean => if raw = 0 then some (.boolean false) else if raw = 1 then some (.boolean true) else none
  | .choice => if 0 ≤ raw ∧ raw < field.choices then some (.choice (raw.toNat + 1)) else none
  | .number =>
    if field.id = .pwmTiltback then
      if raw = 1000 then some .disabled
      else if 0 ≤ raw ∧ raw ≤ 990 ∧ Int.tmod raw 10 = 0 then some (.number (Int.tdiv raw 10)) else none
    else if field.id = .tiltbackSpeed ∧ raw = 0 then some .disabled
    else
      let number := raw * field.semanticPerWire
      if field.accepts (.number number) then some (.number number) else none

/-- The typed value of a semantic read-back number. -/
def RefloatFieldSpec.normalizeRaw (field : RefloatFieldSpec) (raw : Int) : Option DeviceSettingValue :=
  if raw < i32Min ∨ i32Max < raw then none
  else match field.kind with
    | .boolean => if raw = 0 then some (.boolean false) else if raw = 1 then some (.boolean true) else none
    | .choice => if 0 < raw ∧ raw ≤ field.choices then some (.choice raw.toNat) else none
    | .number =>
      if field.id = .pwmTiltback ∧ raw = 100 then some .disabled
      else if field.id = .tiltbackSpeed ∧ raw = 0 then some .disabled
      else if field.accepts (.number raw) then some (.number raw) else none

/-- Combinations the package cannot run with. -/
def validateCouplings (bytes : List Byte) : Except RefloatSettingsError Unit :=
  let raw (id : SettingId) : Option Int := (refloatSpec id).bind (readRaw bytes)
  let compared (low high : SettingId) (bad : Int → Int → Bool) : Bool :=
    match raw low, raw high with
    | some low, some high => bad low high
    | _, _ => false
  if raw .remoteReceiverType = some 2 ∧ raw .hardwareBeeperEnabled = some 1 then .error .invalidCombination
  else if compared .bmsCellLtThreshold .bmsCellHtThreshold (fun low high => high < low) then
    .error .invalidCombination
  else if compared .bmsCellLvThreshold .bmsCellHvThreshold (fun low high => high ≤ low) then
    .error .invalidCombination
  else .ok ()

/-- A validated complete package configuration. -/
structure RefloatSettings where
  bytes : List Byte
  sized : bytes.length = refloatConfigLen
  signed : unsignedFromBe (bytes.take 4) = refloatConfigSignature
  deriving DecidableEq

namespace RefloatSettings

def decode (bytes : List Byte) : Except RefloatSettingsError RefloatSettings :=
  if sized : bytes.length = refloatConfigLen then
    if signed : unsignedFromBe (bytes.take 4) = refloatConfigSignature then .ok ⟨bytes, sized, signed⟩
    else .error .unsupportedSignature
  else .error .unsupportedLength

def value (settings : RefloatSettings) (id : SettingId) : Option DeviceSettingValue := do
  let field ← refloatSpec id
  field.decodeWireValue (← readRaw settings.bytes field)

/-- The package may clear the trailing default marker on save. -/
def isSameExceptDefault (expected observed : RefloatSettings) : Bool :=
  (expected.bytes.zip observed.bytes).zipIdx.all fun ((a, b), index) =>
    a == b || (index == refloatConfigLen - 1 && a == 1 && b == 0)

def writeCommandPayload (settings : RefloatSettings) : List Byte := [95, 0] ++ settings.bytes

/-- The image with exactly one checked field replaced. -/
def changed (settings : RefloatSettings) (id : SettingId) (value : DeviceSettingValue) :
    Except RefloatSettingsError RefloatSettings :=
  match found : refloatSpec id with
  | none => .error .unsupportedSetting
  | some field =>
    if !field.accepts value then .error .invalidValue
    else match field.wireValue value with
      | none => .error .invalidValue
      | some raw =>
        match wrote : writeRaw settings.bytes field raw with
        | .error error => .error error
        | .ok bytes =>
          match validateCouplings bytes with
          | .error error => .error error
          | .ok () =>
            have layout := writeRaw_layout
              (refloatFields_behind_signature field (List.mem_of_find?_eq_some found)) wrote
            .ok ⟨bytes, layout.1.trans settings.sized, by rw [layout.2]; exact settings.signed⟩

end RefloatSettings

end Cutout.Protocols

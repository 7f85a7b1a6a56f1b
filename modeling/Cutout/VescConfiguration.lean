import Cutout.DeviceSettings

/-! Complete motor and application configuration images of firmware 7.00. A table
says where each setting lives and how it is encoded; a change patches one field
of a validated image and is refused unless it reads back exactly. -/

namespace Cutout.Protocols
open Library.BinaryFloat

inductive VescConfigurationKind where
  | motor | app
  deriving Repr, DecidableEq

namespace VescConfigurationKind

def imageLen : VescConfigurationKind → Nat
  | .motor => 488
  | .app => 284

def signature : VescConfigurationKind → Nat
  | .motor => 1470992211
  | .app => 2384027283

def readCommandPayload : VescConfigurationKind → List Byte
  | .motor => [14]
  | .app => [17]

def setCommand : VescConfigurationKind → Byte
  | .motor => 13
  | .app => 16

end VescConfigurationKind

inductive VescConfigurationError where
  | length | signature | unsupportedSetting | invalidValue | readOnly | coupledConstraint
  deriving Repr, DecidableEq

inductive WireType where
  | f32Auto | scaledI16 (scale : Nat) | u8 | u16 | u32
  deriving Repr, DecidableEq

inductive ReadOnlyReason where
  | writable | controllerIdentity | transportSelection | hardwareEndpoint | imuHardware | bitfieldValueShape
  deriving Repr, DecidableEq

/-- One row of the field table. Option texts count only by their number. -/
structure FieldSpec where
  id : SettingId
  kind : VescConfigurationKind
  offset : Nat
  width : Nat
  wire : WireType
  minimum : Int
  maximum : Int
  precision : Nat
  editorScale : Nat
  readOnly : ReadOnlyReason
  choices : Nat
  boolean : Bool
  bitfield : Bool
  deriving Repr, DecidableEq

namespace FieldSpec

def numeric (id : SettingId) (kind : VescConfigurationKind) (offset width : Nat) (wire : WireType)
    (minimum maximum : Int) (precision editorScale : Nat) (readOnly : ReadOnlyReason) : FieldSpec :=
  { id, kind, offset, width, wire, minimum, maximum, precision, editorScale, readOnly,
    choices := 0, boolean := false, bitfield := false }

def choiceOf (id : SettingId) (kind : VescConfigurationKind) (offset choices : Nat) (readOnly : ReadOnlyReason) :
    FieldSpec :=
  { id, kind, offset, width := 1, wire := .u8, minimum := 0, maximum := 255, precision := 0, editorScale := 1,
    readOnly, choices, boolean := false, bitfield := false }

def flag (id : SettingId) (kind : VescConfigurationKind) (offset : Nat) : FieldSpec :=
  { id, kind, offset, width := 1, wire := .u8, minimum := 0, maximum := 1, precision := 0, editorScale := 1,
    readOnly := .writable, choices := 0, boolean := true, bitfield := false }

def flags (id : SettingId) (kind : VescConfigurationKind) (offset choices : Nat) : FieldSpec :=
  { id, kind, offset, width := 1, wire := .u8, minimum := 0, maximum := 255, precision := 0, editorScale := 1,
    readOnly := .bitfieldValueShape, choices, boolean := false, bitfield := true }

end FieldSpec

open FieldSpec in
/-- Offsets include the four-byte signature. -/
def vescFields : List FieldSpec :=
  [numeric .motorDriveCurrentLimit .motor 8 4 .f32Auto 0 500000 2 1 .writable,
    numeric .motorBrakingCurrentLimit .motor 12 4 .f32Auto 0 500000 2 1 .writable,
    numeric .batteryCurrentOutLimit .motor 16 4 .f32Auto 0 500000 2 1 .writable,
    numeric .batteryCurrentInLimit .motor 20 4 .f32Auto 0 500000 2 1 .writable,
    numeric .absoluteMotorCurrentLimit .motor 28 4 .f32Auto 0 500000 2 1 .writable,
    numeric .inputVoltageMinimum .motor 50 2 (.scaledI16 10) 0 11000 1 1 .writable,
    numeric .inputVoltageMaximum .motor 52 2 (.scaledI16 10) 0 11000 1 1 .writable,
    numeric .batteryCutbackStart .motor 54 2 (.scaledI16 10) 0 11000 1 1 .writable,
    numeric .batteryCutbackEnd .motor 56 2 (.scaledI16 10) 0 11000 1 1 .writable,
    numeric .regenerativeBatteryCutbackStart .motor 58 2 (.scaledI16 10) 0 11000 1 1 .writable,
    numeric .regenerativeBatteryCutbackEnd .motor 60 2 (.scaledI16 10) 0 11000 1 1 .writable,
    numeric .fetTemperatureCutbackStart .motor 63 1 .u8 0 190 0 1 .writable,
    numeric .fetTemperatureCutbackEnd .motor 64 1 .u8 0 190 0 1 .writable,
    numeric .motorTemperatureCutbackStart .motor 65 1 .u8 0 190 0 1 .writable,
    numeric .motorTemperatureCutbackEnd .motor 66 1 .u8 0 190 0 1 .writable,
    numeric .motorPowerOutLimit .motor 73 4 .f32Auto 0 20000000 1 1 .writable,
    numeric .regenerativeMotorPowerLimit .motor 77 4 .f32Auto 0 20000000 1 1 .writable,
    numeric .motorDriveCurrentLimitScale .motor 81 2 (.scaledI16 10000) 0 100 2 1 .writable,
    numeric .motorBrakingCurrentLimitScale .motor 83 2 (.scaledI16 10000) 0 100 2 1 .writable,
    numeric .motorPoleCount .motor 452 1 .u8 2 254 0 1 .writable,
    numeric .motorGearRatio .motor 453 4 .f32Auto 100 9999000 3 1 .writable,
    numeric .wheelDiameter .motor 457 4 .f32Auto 100 999900000 2 1000 .writable,
    choiceOf .batteryChemistry .motor 461 3 .writable,
    numeric .batterySeriesCellCount .motor 462 1 .u8 1 255 0 1 .writable,
    numeric .batteryCapacity .motor 463 4 .f32Auto 0 1000000 3 1 .writable,
    choiceOf .bmsType .motor 471 2 .writable,
    flags .bmsLimitMode .motor 472 8,
    flag .bmsTemperatureLimitingEnabled .motor 472,
    flag .bmsSocLimitingEnabled .motor 472,
    flag .bmsMinimumCellVoltageLimitingEnabled .motor 472,
    flag .bmsMaximumCellVoltageLimitingEnabled .motor 472,
    numeric .bmsTemperatureLimitStart .motor 473 1 .u8 0 99 0 1 .writable,
    numeric .bmsTemperatureLimitEnd .motor 474 1 .u8 0 99 0 1 .writable,
    numeric .bmsSocLimitStart .motor 475 2 (.scaledI16 1000) 0 100 2 1 .writable,
    numeric .bmsSocLimitEnd .motor 477 2 (.scaledI16 1000) 0 100 2 1 .writable,
    numeric .bmsCellMinimumVoltageLimitStart .motor 479 2 (.scaledI16 1000) 0 600 2 1 .writable,
    numeric .bmsCellMinimumVoltageLimitEnd .motor 481 2 (.scaledI16 1000) 0 600 2 1 .writable,
    numeric .bmsCellMaximumVoltageLimitStart .motor 483 2 (.scaledI16 1000) 0 600 2 1 .writable,
    numeric .bmsCellMaximumVoltageLimitEnd .motor 485 2 (.scaledI16 1000) 0 600 2 1 .writable,
    choiceOf .bmsCanForwardMode .motor 487 3 .transportSelection,
    numeric .controllerId .app 4 1 .u8 0 255 0 1 .controllerIdentity,
    numeric .commandTimeout .app 5 4 .u32 0 30000000 0 1 .writable,
    numeric .commandTimeoutBrakeCurrent .app 9 4 .f32Auto 0 50000 2 1 .writable,
    numeric .canStatusRate1 .app 13 2 .u16 0 10000 0 1 .writable,
    numeric .canStatusRate2 .app 15 2 .u16 0 10000 0 1 .writable,
    choiceOf .canBaudRate .app 19 9 .transportSelection,
    choiceOf .canMode .app 23 5 .transportSelection,
    choiceOf .applicationToUse .app 33 11 .hardwareEndpoint,
    choiceOf .killSwitchMode .app 32 5 .hardwareEndpoint,
    choiceOf .ppmControlMode .app 34 12 .hardwareEndpoint,
    numeric .ppmHysteresis .app 39 4 .f32Auto 0 100 0 100 .writable,
    numeric .ppmPulseStart .app 43 4 .f32Auto 0 1000000 4 1 .writable,
    numeric .ppmPulseEnd .app 47 4 .f32Auto 0 1000000 4 1 .writable,
    numeric .ppmPulseCenter .app 51 4 .f32Auto 0 1000000 4 1 .writable,
    choiceOf .ppmSafeStart .app 56 3 .writable,
    numeric .ppmRampTimePositive .app 66 4 .f32Auto 0 100000 2 1 .writable,
    numeric .ppmRampTimeNegative .app 70 4 .f32Auto 0 100000 2 1 .writable,
    choiceOf .adcControlMode .app 90 15 .hardwareEndpoint,
    numeric .adcHysteresis .app 91 4 .f32Auto 0 100 0 100 .writable,
    numeric .adcVoltageStart .app 95 2 (.scaledI16 1000) 0 330 2 1 .hardwareEndpoint,
    numeric .adcVoltageEnd .app 97 2 (.scaledI16 1000) 0 330 2 1 .hardwareEndpoint,
    numeric .adcVoltageMinimum .app 99 2 (.scaledI16 1000) 0 330 2 1 .hardwareEndpoint,
    numeric .adcVoltageMaximum .app 101 2 (.scaledI16 1000) 0 360 2 1 .hardwareEndpoint,
    choiceOf .adcSafeStart .app 110 3 .writable,
    numeric .adcRampTimePositive .app 123 4 .f32Auto 0 100000 2 1 .writable,
    numeric .adcRampTimeNegative .app 127 4 .f32Auto 0 100000 2 1 .writable,
    choiceOf .nunchukControlMode .app 143 4 .hardwareEndpoint,
    numeric .nunchukHysteresis .app 144 4 .f32Auto 0 100 0 100 .writable,
    numeric .nunchukRampTimePositive .app 148 4 .f32Auto 0 100000 2 1 .writable,
    numeric .nunchukRampTimeNegative .app 152 4 .f32Auto 0 100000 2 1 .writable,
    choiceOf .imuType .app 218 6 .imuHardware,
    choiceOf .imuMode .app 219 3 .writable,
    choiceOf .imuFilter .app 220 3 .writable,
    numeric .imuSampleRate .app 229 2 .u16 1 10000 0 1 .writable,
    flag .imuUseMagnetometer .app 231]

/-- `spec`: the first row of the setting. -/
def vescSpec (id : SettingId) : Option FieldSpec := vescFields.find? fun field => field.id = id

/-- The settings of one image, in table order. -/
def supportedSettingIds (kind : VescConfigurationKind) : List SettingId :=
  (vescFields.filter fun field => field.kind = kind).map FieldSpec.id

def bitProjection : SettingId → Option Nat
  | .bmsTemperatureLimitingEnabled => some 0
  | .bmsSocLimitingEnabled => some 1
  | .bmsMinimumCellVoltageLimitingEnabled => some 2
  | .bmsMaximumCellVoltageLimitingEnabled => some 3
  | _ => none

namespace FieldSpec

/-- Limits the firmware stores as negative numbers. -/
def wirePolarity (spec : FieldSpec) : Int :=
  match spec.id with
  | .motorBrakingCurrentLimit | .batteryCurrentInLimit | .regenerativeMotorPowerLimit => -1
  | _ => 1

/-- A physical pole count is even. -/
def wireStep (spec : FieldSpec) : Int := if spec.id = .motorPoleCount then 2 else 1

/-- Semantic units for one physical unit; no row overflows an `i32`. -/
def semanticFactor (spec : FieldSpec) : Option Nat :=
  let factor := 10 ^ spec.precision * spec.editorScale
  if (factor : Int) ≤ i32Max then some factor else none

end FieldSpec

/-- The big-endian word of a field, for the three widths that exist. -/
def readUnsigned (bytes : List Byte) (offset width : Nat) : Option Nat :=
  if offset + width ≤ bytes.length ∧ (width = 1 ∨ width = 2 ∨ width = 4) then
    some (unsignedFromBe ((bytes.drop offset).take width))
  else none

/-- `value.to_be_bytes()` of the given width. -/
def toBe : Nat → Nat → List Byte
  | 0, _ => []
  | width + 1, value => UInt8.ofNat (value / 256 ^ width) :: toBe width (value % 256 ^ width)

/-- The bytes with a field of them replaced. -/
def patch (bytes : List Byte) (offset : Nat) (word : List Byte) : List Byte :=
  bytes.take offset ++ word ++ bytes.drop (offset + word.length)

def writeUnsigned (bytes : List Byte) (offset width value : Nat) : Except VescConfigurationError (List Byte) :=
  if bytes.length < offset + width then .error .length
  else if width = 1 ∨ width = 2 ∨ width = 4 then
    if value < 256 ^ width then .ok (patch bytes offset (toBe width value)) else .error .invalidValue
  else .error .length

/-- The single-precision constant `1.5e-38`, below which the firmware flushes to zero. -/
def flushThreshold : ℚ := binary32.nearest (15 / 10 ^ 39)

def encodeFloat32Auto (value : ℚ) : Nat :=
  if |value| < flushThreshold ∨ value = 0 then 0 else (toBits32 value).toNat

/-- `decode_float32_auto`: subnormal and non-finite words are not values. -/
def decodeFloat32Auto (raw : Nat) : Option ℚ :=
  let exponent := raw / 2 ^ 23 % 2 ^ 8
  let mantissa := raw % 2 ^ 23
  if exponent = 0 ∧ mantissa ≠ 0 then none
  else match Value.ofBits32 (UInt32.ofNat raw) with
    | .finite value => some value
    | _ => none

/-- The field as a double. -/
def readPhysical (bytes : List Byte) (spec : FieldSpec) : Option Value :=
  match readUnsigned bytes spec.offset spec.width, spec.wire with
  | none, _ => none
  | some raw, .f32Auto => if spec.width = 4 then (decodeFloat32Auto raw).map .finite else none
  | some raw, .scaledI16 scale =>
    if spec.width = 2 then some (binary64.divBy (.finite (twosComplement 16 raw)) scale) else none
  | some raw, .u8 => if spec.width = 1 then some (.finite raw) else none
  | some raw, .u16 => if spec.width = 2 then some (.finite raw) else none
  | some raw, .u32 => if spec.width = 4 then some (.finite raw) else none

/-- The semantic value of a field as a double: polarity, then the factor, one rounding each. -/
def scaledPhysical (spec : FieldSpec) (factor : Nat) (physical : Value) : Value :=
  binary64.mul (binary64.mul physical (.finite spec.wirePolarity)) (.finite factor)

/-- The word that encodes a number, before the read-back check. -/
def encodeNumber (spec : FieldSpec) (factor : Nat) (number : Int) : Except VescConfigurationError Nat :=
  match spec.wire with
  | .f32Auto =>
    let physical := binary64.mul (binary64.divBy (.finite number) factor) (.finite spec.wirePolarity)
    match binary32.convert physical with
    | .finite value => .ok (encodeFloat32Auto value)
    | _ => .error .invalidValue
  | .scaledI16 scale =>
    let numerator := number * scale * spec.wirePolarity
    if Int.tmod numerator factor ≠ 0 then .error .invalidValue
    else
      let raw := Int.tdiv numerator factor
      if -2 ^ 15 ≤ raw ∧ raw < 2 ^ 15 then .ok (raw % 2 ^ 16).toNat else .error .invalidValue
  | .u8 | .u16 | .u32 =>
    let numerator := number * spec.wirePolarity
    if Int.tmod numerator factor ≠ 0 then .error .invalidValue
    else
      let raw := Int.tdiv numerator factor
      if 0 ≤ raw ∧ raw ≤ u32Max then .ok raw.toNat else .error .invalidValue

/-- Patches the field and checks that it reads back as the same number. -/
def encodeValue (bytes : List Byte) (spec : FieldSpec) (value : DeviceSettingValue) :
    Except VescConfigurationError (List Byte) :=
  if spec.boolean then
    match value with
    | .boolean enabled =>
      match bitProjection spec.id with
      | some bit =>
        match readUnsigned bytes spec.offset spec.width with
        | none => .error .length
        | some current =>
          writeUnsigned bytes spec.offset spec.width
            (if enabled then current ||| 2 ^ bit else current &&& (u32Max - 2 ^ bit))
      | none => writeUnsigned bytes spec.offset spec.width (if enabled then 1 else 0)
    | _ => .error .invalidValue
  else if spec.bitfield then .error .readOnly
  else if spec.choices ≠ 0 then
    match value with
    | .choice choice =>
      if choice = 0 ∨ spec.choices ≤ choice - 1 then .error .invalidValue
      else writeUnsigned bytes spec.offset spec.width (choice - 1)
    | _ => .error .invalidValue
  else
    match value with
    | .number number =>
      if number < spec.minimum ∨ spec.maximum < number ∨ Int.tmod number spec.wireStep ≠ 0 then .error .invalidValue
      else match spec.semanticFactor with
        | none => .error .invalidValue
        | some factor => do
          let word ← encodeNumber spec factor number
          let width := match spec.wire with
            | .f32Auto => 4
            | .scaledI16 _ => 2
            | _ => spec.width
          let written ← writeUnsigned bytes spec.offset width word
          match readPhysical written spec with
          | none => throw .invalidValue
          | some readback =>
            if (scaledPhysical spec factor readback).round = .finite number then return written
            else throw .invalidValue
    | _ => .error .invalidValue

/-- The number read from a field, when it is an `i32` inside the row's range. -/
def FieldSpec.numberOf (spec : FieldSpec) (scaled : Value) : Option Int :=
  match scaled with
  | .finite x =>
    if x < i32Min ∨ i32Max < x then none
    else
      let value := roundHalfAway x
      if spec.minimum ≤ value ∧ value ≤ spec.maximum then some value else none
  | _ => none

theorem patch_layout {bytes word : List Byte} {offset : Nat} (inside : offset + word.length ≤ bytes.length)
    (behind : 4 ≤ offset) :
    (patch bytes offset word).length = bytes.length ∧ (patch bytes offset word).take 4 = bytes.take 4 := by
  refine ⟨by simp only [patch, List.length_append, List.length_take, List.length_drop]; omega, ?_⟩
  rw [patch, List.append_assoc, List.take_append_of_le_length (by rw [List.length_take]; omega), List.take_take,
    Nat.min_eq_left behind]

theorem toBe_length (width value : Nat) : (toBe width value).length = width := by
  induction width generalizing value with
  | zero => rfl
  | succ width ih => simp [toBe, ih]

theorem writeUnsigned_layout {bytes written : List Byte} {offset width value : Nat} (behind : 4 ≤ offset)
    (wrote : writeUnsigned bytes offset width value = .ok written) :
    written.length = bytes.length ∧ written.take 4 = bytes.take 4 := by
  unfold writeUnsigned at wrote
  split_ifs at wrote
  cases wrote
  exact patch_layout (by rw [toBe_length]; omega) behind

/-- Encoding a value moves no byte and leaves the signature alone. -/
theorem encodeValue_layout {bytes written : List Byte} {spec : FieldSpec} {value : DeviceSettingValue}
    (behind : 4 ≤ spec.offset) (encoded : encodeValue bytes spec value = .ok written) :
    written.length = bytes.length ∧ written.take 4 = bytes.take 4 := by
  unfold encodeValue at encoded
  split_ifs at encoded
  · cases value with
    | boolean enabled =>
      simp only at encoded
      split at encoded
      · split at encoded
        · cases encoded
        · exact writeUnsigned_layout behind encoded
      · exact writeUnsigned_layout behind encoded
    | _ => cases encoded
  · cases value with
    | choice choice =>
      simp only at encoded
      split_ifs at encoded
      exact writeUnsigned_layout behind encoded
    | _ => cases encoded
  · cases value with
    | number number =>
      simp only at encoded
      split_ifs at encoded
      split at encoded
      · cases encoded
      · simp only [bind, Except.bind] at encoded
        split at encoded
        · cases encoded
        · split at encoded
          · cases encoded
          next wrote =>
            split at encoded
            · cases encoded
            · split_ifs at encoded
              cases encoded
              exact writeUnsigned_layout behind wrote
    | _ => cases encoded

theorem vescFields_behind_signature : ∀ field ∈ vescFields, 4 ≤ field.offset := by decide

theorem vescSpec_mem {id : SettingId} {spec : FieldSpec} (found : vescSpec id = some spec) :
    spec ∈ vescFields ∧ spec.id = id :=
  ⟨List.mem_of_find?_eq_some found, by simpa using List.find?_some found⟩

structure VescConfiguration where
  kind : VescConfigurationKind
  bytes : List Byte
  sized : bytes.length = kind.imageLen
  signed : unsignedFromBe (bytes.take 4) = kind.signature
  deriving DecidableEq

/-- `value_by_key` for a numeric row of the table. -/
def physicalValue (bytes : List Byte) (id : SettingId) : Option Value :=
  (vescSpec id).bind fun field =>
    (readPhysical bytes field).map fun physical => binary64.mul physical (.finite field.wirePolarity)

def validatePair (bytes : List Byte) (startId endId : SettingId) (ascending allowEqual : Bool) :
    Except VescConfigurationError Unit :=
  match physicalValue bytes startId, physicalValue bytes endId with
  | some (.finite start), some (.finite finish) =>
    if (if ascending then start < finish else finish < start) ∨ (allowEqual ∧ start = finish) then .ok ()
    else .error .coupledConstraint
  | _, _ => .error .coupledConstraint

/-- Interpolated thresholds keep their order. -/
def validateCoupledConstraints (kind : VescConfigurationKind) (bytes : List Byte) :
    Except VescConfigurationError Unit :=
  if kind ≠ .motor then .ok ()
  else do
    validatePair bytes .inputVoltageMinimum .inputVoltageMaximum true false
    validatePair bytes .batteryCutbackStart .batteryCutbackEnd false true
    validatePair bytes .regenerativeBatteryCutbackStart .regenerativeBatteryCutbackEnd true true
    validatePair bytes .fetTemperatureCutbackStart .fetTemperatureCutbackEnd true true
    validatePair bytes .motorTemperatureCutbackStart .motorTemperatureCutbackEnd true true
    match readUnsigned bytes 471 1, readUnsigned bytes 472 1 with
    | some bmsType, some bmsLimitMode =>
      if bmsType = 1 then
        if bmsLimitMode.testBit 0 then
          validatePair bytes .bmsTemperatureLimitStart .bmsTemperatureLimitEnd true true
        if bmsLimitMode.testBit 1 then
          validatePair bytes .bmsSocLimitStart .bmsSocLimitEnd false true
        if bmsLimitMode.testBit 2 then
          validatePair bytes .bmsCellMinimumVoltageLimitStart .bmsCellMinimumVoltageLimitEnd false true
        if bmsLimitMode.testBit 3 then
          validatePair bytes .bmsCellMaximumVoltageLimitStart .bmsCellMaximumVoltageLimitEnd true true
    | _, _ => throw .length

namespace VescConfiguration

def decode (kind : VescConfigurationKind) (bytes : List Byte) : Except VescConfigurationError VescConfiguration :=
  if sized : bytes.length = kind.imageLen then
    if signed : unsignedFromBe (bytes.take 4) = kind.signature then .ok ⟨kind, bytes, sized, signed⟩
    else .error .signature
  else .error .length

/-- The complete image behind its set command. -/
def writeCommandPayload (image : VescConfiguration) : List Byte := image.kind.setCommand :: image.bytes

/-- One supported typed field of the image. -/
def value (image : VescConfiguration) (id : SettingId) : Option DeviceSettingValue :=
  match vescSpec id with
  | none => none
  | some spec =>
    if spec.kind ≠ image.kind then none
    else if spec.boolean then
      match readUnsigned image.bytes spec.offset spec.width, bitProjection id with
      | some mask, some bit => some (.boolean (mask.testBit bit))
      | some raw, none => if raw = 0 then some (.boolean false) else if raw = 1 then some (.boolean true) else none
      | none, _ => none
    else if spec.bitfield then (readUnsigned image.bytes spec.offset spec.width).map fun raw => .number raw
    else if spec.choices ≠ 0 then
      match readUnsigned image.bytes spec.offset spec.width with
      | some raw => if raw < spec.choices then some (.choice (raw + 1)) else none
      | none => none
    else
      match readPhysical image.bytes spec, spec.semanticFactor with
      | some physical, some factor => (spec.numberOf (scaledPhysical spec factor physical)).map .number
      | _, _ => none

/-- The image with exactly one checked field replaced. -/
def changed (image : VescConfiguration) (id : SettingId) (value : DeviceSettingValue) :
    Except VescConfigurationError VescConfiguration :=
  match found : vescSpec id with
  | none => .error .unsupportedSetting
  | some spec =>
    if spec.kind ≠ image.kind then .error .unsupportedSetting
    else if spec.readOnly ≠ .writable then .error .readOnly
    else match encoded : encodeValue image.bytes spec value with
      | .error error => .error error
      | .ok bytes =>
        match validateCoupledConstraints image.kind bytes with
        | .error error => .error error
        | .ok () =>
          have layout := encodeValue_layout (vescFields_behind_signature spec (vescSpec_mem found).1) encoded
          .ok ⟨image.kind, bytes, layout.1.trans image.sized, by rw [layout.2]; exact image.signed⟩

end VescConfiguration

end Cutout.Protocols

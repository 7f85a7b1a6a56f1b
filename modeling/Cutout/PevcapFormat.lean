import Cutout.ControlWire
import Cutout.DeviceSettingsState
import Cutout.Library.Outcomes
import Cutout.ModelIdentity

/-! What a PEVCAP capture holds, and the forms in which its parts are written. Floating
numbers are their bit patterns, as the capture compares them; raw telemetry is carried
through unread. -/

namespace Cutout.Pevcap
open Cutout.Core (VerificationStatus)
open Connections (GattChannel GattRoles ProtocolFamily)
open Library
open Protocols (Byte)
open Wheels (WriteMode)

abbrev F64 := UInt64

namespace F64

def isFinite (bits : F64) : Bool := decide (bits.toNat / 2 ^ 52 % 2 ^ 11 ≠ 2 ^ 11 - 1)

/-- Bits of the absolute value; finite values are ordered as their bits are. -/
def magnitude (bits : F64) : Nat := bits.toNat % 2 ^ 63

def isNegative (bits : F64) : Bool := decide (2 ^ 63 ≤ bits.toNat)

/-- `*value >= 0.0`; the negative zero is one of these. -/
def nonNegative (bits : F64) : Bool := !bits.isNegative || decide (bits.magnitude = 0)

def bits90 : Nat := 0x4056800000000000
def bits180 : Nat := 0x4066800000000000
def bits360 : Nat := 0x4076800000000000

end F64

abbrev ArrayVec (α : Type) (capacity : Nat) := { items : List α // items.length ≤ capacity }

section Header

def maxAdvertisedServices : Nat := 8
def maxGattFingerprints : Nat := 16
def maxAnnotations : Nat := 256
def maxResolverContext : Nat := 8

structure PevcapFormatVersion where
  major : Nat
  minor : Nat
  deriving DecidableEq

def PevcapFormatVersion.current : PevcapFormatVersion := ⟨1, 5⟩

def PevcapFormatVersion.isSupported (version : PevcapFormatVersion) : Bool := decide (version = .current)

structure VerifiedValue where
  value : String
  verification : VerificationStatus
  deriving DecidableEq

structure PevcapResolvedIdentity where
  protocolFamily : Option ProtocolFamily
  model : Option VerifiedValue
  firmware : Option VerifiedValue
  deriving DecidableEq

structure GattFingerprint extends Connections.GattFingerprint where
  verification : VerificationStatus
  deriving DecidableEq

structure PevcapHeader where
  wallClockStartUnixMs : UInt64
  platformId : String
  writeLimit : Option UInt16
  advertisedServices : ArrayVec GattChannel maxAdvertisedServices
  gattFingerprints : ArrayVec GattFingerprint maxGattFingerprints
  selectedSessionKey : Option String
  resolvedIdentity : Option PevcapResolvedIdentity
  resolverEvidence : ArrayVec String maxResolverContext
  resolverWarnings : ArrayVec String maxResolverContext
  libraryVersion : String
  registryHash : Vector Byte 32
  annotations : ArrayVec String maxAnnotations
  deriving DecidableEq

inductive PevcapHeaderField where
  | advertisedServices | gattFingerprints | resolverEvidence | resolverWarnings | annotations
  deriving DecidableEq

inductive PevcapHeaderError where
  | tooManyItems (field : PevcapHeaderField) (len max : Nat)
  deriving DecidableEq

inductive GattRoleJson where
  | read | write | writeWithoutResponse | notify | indicate
  deriving DecidableEq

namespace GattRoleJson

/-- `From<GattRoles> for GattRolesJson`. -/
def ofRoles (roles : GattRoles) : List GattRoleJson :=
  (if roles.read then [read] else []) ++ (if roles.write then [write] else []) ++
    (if roles.writeWithoutResponse then [writeWithoutResponse] else []) ++ (if roles.notify then [notify] else []) ++
      (if roles.indicate then [indicate] else [])

def apply (roles : GattRoles) : GattRoleJson → GattRoles
  | read => { roles with read := true }
  | write => { roles with write := true }
  | writeWithoutResponse => { roles with writeWithoutResponse := true }
  | notify => { roles with notify := true }
  | indicate => { roles with indicate := true }

def intoRoles (json : List GattRoleJson) : GattRoles := json.foldl apply {}

theorem intoRoles_ofRoles (roles : GattRoles) : intoRoles (ofRoles roles) = roles := by
  obtain ⟨read, write, bare, notify, indicate⟩ := roles
  cases read <;> cases write <;> cases bare <;> cases notify <;> cases indicate <;> rfl

end GattRoleJson

structure GattFingerprintJson where
  service : GattChannel
  characteristic : GattChannel
  roles : List GattRoleJson
  verification : VerificationStatus
  deriving DecidableEq

def GattFingerprintJson.ofFingerprint (fingerprint : GattFingerprint) : GattFingerprintJson where
  service := fingerprint.service
  characteristic := fingerprint.characteristic
  roles := GattRoleJson.ofRoles fingerprint.roles
  verification := fingerprint.verification

def GattFingerprintJson.intoFingerprint (json : GattFingerprintJson) : GattFingerprint where
  service := json.service
  characteristic := json.characteristic
  roles := GattRoleJson.intoRoles json.roles
  verification := json.verification

theorem GattFingerprintJson.intoFingerprint_ofFingerprint (fingerprint : GattFingerprint) :
    (GattFingerprintJson.ofFingerprint fingerprint).intoFingerprint = fingerprint := by
  simp only [intoFingerprint, ofFingerprint, GattRoleJson.intoRoles_ofRoles]

structure PevcapHeaderJson where
  wallClockStartUnixMs : UInt64
  platformId : String
  writeLimit : Option UInt16
  advertisedServices : List GattChannel
  gattFingerprints : List GattFingerprintJson
  selectedSessionKey : Option String
  resolvedIdentity : Option PevcapResolvedIdentity
  resolverEvidence : List String
  resolverWarnings : List String
  libraryVersion : String
  registryHash : Vector Byte 32
  annotations : List String
  deriving DecidableEq

/-- `collect_bounded`, for texts as well. -/
def collectBounded {α : Type} (items : List α) (max : Nat) (field : PevcapHeaderField) :
    Except PevcapHeaderError (ArrayVec α max) :=
  if within : items.length ≤ max then .ok ⟨items, within⟩ else .error (.tooManyItems field items.length max)

namespace PevcapHeader

def new (wallClockStartUnixMs : UInt64) (platformId : String) (writeLimit : Option UInt16)
    (advertisedServices : List GattChannel) (gattFingerprints : List GattFingerprint)
    (selectedSessionKey : Option String) (resolvedIdentity : Option PevcapResolvedIdentity) (libraryVersion : String)
    (registryHash : Vector Byte 32) (annotations : List String) : Except PevcapHeaderError PevcapHeader := do
  let advertisedServices ← collectBounded advertisedServices maxAdvertisedServices .advertisedServices
  let gattFingerprints ← collectBounded gattFingerprints maxGattFingerprints .gattFingerprints
  let annotations ← collectBounded annotations maxAnnotations .annotations
  return { wallClockStartUnixMs, platformId, writeLimit, advertisedServices, gattFingerprints, selectedSessionKey,
           resolvedIdentity, resolverEvidence := ⟨[], Nat.zero_le _⟩, resolverWarnings := ⟨[], Nat.zero_le _⟩,
           libraryVersion, registryHash, annotations }

def withResolverContext (header : PevcapHeader) (resolverEvidence resolverWarnings : List String) :
    Except PevcapHeaderError PevcapHeader := do
  let resolverEvidence ← collectBounded resolverEvidence maxResolverContext .resolverEvidence
  let resolverWarnings ← collectBounded resolverWarnings maxResolverContext .resolverWarnings
  return { header with resolverEvidence, resolverWarnings }

end PevcapHeader

namespace PevcapHeaderJson

def ofHeader (header : PevcapHeader) : PevcapHeaderJson where
  wallClockStartUnixMs := header.wallClockStartUnixMs
  platformId := header.platformId
  writeLimit := header.writeLimit
  advertisedServices := header.advertisedServices.val
  gattFingerprints := header.gattFingerprints.val.map .ofFingerprint
  selectedSessionKey := header.selectedSessionKey
  resolvedIdentity := header.resolvedIdentity
  resolverEvidence := header.resolverEvidence.val
  resolverWarnings := header.resolverWarnings.val
  libraryVersion := header.libraryVersion
  registryHash := header.registryHash
  annotations := header.annotations.val

def tryIntoHeader (json : PevcapHeaderJson) : Except PevcapHeaderError PevcapHeader := do
  let header ← PevcapHeader.new json.wallClockStartUnixMs json.platformId json.writeLimit json.advertisedServices
    (json.gattFingerprints.map GattFingerprintJson.intoFingerprint) json.selectedSessionKey json.resolvedIdentity
    json.libraryVersion json.registryHash json.annotations
  header.withResolverContext json.resolverEvidence json.resolverWarnings

theorem collectBounded_val {α : Type} {max : Nat} (items : ArrayVec α max) (field : PevcapHeaderField) :
    collectBounded items.val max field = .ok items := dif_pos items.property

/-- A header in memory keeps its bounds, so it is always read back. -/
theorem tryIntoHeader_ofHeader (header : PevcapHeader) : (ofHeader header).tryIntoHeader = .ok header := by
  have fingerprints : (header.gattFingerprints.val.map GattFingerprintJson.ofFingerprint).map
      GattFingerprintJson.intoFingerprint = header.gattFingerprints.val := by
    rw [List.map_map]
    exact (List.map_congr_left fun fingerprint _ =>
      GattFingerprintJson.intoFingerprint_ofFingerprint fingerprint).trans (List.map_id _)
  simp only [tryIntoHeader, ofHeader, fingerprints, PevcapHeader.new, PevcapHeader.withResolverContext, collectBounded_val]
  rfl

end PevcapHeaderJson

end Header

section Records

inductive PevcapDirection where
  | linkUp | linkDown | inbound | outbound
  deriving DecidableEq

inductive RequestTarget where
  | localDevice
  | vescCanController (controllerId : UInt8)
  deriving DecidableEq

inductive PevcapWriteDisposition where
  | queued | submitted | rejected | cancelled
  deriving DecidableEq

structure PevcapWriteReceipt where
  writeId : UInt64
  disposition : PevcapWriteDisposition
  deriving DecidableEq

inductive PevcapTelemetryProvenance where
  | liveSession | replay
  deriving DecidableEq

structure PevcapSemanticTelemetry where
  observedAtMs : Option UInt64
  provenance : PevcapTelemetryProvenance
  snapshotSchemaVersion : UInt16
  libraryVersion : String
  snapshotJson : String
  deriving DecidableEq

structure PevcapPhoneLocation where
  wallClockUnixMs : UInt64
  latitudeDegrees : F64
  longitudeDegrees : F64
  altitudeMeters : F64
  horizontalAccuracyMeters : Option F64
  verticalAccuracyMeters : Option F64
  speedMetersPerSecond : Option F64
  speedAccuracyMetersPerSecond : Option F64
  courseDegrees : Option F64
  courseAccuracyDegrees : Option F64
  deriving DecidableEq

structure PevcapRecord (Telemetry : Type) where
  monotonicMs : UInt64
  direction : PevcapDirection
  characteristic : GattChannel
  service : Option GattChannel
  writeMode : Option WriteMode
  linkMaxWriteLen : Option UInt16
  target : Option RequestTarget
  writeReceipt : Option PevcapWriteReceipt
  bytes : List Byte
  telemetry : Option Telemetry
  semanticTelemetry : Option PevcapSemanticTelemetry
  phoneLocation : Option PevcapPhoneLocation
  deriving DecidableEq

inductive PevcapRecordError where
  | missingInboundService | unexpectedService | missingOutboundWriteMode | unexpectedWriteMode
  | unexpectedLinkMaxWriteLen | unexpectedTarget | unexpectedWriteReceipt | unexpectedMusic | unexpectedLinkBytes
  deriving DecidableEq

variable {Telemetry : Type}

namespace PevcapRecord

def bare (monotonicMs : UInt64) (direction : PevcapDirection) (characteristic : GattChannel) (bytes : List Byte) :
    PevcapRecord Telemetry where
  monotonicMs
  direction
  characteristic
  service := none
  writeMode := none
  linkMaxWriteLen := none
  target := none
  writeReceipt := none
  bytes
  telemetry := none
  semanticTelemetry := none
  phoneLocation := none

def linkUp (monotonicMs : UInt64) (maxWriteLen : Option UInt16) : PevcapRecord Telemetry :=
  { bare monotonicMs .linkUp 0 [] with linkMaxWriteLen := maxWriteLen }

def linkDown (monotonicMs : UInt64) : PevcapRecord Telemetry := bare monotonicMs .linkDown 0 []

end PevcapRecord

/-- The written form of a record, which may still name the prohibited music field. -/
structure PevcapRecordJson (Telemetry : Type) extends PevcapRecord Telemetry where
  musicPresent : Bool
  deriving DecidableEq

namespace PevcapRecordJson

def ofRecord (record : PevcapRecord Telemetry) : PevcapRecordJson Telemetry := { record with musicPresent := false }

def validate (json : PevcapRecordJson Telemetry) : Except PevcapRecordError Unit := do
  demand (json.musicPresent = false) .unexpectedMusic
  demand (json.writeReceipt.isSome → json.direction = .outbound) .unexpectedWriteReceipt
  match json.direction with
  | .linkUp | .linkDown =>
    demand (json.service = none) .unexpectedService
    demand (json.writeMode = none) .unexpectedWriteMode
    demand (json.target = none) .unexpectedTarget
    demand (json.bytes = []) .unexpectedLinkBytes
    demand (json.direction = .linkDown → json.linkMaxWriteLen = none) .unexpectedLinkMaxWriteLen
  | .inbound =>
    demand (json.service.isSome) .missingInboundService
    demand (json.writeMode = none) .unexpectedWriteMode
    demand (json.linkMaxWriteLen = none) .unexpectedLinkMaxWriteLen
    demand (json.target = none) .unexpectedTarget
  | .outbound =>
    demand (json.service = none) .unexpectedService
    demand (json.writeMode.isSome) .missingOutboundWriteMode
    demand (json.linkMaxWriteLen = none) .unexpectedLinkMaxWriteLen

def tryIntoRecord (json : PevcapRecordJson Telemetry) : Except PevcapRecordError (PevcapRecord Telemetry) := do
  json.validate
  return json.toPevcapRecord

end PevcapRecordJson

end Records

section Locations

inductive PevcapPhoneLocationError where
  | missingWallClockTimestamp | invalidLatitude | invalidLongitude | invalidAltitude
  deriving DecidableEq

def canonicalNonNegativeFinite (value : Option F64) : Option F64 :=
  value.filter fun value => value.isFinite && value.nonNegative

def canonicalCourse (value : Option F64) : Option F64 :=
  value.filter fun value => value.isFinite && value.nonNegative && (value.isNegative || decide (value.magnitude < F64.bits360))

namespace PevcapPhoneLocation

def canonical (location : PevcapPhoneLocation) : Except PevcapPhoneLocationError PevcapPhoneLocation := do
  demand (location.wallClockUnixMs ≠ 0) .missingWallClockTimestamp
  demand (location.latitudeDegrees.isFinite ∧ location.latitudeDegrees.magnitude ≤ F64.bits90) .invalidLatitude
  demand (location.longitudeDegrees.isFinite ∧ location.longitudeDegrees.magnitude ≤ F64.bits180) .invalidLongitude
  demand location.altitudeMeters.isFinite .invalidAltitude
  return { location with
    horizontalAccuracyMeters := canonicalNonNegativeFinite location.horizontalAccuracyMeters
    verticalAccuracyMeters := canonicalNonNegativeFinite location.verticalAccuracyMeters
    speedMetersPerSecond := canonicalNonNegativeFinite location.speedMetersPerSecond
    speedAccuracyMetersPerSecond := canonicalNonNegativeFinite location.speedAccuracyMetersPerSecond
    courseDegrees := canonicalCourse location.courseDegrees
    courseAccuracyDegrees := canonicalNonNegativeFinite location.courseAccuracyDegrees }

end PevcapPhoneLocation

/-- An independent location observation, kept as it came; its written form is the same. -/
structure PevcapLocationSample where
  receiptMonotonicMs : UInt64
  sourceMonotonicOffsetMs : Option Int
  location : PevcapPhoneLocation
  sourceTimestampUnixSeconds : Option F64
  simulated : Option Bool
  producedByAccessory : Option Bool
  deriving DecidableEq

structure PevcapLocationRejection where
  observation : PevcapLocationSample
  reason : PevcapPhoneLocationError
  deriving DecidableEq

end Locations

section Settings

def maxCaptureSettingsValues : Nat := 64
def maxCaptureSettingsObservations : Nat := 1024
def maxCaptureSettingsOffsetMilliseconds : Nat := 24 * 60 * 60 * 1000

inductive CaptureResearchProfileSelection where
  | manual | resolved
  deriving DecidableEq

structure CaptureResearchProfile where
  profileId : String
  pevCategory : Option String
  model : Option String
  firmware : Option String
  selection : CaptureResearchProfileSelection
  deriving DecidableEq

inductive CaptureObservationSource where
  | wheelDisplay | manufacturerApp | other
  deriving DecidableEq

inductive CaptureObservedValue where
  | unobserved | off
  | boolean (value : Bool)
  | entered (text : String)
  deriving DecidableEq

structure CaptureSettingObservationValue where
  settingId : String
  value : CaptureObservedValue
  unit : Option String
  note : Option String
  deriving DecidableEq

structure CaptureSettingsObservation where
  captureId : String
  profile : CaptureResearchProfile
  observedAtMs : UInt64
  recordedAtMs : UInt64
  source : CaptureObservationSource
  values : List CaptureSettingObservationValue
  note : Option String
  deriving DecidableEq

inductive CaptureSettingsObservationError where
  | blank | tooLarge | duplicateSetting | futureObservation | invalidCaptureId | timeOutOfRange
  deriving DecidableEq

def boundedText (text : String) (max : Nat) (required : Bool) : Except CaptureSettingsObservationError Unit := do
  demand (¬(required ∧ Connections.strTrim text.toList = [])) .blank
  demand (text.utf8ByteSize ≤ max) .tooLarge

namespace CaptureSettingsObservation

/-- The loop over the values, with the settings seen before. -/
def validateValues : List String → List CaptureSettingObservationValue → Except CaptureSettingsObservationError Unit
  | _, [] => .ok ()
  | seen, value :: values => do
    boundedText value.settingId 128 true
    demand (value.settingId ∉ seen) .duplicateSetting
    match value.value with
    | .entered text => boundedText text 256 true
    | .unobserved | .off | .boolean _ => pure ()
    value.unit.forM fun unit => boundedText unit 32 true
    value.note.forM fun note => boundedText note 1024 false
    validateValues (value.settingId :: seen) values

/-- `uuid` prints the identity that a text spells, if it spells one. -/
def validate (uuid : String → Option String) (observation : CaptureSettingsObservation) :
    Except CaptureSettingsObservationError Unit := do
  demand (uuid observation.captureId = some observation.captureId) .invalidCaptureId
  boundedText observation.profile.profileId 128 true
  observation.profile.pevCategory.forM fun text => boundedText text 128 true
  observation.profile.model.forM fun text => boundedText text 128 true
  observation.profile.firmware.forM fun text => boundedText text 128 true
  demand (observation.recordedAtMs.toNat ≤ maxCaptureSettingsOffsetMilliseconds) .timeOutOfRange
  demand (observation.observedAtMs ≤ observation.recordedAtMs) .futureObservation
  demand (observation.values ≠ []) .blank
  demand (observation.values.length ≤ maxCaptureSettingsValues) .tooLarge
  validateValues [] observation.values
  observation.note.forM fun note => boundedText note 1024 false

end CaptureSettingsObservation

def ensureSettingsObservationCount (count : Nat) : Except CaptureSettingsObservationError Unit :=
  demand (count ≤ maxCaptureSettingsObservations) .tooLarge

end Settings

structure PevcapCapture (Telemetry : Type) where
  version : PevcapFormatVersion
  header : PevcapHeader
  records : List (PevcapRecord Telemetry)
  locations : List PevcapLocationSample
  settingsObservations : List CaptureSettingsObservation
  deriving DecidableEq

end Cutout.Pevcap

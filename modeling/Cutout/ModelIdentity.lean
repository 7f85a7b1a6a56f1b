import Cutout.DeviceConnection
import Cutout.PhoneAlarm
import Cutout.WheelFrames

/-! Who the wheel is. Weak hints, banners and the model number of a frame are staged
against a registry of models; texts are lists of characters, read from bytes and
compared as bytes. -/

namespace Cutout.Connections
open Protocols (Byte VeteranFrame unsignedFromBe)

section Text

/-- `core::str::from_utf8`. -/
def strFromUtf8 (bytes : List Byte) : Option (List Char) := (String.fromUTF8? ⟨bytes.toArray⟩).map String.toList

/-- `str::as_bytes`. -/
def strBytes (text : List Char) : List Byte := text.flatMap String.utf8EncodeChar

def trimStartMatches (drops : Char → Bool) (text : List Char) : List Char := text.dropWhile drops

/-- `str::trim`. -/
def strTrim (text : List Char) : List Char :=
  (((text.dropWhile Core.PhoneAlarmManager.isWhitespace).reverse).dropWhile Core.PhoneAlarmManager.isWhitespace).reverse

/-- `strip_prefix`. -/
def stripStart {α : Type} [DecidableEq α] (start text : List α) : Option (List α) :=
  if start <+: text then some (text.drop start.length) else none

def toAsciiLowercase (byte : Byte) : Byte := if 0x41 ≤ byte ∧ byte ≤ 0x5a then byte + 0x20 else byte

def asciiEqIgnoreCase (left right : List Byte) : Bool := decide (left.map toAsciiLowercase = right.map toAsciiLowercase)

/-- Some window of the haystack is the needle. -/
def containsAsciiIgnoreCase (haystack needle : List Char) : Bool :=
  let haystack := strBytes haystack
  let needle := strBytes needle
  decide (needle ≠ [] ∧ needle.length ≤ haystack.length) &&
    haystack.tails.any fun window =>
      decide (needle.length ≤ window.length) && asciiEqIgnoreCase (window.take needle.length) needle

end Text

section Banners

inductive BegodeFirmwarePrefix where
  | gotway | extremeBull | freestyl3r | smirnoV
  deriving Repr, DecidableEq

inductive BegodeImuKind where
  | mpu6050 | mpu6500
  | unknown (suffix : List Char)
  deriving Repr, DecidableEq

inductive BegodeBanner where
  | firmware (family : BegodeFirmwarePrefix) (banner : List Char)
  | modelName (model : List Char)
  | imu (kind : BegodeImuKind)
  deriving Repr, DecidableEq

inductive BegodeBannerParse where
  | banner (banner : BegodeBanner)
  | empty | binaryFrame | nonAscii | unknownText
  deriving Repr, DecidableEq

def isBannerAscii (byte : Byte) : Bool :=
  decide (byte = 0x0a ∨ byte = 0x0d ∨ byte = 0x09 ∨ 0x20 ≤ byte ∧ byte ≤ 0x7e)

def parseFirmwareBanner (text : List Char) : Option BegodeBanner :=
  if ['G', 'W'] <+: text then some (.firmware .gotway text)
  else if ['J', 'N'] <+: text then some (.firmware .extremeBull text)
  else if ['C', 'F'] <+: text then some (.firmware .freestyl3r text)
  else if ['B', 'F'] <+: text then some (.firmware .smirnoV text)
  else none

def parseModelNameBanner (text : List Char) : Option BegodeBanner := do
  let rest ← stripStart ['N', 'A', 'M', 'E'] text
  let model := strTrim (trimStartMatches (fun char => decide (char ∈ [':', '=', ' ', '\t'])) rest)
  if model = [] then none else some (.modelName model)

def parseImuBanner (text : List Char) : Option BegodeBanner := do
  let rest ← stripStart ['M', 'P', 'U'] text
  let suffix := strTrim rest
  if suffix = [] then none
  else if suffix = ['6', '0', '5', '0'] then some (.imu .mpu6050)
  else if suffix = ['6', '5', '0', '0'] then some (.imu .mpu6500)
  else some (.imu (.unknown suffix))

def classifyBegodeAsciiBanner (bytes : List Byte) : BegodeBannerParse :=
  if bytes = [] then .empty
  else if [0x55, 0xaa] <+: bytes then .binaryFrame
  else if bytes.all isBannerAscii = false then .nonAscii
  else
    match strFromUtf8 bytes with
    | none => .nonAscii
    | some text =>
      let text := strTrim text
      if text = [] then .empty
      else
        match ((parseFirmwareBanner text).or (parseModelNameBanner text)).or (parseImuBanner text) with
        | some banner => .banner banner
        | none => .unknownText

/-- Raw model-banner bytes retained as provenance. -/
structure ModelBanner where
  bytes : List Byte
  deriving Repr, DecidableEq

def ModelBanner.get (banner : ModelBanner) : Option (List Char) :=
  ((strFromUtf8 banner.bytes).map strTrim).filter fun model =>
    decide (model ≠ []) && (strBytes model).all isBannerAscii

inductive IdentityBannerEvidence where
  | missing
  | model (model : List Char)
  | malformed
  deriving Repr, DecidableEq

/-- `b"NAME"`. -/
def nameStart : List Byte := [0x4e, 0x41, 0x4d, 0x45]

/-- `parse_begode_model_banner`. -/
def parseModelBanner (bytes : List Byte) : IdentityBannerEvidence :=
  match classifyBegodeAsciiBanner bytes with
  | .banner (.modelName model) => .model model
  | .nonAscii => if nameStart <+: bytes then .malformed else .missing
  | .banner (.firmware _ _) | .banner (.imu _) | .empty | .binaryFrame | .unknownText => .missing

end Banners

section Registry

abbrev GattChannel := BitVec 128

structure GattRoles where
  read : Bool := false
  write : Bool := false
  writeWithoutResponse : Bool := false
  notify : Bool := false
  indicate : Bool := false
  deriving Repr, DecidableEq

structure GattFingerprint where
  service : GattChannel
  characteristic : GattChannel
  roles : GattRoles
  deriving Repr, DecidableEq

structure ModelRegistryEntry where
  model : List Char
  protocolFamily : ProtocolFamily
  advertisedNameHints : List (List Char)
  wireModelId : Option Nat
  gatt : List GattFingerprint
  deriving Repr, DecidableEq

structure ProtocolModelIdentity where
  family : ProtocolFamily
  modelId : Nat
  deriving Repr, DecidableEq

inductive ProtocolModelIdentityEvidence where
  | missing
  | modelId (identity : ProtocolModelIdentity)
  | malformed
  deriving Repr, DecidableEq

inductive DeviceFamily where
  | nosfetAero | begodeFalcon
  deriving Repr, DecidableEq

inductive ProtocolFamilyClassification where
  | known (family : DeviceFamily)
  | pending | unknown
  deriving Repr, DecidableEq

inductive IdentityConfidence where
  | noMatch | hintsOnly | familyOnly | model
  deriving Repr, DecidableEq

inductive StagedIdentityOutcome where
  | matched | noMatch | hintsOnly | familyOnly | ambiguous | conflict | malformed
  deriving Repr, DecidableEq

/-- The bits of the evidence that contributed to a decision. -/
structure IdentityEvidence where
  advertisedNameHint : Bool := false
  gattHint : Bool := false
  passiveFamilyMatch : Bool := false
  bannerModelMatch : Bool := false
  protocolModelId : Bool := false
  deriving Repr, DecidableEq

structure StagedIdentityInput where
  advertisedName : Option (List Char)
  gatt : List GattFingerprint
  streamFamily : ProtocolFamilyClassification
  bannerModel : IdentityBannerEvidence
  protocolModel : ProtocolModelIdentityEvidence

structure StagedIdentityResolution where
  model : Option ModelRegistryEntry
  outcome : StagedIdentityOutcome
  confidence : IdentityConfidence
  evidence : IdentityEvidence
  protocolModel : ProtocolModelIdentityEvidence
  deriving Repr, DecidableEq

def StagedIdentityResolution.noMatch : StagedIdentityResolution := ⟨none, .noMatch, .noMatch, {}, .missing⟩

/-- `resolution_rank`. -/
def StagedIdentityOutcome.rank : StagedIdentityOutcome → Nat
  | noMatch => 0
  | malformed => 1
  | conflict => 2
  | hintsOnly => 3
  | familyOnly => 4
  | matched => 5
  | ambiguous => 6

/-- One turn of the loop of `best_resolution`: the best so far, and whether another ranks equally. -/
def betterResolution (best : StagedIdentityResolution × Bool) (resolution : StagedIdentityResolution) :
    StagedIdentityResolution × Bool :=
  if best.1.outcome.rank < resolution.outcome.rank then (resolution, false)
  else if resolution.outcome.rank = best.1.outcome.rank ∧ 0 < resolution.outcome.rank then (best.1, true)
  else best

def bestResolution (resolutions : List StagedIdentityResolution) : StagedIdentityResolution :=
  let (best, ambiguous) := resolutions.foldl betterResolution (.noMatch, false)
  if ambiguous then { best with model := none, outcome := .ambiguous } else best

/-- `roles_include`. -/
def GattRoles.include (observed expected : GattRoles) : Bool :=
  (!expected.read || observed.read) && (!expected.write || observed.write) &&
    (!expected.writeWithoutResponse || observed.writeWithoutResponse) && (!expected.notify || observed.notify) &&
    (!expected.indicate || observed.indicate)

def gattMatches (observed expected : List GattFingerprint) : Bool :=
  observed.any fun observed => expected.any fun expected =>
    decide (observed.service = expected.service ∧ observed.characteristic = expected.characteristic) &&
      observed.roles.include expected.roles

def modelNameMatches (name : List Char) (entry : ModelRegistryEntry) : Bool :=
  containsAsciiIgnoreCase name entry.model || entry.advertisedNameHints.any fun hint => containsAsciiIgnoreCase name hint

def protocolFamilyFromClassification : ProtocolFamilyClassification → Option ProtocolFamily
  | .known .nosfetAero => some .veteranLeaperkimNosfet
  | .known .begodeFalcon => some .begodeGotway
  | .pending | .unknown => none

section Identify
variable (input : StagedIdentityInput) (registry : List ModelRegistryEntry)

def candidateHints (entry : ModelRegistryEntry) : IdentityEvidence where
  advertisedNameHint := input.advertisedName.any fun name => modelNameMatches name entry
  gattHint := gattMatches input.gatt entry.gatt

/-- All candidates have one confidence, and `max_by_key` takes the last of them. -/
def hintsOnlyResolution : StagedIdentityResolution :=
  let hinted := registry.map fun entry =>
    ({ model := none, outcome := .hintsOnly, confidence := .hintsOnly, evidence := candidateHints input entry
       protocolModel := input.protocolModel } : StagedIdentityResolution)
  (hinted.filter fun resolution => decide (resolution.evidence ≠ {})).getLast?.getD .noMatch

def familyResolution (entry : ModelRegistryEntry) : StagedIdentityResolution :=
  let evidence := { candidateHints input entry with passiveFamilyMatch := true }
  match input.bannerModel with
  | .model model =>
    if modelNameMatches model entry then
      ⟨some entry, .matched, .model, { evidence with bannerModelMatch := true }, input.protocolModel⟩
    else ⟨none, .conflict, .noMatch, evidence, input.protocolModel⟩
  | .malformed => ⟨none, .malformed, .noMatch, evidence, input.protocolModel⟩
  | .missing => ⟨none, .familyOnly, .familyOnly, evidence, input.protocolModel⟩

def protocolModelResolution : Option StagedIdentityResolution :=
  match input.protocolModel with
  | .missing => none
  | .malformed => some ⟨none, .malformed, .noMatch, { protocolModelId := true }, input.protocolModel⟩
  | .modelId identity =>
    let candidates := registry.filter fun entry =>
      decide (entry.protocolFamily = identity.family ∧ entry.wireModelId = some identity.modelId)
    let resolution := bestResolution (candidates.map fun entry =>
      ⟨some entry, .matched, .model,
        { candidateHints input entry with passiveFamilyMatch := true, protocolModelId := true }, input.protocolModel⟩)
    if resolution.outcome = .noMatch then
      some ⟨none, .familyOnly, .familyOnly, { passiveFamilyMatch := true, protocolModelId := true }, input.protocolModel⟩
    else some resolution

/-- `identify_model`; `identify_known_model` is this at the registry the build generates. -/
def identifyModel : StagedIdentityResolution :=
  match protocolModelResolution input registry with
  | some resolution => resolution
  | none =>
    match protocolFamilyFromClassification input.streamFamily with
    | none => hintsOnlyResolution input registry
    | some family =>
      bestResolution ((registry.filter fun entry => decide (entry.protocolFamily = family)).map (familyResolution input))

end Identify

section ModelNumbers
variable (registry : List ModelRegistryEntry)

def veteranModelIdIsKnown (modelId : Nat) : Bool :=
  (identifyModel ⟨none, [], .pending, .missing, .modelId ⟨.veteranLeaperkimNosfet, modelId⟩⟩ registry).model.isSome

/-- Of two different numbers a known one stands against an unknown one. -/
def mergeProtocolModelEvidence (current observed : ProtocolModelIdentityEvidence) : ProtocolModelIdentityEvidence :=
  match current, observed with
  | .missing, observed => observed
  | observed, .missing => observed
  | .malformed, _ | _, .malformed => .malformed
  | .modelId current, .modelId observed =>
    if current = observed then .modelId current
    else
      match veteranModelIdIsKnown registry current.modelId, veteranModelIdIsKnown registry observed.modelId with
      | true, false => .modelId current
      | false, true => .modelId observed
      | _, _ => .malformed

end ModelNumbers

/-- The model number that a Veteran frame carries: `VeteranTelemetry::decode`, whose last field ends at byte 36, and the
thousands of the firmware word. -/
def veteranProtocolModel (frame : VeteranFrame) : ProtocolModelIdentityEvidence :=
  if frame.bytes.length < 36 then .missing
  else .modelId ⟨.veteranLeaperkimNosfet, unsignedFromBe ((frame.bytes.drop 28).take 2) / 1000⟩

end Registry

end Cutout.Connections

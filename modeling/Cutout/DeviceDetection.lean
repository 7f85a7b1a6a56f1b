import Cutout.ModelIdentity
import Cutout.VescStream

/-! The incremental detection of a device. Notifications feed three parsers side by side;
what they complete is folded into the protocol family of the identity, next to banners,
hints and the probes that are still waiting for an answer. Times are milliseconds. -/

namespace Cutout.Connections
open Protocols (Byte VeteranFrame VeteranFrameReassembler VeteranFrameParseResult BegodeFrame BegodeFrameReassembler
  BegodeFrameParseResult VescReadOnlyStreamDecoder VescCrate feedReplies saturatingAdd)

/-- `SHARED_FFE0_SERVICE_CHANNEL`, also the UUID of `EUC_SERIAL_FFE0`. -/
def begodeServiceChannel : GattChannel := 0x0000ffe000001000800000805f9b34fb

inductive PendingProbe where
  | begodeName | begodeFirmware | begodeImu
  deriving Repr, DecidableEq

def PendingProbe.all : List PendingProbe := [.begodeName, .begodeFirmware, .begodeImu]

structure EncodedIdentificationProbe where
  probe : PendingProbe
  payload : List Byte
  deriving Repr, DecidableEq

/-- The ordered queries `N`, `V` and `M`. -/
def begodeIdentificationProbes : List EncodedIdentificationProbe :=
  [⟨.begodeName, [0x4e]⟩, ⟨.begodeFirmware, [0x56]⟩, ⟨.begodeImu, [0x4d]⟩]

inductive ProtocolFamilyState where
  | unknown | veteranLeaperkimNosfet | begodeGotway | vesc | conflict
  deriving Repr, DecidableEq

namespace ProtocolFamilyState

def mergeObserved (current observed : ProtocolFamilyState) : ProtocolFamilyState :=
  match current, observed with
  | conflict, _ | _, conflict => conflict
  | current, unknown => current
  | unknown, observed => observed
  | current, observed => if current = observed then current else conflict

def intoClassification : ProtocolFamilyState → ProtocolFamilyClassification
  | veteranLeaperkimNosfet => .known .nosfetAero
  | begodeGotway => .known .begodeFalcon
  | unknown | conflict | vesc => .pending

end ProtocolFamilyState

structure DiscoveryObservation where
  platformIdentifier : String
  advertisedServiceUuids : List GattChannel
  deriving Repr, DecidableEq

structure DiscoveryState where
  observations : List DiscoveryObservation := []
  selectedPlatformIdentifier : Option String := none
  deriving Repr, DecidableEq

structure DeviceIdentityState where
  protocolFamily : Option ProtocolFamily := none
  model : Option (List Char) := none
  discovery : DiscoveryState := {}
  advertisedName : Option (List Byte) := none
  gatt : List GattFingerprint := []
  modelBanner : Option ModelBanner := none
  firmwareBanner : Option (List Byte) := none
  imuBanner : Option (List Byte) := none
  protocolModel : ProtocolModelIdentityEvidence := .missing
  protocolConflict : Bool := false
  pendingProbeStartedAt : PendingProbe → Option Nat := fun _ => none
  missingProbeResponse : Option PendingProbe := none
  malformedProbeResponse : Option PendingProbe := none

namespace DeviceIdentityState
variable (identity : DeviceIdentityState)

def setPending (probe : PendingProbe) (startedAt : Option Nat) : DeviceIdentityState :=
  { identity with
    pendingProbeStartedAt := fun other => if other = probe then startedAt else identity.pendingProbeStartedAt other }

def retirePendingProbes : DeviceIdentityState :=
  { identity with pendingProbeStartedAt := fun _ => none, missingProbeResponse := none, malformedProbeResponse := none }

/-- A probe that already waits keeps its time. -/
def observeProbeWrite (probe : PendingProbe) (startedAt : Nat) : DeviceIdentityState :=
  identity.setPending probe (some ((identity.pendingProbeStartedAt probe).getD startedAt))

def observeProbeResponse (probe : PendingProbe) : DeviceIdentityState := identity.setPending probe none

def observeProbeTimeout (probe : PendingProbe) : DeviceIdentityState × Bool :=
  match identity.pendingProbeStartedAt probe with
  | none => (identity, false)
  | some _ => ({ identity.setPending probe none with missingProbeResponse := some probe }, true)

/-- The probes of a list that a time bound has passed are marked missing. -/
def expireProbes (expires : Nat → Bool) : DeviceIdentityState → List PendingProbe →
    DeviceIdentityState × List PendingProbe
  | identity, [] => (identity, [])
  | identity, probe :: later =>
    match identity.pendingProbeStartedAt probe with
    | none => expireProbes expires identity later
    | some startedAt =>
      if expires startedAt then
        let (final, expired) := expireProbes expires (identity.observeProbeTimeout probe).1 later
        (final, probe :: expired)
      else expireProbes expires identity later

def expirePendingProbes (now timeout : Nat) : DeviceIdentityState × List PendingProbe :=
  expireProbes (fun startedAt => decide (timeout < now - startedAt)) identity PendingProbe.all

def markPendingProbesMissing : DeviceIdentityState × List PendingProbe := expireProbes (fun _ => true) identity PendingProbe.all

def nextProbeExpiry (timeout : Nat) : Option Nat :=
  ((PendingProbe.all.filterMap identity.pendingProbeStartedAt).map fun startedAt =>
    saturatingAdd startedAt (saturatingAdd timeout 1)).min?

end DeviceIdentityState

structure DeviceDetectionResolution where
  staged : StagedIdentityResolution
  protocol : ProtocolFamilyState
  advertisedName : Option (List Byte)
  modelBanner : Option ModelBanner
  firmwareBanner : Option (List Byte)
  imuBanner : Option (List Byte)
  missingProbeResponse : Option PendingProbe
  malformedProbeResponse : Option PendingProbe

inductive DeviceDetectionEvent where
  | advertisement (name : Option (List Byte))
  | gatt (gatt : List GattFingerprint)
  | notification (bytes : List Byte)
  | probeWrite (probe : PendingProbe)
  | probeTimeout (probe : PendingProbe)

inductive IdentificationProbePlan where
  | unsupported | alreadyPending
  | writes (probe : EncodedIdentificationProbe)
  deriving Repr, DecidableEq

structure NotificationDecision where
  protocol : ProtocolFamilyState
  bannerModel : IdentityBannerEvidence
  protocolModel : ProtocolModelIdentityEvidence
  firmwareBanner : Bool
  imuBanner : Bool
  malformedProbe : Option PendingProbe

def protocolState (protocolFamily : Option ProtocolFamily) (protocolConflict : Bool) : ProtocolFamilyState :=
  if protocolConflict then .conflict
  else
    match protocolFamily with
    | some .veteranLeaperkimNosfet => .veteranLeaperkimNosfet
    | some .begodeGotway => .begodeGotway
    | some .vesc => .vesc
    | none => .unknown

def modelBannerBytes (bytes : List Byte) : List Byte :=
  ((stripStart (nameStart ++ [0x3d]) bytes).or (stripStart (nameStart ++ [0x3a]) bytes)).getD bytes

section Decision

/-- What the bytes say when they are read as a whole. -/
def NotificationDecision.fromBytes (currentProtocol : ProtocolFamilyState) (bytes : List Byte) (vescReply : Bool) :
    NotificationDecision :=
  let banner := classifyBegodeAsciiBanner bytes
  let bannerModel :=
    match banner with
    | .banner (.modelName _) => parseModelBanner bytes
    | .nonAscii => if nameStart <+: bytes then parseModelBanner bytes else .missing
    | .banner (.firmware _ _) | .banner (.imu _) | .empty | .binaryFrame | .unknownText => .missing
  let firmwareBanner :=
    match banner with
    | .banner (.firmware _ _) => true
    | _ => false
  let imuBanner :=
    match banner with
    | .banner (.imu _) => true
    | _ => false
  let malformedProbe := if bannerModel = .malformed then some .begodeName else none
  let (observedProtocol, protocolModel) :=
    match VeteranFrame.tryFromSlice bytes with
    | .ok frame => (ProtocolFamilyState.veteranLeaperkimNosfet, veteranProtocolModel frame)
    | .error _ =>
      match BegodeFrame.tryFromSlice bytes with
      | .ok _ => (.begodeGotway, .missing)
      | .error _ => if vescReply then (.vesc, .missing) else (.unknown, .missing)
  let protocol := currentProtocol.mergeObserved observedProtocol
  { protocol, bannerModel, firmwareBanner, imuBanner, malformedProbe
    protocolModel := if protocol = .conflict then .missing else protocolModel }

def NotificationDecision.bannerModelUpdate (decision : NotificationDecision) : Option IdentityBannerEvidence :=
  match decision.bannerModel with
  | .missing => none
  | .model _ | .malformed => some decision.bannerModel

end Decision

section Resolution
variable (registry : List ModelRegistryEntry)

def resolveStagedIdentity (protocol : ProtocolFamilyState) (input : StagedIdentityInput) : StagedIdentityResolution :=
  match protocol with
  | .conflict => ⟨none, .conflict, .noMatch, { passiveFamilyMatch := true }, .missing⟩
  | .unknown | .veteranLeaperkimNosfet | .begodeGotway | .vesc => identifyModel input registry

def DeviceIdentityState.keptBanner (identity : DeviceIdentityState) : IdentityBannerEvidence :=
  match identity.modelBanner.bind ModelBanner.get with
  | some model => .model model
  | none => .missing

def DeviceIdentityState.resolution (identity : DeviceIdentityState) : DeviceDetectionResolution :=
  let protocol := protocolState identity.protocolFamily identity.protocolConflict
  { staged := resolveStagedIdentity registry protocol
      { advertisedName := identity.advertisedName.bind strFromUtf8
        gatt := identity.gatt
        streamFamily := protocol.intoClassification
        bannerModel := identity.keptBanner
        protocolModel := identity.protocolModel }
    protocol
    advertisedName := identity.advertisedName
    modelBanner := identity.modelBanner
    firmwareBanner := identity.firmwareBanner
    imuBanner := identity.imuBanner
    missingProbeResponse := identity.missingProbeResponse
    malformedProbeResponse := identity.malformedProbeResponse }

def DeviceIdentityState.refreshResolution (identity : DeviceIdentityState) (bannerModel : Option IdentityBannerEvidence)
    (protocolModel : Option ProtocolModelIdentityEvidence) (protocol : ProtocolFamilyState) : DeviceIdentityState :=
  let bannerModel := bannerModel.getD identity.keptBanner
  let protocolModel := protocolModel.getD identity.protocolModel
  let staged := resolveStagedIdentity registry protocol
    { advertisedName := identity.advertisedName.bind strFromUtf8
      gatt := identity.gatt
      streamFamily := protocol.intoClassification
      bannerModel
      protocolModel }
  { identity with
    protocolConflict := decide (protocol = .conflict)
    protocolFamily :=
      match protocol with
      | .veteranLeaperkimNosfet => some .veteranLeaperkimNosfet
      | .begodeGotway => some .begodeGotway
      | .vesc => some .vesc
      | .unknown | .conflict => none
    protocolModel
    model := staged.model.map ModelRegistryEntry.model
    modelBanner :=
      match bannerModel with
      | .model model => some ⟨strBytes model⟩
      | .missing => identity.modelBanner
      | .malformed => none }

end Resolution

/-- The detection session and the identity it contributes to. -/
structure DeviceDetection where
  begodeReassembler : BegodeFrameReassembler := {}
  veteranReassembler : VeteranFrameReassembler := {}
  vescDecoder : VescReadOnlyStreamDecoder := .new
  nextBegodeQuery : Nat := 0
  identity : DeviceIdentityState := {}

/-- The last frames that the bytes so far completed, and the model numbers of the Veteran ones. -/
structure ObservedFrames where
  veteranFrame : Option VeteranFrame := none
  begodeFrame : Option BegodeFrame := none
  veteranProtocolModel : ProtocolModelIdentityEvidence := .missing

/-- The families of what was completed, merged into the current one. -/
def ObservedFrames.protocol (observed : ObservedFrames) (vescReply : Bool) (current : ProtocolFamilyState) :
    ProtocolFamilyState :=
  [observed.veteranFrame.map fun _ => ProtocolFamilyState.veteranLeaperkimNosfet,
    observed.begodeFrame.map fun _ => ProtocolFamilyState.begodeGotway,
    if vescReply then some ProtocolFamilyState.vesc else none].reduceOption.foldl
      ProtocolFamilyState.mergeObserved current

/-- The bytes a notification is read as: the last frame it completed, else all of it. -/
def ObservedFrames.evidence (observed : ObservedFrames) (bytes : List Byte) : List Byte :=
  match observed.veteranFrame, observed.begodeFrame with
  | some frame, _ => frame.bytes
  | none, some frame => frame.bytes
  | none, none => bytes

namespace DeviceDetection
variable (vesc : VescCrate) (registry : List ModelRegistryEntry)

/-- One turn of the byte loop of `observe_notification`; parser errors are passed over. -/
def observeByte (detection : DeviceDetection × ObservedFrames) (byte : Byte) : DeviceDetection × ObservedFrames :=
  let (veteranReassembler, veteran) := detection.1.veteranReassembler.feedByteResult byte
  let (begodeReassembler, begode) := detection.1.begodeReassembler.feedByteResult byte
  let observed := detection.2
  let observed :=
    match veteran with
    | .ok (.complete frame) =>
      { observed with
        veteranProtocolModel := mergeProtocolModelEvidence registry observed.veteranProtocolModel (veteranProtocolModel frame)
        veteranFrame := some frame }
    | _ => observed
  let observed :=
    match begode with
    | .ok (.complete frame) => { observed with begodeFrame := some frame }
    | _ => observed
  ({ detection.1 with veteranReassembler, begodeReassembler }, observed)

/-- The probes that a decision answers, with what it says of missing and malformed responses. -/
def answerProbes (identity : DeviceIdentityState) (decision : NotificationDecision) : DeviceIdentityState :=
  let modelResponse := decide (decision.bannerModel ≠ .missing)
  let answered := if modelResponse then identity.observeProbeResponse .begodeName else identity
  let answered := if decision.firmwareBanner then answered.observeProbeResponse .begodeFirmware else answered
  let answered := if decision.imuBanner then answered.observeProbeResponse .begodeImu else answered
  { answered with
    missingProbeResponse :=
      if modelResponse || decision.firmwareBanner || decision.imuBanner then none else answered.missingProbeResponse
    malformedProbeResponse :=
      match decision.bannerModel with
      | .malformed => decision.malformedProbe
      | .model _ => none
      | .missing => answered.malformedProbeResponse }

/-- The banner a decision puts in the place of the kept one; a malformed banner does not unseat a model. -/
def bannerModelUpdate (decision : NotificationDecision) (current : DeviceDetectionResolution) :
    Option IdentityBannerEvidence :=
  if decision.bannerModel = .malformed ∧ current.staged.model.isSome = true then none else decision.bannerModelUpdate

/-- The model number a decision puts in the place of the kept one: none without evidence, unless the family changed. -/
def protocolModelUpdate (decision : NotificationDecision) (current : ProtocolFamilyState) :
    Option ProtocolModelIdentityEvidence :=
  if decision.protocolModel = .missing then if decision.protocol = current then none else some .missing
  else some decision.protocolModel

def applyNotificationDecision (identity : DeviceIdentityState) (bytes : List Byte) (current : DeviceDetectionResolution)
    (decision : NotificationDecision) : DeviceIdentityState :=
  let malformed := decide (decision.bannerModel = .malformed)
  let refreshed := (answerProbes identity decision).refreshResolution registry (bannerModelUpdate decision current)
    (protocolModelUpdate decision current.protocol) decision.protocol
  { refreshed with
    modelBanner :=
      if malformed && current.staged.model.isNone then some ⟨modelBannerBytes bytes⟩ else refreshed.modelBanner
    firmwareBanner := if decision.firmwareBanner then some bytes else refreshed.firmwareBanner
    imuBanner := if decision.imuBanner then some bytes else refreshed.imuBanner }

def observeNotification (detection : DeviceDetection) (bytes : List Byte) (current : DeviceDetectionResolution) :
    DeviceDetection :=
  let (fed, observed) := bytes.foldl (observeByte registry) (detection, {})
  let (vescDecoder, result) := fed.vescDecoder.feedResult vesc bytes
  let vescReply := decide (feedReplies result ≠ [])
  let evidence := observed.evidence bytes
  let observedProtocol := observed.protocol vescReply current.protocol
  let identity :=
    if observedProtocol ∈ [.veteranLeaperkimNosfet, .vesc, .conflict] then fed.identity.retirePendingProbes
    else fed.identity
  let decision := NotificationDecision.fromBytes current.protocol evidence vescReply
  let decision : NotificationDecision :=
    { decision with
      protocol := observedProtocol
      protocolModel :=
        if observedProtocol = .conflict then .missing
        else if observed.veteranProtocolModel ≠ .missing then observed.veteranProtocolModel
        else decision.protocolModel }
  { fed with vescDecoder, identity := applyNotificationDecision registry identity evidence current decision }

/-- A query that was written is not planned again. -/
def observeProbeWriteAt (detection : DeviceDetection) (probe : PendingProbe) (startedAt : Nat) : DeviceDetection :=
  let nextBegodeQuery :=
    match begodeIdentificationProbes.findIdx? fun candidate => decide (candidate.probe = probe) with
    | some index => max detection.nextBegodeQuery (index + 1)
    | none => detection.nextBegodeQuery
  { detection with nextBegodeQuery, identity := detection.identity.observeProbeWrite probe startedAt }

def observe (detection : DeviceDetection) (event : DeviceDetectionEvent) : DeviceDetection :=
  let current := detection.identity.resolution registry
  match event with
  | .advertisement name =>
    { detection with
      identity := ({ detection.identity with advertisedName := name }).refreshResolution registry none none current.protocol }
  | .gatt gatt =>
    { detection with
      identity := ({ detection.identity with gatt }).refreshResolution registry none none current.protocol }
  | .notification bytes => detection.observeNotification vesc registry bytes current
  | .probeWrite probe => detection.observeProbeWriteAt probe 0
  | .probeTimeout probe => { detection with identity := (detection.identity.observeProbeTimeout probe).1 }

/-- The selected device is known to serve the queries, where one is selected. -/
def supportsQueries (identity : DeviceIdentityState) : Bool :=
  match identity.discovery.selectedPlatformIdentifier with
  | none => true
  | some selected =>
    (identity.discovery.observations.any fun observation =>
      decide (observation.platformIdentifier = selected ∧ begodeServiceChannel ∈ observation.advertisedServiceUuids)) ||
      identity.gatt.any fun gatt => decide (gatt.service = begodeServiceChannel)

def beginIdentificationProbes (detection : DeviceDetection) (time : Nat) : DeviceDetection × IdentificationProbePlan :=
  if (detection.identity.resolution registry).protocol ≠ .begodeGotway then (detection, .unsupported)
  else if supportsQueries detection.identity = false then (detection, .unsupported)
  else if (detection.identity.nextProbeExpiry 0).isSome then (detection, .alreadyPending)
  else
    match begodeIdentificationProbes[detection.nextBegodeQuery]? with
    | none => (detection, .unsupported)
    | some probe => (detection.observeProbeWriteAt probe.probe time, .writes probe)

end DeviceDetection

inductive DetectionCall where
  | observe (event : DeviceDetectionEvent)
  | beginIdentificationProbes (time : Nat)
  | observeProbeWriteAt (probe : PendingProbe) (startedAt : Nat)
  | expirePendingProbes (now timeout : Nat)
  | markPendingProbesMissing

inductive DetectionReply where
  | resolution (resolution : DeviceDetectionResolution)
  | plan (plan : IdentificationProbePlan)
  | probes (probes : List PendingProbe)

namespace DeviceDetection
variable (vesc : VescCrate) (registry : List ModelRegistryEntry)

def step (detection : DeviceDetection) : DetectionCall → DeviceDetection × DetectionReply
  | .observe event =>
    let after := detection.observe vesc registry event
    (after, .resolution (after.identity.resolution registry))
  | .beginIdentificationProbes time =>
    let (after, plan) := detection.beginIdentificationProbes registry time
    (after, .plan plan)
  | .observeProbeWriteAt probe startedAt =>
    let after := detection.observeProbeWriteAt probe startedAt
    (after, .resolution (after.identity.resolution registry))
  | .expirePendingProbes now timeout =>
    let (identity, expired) := detection.identity.expirePendingProbes now timeout
    ({ detection with identity }, .probes expired)
  | .markPendingProbesMissing =>
    let (identity, missing) := detection.identity.markPendingProbesMissing
    ({ detection with identity }, .probes missing)

end DeviceDetection

end Cutout.Connections

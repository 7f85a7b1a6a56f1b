import Cutout.VescStream
import Cutout.RefloatSettings
import Cutout.ApplicationQuery

/-! The notification decoder of a VESC controller. Bytes are routed between the
generic reply stream and the Refloat package stream; replies update the
controller evidence; polling emits the read requests. -/

namespace Cutout.Protocols
open Library.BinaryFloat

def maxVescNotificationBatchBytes : Nat := vescMaxFrameLen * 16
def maxVescNotificationDispatches : Nat := maxVescNotificationBatchBytes
def maxTransportWriteLen : Nat := 512
def genericPrefixCapacity : Nat := 4

/-- The speed part of `VescBoardProfile`; voltage curves and capacity only feed displays. -/
structure VescBoardProfile where
  motorPolePairs : Nat
  gearRatioDenominator : Nat
  wheelCircumference : Nat
  calculatesSpeed : Bool
  deriving Repr, DecidableEq

namespace VescBoardProfile

def withoutGeometry : VescBoardProfile := ⟨0, 0, 0, false⟩

def withSpeedGeometry (_ : VescBoardProfile) (geometry : VescSpeedGeometry) : VescBoardProfile :=
  ⟨geometry.motorPolePairs, geometry.gearRatioDenominator, geometry.wheelCircumference, true⟩

def fromSpeedGeometry (geometry : VescSpeedGeometry) : VescBoardProfile :=
  ⟨geometry.motorPolePairs, geometry.gearRatioDenominator, geometry.wheelCircumference, true⟩

def fromMotorConfig (config : VescMotorConfig) : VescBoardProfile :=
  match config.speedGeometry with
  | some geometry => fromSpeedGeometry geometry
  | none => withoutGeometry

def speedGeometry (profile : VescBoardProfile) : Option VescSpeedGeometry :=
  if profile.calculatesSpeed then
    VescSpeedGeometry.new profile.motorPolePairs profile.gearRatioDenominator profile.wheelCircumference
  else none

/-- Nearest millimetre per second, ties away from zero. -/
def speedFromErpm (profile : VescBoardProfile) (erpm : Int) : Option Int := do
  let geometry ← profile.speedGeometry
  let denominator : Int := geometry.motorPolePairs * geometry.gearRatioDenominator * 60
  let numerator : Int := erpm * geometry.wheelCircumference * 1000
  let rounded :=
    if 0 ≤ numerator then Int.tdiv (numerator + Int.tdiv denominator 2) denominator
    else Int.tdiv (numerator - Int.tdiv denominator 2) denominator
  if i32Min ≤ rounded ∧ rounded ≤ i32Max then some rounded else none

end VescBoardProfile

inductive RideOperatingState where
  | unknown | parked | standing | riding | charging
  deriving Repr, DecidableEq

inductive RideOperatingMode where
  | normal | handtest | flywheel | darkride | unknown
  deriving Repr, DecidableEq

/-- The part of a telemetry delta that settings authorization reads. -/
structure TelemetryDelta where
  time : Nat
  speed : Option Int := none
  operatingState : Option RideOperatingState := none
  operatingMode : Option RideOperatingMode := none
  deriving Repr, DecidableEq

inductive NotificationIngestOutcome where
  | semanticEvents | bufferedFragment | parserDiagnostic (error : ParserError)
  deriving Repr, DecidableEq

/-- What the decoder hands on. A decoded reply stands for the response event it is rendered into. Package
announcements are rendered into nothing; they are listed so that a run can be asked for them. -/
inductive SessionOutput where
  | reply (reply : VescReadOnlyReply)
  | package (info : RefloatInfo)
  | telemetry (delta : TelemetryDelta)
  | parserError (error : ParserError)
  | notificationIngest (outcome : NotificationIngestOutcome) (byteLen : Nat)
  | write (bytes : List Byte) (applicationQuery : Option ApplicationQueryWrite)
  deriving Repr, DecidableEq

def refloatOperatingState (packageState : Nat) (charging : Bool) : RideOperatingState :=
  if charging then .charging
  else if packageState = 2 then .parked else if packageState = 3 then .riding else .unknown

def refloatOperatingMode (packageMode : Nat) (darkride : Bool) : RideOperatingMode :=
  if darkride then .darkride
  else if packageMode = 0 then .normal else if packageMode = 1 then .handtest
  else if packageMode = 2 then .flywheel else .unknown

/-- `RefloatRealtimeData::to_delta`; the package reports kilometres per hour. -/
def RefloatRealtimeData.toDelta (data : RefloatRealtimeData) (time : Nat) : TelemetryDelta :=
  let value (id : String) : Option Value := ((data.values ++ data.runtimeValues).find? fun entry => entry.1 = id).map Prod.snd
  { time
    speed := ((value "speed").or (value "motor.speed")).map fun kilometresPerHour =>
      roundF32ToI32 (thousandfold (binary32.divBy kilometresPerHour (binary32.nearest (18 / 5))))
    operatingState := some (refloatOperatingState data.packageState data.charging)
    operatingMode := some (refloatOperatingMode data.packageMode data.darkride) }

def vescValuesToDelta (values : VescValuesTelemetry) (time : Nat) (profile : Option VescBoardProfile) :
    TelemetryDelta :=
  { time
    speed := if VescValuesMask.contains values.presentFields .rpm then
        profile.bind fun profile => profile.speedFromErpm values.rpm
      else none }

inductive VescReadOnlyRequest where
  | firmwareVersion | firmwareInfo | values | motorConfig | motorSetupConfig
  | valuesSelective (mask : VescValuesMask)
  | stats (mask : VescStatsMask)
  | refloat (request : RefloatReadOnlyRequest)
  deriving Repr, DecidableEq

/-- A one-byte command in a short frame. -/
def encodeRawCommand (commandId : Byte) : List Byte :=
  [vescFrameStartShort, 1, commandId] ++ u16ToBe (crc16Xmodem [commandId]) ++ [vescFrameEnd]

/-- `VescReadOnlyCodec::encode_request`; CAN forwarding is not used by any session. -/
def VescCrate.encodeRequest (vesc : VescCrate) : VescReadOnlyRequest → Option (List Byte)
  | .firmwareVersion => vesc.encode .fwVersion
  | .firmwareInfo => vesc.encode .fwInfo
  | .values => vesc.encode .getValues
  | .valuesSelective mask => vesc.encode (.getValuesSelective mask)
  | .stats mask => vesc.encode (.getStats mask)
  | .motorConfig => some (encodeRawCommand 14)
  | .motorSetupConfig => some (encodeRawCommand 91)
  | .refloat request => (encodeRefloatRequest request).toOption

/-- `push_vesc_read_request`: nothing is written when the request does not encode. The poll that
starts a discovery tags its write with the query. -/
def VescCrate.readRequest (vesc : VescCrate) (request : VescReadOnlyRequest)
    (query : Option ApplicationQueryWrite) : List SessionOutput :=
  match vesc.encodeRequest request with
  | some bytes => if bytes.length ≤ maxTransportWriteLen then [.write bytes query] else []
  | none => []

structure VescNotificationDecoder where
  stream : VescReadOnlyStreamDecoder := .new
  refloatStream : RefloatStreamDecoder := {}
  configuredBoardProfile : Option VescBoardProfile := none
  userDrivetrain : Option VescSpeedGeometry := none
  learnedBoardProfile : Option VescBoardProfile := none
  lastPollMs : Option Nat := none
  nowMs : Nat := 0
  polling : Bool := false
  motorConfigReceived : Bool := false
  refloatDiscovery : RefloatDiscovery := {}
  lastApplicationQueryId : Nat := 0
  refloatPackage : Option RefloatInfo := none
  refloatConfig : Option (RefloatSettings × Nat) := none
  refloatConfigGeneration : Nat := 0
  motorSettings : Option (VescConfiguration × Nat) := none
  appSettings : Option (VescConfiguration × Nat) := none
  motorSettingsGeneration : Nat := 0
  appSettingsGeneration : Nat := 0
  firmwareVersion : Option (Byte × Byte) := none
  controllerId : Option Byte := none
  refloatStreamPending : Bool := false
  genericStreamPending : Bool := false
  genericPrefix : List Byte := []
  deriving DecidableEq

namespace VescNotificationDecoder

/-- User geometry counts only once the application is known to be absent. -/
def boardProfile (decoder : VescNotificationDecoder) : Option VescBoardProfile :=
  let reported := decoder.configuredBoardProfile.or decoder.learnedBoardProfile
  match decoder.refloatDiscovery.application, decoder.userDrivetrain with
  | .absent, some geometry => some ((reported.getD .withoutGeometry).withSpeedGeometry geometry)
  | _, _ => reported

def setQuery (decoder : VescNotificationDecoder) (query : ApplicationQueryProgress) : VescNotificationDecoder :=
  { decoder with refloatDiscovery := { decoder.refloatDiscovery with query } }

def advanceApplicationQueryDeadlines (decoder : VescNotificationDecoder) (time : Nat) : VescNotificationDecoder :=
  decoder.setQuery (decoder.refloatDiscovery.query.advanceDeadlines time)

def observeHostTime (decoder : VescNotificationDecoder) (time : Nat) : VescNotificationDecoder :=
  { decoder with nowMs := time }.advanceApplicationQueryDeadlines time

def recordApplicationQueryTransport (decoder : VescNotificationDecoder) (id index count : Nat)
    (status : ApplicationQueryTransportStatus) (time : Nat) : VescNotificationDecoder × Bool :=
  let (query, changed) := decoder.refloatDiscovery.query.recordTransport id index count status time
  (decoder.setQuery query, changed)

/-- Board facts and the last query identity outlive the link. -/
def reset (decoder : VescNotificationDecoder) : VescNotificationDecoder :=
  { configuredBoardProfile := decoder.configuredBoardProfile
    userDrivetrain := decoder.userDrivetrain
    learnedBoardProfile := decoder.learnedBoardProfile
    lastApplicationQueryId := decoder.lastApplicationQueryId }

/-- `retire_application_query_for_identity_replacement`. -/
def retireApplicationQuery (decoder : VescNotificationDecoder) : VescNotificationDecoder :=
  { decoder with
    refloatStream := {}
    refloatStreamPending := false
    refloatDiscovery := { observed := none, query := decoder.refloatDiscovery.query.retire } }

def dropIdentityEvidence (decoder : VescNotificationDecoder) : VescNotificationDecoder :=
  { decoder with
    refloatPackage := none
    refloatConfig := none
    motorSettings := none
    appSettings := none }.retireApplicationQuery

def observeFirmware (decoder : VescNotificationDecoder) (version : Byte × Byte) : VescNotificationDecoder :=
  let replaced := decoder.firmwareVersion ≠ none ∧ decoder.firmwareVersion ≠ some version
  { (if replaced then decoder.dropIdentityEvidence else decoder) with firmwareVersion := some version }

def observeController (decoder : VescNotificationDecoder) (id : Byte) : VescNotificationDecoder :=
  let replaced := decoder.controllerId ≠ none ∧ decoder.controllerId ≠ some id
  { (if replaced then
      { decoder.dropIdentityEvidence with learnedBoardProfile := none, motorConfigReceived := false }
     else decoder) with controllerId := some id }

def learnBoardProfile (decoder : VescNotificationDecoder) (profile : VescBoardProfile) : VescNotificationDecoder :=
  { decoder with
    motorConfigReceived := true
    learnedBoardProfile := if decoder.configuredBoardProfile = none then some profile else decoder.learnedBoardProfile }

def observeVescReply (decoder : VescNotificationDecoder) (reply : VescReadOnlyReply) (time : Nat) :
    VescNotificationDecoder :=
  match reply with
  | .motorConfig config =>
    { decoder with
      motorSettingsGeneration := saturatingAdd decoder.motorSettingsGeneration 1
      motorSettings := (VescConfiguration.decode .motor config.serialized).toOption.map (·, time)
      }.learnBoardProfile (.fromMotorConfig config)
  | .motorSetupConfig geometry => decoder.learnBoardProfile (.fromSpeedGeometry geometry)
  | .firmwareInfo major minor _ _ _ => decoder.observeFirmware (major, minor)
  | .values values =>
    if VescValuesMask.contains values.presentFields .controllerId then decoder.observeController values.controllerId
    else decoder
  | .appConfig bytes =>
    { decoder with
      appSettingsGeneration := saturatingAdd decoder.appSettingsGeneration 1
      appSettings := (VescConfiguration.decode .app bytes).toOption.map (·, time) }
  | .customConfig index bytes =>
    if index = 0 then
      { decoder with
        refloatConfigGeneration := saturatingAdd decoder.refloatConfigGeneration 1
        refloatConfig := (RefloatSettings.decode bytes).toOption.map (·, time) }
    else decoder
  | .configurationStored | .customConfigDispatched | .stats _ => decoder

/-- Both streams start over. -/
def rejectOversizedNotification (decoder : VescNotificationDecoder) : VescNotificationDecoder :=
  { decoder with
    stream := .new
    refloatStream := {}
    refloatStreamPending := false
    genericPrefix := []
    genericStreamPending := false }

end VescNotificationDecoder

/-- A complete terminated candidate; neither size nor checksum matter here. -/
def completeVescFrameLen (bytes : List Byte) : Option Nat :=
  match frameHeader bytes with
  | .ok (some (headerLen, payloadLen)) =>
    let totalLen := headerLen + payloadLen + 3
    if totalLen ≤ bytes.length ∧ bytes[totalLen - 1]? = some vescFrameEnd then some totalLen else none
  | _ => none

/-- Whether the command byte, once there, is not the package's. -/
def genericFrameKind (bytes : List Byte) : Option Bool :=
  match bytes with
  | [] => none
  | start :: rest =>
    if start = 2 then rest[1]?.map (· ≠ vescCommCustomAppData)
    else if start = 3 then rest[2]?.map (· ≠ vescCommCustomAppData)
    else none

def isFrameStart (byte : Byte) : Bool := byte = 2 || byte = 3

/-- The decoder with its output so far and the stack of undispatched pieces, top first. A piece may
borrow from the notification or own a copy; the copy always fits, so the two are not told apart. -/
structure Dispatch where
  decoder : VescNotificationDecoder
  output : List SessionOutput := []
  pending : List (List Byte) := []
  deriving DecidableEq

namespace Dispatch

def emit (work : Dispatch) (outputs : List SessionOutput) : Dispatch :=
  { work with output := work.output ++ outputs }

def rejectOversized (work : Dispatch) : Dispatch :=
  { work with decoder := work.decoder.rejectOversizedNotification }.emit [.parserError .malformedFrame]

/-- `enqueue_notification_tail`: the stack holds two pieces; `none` stops the dispatch. -/
def enqueue (work : Dispatch) (tail : List Byte) : Except Dispatch Dispatch :=
  if work.pending.length < 2 then .ok { work with pending := tail :: work.pending }
  else .error { work.rejectOversized with pending := [] }

/-- One reply of a feed: the decoder observes it and renders it. -/
def handleReply (time : Nat) (work : Dispatch) (reply : VescReadOnlyReply) : Dispatch :=
  let decoder := work.decoder.observeVescReply reply time
  { work with decoder }.emit (.reply reply :: match reply with
    | .values values => [.telemetry (vescValuesToDelta values time decoder.boardProfile)]
    | _ => [])

/-- Feeds the reply stream; says whether it replied and whether it waits. -/
def handleVescNotification (vesc : VescCrate) (work : Dispatch) (bytes : List Byte) (time sourceLen : Nat)
    (reportErrors : Bool) : Dispatch × Bool × Bool :=
  let (stream, result) := work.decoder.stream.feedResult vesc bytes
  let work := { work with decoder := { work.decoder with stream } }
  match result with
  | .ok (.replies replies malformedFrames) =>
    let work := if malformedFrames && reportErrors then work.emit [.parserError .malformedFrame] else work
    let work := replies.foldl (handleReply time) work
    (if reportErrors then work.emit [.notificationIngest .semanticEvents sourceLen] else work, true, false)
  | .error error =>
    if reportErrors then
      let diagnostic : ParserError := if error = .unsupportedReply then .unmatchedReply else .malformedFrame
      (work.emit [.parserError diagnostic, .notificationIngest (.parserDiagnostic diagnostic) sourceLen], false, false)
    else (work, false, false)
  | .ok .buffered =>
    if reportErrors then (work.emit [.notificationIngest .bufferedFragment sourceLen], false, true)
    else (work, false, false)

/-- The last package announcement of a feed updates the discovery. -/
def observePackage (decoder : VescNotificationDecoder) (package : RefloatInfo) (time : Nat) :
    VescNotificationDecoder :=
  let decoder := decoder.advanceApplicationQueryDeadlines time
  { decoder with
    refloatDiscovery :=
      { observed := some (if package.packageName.toLower = "refloat" then .refloat else .absent)
        query := decoder.refloatDiscovery.query.settle time }
    refloatConfig := if decoder.refloatPackage = some package then decoder.refloatConfig else none
    refloatPackage := some package }

def lastPackage (replies : List RefloatReply) : Option RefloatInfo :=
  replies.foldl (fun package reply => match reply with
    | .info info => some info
    | _ => package) none

/-- Feeds the package stream; says whether the bytes were handled. -/
def handleRefloatNotification (work : Dispatch) (bytes : List Byte) (time : Nat) : Dispatch × Bool :=
  let (refloatStream, replies, result) := work.decoder.refloatStream.feedResult bytes
  let rendered := replies.filterMap fun reply => match reply with
    | .realtimeData data => some (SessionOutput.telemetry (data.toDelta time))
    | .info info => some (SessionOutput.package info)
    | .realtimeFieldIds _ => none
  let decoder := { work.decoder with refloatStream }
  let decoder := match lastPackage replies with
    | some package => observePackage decoder package time
    | none => decoder
  let work := { work with decoder }.emit rendered
  let settled := { work with decoder := { work.decoder with refloatStreamPending := false } }
  match result with
  | .ok (.replies _ malformedFrames) =>
    (settled.emit ((if malformedFrames then [.parserError .malformedFrame] else []) ++
      [.notificationIngest .semanticEvents bytes.length]), true)
  | .ok .buffered => ({ work with decoder := { work.decoder with refloatStreamPending := true } }, false)
  | .error error =>
    if RefloatStreamDecoder.isForeignFrame error then (settled, false)
    else (settled.emit [.parserError .malformedFrame,
      .notificationIngest (.parserDiagnostic .malformedFrame) bytes.length], true)

/-- Feeds the reply stream with a generic chunk and remembers whether it now waits. -/
def feedGeneric (vesc : VescCrate) (work : Dispatch) (genericBytes : List Byte) (time sourceLen : Nat) : Dispatch :=
  if vescMaxFrameLen < genericBytes.length then work.rejectOversized
  else
    let (work, replied, buffered) := work.handleVescNotification vesc genericBytes time sourceLen true
    { work with decoder := { work.decoder with genericStreamPending := buffered && !replied } }

/-- Stores the start of a frame whose command byte has not arrived. -/
def holdPrefix (work : Dispatch) (held : List Byte) (sourceLen : Nat) : Dispatch :=
  if genericPrefixCapacity < held.length then work.rejectOversized
  else
    let work := { work with decoder := { work.decoder with genericPrefix := held } }
    if held = [] then work else work.emit [.notificationIngest .bufferedFragment sourceLen]

/-- A chunk that turned out to carry package data. -/
def feedRefloat (work : Dispatch) (chunk : List Byte) (time sourceLen : Nat) : Dispatch :=
  let (work, handled) := work.handleRefloatNotification chunk time
  if handled then work else work.emit [.notificationIngest .bufferedFragment sourceLen]

/-- The package data behind a held prefix; what follows a complete frame is dispatched again. -/
def feedPrefixedRefloat (work : Dispatch) (chunk : List Byte) (time sourceLen : Nat) : Dispatch :=
  match completeVescFrameLen chunk with
  | some frameLen =>
    if frameLen < chunk.length then
      let (work, _) := work.handleRefloatNotification (chunk.take frameLen) time
      if work.pending.length < 2 then { work with pending := chunk.drop frameLen :: work.pending }
      else work.rejectOversized
    else work.feedRefloat chunk time sourceLen
  | none => work.feedRefloat chunk time sourceLen

/-- The routing of `handle_notification_chunk` once no package frame is being completed. -/
def routeChunk (vesc : VescCrate) (work : Dispatch) (bytes : List Byte) (time : Nat) : Dispatch :=
  if work.decoder.genericStreamPending then work.feedGeneric vesc bytes time bytes.length
  else if work.decoder.genericPrefix ≠ [] then
    let joined := work.decoder.genericPrefix ++ bytes
    if vescMaxFrameLen < joined.length then work.rejectOversized
    else
      let released := { work with decoder := { work.decoder with genericPrefix := [] } }
      match genericFrameKind joined with
      | some true => released.feedGeneric vesc joined time bytes.length
      | some false => released.feedPrefixedRefloat joined time bytes.length
      | none => released.holdPrefix joined bytes.length
  else
    match genericFrameKind bytes with
    | some true => work.feedGeneric vesc bytes time bytes.length
    | some false =>
      if vescMaxFrameLen < bytes.length then work.rejectOversized else work.feedRefloat bytes time bytes.length
    | none =>
      if bytes.head?.any isFrameStart then work.holdPrefix bytes bytes.length
      else work.feedGeneric vesc bytes time bytes.length

/-- A package frame being completed takes its missing bytes first. -/
def handleNotificationChunk (vesc : VescCrate) (work : Dispatch) (bytes : List Byte) (time : Nat) : Dispatch :=
  let work := { work with decoder := { work.decoder with nowMs := time } }
  let decoder := work.decoder
  if decoder.refloatStreamPending ∧ decoder.genericStreamPending = false ∧ decoder.genericPrefix = [] then
    match decoder.refloatStream.pendingFrameBytes with
    | some missing =>
      if missing < bytes.length then
        let (work, handled) := work.handleRefloatNotification (bytes.take missing) time
        if handled ∨ work.decoder.refloatStreamPending = false then
          match work.enqueue (bytes.drop missing) with
          | .ok work => work
          | .error work => work
        else work
      else
        let (work, handled) := work.handleRefloatNotification bytes time
        if handled ∨ work.decoder.refloatStreamPending then work else work.routeChunk vesc bytes time
    | none =>
      let (work, handled) := work.handleRefloatNotification bytes time
      if handled ∨ work.decoder.refloatStreamPending then work else work.routeChunk vesc bytes time
  else work.routeChunk vesc bytes time

/-- A complete candidate at the front is handled on its own, its tail is dispatched afterwards. -/
def handleCandidate (vesc : VescCrate) (work : Dispatch) (candidate : List Byte) (time : Nat) : Dispatch :=
  match completeVescFrameLen candidate with
  | some frameLen =>
    if frameLen < candidate.length then
      match work.enqueue (candidate.drop frameLen) with
      | .ok work => work.handleNotificationChunk vesc (candidate.take frameLen) time
      | .error work => work
    else work.handleNotificationChunk vesc (candidate.take frameLen) time
  | none => work.handleNotificationChunk vesc candidate time

/-- Splits off complete frames unless a frame is already in progress. -/
def dispatchNotificationSlice (vesc : VescCrate) (work : Dispatch) (bytes : List Byte) (time : Nat) : Dispatch :=
  if (work.decoder.refloatStreamPending ∧ completeVescFrameLen bytes = none) ∨ work.decoder.genericStreamPending ∨
      work.decoder.genericPrefix ≠ [] then
    work.handleNotificationChunk vesc bytes time
  -- Garbage before the first frame start is dropped, unless there is no frame start at all.
  else if bytes.any isFrameStart then
    work.handleCandidate vesc (bytes.dropWhile fun byte => !isFrameStart byte) time
  else work.handleCandidate vesc bytes time

/-- The loop of `handle_notification`, bounded by the number of dispatches. -/
def drainPending (vesc : VescCrate) (time : Nat) : Nat → Dispatch → Dispatch
  | 0, work => if work.pending = [] then work else work.rejectOversized
  | fuel + 1, work =>
    match work.pending with
    | [] => work
    | bytes :: pending => drainPending vesc time fuel ({ work with pending }.dispatchNotificationSlice vesc bytes time)

end Dispatch

namespace VescNotificationDecoder

def handleNotification (vesc : VescCrate) (decoder : VescNotificationDecoder) (bytes : List Byte) (time : Nat) :
    VescNotificationDecoder × List SessionOutput :=
  if maxVescNotificationBatchBytes < bytes.length then
    (decoder.rejectOversizedNotification, [.parserError .malformedFrame])
  else
    let work := Dispatch.drainPending vesc time maxVescNotificationDispatches { decoder, pending := [bytes] }
    (work.decoder, work.output)

def pollIfDue (vesc : VescCrate) (decoder : VescNotificationDecoder) : VescNotificationDecoder × List SessionOutput :=
  if decoder.lastPollMs.any fun last => decoder.nowMs - last < 100 then (decoder, [])
  else
    let decoder := { decoder with lastPollMs := some decoder.nowMs }.advanceApplicationQueryDeadlines decoder.nowMs
    if decoder.refloatDiscovery.application = .refloat then
      let request := if decoder.refloatStream.fieldIds.isSome then .realtimeData else .realtimeDataIds
      (decoder, vesc.readRequest (.refloat request) none ++
        (if decoder.motorConfigReceived then [] else vesc.readRequest .motorConfig none) ++
        vesc.readRequest .values none)
    else if decoder.refloatDiscovery.observed = none ∧ decoder.refloatDiscovery.query = .notRequested then
      -- The identity space is a `u64`: an exhausted owner asks nothing more.
      if decoder.lastApplicationQueryId = u64Max then (decoder, [])
      else
        let id := decoder.lastApplicationQueryId + 1
        let query : ApplicationQueryWrite := ⟨id, saturatingAdd decoder.nowMs refloatQueryAdmissionTimeoutMs⟩
        let queued : QueuedApplicationQuery :=
          ⟨query, decoder.nowMs, none, List.replicate maxApplicationQueryFragments false⟩
        ({ decoder with lastApplicationQueryId := id }.setQuery (.queued queued),
          vesc.readRequest (.refloat .info) (some query) ++ vesc.readRequest .values none)
    else (decoder, vesc.readRequest .values none)

def onTick (vesc : VescCrate) (decoder : VescNotificationDecoder) (time : Nat) :
    VescNotificationDecoder × List SessionOutput :=
  let decoder := decoder.observeHostTime time
  if decoder.polling then decoder.pollIfDue vesc else (decoder, [])

/-- `on_read_command` for a telemetry request starts the polling. -/
def startPolling (vesc : VescCrate) (decoder : VescNotificationDecoder) :
    VescNotificationDecoder × List SessionOutput :=
  { decoder with polling := true }.pollIfDue vesc

def configureUserDrivetrain (decoder : VescNotificationDecoder) (geometry : VescSpeedGeometry) :
    VescNotificationDecoder :=
  { decoder with userDrivetrain := some geometry }

end VescNotificationDecoder

/-- The calls a session makes to its decoder. -/
inductive VescDecoderInput where
  | notification (bytes : List Byte) (time : Nat)
  | tick (time : Nat)
  | requestTelemetry
  | hostTime (time : Nat)
  | advanceDeadlines (time : Nat)
  | applicationQueryTransport (id index count : Nat) (status : ApplicationQueryTransportStatus) (time : Nat)
  | configureUserDrivetrain (geometry : VescSpeedGeometry)
  | reset
  deriving DecidableEq

def VescNotificationDecoder.step (vesc : VescCrate) (decoder : VescNotificationDecoder) :
    VescDecoderInput → VescNotificationDecoder × List SessionOutput
  | .notification bytes time => decoder.handleNotification vesc bytes time
  | .tick time => decoder.onTick vesc time
  | .requestTelemetry => decoder.startPolling vesc
  | .hostTime time => (decoder.observeHostTime time, [])
  | .advanceDeadlines time => (decoder.advanceApplicationQueryDeadlines time, [])
  | .applicationQueryTransport id index count status time =>
    ((decoder.recordApplicationQueryTransport id index count status time).1, [])
  | .configureUserDrivetrain geometry => (decoder.configureUserDrivetrain geometry, [])
  | .reset => (decoder.reset, [])

end Cutout.Protocols

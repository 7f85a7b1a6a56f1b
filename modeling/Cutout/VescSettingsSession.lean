import Cutout.SettingsImage

/-! The settings owner of a VESC link. A write is a procedure of five stages over
the read-only session below it: a preflight read, the mutation, and a verification
read that must show the expected image. Reads outside a procedure share one slot,
because the replies carry no nonce. -/

namespace Cutout.Protocols

inductive CommandKind where
  | requestIdentity | requestTelemetry | requestFirmwareInfo | requestBatteryInfo | requestDiagnostics
  | requestFaultHistory | requestSettings | resetTripMeter | gyroCalibration | setSetting | setLights
  | setTaillight | soundHorn | setRawMotorCurrent
  deriving Repr, DecidableEq

/-- Commands of the host; the arguments of those no VESC session serves are left out. -/
inductive DeviceCommand where
  | setSetting (id : SettingId) (value : DeviceSettingValue)
  | requestSettings | requestTelemetry | requestFirmwareInfo | requestDiagnostics | requestIdentity
  | requestBatteryInfo | requestFaultHistory | resetTripMeter | gyroCalibration | setLights | setTaillight
  | soundHorn | setRawMotorCurrent
  deriving Repr, DecidableEq

def DeviceCommand.kind : DeviceCommand → CommandKind
  | .setSetting _ _ => .setSetting
  | .requestSettings => .requestSettings
  | .requestTelemetry => .requestTelemetry
  | .requestFirmwareInfo => .requestFirmwareInfo
  | .requestDiagnostics => .requestDiagnostics
  | .requestIdentity => .requestIdentity
  | .requestBatteryInfo => .requestBatteryInfo
  | .requestFaultHistory => .requestFaultHistory
  | .resetTripMeter => .resetTripMeter
  | .gyroCalibration => .gyroCalibration
  | .setLights => .setLights
  | .setTaillight => .setTaillight
  | .soundHorn => .soundHorn
  | .setRawMotorCurrent => .setRawMotorCurrent

inductive SessionInput where
  | linkUp (time : Nat)
  | linkDown
  | notification (subscribed : Bool) (bytes : List Byte) (time : Nat)
  | tick (time : Nat)
  | command (command : DeviceCommand)
  | commandAt (command : DeviceCommand) (time : Nat)
  deriving Repr, DecidableEq

inductive ControlRefusalReason where
  | missingArm | expiredArm | unsupportedCommand | busy
  deriving Repr, DecidableEq

structure ControlRefusal where
  command : CommandKind
  reason : ControlRefusalReason
  deriving Repr, DecidableEq

inductive DeviceOutput where
  | session (output : SessionOutput)
  | linkUp (time : Nat)
  | linkDown
  | tick (time : Nat)
  | subscribe
  | wrongChannel (byteLen : Nat)
  | unsupportedReadback (command : CommandKind)
  | settingsReadback (entries : List (Option SettingsEntry))
  | refusal (refusal : ControlRefusal)
  | write (bytes : List Byte) (operationId : Option Nat)
  deriving Repr, DecidableEq

structure DeviceSessionStep where
  outputs : List DeviceOutput := []
  error : Option ControlRefusal := none
  deriving Repr, DecidableEq

namespace DeviceSessionStep

def push (step : DeviceSessionStep) (more : List DeviceOutput) : DeviceSessionStep :=
  { step with outputs := step.outputs ++ more }

def appendRefusal (step : DeviceSessionStep) (command : CommandKind) (reason : ControlRefusalReason) :
    DeviceSessionStep :=
  { step.push [.refusal ⟨command, reason⟩] with error := some ⟨command, reason⟩ }

def removeRefusal (step : DeviceSessionStep) (command : CommandKind) : DeviceSessionStep where
  outputs := step.outputs.filter fun output => match output with
    | .refusal refusal => refusal.command ≠ command
    | _ => true
  error := if step.error.any fun refusal => refusal.command = command then none else step.error

def removeSettingsResponse (step : DeviceSessionStep) : DeviceSessionStep :=
  { step with outputs := step.outputs.filter fun output => match output with
      | .settingsReadback _ => false
      | .unsupportedReadback command => command ≠ .requestSettings
      | _ => true }

def pushReadback (step : DeviceSessionStep) (image : SettingsImage) : DeviceSessionStep :=
  step.push (image.readback.map .settingsReadback)

end DeviceSessionStep

/-- `encode_command`: the request behind a supported read. -/
def readRequestOf : CommandKind → Option VescReadOnlyRequest
  | .requestFirmwareInfo => some .firmwareInfo
  | .requestTelemetry => some .values
  | .requestDiagnostics =>
    some (.stats (2 ^ VescStatsField.speedAvg.bit + 2 ^ VescStatsField.powerAvg.bit +
      2 ^ VescStatsField.currentAvg.bit + 2 ^ VescStatsField.countTime.bit))
  | _ => none

structure VescReadOnlySession where
  connected : Bool := false
  decoder : VescNotificationDecoder
  deriving DecidableEq

namespace VescReadOnlySession

def settingsEvidence (session : VescReadOnlySession) : VescSettingsEvidence := session.decoder.settingsEvidence

def withDecoder (session : VescReadOnlySession) (result : VescNotificationDecoder × List SessionOutput) :
    VescReadOnlySession × List DeviceOutput :=
  ({ session with decoder := result.1 }, result.2.map .session)

/-- The command part of `handle_read_only_session`. -/
def handleCommand (vesc : VescCrate) (session : VescReadOnlySession) (command : DeviceCommand) :
    VescReadOnlySession × List DeviceOutput :=
  match command.kind with
  | .requestTelemetry =>
    if session.connected then session.withDecoder (session.decoder.startPolling vesc) else (session, [])
  | .requestFirmwareInfo | .requestDiagnostics =>
    if session.connected then
      (session, (((readRequestOf command.kind).map fun request => vesc.readRequest request none).getD []).map .session)
    else (session, [])
  | .requestSettings | .requestFaultHistory | .requestBatteryInfo =>
    (session, [.unsupportedReadback command.kind])
  | _ => (session, [])

/-- `handle_read_only_session`. -/
def handle (vesc : VescCrate) (session : VescReadOnlySession) : SessionInput → VescReadOnlySession × List DeviceOutput
  | .linkUp time =>
    let (session, outputs) := { session with connected := true }.withDecoder (session.decoder.reset.onTick vesc time)
    (session, outputs ++ [.linkUp time, .subscribe])
  | .linkDown => ({ connected := false, decoder := session.decoder.reset }, [.linkDown])
  | .tick time =>
    if session.connected then
      let (session, outputs) := session.withDecoder (session.decoder.onTick vesc time)
      (session, outputs ++ [.tick time])
    else (session, [.tick time])
  | .notification subscribed bytes time =>
    if session.connected then
      if subscribed then session.withDecoder (session.decoder.handleNotification vesc bytes time)
      else (session, [.wrongChannel bytes.length])
    else (session, [])
  | .command command => session.handleCommand vesc command
  | .commandAt command _ => session.handleCommand vesc command

/-- `ingest_timestamped_command`: a timed command is a tick and a command. -/
def ingestTimestamped (vesc : VescCrate) (session : VescReadOnlySession) (input : SessionInput) :
    VescReadOnlySession × List DeviceOutput :=
  match input with
  | .commandAt command time =>
    let (session, ticked) := session.handle vesc (.tick time)
    let (session, outputs) := session.handle vesc (.command command)
    (session, ticked ++ outputs)
  | _ => session.handle vesc input

/-- A command outside the capabilities is reported as unsupported. -/
def ingestTyped (vesc : VescCrate) (session : VescReadOnlySession) (input : SessionInput) :
    VescReadOnlySession × DeviceSessionStep :=
  let (session, outputs) := session.ingestTimestamped vesc input
  let refused : Option ControlRefusal := match input with
    | .command command | .commandAt command _ =>
      if (readRequestOf command.kind).isSome then none else some ⟨command.kind, .unsupportedCommand⟩
    | _ => none
  (session, { outputs, error := refused })

end VescReadOnlySession

def settingsEvidenceMaxAgeMs : Nat := 2000
def settingOperationTimeoutMs : Nat := 2000

structure StationarySettingsArm where
  model : String
  issuedAt : Nat
  expiresAt : Nat
  deriving Repr, DecidableEq

def vescSettingsModel : String := "Vesc7.0PersistentSettings"

def StationarySettingsArm.isValidFor (arm : StationarySettingsArm) (model : String) (time : Nat) : Bool :=
  decide (arm.model = model ∧ time ≤ arm.expiresAt)

structure SettingWriteAuthorization where
  arm : StationarySettingsArm
  cancellationGeneration : Nat
  deriving Repr, DecidableEq

inductive SettingTransportStatus where
  | accepted | queued | submitted | rejected | cancelled
  deriving Repr, DecidableEq

inductive PendingStage where
  | preflightQueued
  | awaitingPreflight (submittedAt : Nat)
  | mutationQueued
  | verificationReadQueued (mutationSubmittedAt : Nat)
  | awaitingVerification (mutationSubmittedAt submittedAt : Nat)
  deriving Repr, DecidableEq

namespace PendingStage

/-- The stages whose read is on the wire. -/
def readSubmitted : PendingStage → Bool
  | .awaitingPreflight _ | .awaitingVerification _ _ => true
  | _ => false

/-- The stages before the mutation is emitted. -/
def beforeMutation : PendingStage → Bool
  | .preflightQueued | .awaitingPreflight _ => true
  | _ => false

/-- The stage after a transport submission. -/
def submitted (stage : PendingStage) (time : Nat) : PendingStage :=
  match stage with
  | .preflightQueued => .awaitingPreflight time
  | .mutationQueued => .verificationReadQueued time
  | .verificationReadQueued mutationSubmittedAt => .awaitingVerification mutationSubmittedAt time
  | .awaitingPreflight _ | .awaitingVerification _ _ => stage

end PendingStage

inductive StandaloneConfigRead where
  | idle
  | awaitingProcedureReply
  | queued (operationId acceptedAt receiptAt : Nat)
  | submitted (operationId acceptedAt receiptAt : Nat)
  deriving Repr, DecidableEq

structure PendingSetting where
  id : SettingId
  value : DeviceSettingValue
  expiresAt : Nat
  operationId : Option Nat
  authorization : Option SettingWriteAuthorization
  controllerId : Byte
  baseline : SettingsImage
  expected : Option SettingsImage
  stage : PendingStage
  deriving DecidableEq

structure VescSettingsSession where
  readOnly : VescReadOnlySession
  arm : Option StationarySettingsArm := none
  cancellationGeneration : Nat := 0
  pending : Option PendingSetting := none
  failedOperation : Option Nat := none
  now : Nat := 0
  lastSpeed : Option (Int × Nat) := none
  lastOperatingState : Option (RideOperatingState × Nat) := none
  lastOperatingMode : Option (RideOperatingMode × Nat) := none
  lastConfigGeneration : ConfigurationKindValues Nat := ⟨0, 0, 0⟩
  initialConfigRequested : ConfigurationKindValues Bool := ⟨false, false, false⟩
  initialConfigRetryCount : ConfigurationKindValues Nat := ⟨0, 0, 0⟩
  standaloneKind : ConfigurationKind := .refloat
  firmwareInventoryRequested : Bool := false
  nextConfigReadId : Option Nat := some (2 ^ 63)
  standaloneConfigRead : StandaloneConfigRead := .idle
  identityInvalidated : Bool := false
  deriving DecidableEq

/-- Not from the future and at most two seconds old. -/
def fresh (time observed : Nat) : Bool := decide (observed ≤ time ∧ time - observed ≤ settingsEvidenceMaxAgeMs)

namespace VescSettingsSession

def new (boardProfile : Option VescBoardProfile) : VescSettingsSession where
  readOnly := { decoder := { configuredBoardProfile := boardProfile } }

def evidence (session : VescSettingsSession) : VescSettingsEvidence := session.readOnly.settingsEvidence

def settingsBusy (session : VescSettingsSession) : Bool :=
  session.pending.isSome || decide (session.standaloneConfigRead ≠ .idle)

def freshSpeed (session : VescSettingsSession) (time : Nat) : Option Int :=
  session.lastSpeed.bind fun (speed, observed) => if fresh time observed then some speed else none

def freshOperatingState (session : VescSettingsSession) (time : Nat) : Option RideOperatingState :=
  session.lastOperatingState.bind fun (state, observed) => if fresh time observed then some state else none

def freshNormalMode (session : VescSettingsSession) (time : Nat) : Bool :=
  session.lastOperatingMode.any fun (mode, observed) => decide (mode = .normal) && fresh time observed

def freshStationaryEvidence (session : VescSettingsSession) (time : Nat) : Bool :=
  (session.freshSpeed time).any (fun speed => !isMoving speed) &&
    (session.freshOperatingState time == some .parked || session.freshOperatingState time == some .standing) &&
    session.freshNormalMode time

/-- Firmware images also need the vehicle disengaged: zero speed while balancing is not enough. -/
def freshStationaryEvidenceFor (session : VescSettingsSession) (kind : ConfigurationKind) (time : Nat) : Bool :=
  session.freshStationaryEvidence time && match kind with
    | .refloat => true
    | .motor | .app => session.freshOperatingState time == some .parked

def profileIsSupported (session : VescSettingsSession) : Bool :=
  let evidence := session.evidence
  !session.identityInvalidated && evidence.supportedFirmware &&
    ((evidence.supportedPackage && evidence.config.isSome) || evidence.motorConfig.isSome || evidence.appConfig.isSome)

/-- `control_profile`; without supported firmware there are no descriptors. -/
def controlProfile (session : VescSettingsSession) : Option VescControlProfile :=
  let evidence := session.evidence
  if session.identityInvalidated || !evidence.supportedFirmware then none
  else some
    { refloat := evidence.supportedPackage && evidence.config.isSome
      motor := evidence.motorConfig.isSome
      app := evidence.appConfig.isSome
      lightingMode := (evidence.config.map fun (config, _) => config.lightingMode).getD .unknown
      firmwareWritesReady := session.freshStationaryEvidenceFor .motor session.now }

/-- Whether the control profile takes the value. -/
def commandIsOk (session : VescSettingsSession) (id : SettingId) (value : DeviceSettingValue) : Bool :=
  session.controlProfile.any fun profile => (profile.command id value).isOk

def settingWriteIsCurrent (session : VescSettingsSession) (authorization : SettingWriteAuthorization) (time : Nat) :
    Bool :=
  match session.pending with
  | none => false
  | some pending =>
    match pending.stage with
    | .verificationReadQueued _ =>
      decide (time < pending.expiresAt) && session.profileIsSupported &&
        decide (session.evidence.controllerId = some pending.controllerId)
    | _ =>
      match session.arm with
      | none => false
      | some currentArm =>
        decide (pending.authorization = some authorization) &&
          decide (authorization.cancellationGeneration = session.cancellationGeneration) &&
          decide (authorization.arm = currentArm) && currentArm.isValidFor vescSettingsModel time &&
          decide (time ≤ pending.expiresAt) && session.profileIsSupported &&
          session.commandIsOk pending.id pending.value &&
          (session.evidence.image pending.baseline.kind).any (fun (image, _) => pending.baseline.matchesImage image) &&
          decide (session.evidence.controllerId = some pending.controllerId) &&
          session.freshStationaryEvidenceFor pending.baseline.kind time

def settingAuthorizationExpiresAt (session : VescSettingsSession) (authorization : SettingWriteAuthorization) :
    Option Nat :=
  if authorization.cancellationGeneration ≠ session.cancellationGeneration ∨ session.arm ≠ some authorization.arm then
    none
  else
    let verifying := session.pending.filter fun pending =>
      decide (pending.authorization = some authorization) && match pending.stage with
        | .verificationReadQueued _ => true
        | _ => false
    match verifying with
    | some pending => some pending.expiresAt
    | none =>
      let deadlines := ([session.lastSpeed.map Prod.snd, session.lastOperatingState.map Prod.snd,
        session.lastOperatingMode.map Prod.snd].filterMap id).map fun observed =>
          saturatingAdd observed (settingsEvidenceMaxAgeMs + 1)
      some (deadlines.foldl min authorization.arm.expiresAt)

/-- A read already on the wire keeps the slot until its reply. -/
def cancelPendingRetainingSubmittedRead (session : VescSettingsSession) (retainRead : Bool) : VescSettingsSession :=
  let session := match session.pending with
    | none => session
    | some pending =>
      let session :=
        if retainRead && pending.stage.readSubmitted then
          { session with standaloneKind := pending.baseline.kind, standaloneConfigRead := .awaitingProcedureReply }
        else session
      { session with pending := none, failedOperation := pending.operationId.or session.failedOperation }
  { session with cancellationGeneration := saturatingAdd session.cancellationGeneration 1 }

def cancelPending (session : VescSettingsSession) : VescSettingsSession :=
  session.cancelPendingRetainingSubmittedRead true

def cancelPendingAfterReadResponse (session : VescSettingsSession) : VescSettingsSession :=
  session.cancelPendingRetainingSubmittedRead false

def finishPending (session : VescSettingsSession) : VescSettingsSession :=
  { session with
    pending := none
    cancellationGeneration := saturatingAdd session.cancellationGeneration 1 }

def clearArmAndCancel (session : VescSettingsSession) : VescSettingsSession :=
  { session with arm := none }.cancelPending

def forgetTelemetry (session : VescSettingsSession) : VescSettingsSession :=
  { session with lastSpeed := none, lastOperatingState := none, lastOperatingMode := none }

def resetConnectionState (session : VescSettingsSession) : VescSettingsSession :=
  { session.clearArmAndCancel.forgetTelemetry with
    lastConfigGeneration := ⟨0, 0, 0⟩
    initialConfigRequested := ⟨false, false, false⟩
    initialConfigRetryCount := ⟨0, 0, 0⟩
    firmwareInventoryRequested := false
    standaloneConfigRead := .idle
    identityInvalidated := false }

def expirePending (session : VescSettingsSession) : VescSettingsSession :=
  if session.pending.any fun pending => decide (pending.expiresAt ≤ session.now) then session.cancelPending else session

/-- A newer observation replaces an older one. -/
def observed {α : Type} (last : Option (α × Nat)) (value : Option α) (time : Nat) : Option (α × Nat) :=
  match value with
  | some value => if last.all fun (_, observed) => decide (observed ≤ time) then some (value, time) else last
  | none => last

def observeTelemetry (session : VescSettingsSession) (outputs : List DeviceOutput) : VescSettingsSession :=
  outputs.foldl (fun session output => match output with
    | .session (.telemetry delta) =>
      { session with
        lastSpeed := observed session.lastSpeed delta.speed delta.time
        lastOperatingState := observed session.lastOperatingState delta.operatingState delta.time
        lastOperatingMode := observed session.lastOperatingMode delta.operatingMode delta.time }
    | _ => session) session

/-- Takes the slot with a fresh operation number. -/
def pushConfigRead (session : VescSettingsSession) (kind : ConfigurationKind) (step : DeviceSessionStep) :
    VescSettingsSession × DeviceSessionStep :=
  match encodeSettingsPayload kind.readCommand with
  | none => (session, step)
  | some bytes =>
    let session := { session with standaloneKind := kind }
    match session.nextConfigReadId with
    | none => (session, step)
    | some operationId =>
      ({ session with
          nextConfigReadId := if operationId = u64Max then none else some (operationId + 1)
          standaloneConfigRead := .queued operationId session.now session.now },
        step.push [.write bytes (some operationId)])

/-- The first reason against starting a procedure. -/
def settingRefusal (session : VescSettingsSession) (id : SettingId) (value : DeviceSettingValue) :
    Option ControlRefusalReason :=
  if session.settingsBusy then some .busy
  else if !session.profileIsSupported || !session.commandIsOk id value then some .unsupportedCommand
  else match session.arm with
    | none => some .missingArm
    | some arm =>
      if !arm.isValidFor vescSettingsModel session.now then some .expiredArm
      else if (ConfigurationKind.forSetting id).all fun kind => !session.freshStationaryEvidenceFor kind session.now then
        some .missingArm
      else none

def handleSettingCommand (session : VescSettingsSession) (id : SettingId) (value : DeviceSettingValue)
    (step : DeviceSessionStep) : VescSettingsSession × DeviceSessionStep :=
  let step := step.removeRefusal .setSetting
  match session.settingRefusal id value with
  | some reason => (session, step.appendRefusal .setSetting reason)
  | none =>
    match (ConfigurationKind.forSetting id).bind session.evidence.image, session.evidence.controllerId with
    | some (baseline, _), some controllerId =>
      match encodeSettingsPayload baseline.readCommandPayload with
      | none => (session, step.appendRefusal .setSetting .unsupportedCommand)
      | some bytes =>
        let pending : PendingSetting :=
          { id, value, controllerId, baseline
            expiresAt := saturatingAdd session.now settingOperationTimeoutMs
            operationId := none
            authorization := none
            expected := none
            stage := .preflightQueued }
        ({ session with pending := some pending }, { step.push [.write bytes none] with error := none })
    | _, _ => (session, step.appendRefusal .setSetting .unsupportedCommand)

def handleSettingsReadRequest (session : VescSettingsSession) (step : DeviceSessionStep) :
    VescSettingsSession × DeviceSessionStep :=
  let step := step.removeSettingsResponse.removeRefusal .requestSettings
  if session.settingsBusy then (session, step.appendRefusal .requestSettings .busy)
  else if !session.identityInvalidated && session.evidence.supportedFirmware then
    let kind : ConfigurationKind := if session.evidence.supportedPackage then .refloat else .motor
    let (session, step) := { session with
      firmwareInventoryRequested := true
      initialConfigRequested := ConfigurationKindValues.set ⟨false, false, false⟩ kind true }.pushConfigRead kind step
    (session, { step with error := none })
  else (session, step.appendRefusal .requestSettings .unsupportedCommand)

/-- The mutation of the image just read, and the read that will verify it. -/
def applyPreflight (session : VescSettingsSession) (pending : PendingSetting) (config : SettingsImage) (time : Nat)
    (step : DeviceSessionStep) : VescSettingsSession × DeviceSessionStep :=
  let refused := (session.cancelPendingAfterReadResponse, step.pushReadback config)
  if !(pending.authorization.any fun authorization => session.settingWriteIsCurrent authorization time) then refused
  else if !pending.baseline.matchesImage config then refused
  else match config.changed pending.id pending.value with
    | none => refused
    | some expected =>
      match pending.operationId, encodeSettingsPayload expected.writeCommandPayload,
          encodeSettingsPayload config.readCommandPayload with
      | some operationId, some write, some read =>
        ({ session with pending := session.pending.map fun pending =>
            { pending with expected := some expected, stage := .mutationQueued } },
          step.push [.write write (some operationId), .write read (some operationId)])
      | _, _, _ => (session.cancelPendingAfterReadResponse, step)

/-- What a configuration reply means for the procedure it answers. -/
def settleReply (session : VescSettingsSession) (pending : PendingSetting) (config : SettingsImage) (time : Nat)
    (step : DeviceSessionStep) : VescSettingsSession × DeviceSessionStep :=
  match pending.stage with
  | .preflightQueued | .mutationQueued | .verificationReadQueued _ => (session, step)
  | .awaitingPreflight submittedAt =>
    if time < submittedAt then (session, step) else session.applyPreflight pending config time step
  | .awaitingVerification _ submittedAt =>
    if time < submittedAt then (session, step)
    else if pending.expected.any fun expected => expected.matchesImage config then
      (session.finishPending, step.pushReadback config)
    else (session.cancelPendingAfterReadResponse, step.pushReadback config)

/-- A reply frees the slot of its kind and drives the procedure of its kind. -/
def observeConfigImage (session : VescSettingsSession) (kind : ConfigurationKind) (step : DeviceSessionStep) :
    VescSettingsSession × DeviceSessionStep :=
  let session := if session.standaloneKind = kind then { session with standaloneConfigRead := .idle } else session
  match session.evidence.image kind, session.pending with
  | none, some pending =>
    (if pending.baseline.kind = kind then session.cancelPendingAfterReadResponse else session, step)
  | none, none => (session, step)
  | some (config, _), none => (session, step.pushReadback config)
  | some (config, time), some pending =>
    if pending.baseline.kind ≠ kind then (session, step.pushReadback config)
    else if session.evidence.controllerId ≠ some pending.controllerId then
      (session.cancelPendingAfterReadResponse, step.pushReadback config)
    else session.settleReply pending config time step

/-- One round of `observe_config`: a generation not seen before is a reply. -/
def observeConfigKind (work : VescSettingsSession × DeviceSessionStep) (kind : ConfigurationKind) :
    VescSettingsSession × DeviceSessionStep :=
  let generation := work.1.evidence.generation kind
  if work.1.lastConfigGeneration.get kind < generation then
    { work.1 with lastConfigGeneration := work.1.lastConfigGeneration.set kind generation }.observeConfigImage kind work.2
  else work

def observeConfig (session : VescSettingsSession) (step : DeviceSessionStep) : VescSettingsSession × DeviceSessionStep :=
  ConfigurationKind.all.foldl observeConfigKind (session, step)

def initialReadDue (session : VescSettingsSession) (kind : ConfigurationKind) : Bool :=
  (match kind with
    | .refloat => session.evidence.supportedPackage
    | .motor | .app => true) &&
    !session.initialConfigRequested.get kind &&
    (session.firmwareInventoryRequested || (session.evidence.image kind).isNone)

def maybeRequestInitialConfig (session : VescSettingsSession) (step : DeviceSessionStep) :
    VescSettingsSession × DeviceSessionStep :=
  if !session.evidence.supportedFirmware || session.identityInvalidated || session.settingsBusy then (session, step)
  else match ConfigurationKind.all.find? session.initialReadDue with
    | none => (session, step)
    | some kind =>
      { session with initialConfigRequested := session.initialConfigRequested.set kind true }.pushConfigRead kind step

def maybeRequestTelemetryMotorConfig (session : VescSettingsSession) (step : DeviceSessionStep) :
    VescSettingsSession × DeviceSessionStep :=
  if session.identityInvalidated || session.settingsBusy || session.evidence.motorConfig.isSome ||
      session.initialConfigRequested.motor then (session, step)
  else
    { session with initialConfigRequested := { session.initialConfigRequested with motor := true } }.pushConfigRead
      .motor step

end VescSettingsSession

namespace SessionInput

def isConnectionEdge : SessionInput → Bool
  | .linkUp _ | .linkDown => true
  | _ => false

/-- `input_timestamp`. -/
def timestamp : SessionInput → Option Nat
  | .linkUp time | .tick time | .notification _ _ time | .commandAt _ time => some time
  | .linkDown | .command _ => none

/-- Settings commands reach the session below without the tick that would poll. -/
def protocolInput : SessionInput → SessionInput
  | .commandAt (.setSetting id value) _ => .command (.setSetting id value)
  | .commandAt .requestSettings _ => .command .requestSettings
  | input => input

end SessionInput

def DeviceOutput.isAutomaticMotorConfigRead : DeviceOutput → Bool
  | .session (.write bytes _) | .write bytes _ => commandByte bytes == some 14
  | _ => false

namespace VescSettingsSession

/-- The link edge and the clock of an input. -/
def begin (session : VescSettingsSession) (input : SessionInput) : VescSettingsSession :=
  let session := if input.isConnectionEdge then session.resetConnectionState else session
  { session with now := max session.now (input.timestamp.getD 0) }

/-- `ingest_typed` up to the expiry of the pending procedure: the session below handles the input, a changed
identity cancels, telemetry is noted. Says whether the session below asked for the motor configuration. -/
def receive (vesc : VescCrate) (session : VescSettingsSession) (input : SessionInput) :
    VescSettingsSession × DeviceSessionStep × Bool :=
  let session := session.begin input
  let previous := session.evidence
  let (readOnly, step) := session.readOnly.ingestTyped vesc input.protocolInput
  let requestedMotorConfig := step.outputs.any DeviceOutput.isAutomaticMotorConfigRead
  let step := { step with outputs := step.outputs.filter fun output => !output.isAutomaticMotorConfigRead }
  let session := { session with readOnly }
  let session :=
    if !input.isConnectionEdge && previous.identityChanged session.evidence then
      { session with identityInvalidated := true }.clearArmAndCancel.forgetTelemetry
    else session
  ((session.observeTelemetry step.outputs).expirePending, step, requestedMotorConfig)

/-- The settings command or the replies of an input. -/
def respond (session : VescSettingsSession) (input : SessionInput) (step : DeviceSessionStep) :
    VescSettingsSession × DeviceSessionStep :=
  match input with
  | .command (.setSetting id value) | .commandAt (.setSetting id value) _ => session.handleSettingCommand id value step
  | .command .requestSettings | .commandAt .requestSettings _ => session.handleSettingsReadRequest step
  | .notification _ _ _ => session.observeConfig step
  | _ => (session, step)

/-- The reads that a session starts by itself. -/
def request (requestedMotorConfig : Bool) (work : VescSettingsSession × DeviceSessionStep) :
    VescSettingsSession × DeviceSessionStep :=
  let work := if requestedMotorConfig then work.1.maybeRequestTelemetryMotorConfig work.2 else work
  work.1.maybeRequestInitialConfig work.2

def ingestTyped (vesc : VescCrate) (session : VescSettingsSession) (input : SessionInput) :
    VescSettingsSession × DeviceSessionStep :=
  let (session, step, requestedMotorConfig) := session.receive vesc input
  request requestedMotorConfig (session.respond input step)

def bindSettingOperation (session : VescSettingsSession) (operationId : Nat) : VescSettingsSession :=
  { session with pending := session.pending.map fun pending =>
      { pending with
        operationId := some operationId
        authorization := match session.arm with
          | some arm => some ⟨arm, session.cancellationGeneration⟩
          | none => pending.authorization } }

/-- Whether the pending procedure belongs to an operation. -/
def ownsOperation (session : VescSettingsSession) (operationId : Nat) : Bool :=
  session.pending.any fun pending => pending.operationId = some operationId

def cancelSettingOperation (session : VescSettingsSession) (operationId : Nat) : VescSettingsSession :=
  if session.ownsOperation operationId then session.cancelPending else session

def recordSettingTransport (session : VescSettingsSession) (operationId : Nat) (status : SettingTransportStatus)
    (time : Nat) : VescSettingsSession :=
  if session.ownsOperation operationId then
    match status with
    | .submitted =>
      { session with pending := session.pending.map fun pending => { pending with stage := pending.stage.submitted time } }
    | .rejected | .cancelled => session.cancelSettingOperation operationId
    | .accepted | .queued => session
  else session

def recordSettingReadTransport (session : VescSettingsSession) (operationId : Nat) (status : SettingTransportStatus)
    (time : Nat) : VescSettingsSession :=
  match session.standaloneConfigRead with
  | .queued current acceptedAt receiptAt =>
    if current ≠ operationId ∨ time < acceptedAt ∨ time < receiptAt then session
    else match status with
      | .accepted | .queued => { session with standaloneConfigRead := .queued current acceptedAt time }
      | .submitted => { session with standaloneConfigRead := .submitted current acceptedAt time }
      | .rejected | .cancelled =>
        let session := { session with standaloneConfigRead := .idle }
        if session.initialConfigRetryCount.get session.standaloneKind = 0 then
          { session with
            initialConfigRetryCount := session.initialConfigRetryCount.set session.standaloneKind 1
            initialConfigRequested := session.initialConfigRequested.set session.standaloneKind false }
        else session
  | _ => session

/-- The requested state and speed must be the fresh observed ones. -/
def armSettingsWrites (session : VescSettingsSession) (requestedState : RideOperatingState)
    (requestedSpeed : Option Int) (time : Nat) : VescSettingsSession :=
  let armed := session.profileIsSupported &&
    (requestedState == .parked || requestedState == .standing) &&
    session.freshOperatingState time == some requestedState &&
    (session.freshSpeed time).any (fun speed => decide (requestedSpeed = some speed) && !isMoving speed) &&
    session.freshNormalMode time && session.evidence.controllerId.isSome
  if armed then
    { session with arm := some ⟨vescSettingsModel, time, saturatingAdd time settingsEvidenceMaxAgeMs⟩ }
  else session.clearArmAndCancel

end VescSettingsSession

inductive SettingsCall where
  | ingest (input : SessionInput)
  | armSettingsWrites (state : RideOperatingState) (speed : Option Int) (time : Nat)
  | bindSettingOperation (operationId : Nat)
  | recordSettingTransport (operationId : Nat) (status : SettingTransportStatus) (time : Nat)
  | recordSettingReadTransport (operationId : Nat) (status : SettingTransportStatus) (time : Nat)
  | cancelSettingOperation (operationId : Nat)
  | takeFailedSettingOperation
  | recordApplicationQueryTransport (id index count : Nat) (status : ApplicationQueryTransportStatus) (time : Nat)
  | advanceApplicationQueryDeadlines (time : Nat)
  | configureUserDrivetrain (geometry : VescSpeedGeometry)
  deriving DecidableEq

namespace VescSettingsSession

/-- A call that only reaches the decoder below. -/
def withDecoder (session : VescSettingsSession) (decoder : VescNotificationDecoder) : VescSettingsSession :=
  { session with readOnly := { session.readOnly with decoder } }

def step (vesc : VescCrate) (session : VescSettingsSession) : SettingsCall → VescSettingsSession × List DeviceOutput
  | .ingest input => let (session, step) := session.ingestTyped vesc input; (session, step.outputs)
  | .armSettingsWrites state speed time => (session.armSettingsWrites state speed time, [])
  | .bindSettingOperation operationId => (session.bindSettingOperation operationId, [])
  | .recordSettingTransport operationId status time => (session.recordSettingTransport operationId status time, [])
  | .recordSettingReadTransport operationId status time =>
    (session.recordSettingReadTransport operationId status time, [])
  | .cancelSettingOperation operationId => (session.cancelSettingOperation operationId, [])
  | .takeFailedSettingOperation => ({ session with failedOperation := none }, [])
  | .recordApplicationQueryTransport id index count status time =>
    (session.withDecoder (session.readOnly.decoder.recordApplicationQueryTransport id index count status time).1, [])
  | .advanceApplicationQueryDeadlines time =>
    (session.withDecoder (session.readOnly.decoder.advanceApplicationQueryDeadlines time), [])
  | .configureUserDrivetrain geometry =>
    ({ session.withDecoder (session.readOnly.decoder.configureUserDrivetrain geometry) with lastSpeed := none }, [])

end VescSettingsSession

end Cutout.Protocols

import Cutout.ControlWire
import Cutout.WheelFrames

/-! The session that writes settings of a standing wheel. A stationary control needs a
short-lived arm; a menu sequence writes its first step at once and the others on later
ticks, under the arm of then and before the expiry of the one it was accepted under. The
decoder of the wheel is a parameter. -/

namespace Cutout.Wheels
open Protocols (Byte CommandKind StationarySettingsArm SettingWriteAuthorization BegodeFrame signedFromBe saturatingAdd
  connectedWheelMovementThreshold)

inductive ChargeMode where
  | unknown | notCharging | charging
  deriving Repr, DecidableEq

def ChargeMode.isActive : ChargeMode → Bool
  | charging => true
  | notCharging | unknown => false

/-- The telemetry that settings look at. Speeds are millimetres per second. -/
structure TelemetryDelta where
  speed : Option Int := none
  chargeMode : Option ChargeMode := none
  at_ : Nat
  deriving Repr, DecidableEq

inductive ControlRefusalReason where
  | missingArm | wrongModel | expiredArm | unsupportedCommand | busy
  deriving Repr, DecidableEq

structure ControlRefusal where
  command : CommandKind
  safetyClass : SafetyClass
  reason : ControlRefusalReason
  deriving Repr, DecidableEq

inductive ReadbackAvailability where
  | unsupported | unavailable
  deriving Repr, DecidableEq

inductive SessionOutput where
  | subscribe
  | write (payload : WritePayload) (mode : WriteMode)
  | linkUp (time : Nat)
  | linkDown
  | tick (time : Nat)
  | telemetry (delta : TelemetryDelta)
  | readOnlyResponse (command : CommandKind) (availability : ReadbackAvailability)
  | controlRefusal (refusal : ControlRefusal)
  | wrongChannel (byteLen time : Nat)
  -- What the decoder reports besides telemetry: readbacks, diagnostics, ingest outcomes.
  | decoded (description : List Byte)
  deriving Repr, DecidableEq

inductive SessionInput where
  | linkUp (time : Nat)
  | linkDown
  | notification (subscribed : Bool) (bytes : List Byte) (time : Nat)
  | tick (time : Nat)
  | command (command : DeviceCommand)
  deriving Repr, DecidableEq

inductive VeteranCommandMode where
  | ascii | binary
  deriving Repr, DecidableEq

inductive ControlEncodingContext where
  | default
  | veteran (mode : VeteranCommandMode)
  deriving Repr, DecidableEq

/-- A request for a reading: it is written, or the wheel sends it unasked. -/
inductive RequestDisposition where
  | passive (command : CommandKind)
  | writes (requests : List EncodedControl)
  deriving Repr, DecidableEq

/-- What a wheel model brings along, with its notification decoder. -/
structure WheelModel (δ : Type) where
  model : String
  isVesc : Bool
  maxSettingsSpeed : Option Int
  readCapabilities : CommandKind → Bool
  writeCapabilities : CommandKind → Bool
  controlCapabilities : CommandKind → Bool
  encodeReadCommand : CommandKind → Option RequestDisposition
  select : DeviceCommand → ControlEncodingContext → Option Selection
  reset : δ → δ
  onTick : δ → Nat → δ × List SessionOutput
  onReadCommand : δ → CommandKind → δ × List SessionOutput × Bool
  controlEncodingContext : δ → ControlEncodingContext
  handleNotification : δ → List Byte → Nat → δ × List SessionOutput

structure ReadOnlySession (δ : Type) where
  connected : Bool := false
  decoder : δ

def unavailableReadbackResponse : CommandKind → List SessionOutput
  | .requestBatteryInfo => [.readOnlyResponse .requestBatteryInfo .unavailable]
  | .requestFaultHistory => [.readOnlyResponse .requestFaultHistory .unavailable]
  | .requestSettings => [.readOnlyResponse .requestSettings .unavailable]
  | _ => []

section Sessions
variable {δ : Type} (wheel : WheelModel δ)

def pushReadRequest (kind : CommandKind) : List SessionOutput :=
  match wheel.encodeReadCommand kind with
  | some (.writes requests) => requests.map fun request => .write request.payload request.mode
  | some (.passive command) => unavailableReadbackResponse command
  | none => unavailableReadbackResponse kind

/-- `handle_read_only_session`. -/
def ReadOnlySession.handle (session : ReadOnlySession δ) : SessionInput → ReadOnlySession δ × List SessionOutput
  | .linkUp time =>
    let (decoder, outputs) := wheel.onTick (wheel.reset session.decoder) time
    (⟨true, decoder⟩, outputs ++ [.linkUp time, .subscribe])
  | .linkDown => (⟨false, wheel.reset session.decoder⟩, [.linkDown])
  | .tick time =>
    if session.connected then
      let (decoder, outputs) := wheel.onTick session.decoder time
      ({ session with decoder }, outputs ++ [.tick time])
    else (session, [.tick time])
  | .notification subscribed bytes time =>
    if session.connected = false then (session, [])
    else if subscribed then
      let (decoder, outputs) := wheel.handleNotification session.decoder bytes time
      ({ session with decoder }, outputs)
    else (session, [.wrongChannel bytes.length time])
  | .command command =>
    let kind := command.kind
    if safetyClass kind = .readOnly ∧ wheel.readCapabilities kind = true then
      if session.connected = true ∨ wheel.isVesc = false then
        let (decoder, outputs, handled) := wheel.onReadCommand session.decoder kind
        ({ session with decoder }, outputs ++ if handled then [] else pushReadRequest wheel kind)
      else (session, [])
    else match kind with
      | .requestSettings => (session, [.readOnlyResponse .requestSettings .unsupported])
      | .requestFaultHistory => (session, [.readOnlyResponse .requestFaultHistory .unsupported])
      | .requestBatteryInfo => (session, [.readOnlyResponse .requestBatteryInfo .unsupported])
      | _ => (session, [])

structure PendingSettingsSequence where
  remaining : List EncodedControlStep
  nextAt : Nat
  expiresAt : Nat
  deriving Repr, DecidableEq

def EncodedControlStep.bindOperation (control : EncodedControlStep) (operationId : Nat) : EncodedControlStep :=
  { control with payload := { control.payload with operationId := some operationId } }

structure StationarySettingsWriteSession (δ : Type) where
  readOnly : ReadOnlySession δ
  arm : Option StationarySettingsArm := none
  monotonic : Nat := 0
  pendingSequence : Option PendingSettingsSequence := none
  latestSettingsSpeed : Option (Int × Nat) := none
  latestSettingsChargeMode : Option (ChargeMode × Nat) := none
  settingsCancellationGeneration : Nat := 0

def settingsEvidenceFor : Nat := 2000

namespace StationarySettingsWriteSession

def withDecoder (decoder : δ) : StationarySettingsWriteSession δ := { readOnly := { decoder } }

def installArm (session : StationarySettingsWriteSession δ) (arm : StationarySettingsArm) :
    StationarySettingsWriteSession δ :=
  { session with
    monotonic := arm.issuedAt
    pendingSequence := session.pendingSequence.filter fun pending => decide (arm.issuedAt ≤ pending.expiresAt)
    arm := some arm }

def setMonotonic (session : StationarySettingsWriteSession δ) (time : Nat) : StationarySettingsWriteSession δ :=
  { session with monotonic := time }

def clearArm (session : StationarySettingsWriteSession δ) : StationarySettingsWriteSession δ :=
  { session with
    arm := none
    pendingSequence := none
    settingsCancellationGeneration := saturatingAdd session.settingsCancellationGeneration 1 }

def bindSettingOperation (session : StationarySettingsWriteSession δ) (operationId : Nat) :
    StationarySettingsWriteSession δ × Option SettingWriteAuthorization × Nat :=
  ({ session with pendingSequence := session.pendingSequence.map fun pending =>
      { pending with remaining := pending.remaining.map fun control => control.bindOperation operationId } },
    session.arm.map fun arm => ⟨arm, session.settingsCancellationGeneration⟩,
    (session.pendingSequence.map fun pending => pending.remaining.length).getD 0)

def freshSettingsSpeed (session : StationarySettingsWriteSession δ) (now : Nat) : Option Int :=
  (session.latestSettingsSpeed.filter fun latest =>
    decide (latest.2 ≤ now ∧ now - latest.2 ≤ settingsEvidenceFor)).map Prod.fst

def freshSettingsCharging (session : StationarySettingsWriteSession δ) (now : Nat) : Bool :=
  session.latestSettingsChargeMode.any fun latest =>
    latest.1.isActive && decide (latest.2 ≤ now ∧ now - latest.2 ≤ settingsEvidenceFor)

def observeSpeed (session : StationarySettingsWriteSession δ) (speed : Int) (at_ : Nat) :
    StationarySettingsWriteSession δ :=
  if session.latestSettingsSpeed.all fun latest => decide (latest.2 ≤ at_) then
    let session := { session with latestSettingsSpeed := some (speed, at_) }
    if (wheel.maxSettingsSpeed.getD 0).natAbs < speed.natAbs then session.clearArm else session
  else session

def observeChargeMode (session : StationarySettingsWriteSession δ) (mode : ChargeMode) (at_ : Nat) :
    StationarySettingsWriteSession δ :=
  if session.latestSettingsChargeMode.all fun latest => decide (latest.2 ≤ at_) then
    let wasCharging := session.latestSettingsChargeMode.any fun latest => latest.1.isActive
    let session := { session with latestSettingsChargeMode := some (mode, at_) }
    if wasCharging ∧ mode.isActive = false then session.clearArm else session
  else session

/-- One telemetry update as settings take it: the speed first, then the charging mode. -/
def observeDelta (session : StationarySettingsWriteSession δ) (delta : TelemetryDelta) :
    StationarySettingsWriteSession δ :=
  let session := match delta.speed with
    | some speed => session.observeSpeed wheel speed delta.at_
    | none => session
  match delta.chargeMode with
  | some mode => session.observeChargeMode mode delta.at_
  | none => session

def observeSettingsTelemetry (session : StationarySettingsWriteSession δ) (outputs : List SessionOutput) :
    StationarySettingsWriteSession δ :=
  outputs.foldl (fun session output => match output with
    | .telemetry delta => session.observeDelta wheel delta
    | _ => session) session

/-- The part of `handle_tick` behind the read-only session: the step that is due. -/
def advanceSequence (session : StationarySettingsWriteSession δ) (now : Nat) :
    StationarySettingsWriteSession δ × Option EncodedControlStep :=
  match session.pendingSequence with
  | none => (session, none)
  | some pending =>
    if now < pending.nextAt then (session, none)
    else if (session.arm.all fun arm => !arm.isValidFor wheel.model now) ∨ pending.expiresAt < now then
      ({ session with pendingSequence := none }, none)
    else match pending.remaining with
      | [] => (session, none)
      | control :: later =>
        ({ session with pendingSequence := later.head?.map fun next =>
            { pending with remaining := later, nextAt := saturatingAdd now next.delayMs } }, some control)

/-- The session as a tick finds it: arms do not outlive the evidence they rest on. -/
def expireEvidence (session : StationarySettingsWriteSession δ) (now : Nat) : StationarySettingsWriteSession δ :=
  let session := { session with monotonic := now }
  if (session.latestSettingsSpeed.isSome ∨ session.latestSettingsChargeMode.isSome) ∧
      session.freshSettingsSpeed now = none ∧ session.freshSettingsCharging now = false then session.clearArm
  else session

def handleTick (session : StationarySettingsWriteSession δ) (now : Nat) :
    StationarySettingsWriteSession δ × List SessionOutput :=
  let session := session.expireEvidence now
  let (readOnly, outputs) := session.readOnly.handle wheel (.tick now)
  let (session, control) := { session with readOnly }.advanceSequence wheel now
  (session, outputs ++ control.toList.map fun control => .write control.payload control.mode)

def refusal (command : DeviceCommand) (reason : ControlRefusalReason) : SessionOutput :=
  .controlRefusal ⟨command.kind, command.safetyClass, reason⟩

/-- Why a stationary command is not taken. -/
def refusalReason (session : StationarySettingsWriteSession δ) (command : DeviceCommand) : Option ControlRefusalReason :=
  if wheel.writeCapabilities command.kind = false then some .unsupportedCommand
  else if session.pendingSequence.isSome then some .busy
  else match session.arm with
    | none => some .missingArm
    | some arm =>
      if arm.model ≠ wheel.model then some .wrongModel
      else if arm.isValidFor wheel.model session.monotonic = false then some .expiredArm
      else none

def handleStationaryCommand (session : StationarySettingsWriteSession δ) (command : DeviceCommand) :
    StationarySettingsWriteSession δ × List SessionOutput :=
  match session.refusalReason wheel command with
  | some reason => (session, [refusal command reason])
  | none =>
    let selection := wheel.select command (wheel.controlEncodingContext session.readOnly.decoder)
    match selection.bind Selection.sequence with
    | some [] => (session, [refusal command .unsupportedCommand])
    | some (first :: remaining) =>
      ({ session with pendingSequence := match remaining.head?, session.arm with
          | some next, some arm =>
            some ⟨remaining, saturatingAdd session.monotonic next.delayMs, arm.expiresAt⟩
          | _, _ => none },
        [.write first.payload first.mode])
    | none =>
      match selection.bind Selection.single with
      | some encoded => (session, [.write encoded.payload encoded.mode])
      | none => (session, [refusal command .unsupportedCommand])

def handleBenignSetting (session : StationarySettingsWriteSession δ) (command : DeviceCommand) : List SessionOutput :=
  if wheel.writeCapabilities command.kind = false ∨ session.pendingSequence.isSome then
    [refusal command (if session.pendingSequence.isSome then .busy else .unsupportedCommand)]
  else
    match (wheel.select command (wheel.controlEncodingContext session.readOnly.decoder)).bind Selection.single with
    | some encoded => [.write encoded.payload encoded.mode]
    | none => [refusal command .unsupportedCommand]

def handleBenignControl (session : StationarySettingsWriteSession δ) (command : DeviceCommand) : List SessionOutput :=
  let encoded := if wheel.controlCapabilities command.kind then
      (wheel.select command (wheel.controlEncodingContext session.readOnly.decoder)).bind Selection.single
    else none
  match encoded with
  | some encoded => [.write encoded.payload encoded.mode]
  | none => [refusal command .unsupportedCommand]

/-- The inputs whose telemetry settings look at. -/
def handleReadOnly (session : StationarySettingsWriteSession δ) (input : SessionInput) :
    StationarySettingsWriteSession δ × List SessionOutput :=
  let (readOnly, outputs) := session.readOnly.handle wheel input
  ({ session with readOnly }.observeSettingsTelemetry wheel outputs, outputs)

def handle (session : StationarySettingsWriteSession δ) (input : SessionInput) :
    StationarySettingsWriteSession δ × List SessionOutput :=
  match input with
  | .tick now => session.handleTick wheel now
  | .linkDown | .linkUp _ =>
    let session := { session.clearArm with latestSettingsSpeed := none, latestSettingsChargeMode := none }
    let (readOnly, outputs) := session.readOnly.handle wheel input
    ({ session with readOnly }, outputs)
  | .command command =>
    if command.safetyClass = .stationaryOnly then session.handleStationaryCommand wheel command
    else if command.safetyClass = .benignControl then
      (session, match command with
        | .setSetting _ _ => session.handleBenignSetting wheel command
        | _ => session.handleBenignControl wheel command)
    else session.handleReadOnly wheel (.command command)
  | .notification _ _ _ => session.handleReadOnly wheel input

end StationarySettingsWriteSession

end Sessions

inductive StationaryCall where
  | installArm (arm : StationarySettingsArm)
  | setMonotonic (time : Nat)
  | clearArm
  | bindSettingOperation (operationId : Nat)
  | handle (input : SessionInput)
  deriving Repr, DecidableEq

def StationarySettingsWriteSession.step {δ : Type} (wheel : WheelModel δ) (session : StationarySettingsWriteSession δ) :
    StationaryCall → StationarySettingsWriteSession δ × List SessionOutput
  | .installArm arm => (session.installArm arm, [])
  | .setMonotonic time => (session.setMonotonic time, [])
  | .clearArm => (session.clearArm, [])
  | .bindSettingOperation operationId => ((session.bindSettingOperation operationId).1, [])
  | .handle input => session.handle wheel input

/-- The decoder of a Falcon that sends whole live frames: without battery frames no charging is inferred. -/
structure FalconDecoder where
  lastInputAt : Option Nat := none
  lastChargeMode : Option ChargeMode := none
  deriving Repr, DecidableEq

namespace FalconDecoder

/-- A live frame: the speed stands behind the voltage, in centimetres per second. -/
def handleNotification (decoder : FalconDecoder) (bytes : List Byte) (time : Nat) : FalconDecoder × List SessionOutput :=
  match BegodeFrame.tryFromSlice bytes with
  | .error _ => (decoder, [.decoded bytes])
  | .ok frame =>
    if frame.bytes[18]? ≠ some 0 then (decoder, [.decoded bytes])
    else
      let speed := 10 * signedFromBe ((frame.bytes.drop 4).take 2)
      -- An input behind the latest one starts the inference over.
      let regressed := decoder.lastInputAt.any fun latest => decide (time < latest)
      let mode := if regressed then ChargeMode.unknown
        else if connectedWheelMovementThreshold ≤ speed.natAbs then .notCharging else .unknown
      (⟨if regressed then none else some time, some mode⟩, [.telemetry ⟨some speed, some mode, time⟩, .decoded bytes])

def onTick (decoder : FalconDecoder) (time : Nat) : FalconDecoder × List SessionOutput :=
  let lastInputAt := if decoder.lastInputAt.any fun latest => decide (time < latest) then none else some time
  if decoder.lastChargeMode.all fun mode => decide (mode = .unknown) then ({ decoder with lastInputAt }, [])
  else (⟨lastInputAt, some .unknown⟩, [.telemetry ⟨none, some .unknown, time⟩])

end FalconDecoder

def falcon : WheelModel FalconDecoder where
  model := "Falcon"
  isVesc := false
  maxSettingsSpeed := none
  readCapabilities kind := kind ∈ [.requestIdentity, .requestFirmwareInfo, .requestTelemetry, .requestBatteryInfo]
  writeCapabilities kind := kind = .setSetting
  controlCapabilities kind := kind = .setLights
  encodeReadCommand
    | .requestIdentity => some (.writes [⟨⟨[0x4e], none⟩, .withoutResponse⟩])
    | .requestFirmwareInfo => some (.writes [⟨⟨[0x56], none⟩, .withoutResponse⟩])
    | .requestTelemetry => some (.passive .requestTelemetry)
    | .requestBatteryInfo => some (.passive .requestBatteryInfo)
    | _ => none
  select command _ := falconSelect command
  reset _ := {}
  onTick := FalconDecoder.onTick
  onReadCommand decoder _ := (decoder, [], false)
  controlEncodingContext _ := .default
  handleNotification := FalconDecoder.handleNotification

end Cutout.Wheels

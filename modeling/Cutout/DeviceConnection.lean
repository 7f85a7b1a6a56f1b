import Cutout.ApplicationQuery
import Cutout.ConnectionLifecycle
import Cutout.ControlWire
import Cutout.DeviceSettingsState
import Cutout.PhoneDrive

/-! The connection session of a device, and the motor commands it issues for phone input.
A command is prepared for a gesture under an explicit activation, emitted once, and
retired by its receipt or its deadline. The decoder of the device is seen through the
queries the session makes of it. Times are milliseconds. -/

namespace Cutout.Connections
open Cutout.Core Library
open Protocols (Byte SettingId DeviceSettingValue VescApplicationDiscovery ApplicationQueryTransportStatus u64Max)
open Wheels (SafetyClass)

inductive ProtocolFamily where
  | veteranLeaperkimNosfet | begodeGotway | vesc
  deriving Repr, DecidableEq

inductive VehicleKind where
  | unknown | electricUnicycle | onewheel | scooter | eskate | ebike | emoto
  deriving Repr, DecidableEq

inductive VehicleClassificationProvenance where
  | unknown | protocol | userProvided
  deriving Repr, DecidableEq

structure VehicleClassification where
  kind : VehicleKind := .unknown
  provenance : VehicleClassificationProvenance := .unknown
  deriving Repr, DecidableEq

/-- `VehicleClassification::user_provided`: unknown is not a completed choice. -/
def VehicleClassification.ofUser : VehicleKind → Option VehicleClassification
  | .unknown => none
  | kind => some ⟨kind, .userProvided⟩

structure DeviceSessionIdentity where
  protocol : ProtocolFamily
  classification : VehicleClassification := {}
  vescApplication : Option VescApplicationDiscovery := none
  deriving Repr, DecidableEq

/-- What the session asks its decoder. -/
structure DecoderView where
  identity : DeviceSessionIdentity
  settingsBusy : Bool := false
  settingsReadRequiresReconnect : Nat → Bool := fun _ => false
  command : SettingId → DeviceSettingValue → Bool → Option SafetyClass := fun _ _ _ => none
  completion : SettingId → Bool → SettingCompletionStrategy := fun _ _ => .submissionOnly
  settingMutationSubmittedAt : Nat → Option Nat := fun _ => none
  settingWriteIsCurrent : Nat → Nat → Bool := fun _ _ => false
  settingReadTransportIsCurrent : Nat → Nat → Bool := fun _ _ => false

structure SettingTransportOperation where
  requestId : Nat
  acceptedAt : Nat
  receiptAt : Nat
  authorization : Option Nat
  remainingReceipts : Nat
  deriving Repr, DecidableEq

inductive PhoneDriveActivationError where
  | connectionUnavailable | vehicleUnsupported | settingsNotLoaded | modeDisabled | inputHeld | busy
  | clockRegression | inputGenerationChanged | identifierExhausted | controllerFault
  deriving Repr, DecidableEq

inductive PhoneDriveAvailability where
  | disconnected
  | vehicleUnsupported
  | ready
  | active (activation : Nat)
  deriving Repr, DecidableEq

structure Activation where
  id : Nat
  limits : PhoneDriveLimits
  observedAt : Option Nat
  nextSetpointAt : Option Nat
  deriving Repr, DecidableEq

structure PendingWrite where
  admission : PhoneDriveWrite
  action : Option PhoneDriveAction
  milliamps : Nat
  issuedAt : Nat
  emitted : Bool
  deriving Repr, DecidableEq

structure PhoneDriveControl where
  activation : Option Activation := none
  pending : Option PendingWrite := none
  nextActivation : Nat := 0
  nextSequence : Nat := 0
  controllerFault : Bool := false
  deriving Repr, DecidableEq

/-- A drive write on its way to the transport, with its bytes. -/
structure EmittedWrite where
  admission : PhoneDriveWrite
  bytes : List Byte
  deriving Repr, DecidableEq

structure DeviceConnectionSession where
  connection : ConnectionAttemptLifecycle := {}
  settings : DeviceSettingsState := {}
  -- The counter of request ids is shared by the process.
  nextRequestId : Nat := 1
  phoneDriveInput : PhoneDriveInputState := {}
  phoneDriveLimits : PhoneDriveLimits := default
  device : Option DecoderView := none
  lastInputAt : Nat := 0
  userVehicleClassification : Option VehicleClassification := none
  validationGrant : Option Nat := none
  settingOperations : OrderedMap SettingId SettingTransportOperation settingRank := .empty
  phoneDriveControl : PhoneDriveControl := {}
  phoneDrivePreferencesToken : Option ConnectionAttemptToken := none
  phoneDriveSettingsPresentedFor : Option ConnectionAttemptToken := none

def cadence : Nat := 50
def inputMaxAge : Nat := 150
def submissionWindow : Nat := 50

def checkedAdd (a b : Nat) : Option Nat := if a + b ≤ u64Max then some (a + b) else none

/-- The gesture ends, the activation stays. -/
def gestureLocalCancel : PhoneDriveCancelReason → Bool
  | .regionLeft | .multipleContacts | .contactReplaced | .invalidContact => true
  | _ => false

def PendingWrite.isRelease (pending : PendingWrite) : Bool := decide (pending.admission.kind = .release)

namespace DeviceConnectionSession

def phoneDriveAvailability (session : DeviceConnectionSession) : PhoneDriveAvailability :=
  match session.connection.snapshot.token with
  | none => .disconnected
  | some token =>
    if session.connection.isVerified token = false then .disconnected
    else match session.device with
      | none => .disconnected
      | some device =>
        if device.identity.protocol = .vesc ∧ device.identity.classification.kind = .eskate ∧
            device.identity.vescApplication = some .absent then
          match session.phoneDriveControl.activation with
          | some activation => .active activation.id
          | none => .ready
        else .vehicleUnsupported

def phoneDriveAvailable (session : DeviceConnectionSession) : Bool :=
  match session.phoneDriveAvailability with
  | .ready | .active _ => true
  | .disconnected | .vehicleUnsupported => false

/-- Retires the activation and its write where the next one cannot be counted or timed. -/
def exhaustPhoneDrive (session : DeviceConnectionSession) : DeviceConnectionSession :=
  { session with
    phoneDriveControl := { session.phoneDriveControl with activation := none, pending := none }
    phoneDriveInput := session.phoneDriveInput.cancel .generationExhausted }

/-- Replaces the pending write; without an action it is a release. -/
def preparePhoneDriveWrite (session : DeviceConnectionSession) (action : Option PhoneDriveAction) (milliamps at_ : Nat) :
    DeviceConnectionSession :=
  match session.phoneDriveControl.activation with
  | none => session
  | some activation =>
    match checkedAdd session.phoneDriveControl.nextSequence 1, checkedAdd at_ submissionWindow with
    | some sequence, some deadline =>
      match session.phoneDriveInput.generation with
      | none => session
      | some generation =>
        { session with phoneDriveControl := { session.phoneDriveControl with
            nextSequence := sequence
            pending := some
              { admission :=
                  { activationId := activation.id
                    sequence
                    generation
                    submitBefore := deadline
                    kind := if action.isSome then .setpoint else .release }
                action
                milliamps
                issuedAt := at_
                emitted := false }
            activation := some { activation with nextSetpointAt := action.bind fun _ => checkedAdd at_ cadence } } }
    | _, _ => session.exhaustPhoneDrive

def hasPendingRelease (session : DeviceConnectionSession) : Bool :=
  session.phoneDriveControl.pending.any PendingWrite.isRelease

/-- A changed connection drops everything; other reasons retire held input and keep a neutral write. -/
def cancelPhoneDrive (session : DeviceConnectionSession) (reason : PhoneDriveCancelReason) : DeviceConnectionSession :=
  if reason = .connectionChanged then
    { session with
      phoneDriveControl := { session.phoneDriveControl with activation := none, pending := none, controllerFault := false }
      phoneDrivePreferencesToken := none
      phoneDriveSettingsPresentedFor := none
      phoneDriveInput := (session.phoneDriveInput.setMode .disabled).cancel reason
      phoneDriveLimits := default }
  else
    let session := { session with phoneDriveInput := session.phoneDriveInput.cancel reason }
    if session.phoneDriveControl.activation.isNone then session
    else
      let session := if session.hasPendingRelease then session
        else session.preparePhoneDriveWrite none 0 session.lastInputAt
      let activation := if gestureLocalCancel reason then
          session.phoneDriveControl.activation.map fun activation => { activation with nextSetpointAt := none }
        else none
      { session with phoneDriveControl := { session.phoneDriveControl with activation } }

def cancelPhoneDriveAt (session : DeviceConnectionSession) (reason : PhoneDriveCancelReason) (at_ : Nat) :
    DeviceConnectionSession :=
  { session with lastInputAt := max session.lastInputAt at_ }.cancelPhoneDrive reason

def activatePhoneDrive (session : DeviceConnectionSession) (token : ConnectionAttemptToken)
    (expectedInputGeneration : Nat) (limits : PhoneDriveLimits) (at_ : Nat) :
    DeviceConnectionSession × Except PhoneDriveActivationError Nat :=
  if session.connection.isVerified token = false then (session, .error .connectionUnavailable)
  else if session.phoneDriveInput.generation ≠ some expectedInputGeneration then (session, .error .inputGenerationChanged)
  else if session.phoneDrivePreferencesToken ≠ some token then (session, .error .settingsNotLoaded)
  else if session.phoneDriveSettingsPresentedFor = some token then (session, .error .busy)
  else if session.phoneDriveAvailable = false then (session, .error .vehicleUnsupported)
  else if session.phoneDriveInput.mode = .disabled then (session, .error .modeDisabled)
  else if at_ < session.lastInputAt then (session, .error .clockRegression)
  else if session.phoneDriveControl.controllerFault then (session, .error .controllerFault)
  else
    let blocked := session.phoneDriveControl.pending.any fun pending =>
      pending.isRelease && decide (at_ < pending.admission.submitBefore)
    if blocked then (session, .error .busy)
    else
      -- A release that was never submitted costs the activation.
      let session := if session.hasPendingRelease then
          { session with
            phoneDriveControl := { session.phoneDriveControl with pending := none, activation := none }
            phoneDriveInput := session.phoneDriveInput.cancel .transportUnavailable }
        else session
      if session.phoneDriveInput.phase ≠ .idle then (session, .error .inputHeld)
      else if (session.device.any DecoderView.settingsBusy) = true ∨ session.settingOperations.items ≠ [] then
        (session, .error .busy)
      else match checkedAdd session.phoneDriveControl.nextActivation 1 with
        | none => (session, .error .identifierExhausted)
        | some next =>
          let session := { session with phoneDriveInput := session.phoneDriveInput.cancel .activationChanged }
          if session.phoneDriveInput.generation.isNone then (session, .error .identifierExhausted)
          else
            ({ session with
                phoneDriveControl := { session.phoneDriveControl with
                  nextActivation := next
                  pending := none
                  activation := some ⟨next, limits, none, none⟩ }
                lastInputAt := at_ }, .ok next)

/-- Whether the device takes part in a drive step at all. -/
def phoneDriveStep (session : DeviceConnectionSession) (token : ConnectionAttemptToken) (at_ : Nat) :
    DeviceConnectionSession × Bool :=
  if session.connection.isVerified token = false then (session, false)
  else ({ session with lastInputAt := max session.lastInputAt at_ },
    session.device.any fun device => decide (device.identity.protocol = .vesc))

/-- Emits the pending write once, before its deadline. -/
def appendPhoneDriveWrite (session : DeviceConnectionSession) (at_ : Nat) (canSubmit : Bool) :
    DeviceConnectionSession × Option EmittedWrite :=
  match session.phoneDriveControl.pending with
  | none => (session, none)
  | some pending =>
    if pending.emitted = true ∨ canSubmit = false ∨ pending.admission.submitBefore ≤ at_ then (session, none)
    else match encodePhoneDriveCurrent pending.action pending.milliamps with
      | none =>
        ({ session with
            phoneDriveControl := { session.phoneDriveControl with activation := none, pending := none }
            phoneDriveInput := session.phoneDriveInput.cancel .transportUnavailable }, none)
      | some bytes =>
        ({ session with phoneDriveControl :=
            { session.phoneDriveControl with pending := some { pending with emitted := true } } },
          some ⟨pending.admission, bytes⟩)

/-- The end of a drive call: the step of the device, with the write in front. -/
def emitPhoneDrive (session : DeviceConnectionSession) (token : ConnectionAttemptToken) (at_ : Nat) (canSubmit : Bool) :
    DeviceConnectionSession × Option (Option EmittedWrite) :=
  let stepped := session.phoneDriveStep token at_
  if stepped.2 then
    let emitted := stepped.1.appendPhoneDriveWrite at_ canSubmit
    (emitted.1, some emitted.2)
  else (stepped.1, none)

def inputExpired (activation : Activation) (at_ : Nat) : Bool :=
  activation.observedAt.all fun observed => decide (at_ < observed ∨ inputMaxAge ≤ at_ - observed)

/-- A held contact without a fresh observation ends. -/
def expireInput (session : DeviceConnectionSession) (at_ : Nat) : DeviceConnectionSession :=
  match session.phoneDriveInput.phase, session.phoneDriveControl.activation with
  | .pressed _, some activation =>
    if inputExpired activation at_ then { session with lastInputAt := at_ }.cancelPhoneDrive .inputExpired else session
  | _, _ => session

def dropWrite (session : DeviceConnectionSession) (at_ : Nat) : DeviceConnectionSession :=
  { session with
    phoneDriveControl := { session.phoneDriveControl with pending := none }
    lastInputAt := at_ }

/-- A write that reached its deadline is dropped: a setpoint for a release, a release for nothing. -/
def expireWrite (session : DeviceConnectionSession) (at_ : Nat) : DeviceConnectionSession :=
  match session.phoneDriveControl.pending with
  | none => session
  | some pending =>
    if at_ < pending.admission.submitBefore then session
    else
      let session := session.dropWrite at_
      match pending.admission.kind with
      | .setpoint => session.cancelPhoneDrive .transportUnavailable
      | .release => { session with
          phoneDriveControl := { session.phoneDriveControl with activation := none }
          phoneDriveInput := session.phoneDriveInput.cancel .transportUnavailable }

def advancePhoneDriveDeadlines (session : DeviceConnectionSession) (at_ : Nat) : DeviceConnectionSession :=
  (session.expireInput at_).expireWrite at_

/-- The next setpoint of a held contact, once it is due. -/
def renewSetpoint (session : DeviceConnectionSession) (at_ : Nat) (canSubmit : Bool) : DeviceConnectionSession :=
  match session.phoneDriveControl.activation, session.phoneDriveInput.phase with
  | some activation, .pressed action =>
    if canSubmit = true ∧ session.phoneDriveControl.pending.isNone = true ∧
        (activation.nextSetpointAt.any fun due => decide (due ≤ at_)) = true then
      session.preparePhoneDriveWrite (some action) (activation.limits.of action) at_
    else session
  | _, _ => session

def tickPhoneDrive (session : DeviceConnectionSession) (token : ConnectionAttemptToken) (at_ : Nat) (canSubmit : Bool) :
    DeviceConnectionSession × Option (Option EmittedWrite) :=
  if session.connection.isVerified token = false then (session, none)
  else
    let session := if at_ < session.lastInputAt then session.cancelPhoneDrive .inputExpired else session
    let at_ := max at_ session.lastInputAt
    ((session.advancePhoneDriveDeadlines at_).renewSetpoint at_ canSubmit).emitPhoneDrive token at_ canSubmit

/-- Contacts whose times do not fit the clock or the contacts before them. -/
def refusesContacts (session : DeviceConnectionSession) (observedAt at_ : Nat) : Bool :=
  decide (at_ < session.lastInputAt) || decide (at_ < observedAt) || decide (inputMaxAge ≤ at_ - observedAt) ||
    (session.phoneDriveControl.activation.bind Activation.observedAt).any fun previous => decide (observedAt < previous)

/-- The gesture behind an observation. A fresh contact cannot bypass an unsent neutral, or replay once it submits. -/
def observeGesture (session : DeviceConnectionSession) (generation : Nat) (contacts : PhoneDriveContacts) :
    DeviceConnectionSession :=
  let session := if session.phoneDriveAvailable then
      { session with phoneDriveInput := session.phoneDriveInput.observe generation contacts }
    else session
  match session.phoneDriveInput.phase with
  | .pressed _ =>
    if session.hasPendingRelease then
      { session with phoneDriveInput := session.phoneDriveInput.observe generation .invalid }
    else session
  | _ => session

/-- What the gesture asks for under a live activation. -/
def followGesture (session : DeviceConnectionSession) (before : PhoneDriveInputPhase) (observedAt at_ : Nat) :
    DeviceConnectionSession :=
  match session.phoneDriveControl.activation with
  | none => session
  | some activation =>
    let observed := { activation with observedAt := some observedAt }
    match session.phoneDriveInput.phase with
    | .pressed action =>
      let session := { session with phoneDriveControl := { session.phoneDriveControl with activation := some observed } }
      if before ≠ .pressed action then session.preparePhoneDriveWrite (some action) (activation.limits.of action) at_
      else session
    | .idle =>
      let session := { session with phoneDriveControl :=
        { session.phoneDriveControl with activation := some { observed with nextSetpointAt := none } } }
      match before with
      | .pressed _ => session.preparePhoneDriveWrite none 0 at_
      | _ => session
    | .cancelled reason =>
      let session := { session with phoneDriveControl :=
        { session.phoneDriveControl with activation := some { observed with nextSetpointAt := none } } }
      if before = .cancelled reason then session
      else if gestureLocalCancel reason then
        if session.hasPendingRelease then session else session.preparePhoneDriveWrite none 0 at_
      else session.cancelPhoneDrive reason

def observePhoneDriveContactsAt (session : DeviceConnectionSession) (token : ConnectionAttemptToken) (generation : Nat)
    (contacts : PhoneDriveContacts) (observedAt at_ : Nat) : DeviceConnectionSession × Option (Option EmittedWrite) :=
  if session.connection.isVerified token = false then (session, none)
  else if session.phoneDrivePreferencesToken ≠ some token ∨ session.phoneDriveSettingsPresentedFor = some token then
    (session, none)
  else if session.phoneDriveInput.generation ≠ some generation then
    let stepped := session.phoneDriveStep token (max at_ session.lastInputAt)
    (stepped.1, if stepped.2 then some none else none)
  else if session.refusesContacts observedAt at_ then
    (session.cancelPhoneDrive .inputExpired).tickPhoneDrive token (max session.lastInputAt at_) true
  else
    let observed := { session with lastInputAt := at_ }.observeGesture generation contacts
    (observed.followGesture session.phoneDriveInput.phase observedAt at_).emitPhoneDrive token at_ true

def markPhoneDriveTransport (session : DeviceConnectionSession) (token : ConnectionAttemptToken) (write : PhoneDriveWrite)
    (status : ApplicationQueryTransportStatus) (at_ : Nat) : DeviceConnectionSession × Bool :=
  let owns := session.phoneDriveControl.pending.any fun pending =>
    decide (pending.admission = write) && decide (pending.issuedAt ≤ at_)
  if session.connection.isVerified token = false ∨
      (session.phoneDriveSettingsPresentedFor = some token ∧ write.kind = .setpoint) ∨ owns = false then (session, false)
  else
    let retired := { session with phoneDriveControl := { session.phoneDriveControl with pending := none } }
    match status with
    | .queued => (session, true)
    | .submitted => (retired, true)
    | .rejected | .cancelled | .submissionUnknown =>
      match write.kind with
      | .setpoint =>
        ({ retired with lastInputAt := max session.lastInputAt at_ }.cancelPhoneDrive .transportUnavailable, true)
      | .release =>
        ({ retired with
            phoneDriveControl := { retired.phoneDriveControl with activation := none }
            phoneDriveInput := session.phoneDriveInput.cancel .transportUnavailable }, true)

def phoneDriveTargetIsCurrent (session : DeviceConnectionSession) (token : ConnectionAttemptToken) : Bool :=
  session.phoneDriveAvailable && session.connection.isVerified token

def applyPhoneDrivePreferences (session : DeviceConnectionSession) (token : ConnectionAttemptToken)
    (mode : PhoneControlMode) (limits : PhoneDriveLimits) : DeviceConnectionSession × Bool :=
  if session.phoneDriveTargetIsCurrent token = false then (session, false)
  else
    let session := if session.phoneDriveInput.mode ≠ mode then session.cancelPhoneDrive .modeChanged
      else if session.phoneDriveLimits ≠ limits then session.cancelPhoneDrive .activationChanged
      else session
    ({ session with
        phoneDriveInput := session.phoneDriveInput.setMode mode
        phoneDriveLimits := limits
        phoneDrivePreferencesToken := some token }, true)

/-- Opening the settings sheet retires held input and activation; dismissing it restores neither. -/
def setPhoneDriveSettingsPresented (session : DeviceConnectionSession) (token : ConnectionAttemptToken)
    (presented : Bool) : DeviceConnectionSession × Bool :=
  if session.phoneDriveTargetIsCurrent token = false then (session, false)
  else if presented then
    (if session.phoneDriveSettingsPresentedFor ≠ some token then
      { session.cancelPhoneDrive .navigation with phoneDriveSettingsPresentedFor := some token }
    else session, true)
  else if session.phoneDriveSettingsPresentedFor = some token then
    ({ session with phoneDriveSettingsPresentedFor := none }, true)
  else (session, false)

/-- The fault codes of one input, in order. -/
def observePhoneDriveFault (session : DeviceConnectionSession) (faults : List Int) : DeviceConnectionSession :=
  faults.foldl (fun session fault =>
    let session := { session with phoneDriveControl :=
      { session.phoneDriveControl with controllerFault := decide (fault ≠ 0) } }
    if fault ≠ 0 then session.cancelPhoneDrive .controllerFault else session) session

end DeviceConnectionSession

end Cutout.Connections

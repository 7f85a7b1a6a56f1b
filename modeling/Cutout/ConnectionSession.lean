import Cutout.DeviceConnection

/-! The calls of a connection session: attempts and their ends, decoded input, setting
requests with their receipts, and phone input. What the decoder does inside a call is
part of the call, so a run covers every decoder. -/

namespace Cutout.Connections
open Cutout.Core Library
open Protocols (Byte SettingId DeviceSettingValue VescApplicationDiscovery ApplicationQueryTransportStatus u64Max)
open Wheels (SafetyClass)

/-- What the decoder makes of one input. -/
structure DecoderAnswer where
  view : DecoderView
  refusal : Option ControlRefusalReason := none
  writes : Nat := 0
  failedOperation : Option Nat := none
  readbacks : List (SettingId × Option (Measured DeviceSettingValue)) := []
  faults : List Int := []

inductive SessionInput where
  | notification (at_ : Nat)
  | tick (at_ : Nat)
  | command (readOnly : Bool)
  | commandAt (readOnly : Bool) (at_ : Nat)
  | linkUp (at_ : Nat)
  | linkDown
  deriving Repr, DecidableEq

def SessionInput.time : SessionInput → Option Nat
  | notification at_ | tick at_ | commandAt _ at_ | linkUp at_ => some at_
  | command _ | linkDown => none

/-- How the evidence of an attempt resolves. -/
inductive Resolution where
  | waits
  | decoder (view : DecoderView)
  | recordOnly

inductive DeviceSettingRequestError where
  | connectionUnavailable | busy | configurationReadRequiresReconnect | profile
  deriving Repr, DecidableEq

/-- What the decoder makes of a transport receipt. -/
abbrev RecordTransport := Nat → SettingTransportStatus → Nat → DecoderView → DecoderView

namespace DeviceConnectionSession

def resetForAttempt (session : DeviceConnectionSession) (at_ : Nat) : DeviceConnectionSession :=
  { session.cancelPhoneDrive .connectionChanged with
    lastInputAt := at_
    userVehicleClassification := none
    validationGrant := none
    settings := {}
    settingOperations := .empty
    device := none }

def beginAttempt (session : DeviceConnectionSession) (platformIdentifier : String) (at_ : Nat) : DeviceConnectionSession :=
  let session := session.resetForAttempt at_
  { session with connection := (session.connection.start platformIdentifier at_).1 }

def admitRetry (session : DeviceConnectionSession) (retry at_ : Nat) :
    DeviceConnectionSession × Option ConnectionAttemptToken :=
  let (connection, token) := session.connection.admitRetry retry at_
  match token with
  | none => ({ session with connection }, none)
  | some token => ({ session with connection }.resetForAttempt at_, some token)

def disconnect (session : DeviceConnectionSession) : DeviceConnectionSession :=
  let session := session.cancelPhoneDrive .connectionChanged
  { session with
    connection := session.connection.disconnect
    settings := session.settings.disconnect
    settingOperations := .empty
    device := none
    validationGrant := none }

def clearFailedDevice (session : DeviceConnectionSession) : DeviceConnectionSession :=
  if session.connection.snapshot.readiness = .failed then
    { session with device := none, settings := session.settings.disconnect }
  else session

/-- The end of the current attempt ends phone input. -/
def retireCurrent (session : DeviceConnectionSession) (token : ConnectionAttemptToken) : DeviceConnectionSession :=
  if session.connection.isCurrent token then session.cancelPhoneDrive .connectionChanged else session

def linkDown (session : DeviceConnectionSession) (token : ConnectionAttemptToken) : DeviceConnectionSession :=
  let session := session.retireCurrent token
  { session with connection := (session.connection.linkDown token).1 }.clearFailedDevice

def transportFailed (session : DeviceConnectionSession) (token : ConnectionAttemptToken) : DeviceConnectionSession :=
  let session := session.retireCurrent token
  { session with connection := (session.connection.transportFailed token).1 }.clearFailedDevice

def protocolConflict (session : DeviceConnectionSession) (token : ConnectionAttemptToken) :
    DeviceConnectionSession × Bool :=
  let (connection, conflicted) := session.connection.conflict token
  if conflicted = false then (session, false)
  else
    ({ { session with connection }.cancelPhoneDrive .connectionChanged with
        device := none
        validationGrant := none
        settings := session.settings.disconnect }, true)

def resolve (session : DeviceConnectionSession) (token : ConnectionAttemptToken) (at_ : Nat) (resolution : Resolution) :
    DeviceConnectionSession :=
  if session.connection.isCurrent token = false ∨ session.connection.snapshot.readiness ≠ .pending then session
  else
    let expired := session.connection.expire token at_
    if expired.2 then { session with connection := expired.1 }
    else match resolution with
      | .waits => session
      | .decoder view =>
        let (connection, verified) := session.connection.finishDetection token true
        if verified then { session with connection, device := some view } else session
      | .recordOnly => { session with connection := (session.connection.finishDetection token false).1 }

/-- A saved or selected physical type; `taken` is whether the decoder accepts it. -/
def configureVehicleKind (session : DeviceConnectionSession) (token : ConnectionAttemptToken) (kind : VehicleKind)
    (view : DecoderView) (taken : Bool) : DeviceConnectionSession × Bool :=
  if session.connection.isCurrent token = false ∨
      (session.connection.snapshot.readiness ≠ .pending ∧ session.connection.snapshot.readiness ≠ .verified) ∨
      (session.device.any fun device => decide (device.identity.protocol ≠ .vesc)) = true then (session, false)
  else match VehicleClassification.ofUser kind with
    | none => (session, false)
    | some classification =>
      if session.device.isSome = true ∧ taken = false then (session, false)
      else
        let session := { session with device := session.device.map fun _ => view }
        let session := if session.userVehicleClassification ≠ some classification then
            session.cancelPhoneDrive .configurationChanged
          else session
        ({ session with userVehicleClassification := some classification }, true)

/-- `authorize_validation` and `revoke_validation`. -/
def authorizeValidation (session : DeviceConnectionSession) (token : ConnectionAttemptToken) :
    DeviceConnectionSession × Bool :=
  if session.connection.isVerified token = false ∨ session.device.isNone = true then (session, false)
  else ({ session with validationGrant := some token.generation }, true)

def revokeValidation (session : DeviceConnectionSession) (token : ConnectionAttemptToken) :
    DeviceConnectionSession × Bool :=
  if session.connection.isCurrent token = false then (session, false)
  else ({ session with validationGrant := none }, true)

def validationAuthorized (session : DeviceConnectionSession) : Bool :=
  session.validationGrant.any fun grant => session.connection.snapshot.token.any fun token => decide (grant = token.generation)

/-- One normalized readback of a notification. -/
def observeReadback (receivedAt : Nat) (settings : DeviceSettingsState)
    (observation : SettingId × Option (Measured DeviceSettingValue)) : DeviceSettingsState :=
  match observation.2 with
  | some value => settings.observeMeasured observation.1 value receivedAt
  | none => settings.invalidateReadback observation.1 receivedAt

/-- The clock and the deadlines of the settings reach the time of the input first. -/
def advanceTo (session : DeviceConnectionSession) (time : Option Nat) : DeviceConnectionSession :=
  match time with
  | none => session
  | some at_ =>
    let lastInputAt := max session.lastInputAt at_
    { session with lastInputAt, settings := session.settings.tick lastInputAt }

def ingestValidated (session : DeviceConnectionSession) (token : ConnectionAttemptToken) (input : SessionInput)
    (answer : DecoderAnswer) : DeviceConnectionSession × Bool :=
  if session.connection.isVerified token = false then (session, false)
  else
    let session := session.advanceTo input.time
    match session.device with
    | none => (session, false)
    | some device =>
      let settings := match answer.failedOperation with
        | some operation => (session.settings.failOperation operation session.lastInputAt).1
        | none => session.settings
      let settings := match input with
        | .notification receivedAt => answer.readbacks.foldl (observeReadback receivedAt) settings
        | _ => settings
      let session := { session with device := some answer.view, settings }.observePhoneDriveFault answer.faults
      let session := if input = .linkDown then session.cancelPhoneDrive .connectionChanged
        else if device.identity.classification ≠ answer.view.identity.classification ∨
            device.identity.vescApplication ≠ answer.view.identity.vescApplication then
          session.cancelPhoneDrive .configurationChanged
        else session
      (session, true)

/-- Device writes enter through validated requests only. -/
def ingest (session : DeviceConnectionSession) (token : ConnectionAttemptToken) (input : SessionInput)
    (answer : DecoderAnswer) : DeviceConnectionSession × Bool :=
  match input with
  | .command false | .commandAt false _ => (session, false)
  | _ => session.ingestValidated token input answer

/-- `submit_action`, as far as the session itself goes. -/
def submitAction (session : DeviceConnectionSession) (token : ConnectionAttemptToken) (at_ : Nat)
    (answer : DecoderAnswer) : DeviceConnectionSession × Bool :=
  if session.connection.isVerified token = false then (session, false)
  else if session.phoneDriveControl.activation.isSome then (session, false)
  else session.ingestValidated token (.commandAt false at_) answer

def submitSetting (session : DeviceConnectionSession) (token : ConnectionAttemptToken) (id : SettingId)
    (value : DeviceSettingValue) (at_ : Nat) (answer : DecoderAnswer) (bound : Option Nat × Nat) (boundView : DecoderView) :
    DeviceConnectionSession × Except DeviceSettingRequestError Nat :=
  if session.connection.isVerified token = false then (session, .error .connectionUnavailable)
  else if session.phoneDriveControl.activation.isSome then (session, .error .busy)
  else match session.device with
    | none => (session, .error .connectionUnavailable)
    | some device =>
      if device.settingsReadRequiresReconnect at_ then (session, .error .configurationReadRequiresReconnect)
      else if device.settingsBusy then (session, .error .busy)
      else match device.command id value session.validationAuthorized with
        | none => (session, .error .profile)
        | some safetyClass =>
          let completion := device.completion id session.validationAuthorized
          let (session, decoded) := session.ingestValidated token (.commandAt false at_) answer
          if decoded = false then (session, .error .connectionUnavailable)
          else
            let outcome := match answer.refusal with
              | some reason => SettingSubmissionOutcome.refused reason
              | none => .accepted
            let (settings, nextRequestId, requestId) :=
              session.settings.submission session.nextRequestId id value outcome completion at_
            let stationary := decide (outcome = .accepted ∧ safetyClass = .stationaryOnly)
            let (authorization, remaining) := if stationary then bound else (none, 0)
            let operation : SettingTransportOperation :=
              ⟨requestId, at_, at_, authorization, answer.writes + remaining⟩
            ({ session with
                settings
                nextRequestId
                device := if stationary then session.device.map fun _ => boundView else session.device
                settingOperations := session.settingOperations.entry id fun _ => operation }, .ok requestId)

def mutationSubmitted (session : DeviceConnectionSession) (requestId : Nat) : Bool :=
  (session.device.bind fun device => device.settingMutationSubmittedAt requestId).isSome

/-- Revalidates an unsent setting write at the boundary of the transport. -/
def settingTransportIsCurrent (session : DeviceConnectionSession) (token : ConnectionAttemptToken) (operationId at_ : Nat) :
    Bool :=
  session.connection.isVerified token &&
    match session.device with
    | none => false
    | some device =>
      match session.settingOperations.items.find? fun item => decide (item.2.requestId = operationId) with
      | none => device.settingReadTransportIsCurrent operationId at_
      | some (id, operation) =>
        let authorized := operation.authorization.any fun authorization => device.settingWriteIsCurrent authorization at_
        !decide (at_ < operation.acceptedAt ∨ operation.remainingReceipts = 0) &&
          match session.settings.records.get id with
          | none => false
          | some record =>
            let held := match record.transport with
              | some .accepted | some .queued => true
              | some .submitted => session.mutationSubmitted operationId
              | _ => false
            decide (record.requestId = some operationId) && held &&
              match record.state.requestedValue with
              | none => false
              | some value =>
                if session.mutationSubmitted operationId then authorized
                else match device.command id value session.validationAuthorized with
                  | none => false
                  | some .stationaryOnly => authorized
                  | some _ => true

/-- One queued operation whose authorization has run out. -/
def expireOperation (record : RecordTransport) (session : DeviceConnectionSession) (expired : SettingId × Nat) :
    DeviceConnectionSession :=
  let submitted := session.mutationSubmitted expired.2
  let settings := if submitted then (session.settings.failOperation expired.2 session.lastInputAt).1
    else (session.settings.transport expired.1 expired.2 .cancelled session.lastInputAt).1
  { session with device := session.device.map (record expired.2 .cancelled session.lastInputAt), settings }

def tickSettingTransport (session : DeviceConnectionSession) (token : ConnectionAttemptToken) (at_ : Nat)
    (record : RecordTransport) : DeviceConnectionSession × Bool :=
  if session.connection.isVerified token = false then (session, false)
  else
    let session := session.advanceTo (some at_)
    let expired := session.settingOperations.items.filterMap fun (id, operation) =>
      if operation.remainingReceipts = 0 ∨ (session.mutationSubmitted operation.requestId = false ∧
          session.settings.awaitsTransport id operation.requestId = false) then none
      else if session.settingTransportIsCurrent token operation.requestId session.lastInputAt then none
      else some (id, operation.requestId)
    (expired.foldl (expireOperation record) session, true)

def updateOperation (session : DeviceConnectionSession) (id : SettingId) (operation : SettingTransportOperation) :
    DeviceConnectionSession :=
  { session with settingOperations := session.settingOperations.entry id fun _ => operation }

def markSettingTransport (session : DeviceConnectionSession) (token : ConnectionAttemptToken) (id : SettingId)
    (requestId : Nat) (status : SettingTransportStatus) (at_ : Nat) (record : RecordTransport) :
    DeviceConnectionSession × Bool :=
  if session.connection.isVerified token = false then (session, false)
  else match session.device, session.settingOperations.get id, session.settings.records.get id with
    | some device, some operation, some setting =>
      let recorded := { session with device := some (record requestId status at_ device) }
      let submitted := (device.settingMutationSubmittedAt requestId).isSome
      if operation.requestId ≠ requestId ∨ at_ < operation.receiptAt then (session, false)
      else if setting.transport = some .submitted then
        if submitted = true ∧ status = .queued then
          (session.updateOperation id { operation with receiptAt := at_ }, true)
        else if submitted = true ∧ status = .submitted ∧ operation.remainingReceipts = 1 then
          (recorded.updateOperation id { operation with remainingReceipts := 0, receiptAt := at_ }, true)
        else if submitted = true ∧ (status = .rejected ∨ status = .cancelled) then
          let (settings, accepted) := session.settings.failOperation requestId at_
          if accepted then
            ({ recorded with settings }.updateOperation id { operation with remainingReceipts := 0, receiptAt := at_ }, true)
          else ({ session with settings }, false)
        else (session, false)
      else if setting.transport ≠ some .accepted ∧ setting.transport ≠ some .queued then (session, false)
      else if status = .submitted ∧ 1 < operation.remainingReceipts then
        let session : DeviceConnectionSession := recorded.updateOperation id
          { operation with remainingReceipts := operation.remainingReceipts - 1, receiptAt := at_ }
        match (record requestId status at_ device).settingMutationSubmittedAt requestId with
        | some submittedAt =>
          let (settings, reply) := session.settings.transport id requestId .submitted submittedAt
          ({ session with settings }, decide (reply = .taken))
        | none =>
          if setting.transport = some .accepted then
            let (settings, reply) := session.settings.transport id requestId .queued at_
            ({ session with settings }, decide (reply = .taken))
          else (session, true)
      else
        let remainingReceipts := if status = .submitted then 0 else operation.remainingReceipts
        let (settings, reply) := session.settings.transport id requestId status at_
        if reply = .taken then
          ({ recorded with settings }.updateOperation id { operation with remainingReceipts, receiptAt := at_ }, true)
        else ({ session with settings }, false)
    | _, _, _ => (session, false)

/-- A receipt for a configuration read moves the clock only. -/
def markSettingReadTransport (session : DeviceConnectionSession) (token : ConnectionAttemptToken) (at_ : Nat)
    (view : DecoderView) (accepted : Bool) : DeviceConnectionSession × Bool :=
  if session.connection.isVerified token = false ∨ session.device.isNone = true then (session, false)
  else
    let session := { session with device := some view }
    (if accepted then { session with lastInputAt := max session.lastInputAt at_ } else session, accepted)

end DeviceConnectionSession

inductive SessionCall where
  | beginAttempt (platformIdentifier : String) (at_ : Nat)
  | admitRetry (retry at_ : Nat)
  | requestRetry (failed : ConnectionAttemptToken) (at_ jitterPermille : Nat)
  | cancelRetry (retry : Nat)
  | connected (token : ConnectionAttemptToken)
  | expire (token : ConnectionAttemptToken) (at_ : Nat)
  | resolve (token : ConnectionAttemptToken) (at_ : Nat) (resolution : Resolution)
  | disconnect
  | linkDown (token : ConnectionAttemptToken)
  | transportFailed (token : ConnectionAttemptToken)
  | protocolConflict (token : ConnectionAttemptToken)
  | configureVehicleKind (token : ConnectionAttemptToken) (kind : VehicleKind) (view : DecoderView) (taken : Bool)
  | authorizeValidation (token : ConnectionAttemptToken)
  | revokeValidation (token : ConnectionAttemptToken)
  -- The decoder moves by itself: receipts and deadlines of application queries, drivetrains.
  | decoder (view : DecoderView)
  | ingest (token : ConnectionAttemptToken) (input : SessionInput) (answer : DecoderAnswer)
  | submitAction (token : ConnectionAttemptToken) (at_ : Nat) (answer : DecoderAnswer)
  | requireManagedTransport
  | submitSetting (token : ConnectionAttemptToken) (id : SettingId) (value : DeviceSettingValue) (at_ : Nat)
      (answer : DecoderAnswer) (bound : Option Nat × Nat) (boundView : DecoderView)
  -- Another session of the process takes a request id from the shared counter.
  | submissionElsewhere
  | tickSettingTransport (token : ConnectionAttemptToken) (at_ : Nat) (record : RecordTransport)
  | markSettingTransport (token : ConnectionAttemptToken) (id : SettingId) (requestId : Nat)
      (status : SettingTransportStatus) (at_ : Nat) (record : RecordTransport)
  | markSettingReadTransport (token : ConnectionAttemptToken) (at_ : Nat) (view : DecoderView) (accepted : Bool)
  | activatePhoneDrive (token : ConnectionAttemptToken) (generation : Nat) (limits : PhoneDriveLimits) (at_ : Nat)
  | observePhoneDriveContactsAt (token : ConnectionAttemptToken) (generation : Nat) (contacts : PhoneDriveContacts)
      (observedAt at_ : Nat)
  | tickPhoneDrive (token : ConnectionAttemptToken) (at_ : Nat) (canSubmit : Bool)
  | markPhoneDriveTransport (token : ConnectionAttemptToken) (write : PhoneDriveWrite)
      (status : ApplicationQueryTransportStatus) (at_ : Nat)
  | cancelPhoneDrive (reason : PhoneDriveCancelReason)
  | cancelPhoneDriveAt (reason : PhoneDriveCancelReason) (at_ : Nat)
  | applyPhoneDrivePreferences (token : ConnectionAttemptToken) (mode : PhoneControlMode) (limits : PhoneDriveLimits)
  | setPhoneDriveSettingsPresented (token : ConnectionAttemptToken) (presented : Bool)

inductive SessionReply where
  | done
  | accepted (taken : Bool)
  | admitted (token : Option ConnectionAttemptToken)
  | retry (decision : ConnectionRetryDecision)
  | requested (result : Except DeviceSettingRequestError Nat)
  | activated (result : Except PhoneDriveActivationError Nat)
  | drive (result : Option (Option EmittedWrite))

def DeviceConnectionSession.step (session : DeviceConnectionSession) : SessionCall → DeviceConnectionSession × SessionReply
  | .beginAttempt platformIdentifier at_ => (session.beginAttempt platformIdentifier at_, .done)
  | .admitRetry retry at_ => (session.admitRetry retry at_).map id .admitted
  | .requestRetry failed at_ jitterPermille =>
    let (connection, decision) := session.connection.requestRetry failed at_ jitterPermille
    ({ session with connection }, .retry decision)
  | .cancelRetry retry =>
    let (connection, taken) := session.connection.cancelRetry retry
    ({ session with connection }, .accepted taken)
  | .connected token =>
    let (connection, taken) := session.connection.connected token
    ({ session with connection }, .accepted taken)
  | .expire token at_ =>
    let (connection, taken) := session.connection.expire token at_
    ({ session with connection }, .accepted taken)
  | .resolve token at_ resolution => (session.resolve token at_ resolution, .done)
  | .disconnect => (session.disconnect, .done)
  | .linkDown token => (session.linkDown token, .done)
  | .transportFailed token => (session.transportFailed token, .done)
  | .protocolConflict token => (session.protocolConflict token).map id .accepted
  | .configureVehicleKind token kind view taken => (session.configureVehicleKind token kind view taken).map id .accepted
  | .authorizeValidation token => (session.authorizeValidation token).map id .accepted
  | .revokeValidation token => (session.revokeValidation token).map id .accepted
  | .decoder view => ({ session with device := session.device.map fun _ => view }, .done)
  | .ingest token input answer => (session.ingest token input answer).map id .accepted
  | .submitAction token at_ answer => (session.submitAction token at_ answer).map id .accepted
  | .requireManagedTransport => ({ session with settings := session.settings.requireManagedTransport }, .done)
  | .submitSetting token setting value at_ answer bound boundView =>
    (session.submitSetting token setting value at_ answer bound boundView).map id .requested
  | .submissionElsewhere =>
    ({ session with nextRequestId :=
      if session.nextRequestId < u64Max then session.nextRequestId + 1 else session.nextRequestId }, .done)
  | .tickSettingTransport token at_ record => (session.tickSettingTransport token at_ record).map id .accepted
  | .markSettingTransport token setting requestId status at_ record =>
    (session.markSettingTransport token setting requestId status at_ record).map id .accepted
  | .markSettingReadTransport token at_ view accepted =>
    (session.markSettingReadTransport token at_ view accepted).map id .accepted
  | .activatePhoneDrive token generation limits at_ =>
    (session.activatePhoneDrive token generation limits at_).map id .activated
  | .observePhoneDriveContactsAt token generation contacts observedAt at_ =>
    (session.observePhoneDriveContactsAt token generation contacts observedAt at_).map id .drive
  | .tickPhoneDrive token at_ canSubmit => (session.tickPhoneDrive token at_ canSubmit).map id .drive
  | .markPhoneDriveTransport token write status at_ =>
    (session.markPhoneDriveTransport token write status at_).map id .accepted
  | .cancelPhoneDrive reason => (session.cancelPhoneDrive reason, .done)
  | .cancelPhoneDriveAt reason at_ => (session.cancelPhoneDriveAt reason at_, .done)
  | .applyPhoneDrivePreferences token mode limits =>
    (session.applyPhoneDrivePreferences token mode limits).map id .accepted
  | .setPhoneDriveSettingsPresented token presented =>
    (session.setPhoneDriveSettingsPresented token presented).map id .accepted

end Cutout.Connections

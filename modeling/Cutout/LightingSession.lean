import Mathlib

/-! The session of a MELK lighting accessory. Bluetooth events drive one reducer that
scans, probes and selects an accessory, verifies its characteristics, sends the
initialization writes and then paces the queued user writes. What it asks of the
platform are actions; how a text is read as a UUID is a parameter. -/

namespace Cutout.Lighting

abbrev Uuid := BitVec 128

def melkServiceChannel : Uuid := 0x0000fff000001000800000805f9b34fb#128
def melkWriteChannel : Uuid := 0x0000fff300001000800000805f9b34fb#128
def melkNotifyChannel : Uuid := 0x0000fff400001000800000805f9b34fb#128

inductive LightingWriteMode where
  | withoutResponse
  deriving Repr, DecidableEq

structure LightingWrite where
  characteristic : Uuid
  payload : List UInt8
  mode : LightingWriteMode
  confirmationCharacteristic : Uuid
  minimumIntervalMs : Option Nat
  deriving Repr, DecidableEq

/-- A write under the profile's policy. -/
def melkWrite (payload : List UInt8) : LightingWrite :=
  ⟨melkWriteChannel, payload, .withoutResponse, melkNotifyChannel, some 50⟩

def initializationActions : List LightingWrite := [melkWrite [0x7e, 0x07, 0x83], melkWrite [0x7e, 0x04, 0x04]]

def isCoalescibleColorWrite (write : LightingWrite) : Bool :=
  decide (write.confirmationCharacteristic = melkNotifyChannel ∧ write.characteristic = melkWriteChannel) &&
    match write.payload with
    | [first, second, third, fourth, _, _, _, _, last] =>
      decide (first = 0x7e ∧ second = 0 ∧ third = 5 ∧ fourth = 3 ∧ last = 0xef)
    | _ => false

def maxCandidates : Nat := 32
def connectionTimeoutMs : Nat := 15000
def probeTimeoutMs : Nat := 3000
def initializationDelayMs : Nat := 1000
def maxReconnectAttempts : Nat := 3
def fallbackWriteIntervalMs : Nat := 50
def maxQueuedWrites : Nat := 32
def maxRejected : Nat := 256

inductive LightingSessionState where
  | idle
  | scanning
  | connecting
  | retrying (attempt delayMilliseconds : Nat)
  | discovering
  | ready
  | disconnected
  | failed (reason : String)
  deriving Repr, DecidableEq

inductive LightingTimer where
  | connectionAttempt | discovery | reconnect | initialization | writeDrain
  deriving Repr, DecidableEq

structure LightingCharacteristicEvidence where
  uuid : Uuid
  writeWithoutResponse : Bool
  notifyOrIndicate : Bool
  deriving Repr, DecidableEq

structure LightingSessionCandidate where
  platformIdentifier : String
  name : Option String
  rssi : Int
  deriving Repr, DecidableEq

inductive LightingSessionEvent where
  | resume
  | bluetoothState (poweredOn : Bool) (stateCode : Int)
  | discovered (name : Option String) (platformIdentifier : String) (rssi : Int)
  | restored (name : Option String) (platformIdentifier : String) (connected pending : Bool)
  | restoreUnavailable
  | connected (name : Option String) (platformIdentifier : String)
  | connectFailed (reason : String)
  | connectTimeout
  | servicesDiscovered (serviceUuids : List Uuid) (error : Option String)
  | characteristicsDiscovered (name : Option String) (serviceUuid : Uuid)
      (characteristics : List LightingCharacteristicEvidence) (error : Option String)
  | notificationState (characteristic : Uuid) (ready canSend : Bool) (error : Option String)
  | notification (characteristic : Uuid) (bytes : List UInt8)
  | writeReady (canSend : Bool)
  | timerFired (timer : LightingTimer) (canSend : Bool)
  | disconnected (reason : String) (poweredOn : Bool)
  deriving Repr, DecidableEq

inductive LightingSessionAction where
  | restartTransport
  | scan
  | stopScan
  | restorePeripheral (platformIdentifier : String)
  | connect (platformIdentifier : String)
  | cancelConnect (platformIdentifier : String)
  | discoverServices (platformIdentifier : String) (service : Uuid)
  | discoverCharacteristics (platformIdentifier : String) (service : Uuid)
  | subscribe (platformIdentifier : String) (characteristic : Uuid)
  | write (platformIdentifier : String) (write : LightingWrite)
  | armTimer (timer : LightingTimer) (delayMilliseconds : Nat)
  deriving Repr, DecidableEq

inductive GattState where
  | unverified | verified | subscribed
  deriving Repr, DecidableEq

inductive ConnectionPurpose where
  | probe | selected
  deriving Repr, DecidableEq

inductive ProbeOutcome where
  | supported | unsupported | unavailable
  deriving Repr, DecidableEq

inductive RestoredConnection where
  | connected | pending | disconnected
  deriving Repr, DecidableEq

/-- The evidence for the last command, the source's codes 0 to 3. -/
inductive CommandStatus where
  | idle | requested | confirmed | unconfirmed
  deriving Repr, DecidableEq

structure SessionReducer where
  state : LightingSessionState := .idle
  preferredIdentifier : Option String := none
  invalidPreferredIdentifier : Bool := false
  selectedIdentifier : Option String := none
  selectedName : Option String := none
  candidates : List LightingSessionCandidate := []
  purpose : ConnectionPurpose := .selected
  verified : List String := []
  rejected : List String := []
  probeQueue : List String := []
  reconnectEnabled : Bool := true
  reconnectAttempt : Nat := 0
  bluetoothPoweredOn : Bool := false
  pendingRestoration : Option RestoredConnection := none
  gatt : GattState := .unverified
  initialization : List LightingWrite := []
  writes : List LightingWrite := []
  timer : Option LightingTimer := none
  commandStatus : CommandStatus := .idle
  actions : List LightingSessionAction := []
  records : List String := []
  notifications : List (List UInt8) := []
  candidatesOut : List LightingSessionCandidate := []
  candidateRemovalsOut : List String := []
  deriving Repr, DecidableEq

def hexEncode (bytes : List UInt8) : String :=
  String.ofList (bytes.flatMap fun byte => [Nat.digitChar (byte.toNat / 16), Nat.digitChar (byte.toNat % 16)])

def insertIdentifier (identifiers : List String) (identifier : String) : List String :=
  if identifiers.contains identifier then identifiers else identifiers ++ [identifier]

namespace SessionReducer

def push (session : SessionReducer) (action : LightingSessionAction) : SessionReducer :=
  { session with actions := session.actions ++ [action] }

def record (session : SessionReducer) (value : String) : SessionReducer :=
  { session with records := session.records ++ [value] }

def arm (session : SessionReducer) (timer : LightingTimer) (delayMilliseconds : Nat) : SessionReducer :=
  { session with timer := some timer }.push (.armTimer timer delayMilliseconds)

def isProbing (session : SessionReducer) : Bool := decide (session.purpose = .probe)

def candidate (session : SessionReducer) (identifier : String) : Option LightingSessionCandidate :=
  session.candidates.find? fun candidate => decide (candidate.platformIdentifier = identifier)

def resetInitialization (session : SessionReducer) : SessionReducer :=
  { session with
    initialization := []
    gatt := .unverified
    timer := if session.timer = some .initialization then none else session.timer }

def transition (session : SessionReducer) (state : LightingSessionState) : SessionReducer :=
  if state = .ready then
    { session with
      reconnectAttempt := 0
      preferredIdentifier := session.preferredIdentifier.or session.selectedIdentifier
      state := state }
  else
    let cleared : SessionReducer := { session with
      timer := none
      commandStatus := if session.commandStatus = .requested then .unconfirmed else session.commandStatus
      writes := [] }
    { cleared.resetInitialization with state := state }

def stop (session : SessionReducer) : SessionReducer :=
  { session with reconnectEnabled := false, purpose := .selected, timer := none, actions := [] }.transition .disconnected

def forgetSelectedConnection (session : SessionReducer) : SessionReducer :=
  { session with
    timer := none
    pendingRestoration := none
    purpose := .selected
    probeQueue := []
    selectedIdentifier := none
    selectedName := none }

/-- Connects to the first waiting candidate that is still known. -/
def probeFrom (session : SessionReducer) : List String → SessionReducer
  | [] => { session with probeQueue := [] }
  | identifier :: later =>
    match session.candidate identifier with
    | none => session.probeFrom later
    | some candidate =>
      let probing := { session with
        probeQueue := later
        selectedName := candidate.name
        selectedIdentifier := some identifier
        purpose := .probe }
      ((probing.transition .connecting).push (.connect identifier)).arm .connectionAttempt probeTimeoutMs

def probeNext (session : SessionReducer) : SessionReducer :=
  if session.selectedIdentifier.isSome ∨ session.bluetoothPoweredOn = false then session
  else session.probeFrom session.probeQueue

def discardCandidate (session : SessionReducer) (identifier : String) : SessionReducer :=
  { session with
    candidates := session.candidates.filter fun candidate => decide (candidate.platformIdentifier ≠ identifier)
    verified := session.verified.filter fun known => decide (known ≠ identifier)
    probeQueue := session.probeQueue.filter fun pending => decide (pending ≠ identifier)
    candidatesOut := session.candidatesOut.filter fun candidate => decide (candidate.platformIdentifier ≠ identifier)
    candidateRemovalsOut := session.candidateRemovalsOut ++ [identifier] }

/-- What a probe leaves behind: a verified candidate, or one that is discarded. -/
def probeOutcome (session : SessionReducer) (identifier : String) (outcome : ProbeOutcome) : SessionReducer :=
  match outcome with
  | .supported =>
    { session with
      verified := insertIdentifier session.verified identifier
      candidatesOut := session.candidatesOut ++ (session.candidate identifier).toList }
  | .unsupported =>
    { session with
      rejected := insertIdentifier (if maxRejected ≤ session.rejected.length then [] else session.rejected) identifier
      }.discardCandidate identifier
  | .unavailable => session.discardCandidate identifier

def finishProbe (session : SessionReducer) (outcome : ProbeOutcome) : SessionReducer :=
  match session.selectedIdentifier with
  | none => session
  | some identifier =>
    let cancelled := { session with selectedIdentifier := none }.push (.cancelConnect identifier)
    let noted := cancelled.probeOutcome identifier outcome
    ({ noted with selectedName := none, purpose := .selected }.transition .scanning).probeNext

/-- Cancels the selected accessory and forgets it as a candidate. -/
def dropSelected (session : SessionReducer) : SessionReducer :=
  match session.selectedIdentifier with
  | none => session
  | some identifier => (session.push (.cancelConnect identifier)).discardCandidate identifier

def rejectCandidate (session : SessionReducer) (reason : String) : SessionReducer :=
  if session.isProbing then (session.record ("probe_rejected reason=" ++ reason)).finishProbe .unsupported
  else
    let cancelled := session.dropSelected
    if cancelled.preferredIdentifier.isNone then
      (({ cancelled with selectedIdentifier := none, selectedName := none }.transition .scanning).record
        ("candidate_rejected reason=" ++ reason)).push .scan
    else cancelled.transition (.failed reason)

/-- The probe in flight gives way to the accessory the user picked. -/
def abandonProbe (session : SessionReducer) : SessionReducer :=
  if session.isProbing then
    match session.selectedIdentifier with
    | some probe =>
      { session with
        selectedIdentifier := none
        probeQueue := probe :: session.probeQueue
        purpose := .selected }.push (.cancelConnect probe)
    | none => { session with purpose := .selected }
  else session

def select (session : SessionReducer) (identifier : String) : SessionReducer :=
  if (session.isProbing = false ∧ session.state ≠ .scanning) ∨ session.preferredIdentifier.isSome ∨
      session.invalidPreferredIdentifier ∨ session.verified.contains identifier = false then session
  else
    match session.candidate identifier with
    | none => session
    | some candidate =>
      let chosen := { session.abandonProbe with selectedIdentifier := some identifier, selectedName := candidate.name }
      ((((chosen.push .stopScan).push (.connect identifier)).transition .connecting).arm
        .connectionAttempt connectionTimeoutMs).record ("selected=melk id=" ++ identifier)

def connectSelected (session : SessionReducer) : SessionReducer :=
  match session.selectedIdentifier with
  | none => session
  | some identifier =>
    if session.bluetoothPoweredOn then
      ((session.transition .connecting).push (.connect identifier)).arm .connectionAttempt connectionTimeoutMs
    else { session with pendingRestoration := some .disconnected }

def resumeRestoration (session : SessionReducer) (connection : RestoredConnection) : SessionReducer :=
  if session.bluetoothPoweredOn then
    let resumed := { session with pendingRestoration := none }
    match connection with
    | .connected =>
      match resumed.selectedIdentifier with
      | none => resumed
      | some identifier =>
        ((resumed.transition .discovering).arm .discovery
          (if resumed.isProbing then probeTimeoutMs else connectionTimeoutMs)).push
            (.discoverServices identifier melkServiceChannel)
    | .pending => (resumed.transition .connecting).arm .connectionAttempt connectionTimeoutMs
    | .disconnected => resumed.connectSelected
  else { session with pendingRestoration := some connection }

def reconnectExhausted : String :=
  "Accessory reconnect exhausted after " ++ toString maxReconnectAttempts ++ " attempts"

def scheduleReconnect (session : SessionReducer) (reason : String) : SessionReducer :=
  let attempt := min (session.reconnectAttempt + 1) 255
  let counted := { session with reconnectAttempt := attempt }
  if maxReconnectAttempts < attempt then
    (counted.transition (.failed reconnectExhausted)).record ("reconnect_exhausted reason=" ++ reason)
  else
    let delay := 250 * 2 ^ (attempt - 1)
    ((counted.transition (.retrying attempt delay)).record
      ("reconnect_attempt=" ++ toString attempt ++ " delay_ms=" ++ toString delay ++ " reason=" ++ reason)).arm
        .reconnect delay

def cancelSelected (session : SessionReducer) : SessionReducer :=
  match session.selectedIdentifier with
  | none => session
  | some identifier => session.push (.cancelConnect identifier)

/-- Scans again after a timeout; a remembered accessory is tried a few times only. -/
def rescan (session : SessionReducer) : SessionReducer :=
  let released := { session with timer := none, selectedIdentifier := none, selectedName := none }
  if released.preferredIdentifier.isSome then
    let attempt := min (released.reconnectAttempt + 1) 255
    let counted := { released with reconnectAttempt := attempt }
    if maxReconnectAttempts < attempt then
      (counted.transition (.failed reconnectExhausted)).record "connect_timeout reconnect_exhausted"
    else ((counted.transition .scanning).push .scan).record "connect_timeout"
  else ((released.transition .scanning).push .scan).record "connect_timeout"

def connectionTimedOut (session : SessionReducer) : SessionReducer :=
  if session.isProbing then session.finishProbe .unavailable else session.cancelSelected.rescan

def queueWrites (session : SessionReducer) (writes : List LightingWrite) : SessionReducer × Bool :=
  if writes.any fun write => decide (write.mode ≠ .withoutResponse) then (session, false)
  else
    let coalescible := writes.any isCoalescibleColorWrite
    let retained :=
      if coalescible then session.writes.length - session.writes.countP isCoalescibleColorWrite else session.writes.length
    if maxQueuedWrites < retained + writes.length then (session, false)
    else
      let kept := if coalescible then session.writes.filter fun write => !isCoalescibleColorWrite write else session.writes
      ({ session with writes := kept ++ writes, commandStatus := .requested }, true)

def emitWrite (session : SessionReducer) (write : LightingWrite) : SessionReducer :=
  match session.selectedIdentifier with
  | none => session
  | some identifier => session.push (.write identifier write)

def drainInitialization (session : SessionReducer) (canSend : Bool) : SessionReducer :=
  if canSend = false ∨ session.gatt ≠ .subscribed ∨ session.state ≠ .discovering ∨ session.timer.isSome then session
  else
    match session.initialization with
    | [] => (session.transition .ready).record "notify_state=true"
    | write :: later =>
      ({ session with initialization := later }.emitWrite write).arm .initialization
        (if later = [] then write.minimumIntervalMs.getD fallbackWriteIntervalMs else initializationDelayMs)

def drainWrites (session : SessionReducer) (canSend : Bool) : SessionReducer :=
  if canSend = false ∨ session.state ≠ .ready ∨ session.timer.isSome then session
  else
    match session.writes with
    | [] => session
    | write :: later =>
      (({ session with writes := later }.record ("requested=" ++ hexEncode write.payload)).emitWrite write).arm .writeDrain
        (write.minimumIntervalMs.getD fallbackWriteIntervalMs)

def discoveryFailed (session : SessionReducer) (reason : String) : SessionReducer :=
  if session.isProbing then session.finishProbe .unavailable else session.rejectCandidate reason

section Events
variable (parse : String → Option Uuid)

def start (session : SessionReducer) (preferredIdentifier : Option String) : SessionReducer :=
  { session with
    actions := []
    records := []
    notifications := []
    candidatesOut := []
    candidateRemovalsOut := []
    preferredIdentifier := preferredIdentifier
    invalidPreferredIdentifier := preferredIdentifier.any fun value => (parse value).isNone
    reconnectEnabled := true
    reconnectAttempt := 0
    bluetoothPoweredOn := false
    pendingRestoration := none
    candidates := []
    verified := []
    rejected := []
    probeQueue := []
    purpose := .selected
    selectedIdentifier := none
    selectedName := none
    timer := none
    commandStatus := .idle }.transition .idle

def accepts (session : SessionReducer) (identifier : String) : Bool :=
  match parse identifier with
  | none => false
  | some uuid =>
    !session.invalidPreferredIdentifier &&
      session.preferredIdentifier.all fun preferred => decide (parse preferred = some uuid)

def scanText : String := "scan=melk services=all; gatt=FFF0 post-connect"

def handleResume (session : SessionReducer) : SessionReducer :=
  if session.reconnectEnabled = false ∨ session.invalidPreferredIdentifier then session
  else
    match session.state with
    | .failed _ | .disconnected => (session.start parse session.preferredIdentifier).push .restartTransport
    | _ => session

def handleBluetoothState (session : SessionReducer) (poweredOn : Bool) (stateCode : Int) : SessionReducer :=
  let powered := { session with bluetoothPoweredOn := poweredOn }
  if powered.invalidPreferredIdentifier then
    (powered.transition (.failed "Remembered lighting identity is invalid")).record
      "scan=refused invalid remembered identity"
  else if poweredOn = false then
    powered.forgetSelectedConnection.transition (.failed ("Bluetooth unavailable: " ++ toString stateCode))
  else
    match powered.pendingRestoration with
    | some connection => { powered with pendingRestoration := none }.resumeRestoration connection
    | none =>
      if powered.selectedIdentifier.isNone then
        match powered.preferredIdentifier with
        | some identifier => powered.push (.restorePeripheral identifier)
        | none => ((powered.push .scan).transition .scanning).record scanText
      else powered

def handleDiscovered (session : SessionReducer) (name : Option String) (platformIdentifier : String) (rssi : Int) :
    SessionReducer :=
  if (session.isProbing = false ∧ session.state ≠ .scanning) ∨ session.accepts parse platformIdentifier = false ∨
      session.rejected.contains platformIdentifier then session.discardCandidate platformIdentifier
  else if maxCandidates ≤ session.candidates.length ∧ (session.candidate platformIdentifier).isNone then
    session.discardCandidate platformIdentifier
  else
    let found : LightingSessionCandidate := ⟨platformIdentifier, name, rssi⟩
    let isNew := (session.candidate platformIdentifier).isNone
    let listed : SessionReducer := { session with
      candidates := (session.candidates.filter fun candidate => decide (candidate.platformIdentifier ≠ platformIdentifier))
        ++ [found] }
    let known := listed.record
      ("candidate=" ++ name.getD "" ++ " id=" ++ platformIdentifier ++ " rssi=" ++ toString rssi)
    if known.preferredIdentifier.isSome then
      ({ known with selectedIdentifier := some platformIdentifier, selectedName := name }.push .stopScan).connectSelected
    else if known.verified.contains platformIdentifier then { known with candidatesOut := known.candidatesOut ++ [found] }
    else if isNew ∨ (known.selectedIdentifier ≠ some platformIdentifier ∧
        known.probeQueue.contains platformIdentifier = false) then
      { known with probeQueue := known.probeQueue ++ [platformIdentifier] }.probeNext
    else known

def handleRestoreUnavailable (session : SessionReducer) : SessionReducer :=
  if session.bluetoothPoweredOn ∧ session.preferredIdentifier.isSome ∧ session.selectedIdentifier.isNone then
    ((session.push .scan).transition .scanning).record scanText
  else session

def handleRestored (session : SessionReducer) (name : Option String) (platformIdentifier : String)
    (connected pending : Bool) : SessionReducer :=
  if session.preferredIdentifier.isNone ∨ session.accepts parse platformIdentifier = false then
    session.record "restore=melk ignored different identity"
  else
    ({ session with selectedIdentifier := some platformIdentifier, selectedName := name }.record
      ("restore=melk id=" ++ platformIdentifier)).resumeRestoration
        (if connected then .connected else if pending then .pending else .disconnected)

/-- A name that comes with an event replaces the one known. -/
def takeName (session : SessionReducer) (name : Option String) : SessionReducer :=
  { session with selectedName := name.or session.selectedName }

def handleConnected (session : SessionReducer) (name : Option String) (platformIdentifier : String) : SessionReducer :=
  if session.selectedIdentifier ≠ some platformIdentifier then session
  else
    { session.takeName name with timer := none }.resumeRestoration .connected

def handleConnectFailed (session : SessionReducer) (reason : String) : SessionReducer :=
  if session.state ≠ .connecting ∧ session.pendingRestoration.isNone then session
  else if session.isProbing then session.finishProbe .unavailable
  else
    let cleared := { session with timer := none, pendingRestoration := none }
    if cleared.reconnectEnabled then cleared.scheduleReconnect reason else cleared.transition (.failed reason)

def handleServicesDiscovered (session : SessionReducer) (serviceUuids : List Uuid) (error : Option String) :
    SessionReducer :=
  if session.state ≠ .discovering then session
  else
    match error with
    | some reason => session.discoveryFailed reason
    | none =>
      if serviceUuids.contains melkServiceChannel = false then
        (session.record "gatt=missing FFF0 service").rejectCandidate "missing FFF0 service"
      else
        match session.selectedIdentifier with
        | some identifier => session.push (.discoverCharacteristics identifier melkServiceChannel)
        | none => session

/-- The selected accessory has the profile: its notifications are asked for. -/
def verifyProfile (session : SessionReducer) : SessionReducer :=
  let verified := { session with gatt := .verified, initialization := initializationActions }.record
    "gatt=FFF0 write=FFF3 notify=FFF4"
  match session.selectedIdentifier with
  | some identifier => verified.push (.subscribe identifier melkNotifyChannel)
  | none => verified

def checkCharacteristics (session : SessionReducer) (serviceUuid : Uuid)
    (characteristics : List LightingCharacteristicEvidence) (error : Option String) : SessionReducer :=
  match error with
  | some reason => session.discoveryFailed reason
  | none =>
    if serviceUuid ≠ melkServiceChannel then session.rejectCandidate "missing FFF0 service"
    else if (characteristics.any fun characteristic =>
        decide (characteristic.uuid = melkWriteChannel) && characteristic.writeWithoutResponse) = false then
      session.rejectCandidate "missing FFF3 write characteristic"
    else if (characteristics.any fun characteristic =>
        decide (characteristic.uuid = melkNotifyChannel) && characteristic.notifyOrIndicate) = false then
      session.rejectCandidate "missing FFF4 notification characteristic"
    else if session.isProbing then session.finishProbe .supported
    else session.verifyProfile

def handleCharacteristicsDiscovered (session : SessionReducer) (name : Option String) (serviceUuid : Uuid)
    (characteristics : List LightingCharacteristicEvidence) (error : Option String) : SessionReducer :=
  if session.state ≠ .discovering then session
  else (session.takeName name).checkCharacteristics serviceUuid characteristics error

/-- Notifications are on; the discovery is no longer timed. -/
def subscribeProfile (session : SessionReducer) : SessionReducer :=
  { session with
    timer := if session.timer = some LightingTimer.discovery then none else session.timer
    gatt := .subscribed }

def handleNotificationState (session : SessionReducer) (characteristic : Uuid) (ready canSend : Bool)
    (error : Option String) : SessionReducer :=
  if session.state ≠ .discovering ∧ session.state ≠ .ready then session
  else if characteristic ≠ melkNotifyChannel then session
  else
    match error with
    | some reason => session.transition (.failed reason)
    | none =>
      if ready = false then session.transition (.failed "FFF4 notify unavailable")
      else if session.gatt = .unverified then session
      else session.subscribeProfile.drainInitialization canSend

def handleTimerFired (session : SessionReducer) (timer : LightingTimer) (canSend : Bool) : SessionReducer :=
  if session.timer ≠ some timer then session
  else
    match timer with
    | .connectionAttempt => session.connectionTimedOut
    | .discovery => (session.record "gatt_timeout").connectionTimedOut
    | .reconnect => { session with timer := none }.connectSelected
    | .initialization => { session with timer := none }.drainInitialization canSend
    | .writeDrain => { session with timer := none }.drainWrites canSend

/-- States in which a link can be lost. -/
def hasLink (session : SessionReducer) : Bool :=
  match session.state with
  | .connecting | .discovering | .ready => true
  | _ => false

def handleDisconnected (session : SessionReducer) (reason : String) (poweredOn : Bool) : SessionReducer :=
  if poweredOn ∧ session.pendingRestoration.isNone ∧ session.hasLink = false then session
  else
    let powered := { session with bluetoothPoweredOn := poweredOn }
    if powered.isProbing then powered.finishProbe .unavailable
    else
      let cleared := { powered with pendingRestoration := none }.record ("disconnected error=" ++ reason)
      if cleared.reconnectEnabled ∧ poweredOn then cleared.scheduleReconnect reason
      else cleared.forgetSelectedConnection.transition .disconnected

def handle (session : SessionReducer) (event : LightingSessionEvent) : SessionReducer :=
  if session.reconnectEnabled = false then session
  else
    match event with
    | .resume => session.handleResume parse
    | .bluetoothState poweredOn stateCode => session.handleBluetoothState poweredOn stateCode
    | .discovered name platformIdentifier rssi => session.handleDiscovered parse name platformIdentifier rssi
    | .restoreUnavailable => session.handleRestoreUnavailable
    | .restored name platformIdentifier connected pending =>
      session.handleRestored parse name platformIdentifier connected pending
    | .connected name platformIdentifier => session.handleConnected name platformIdentifier
    | .connectFailed reason => session.handleConnectFailed reason
    | .connectTimeout => if session.timer = some .connectionAttempt then session.connectionTimedOut else session
    | .servicesDiscovered serviceUuids error => session.handleServicesDiscovered serviceUuids error
    | .characteristicsDiscovered name serviceUuid characteristics error =>
      session.handleCharacteristicsDiscovered name serviceUuid characteristics error
    | .notificationState characteristic ready canSend error =>
      session.handleNotificationState characteristic ready canSend error
    | .notification characteristic bytes =>
      if characteristic = melkNotifyChannel then { session with notifications := session.notifications ++ [bytes] }
      else session
    | .writeReady canSend => (session.drainInitialization canSend).drainWrites canSend
    | .timerFired timer canSend => session.handleTimerFired timer canSend
    | .disconnected reason poweredOn => session.handleDisconnected reason poweredOn

end Events

def markLastCommandConfirmed (session : SessionReducer) : SessionReducer × Bool :=
  if session.commandStatus ≠ .requested ∨ session.writes ≠ [] then (session, false)
  else ({ session with commandStatus := .confirmed }, true)

def markLastCommandUnconfirmed (session : SessionReducer) : SessionReducer :=
  if session.commandStatus = .requested then { session with commandStatus := .unconfirmed } else session

end SessionReducer

/-- One call of the reducer; the outputs are drained by calls of their own. -/
inductive LightingCall where
  | start (preferredIdentifier : Option String)
  | stop
  | select (identifier : String)
  | queueWrites (writes : List LightingWrite)
  | drainWrites (canSend : Bool)
  | handle (event : LightingSessionEvent)
  | markLastCommandConfirmed
  | markLastCommandUnconfirmed
  | drainActions
  | drainRecords
  | drainCandidates
  | drainCandidateRemovals
  | drainNotifications
  deriving Repr, DecidableEq

inductive LightingReply where
  | done
  | answered (answer : Bool)
  | actions (actions : List LightingSessionAction)
  | records (records : List String)
  | candidates (candidates : List LightingSessionCandidate)
  | notifications (notifications : List (List UInt8))
  deriving Repr, DecidableEq

def SessionReducer.step (parse : String → Option Uuid) (session : SessionReducer) :
    LightingCall → SessionReducer × LightingReply
  | .start preferredIdentifier => (session.start parse preferredIdentifier, .done)
  | .stop => (session.stop, .done)
  | .select identifier => (session.select identifier, .done)
  | .queueWrites writes => (session.queueWrites writes).map id .answered
  | .drainWrites canSend => (session.drainWrites canSend, .done)
  | .handle event => (session.handle parse event, .done)
  | .markLastCommandConfirmed => session.markLastCommandConfirmed.map id .answered
  | .markLastCommandUnconfirmed => (session.markLastCommandUnconfirmed, .done)
  | .drainActions => ({ session with actions := [] }, .actions session.actions)
  | .drainRecords => ({ session with records := [] }, .records session.records)
  | .drainCandidates => ({ session with candidatesOut := [] }, .candidates session.candidatesOut)
  | .drainCandidateRemovals => ({ session with candidateRemovalsOut := [] }, .records session.candidateRemovalsOut)
  | .drainNotifications => ({ session with notifications := [] }, .notifications session.notifications)

end Cutout.Lighting

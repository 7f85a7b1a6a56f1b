import Cutout.DeviceSettings
import Cutout.Wire
import Cutout.Library.OrderedMap

/-! The settings of one device: what is known of each of them, what was requested, and
how far the request has come. A request is confirmed by a fresh readback of the
requested value, or it ends otherwise. Times are milliseconds. -/

namespace Cutout.Core
open Library
open Protocols (SettingId DeviceSettingValue u64Max)

def settingConfirmationTimeout : Nat := 2000

inductive SettingCompletionStrategy where
  | submissionOnly | matchingReadback
  deriving Repr, DecidableEq

def SettingCompletionStrategy.supportsReadback : SettingCompletionStrategy → Bool
  | matchingReadback => true
  | submissionOnly => false

inductive SettingValueSource where
  | liveReadback | captureReplay | userRequest | unknown
  deriving Repr, DecidableEq

inductive SettingCommandStatus where
  | idle | waitingForConfirmation | sentWithoutConfirmation | timedOut | confirmed | refused | failed
  deriving Repr, DecidableEq

inductive SettingTransportStatus where
  | accepted | queued | submitted | rejected | cancelled
  deriving Repr, DecidableEq

inductive ControlRefusalReason where
  | wrongSafetyClass | missingArm | wrongModel | expiredArm | currentLimitExceeded | unsupportedCommand | busy
  deriving Repr, DecidableEq

structure SettingValue (α : Type) where
  value : α
  source : SettingValueSource
  deriving Repr, DecidableEq

/-- The lifecycle of one setting write. -/
inductive SettingState (α : Type) where
  | unknown
  | current (value : SettingValue α)
  | pending (current : Option (SettingValue α)) (requested : α) (submittedAt : Option Nat)
  | confirmed (value : SettingValue α) (confirmedAt : Nat)
  | refused (current : Option (SettingValue α)) (requested : Option α) (reason : ControlRefusalReason)
  | timedOut (current : Option (SettingValue α)) (requested : α)
  | failed (current : Option (SettingValue α)) (requested : Option α)
  deriving Repr, DecidableEq

namespace SettingState
variable {α : Type} [DecidableEq α]

def currentReadback : SettingState α → Option (SettingValue α)
  | unknown => none
  | current value | confirmed value _ => some value
  | pending held _ _ | refused held _ _ | timedOut held _ | failed held _ => held

def requestedValue : SettingState α → Option α
  | pending _ requested _ | timedOut _ requested => some requested
  | refused _ requested _ | failed _ requested => requested
  | unknown | current _ | confirmed _ _ => none

def isPending : SettingState α → Bool
  | pending _ _ _ => true
  | _ => false

def submit (state : SettingState α) (requested : α) (submittedAt : Nat) : SettingState α :=
  pending state.currentReadback requested (some submittedAt)

def awaitTransport : SettingState α → SettingState α
  | pending held requested _ => pending held requested none
  | state => state

def transportSubmitted (state : SettingState α) (at_ : Nat) : SettingState α :=
  match state with
  | pending held requested _ => pending held requested (some at_)
  | state => state

/-- The confirmed state, where the readback confirms the pending request. -/
def confirmFrom (state : SettingState α) (value : α) (source : SettingValueSource) (confirmedAt : Nat) :
    Option (SettingState α) :=
  match state with
  | pending _ requested (some submittedAt) =>
    if requested ≠ value ∨ confirmedAt < submittedAt then none else some (confirmed ⟨value, source⟩ confirmedAt)
  | _ => none

def terminalReadbackMatches (state : SettingState α) (value : α) : Bool :=
  match state with
  | confirmed held _ | refused (some held) _ _ | timedOut (some held) _ | failed (some held) _ =>
    decide (held.value = value)
  | _ => false

def observe (state : SettingState α) (value : α) (source : SettingValueSource) (observedAt : Nat) : SettingState α :=
  match state.confirmFrom value source observedAt with
  | some answered => answered
  | none =>
    if state.terminalReadbackMatches value then state
    else match state with
      | failed _ requested => failed (some ⟨value, source⟩) requested
      | pending held requested submittedAt =>
        if submittedAt.all fun at_ => decide (at_ ≤ observedAt) then pending (some ⟨value, source⟩) requested submittedAt
        else pending held requested submittedAt
      | _ => current ⟨value, source⟩

def refuse (state : SettingState α) (reason : ControlRefusalReason) : SettingState α :=
  refused state.currentReadback state.requestedValue reason

def fail (state : SettingState α) : SettingState α := failed state.currentReadback state.requestedValue

def timeoutIfElapsed (state : SettingState α) (now timeout : Nat) : SettingState α :=
  match state with
  | pending held requested (some submittedAt) =>
    if now - submittedAt < timeout then pending held requested (some submittedAt) else timedOut held requested
  | state => state

def commandStatus (state : SettingState α) (now : Nat) (completion : SettingCompletionStrategy) : SettingCommandStatus :=
  match state with
  | unknown | current _ => .idle
  | pending _ _ none => .waitingForConfirmation
  | pending _ _ (some submittedAt) =>
    if completion.supportsReadback = false then .sentWithoutConfirmation
    else if settingConfirmationTimeout ≤ now - submittedAt then .timedOut
    else .waitingForConfirmation
  | confirmed _ _ => .confirmed
  | refused _ _ _ => .refused
  | timedOut _ _ => .timedOut
  | failed _ _ => .failed

end SettingState

inductive ValueSource where
  | reported | calculated | estimated
  deriving Repr, DecidableEq

inductive ValueQuality where
  | known | inferred
  deriving Repr, DecidableEq

inductive VerificationStatus where
  | unverified | inferred | sourceVerified | hardwareVerified | sourceAndHardwareVerified
  deriving Repr, DecidableEq

def VerificationStatus.isTrusted : VerificationStatus → Bool
  | unverified | inferred => false
  | sourceVerified | hardwareVerified | sourceAndHardwareVerified => true

structure Measured (α : Type) where
  value : α
  source : ValueSource
  quality : ValueQuality
  verification : VerificationStatus
  deriving Repr, DecidableEq

def Measured.mapValue {α β : Type} (measured : Measured α) (f : α → β) : Measured β :=
  ⟨f measured.value, measured.source, measured.quality, measured.verification⟩

/-- Evidence strong enough to confirm a request. -/
def Measured.confirms {α : Type} (measured : Measured α) : Bool :=
  decide (measured.source = .reported ∧ measured.quality = .known ∧ measured.verification.isTrusted = true)

inductive SettingSubmissionOutcome where
  | accepted
  | refused (reason : ControlRefusalReason)
  | failed
  deriving Repr, DecidableEq

structure SettingRecord where
  state : SettingState DeviceSettingValue := .unknown
  observedAt : Option Nat := none
  evidence : Option (Measured Unit) := none
  completion : SettingCompletionStrategy := .matchingReadback
  transport : Option SettingTransportStatus := none
  requestId : Option Nat := none
  transportAt : Option Nat := none
  deriving Repr, DecidableEq

namespace SettingRecord

/-- An observation that arrives behind the latest one, or behind the submission it should answer. -/
def outdated (record : SettingRecord) (observedAt : Nat) : Bool :=
  (record.observedAt.any fun latest => decide (observedAt < latest)) || match record.state with
    | .pending _ _ (some at_) => decide (observedAt < at_)
    | _ => false

def invalidateReadback (record : SettingRecord) (observedAt : Nat) : SettingRecord :=
  if record.outdated observedAt then record
  else
    let state := match record.state with
      | .pending _ requested submittedAt => .pending none requested submittedAt
      | .refused _ requested reason => .refused none requested reason
      | .timedOut _ requested => .timedOut none requested
      | .failed _ requested => .failed none requested
      | _ => .unknown
    { record with state, evidence := none, observedAt := some observedAt }

/-- Whether a readback may confirm a pending request. -/
def usableConfirmation (value : SettingValue DeviceSettingValue) (evidence : Option (Measured Unit)) : Bool :=
  decide (value.source = .liveReadback) && evidence.all Measured.confirms

def observeReadback (record : SettingRecord) (value : SettingValue DeviceSettingValue)
    (evidence : Option (Measured Unit)) (observedAt : Nat) : SettingRecord :=
  if record.outdated observedAt then record
  else
    let state := match record.state with
      | .pending current requested submittedAt =>
        if record.completion.supportsReadback = false ∨ usableConfirmation value evidence = false then
          .pending (some value) requested submittedAt
        else SettingState.observe (.pending current requested submittedAt) value.value value.source observedAt
      | state => state.observe value.value value.source observedAt
    { record with state, observedAt := some observedAt, evidence }

def submission (record : SettingRecord) (managedTransport : Bool) (requestId : Nat) (requested : DeviceSettingValue)
    (outcome : SettingSubmissionOutcome) (completion : SettingCompletionStrategy) (submittedAt : Nat) : SettingRecord :=
  let submitted := record.state.submit requested submittedAt
  let waiting := if managedTransport then submitted.awaitTransport else submitted
  { record with
    requestId := some requestId
    transportAt := some submittedAt
    completion
    transport := some (match outcome with
      | .accepted => .accepted
      | .refused _ | .failed => .rejected)
    state := match outcome with
      | .accepted => waiting
      | .refused reason => waiting.refuse reason
      | .failed => waiting.fail }

def transportMoves : Option SettingTransportStatus → SettingTransportStatus → Bool
  | some .accepted, .queued | some .accepted, .submitted | some .accepted, .rejected | some .accepted, .cancelled
  | some .queued, .submitted | some .queued, .rejected | some .queued, .cancelled => true
  | _, _ => false

/-- The record behind an accepted receipt; `none` is the arm that must not be reached. -/
def transported (record : SettingRecord) (status : SettingTransportStatus) (at_ : Nat) : Option SettingRecord :=
  let record := { record with transport := some status, transportAt := some at_ }
  match status with
  | .submitted => some { record with state := record.state.transportSubmitted at_ }
  | .rejected | .cancelled => some { record with state := record.state.fail }
  | .queued => some record
  | .accepted => none

/-- A receipt is taken only for the latest request, in order of time, and while it is pending. -/
def takesTransport (record : SettingRecord) (requestId : Nat) (status : SettingTransportStatus) (at_ : Nat) : Bool :=
  decide (record.requestId = some requestId) && (record.transportAt.all fun latest => decide (latest ≤ at_)) &&
    record.state.isPending && transportMoves record.transport status

def takesFailure (record : SettingRecord) (at_ : Nat) : Bool :=
  (record.transportAt.all fun latest => decide (latest ≤ at_)) && record.state.isPending

def tick (record : SettingRecord) (now : Nat) : SettingRecord :=
  if record.completion.supportsReadback then
    { record with state := record.state.timeoutIfElapsed now settingConfirmationTimeout }
  else record

end SettingRecord

/-- Settings are kept in the order of their declaration. -/
def settingRank : SettingId ↪ Nat := ⟨SettingId.ctorIdx, Function.LeftInverse.injective SettingId.ofNat_ctorIdx⟩

structure DeviceSettingsState where
  records : OrderedMap SettingId SettingRecord settingRank := .empty
  managedTransport : Bool := false

structure DeviceSettingSnapshot where
  id : SettingId
  current : Option (SettingValue DeviceSettingValue)
  measured : Option (Measured DeviceSettingValue)
  requested : Option DeviceSettingValue
  requestId : Option Nat
  status : SettingCommandStatus
  transport : Option SettingTransportStatus
  age : Option Nat
  refusal : Option ControlRefusalReason
  deriving Repr, DecidableEq

def SettingRecord.snapshot (id : SettingId) (record : SettingRecord) (now : Nat) : DeviceSettingSnapshot where
  id
  current := record.state.currentReadback
  measured := match record.state.currentReadback, record.evidence with
    | some current, some evidence => some (evidence.mapValue fun _ => current.value)
    | _, _ => none
  requested := record.state.requestedValue
  requestId := record.requestId
  status := record.state.commandStatus now record.completion
  transport := record.transport
  age := if record.state.currentReadback.isSome then record.observedAt.map (now - ·) else none
  refusal := match record.state with
    | .refused _ _ reason => some reason
    | _ => none

inductive TransportReply where
  | refused | taken | unreachable
  deriving Repr, DecidableEq

namespace DeviceSettingsState

def requireManagedTransport (settings : DeviceSettingsState) : DeviceSettingsState :=
  { settings with managedTransport := true }

/-- The record of a setting, changed in place or inserted with its defaults. -/
def update (settings : DeviceSettingsState) (id : SettingId) (change : SettingRecord → SettingRecord) :
    DeviceSettingsState :=
  { settings with records := settings.records.entry id fun record => change (record.getD {}) }

def observe (settings : DeviceSettingsState) (id : SettingId) (value : DeviceSettingValue) (source : SettingValueSource)
    (observedAt : Nat) : DeviceSettingsState :=
  settings.update id fun record => record.observeReadback ⟨value, source⟩ none observedAt

def observeMeasured (settings : DeviceSettingsState) (id : SettingId) (measured : Measured DeviceSettingValue)
    (observedAt : Nat) : DeviceSettingsState :=
  let source := if measured.source = .reported then SettingValueSource.liveReadback else .unknown
  settings.update id fun record =>
    record.observeReadback ⟨measured.value, source⟩ (some (measured.mapValue fun _ => ())) observedAt

def invalidateReadback (settings : DeviceSettingsState) (id : SettingId) (observedAt : Nat) : DeviceSettingsState :=
  settings.update id fun record => record.invalidateReadback observedAt

/-- Takes the next request id from the counter of the process; an exhausted counter repeats its last. -/
def submission (settings : DeviceSettingsState) (nextRequestId : Nat) (id : SettingId) (requested : DeviceSettingValue)
    (outcome : SettingSubmissionOutcome) (completion : SettingCompletionStrategy) (submittedAt : Nat) :
    DeviceSettingsState × Nat × Nat :=
  let requestId := if nextRequestId < u64Max then nextRequestId else u64Max
  (settings.update id fun record =>
    record.submission settings.managedTransport requestId requested outcome completion submittedAt,
    if nextRequestId < u64Max then nextRequestId + 1 else nextRequestId, requestId)

def transport (settings : DeviceSettingsState) (id : SettingId) (requestId : Nat) (status : SettingTransportStatus)
    (at_ : Nat) : DeviceSettingsState × TransportReply :=
  match settings.records.get id with
  | none => (settings, .refused)
  | some record =>
    if record.takesTransport requestId status at_ = false then (settings, .refused)
    else match record.transported status at_ with
      | none => (settings, .unreachable)
      | some moved => (settings.update id fun _ => moved, .taken)

def failOperation (settings : DeviceSettingsState) (requestId at_ : Nat) : DeviceSettingsState × Bool :=
  let owns := fun record : SettingRecord => decide (record.requestId = some requestId)
  match settings.records.items.find? fun item => owns item.2 with
  | none => (settings, false)
  | some item =>
    if item.2.takesFailure at_ = false then (settings, false)
    else ({ settings with records := settings.records.updateFirst owns fun record =>
        { record with state := record.state.fail } }, true)

/-- Whether the request still waits for a receipt of the transport. -/
def awaitsTransport (settings : DeviceSettingsState) (id : SettingId) (requestId : Nat) : Bool :=
  (settings.records.get id).any fun record =>
    decide (record.requestId = some requestId ∧ (record.transport = some .accepted ∨ record.transport = some .queued))

def tick (settings : DeviceSettingsState) (now : Nat) : DeviceSettingsState :=
  { settings with records := settings.records.mapValues fun record => record.tick now }

def disconnect (settings : DeviceSettingsState) : DeviceSettingsState := { settings with records := .empty }

def snapshot (settings : DeviceSettingsState) (now : Nat) : List DeviceSettingSnapshot :=
  settings.records.items.map fun item => item.2.snapshot item.1 now

end DeviceSettingsState

inductive SettingsCall where
  | observe (id : SettingId) (value : DeviceSettingValue) (source : SettingValueSource) (observedAt : Nat)
  | observeMeasured (id : SettingId) (measured : Measured DeviceSettingValue) (observedAt : Nat)
  | invalidateReadback (id : SettingId) (observedAt : Nat)
  | submission (id : SettingId) (requested : DeviceSettingValue) (outcome : SettingSubmissionOutcome)
      (completion : SettingCompletionStrategy) (submittedAt : Nat)
  | transport (id : SettingId) (requestId : Nat) (status : SettingTransportStatus) (at_ : Nat)
  | failOperation (requestId at_ : Nat)
  | tick (now : Nat)
  | disconnect
  | requireManagedTransport
  -- Another device of the process takes a request id from the shared counter.
  | submissionElsewhere

inductive SettingsReply where
  | done
  | requested (requestId : Nat)
  | transport (reply : TransportReply)
  | failOperation (taken : Bool)
  deriving Repr, DecidableEq

/-- The settings of a device, and the counter of request ids of the process. -/
structure SettingsProcess where
  settings : DeviceSettingsState := {}
  nextRequestId : Nat := 1

def SettingsProcess.step (process : SettingsProcess) : SettingsCall → SettingsProcess × SettingsReply
  | .observe id value source at_ => ({ process with settings := process.settings.observe id value source at_ }, .done)
  | .observeMeasured id measured at_ =>
    ({ process with settings := process.settings.observeMeasured id measured at_ }, .done)
  | .invalidateReadback id at_ => ({ process with settings := process.settings.invalidateReadback id at_ }, .done)
  | .submission id requested outcome completion at_ =>
    let (settings, nextRequestId, requestId) :=
      process.settings.submission process.nextRequestId id requested outcome completion at_
    (⟨settings, nextRequestId⟩, .requested requestId)
  | .transport id requestId status at_ =>
    let (settings, reply) := process.settings.transport id requestId status at_
    ({ process with settings }, .transport reply)
  | .failOperation requestId at_ =>
    let (settings, taken) := process.settings.failOperation requestId at_
    ({ process with settings }, .failOperation taken)
  | .tick now => ({ process with settings := process.settings.tick now }, .done)
  | .disconnect => ({ process with settings := process.settings.disconnect }, .done)
  | .requireManagedTransport => ({ process with settings := process.settings.requireManagedTransport }, .done)
  | .submissionElsewhere =>
    ({ process with nextRequestId :=
      if process.nextRequestId < u64Max then process.nextRequestId + 1 else process.nextRequestId }, .done)

end Cutout.Core

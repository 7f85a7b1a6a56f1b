import Cutout.MusicObservation

/-! What one selected music provider calls back about: replaceable callback sources,
the authorization transaction, bounded connection attempts, and player-state and
artwork requests. Identities are counted up and never reused. Times are milliseconds. -/

namespace Cutout.Music
open Protocols (u64Max saturatingAdd)

/-- `LifecycleId::next`: no identity after the largest one. -/
def nextId (id : Nat) : Option Nat := if id + 1 ≤ u64Max then some (id + 1) else none

inductive CallbackEpochMatch where
  | current | stale
  deriving Repr, DecidableEq

structure CallbackEpoch where
  lastId : Nat := 0
  active : Option Nat := none
  deriving Repr, DecidableEq

namespace CallbackEpoch

/-- Begins a new epoch and retires any predecessor. -/
def begin (epoch : CallbackEpoch) : CallbackEpoch × Option Nat :=
  match nextId epoch.lastId with
  | none => (epoch, none)
  | some id => (⟨id, some id⟩, some id)

def classify (epoch : CallbackEpoch) (id : Nat) : CallbackEpochMatch :=
  if epoch.active = some id then .current else .stale

def finish (epoch : CallbackEpoch) (id : Nat) : CallbackEpoch × CallbackEpochMatch :=
  if epoch.classify id = .current then ({ epoch with active := none }, .current) else (epoch, .stale)

def invalidate (epoch : CallbackEpoch) : CallbackEpoch := { epoch with active := none }

end CallbackEpoch

inductive AuthorizationTransactionKind where
  | authorizing | renewing
  deriving Repr, DecidableEq

inductive AuthorizationTransactionMatch where
  | authorizing | renewing | stale
  deriving Repr, DecidableEq

structure AuthorizationTransaction where
  lastId : Nat := 0
  active : Option (AuthorizationTransactionKind × Nat) := none
  deriving Repr, DecidableEq

namespace AuthorizationTransaction

def begin (transaction : AuthorizationTransaction) (kind : AuthorizationTransactionKind) :
    AuthorizationTransaction × Option Nat :=
  match nextId transaction.lastId with
  | none => (transaction, none)
  | some id => (⟨id, some (kind, id)⟩, some id)

def classify (transaction : AuthorizationTransaction) (id : Nat) : AuthorizationTransactionMatch :=
  if transaction.active = some (.authorizing, id) then .authorizing
  else if transaction.active = some (.renewing, id) then .renewing
  else .stale

def finish (transaction : AuthorizationTransaction) (id : Nat) :
    AuthorizationTransaction × AuthorizationTransactionMatch :=
  if transaction.classify id = .stale then (transaction, .stale)
  else ({ transaction with active := none }, transaction.classify id)

def invalidate (transaction : AuthorizationTransaction) : AuthorizationTransaction := { transaction with active := none }

end AuthorizationTransaction

inductive MusicMonitorStart where
  | observe | authorize
  deriving Repr, DecidableEq

inductive MusicMonitorRequest where
  | observe | authorize
  deriving Repr, DecidableEq

inductive MonitorScene where
  | active | suspended
  deriving Repr, DecidableEq

inductive MonitorIntent where
  | idle | observe | authorize
  deriving Repr, DecidableEq

inductive MusicMonitorResume where
  | alreadyActive | noRequest | restored
  deriving Repr, DecidableEq

structure MusicMonitor where
  scene : MonitorScene := .active
  intent : MonitorIntent := .idle
  deriving Repr, DecidableEq

namespace MusicMonitor

def request (monitor : MusicMonitor) (request : MusicMonitorRequest) : MusicMonitor :=
  { monitor with
    intent := match request with
      | .observe => if monitor.intent = .authorize then .authorize else .observe
      | .authorize => .authorize }

def cancel (monitor : MusicMonitor) : MusicMonitor := { monitor with intent := .idle }

/-- Suspends observation without forgetting intent or retaining an auth launch. -/
def suspend (monitor : MusicMonitor) : MusicMonitor :=
  ⟨.suspended, if monitor.intent = .authorize then .observe else monitor.intent⟩

def resume (monitor : MusicMonitor) : MusicMonitor × MusicMonitorResume :=
  ({ monitor with scene := .active },
    match monitor.scene with
    | .active => .alreadyActive
    | .suspended => if monitor.intent = .idle then .noRequest else .restored)

def pendingStart (monitor : MusicMonitor) : Option MusicMonitorStart :=
  if monitor.scene ≠ .active ∨ monitor.intent = .idle then none
  else some (if monitor.intent = .authorize then .authorize else .observe)

/-- Admits a foreground start and consumes any one-shot authorization grant. -/
def takeStart (monitor : MusicMonitor) : MusicMonitor × Option MusicMonitorStart :=
  match monitor.pendingStart with
  | none => (monitor, none)
  | some start => ({ monitor with intent := .observe }, some start)

end MusicMonitor

def maximumAttempts : Nat := 3
def retryDelay : Nat := 2000
def attemptTimeout : Nat := 10000

inductive MusicConnectionCallback where
  | accepted | stale
  deriving Repr, DecidableEq

inductive ConnectionAttemptAdmission where
  | started (attemptId : Nat)
  | pending | waitingToRetry | exhausted
  deriving Repr, DecidableEq

inductive MusicConnectionState where
  | idle
  | connecting (attemptId startedAt : Nat)
  | connected (connectionId : Nat)
  | waitingToRetry (notBefore : Nat)
  deriving Repr, DecidableEq

/-- Retry admission. Failures and disconnects retain the attempt budget; only a
successful connection resets it. -/
structure MusicConnection where
  attempts : Nat := 0
  lastAttemptId : Nat := 0
  state : MusicConnectionState := .idle
  deriving Repr, DecidableEq

namespace MusicConnection

/-- The active attempt or connected session. -/
def callbackId (connection : MusicConnection) : Option Nat :=
  match connection.state with
  | .connecting attemptId _ => some attemptId
  | .connected connectionId => some connectionId
  | .idle | .waitingToRetry _ => none

def isEstablished (connection : MusicConnection) (connectionId : Nat) : Bool :=
  decide (connection.state = .connected connectionId)

/-- Classifies a callback while enforcing the active attempt deadline. -/
def classifyAt (connection : MusicConnection) (attemptId now : Nat) : MusicConnectionCallback :=
  match connection.state with
  | .connected current => if current = attemptId then .accepted else .stale
  | .connecting current startedAt =>
    if current = attemptId ∧ now - startedAt < attemptTimeout then .accepted else .stale
  | .idle | .waitingToRetry _ => .stale

/-- Invalidates the active attempt without reusing callback identities. -/
def reset (connection : MusicConnection) : MusicConnection := { connection with attempts := 0, state := .idle }

/-- What keeps another attempt from starting now. -/
def holdsBack (connection : MusicConnection) (now : Nat) : Option ConnectionAttemptAdmission :=
  match connection.state with
  | .connecting _ startedAt => if now - startedAt < attemptTimeout then some .pending else none
  | .waitingToRetry notBefore => if now < notBefore then some .waitingToRetry else none
  | .idle | .connected _ => none

def beginAttempt (connection : MusicConnection) (now : Nat) : MusicConnection × ConnectionAttemptAdmission :=
  if maximumAttempts ≤ connection.attempts then (connection, .exhausted)
  else
    match connection.holdsBack now with
    | some admission => (connection, admission)
    | none =>
      match nextId connection.lastAttemptId with
      | none => (connection, .exhausted)
      | some attemptId => (⟨connection.attempts + 1, attemptId, .connecting attemptId now⟩, .started attemptId)

def scheduleRetry (connection : MusicConnection) (now : Nat) : MusicConnection :=
  let requested := saturatingAdd now retryDelay
  { connection with
    state := match connection.state with
      | .waitingToRetry notBefore => .waitingToRetry (max notBefore requested)
      | .idle | .connecting _ _ | .connected _ => .waitingToRetry requested }

/-- Accepts a failure only from the current attempt or connected session. -/
def failedFor (connection : MusicConnection) (attemptId now : Nat) : MusicConnection × MusicConnectionCallback :=
  if connection.classifyAt attemptId now = .stale then (connection, .stale) else (connection.scheduleRetry now, .accepted)

/-- Accepts success only before the active attempt's deadline. -/
def establishedForAt (connection : MusicConnection) (attemptId now : Nat) : MusicConnection × Option Nat :=
  match connection.state with
  | .connecting current _ =>
    if current ≠ attemptId ∨ connection.classifyAt attemptId now = .stale then (connection, none)
    else ({ connection with attempts := 0, state := .connected attemptId }, some attemptId)
  | .idle | .connected _ | .waitingToRetry _ => (connection, none)

/-- Retires an attempt whose deadline elapsed before a late success callback. -/
def expiredFor (connection : MusicConnection) (attemptId now : Nat) : MusicConnection × MusicConnectionCallback :=
  match connection.state with
  | .connecting current startedAt =>
    if current ≠ attemptId ∨ now - startedAt < attemptTimeout then (connection, .stale)
    else (connection.scheduleRetry now, .accepted)
  | .idle | .connected _ | .waitingToRetry _ => (connection, .stale)

end MusicConnection

def requestTimeout : Nat := 10000
def maxArtworkAttempts : Nat := 3

inductive MusicPlayerRequestCompletion where
  | accepted | stale
  deriving Repr, DecidableEq

inductive MusicPlayerRequestExpiration where
  | pending | expired | stale
  deriving Repr, DecidableEq

structure PendingPlayerStateRequest where
  id : Nat
  startedAt : Nat
  deriving Repr, DecidableEq

inductive ObservationRevisionState where
  | current (revision : Nat)
  | exhausted
  deriving Repr, DecidableEq

def ObservationRevisionState.advance : ObservationRevisionState → ObservationRevisionState
  | current revision => (nextId revision).elim exhausted current
  | exhausted => exhausted

/-- One outstanding player-state request, replaceable if its callback is lost. -/
structure MusicPlayerRequest where
  lastId : Nat := 0
  state : Option PendingPlayerStateRequest := none
  lastObservedAt : Option Nat := none
  observationRevision : ObservationRevisionState := .current 0
  deriving Repr, DecidableEq

namespace MusicPlayerRequest

def begin (request : MusicPlayerRequest) (now : Nat) : MusicPlayerRequest × Option Nat :=
  if request.state.any fun pending => decide (now - pending.startedAt < requestTimeout) then (request, none)
  else
    match nextId request.lastId with
    | none => (request, none)
    | some id => ({ request with lastId := id, state := some ⟨id, now⟩ }, some id)

/-- The outstanding request, when the callback names it. -/
def named (request : MusicPlayerRequest) (id : Nat) : Option PendingPlayerStateRequest :=
  request.state.filter fun pending => decide (pending.id = id)

def retire (request : MusicPlayerRequest) (id : Nat) : MusicPlayerRequest × Option PendingPlayerStateRequest :=
  match request.named id with
  | none => (request, none)
  | some pending => ({ request with state := none }, some pending)

def complete (request : MusicPlayerRequest) (id now : Nat) : MusicPlayerRequest × MusicPlayerRequestCompletion :=
  match request.retire id with
  | (kept, none) => (kept, .stale)
  | (retired, some pending) => (retired, if now - pending.startedAt < requestTimeout then .accepted else .stale)

def expire (request : MusicPlayerRequest) (id now : Nat) : MusicPlayerRequest × MusicPlayerRequestExpiration :=
  match request.named id with
  | none => (request, .stale)
  | some pending =>
    if now - pending.startedAt < requestTimeout then (request, .pending) else ((request.retire id).1, .expired)

/-- Completes a poll only when no newer push observation superseded it. -/
def completeIfCurrent (request : MusicPlayerRequest) (id revision now : Nat) :
    MusicPlayerRequest × MusicPlayerRequestCompletion :=
  if request.observationRevision ≠ .current revision then ((request.retire id).1, .stale) else request.complete id now

def markObserved (request : MusicPlayerRequest) (now : Nat) : MusicPlayerRequest :=
  { request with observationRevision := request.observationRevision.advance, lastObservedAt := some now }

def reset (request : MusicPlayerRequest) : MusicPlayerRequest := { request with state := none, lastObservedAt := none }

end MusicPlayerRequest

/-- Bounded identity and retry admission for provider artwork callbacks. -/
structure MusicArtworkRequest where
  lastId : Nat := 0
  attempts : Nat := 0
  pending : Option Nat := none
  deriving Repr, DecidableEq

namespace MusicArtworkRequest

def canRetry (request : MusicArtworkRequest) : Bool :=
  request.pending.isNone && decide (request.attempts < maxArtworkAttempts)

def begin (request : MusicArtworkRequest) : MusicArtworkRequest × Option Nat :=
  if !request.canRetry then (request, none)
  else
    match nextId request.lastId with
    | none => (request, none)
    | some id => (⟨id, request.attempts + 1, some id⟩, some id)

def complete (request : MusicArtworkRequest) (id : Nat) : MusicArtworkRequest × MusicPlayerRequestCompletion :=
  if request.pending = some id then ({ request with pending := none }, .accepted) else (request, .stale)

def reset (request : MusicArtworkRequest) : MusicArtworkRequest := { request with attempts := 0, pending := none }

end MusicArtworkRequest

end Cutout.Music

import Cutout.Wire

/-! The logical ride and its desired activity projection. Every input moves the
state and asks the platform for at most one effect. Times are milliseconds. -/

namespace Cutout.Core

/-- Maximum telemetry age before a ride becomes stale, in milliseconds. -/
def rideSessionStaleAfter : Nat := 2000

/-- Stable identity of one logical ride, including reconnects of the same transport. -/
structure RideSessionIdentity where
  platformIdentifier : String
  sessionId : BitVec 128
  deriving Repr, DecidableEq

structure RideSessionMarker where
  identity : RideSessionIdentity
  deriving Repr, DecidableEq

inductive RideSessionAppPresence where
  | foreground | background
  deriving Repr, DecidableEq

inductive RideSessionEndReason where
  | userDisconnect | userStop | replacedByNewSession | reconnectExhausted | appReset | unrecoverableSessionFailure
  deriving Repr, DecidableEq

inductive RideSessionPhase where
  | idle | starting | active | reconnecting | stale
  | ending (reason : RideSessionEndReason)
  | ended (reason : RideSessionEndReason)
  deriving Repr, DecidableEq

namespace RideSessionPhase

/-- Whether the session still owns work, terminal effects included. -/
def isLive : RideSessionPhase → Bool
  | idle | ended _ => false
  | starting | active | reconnecting | stale | ending _ => true

/-- Whether transport and activity updates can still advance the session. -/
def acceptsUpdates : RideSessionPhase → Bool
  | starting | active | reconnecting | stale => true
  | idle | ending _ | ended _ => false

end RideSessionPhase

inductive ActivityProjectionState where
  | absent | starting
  | active (activityId : String)
  | stale (activityId : String)
  | ending | ended | unavailable
  deriving Repr, DecidableEq

inductive RideSessionInput where
  | start (identity : RideSessionIdentity)
  | activityStarted (identity : RideSessionIdentity) (activityId : String)
  | activityEnded (identity : RideSessionIdentity)
  | activityUnavailable (identity : RideSessionIdentity)
  | appBackgrounded
  | appForegrounded
  | bluetoothDisconnected (at_ : Nat)
  | bluetoothConnected
  | telemetryObserved (at_ : Nat)
  | freshnessChecked (now : Nat)
  | userDisconnected
  | userStopped
  | reconnectExhausted
  | appReset
  | unrecoverableSessionFailure
  deriving Repr, DecidableEq

inductive RideSessionEffect where
  | none
  | startActivity (identity : RideSessionIdentity)
  | updateActivity (identity : RideSessionIdentity)
  | markActivityStale (identity : RideSessionIdentity)
  | endActivity (identity : RideSessionIdentity) (reason : RideSessionEndReason)
  | requestCaptureFlush (identity : RideSessionIdentity)
  deriving Repr, DecidableEq

structure RideSessionLifecycle where
  phase : RideSessionPhase := .idle
  identity : Option RideSessionIdentity := none
  pendingIdentity : Option RideSessionIdentity := none
  activity : ActivityProjectionState := .absent
  lastTelemetryAt : Option Nat := none
  appPresence : RideSessionAppPresence := .foreground
  deriving Repr, DecidableEq

/-- The next state with the effect it asks for. -/
abbrev RideSessionDecision := RideSessionLifecycle × RideSessionEffect

namespace RideSessionLifecycle

/-- A freshly started ride under `identity`. -/
def starting (identity : RideSessionIdentity) (appPresence : RideSessionAppPresence) : RideSessionLifecycle :=
  ⟨.starting, some identity, none, .starting, none, appPresence⟩

def recover (marker : RideSessionMarker) (restoredPlatformIdentifier : Option String)
    (appPresence : RideSessionAppPresence) : RideSessionDecision :=
  if restoredPlatformIdentifier = some marker.identity.platformIdentifier then
    (starting marker.identity appPresence, .startActivity marker.identity)
  else (⟨.reconnecting, some marker.identity, none, .unavailable, none, appPresence⟩, .none)

def start (state : RideSessionLifecycle) (identity : RideSessionIdentity) : RideSessionDecision :=
  if state.identity = some identity ∧ state.phase.isLive = true then (state, .none)
  else match state.identity.filter fun _ => state.phase.isLive with
    | some currentIdentity =>
      ({ state with
          phase := .ending .replacedByNewSession
          pendingIdentity := some identity
          activity := .ending }, .endActivity currentIdentity .replacedByNewSession)
    | none => (starting identity state.appPresence, .startActivity identity)

def activityStarted (state : RideSessionLifecycle) (identity : RideSessionIdentity) (activityId : String) :
    RideSessionDecision :=
  if state.identity ≠ some identity ∨ state.activity ≠ .starting ∨ state.phase.acceptsUpdates = false then
    (state, .none)
  else
    ({ state with
        phase := if state.phase = .starting then .active else state.phase
        activity := .active activityId }, .none)

def activityEnded (state : RideSessionLifecycle) (identity : RideSessionIdentity) : RideSessionDecision :=
  if state.identity ≠ some identity then (state, .none)
  else match state.phase with
    | .ending reason =>
      match state.pendingIdentity with
      | some pending => (starting pending state.appPresence, .startActivity pending)
      | none => ({ state with phase := .ended reason, activity := .ended }, .none)
    | _ => (state, .none)

def activityUnavailable (state : RideSessionLifecycle) (identity : RideSessionIdentity) : RideSessionDecision :=
  if state.identity ≠ some identity ∨ state.phase.isLive = false then (state, .none)
  else ({ state with activity := .unavailable }, .none)

def appBackgrounded (state : RideSessionLifecycle) : RideSessionDecision :=
  if state.appPresence = .background then (state, .none)
  else
    ({ state with appPresence := .background },
      match state.identity.filter fun _ => state.phase.isLive with
      | some identity => .requestCaptureFlush identity
      | none => .none)

def appForegrounded (state : RideSessionLifecycle) : RideSessionDecision :=
  if state.appPresence = .foreground then (state, .none)
  else ({ state with appPresence := .foreground }, .none)

def bluetoothDisconnected (state : RideSessionLifecycle) (at_ : Nat) : RideSessionDecision :=
  match state.identity with
  | none => (state, .none)
  | some identity =>
    if state.phase.acceptsUpdates = false then (state, .none)
    else
      let lastTelemetryAt := some (state.lastTelemetryAt.getD at_)
      match state.activity with
      | .active activityId | .stale activityId =>
        ({ state with phase := .reconnecting, lastTelemetryAt, activity := .stale activityId },
          .markActivityStale identity)
      | _ => ({ state with phase := .reconnecting, lastTelemetryAt }, .none)

def bluetoothConnected (state : RideSessionLifecycle) : RideSessionDecision :=
  match state.phase with
  | .reconnecting | .stale => ({ state with phase := .active }, .none)
  | _ => (state, .none)

def telemetryObserved (state : RideSessionLifecycle) (at_ : Nat) : RideSessionDecision :=
  match state.identity with
  | none => (state, .none)
  | some identity =>
    if state.phase.acceptsUpdates = false then (state, .none)
    else match state.activity with
      | .active _ => ({ state with phase := .active, lastTelemetryAt := some at_ }, .updateActivity identity)
      | .stale activityId =>
        ({ state with phase := .active, lastTelemetryAt := some at_, activity := .active activityId },
          .updateActivity identity)
      | _ => ({ state with phase := .active, lastTelemetryAt := some at_ }, .none)

def freshnessChecked (state : RideSessionLifecycle) (now staleAfter : Nat) : RideSessionDecision :=
  match state.identity, state.lastTelemetryAt with
  | some identity, some lastTelemetryAt =>
    -- the age is a saturating difference
    if state.phase.acceptsUpdates = false ∨ state.phase = .stale ∨ now - lastTelemetryAt < staleAfter then
      (state, .none)
    else match state.activity with
      | .active activityId =>
        ({ state with phase := .stale, activity := .stale activityId }, .markActivityStale identity)
      | _ => ({ state with phase := .stale }, .none)
  | _, _ => (state, .none)

/-- The source's `end`. -/
def finish (state : RideSessionLifecycle) (reason : RideSessionEndReason) : RideSessionDecision :=
  match state.identity with
  | none => ({ state with phase := .ended reason, activity := .ended }, .none)
  | some identity =>
    if state.phase.isLive = false then (state, .none)
    else match state.phase with
      | .ending existingReason =>
        if existingReason = reason ∧ state.activity = .unavailable then
          ({ state with activity := .ending }, .endActivity identity reason)
        else (state, .none)
      | _ =>
        ({ state with phase := .ending reason, pendingIdentity := none, activity := .ending },
          .endActivity identity reason)

def transition (state : RideSessionLifecycle) : RideSessionInput → RideSessionDecision
  | .start identity => state.start identity
  | .activityStarted identity activityId => state.activityStarted identity activityId
  | .activityEnded identity => state.activityEnded identity
  | .activityUnavailable identity => state.activityUnavailable identity
  | .appBackgrounded => state.appBackgrounded
  | .appForegrounded => state.appForegrounded
  | .bluetoothDisconnected at_ => state.bluetoothDisconnected at_
  | .bluetoothConnected => state.bluetoothConnected
  | .telemetryObserved at_ => state.telemetryObserved at_
  | .freshnessChecked now => state.freshnessChecked now rideSessionStaleAfter
  | .userDisconnected => state.finish .userDisconnect
  | .userStopped => state.finish .userStop
  | .reconnectExhausted => state.finish .reconnectExhausted
  | .appReset => state.finish .appReset
  | .unrecoverableSessionFailure => state.finish .unrecoverableSessionFailure

end RideSessionLifecycle

end Cutout.Core

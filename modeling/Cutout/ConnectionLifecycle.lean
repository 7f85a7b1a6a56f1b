import Cutout.Wire

/-! Connection attempts and their retries. The lifecycle owns the identity of the
current attempt, what is known about its transport and protocol, and the one retry
that may be scheduled behind a failed attempt. Times are milliseconds. -/

namespace Cutout.Core
open Protocols (saturatingAdd)

/-- `wrapping_add(1)` on 64 bits. -/
def wrappingNext (counter : Nat) : Nat := (counter + 1) % 2 ^ 64

structure ConnectionAttemptToken where
  generation : Nat
  platformIdentifier : String
  deriving Repr, DecidableEq

structure ConnectionRetry where
  token : Nat
  attempt : Nat
  deadline : Nat
  platformIdentifier : String
  deriving Repr, DecidableEq

inductive ConnectionRetryDecision where
  | scheduled (retry : ConnectionRetry)
  | exhausted (attempt : Nat)
  | rejected
  deriving Repr, DecidableEq

inductive ConnectionReadiness where
  | disconnected | pending | verified | recordOnly | failed | conflicted
  deriving Repr, DecidableEq

inductive ConnectionTransportState where
  | disconnected | connecting | connected
  deriving Repr, DecidableEq

structure ConnectionAttemptSnapshot where
  generation : Nat := 0
  revision : Nat := 0
  token : Option ConnectionAttemptToken := none
  readiness : ConnectionReadiness := .disconnected
  transport : ConnectionTransportState := .disconnected
  deadline : Option Nat := none
  deriving Repr, DecidableEq

/-- Initial identification is bounded; a proven wheel stays selected through transport loss. -/
inductive ConnectionRetryScope where
  | initialIdentification | establishedConnection
  deriving Repr, DecidableEq

structure ConnectionAttemptLifecycle where
  snapshot : ConnectionAttemptSnapshot := {}
  retryScope : ConnectionRetryScope := .initialIdentification
  retryAttempt : Nat := 0
  retryToken : Nat := 0
  failedAttempt : Option ConnectionAttemptToken := none
  pendingRetry : Option ConnectionRetry := none
  deriving Repr, DecidableEq

/-- Earliest delay before retry number `attempt`, in milliseconds. The exponent is capped before
shifting, and no product reaches 2^64. -/
def retryDelay (attempt jitterPermille : Nat) : Nat :=
  let base := min (250 * 2 ^ min (attempt - 1) 7) 25000
  (base * (800000 + 400 * min jitterPermille 1000) + 500000) / 1000000

namespace ConnectionAttemptLifecycle

def isCurrent (state : ConnectionAttemptLifecycle) (token : ConnectionAttemptToken) : Bool :=
  decide (state.snapshot.token = some token)

def beginAttempt (state : ConnectionAttemptLifecycle) (platformIdentifier : String) (at_ : Nat) :
    ConnectionAttemptLifecycle × ConnectionAttemptToken :=
  let generation := wrappingNext state.snapshot.generation
  let token := ⟨generation, platformIdentifier⟩
  ({ state with snapshot := {
      generation
      revision := wrappingNext state.snapshot.revision
      token := some token
      readiness := .pending
      transport := .connecting
      deadline := some (saturatingAdd at_ 15000) } }, token)

/-- The source's `begin`. -/
def start (state : ConnectionAttemptLifecycle) (platformIdentifier : String) (at_ : Nat) :
    ConnectionAttemptLifecycle × ConnectionAttemptToken :=
  beginAttempt { state with
    retryScope := .initialIdentification
    retryAttempt := 0
    failedAttempt := none
    pendingRetry := none } platformIdentifier at_

/-- Readiness of an attempt that may still be retried. -/
def canRetry : ConnectionReadiness → Bool
  | .pending | .verified | .recordOnly | .failed => true
  | .disconnected | .conflicted => false

def requestRetry (state : ConnectionAttemptLifecycle) (failed : ConnectionAttemptToken) (at_ jitterPermille : Nat) :
    ConnectionAttemptLifecycle × ConnectionRetryDecision :=
  if state.pendingRetry.isSome then (state, .rejected)
  else if (state.isCurrent failed && canRetry state.snapshot.readiness) = false ∧ state.failedAttempt ≠ some failed then
    (state, .rejected)
  else
    -- an eight-bit counter that saturates
    let attempt := min (state.retryAttempt + 1) 255
    if 3 < attempt ∧ state.retryScope = .initialIdentification then
      ({ state with
          snapshot :=
            if state.isCurrent failed then
              { generation := wrappingNext state.snapshot.generation
                revision := wrappingNext state.snapshot.revision
                token := none
                readiness := .failed
                transport := .disconnected
                deadline := none }
            else state.snapshot
          failedAttempt := some failed
          retryAttempt := attempt }, .exhausted attempt)
    else
      let retryToken := wrappingNext state.retryToken
      let retry : ConnectionRetry :=
        ⟨retryToken, attempt, saturatingAdd at_ (retryDelay attempt jitterPermille), failed.platformIdentifier⟩
      ({ state with
          snapshot :=
            if state.isCurrent failed then
              { state.snapshot with
                revision := wrappingNext state.snapshot.revision
                readiness := .failed
                transport := .disconnected
                deadline := none }
            else state.snapshot
          failedAttempt := some failed
          retryAttempt := attempt
          retryToken
          pendingRetry := some retry }, .scheduled retry)

def admitRetry (state : ConnectionAttemptLifecycle) (token at_ : Nat) :
    ConnectionAttemptLifecycle × Option ConnectionAttemptToken :=
  match state.pendingRetry with
  | none => (state, none)
  | some retry =>
    if retry.token ≠ token ∨ at_ < retry.deadline then (state, none)
    else
      let begun := beginAttempt { state with pendingRetry := none, failedAttempt := none } retry.platformIdentifier at_
      (begun.1, some begun.2)

def cancelRetry (state : ConnectionAttemptLifecycle) (token : Nat) : ConnectionAttemptLifecycle × Bool :=
  if state.pendingRetry.map ConnectionRetry.token ≠ some token then (state, false)
  else ({ state with pendingRetry := none, retryAttempt := 0, failedAttempt := none }, true)

/-- Whether the attempt may admit decoded ride telemetry. -/
def isVerified (state : ConnectionAttemptLifecycle) (token : ConnectionAttemptToken) : Bool :=
  state.isCurrent token && decide (state.snapshot.readiness = .verified) &&
    decide (state.snapshot.transport = .connected)

def finishDetection (state : ConnectionAttemptLifecycle) (token : ConnectionAttemptToken) (verified : Bool) :
    ConnectionAttemptLifecycle × Bool :=
  if state.isCurrent token = false ∨ state.snapshot.readiness ≠ .pending then (state, false)
  else if verified = true ∧ state.snapshot.transport ≠ .connected then (state, false)
  else
    let revision := wrappingNext state.snapshot.revision
    if verified then
      ({ state with
          snapshot := { state.snapshot with readiness := .verified, deadline := none, revision }
          retryScope := .establishedConnection
          retryAttempt := 0
          failedAttempt := none
          pendingRetry := none }, true)
    else ({ state with snapshot := { state.snapshot with readiness := .recordOnly, deadline := none, revision } }, true)

def expire (state : ConnectionAttemptLifecycle) (token : ConnectionAttemptToken) (at_ : Nat) :
    ConnectionAttemptLifecycle × Bool :=
  if state.snapshot.deadline.all fun deadline => at_ < deadline then (state, false)
  else state.finishDetection token false

def disconnect (state : ConnectionAttemptLifecycle) : ConnectionAttemptLifecycle :=
  { state with
    retryScope := .initialIdentification
    retryAttempt := 0
    failedAttempt := none
    pendingRetry := none
    snapshot := {
      generation := wrappingNext state.snapshot.generation
      revision := wrappingNext state.snapshot.revision
      token := none
      readiness := .disconnected
      transport := .disconnected
      deadline := none } }

def connected (state : ConnectionAttemptLifecycle) (token : ConnectionAttemptToken) :
    ConnectionAttemptLifecycle × Bool :=
  if state.isCurrent token = false ∨ state.snapshot.transport ≠ .connecting then (state, false)
  else
    ({ state with snapshot := { state.snapshot with
        transport := .connected
        revision := wrappingNext state.snapshot.revision } }, true)

def transportFailed (state : ConnectionAttemptLifecycle) (token : ConnectionAttemptToken) :
    ConnectionAttemptLifecycle × Bool :=
  if state.isCurrent token = false then (state, false)
  else if state.snapshot.readiness = .pending then state.finishDetection token false
  else if state.snapshot.readiness = .verified then
    let retired := state.disconnect
    ({ retired with
        retryScope := .establishedConnection
        failedAttempt := some token
        snapshot := { retired.snapshot with readiness := .failed } }, true)
  else (state, false)

def linkDown (state : ConnectionAttemptLifecycle) (token : ConnectionAttemptToken) :
    ConnectionAttemptLifecycle × Bool :=
  if state.isCurrent token = false then (state, false)
  else
    let lost := { state with snapshot := { state.snapshot with
      transport := .disconnected
      revision := wrappingNext state.snapshot.revision } }
    ((lost.transportFailed token).1, true)

def conflict (state : ConnectionAttemptLifecycle) (token : ConnectionAttemptToken) :
    ConnectionAttemptLifecycle × Bool :=
  if state.isCurrent token = false ∨ state.snapshot.readiness ≠ .verified then (state, false)
  else
    ({ state with snapshot := {
        generation := wrappingNext state.snapshot.generation
        revision := wrappingNext state.snapshot.revision
        token := none
        readiness := .conflicted
        transport := .disconnected
        deadline := none } }, true)

end ConnectionAttemptLifecycle

inductive ConnectionCall where
  | start (platformIdentifier : String) (at_ : Nat)
  | requestRetry (failed : ConnectionAttemptToken) (at_ jitterPermille : Nat)
  | admitRetry (token at_ : Nat)
  | cancelRetry (token : Nat)
  | finishDetection (token : ConnectionAttemptToken) (verified : Bool)
  | expire (token : ConnectionAttemptToken) (at_ : Nat)
  | disconnect
  | connected (token : ConnectionAttemptToken)
  | linkDown (token : ConnectionAttemptToken)
  | transportFailed (token : ConnectionAttemptToken)
  | conflict (token : ConnectionAttemptToken)
  deriving Repr, DecidableEq

inductive ConnectionReply where
  | begun (token : ConnectionAttemptToken)
  | retry (decision : ConnectionRetryDecision)
  | admitted (token : Option ConnectionAttemptToken)
  | accepted (changed : Bool)
  | done
  deriving Repr, DecidableEq

def ConnectionCall.attempt : ConnectionCall → Option ConnectionAttemptToken
  | requestRetry token _ _ | finishDetection token _ | expire token _ | connected token | linkDown token
  | transportFailed token | conflict token => some token
  | start _ _ | admitRetry _ _ | cancelRetry _ | disconnect => none

def ConnectionAttemptLifecycle.step (state : ConnectionAttemptLifecycle) :
    ConnectionCall → ConnectionAttemptLifecycle × ConnectionReply
  | .start platformIdentifier at_ => (state.start platformIdentifier at_).map id .begun
  | .requestRetry failed at_ jitterPermille => (state.requestRetry failed at_ jitterPermille).map id .retry
  | .admitRetry token at_ => (state.admitRetry token at_).map id .admitted
  | .cancelRetry token => (state.cancelRetry token).map id .accepted
  | .finishDetection token verified => (state.finishDetection token verified).map id .accepted
  | .expire token at_ => (state.expire token at_).map id .accepted
  | .disconnect => (state.disconnect, .done)
  | .connected token => (state.connected token).map id .accepted
  | .linkDown token => (state.linkDown token).map id .accepted
  | .transportFailed token => (state.transportFailed token).map id .accepted
  | .conflict token => (state.conflict token).map id .accepted

end Cutout.Core

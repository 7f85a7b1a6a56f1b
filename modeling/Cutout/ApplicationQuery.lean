import Cutout.RefloatCodec

/-! The lifecycle of the one native query that asks a controller which application
runs on it: queued for submission, submitted fragment by fragment, awaiting its
response, and the terminal states that keep it from being asked twice. -/

namespace Cutout.Protocols

def refloatDiscoveryTimeoutMs : Nat := 2000
def refloatQueryAdmissionTimeoutMs : Nat := 5000
def maxApplicationQueryFragments : Nat := 32

structure ApplicationQueryWrite where
  id : Nat
  submitBefore : Nat
  deriving Repr, DecidableEq

structure QueuedApplicationQuery where
  write : ApplicationQueryWrite
  emittedAtMs : Nat
  fragmentCount : Option Nat
  submitted : List Bool
  deriving Repr, DecidableEq

inductive ApplicationQueryProgress where
  | notRequested
  | queued (query : QueuedApplicationQuery)
  | awaiting (queryId submittedAtMs deadlineMs : Nat)
  | responseExpired (queryId : Nat)
  | resolved (queryId : Nat)
  | knownUnsent (queryId : Nat)
  | partialUncertain (queryId : Nat)
  deriving Repr, DecidableEq

inductive VescApplicationDiscovery where
  | pending | refloat | absent
  deriving Repr, DecidableEq

structure RefloatDiscovery where
  observed : Option VescApplicationDiscovery := none
  query : ApplicationQueryProgress := .notRequested
  deriving Repr, DecidableEq

inductive ApplicationQueryTransportStatus where
  | queued | submitted | rejected | cancelled | submissionUnknown
  deriving Repr, DecidableEq

namespace QueuedApplicationQuery

def hasSubmission (query : QueuedApplicationQuery) : Bool := query.submitted.any id

def failedState (query : QueuedApplicationQuery) : ApplicationQueryProgress :=
  if query.hasSubmission then .partialUncertain query.write.id else .knownUnsent query.write.id

end QueuedApplicationQuery

namespace ApplicationQueryProgress

/-- `advance_application_query_deadlines`. -/
def advanceDeadlines (progress : ApplicationQueryProgress) (time : Nat) : ApplicationQueryProgress :=
  match progress with
  | .queued query => if query.write.submitBefore ≤ time then query.failedState else progress
  | .awaiting queryId _ deadlineMs => if deadlineMs ≤ time then .responseExpired queryId else progress
  | _ => progress

/-- The queued part of `record_application_query_transport`, for a receipt of this very query. -/
def recordQueued (query : QueuedApplicationQuery) (index count : Nat) (status : ApplicationQueryTransportStatus)
    (time : Nat) : ApplicationQueryProgress × Bool :=
  if status = .submissionUnknown then (.partialUncertain query.write.id, true)
  else if count = 0 ∨ maxApplicationQueryFragments < count ∨ count ≤ index ∨
      (query.fragmentCount ≠ none ∧ query.fragmentCount ≠ some count) then
    (if status = .submitted ∨ query.hasSubmission then .partialUncertain query.write.id
     else .knownUnsent query.write.id, false)
  else
    let query := { query with fragmentCount := some count }
    if query.submitted.getD index false then (.queued query, false)
    else
      let query := if status = .submitted then { query with submitted := query.submitted.set index true } else query
      if query.write.submitBefore ≤ time then (query.failedState, false)
      else match status with
        | .submitted =>
          if (query.submitted.take count).all id then
            (.awaiting query.write.id time (saturatingAdd time refloatDiscoveryTimeoutMs), true)
          else (.queued query, true)
        | .rejected | .cancelled => (query.failedState, true)
        | _ => (.queued query, true)

/-- `record_application_query_transport`: one native receipt. -/
def recordTransport (progress : ApplicationQueryProgress) (id index count : Nat)
    (status : ApplicationQueryTransportStatus) (time : Nat) : ApplicationQueryProgress × Bool :=
  match progress with
  | .knownUnsent queryId =>
    -- A late receipt is evidence, but reopens neither submission nor response admission.
    if queryId = id ∧ (status = .submitted ∨ status = .submissionUnknown) then (.partialUncertain queryId, true)
    else (progress, false)
  | .queued query =>
    if query.write.id ≠ id ∨ time < query.emittedAtMs then (progress, false)
    else recordQueued query index count status time
  | _ => (progress, false)

/-- The query part of `retire_application_query_for_identity_replacement`. -/
def retire : ApplicationQueryProgress → ApplicationQueryProgress
  | .partialUncertain queryId | .awaiting queryId _ _ | .responseExpired queryId | .resolved queryId =>
    .partialUncertain queryId
  | .queued query => if query.hasSubmission then .partialUncertain query.write.id else .notRequested
  | .notRequested | .knownUnsent _ => .notRequested

/-- A package announcement settles a fully submitted query. -/
def settle (progress : ApplicationQueryProgress) (time : Nat) : ApplicationQueryProgress :=
  match progress with
  | .awaiting queryId submittedAtMs _ => if submittedAtMs ≤ time then .resolved queryId else progress
  | _ => progress

end ApplicationQueryProgress

/-- What the discovery reports: observations first, silence only after an expired response. -/
def RefloatDiscovery.application (discovery : RefloatDiscovery) : VescApplicationDiscovery :=
  match discovery.observed, discovery.query with
  | some observed, _ => observed
  | none, .responseExpired _ => .absent
  | none, _ => .pending

end Cutout.Protocols

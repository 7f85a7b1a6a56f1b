import Cutout.MusicCallbacks

/-! One owner for a provider's monitor, callbacks, authorization and transport. The
platform executes the effects; the lifecycle supplies every replaceable identity and
decides what a late callback still belongs to. -/

namespace Cutout.Music
open Protocols (u64Max saturatingAdd)

def authorizationTimeout : Nat := 20000
def transportTimeout : Nat := 10000
def artworkTimeout : Nat := 5000
def artworkRetryDelay : Nat := 1000
def playHandoffTimeout : Nat := 60000

inductive MusicCommand where
  | previous | play | pause | next | openProvider
  deriving Repr, DecidableEq

def MusicCommand.isSkip : MusicCommand → Bool
  | previous | next => true
  | play | pause | openProvider => false

structure MusicDeadlineEffect where
  id : Nat
  deadline : Nat
  deriving Repr, DecidableEq

inductive MusicTransportOutcome where
  | accepted | failed | timedOut | cancelled
  deriving Repr, DecidableEq

inductive MusicTransportCompletion where
  | pending
  | finished (requestId : Nat) (outcome : MusicTransportOutcome)
  | stale
  deriving Repr, DecidableEq

def MusicTransportCompletion.finishedRequestId : MusicTransportCompletion → Option Nat
  | finished requestId _ => some requestId
  | pending | stale => none

structure MusicConnectionEffect where
  callback : MusicConnectionCallback
  transport : MusicTransportCompletion
  deriving Repr, DecidableEq

structure MusicConnectionAttemptEffect where
  attemptId : Nat
  transport : MusicTransportCompletion
  deriving Repr, DecidableEq

inductive MusicConnectionAttemptAdmission where
  | started (effect : MusicConnectionAttemptEffect)
  | pending | waitingToRetry | exhausted
  deriving Repr, DecidableEq

inductive MusicTransportOwner where
  | provider (providerGeneration : Nat)
  | connection (providerGeneration connectionId : Nat)
  deriving Repr, DecidableEq

def MusicTransportOwner.providerGeneration : MusicTransportOwner → Nat
  | provider providerGeneration | connection providerGeneration _ => providerGeneration

structure MusicProviderSuspension where
  observationGap : Bool
  cancelledTransportRequestId : Option Nat
  deriving Repr, DecidableEq

structure MusicMonitorEffect where
  generation : Nat
  start : MusicMonitorStart
  deriving Repr, DecidableEq

structure PendingTransport where
  owner : MusicTransportOwner
  requestId : Nat
  startedAt : Nat
  command : MusicCommand
  deriving Repr, DecidableEq

inductive MusicTransportState where
  | available (lastRequestId : Nat)
  | pending (request : PendingTransport)
  deriving Repr, DecidableEq

namespace MusicTransportState

def pending? : MusicTransportState → Option PendingTransport
  | pending request => some request
  | available _ => none

def begin (transport : MusicTransportState) (owner : MusicTransportOwner) (command : MusicCommand) (now : Nat) :
    Option PendingTransport :=
  match transport with
  | available lastRequestId => (nextId lastRequestId).map fun requestId => ⟨owner, requestId, now, command⟩
  | pending _ => none

/-- The pending request, when generation and request both name it. -/
def finish (transport : MusicTransportState) (providerGeneration requestId : Nat) : Option PendingTransport :=
  transport.pending?.filter fun request =>
    decide (request.owner.providerGeneration = providerGeneration ∧ request.requestId = requestId)

end MusicTransportState

inductive MusicObservationOwnership where
  | idle | active
  deriving Repr, DecidableEq

structure MusicProviderLifecycle where
  monitor : MusicMonitor := {}
  monitorGeneration : CallbackEpoch := {}
  providerSession : CallbackEpoch := {}
  authorization : AuthorizationTransaction := {}
  connection : MusicConnection := {}
  playerState : MusicPlayerRequest := {}
  artwork : MusicArtworkRequest := {}
  artworkRetry : CallbackEpoch := {}
  commandFeedback : CallbackEpoch := {}
  playHandoff : CallbackEpoch := {}
  playHandoffStartedAt : Nat := 0
  transport : MusicTransportState := .available 0
  observations : MusicObservationTracker := {}
  observationOwnership : MusicObservationOwnership := .idle
  deriving Repr, DecidableEq

namespace MusicProviderLifecycle

/-- Ends the named request, when it is the pending one, without asking for its owner. -/
def finishTransportUnchecked (lifecycle : MusicProviderLifecycle) (providerGeneration requestId : Nat)
    (outcome : MusicTransportOutcome) : MusicProviderLifecycle × MusicTransportCompletion :=
  match lifecycle.transport.finish providerGeneration requestId with
  | none => (lifecycle, .stale)
  | some pending =>
    ({ lifecycle with
      transport := .available pending.requestId
      observations :=
        if pending.command.isSkip then
          lifecycle.observations.finishSkip requestId (if outcome = .accepted then .accepted else .rejected)
        else lifecycle.observations },
      .finished requestId outcome)

def ownerConnected (lifecycle : MusicProviderLifecycle) : MusicTransportOwner → Bool
  | .provider _ => true
  | .connection _ connectionId => lifecycle.connection.isEstablished connectionId

def finishTransport (lifecycle : MusicProviderLifecycle) (providerGeneration requestId : Nat)
    (outcome : MusicTransportOutcome) : MusicProviderLifecycle × MusicTransportCompletion :=
  match lifecycle.transport.pending? with
  | none => (lifecycle, .stale)
  | some pending =>
    if pending.owner.providerGeneration ≠ providerGeneration ∨ pending.requestId ≠ requestId then (lifecycle, .stale)
    else if !lifecycle.ownerConnected pending.owner then
      lifecycle.finishTransportUnchecked providerGeneration requestId .cancelled
    else lifecycle.finishTransportUnchecked providerGeneration requestId outcome

def expireTransport (lifecycle : MusicProviderLifecycle) (providerGeneration now : Nat) :
    MusicProviderLifecycle × MusicTransportCompletion :=
  match lifecycle.transport.pending? with
  | none => (lifecycle, .stale)
  | some pending =>
    if pending.owner.providerGeneration ≠ providerGeneration then (lifecycle, .stale)
    else if now - pending.startedAt < transportTimeout then (lifecycle, .pending)
    else lifecycle.finishTransportUnchecked providerGeneration pending.requestId .timedOut

def cancelTransport (lifecycle : MusicProviderLifecycle) (providerGeneration requestId : Nat) :
    MusicProviderLifecycle × MusicTransportCompletion :=
  lifecycle.finishTransportUnchecked providerGeneration requestId .cancelled

def cancelCurrentTransport (lifecycle : MusicProviderLifecycle) : MusicProviderLifecycle × MusicTransportCompletion :=
  match lifecycle.transport.pending? with
  | none => (lifecycle, .stale)
  | some pending => lifecycle.finishTransportUnchecked pending.owner.providerGeneration pending.requestId .cancelled

def cancelTransportForConnectionCurrent (lifecycle : MusicProviderLifecycle) (connectionId : Nat) :
    MusicProviderLifecycle × MusicTransportCompletion :=
  match lifecycle.transport.pending? with
  | none => (lifecycle, .stale)
  | some pending =>
    match pending.owner with
    | .provider _ => (lifecycle, .stale)
    | .connection providerGeneration current =>
      if current = connectionId then lifecycle.finishTransportUnchecked providerGeneration pending.requestId .cancelled
      else (lifecycle, .stale)

def beginTransportEffect (lifecycle : MusicProviderLifecycle) (owner : MusicTransportOwner) (command : MusicCommand)
    (now : Nat) : MusicProviderLifecycle × Option MusicDeadlineEffect :=
  if lifecycle.providerSession.classify owner.providerGeneration = .current ∧ lifecycle.ownerConnected owner then
    match lifecycle.transport.begin owner command now with
    | none => (lifecycle, none)
    | some pending =>
      ({ lifecycle with
        transport := .pending pending
        observations :=
          if command.isSkip then lifecycle.observations.issueSkip pending.requestId pending.startedAt
          else lifecycle.observations },
        some ⟨pending.requestId, saturatingAdd now transportTimeout⟩)
  else (lifecycle, none)

def invalidateProviderWork (lifecycle : MusicProviderLifecycle) : MusicProviderLifecycle :=
  { lifecycle with
    providerSession := lifecycle.providerSession.invalidate
    observationOwnership := .idle
    connection := lifecycle.connection.reset
    playerState := lifecycle.playerState.reset
    artwork := lifecycle.artwork.reset
    artworkRetry := lifecycle.artworkRetry.invalidate
    observations := lifecycle.observations.clearPendingSkips }

def retireAllProviderWork (lifecycle : MusicProviderLifecycle) : MusicProviderLifecycle × MusicTransportCompletion :=
  let cancelled := lifecycle.cancelCurrentTransport
  (cancelled.1.invalidateProviderWork, cancelled.2)

def cancelMonitor (lifecycle : MusicProviderLifecycle) : MusicProviderLifecycle × MusicTransportCompletion :=
  { lifecycle with
    monitor := lifecycle.monitor.cancel
    monitorGeneration := lifecycle.monitorGeneration.invalidate
    authorization := lifecycle.authorization.invalidate }.retireAllProviderWork

/-- Suspends provider work while retaining passive observation intent and an
authorization callback already handed to the provider application. -/
def suspend (lifecycle : MusicProviderLifecycle) : MusicProviderLifecycle × MusicProviderSuspension :=
  let cancelled := { lifecycle with
    monitor := lifecycle.monitor.suspend
    monitorGeneration := lifecycle.monitorGeneration.invalidate }.cancelCurrentTransport
  (cancelled.1.invalidateProviderWork,
    ⟨decide (lifecycle.observationOwnership = .active), cancelled.2.finishedRequestId⟩)

def beginProviderSession (lifecycle : MusicProviderLifecycle) : MusicProviderLifecycle × Option Nat :=
  let retired := lifecycle.retireAllProviderWork.1
  let silenced := { retired with commandFeedback := retired.commandFeedback.invalidate }
  match silenced.providerSession.begin with
  | (_, none) => (silenced, none)
  | (session, some generation) =>
    ({ silenced with providerSession := session, observationOwnership := .active }, some generation)

/-- Ends only the matching provider generation and cancels its transport. -/
def retireProviderSession (lifecycle : MusicProviderLifecycle) (id : Nat) :
    MusicProviderLifecycle × MusicTransportCompletion :=
  match lifecycle.providerSession.finish id with
  | (_, .stale) => (lifecycle, .stale)
  | (session, .current) =>
    { lifecycle with
      providerSession := session
      commandFeedback := lifecycle.commandFeedback.invalidate }.retireAllProviderWork

def beginConnectionAttempt (lifecycle : MusicProviderLifecycle) (now : Nat) :
    MusicProviderLifecycle × MusicConnectionAttemptAdmission :=
  match lifecycle.connection.beginAttempt now with
  | (_, .pending) => (lifecycle, .pending)
  | (_, .waitingToRetry) => (lifecycle, .waitingToRetry)
  | (_, .exhausted) => (lifecycle, .exhausted)
  | (connection, .started attemptId) =>
    let connecting := { lifecycle with connection := connection }
    match lifecycle.connection.callbackId with
    | none => (connecting, .started ⟨attemptId, .stale⟩)
    | some id =>
      let cancelled := connecting.cancelTransportForConnectionCurrent id
      (cancelled.1, .started ⟨attemptId, cancelled.2⟩)

def connectionEstablished (lifecycle : MusicProviderLifecycle) (id now : Nat) : MusicProviderLifecycle × Option Nat :=
  let established := lifecycle.connection.establishedForAt id now
  ({ lifecycle with connection := established.1 }, established.2)

/-- Retires all work owned by the connection a callback ended. -/
def finishConnection (lifecycle : MusicProviderLifecycle) (id : Nat) (callback : MusicConnectionCallback) :
    MusicProviderLifecycle × MusicConnectionEffect :=
  if callback = .stale then (lifecycle, ⟨callback, .stale⟩)
  else
    let cancelled := { lifecycle with
      commandFeedback := lifecycle.commandFeedback.invalidate
      playerState := lifecycle.playerState.reset }.cancelTransportForConnectionCurrent id
    (cancelled.1, ⟨callback, cancelled.2⟩)

def endConnection (lifecycle : MusicProviderLifecycle) (id now : Nat) : MusicProviderLifecycle × MusicConnectionEffect :=
  let failed := lifecycle.connection.failedFor id now
  { lifecycle with connection := failed.1 }.finishConnection id failed.2

def connectionFailedEffect (lifecycle : MusicProviderLifecycle) (id now : Nat) :
    MusicProviderLifecycle × MusicConnectionEffect :=
  lifecycle.endConnection id now

def connectionDisconnectedEffect (lifecycle : MusicProviderLifecycle) (id now : Nat) :
    MusicProviderLifecycle × MusicConnectionEffect :=
  lifecycle.endConnection id now

def connectionExpiredEffect (lifecycle : MusicProviderLifecycle) (id now : Nat) :
    MusicProviderLifecycle × MusicConnectionEffect :=
  let expired := lifecycle.connection.expiredFor id now
  { lifecycle with connection := expired.1 }.finishConnection id expired.2

def beginPlayHandoff (lifecycle : MusicProviderLifecycle) (now : Nat) :
    MusicProviderLifecycle × Option MusicDeadlineEffect :=
  match lifecycle.playHandoff.begin with
  | (_, none) => (lifecycle, none)
  | (handoff, some id) =>
    ({ lifecycle with playHandoff := handoff, playHandoffStartedAt := now },
      some ⟨id, saturatingAdd now playHandoffTimeout⟩)

/-- Ends the handoff, if it is the current one, with an outcome. -/
def finishHandoffWith (lifecycle : MusicProviderLifecycle) (id : Nat) (outcome : MusicTransportOutcome) :
    MusicProviderLifecycle × Option MusicTransportOutcome :=
  let finished := lifecycle.playHandoff.finish id
  ({ lifecycle with playHandoff := finished.1 }, if finished.2 = .current then some outcome else none)

/-- Fresh playing state confirms the handoff even when its control socket failed. -/
def observePlayHandoff (lifecycle : MusicProviderLifecycle) (id : Nat) (state : MusicPlaybackState) (observedAt : Nat) :
    MusicProviderLifecycle × Option MusicTransportOutcome :=
  if state ≠ .playing ∨ observedAt < lifecycle.playHandoffStartedAt ∨
      saturatingAdd lifecycle.playHandoffStartedAt playHandoffTimeout ≤ observedAt then (lifecycle, none)
  else lifecycle.finishHandoffWith id .accepted

def expirePlayHandoff (lifecycle : MusicProviderLifecycle) (id now : Nat) :
    MusicProviderLifecycle × Option MusicTransportOutcome :=
  if now < saturatingAdd lifecycle.playHandoffStartedAt playHandoffTimeout then (lifecycle, none)
  else lifecycle.finishHandoffWith id .timedOut

def finishPlayHandoff (lifecycle : MusicProviderLifecycle) (id : Nat) : MusicProviderLifecycle × CallbackEpochMatch :=
  let finished := lifecycle.playHandoff.finish id
  ({ lifecycle with playHandoff := finished.1 }, finished.2)

def beginCommandFeedback (lifecycle : MusicProviderLifecycle) : MusicProviderLifecycle × Option Nat :=
  let begun := lifecycle.commandFeedback.begin
  ({ lifecycle with commandFeedback := begun.1 }, begun.2)

def invalidateCommandFeedback (lifecycle : MusicProviderLifecycle) : MusicProviderLifecycle :=
  { lifecycle with commandFeedback := lifecycle.commandFeedback.invalidate }

def dismissCommandFeedback (lifecycle : MusicProviderLifecycle) (id : Nat) :
    MusicProviderLifecycle × CallbackEpochMatch :=
  let finished := lifecycle.commandFeedback.finish id
  ({ lifecycle with commandFeedback := finished.1 }, finished.2)

def beginMonitor (lifecycle : MusicProviderLifecycle) : MusicProviderLifecycle × Option MusicMonitorEffect :=
  match lifecycle.monitor.pendingStart with
  | none => (lifecycle, none)
  | some start =>
    match lifecycle.monitorGeneration.begin with
    | (_, none) => (lifecycle, none)
    | (generations, some generation) =>
      ({ lifecycle with monitorGeneration := generations, monitor := lifecycle.monitor.takeStart.1 },
        some ⟨generation, start⟩)

def finishMonitor (lifecycle : MusicProviderLifecycle) (generation : Nat) :
    MusicProviderLifecycle × CallbackEpochMatch :=
  let finished := lifecycle.monitorGeneration.finish generation
  ({ lifecycle with monitorGeneration := finished.1 }, finished.2)

def resume (lifecycle : MusicProviderLifecycle) : MusicProviderLifecycle × MusicMonitorResume :=
  let resumed := lifecycle.monitor.resume
  ({ lifecycle with monitor := resumed.1 }, resumed.2)

def beginAuthorization (lifecycle : MusicProviderLifecycle) (kind : AuthorizationTransactionKind) :
    MusicProviderLifecycle × Option Nat :=
  let begun := lifecycle.authorization.begin kind
  ({ lifecycle with authorization := begun.1 }, begun.2)

/-- Interactive login must not expire while a human is in the provider app. -/
def beginAuthorizationEffect (lifecycle : MusicProviderLifecycle) (kind : AuthorizationTransactionKind) (now : Nat) :
    MusicProviderLifecycle × Option MusicDeadlineEffect :=
  let deadline := match kind with
    | .authorizing => u64Max
    | .renewing => saturatingAdd now authorizationTimeout
  let begun := lifecycle.beginAuthorization kind
  (begun.1, begun.2.map fun id => ⟨id, deadline⟩)

def finishAuthorization (lifecycle : MusicProviderLifecycle) (id : Nat) :
    MusicProviderLifecycle × AuthorizationTransactionMatch :=
  let finished := lifecycle.authorization.finish id
  ({ lifecycle with authorization := finished.1 }, finished.2)

def invalidateAuthorization (lifecycle : MusicProviderLifecycle) : MusicProviderLifecycle :=
  { lifecycle with authorization := lifecycle.authorization.invalidate }

def beginArtworkEffect (lifecycle : MusicProviderLifecycle) (providerGeneration now : Nat) :
    MusicProviderLifecycle × Option MusicDeadlineEffect :=
  if lifecycle.providerSession.classify providerGeneration = .stale then (lifecycle, none)
  else
    let begun := lifecycle.artwork.begin
    ({ lifecycle with artwork := begun.1 }, begun.2.map fun id => ⟨id, saturatingAdd now artworkTimeout⟩)

def completeArtworkRequest (lifecycle : MusicProviderLifecycle) (providerGeneration id : Nat) :
    MusicProviderLifecycle × MusicPlayerRequestCompletion :=
  if lifecycle.providerSession.classify providerGeneration = .stale then (lifecycle, .stale)
  else
    let completed := lifecycle.artwork.complete id
    ({ lifecycle with artwork := completed.1 }, completed.2)

def resetArtwork (lifecycle : MusicProviderLifecycle) : MusicProviderLifecycle :=
  { lifecycle with artwork := lifecycle.artwork.reset, artworkRetry := lifecycle.artworkRetry.invalidate }

def beginArtworkRetryEffect (lifecycle : MusicProviderLifecycle) (providerGeneration now : Nat) :
    MusicProviderLifecycle × Option MusicDeadlineEffect :=
  if lifecycle.providerSession.classify providerGeneration = .stale ∨ !lifecycle.artwork.canRetry then (lifecycle, none)
  else
    let begun := lifecycle.artworkRetry.begin
    ({ lifecycle with artworkRetry := begun.1 }, begun.2.map fun id => ⟨id, saturatingAdd now artworkRetryDelay⟩)

def completeArtworkRetry (lifecycle : MusicProviderLifecycle) (providerGeneration id : Nat) :
    MusicProviderLifecycle × CallbackEpochMatch :=
  if lifecycle.providerSession.classify providerGeneration = .stale then (lifecycle, .stale)
  else
    let finished := lifecycle.artworkRetry.finish id
    ({ lifecycle with artworkRetry := finished.1 }, finished.2)

end MusicProviderLifecycle

/-- The public calls that may change the lifecycle. -/
inductive ProviderCall where
  | beginPlayHandoff (now : Nat)
  | observePlayHandoff (id : Nat) (state : MusicPlaybackState) (observedAt : Nat)
  | expirePlayHandoff (id now : Nat)
  | finishPlayHandoff (id : Nat)
  | beginCommandFeedback
  | invalidateCommandFeedback
  | dismissCommandFeedback (id : Nat)
  | observeMusic (snapshot : MusicSnapshot) (timing : MusicObservationTiming)
  | retireHistoryAssociation
  | acknowledgeHistoryTransition (id : Nat)
  | resetObservationCorrelation
  | resetObservationBaselines
  | clearPendingCommandCorrelation
  | requestMonitor (request : MusicMonitorRequest)
  | cancelMonitor
  | beginMonitor
  | finishMonitor (generation : Nat)
  | suspend
  | resume
  | beginProviderSession
  | retireProviderSession (id : Nat)
  | beginAuthorization (kind : AuthorizationTransactionKind)
  | beginAuthorizationEffect (kind : AuthorizationTransactionKind) (now : Nat)
  | finishAuthorization (id : Nat)
  | invalidateAuthorization
  | beginConnectionAttempt (now : Nat)
  | connectionEstablished (id now : Nat)
  | connectionFailedEffect (id now : Nat)
  | connectionExpiredEffect (id now : Nat)
  | connectionDisconnectedEffect (id now : Nat)
  | beginPlayerStateRequest (now : Nat)
  | completePlayerStateRequest (id now : Nat)
  | expirePlayerStateRequest (id now : Nat)
  | completePlayerStateRequestIfCurrent (id observationRevision now : Nat)
  | markPlayerStateObserved (now : Nat)
  | beginArtworkEffect (providerGeneration now : Nat)
  | completeArtworkRequest (providerGeneration id : Nat)
  | resetArtwork
  | beginArtworkRetryEffect (providerGeneration now : Nat)
  | completeArtworkRetry (providerGeneration id : Nat)
  | beginTransportEffect (owner : MusicTransportOwner) (command : MusicCommand) (now : Nat)
  | finishTransport (providerGeneration requestId : Nat) (outcome : MusicTransportOutcome)
  | expireTransport (providerGeneration now : Nat)
  | cancelTransport (providerGeneration requestId : Nat)
  deriving Repr, DecidableEq

inductive ProviderReply where
  | done
  | effect (effect : Option MusicDeadlineEffect)
  | handoff (outcome : Option MusicTransportOutcome)
  | epoch (answer : CallbackEpochMatch)
  | begun (id : Option Nat)
  | observed (outcome : MusicObservationOutcome)
  | unsettled (transitions : List PendingHistoryTransition)
  | acknowledgement (answer : MusicHistoryTransitionAcknowledgement)
  | monitor (effect : Option MusicMonitorEffect)
  | suspended (suspension : MusicProviderSuspension)
  | resumed (answer : MusicMonitorResume)
  | session (generation : Option Nat)
  | authorization (answer : AuthorizationTransactionMatch)
  | attempt (admission : MusicConnectionAttemptAdmission)
  | established (connectionId : Option Nat)
  | connection (effect : MusicConnectionEffect)
  | completion (answer : MusicPlayerRequestCompletion)
  | expiration (answer : MusicPlayerRequestExpiration)
  | transportBegun (effect : Option MusicDeadlineEffect)
  | transport (completion : MusicTransportCompletion)
  deriving Repr, DecidableEq

/-- A call's outcome, with its answer as the reply. -/
def answering {α : Type} (reply : α → ProviderReply) (outcome : MusicProviderLifecycle × α) :
    MusicProviderLifecycle × ProviderReply :=
  (outcome.1, reply outcome.2)

/-- A call that changes the observation tracker only. -/
def tracking (lifecycle : MusicProviderLifecycle) (call : TrackerCall) (reply : TrackerReply → ProviderReply) :
    MusicProviderLifecycle × ProviderReply :=
  let outcome := lifecycle.observations.step call
  ({ lifecycle with observations := outcome.1 }, reply outcome.2)

/-- A call that changes the player-state request only. -/
def requesting {α : Type} (lifecycle : MusicProviderLifecycle) (reply : α → ProviderReply)
    (outcome : MusicPlayerRequest × α) : MusicProviderLifecycle × ProviderReply :=
  ({ lifecycle with playerState := outcome.1 }, reply outcome.2)

def ProviderReply.tracked : TrackerReply → ProviderReply
  | .observed outcome => .observed outcome
  | .acknowledgement answer => .acknowledgement answer
  | .unsettled transitions => .unsettled transitions
  | .done => .done

def MusicProviderLifecycle.step (lifecycle : MusicProviderLifecycle) :
    ProviderCall → MusicProviderLifecycle × ProviderReply
  | .beginPlayHandoff now => answering .effect (lifecycle.beginPlayHandoff now)
  | .observePlayHandoff id state observedAt => answering .handoff (lifecycle.observePlayHandoff id state observedAt)
  | .expirePlayHandoff id now => answering .handoff (lifecycle.expirePlayHandoff id now)
  | .finishPlayHandoff id => answering .epoch (lifecycle.finishPlayHandoff id)
  | .beginCommandFeedback => answering .begun lifecycle.beginCommandFeedback
  | .invalidateCommandFeedback => (lifecycle.invalidateCommandFeedback, .done)
  | .dismissCommandFeedback id => answering .epoch (lifecycle.dismissCommandFeedback id)
  | .observeMusic snapshot timing => tracking lifecycle (.observe snapshot timing) .tracked
  | .retireHistoryAssociation => tracking lifecycle .retireHistoryAssociation .tracked
  | .acknowledgeHistoryTransition id => tracking lifecycle (.acknowledge id) .tracked
  | .resetObservationCorrelation => tracking lifecycle .reset .tracked
  | .resetObservationBaselines => tracking lifecycle .resetObservations .tracked
  | .clearPendingCommandCorrelation => tracking lifecycle .clearPendingSkips .tracked
  | .requestMonitor request => ({ lifecycle with monitor := lifecycle.monitor.request request }, .done)
  | .cancelMonitor => answering .transport lifecycle.cancelMonitor
  | .beginMonitor => answering .monitor lifecycle.beginMonitor
  | .finishMonitor generation => answering .epoch (lifecycle.finishMonitor generation)
  | .suspend => answering .suspended lifecycle.suspend
  | .resume => answering .resumed lifecycle.resume
  | .beginProviderSession => answering .session lifecycle.beginProviderSession
  | .retireProviderSession id => answering .transport (lifecycle.retireProviderSession id)
  | .beginAuthorization kind => answering .begun (lifecycle.beginAuthorization kind)
  | .beginAuthorizationEffect kind now => answering .effect (lifecycle.beginAuthorizationEffect kind now)
  | .finishAuthorization id => answering .authorization (lifecycle.finishAuthorization id)
  | .invalidateAuthorization => (lifecycle.invalidateAuthorization, .done)
  | .beginConnectionAttempt now => answering .attempt (lifecycle.beginConnectionAttempt now)
  | .connectionEstablished id now => answering .established (lifecycle.connectionEstablished id now)
  | .connectionFailedEffect id now => answering .connection (lifecycle.connectionFailedEffect id now)
  | .connectionExpiredEffect id now => answering .connection (lifecycle.connectionExpiredEffect id now)
  | .connectionDisconnectedEffect id now => answering .connection (lifecycle.connectionDisconnectedEffect id now)
  | .beginPlayerStateRequest now => requesting lifecycle .begun (lifecycle.playerState.begin now)
  | .completePlayerStateRequest id now => requesting lifecycle .completion (lifecycle.playerState.complete id now)
  | .expirePlayerStateRequest id now => requesting lifecycle .expiration (lifecycle.playerState.expire id now)
  | .completePlayerStateRequestIfCurrent id observationRevision now =>
    requesting lifecycle .completion (lifecycle.playerState.completeIfCurrent id observationRevision now)
  | .markPlayerStateObserved now => ({ lifecycle with playerState := lifecycle.playerState.markObserved now }, .done)
  | .beginArtworkEffect providerGeneration now =>
    answering .effect (lifecycle.beginArtworkEffect providerGeneration now)
  | .completeArtworkRequest providerGeneration id =>
    answering .completion (lifecycle.completeArtworkRequest providerGeneration id)
  | .resetArtwork => (lifecycle.resetArtwork, .done)
  | .beginArtworkRetryEffect providerGeneration now =>
    answering .effect (lifecycle.beginArtworkRetryEffect providerGeneration now)
  | .completeArtworkRetry providerGeneration id => answering .epoch (lifecycle.completeArtworkRetry providerGeneration id)
  | .beginTransportEffect owner command now =>
    answering .transportBegun (lifecycle.beginTransportEffect owner command now)
  | .finishTransport providerGeneration requestId outcome =>
    answering .transport (lifecycle.finishTransport providerGeneration requestId outcome)
  | .expireTransport providerGeneration now => answering .transport (lifecycle.expireTransport providerGeneration now)
  | .cancelTransport providerGeneration requestId =>
    answering .transport (lifecycle.cancelTransport providerGeneration requestId)

end Cutout.Music

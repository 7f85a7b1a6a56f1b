import Cutout.Wire

/-! Music observations and the ride history made of them. A provider's observations
are ordered by their times; a change of what is played becomes a history entry, and
one that may be the effect of a skip command waits for that command's outcome.
Times are milliseconds. -/

namespace Cutout.Music
open Protocols (u64Max)

def skipConfirmationMaxAge : Nat := 5000
def skipConfirmationMaxUnchangedObservations : Nat := 5
def maxMusicTimelineEvents : Nat := 512

inductive MusicProvider where
  | appleMusic | spotify | soundCloud
  deriving Repr, DecidableEq

inductive MusicPlaybackState where
  | playing | paused | stopped | buffering | interrupted | unauthorized | unavailable | disconnected | stale
  deriving Repr, DecidableEq

inductive MusicRideEventKind where
  | play | pause | skip | itemChanged | stopped | providerDisconnected
  deriving Repr, DecidableEq

/-- What the tracker reads of a provider observation; `item` is the item's identifier. -/
structure MusicSnapshot where
  provider : MusicProvider
  state : MusicPlaybackState
  item : Option String
  positionMilliseconds : Option Nat
  observedAt : Nat
  deriving Repr, DecidableEq

structure MusicObservationTiming where
  wallClockAt : Nat
  clockUncertaintyMilliseconds : Nat
  deriving Repr, DecidableEq

inductive SkipCommandOutcome where
  | pending | accepted | rejected
  deriving Repr, DecidableEq

structure PendingSkip where
  transportId : Nat
  issuedAt : Nat
  remainingUnchangedObservations : Nat
  outcome : SkipCommandOutcome
  matchedObservation : Bool
  deriving Repr, DecidableEq

namespace PendingSkip

def appliesAt (pending : PendingSkip) (observedAt : Nat) : Bool := decide (pending.issuedAt ≤ observedAt)

def isExpiredAt (pending : PendingSkip) (observedAt : Nat) : Bool :=
  decide (pending.issuedAt ≤ observedAt ∧ skipConfirmationMaxAge < observedAt - pending.issuedAt)

/-- The skip can still explain an observation at this time. -/
def explains (pending : PendingSkip) (observedAt : Nat) : Bool :=
  !pending.matchedObservation && pending.appliesAt observedAt

end PendingSkip

inductive PendingHistoryKind where
  | confirmed (kind : MusicRideEventKind)
  | awaitingSkip (transportId : Nat) (rejectedKind : Option MusicRideEventKind)
  deriving Repr, DecidableEq

def PendingHistoryKind.awaits (kind : PendingHistoryKind) (transportId : Nat) : Bool :=
  match kind with
  | awaitingSkip current _ => decide (current = transportId)
  | confirmed _ => false

/-- An entry until its durable acknowledgement; an unsettled transition has the same fields. -/
structure PendingHistoryTransition where
  id : Nat
  snapshot : MusicSnapshot
  kind : PendingHistoryKind
  timing : MusicObservationTiming
  deriving Repr, DecidableEq

structure MusicHistoryTransition where
  id : Nat
  snapshot : MusicSnapshot
  kind : MusicRideEventKind
  timing : MusicObservationTiming
  deriving Repr, DecidableEq

inductive MusicHistoryTransitionAcknowledgement where
  | acknowledged | stale
  deriving Repr, DecidableEq

inductive MusicObservationOutcome where
  | accepted (snapshot : MusicSnapshot) (historyTransition : Option MusicHistoryTransition)
  | outOfOrder | full
  deriving Repr, DecidableEq

def isTransientState : MusicPlaybackState → Bool
  | .buffering | .interrupted | .unauthorized | .unavailable | .stale => true
  | .playing | .paused | .stopped | .disconnected => false

def isTerminalState : MusicPlaybackState → Bool
  | .stopped | .unauthorized | .unavailable | .disconnected | .stale => true
  | .playing | .paused | .buffering | .interrupted => false

/-- The position went back between two observations that both report one. -/
def rewinds (previous current : MusicSnapshot) : Bool :=
  match previous.positionMilliseconds, current.positionMilliseconds with
  | some before, some now => decide (now < before)
  | _, _ => false

def classifyTransition (previous : Option MusicSnapshot) (current : MusicSnapshot) (skipApplies : Bool) :
    Option MusicRideEventKind :=
  if current.state = .disconnected then
    if previous.all fun previous => decide (previous.state ≠ .disconnected) then some .providerDisconnected else none
  else if isTransientState current.state then none
  else
    match previous with
    | none => current.item.map fun _ => .itemChanged
    | some previous =>
      if previous.provider ≠ current.provider then some .itemChanged
      else if current.state = .stopped ∧ previous.state ≠ .stopped then some .stopped
      else if previous.item ≠ current.item then
        some (if skipApplies ∧ previous.item.isSome ∧ current.item.isSome then .skip else .itemChanged)
      else if skipApplies ∧ previous.item.isSome ∧ current.item.isSome ∧ rewinds previous current then some .skip
      else if current.state = .playing ∧ previous.state ≠ .playing then some .play
      else if current.state = .paused ∧ previous.state ≠ .paused then some .pause
      else none

structure MusicObservationTracker where
  appleMusic : Option MusicSnapshot := none
  spotify : Option MusicSnapshot := none
  soundcloud : Option MusicSnapshot := none
  pendingSkips : List PendingSkip := []
  pendingHistory : List PendingHistoryTransition := []
  lastHistoryId : Nat := 0
  deriving Repr, DecidableEq

namespace MusicObservationTracker

def issueSkip (tracker : MusicObservationTracker) (transportId issuedAt : Nat) : MusicObservationTracker :=
  { tracker with
    pendingSkips := tracker.pendingSkips ++
      [⟨transportId, issuedAt, skipConfirmationMaxUnchangedObservations, .pending, false⟩] }

def resolveHistorySkip (tracker : MusicObservationTracker) (transportId : Nat) (outcome : SkipCommandOutcome) :
    MusicObservationTracker :=
  match tracker.pendingHistory.findIdx? fun pending => pending.kind.awaits transportId with
  | none => tracker
  | some index =>
    match tracker.pendingHistory[index]? with
    | some ⟨_, _, .awaitingSkip _ rejectedKind, _⟩ =>
      if outcome = .pending then tracker
      else
        match if outcome = .accepted then some .skip else rejectedKind with
        | some kind =>
          { tracker with
            pendingHistory := tracker.pendingHistory.modify index fun pending => { pending with kind := .confirmed kind } }
        | none => { tracker with pendingHistory := tracker.pendingHistory.eraseIdx index }
    | some ⟨_, _, .confirmed _, _⟩ | none => tracker

def finishSkip (tracker : MusicObservationTracker) (transportId : Nat) (outcome : SkipCommandOutcome) :
    MusicObservationTracker :=
  match tracker.pendingSkips.findIdx? fun pending => decide (pending.transportId = transportId) with
  | none => tracker
  | some index =>
    if outcome = .accepted ∧ tracker.pendingSkips[index]?.any (fun pending => !pending.matchedObservation) then
      { tracker with
        pendingSkips := tracker.pendingSkips.modify index fun pending => { pending with outcome := .accepted } }
    else
      let resolved := tracker.resolveHistorySkip transportId outcome
      { resolved with pendingSkips := resolved.pendingSkips.eraseIdx index }

def rejectSkips (tracker : MusicObservationTracker) (requestIds : List Nat) : MusicObservationTracker :=
  requestIds.foldl (fun tracker requestId => tracker.finishSkip requestId .rejected) tracker

def clearPendingSkips (tracker : MusicObservationTracker) : MusicObservationTracker :=
  tracker.rejectSkips (tracker.pendingSkips.map PendingSkip.transportId)

def resetObservations (tracker : MusicObservationTracker) : MusicObservationTracker :=
  { tracker with appleMusic := none, spotify := none, soundcloud := none }

/-- Clears observations and pending command correlation. -/
def reset (tracker : MusicObservationTracker) : MusicObservationTracker :=
  { tracker.resetObservations.clearPendingSkips with pendingHistory := [] }

def retireHistoryAssociation (tracker : MusicObservationTracker) :
    MusicObservationTracker × List PendingHistoryTransition :=
  ({ tracker with pendingHistory := [] }.reset, tracker.pendingHistory)

def latest (tracker : MusicObservationTracker) : MusicProvider → Option MusicSnapshot
  | .appleMusic => tracker.appleMusic
  | .spotify => tracker.spotify
  | .soundCloud => tracker.soundcloud

def replaceLatest (tracker : MusicObservationTracker) (snapshot : MusicSnapshot) : MusicObservationTracker :=
  match snapshot.provider with
  | .appleMusic => { tracker with appleMusic := some snapshot }
  | .spotify => { tracker with spotify := some snapshot }
  | .soundCloud => { tracker with soundcloud := some snapshot }

def expireSkips (tracker : MusicObservationTracker) (observedAt : Nat) : MusicObservationTracker :=
  tracker.rejectSkips
    ((tracker.pendingSkips.filter fun pending => pending.isExpiredAt observedAt).map PendingSkip.transportId)

/-- Marks the skip a transition is the effect of, and says what the entry waits for. -/
def matchSkip (tracker : MusicObservationTracker) (kind : MusicRideEventKind)
    (rejectedTransition : Option MusicRideEventKind) (skipIndex : Option Nat) :
    MusicObservationTracker × Option PendingHistoryKind :=
  if kind = .skip then
    match skipIndex with
    | none => (tracker, none)
    | some index =>
      ({ tracker with
        pendingSkips := tracker.pendingSkips.modify index fun pending => { pending with matchedObservation := true } },
        tracker.pendingSkips[index]?.bind fun pending =>
          match pending.outcome with
          | .accepted => some (.confirmed kind)
          | .pending => some (.awaitingSkip pending.transportId rejectedTransition)
          | .rejected => none)
  else (tracker, some (.confirmed kind))

def dropAcceptedSkip (tracker : MusicObservationTracker) (kind : MusicRideEventKind) (skipIndex : Option Nat) :
    MusicObservationTracker :=
  match skipIndex with
  | some index =>
    if kind = .skip ∧ tracker.pendingSkips[index]?.any (fun pending => decide (pending.outcome = .accepted)) then
      { tracker with pendingSkips := tracker.pendingSkips.eraseIdx index }
    else tracker
  | none => tracker

def enqueueObservationTransition (tracker : MusicObservationTracker) (snapshot : MusicSnapshot)
    (timing : MusicObservationTiming) (transition rejectedTransition : Option MusicRideEventKind)
    (skipIndex : Option Nat) : MusicObservationTracker :=
  match transition with
  | none => tracker
  | some kind =>
    match tracker.matchSkip kind rejectedTransition skipIndex with
    | (marked, none) => marked
    | (marked, some pendingKind) =>
      if marked.lastHistoryId + 1 ≤ u64Max then
        let pushed : MusicObservationTracker := { marked with
          lastHistoryId := marked.lastHistoryId + 1
          pendingHistory := marked.pendingHistory ++ [⟨marked.lastHistoryId + 1, snapshot, pendingKind, timing⟩] }
        pushed.dropAcceptedSkip kind skipIndex
      else marked

/-- An applicable skip that the observation does not show is given up in the end. -/
def resolveUnchangedSkip (tracker : MusicObservationTracker) (current : MusicSnapshot) (skipIndex : Option Nat)
    (transition : Option MusicRideEventKind) : MusicObservationTracker :=
  match skipIndex with
  | none => tracker
  | some index =>
    if transition = some .skip then tracker
    else
      match tracker.pendingSkips[index]? with
      | none => tracker
      | some pending =>
        if isTerminalState current.state then tracker.finishSkip pending.transportId .rejected
        else
          let remaining := pending.remainingUnchangedObservations - 1
          let counted := { tracker with
            pendingSkips := tracker.pendingSkips.modify index fun pending =>
              { pending with remainingUnchangedObservations := remaining } }
          if remaining = 0 then counted.finishSkip pending.transportId .rejected else counted

def currentHistoryTransition (tracker : MusicObservationTracker) : Option MusicHistoryTransition :=
  match tracker.pendingHistory.head? with
  | some ⟨id, snapshot, .confirmed kind, timing⟩ => some ⟨id, snapshot, kind, timing⟩
  | some ⟨_, _, .awaitingSkip _ _, _⟩ | none => none

/-- The first skip that can explain an observation. -/
def skipIndexAt (tracker : MusicObservationTracker) (observedAt : Nat) : Option Nat :=
  tracker.pendingSkips.findIdx? fun pending => pending.explains observedAt

/-- Orders and classifies one provider observation. -/
def observe (tracker : MusicObservationTracker) (snapshot : MusicSnapshot) (timing : MusicObservationTiming) :
    MusicObservationTracker × MusicObservationOutcome :=
  let previous := tracker.latest snapshot.provider
  if previous.any fun previous => decide (snapshot.observedAt ≤ previous.observedAt) then (tracker, .outOfOrder)
  else
    let expired := tracker.expireSkips snapshot.observedAt
    let skipIndex := expired.skipIndexAt snapshot.observedAt
    let transition := classifyTransition previous snapshot skipIndex.isSome
    if transition.isSome ∧ maxMusicTimelineEvents ≤ expired.pendingHistory.length then (expired, .full)
    else
      let rejectedTransition := if skipIndex.isSome then classifyTransition previous snapshot false else none
      let enqueued := expired.enqueueObservationTransition snapshot timing transition rejectedTransition skipIndex
      let accepted := (enqueued.resolveUnchangedSkip snapshot skipIndex transition).replaceLatest snapshot
      (accepted, .accepted snapshot accepted.currentHistoryTransition)

def acknowledgeHistoryTransition (tracker : MusicObservationTracker) (id : Nat) :
    MusicObservationTracker × MusicHistoryTransitionAcknowledgement :=
  match tracker.pendingHistory with
  | ⟨current, _, .confirmed _, _⟩ :: later =>
    if current = id then ({ tracker with pendingHistory := later }, .acknowledged) else (tracker, .stale)
  | ⟨_, _, .awaitingSkip _ _, _⟩ :: _ | [] => (tracker, .stale)

end MusicObservationTracker

/-- One call of the provider lifecycle; a transport request ends accepted or not. -/
inductive TrackerCall where
  | observe (snapshot : MusicSnapshot) (timing : MusicObservationTiming)
  | issueSkip (transportId issuedAt : Nat)
  | finishSkip (transportId : Nat) (accepted : Bool)
  | acknowledge (id : Nat)
  | clearPendingSkips
  | resetObservations
  | reset
  | retireHistoryAssociation
  deriving Repr, DecidableEq

inductive TrackerReply where
  | observed (outcome : MusicObservationOutcome)
  | acknowledgement (answer : MusicHistoryTransitionAcknowledgement)
  | unsettled (transitions : List PendingHistoryTransition)
  | done
  deriving Repr, DecidableEq

def MusicObservationTracker.step (tracker : MusicObservationTracker) :
    TrackerCall → MusicObservationTracker × TrackerReply
  | .observe snapshot timing => (tracker.observe snapshot timing).map id .observed
  | .issueSkip transportId issuedAt => (tracker.issueSkip transportId issuedAt, .done)
  | .finishSkip transportId accepted =>
    (tracker.finishSkip transportId (if accepted then .accepted else .rejected), .done)
  | .acknowledge id => ((tracker.acknowledgeHistoryTransition id).1, .acknowledgement (tracker.acknowledgeHistoryTransition id).2)
  | .clearPendingSkips => (tracker.clearPendingSkips, .done)
  | .resetObservations => (tracker.resetObservations, .done)
  | .reset => (tracker.reset, .done)
  | .retireHistoryAssociation => tracker.retireHistoryAssociation.map id .unsettled

end Cutout.Music

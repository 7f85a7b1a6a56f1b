import Cutout.MusicProvider
import Cutout.Proofs.MusicObservation

/-! Transport commands of a music provider. A command belongs to the provider session
that is active and, where a connection owns it, to the connection that is established:
every call that retires a session or a connection first ends the command it owns. -/

namespace Cutout.Music
open Library
open Protocols (u64Max)

namespace MusicObservationTracker
variable {tracker : MusicObservationTracker}

def skips (tracker : MusicObservationTracker) : List (Nat × SkipCommandOutcome) :=
  tracker.pendingSkips.map fun skip => (skip.transportId, skip.outcome)

theorem finishSkip_skips (tracker : MusicObservationTracker) (transportId : Nat) (outcome : SkipCommandOutcome) :
    ((tracker.finishSkip transportId outcome).skips = tracker.skips ∧ ∀ skip ∈ tracker.skips, skip.1 ≠ transportId) ∨
      ∃ early before late, tracker.skips = early ++ (transportId, before) :: late ∧
        ((tracker.finishSkip transportId outcome).skips = early ++ late ∨
          outcome = .accepted ∧ (tracker.finishSkip transportId outcome).skips = early ++ (transportId, .accepted) :: late) := by
  unfold finishSkip
  cases found : tracker.pendingSkips.findIdx? fun pending => decide (pending.transportId = transportId) with
  | none =>
    refine .inl ⟨rfl, ?_⟩
    intro skip member
    obtain ⟨pending, queued, rfl⟩ := List.mem_map.mp member
    simpa using findIdx?_none found pending queued
  | some index =>
    obtain ⟨early, pending, late, queue, rfl, own, -⟩ := findIdx?_split found
    obtain rfl : pending.transportId = transportId := by simpa using own
    refine .inr ⟨early.map fun skip => (skip.transportId, skip.outcome), pending.outcome,
      late.map fun skip => (skip.transportId, skip.outcome), by simp [skips, queue], ?_⟩
    dsimp only
    split
    · next accepts =>
      refine .inr ⟨accepts.1, ?_⟩
      simp [skips, queue]
    · obtain ⟨history, resolved⟩ := resolveHistorySkip_rest tracker pending.transportId outcome
      refine .inl ?_
      simp [skips, resolved, queue]

private theorem finishSkip_ids (tracker : MusicObservationTracker) (transportId : Nat) (outcome : SkipCommandOutcome) :
    ((tracker.finishSkip transportId outcome).skips.map Prod.fst).Sublist (tracker.skips.map Prod.fst) := by
  rcases finishSkip_skips tracker transportId outcome with ⟨same, -⟩ | ⟨early, before, late, queue, ends | ⟨-, ends⟩⟩
  · rw [same]
  · rw [ends, queue]
    exact ((List.Sublist.refl early).append (List.sublist_cons_self _ late)).map _
  · rw [ends, queue]
    simp

private theorem finishSkip_waits (distinct : (tracker.skips.map Prod.fst).Nodup) {transportId id : Nat}
    {outcome : SkipCommandOutcome} (waits : (id, .pending) ∈ (tracker.finishSkip transportId outcome).skips) :
    (id, .pending) ∈ tracker.skips ∧ id ≠ transportId := by
  rcases finishSkip_skips tracker transportId outcome with ⟨same, others⟩ | ⟨early, before, late, queue, ends⟩
  · rw [same] at waits
    exact ⟨waits, others _ waits⟩
  · have rest : (id, SkipCommandOutcome.pending) ∈ early ++ late := by
      rcases ends with ends | ⟨-, ends⟩
      · rw [ends] at waits
        exact waits
      · rw [ends] at waits
        simpa using waits
    rw [queue, List.map_append, List.map_cons] at distinct
    obtain ⟨-, tail, apart⟩ := List.nodup_append.mp distinct
    rw [queue]
    refine ⟨((List.Sublist.refl early).append (List.sublist_cons_self _ late)).subset rest, ?_⟩
    rcases List.mem_append.mp rest with first | last
    · exact apart id (List.mem_map_of_mem first) transportId (List.mem_cons_self ..)
    · intro same
      apply (List.nodup_cons.mp tail).1
      rw [← same]
      exact List.mem_map.mpr ⟨_, last, rfl⟩

theorem finishSkip_thins (tracker : MusicObservationTracker) (transportId : Nat) :
    (tracker.finishSkip transportId .rejected).skips.Sublist tracker.skips := by
  rcases finishSkip_skips tracker transportId .rejected with ⟨same, -⟩ | ⟨early, before, late, queue, ends | ⟨other, -⟩⟩
  · rw [same]
  · rw [ends, queue]
    exact (List.Sublist.refl early).append (List.sublist_cons_self _ late)
  · cases other

theorem rejectSkips_thins (requestIds : List Nat) (tracker : MusicObservationTracker) :
    (tracker.rejectSkips requestIds).skips.Sublist tracker.skips := by
  induction requestIds generalizing tracker with
  | nil => exact .refl _
  | cons requestId requestIds ih => exact (ih _).trans (finishSkip_thins tracker requestId)

section Tracker
variable (tracker : MusicObservationTracker)

private theorem dropAcceptedSkip_thins (kind : MusicRideEventKind) (skipIndex : Option Nat) :
    (tracker.dropAcceptedSkip kind skipIndex).skips.Sublist tracker.skips := by
  unfold dropAcceptedSkip
  split
  · split
    · exact (List.eraseIdx_sublist _ _).map _
    · exact .refl _
  · exact .refl _

private theorem matchSkip_skips (kind : MusicRideEventKind) (rejectedTransition : Option MusicRideEventKind)
    (skipIndex : Option Nat) : (tracker.matchSkip kind rejectedTransition skipIndex).1.skips = tracker.skips := by
  unfold matchSkip
  split
  · split
    · rfl
    · apply map_modify_same
      intro skip
      rfl
  · rfl

private theorem enqueueObservationTransition_thins (snapshot : MusicSnapshot) (timing : MusicObservationTiming)
    (transition rejectedTransition : Option MusicRideEventKind) (skipIndex : Option Nat) :
    (tracker.enqueueObservationTransition snapshot timing transition rejectedTransition skipIndex).skips.Sublist
      tracker.skips := by
  unfold enqueueObservationTransition
  cases transition with
  | none => exact .refl _
  | some kind =>
    have marked := matchSkip_skips tracker kind rejectedTransition skipIndex
    rw [← marked]
    dsimp only
    split
    · next one => rw [one]
    · next one =>
      rw [one]
      split
      · exact dropAcceptedSkip_thins _ kind skipIndex
      · exact .refl _

private theorem resolveUnchangedSkip_thins (current : MusicSnapshot) (skipIndex : Option Nat)
    (transition : Option MusicRideEventKind) :
    (tracker.resolveUnchangedSkip current skipIndex transition).skips.Sublist tracker.skips := by
  unfold resolveUnchangedSkip
  split
  · exact .refl _
  · next index =>
    split
    · exact .refl _
    · split
      · exact .refl _
      · next pending found =>
        split
        · exact finishSkip_thins tracker pending.transportId
        · have counted : ({ tracker with pendingSkips := tracker.pendingSkips.modify index fun skip =>
              { skip with remainingUnchangedObservations := pending.remainingUnchangedObservations - 1 } } :
              MusicObservationTracker).skips = tracker.skips := by
            apply map_modify_same
            intro skip
            rfl
          dsimp only
          split
          · rw [← counted]
            exact finishSkip_thins _ pending.transportId
          · rw [counted]

private theorem observe_thins (snapshot : MusicSnapshot) (timing : MusicObservationTiming) :
    (tracker.observe snapshot timing).1.skips.Sublist tracker.skips := by
  have expired : (tracker.expireSkips snapshot.observedAt).skips.Sublist tracker.skips := rejectSkips_thins _ tracker
  unfold observe
  dsimp only
  split
  · exact .refl _
  · split
    · exact expired
    · rw [skips, replaceLatest_pendingSkips]
      exact ((resolveUnchangedSkip_thins _ _ _ _).trans (enqueueObservationTransition_thins _ _ _ _ _ _)).trans expired

/-- Only a command's own issue and end may add a skip or change its outcome. -/
theorem step_thins (call : TrackerCall) (unissued : ∀ transportId issuedAt, call ≠ .issueSkip transportId issuedAt)
    (unfinished : ∀ transportId accepted, call ≠ .finishSkip transportId accepted) :
    (tracker.step call).1.skips.Sublist tracker.skips := by
  cases call with
  | observe snapshot timing => exact observe_thins tracker snapshot timing
  | issueSkip transportId issuedAt => exact absurd rfl (unissued transportId issuedAt)
  | finishSkip transportId accepted => exact absurd rfl (unfinished transportId accepted)
  | acknowledge id =>
    simp only [step, acknowledgeHistoryTransition]
    split
    · split
      · exact .refl _
      · exact .refl _
    · exact .refl _
    · exact .refl _
  | clearPendingSkips => exact rejectSkips_thins _ tracker
  | resetObservations => exact .refl _
  | reset =>
    simp only [step, reset_eq]
    exact List.nil_sublist _
  | retireHistoryAssociation =>
    simp only [step, retireHistoryAssociation, reset_eq]
    exact List.nil_sublist _

end Tracker

end MusicObservationTracker

def MusicTransportCompletion.report : MusicTransportCompletion → Option (Nat × MusicTransportOutcome)
  | finished requestId outcome => some (requestId, outcome)
  | pending | stale => none

/-- What a reply tells the platform of requests, attempts and sessions. -/
structure ProviderMarks where
  report : Option (Nat × MusicTransportOutcome) := none
  begun : Option Nat := none
  attempt : Option Nat := none
  session : Option Nat := none

def ProviderReply.marks : ProviderReply → ProviderMarks
  | transport ended => { report := ended.report }
  | connection ended => { report := ended.transport.report }
  | suspended suspension => { report := suspension.cancelledTransportRequestId.map fun id => (id, .cancelled) }
  | attempt (.started start) => { report := start.transport.report, attempt := some start.attemptId }
  | transportBegun start => { begun := start.map MusicDeadlineEffect.id }
  | session generation => { session := generation }
  | _ => {}

def MusicTransportState.lastRequestId : MusicTransportState → Nat
  | available lastRequestId => lastRequestId
  | pending request => request.requestId

namespace MusicConnection
variable {connection after : MusicConnection} {attemptId id now : Nat}

private theorem beginAttempt_started (begun : connection.beginAttempt now = (after, .started attemptId)) :
    connection.attempts < maximumAttempts ∧
      after = ⟨connection.attempts + 1, attemptId, .connecting attemptId now⟩ ∧
      attemptId = connection.lastAttemptId + 1 := by
  unfold beginAttempt at begun
  split at begun
  · cases begun
  · next room =>
    split at begun
    · next admission held =>
      unfold holdsBack at held
      cases begun
      repeat' split at held
      all_goals cases held
    · split at begun
      · cases begun
      · next drawn =>
        unfold nextId at drawn
        cases begun
        split at drawn
        · cases drawn
          exact ⟨Nat.lt_of_not_le room, rfl, rfl⟩
        · cases drawn

/-- Only the current attempt or connection may wait for its retry. -/
theorem scheduleRetry_eq (callback : connection.callbackId = some id) (now : Nat) :
    ∃ notBefore, connection.scheduleRetry now = { connection with state := .waitingToRetry notBefore } := by
  unfold callbackId at callback
  unfold scheduleRetry
  cases state : connection.state with
  | idle => simp [state] at callback
  | connecting | connected => exact ⟨_, rfl⟩
  | waitingToRetry notBefore => simp [state] at callback

private theorem classifyAt_current (accepted : connection.classifyAt id now ≠ .stale) : connection.callbackId = some id := by
  unfold classifyAt at accepted
  unfold callbackId
  cases state : connection.state with
  | idle | waitingToRetry => simp [state] at accepted
  | connecting current startedAt =>
    simp only [state] at accepted
    split at accepted
    · next same => exact congrArg some same.1
    · exact absurd rfl accepted
  | connected current =>
    simp only [state] at accepted
    split at accepted
    · next same => exact congrArg some same
    · exact absurd rfl accepted

theorem failedFor_ends (connection : MusicConnection) (id now : Nat) :
    connection.failedFor id now = (connection, .stale) ∨ connection.callbackId = some id ∧
      ∃ notBefore, connection.failedFor id now = ({ connection with state := .waitingToRetry notBefore }, .accepted) := by
  unfold failedFor
  split
  · exact .inl rfl
  · next live =>
    have callback := classifyAt_current live
    obtain ⟨notBefore, waits⟩ := scheduleRetry_eq callback now
    exact .inr ⟨callback, notBefore, by rw [waits]⟩

theorem expiredFor_ends (connection : MusicConnection) (id now : Nat) :
    connection.expiredFor id now = (connection, .stale) ∨ connection.callbackId = some id ∧
      ∃ notBefore, connection.expiredFor id now = ({ connection with state := .waitingToRetry notBefore }, .accepted) := by
  unfold expiredFor
  split
  · next current startedAt state =>
    split
    · exact .inl rfl
    · next late =>
      rw [not_or, not_not] at late
      have callback : connection.callbackId = some id := by
        simp [callbackId, state, late.1]
      obtain ⟨notBefore, waits⟩ := scheduleRetry_eq callback now
      exact .inr ⟨callback, notBefore, by rw [waits]⟩
  all_goals exact .inl rfl

end MusicConnection

def ProviderCall.retires (call : ProviderCall) (lifecycle : MusicProviderLifecycle) : Prop :=
  call = .suspend ∨ call = .cancelMonitor ∨
    ∃ id, call = .retireProviderSession id ∧ lifecycle.providerSession.active = some id

namespace MusicProviderLifecycle
open MusicObservationTracker
variable {lifecycle before after : MusicProviderLifecycle} {request : PendingTransport}

/-- The queued skips belong to requests: one that waits for an outcome, to the pending request. -/
structure Queued (lifecycle : MusicProviderLifecycle) : Prop where
  distinct : (lifecycle.observations.skips.map Prod.fst).Nodup
  issued : ∀ id ∈ lifecycle.observations.skips.map Prod.fst, id ≤ lifecycle.transport.lastRequestId
  waiting : ∀ id, (id, .pending) ∈ lifecycle.observations.skips →
    ∃ request, lifecycle.transport = .pending request ∧ request.requestId = id ∧ request.command.isSkip = true

structure Owned (lifecycle : MusicProviderLifecycle) : Prop extends Queued lifecycle where
  session : ∀ request, lifecycle.transport = .pending request →
    lifecycle.providerSession.active = some request.owner.providerGeneration
  connected : ∀ request, lifecycle.transport = .pending request → lifecycle.ownerConnected request.owner = true
  counted : ∀ request, lifecycle.transport = .pending request → 0 < request.requestId
  bounded : lifecycle.connection.attempts ≤ maximumAttempts

/-- The pending request has ended, and no skip is left waiting for it. -/
structure Closes (request : PendingTransport) (before after : MusicProviderLifecycle) : Prop where
  pending : before.transport = .pending request
  freed : after.transport = .available request.requestId
  thins : (after.observations.skips.map Prod.fst).Sublist (before.observations.skips.map Prod.fst)
  settled : ∀ id, (id, .pending) ∉ after.observations.skips

/-- A command's end, as the completion says it: an unfinished one left everything. -/
inductive Releases (before after : MusicProviderLifecycle) : MusicTransportCompletion → Prop where
  | keeps {completion} (unfinished : completion.report = none) (transport : after.transport = before.transport)
      (skips : after.observations.skips.Sublist before.observations.skips) : Releases before after completion
  | closes (request outcome) (closes : Closes request before after) :
      Releases before after (.finished request.requestId outcome)

structure SameOwners (before after : MusicProviderLifecycle) : Prop where
  session : after.providerSession = before.providerSession
  connection : after.connection = before.connection

/-- Ending the named request closes it when it is the pending one. -/
theorem Queued.finishTransportUnchecked (queued : Queued lifecycle) (providerGeneration requestId : Nat)
    (outcome : MusicTransportOutcome) :
    (lifecycle.finishTransportUnchecked providerGeneration requestId outcome = (lifecycle, .stale) ∧
      ∀ request, lifecycle.transport = .pending request →
        ¬(request.owner.providerGeneration = providerGeneration ∧ request.requestId = requestId)) ∨
    ∃ request, Closes request lifecycle (lifecycle.finishTransportUnchecked providerGeneration requestId outcome).1 ∧
      (lifecycle.finishTransportUnchecked providerGeneration requestId outcome).2 = .finished request.requestId outcome ∧
      request.owner.providerGeneration = providerGeneration ∧ request.requestId = requestId ∧
      SameOwners lifecycle (lifecycle.finishTransportUnchecked providerGeneration requestId outcome).1 := by
  unfold MusicProviderLifecycle.finishTransportUnchecked MusicTransportState.finish
  cases state : lifecycle.transport with
  | available last =>
    refine .inl ⟨rfl, ?_⟩
    intro request other
    cases other
  | pending request =>
    by_cases named : request.owner.providerGeneration = providerGeneration ∧ request.requestId = requestId
    · refine .inr ⟨request, ?_⟩
      obtain ⟨rfl, rfl⟩ := named
      simp only [MusicTransportState.pending?, Option.filter_some, and_self, decide_true, if_true]
      refine ⟨⟨state, rfl, ?_, ?_⟩, trivial, trivial, trivial, rfl, rfl⟩
      · dsimp only
        split
        · exact finishSkip_ids _ _ _
        · exact .refl _
      · intro id member
        -- Only a skip command's request has a skip that waits, and its end settles that one.
        have mine : ∀ id, (id, .pending) ∈ lifecycle.observations.skips →
            request.requestId = id ∧ request.command.isSkip = true := by
          intro id queuedSkip
          obtain ⟨current, pending, same, skips⟩ := queued.waiting id queuedSkip
          obtain rfl : request = current := by simpa [state] using pending
          exact ⟨same, skips⟩
        dsimp only at member
        split at member
        · obtain ⟨waited, other⟩ := finishSkip_waits queued.distinct member
          exact other (mine id waited).1.symm
        · next plain => exact plain (mine id member).2
    · refine .inl ⟨?_, ?_⟩
      · have unnamed : decide (request.owner.providerGeneration = providerGeneration ∧ request.requestId = requestId) =
            false := decide_eq_false named
        simp only [MusicTransportState.pending?, Option.filter_some, unnamed, Bool.false_eq_true, if_false]
      · intro other same
        obtain rfl : request = other := by simpa using same
        exact named

theorem SameOwners.refl (lifecycle : MusicProviderLifecycle) : SameOwners lifecycle lifecycle := ⟨rfl, rfl⟩

theorem Queued.releases_unchecked (queued : Queued lifecycle) (providerGeneration requestId : Nat)
    (outcome : MusicTransportOutcome) :
    Releases lifecycle (lifecycle.finishTransportUnchecked providerGeneration requestId outcome).1
        (lifecycle.finishTransportUnchecked providerGeneration requestId outcome).2 ∧
      SameOwners lifecycle (lifecycle.finishTransportUnchecked providerGeneration requestId outcome).1 := by
  rcases queued.finishTransportUnchecked providerGeneration requestId outcome with
    ⟨stale, -⟩ | ⟨request, closes, finished, -, -, same⟩
  · rw [stale]
    exact ⟨.keeps rfl rfl (.refl _), .refl _⟩
  · rw [finished]
    exact ⟨.closes request outcome closes, same⟩

theorem Queued.cancelCurrentTransport (queued : Queued lifecycle) :
    Releases lifecycle lifecycle.cancelCurrentTransport.1 lifecycle.cancelCurrentTransport.2 ∧
      SameOwners lifecycle lifecycle.cancelCurrentTransport.1 ∧
      (∀ request, lifecycle.cancelCurrentTransport.1.transport ≠ .pending request) ∧
      ∀ requestId outcome, lifecycle.cancelCurrentTransport.2 = .finished requestId outcome → outcome = .cancelled := by
  unfold MusicProviderLifecycle.cancelCurrentTransport
  cases state : lifecycle.transport with
  | available last =>
    refine ⟨.keeps rfl rfl (.refl _), .refl _, ?_, nofun⟩
    intro request other
    cases state.symm.trans other
  | pending current =>
    dsimp only [MusicTransportState.pending?]
    rcases queued.finishTransportUnchecked current.owner.providerGeneration current.requestId .cancelled with
      ⟨-, other⟩ | ⟨request, closes, finished, -, -, same⟩
    · exact absurd ⟨rfl, rfl⟩ (other current state)
    · rw [finished]
      refine ⟨.closes request .cancelled closes, same, ?_, ?_⟩
      · intro pending other
        cases closes.freed.symm.trans other
      · intro requestId outcome done
        cases done
        rfl

/-- A connection's end leaves no request of that connection pending. -/
theorem Queued.cancelTransportForConnectionCurrent (queued : Queued lifecycle) (connectionId : Nat) :
    Releases lifecycle (lifecycle.cancelTransportForConnectionCurrent connectionId).1
        (lifecycle.cancelTransportForConnectionCurrent connectionId).2 ∧
      SameOwners lifecycle (lifecycle.cancelTransportForConnectionCurrent connectionId).1 ∧
      ∀ request providerGeneration,
        (lifecycle.cancelTransportForConnectionCurrent connectionId).1.transport = .pending request →
          request.owner ≠ .connection providerGeneration connectionId := by
  unfold MusicProviderLifecycle.cancelTransportForConnectionCurrent
  cases state : lifecycle.transport with
  | available last =>
    refine ⟨.keeps rfl rfl (.refl _), .refl _, ?_⟩
    intro request providerGeneration other
    cases state.symm.trans other
  | pending current =>
    dsimp only [MusicTransportState.pending?]
    cases owner : current.owner with
    | provider generation =>
      refine ⟨.keeps rfl rfl (.refl _), .refl _, ?_⟩
      intro request providerGeneration other
      obtain rfl : current = request := by simpa using state.symm.trans other
      rw [owner]
      nofun
    | connection generation attached =>
      dsimp only
      split
      · rcases queued.finishTransportUnchecked generation current.requestId .cancelled with
          ⟨-, other⟩ | ⟨request, closes, finished, -, -, same⟩
        · exact absurd ⟨by rw [owner]; rfl, rfl⟩ (other current state)
        · rw [finished]
          refine ⟨.closes request .cancelled closes, same, ?_⟩
          intro pending providerGeneration other
          cases closes.freed.symm.trans other
      · next different =>
        refine ⟨.keeps rfl rfl (.refl _), .refl _, ?_⟩
        intro request providerGeneration other
        obtain rfl : current = request := by simpa using state.symm.trans other
        rw [owner]
        intro same
        cases same
        exact different rfl

theorem Releases.pending {completion : MusicTransportCompletion} (released : Releases before after completion)
    (still : after.transport = .pending request) : before.transport = .pending request := by
  cases released with
  | keeps unfinished transport skips => exact transport.symm.trans still
  | closes ended outcome closes => cases closes.freed.symm.trans still

theorem Queued.releases {completion : MusicTransportCompletion} (queued : Queued before)
    (released : Releases before after completion) : Queued after := by
  cases released with
  | keeps unfinished transport skips =>
    refine ⟨queued.distinct.sublist (skips.map _), ?_, ?_⟩
    · intro id member
      rw [transport]
      exact queued.issued id ((skips.map _).subset member)
    · intro id member
      rw [transport]
      exact queued.waiting id (skips.subset member)
  | closes ended outcome closes =>
    refine ⟨queued.distinct.sublist closes.thins, ?_, ?_⟩
    · intro id member
      have issued := queued.issued id (closes.thins.subset member)
      rw [closes.pending] at issued
      rw [closes.freed]
      exact issued
    · intro id member
      exact absurd member (closes.settled id)

theorem Releases.framed {middle : MusicProviderLifecycle} {completion : MusicTransportCompletion}
    (released : Releases middle after completion) (transport : middle.transport = before.transport)
    (observations : middle.observations = before.observations) : Releases before after completion := by
  cases released with
  | keeps unfinished same skips => exact .keeps unfinished (same.trans transport) (observations ▸ skips)
  | closes request outcome closes =>
    exact .closes request outcome
      ⟨transport.symm.trans closes.pending, closes.freed, observations ▸ closes.thins, closes.settled⟩

private theorem Releases.invalidated {middle : MusicProviderLifecycle} {completion : MusicTransportCompletion}
    (released : Releases before middle completion) : Releases before middle.invalidateProviderWork completion := by
  have cleared : middle.invalidateProviderWork.observations.skips.Sublist middle.observations.skips :=
    rejectSkips_thins _ middle.observations
  cases released with
  | keeps unfinished transport skips => exact .keeps unfinished transport (cleared.trans skips)
  | closes request outcome closes =>
    refine .closes request outcome ⟨closes.pending, closes.freed, (cleared.map _).trans closes.thins, ?_⟩
    intro id member
    exact closes.settled id (cleared.subset member)

/-- Everything the provider owned is ended: its request, its session and its connection. -/
structure Retired (before after : MusicProviderLifecycle) (completion : MusicTransportCompletion) : Prop where
  released : Releases before after completion
  idle : ∀ request, after.transport ≠ .pending request
  session : after.providerSession = before.providerSession.invalidate
  connection : after.connection = before.connection.reset
  cancelled : ∀ requestId outcome, completion = .finished requestId outcome → outcome = .cancelled

theorem Queued.retired (queued : Queued lifecycle) :
    Retired lifecycle lifecycle.cancelCurrentTransport.1.invalidateProviderWork lifecycle.cancelCurrentTransport.2 := by
  obtain ⟨released, same, idle, cancelled⟩ := queued.cancelCurrentTransport
  refine ⟨released.invalidated, idle, ?_, ?_, cancelled⟩
  · rw [← same.session]
    rfl
  · rw [← same.connection]
    rfl

theorem Retired.framed {middle : MusicProviderLifecycle} {completion : MusicTransportCompletion}
    (retired : Retired middle after completion) (transport : middle.transport = before.transport)
    (observations : middle.observations = before.observations)
    (session : middle.providerSession.invalidate = before.providerSession.invalidate)
    (connection : middle.connection = before.connection) : Retired before after completion :=
  ⟨retired.released.framed transport observations, retired.idle, retired.session.trans session,
    connection ▸ retired.connection, retired.cancelled⟩

/-- What a call may do to the sessions, the connection and the pending request. -/
inductive Turn (before after : MusicProviderLifecycle) : ProviderCall → ProviderReply → Prop where
  | rests {call reply completion} (same : SameOwners before after) (released : Releases before after completion)
      (marks : reply.marks = { report := completion.report }) : Turn before after call reply
  | begins (owner command now last) (available : before.transport = .available last)
      (session : before.providerSession.active = some owner.providerGeneration)
      (connected : before.ownerConnected owner = true) (same : SameOwners before after)
      (transport : after.transport = .pending ⟨owner, last + 1, now, command⟩)
      (skips : after.observations.skips =
        before.observations.skips ++ if command.isSkip then [(last + 1, .pending)] else [])
      {reply} (marks : reply.marks = { begun := some (last + 1) }) :
      Turn before after (.beginTransportEffect owner command now) reply
  | retires {call reply completion} (boundary : call.retires before) (retired : Retired before after completion)
      (marks : reply.marks = { report := completion.report }) : Turn before after call reply
  | opens {middle completion} (retired : Retired before middle completion)
      (transport : after.transport = middle.transport) (observations : after.observations = middle.observations)
      (connection : after.connection = middle.connection) (generation)
      (begun : middle.providerSession.begin = (after.providerSession, generation)) :
      Turn before after .beginProviderSession (.session generation)
  | attempts {reply} (now completion) (room : before.connection.attempts < maximumAttempts)
      (session : after.providerSession = before.providerSession)
      (connection : after.connection = ⟨before.connection.attempts + 1, before.connection.lastAttemptId + 1,
        .connecting (before.connection.lastAttemptId + 1) now⟩)
      (released : Releases before after completion)
      (unowned : ∀ request providerGeneration connectionId, after.transport = .pending request →
        request.owner ≠ .connection providerGeneration connectionId)
      (marks : reply.marks = { report := completion.report, attempt := some (before.connection.lastAttemptId + 1) }) :
      Turn before after (.beginConnectionAttempt now) reply
  | establishes (id now startedAt) (connecting : before.connection.state = .connecting id startedAt)
      (session : after.providerSession = before.providerSession)
      (connection : after.connection = { before.connection with attempts := 0, state := .connected id })
      (transport : after.transport = before.transport) (observations : after.observations = before.observations) :
      Turn before after (.connectionEstablished id now) (.established (some id))
  | disconnects {call reply completion} (notBefore)
      (session : after.providerSession = before.providerSession)
      (connection : after.connection = { before.connection with state := .waitingToRetry notBefore })
      (released : Releases before after completion)
      (unowned : ∀ request providerGeneration connectionId, after.transport = .pending request →
        request.owner ≠ .connection providerGeneration connectionId)
      (marks : reply.marks = { report := completion.report }) : Turn before after call reply

structure Aside (before after : MusicProviderLifecycle) : Prop extends SameOwners before after where
  transport : after.transport = before.transport
  observations : after.observations = before.observations

theorem Aside.turn {call : ProviderCall} {reply : ProviderReply} (aside : Aside before after) (marks : reply.marks = {}) :
    Turn before after call reply := by
  have released : Releases before after .stale := .keeps rfl aside.transport (by rw [aside.observations])
  exact .rests aside.toSameOwners released marks

section Lifecycle
variable (lifecycle : MusicProviderLifecycle)

private theorem turn_beginPlayHandoff (now : Nat) : Aside lifecycle (lifecycle.beginPlayHandoff now).1 := by
  unfold beginPlayHandoff
  split <;> exact ⟨⟨rfl, rfl⟩, rfl, rfl⟩

theorem turn_observePlayHandoff (id : Nat) (state : MusicPlaybackState) (observedAt : Nat) :
    Aside lifecycle (lifecycle.observePlayHandoff id state observedAt).1 := by
  unfold observePlayHandoff
  split <;> exact ⟨⟨rfl, rfl⟩, rfl, rfl⟩

theorem turn_expirePlayHandoff (id now : Nat) : Aside lifecycle (lifecycle.expirePlayHandoff id now).1 := by
  unfold expirePlayHandoff
  split <;> exact ⟨⟨rfl, rfl⟩, rfl, rfl⟩

private theorem turn_beginMonitor : Aside lifecycle lifecycle.beginMonitor.1 := by
  unfold beginMonitor
  split
  · exact ⟨⟨rfl, rfl⟩, rfl, rfl⟩
  · split <;> exact ⟨⟨rfl, rfl⟩, rfl, rfl⟩

theorem turn_beginArtworkEffect (providerGeneration now : Nat) :
    Aside lifecycle (lifecycle.beginArtworkEffect providerGeneration now).1 := by
  unfold beginArtworkEffect
  split <;> exact ⟨⟨rfl, rfl⟩, rfl, rfl⟩

theorem turn_completeArtworkRequest (providerGeneration id : Nat) :
    Aside lifecycle (lifecycle.completeArtworkRequest providerGeneration id).1 := by
  unfold completeArtworkRequest
  split <;> exact ⟨⟨rfl, rfl⟩, rfl, rfl⟩

theorem turn_beginArtworkRetryEffect (providerGeneration now : Nat) :
    Aside lifecycle (lifecycle.beginArtworkRetryEffect providerGeneration now).1 := by
  unfold beginArtworkRetryEffect
  split <;> exact ⟨⟨rfl, rfl⟩, rfl, rfl⟩

theorem turn_completeArtworkRetry (providerGeneration id : Nat) :
    Aside lifecycle (lifecycle.completeArtworkRetry providerGeneration id).1 := by
  unfold completeArtworkRetry
  split <;> exact ⟨⟨rfl, rfl⟩, rfl, rfl⟩

/-- A call of the tracker's own may drop skips, and does nothing else here. -/
theorem turn_tracking (call : ProviderCall) (tracked : TrackerCall)
    (unissued : ∀ transportId issuedAt, tracked ≠ .issueSkip transportId issuedAt)
    (unfinished : ∀ transportId accepted, tracked ≠ .finishSkip transportId accepted) :
    Turn lifecycle (tracking lifecycle tracked .tracked).1 call (tracking lifecycle tracked .tracked).2 := by
  have released : Releases lifecycle (tracking lifecycle tracked .tracked).1 .stale :=
    .keeps rfl rfl (step_thins lifecycle.observations tracked unissued unfinished)
  refine .rests ⟨rfl, rfl⟩ released ?_
  unfold tracking
  dsimp only
  cases (lifecycle.observations.step tracked).2 <;> rfl

private theorem turn_beginTransportEffect (owner : MusicTransportOwner) (command : MusicCommand) (now : Nat) :
    Turn lifecycle (lifecycle.beginTransportEffect owner command now).1 (.beginTransportEffect owner command now)
      (.transportBegun (lifecycle.beginTransportEffect owner command now).2) := by
  have refused : Turn lifecycle lifecycle (.beginTransportEffect owner command now) (.transportBegun none) :=
    Aside.turn ⟨.refl _, rfl, rfl⟩ rfl
  unfold beginTransportEffect
  split
  · next current =>
    cases state : lifecycle.transport with
    | pending request => exact refused
    | available last =>
      unfold MusicTransportState.begin nextId
      dsimp only
      split
      · next unbegun => exact refused
      · next request begun =>
        obtain ⟨requestId, counted, rfl⟩ := Option.map_eq_some_iff.mp begun
        split at counted
        · cases counted
          refine .begins owner command now last state ?_ current.2 ?_ ?_ ?_ ?_
          · simpa [CallbackEpoch.classify] using current.1
          · exact ⟨rfl, rfl⟩
          · rfl
          · dsimp only
            split <;> simp [skips, issueSkip]
          · rfl
        · cases counted
  · exact refused

end Lifecycle

private theorem Queued.turn_finishTransport (queued : Queued lifecycle) (providerGeneration requestId : Nat)
    (outcome : MusicTransportOutcome) (call : ProviderCall) :
    Turn lifecycle (lifecycle.finishTransport providerGeneration requestId outcome).1 call
      (.transport (lifecycle.finishTransport providerGeneration requestId outcome).2) := by
  have stale : Turn lifecycle lifecycle call (.transport .stale) := Aside.turn ⟨.refl _, rfl, rfl⟩ rfl
  unfold finishTransport
  split
  · exact stale
  · split
    · exact stale
    · split
      · obtain ⟨released, same⟩ := queued.releases_unchecked providerGeneration requestId .cancelled
        exact .rests same released rfl
      · obtain ⟨released, same⟩ := queued.releases_unchecked providerGeneration requestId outcome
        exact .rests same released rfl

private theorem Queued.turn_expireTransport (queued : Queued lifecycle) (providerGeneration now : Nat) (call : ProviderCall) :
    Turn lifecycle (lifecycle.expireTransport providerGeneration now).1 call
      (.transport (lifecycle.expireTransport providerGeneration now).2) := by
  unfold expireTransport
  split
  · exact Aside.turn ⟨.refl _, rfl, rfl⟩ rfl
  · next pending known =>
    split
    · exact Aside.turn ⟨.refl _, rfl, rfl⟩ rfl
    · split
      · exact Aside.turn ⟨.refl _, rfl, rfl⟩ rfl
      · obtain ⟨released, same⟩ := queued.releases_unchecked providerGeneration pending.requestId .timedOut
        exact .rests same released rfl

private theorem Queued.turn_cancelMonitor (queued : Queued lifecycle) :
    Turn lifecycle lifecycle.cancelMonitor.1 .cancelMonitor (.transport lifecycle.cancelMonitor.2) := by
  have framed : Queued { lifecycle with
      monitor := lifecycle.monitor.cancel
      monitorGeneration := lifecycle.monitorGeneration.invalidate
      authorization := lifecycle.authorization.invalidate } := ⟨queued.distinct, queued.issued, queued.waiting⟩
  exact .retires (.inr (.inl rfl)) (framed.retired.framed rfl rfl rfl rfl) rfl

private theorem report_cancelled {completion : MusicTransportCompletion}
    (cancelled : ∀ requestId outcome, completion = .finished requestId outcome → outcome = .cancelled) :
    (completion.finishedRequestId.map fun id => (id, MusicTransportOutcome.cancelled)) = completion.report := by
  cases completion with
  | finished requestId outcome =>
    rw [cancelled requestId outcome rfl]
    rfl
  | pending | stale => rfl

private theorem Queued.turn_suspend (queued : Queued lifecycle) :
    Turn lifecycle lifecycle.suspend.1 .suspend (.suspended lifecycle.suspend.2) := by
  have framed : Queued { lifecycle with
      monitor := lifecycle.monitor.suspend
      monitorGeneration := lifecycle.monitorGeneration.invalidate } := ⟨queued.distinct, queued.issued, queued.waiting⟩
  have retired := framed.retired
  refine .retires (.inl rfl) (retired.framed rfl rfl rfl rfl) ?_
  rw [← report_cancelled retired.cancelled]
  rfl

private theorem Queued.turn_retireProviderSession (queued : Queued lifecycle) (id : Nat) :
    Turn lifecycle (lifecycle.retireProviderSession id).1 (.retireProviderSession id)
      (.transport (lifecycle.retireProviderSession id).2) := by
  unfold MusicProviderLifecycle.retireProviderSession CallbackEpoch.finish
  by_cases current : lifecycle.providerSession.active = some id
  · simp only [CallbackEpoch.classify, if_pos current]
    have framed : Queued { lifecycle with
        providerSession := { lifecycle.providerSession with active := none }
        commandFeedback := lifecycle.commandFeedback.invalidate } := ⟨queued.distinct, queued.issued, queued.waiting⟩
    exact .retires (.inr (.inr ⟨id, rfl, current⟩)) (framed.retired.framed rfl rfl rfl rfl) rfl
  · simp only [CallbackEpoch.classify, if_neg current, reduceCtorEq, if_false]
    exact Aside.turn ⟨.refl _, rfl, rfl⟩ rfl

private theorem Queued.turn_beginProviderSession (queued : Queued lifecycle) :
    Turn lifecycle lifecycle.beginProviderSession.1 .beginProviderSession
      (.session lifecycle.beginProviderSession.2) := by
  have retired := queued.retired
  unfold MusicProviderLifecycle.beginProviderSession
  dsimp only
  split
  · next session exhausted =>
    refine .opens retired ?_ ?_ ?_ none ?_
    · rfl
    · rfl
    · rfl
    have same : session = lifecycle.retireAllProviderWork.1.providerSession := by
      unfold CallbackEpoch.begin at exhausted
      split at exhausted
      · cases exhausted
        rfl
      · cases exhausted
    rw [same] at exhausted
    exact exhausted
  · next session generation begun =>
    refine .opens retired ?_ ?_ ?_ (some generation) ?_
    · rfl
    · rfl
    · rfl
    · exact begun

theorem Owned.connection_owner (owned : Owned lifecycle) {providerGeneration connectionId : Nat}
    (pending : lifecycle.transport = .pending request)
    (owner : request.owner = .connection providerGeneration connectionId) :
    lifecycle.connection.state = .connected connectionId := by
  have connected := owned.connected request pending
  rw [owner] at connected
  simpa [ownerConnected, MusicConnection.isEstablished] using connected

/-- What the end of the connection leaves pending is owned by no connection. -/
theorem Owned.unowned (owned : Owned before) {middle : MusicProviderLifecycle} {id : Nat}
    (transport : middle.transport = before.transport) (observations : middle.observations = before.observations)
    (callback : before.connection.callbackId = some id) :
    Releases before (middle.cancelTransportForConnectionCurrent id).1 (middle.cancelTransportForConnectionCurrent id).2 ∧
      SameOwners middle (middle.cancelTransportForConnectionCurrent id).1 ∧
      ∀ request providerGeneration connectionId,
        (middle.cancelTransportForConnectionCurrent id).1.transport = .pending request →
          request.owner ≠ .connection providerGeneration connectionId := by
  have queued : Queued middle := by
    refine ⟨?_, ?_, ?_⟩
    · rw [observations]
      exact owned.distinct
    · rw [observations, transport]
      exact owned.issued
    · rw [observations, transport]
      exact owned.waiting
  obtain ⟨released, same, others⟩ := queued.cancelTransportForConnectionCurrent id
  have framed := released.framed transport observations
  refine ⟨framed, same, ?_⟩
  intro request providerGeneration connectionId pending owner
  have connected := owned.connection_owner (framed.pending pending) owner
  have own : connectionId = id := by simpa [MusicConnection.callbackId, connected] using callback
  rw [own] at owner
  exact others request providerGeneration pending owner

/-- Without a current attempt or connection nothing pending is owned by a connection. -/
theorem Owned.unowned_idle (owned : Owned lifecycle) (idle : lifecycle.connection.callbackId = none) :
    ∀ request providerGeneration connectionId, lifecycle.transport = .pending request →
      request.owner ≠ .connection providerGeneration connectionId := by
  intro request providerGeneration connectionId pending owner
  have connected := owned.connection_owner pending owner
  simp [MusicConnection.callbackId, connected] at idle

private theorem Owned.turn_beginConnectionAttempt (owned : Owned lifecycle) (now : Nat) :
    Turn lifecycle (lifecycle.beginConnectionAttempt now).1 (.beginConnectionAttempt now)
      (.attempt (lifecycle.beginConnectionAttempt now).2) := by
  unfold beginConnectionAttempt
  split
  · exact Aside.turn ⟨.refl _, rfl, rfl⟩ rfl
  · exact Aside.turn ⟨.refl _, rfl, rfl⟩ rfl
  · exact Aside.turn ⟨.refl _, rfl, rfl⟩ rfl
  · next connection attemptId begun =>
    obtain ⟨room, connection_, attempt⟩ := MusicConnection.beginAttempt_started begun
    subst attempt
    dsimp only
    cases callback : lifecycle.connection.callbackId with
    | none =>
      refine .attempts now .stale room ?_ connection_ ?_ ?_ ?_
      · rfl
      · exact .keeps rfl rfl (.refl _)
      · exact owned.unowned_idle callback
      · rfl
    | some id =>
      obtain ⟨released, same, unowned⟩ :=
        @Owned.unowned lifecycle owned { lifecycle with connection := connection } id rfl rfl callback
      refine .attempts now _ room same.session (same.connection.trans connection_) released unowned ?_
      rfl

private theorem turn_connectionEstablished (lifecycle : MusicProviderLifecycle) (id now : Nat) :
    Turn lifecycle (lifecycle.connectionEstablished id now).1 (.connectionEstablished id now)
      (.established (lifecycle.connectionEstablished id now).2) := by
  unfold connectionEstablished MusicConnection.establishedForAt
  split
  · next current startedAt connecting =>
    split
    · exact Aside.turn ⟨⟨rfl, rfl⟩, rfl, rfl⟩ rfl
    · next live =>
      rw [not_or, not_not] at live
      obtain ⟨rfl, -⟩ := live
      exact .establishes current now startedAt connecting rfl rfl rfl rfl
  all_goals exact Aside.turn ⟨⟨rfl, rfl⟩, rfl, rfl⟩ rfl

theorem Owned.turn_finishConnection (owned : Owned lifecycle) (id : Nat) {ended : MusicConnection × MusicConnectionCallback}
    (call : ProviderCall)
    (ends : ended = (lifecycle.connection, .stale) ∨ lifecycle.connection.callbackId = some id ∧
      ∃ notBefore, ended = ({ lifecycle.connection with state := .waitingToRetry notBefore }, .accepted)) :
    Turn lifecycle ({ lifecycle with connection := ended.1 }.finishConnection id ended.2).1 call
      (.connection ({ lifecycle with connection := ended.1 }.finishConnection id ended.2).2) := by
  rcases ends with rfl | ⟨callback, notBefore, rfl⟩
  · unfold finishConnection
    rw [if_pos rfl]
    exact Aside.turn ⟨⟨rfl, rfl⟩, rfl, rfl⟩ rfl
  · obtain ⟨released, same, unowned⟩ := @Owned.unowned lifecycle owned { lifecycle with
      connection := { lifecycle.connection with state := .waitingToRetry notBefore }
      commandFeedback := lifecycle.commandFeedback.invalidate
      playerState := lifecycle.playerState.reset } id rfl rfl callback
    exact .disconnects notBefore same.session same.connection released unowned rfl

theorem Aside.answers {α : Type} {call : ProviderCall} {reply : α → ProviderReply} {outcome : MusicProviderLifecycle × α}
    (aside : Aside before outcome.1) (silent : ∀ answer, (reply answer).marks = {}) :
    Turn before (answering reply outcome).1 call (answering reply outcome).2 :=
  Aside.turn aside (silent outcome.2)

theorem Owned.turn (owned : Owned lifecycle) (call : ProviderCall) :
    Turn lifecycle (lifecycle.step call).1 call (lifecycle.step call).2 := by
  have aside : ∀ {after call reply}, Aside lifecycle after → ProviderReply.marks reply = {} →
      Turn lifecycle after call reply := Aside.turn
  cases call with
  | beginPlayHandoff now => exact (turn_beginPlayHandoff lifecycle now).answers fun _ => rfl
  | observePlayHandoff id state observedAt => exact (turn_observePlayHandoff lifecycle id state observedAt).answers fun _ => rfl
  | expirePlayHandoff id now => exact (turn_expirePlayHandoff lifecycle id now).answers fun _ => rfl
  | finishPlayHandoff | beginCommandFeedback | invalidateCommandFeedback | dismissCommandFeedback =>
    exact aside ⟨⟨rfl, rfl⟩, rfl, rfl⟩ rfl
  | observeMusic | retireHistoryAssociation | acknowledgeHistoryTransition | resetObservationCorrelation
  | resetObservationBaselines | clearPendingCommandCorrelation => exact turn_tracking lifecycle _ _ nofun nofun
  | requestMonitor | finishMonitor | resume => exact aside ⟨⟨rfl, rfl⟩, rfl, rfl⟩ rfl
  | cancelMonitor => exact owned.turn_cancelMonitor
  | beginMonitor => exact (turn_beginMonitor lifecycle).answers fun _ => rfl
  | suspend => exact owned.turn_suspend
  | beginProviderSession => exact owned.turn_beginProviderSession
  | retireProviderSession id => exact owned.turn_retireProviderSession id
  | beginAuthorization | beginAuthorizationEffect | finishAuthorization | invalidateAuthorization =>
    exact aside ⟨⟨rfl, rfl⟩, rfl, rfl⟩ rfl
  | beginConnectionAttempt now => exact owned.turn_beginConnectionAttempt now
  | connectionEstablished id now => exact turn_connectionEstablished lifecycle id now
  | connectionFailedEffect id now => exact owned.turn_finishConnection id _ (lifecycle.connection.failedFor_ends id now)
  | connectionExpiredEffect id now => exact owned.turn_finishConnection id _ (lifecycle.connection.expiredFor_ends id now)
  | connectionDisconnectedEffect id now =>
    exact owned.turn_finishConnection id _ (lifecycle.connection.failedFor_ends id now)
  | beginPlayerStateRequest | completePlayerStateRequest | expirePlayerStateRequest
  | completePlayerStateRequestIfCurrent | markPlayerStateObserved => exact aside ⟨⟨rfl, rfl⟩, rfl, rfl⟩ rfl
  | beginArtworkEffect providerGeneration now => exact (turn_beginArtworkEffect lifecycle providerGeneration now).answers fun _ => rfl
  | completeArtworkRequest providerGeneration id =>
    exact (turn_completeArtworkRequest lifecycle providerGeneration id).answers fun _ => rfl
  | resetArtwork => exact aside ⟨⟨rfl, rfl⟩, rfl, rfl⟩ rfl
  | beginArtworkRetryEffect providerGeneration now =>
    exact (turn_beginArtworkRetryEffect lifecycle providerGeneration now).answers fun _ => rfl
  | completeArtworkRetry providerGeneration id =>
    exact (turn_completeArtworkRetry lifecycle providerGeneration id).answers fun _ => rfl
  | beginTransportEffect owner command now => exact turn_beginTransportEffect lifecycle owner command now
  | finishTransport providerGeneration requestId outcome =>
    exact owned.turn_finishTransport providerGeneration requestId outcome _
  | expireTransport providerGeneration now => exact owned.turn_expireTransport providerGeneration now _
  | cancelTransport providerGeneration requestId =>
    obtain ⟨released, same⟩ := owned.releases_unchecked providerGeneration requestId .cancelled
    exact .rests same released rfl

theorem SameOwners.connected (same : SameOwners before after) (owner : MusicTransportOwner) :
    after.ownerConnected owner = before.ownerConnected owner := by
  cases owner with
  | provider generation => rfl
  | connection generation id => simp only [ownerConnected, same.connection]

theorem ownerConnected_unowned (lifecycle : MusicProviderLifecycle) {owner : MusicTransportOwner}
    (unowned : ∀ providerGeneration connectionId, owner ≠ .connection providerGeneration connectionId) :
    lifecycle.ownerConnected owner = true := by
  cases owner with
  | provider generation => rfl
  | connection generation id => exact absurd rfl (unowned generation id)

theorem Queued.owned (queued : Queued lifecycle) (idle : ∀ request, lifecycle.transport ≠ .pending request)
    (bounded : lifecycle.connection.attempts ≤ maximumAttempts) : Owned lifecycle :=
  ⟨queued, fun request pending => absurd pending (idle request), fun request pending => absurd pending (idle request),
    fun request pending => absurd pending (idle request), bounded⟩

/-- The issue of a skip: its request is newer than all that are queued. -/
theorem Queued.begins (queued : Queued before) {owner : MusicTransportOwner} {command : MusicCommand} {now last : Nat}
    (available : before.transport = .available last)
    (transport : after.transport = .pending ⟨owner, last + 1, now, command⟩)
    (skips : after.observations.skips =
      before.observations.skips ++ if command.isSkip then [(last + 1, .pending)] else []) : Queued after := by
  have older : ∀ id ∈ before.observations.skips.map Prod.fst, id ≤ last := by
    intro id member
    have issued := queued.issued id member
    rw [available] at issued
    exact issued
  have settled : ∀ id, (id, .pending) ∉ before.observations.skips := by
    intro id member
    obtain ⟨request, pending, -, -⟩ := queued.waiting id member
    cases available.symm.trans pending
  by_cases skip : command.isSkip = true
  · rw [if_pos skip] at skips
    refine ⟨?_, ?_, ?_⟩
    · rw [skips, List.map_append]
      refine List.nodup_append.mpr ⟨queued.distinct, List.nodup_singleton _, ?_⟩
      intro id member other final same
      have below := older id member
      have newest : other = last + 1 := List.mem_singleton.mp final
      omega
    · intro id member
      rw [skips, List.map_append] at member
      rw [transport]
      rcases List.mem_append.mp member with old | new
      · exact Nat.le_succ_of_le (older id old)
      · exact Nat.le_of_eq (List.mem_singleton.mp new)
    · intro id member
      rw [skips] at member
      rcases List.mem_append.mp member with old | new
      · exact absurd old (settled id)
      · cases List.mem_singleton.mp new
        exact ⟨_, transport, rfl, skip⟩
  · rw [if_neg skip, List.append_nil] at skips
    refine ⟨?_, ?_, ?_⟩
    · rw [skips]
      exact queued.distinct
    · intro id member
      rw [skips] at member
      rw [transport]
      exact Nat.le_succ_of_le (older id member)
    · intro id member
      rw [skips] at member
      exact absurd member (settled id)

/-- The step lemma: whatever the call, the owner of what is pending afterwards is alive. -/
theorem Owned.turned (owned : Owned before) {call : ProviderCall} {reply : ProviderReply}
    (turn : Turn before after call reply) : Owned after := by
  cases turn with
  | rests same released marks =>
    refine ⟨owned.toQueued.releases released, ?_, ?_, ?_, ?_⟩
    · intro request pending
      rw [same.session]
      exact owned.session request (released.pending pending)
    · intro request pending
      rw [same.connected]
      exact owned.connected request (released.pending pending)
    · intro request pending
      exact owned.counted request (released.pending pending)
    · rw [same.connection]
      exact owned.bounded
  | begins owner command now last available session connected same transport skips marks =>
    have own : ∀ {request}, after.transport = .pending request → request = ⟨owner, last + 1, now, command⟩ := by
      intro request pending
      simpa [eq_comm] using transport.symm.trans pending
    refine ⟨owned.toQueued.begins available transport skips, ?_, ?_, ?_, ?_⟩
    · intro request pending
      rw [own pending, same.session]
      exact session
    · intro request pending
      rw [own pending, same.connected]
      exact connected
    · intro request pending
      rw [own pending]
      exact Nat.succ_pos last
    · rw [same.connection]
      exact owned.bounded
  | retires boundary retired marks =>
    apply (owned.toQueued.releases retired.released).owned retired.idle
    rw [retired.connection]
    exact Nat.zero_le _
  | @opens middle completion retired transport observations connection generation begun =>
    have released : Releases before after completion := by
      have framed := retired.released
      cases framed with
      | keeps unfinished same skips => exact .keeps unfinished (transport.trans same) (by rw [observations]; exact skips)
      | closes request outcome closes =>
        exact .closes request outcome ⟨closes.pending, transport.trans closes.freed,
          by rw [observations]; exact closes.thins, by rw [observations]; exact closes.settled⟩
    apply (owned.toQueued.releases released).owned
    · intro request pending
      exact retired.idle request (transport.symm.trans pending)
    · rw [connection, retired.connection]
      exact Nat.zero_le _
  | attempts now completion room session connection released unowned marks =>
    refine ⟨owned.toQueued.releases released, ?_, ?_, ?_, ?_⟩
    · intro request pending
      rw [session]
      exact owned.session request (released.pending pending)
    · intro request pending
      exact ownerConnected_unowned after fun generation id => unowned request generation id pending
    · intro request pending
      exact owned.counted request (released.pending pending)
    · rw [connection]
      exact room
  | establishes id now startedAt connecting session connection transport observations =>
    have released : Releases before after .stale := .keeps rfl transport (by rw [observations])
    refine ⟨owned.toQueued.releases released, ?_, ?_, ?_, ?_⟩
    · intro request pending
      rw [session]
      exact owned.session request (released.pending pending)
    · intro request pending
      apply ownerConnected_unowned
      intro generation attached owner
      cases connecting.symm.trans (owned.connection_owner (released.pending pending) owner)
    · intro request pending
      exact owned.counted request (released.pending pending)
    · rw [connection]
      exact Nat.zero_le _
  | disconnects notBefore session connection released unowned marks =>
    refine ⟨owned.toQueued.releases released, ?_, ?_, ?_, ?_⟩
    · intro request pending
      rw [session]
      exact owned.session request (released.pending pending)
    · intro request pending
      exact ownerConnected_unowned after fun generation id => unowned request generation id pending
    · intro request pending
      exact owned.counted request (released.pending pending)
    · rw [connection]
      exact owned.bounded

theorem Owned.step (owned : Owned lifecycle) (call : ProviderCall) : Owned (lifecycle.step call).1 :=
  owned.turned (owned.turn call)

theorem Owned.initial : Owned {} :=
  ⟨⟨List.nodup_nil, nofun, nofun⟩, nofun, nofun, nofun, Nat.zero_le _⟩

end MusicProviderLifecycle

end Cutout.Music

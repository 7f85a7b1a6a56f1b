import Cutout.Proofs.MusicTransport

/-! Whole runs of a music provider's lifecycle. Sessions, connection attempts and
transport requests are numbered in the order they begin; a request ends by one reply,
and callbacks of sessions, attempts and requests that are over change nothing. -/

namespace Cutout.Music
open Library

abbrev ProviderStep := Step MusicProviderLifecycle ProviderCall ProviderReply

/-- The call names a session, a request or an attempt that is not the current one. -/
def ProviderCall.stale (call : ProviderCall) (lifecycle : MusicProviderLifecycle) : Prop :=
  match call with
  | .observePlayHandoff id _ _ | .expirePlayHandoff id _ | .finishPlayHandoff id => lifecycle.playHandoff.active ≠ some id
  | .dismissCommandFeedback id => lifecycle.commandFeedback.active ≠ some id
  | .finishMonitor generation => lifecycle.monitorGeneration.active ≠ some generation
  | .finishAuthorization id => ∀ kind, lifecycle.authorization.active ≠ some (kind, id)
  | .completePlayerStateRequest id _ | .expirePlayerStateRequest id _ | .completePlayerStateRequestIfCurrent id _ _ =>
    lifecycle.playerState.named id = none
  | .beginArtworkEffect generation _ | .beginArtworkRetryEffect generation _ =>
    lifecycle.providerSession.active ≠ some generation
  | .completeArtworkRequest generation id =>
    lifecycle.providerSession.active ≠ some generation ∨ lifecycle.artwork.pending ≠ some id
  | .completeArtworkRetry generation id =>
    lifecycle.providerSession.active ≠ some generation ∨ lifecycle.artworkRetry.active ≠ some id
  | .retireProviderSession id => lifecycle.providerSession.active ≠ some id
  | .connectionEstablished id now | .connectionFailedEffect id now | .connectionDisconnectedEffect id now =>
    lifecycle.connection.classifyAt id now = .stale
  | .connectionExpiredEffect id _ => lifecycle.connection.callbackId ≠ some id
  | .beginTransportEffect owner _ _ =>
    lifecycle.providerSession.active ≠ some owner.providerGeneration ∨ lifecycle.ownerConnected owner = false
  | .finishTransport generation id _ | .cancelTransport generation id =>
    lifecycle.providerSession.active ≠ some generation ∨
      ∀ request, lifecycle.transport = .pending request → request.requestId ≠ id
  | .expireTransport generation _ => lifecycle.providerSession.active ≠ some generation
  | _ => False

namespace ProviderStep

def begun (here : ProviderStep) : Option Nat := here.output.marks.begun
def attempt (here : ProviderStep) : Option Nat := here.output.marks.attempt
def session (here : ProviderStep) : Option Nat := here.output.marks.session

def reported (here : ProviderStep) : Option Nat := here.output.marks.report.map Prod.fst

/-- The step starts the attempt budget again: a success, or the end of the session. -/
def Renews (here : ProviderStep) : Prop :=
  here.input.retires here.before ∨ here.input = .beginProviderSession ∨ ∃ id, here.output = .established (some id)

end ProviderStep

namespace MusicProviderLifecycle
variable {lifecycle before after : MusicProviderLifecycle} {call : ProviderCall} {reply : ProviderReply}
variable (calls : List ProviderCall)

/-- What a turn does to the pending request, and what it says of it. -/
inductive Passes (before after : MusicTransportState) (call : ProviderCall) (marks : ProviderMarks) : Prop where
  | same (unchanged : after = before) (silent : marks.report = none) (unbegun : marks.begun = none)
  | ends (request) (pending : before = .pending request) (freed : after = .available request.requestId)
      (unbegun : marks.begun = none)
      (reports : (∃ outcome, marks.report = some (request.requestId, outcome)) ∨
        call = .beginProviderSession ∧ marks.report = none)
  | starts (request last) (called : call = .beginTransportEffect request.owner request.command request.startedAt)
      (available : before = .available last) (next : request.requestId = last + 1) (pending : after = .pending request)
      (begun : marks.begun = some request.requestId) (silent : marks.report = none)

theorem Releases.passes {completion : MusicTransportCompletion} {marks : ProviderMarks}
    (released : Releases before after completion) (unbegun : marks.begun = none)
    (reports : marks.report = completion.report) : Passes before.transport after.transport call marks := by
  cases released with
  | keeps unfinished transport skips => exact .same transport (reports.trans unfinished) unbegun
  | closes request outcome closes =>
    exact .ends request closes.pending closes.freed unbegun (.inl ⟨outcome, reports⟩)

section Turn
variable (turn : Turn before after call reply)
include turn

theorem Turn.passes : Passes before.transport after.transport call reply.marks := by
  cases turn with
  | rests same released marks => exact released.passes (by rw [marks]) (by rw [marks])
  | begins owner command now last available session connected same transport skips marks =>
    exact .starts _ last rfl available rfl transport (by rw [marks]) (by rw [marks])
  | retires boundary retired marks => exact retired.released.passes (by rw [marks]) (by rw [marks])
  | opens retired transport observations connection generation begun =>
    rw [transport]
    cases retired.released with
    | keeps unfinished same skips => exact .same same rfl rfl
    | closes request outcome closes => exact .ends request closes.pending closes.freed rfl (.inr ⟨rfl, rfl⟩)
  | attempts _ _ _ _ _ released _ marks | disconnects _ _ _ released _ marks =>
    exact released.passes (by rw [marks]) (by rw [marks])
  | establishes id now startedAt connecting session connection transport observations => exact .same transport rfl rfl

theorem Turn.attempt :
    (reply.marks.attempt = none ∧ after.connection.lastAttemptId = before.connection.lastAttemptId) ∨
      (reply.marks.attempt = some (before.connection.lastAttemptId + 1) ∧
        after.connection.lastAttemptId = before.connection.lastAttemptId + 1) := by
  cases turn with
  | rests same released marks => exact .inl ⟨by rw [marks], by rw [same.connection]⟩
  | begins owner command now last available session connected same transport skips marks =>
    exact .inl ⟨by rw [marks], by rw [same.connection]⟩
  | retires boundary retired marks =>
    refine .inl ⟨by rw [marks], ?_⟩
    rw [retired.connection]
    rfl
  | opens retired transport observations connection generation begun =>
    refine .inl ⟨rfl, ?_⟩
    rw [connection, retired.connection]
    rfl
  | attempts now completion room session connection released unowned marks =>
    exact .inr ⟨by rw [marks], by rw [connection]⟩
  | establishes id now startedAt connecting session connection transport observations =>
    exact .inl ⟨rfl, by rw [connection]⟩
  | disconnects notBefore session connection released unowned marks =>
    exact .inl ⟨by rw [marks], by rw [connection]⟩

theorem Turn.session : (reply.marks.session = none ∧ after.providerSession.lastId = before.providerSession.lastId) ∨
      (reply.marks.session = some (before.providerSession.lastId + 1) ∧
        after.providerSession.lastId = before.providerSession.lastId + 1) := by
  cases turn with
  | rests same released marks => exact .inl ⟨by rw [marks], by rw [same.session]⟩
  | begins owner command now last available session connected same transport skips marks =>
    exact .inl ⟨by rw [marks], by rw [same.session]⟩
  | retires boundary retired marks =>
    refine .inl ⟨by rw [marks], ?_⟩
    rw [retired.session]
    rfl
  | @opens middle completion retired transport observations connection generation begun =>
    have last : middle.providerSession.lastId = before.providerSession.lastId := by
      rw [retired.session]
      rfl
    unfold CallbackEpoch.begin nextId at begun
    rw [last] at begun
    split at begun
    · obtain ⟨session, rfl⟩ := Prod.mk.inj begun
      refine .inl ⟨rfl, ?_⟩
      rw [← session]
      exact last
    · next id drawn =>
      split at drawn
      · cases drawn
        obtain ⟨session, rfl⟩ := Prod.mk.inj begun
        exact .inr ⟨rfl, by rw [← session]⟩
      · cases drawn
  | attempts _ _ _ session _ _ _ marks | disconnects _ session _ _ _ marks =>
    exact .inl ⟨by rw [marks], by rw [session]⟩
  | establishes id now startedAt connecting session connection transport observations =>
    exact .inl ⟨rfl, by rw [session]⟩

/-- Without a success or the end of the session the budget only shrinks, by one an attempt. -/
theorem Turn.budget (spent : ¬ProviderStep.Renews ⟨before, call, reply, after⟩) :
    after.connection.attempts = before.connection.attempts + reply.marks.attempt.toList.length := by
  cases turn with
  | rests same _ marks | begins _ _ _ _ _ _ _ same _ _ marks =>
    rw [marks, same.connection]
    rfl
  | retires boundary retired marks => exact absurd (.inl boundary) spent
  | opens retired transport observations connection generation begun => exact absurd (.inr (.inl rfl)) spent
  | attempts _ _ _ _ connection _ _ marks | disconnects _ _ connection _ _ marks =>
    rw [marks, connection]
    rfl
  | establishes id now startedAt connecting session connection transport observations =>
    exact absurd (.inr (.inr ⟨id, rfl⟩)) spent

end Turn

theorem Aside.answered {α : Type} {reply : α → ProviderReply} {outcome : MusicProviderLifecycle × α}
    (aside : Aside before outcome.1) : (answering reply outcome).1.transport = before.transport ∧
      (answering reply outcome).1.connection = before.connection :=
  ⟨aside.transport, aside.connection⟩

/-- A callback of something that is over leaves the request and the connection as they are. -/
theorem Owned.stale (owned : Owned lifecycle) (call : ProviderCall) (stale : call.stale lifecycle) :
    (lifecycle.step call).1.transport = lifecycle.transport ∧
      (lifecycle.step call).1.connection = lifecycle.connection := by
  have unnamed : ∀ {providerGeneration requestId : Nat}, (lifecycle.providerSession.active ≠ some providerGeneration ∨
      ∀ request, lifecycle.transport = .pending request → request.requestId ≠ requestId) →
      ∀ request, lifecycle.transport = .pending request →
        ¬(request.owner.providerGeneration = providerGeneration ∧ request.requestId = requestId) := by
    rintro providerGeneration requestId other request pending ⟨rfl, rfl⟩
    rcases other with session | renamed
    · exact session (owned.session request pending)
    · exact renamed request pending rfl
  cases call with
  | observePlayHandoff id state observedAt => exact (turn_observePlayHandoff lifecycle id state observedAt).answered
  | expirePlayHandoff id now => exact (turn_expirePlayHandoff lifecycle id now).answered
  | finishPlayHandoff | dismissCommandFeedback | finishMonitor | finishAuthorization | completePlayerStateRequest
  | expirePlayerStateRequest | completePlayerStateRequestIfCurrent => exact ⟨rfl, rfl⟩
  | beginArtworkEffect generation now => exact (turn_beginArtworkEffect lifecycle generation now).answered
  | completeArtworkRequest generation id => exact (turn_completeArtworkRequest lifecycle generation id).answered
  | beginArtworkRetryEffect generation now => exact (turn_beginArtworkRetryEffect lifecycle generation now).answered
  | completeArtworkRetry generation id => exact (turn_completeArtworkRetry lifecycle generation id).answered
  | retireProviderSession id =>
    have other : lifecycle.providerSession.finish id = (lifecycle.providerSession, .stale) := by
      simp [CallbackEpoch.finish, CallbackEpoch.classify, show lifecycle.providerSession.active ≠ some id from stale]
    simp only [MusicProviderLifecycle.step, answering, retireProviderSession, other, and_self]
  | connectionEstablished id now =>
    have late : lifecycle.connection.establishedForAt id now = (lifecycle.connection, none) := by
      unfold MusicConnection.establishedForAt
      split
      · rw [if_pos (.inr stale)]
      all_goals rfl
    simp only [MusicProviderLifecycle.step, answering, connectionEstablished, late, and_self]
  | connectionFailedEffect id now =>
    have late : lifecycle.connection.failedFor id now = (lifecycle.connection, .stale) := if_pos stale
    simp only [MusicProviderLifecycle.step, answering, connectionFailedEffect, endConnection, finishConnection, late,
      if_true, and_self]
  | connectionDisconnectedEffect id now =>
    have late : lifecycle.connection.failedFor id now = (lifecycle.connection, .stale) := if_pos stale
    simp only [MusicProviderLifecycle.step, answering, connectionDisconnectedEffect, endConnection, finishConnection, late,
      if_true, and_self]
  | connectionExpiredEffect id now =>
    rcases lifecycle.connection.expiredFor_ends id now with late | ⟨current, -⟩
    · simp only [MusicProviderLifecycle.step, answering, connectionExpiredEffect, finishConnection, late, if_true, and_self]
    · exact absurd current stale
  | beginTransportEffect owner command now =>
    have refused : lifecycle.beginTransportEffect owner command now = (lifecycle, none) := by
      unfold beginTransportEffect
      rw [if_neg]
      rintro ⟨current, connected⟩
      rcases stale with session | apart
      · simp [CallbackEpoch.classify, session] at current
      · exact Bool.noConfusion (apart.symm.trans connected)
    simp only [MusicProviderLifecycle.step, answering, refused, and_self]
  | finishTransport generation id outcome =>
    have refused : lifecycle.finishTransport generation id outcome = (lifecycle, .stale) := by
      unfold finishTransport
      cases state : lifecycle.transport with
      | available last => rfl
      | pending request =>
        have other := unnamed stale request state
        rw [not_and_or] at other
        simp only [MusicTransportState.pending?, if_pos other]
    simp only [MusicProviderLifecycle.step, answering, refused, and_self]
  | cancelTransport generation id =>
    rcases owned.finishTransportUnchecked generation id .cancelled with ⟨refused, -⟩ | ⟨request, closes, -, own, same, -⟩
    · simp only [MusicProviderLifecycle.step, answering, cancelTransport, refused, and_self]
    · exact absurd ⟨own, same⟩ (unnamed stale request closes.pending)
  | expireTransport generation now =>
    have refused : lifecycle.expireTransport generation now = (lifecycle, .stale) := by
      unfold expireTransport
      cases state : lifecycle.transport with
      | available last => rfl
      | pending request =>
        have other : request.owner.providerGeneration ≠ generation := by
          rintro rfl
          exact stale (owned.session request state)
        simp only [MusicTransportState.pending?, if_pos other]
    simp only [MusicProviderLifecycle.step, answering, refused, and_self]
  | _ => exact absurd stale id

private theorem Owned.finishTransport_outcome (owned : Owned lifecycle) {providerGeneration named requestId : Nat}
    {outcome reported : MusicTransportOutcome}
    (finished : (lifecycle.finishTransport providerGeneration named outcome).2 = .finished requestId reported) :
    reported = outcome := by
  unfold finishTransport at finished
  cases state : lifecycle.transport with
  | available last =>
    simp only [state, MusicTransportState.pending?] at finished
    cases finished
  | pending request =>
    simp only [state, MusicTransportState.pending?] at finished
    split at finished
    · cases finished
    · rw [owned.connected request state] at finished
      simp only [Bool.not_true, Bool.false_eq_true, if_false] at finished
      rcases owned.finishTransportUnchecked providerGeneration named outcome with
        ⟨refused, -⟩ | ⟨request, -, ended, -, -, -⟩
      · rw [refused] at finished
        cases finished
      · rw [ended] at finished
        cases finished
        rfl

private theorem Queued.expireTransport_late (queued : Queued lifecycle) {providerGeneration now requestId : Nat}
    {outcome : MusicTransportOutcome}
    (finished : (lifecycle.expireTransport providerGeneration now).2 = .finished requestId outcome) :
    outcome = .timedOut ∧ ∃ request, lifecycle.transport = .pending request ∧ request.requestId = requestId ∧
      request.startedAt + transportTimeout ≤ now := by
  unfold expireTransport at finished
  cases state : lifecycle.transport with
  | available last =>
    simp only [state, MusicTransportState.pending?] at finished
    cases finished
  | pending request =>
    simp only [state, MusicTransportState.pending?] at finished
    split at finished
    · cases finished
    · split at finished
      · cases finished
      · next late =>
        rcases queued.finishTransportUnchecked providerGeneration request.requestId .timedOut with
          ⟨refused, -⟩ | ⟨ended, -, done, -, same, -⟩
        · rw [refused] at finished
          cases finished
        · rw [done] at finished
          cases finished
          refine ⟨rfl, request, rfl, same.symm, ?_⟩
          unfold transportTimeout at late ⊢
          omega

theorem owned_final : Owned (Runs.final step {} calls) :=
  Runs.invariant (P := Owned) (fun _ call owned => owned.step call) .initial calls

theorem owned_before {calls : List ProviderCall} {here : ProviderStep}
    (member : here ∈ Runs.history step {} calls) :
    Owned here.before ∧ Turn here.before here.after here.input here.output := by
  obtain ⟨owned, taken⟩ := Runs.before_of_mem (P := Owned) (fun _ call owned => owned.step call) Owned.initial member
  refine ⟨owned, ?_⟩
  rw [taken]
  exact owned.turn here.input

private theorem attempts_increase :
    ((Runs.history step {} calls).filterMap ProviderStep.attempt).Pairwise (· < ·) := by
  refine (Runs.issued_increasing (P := Owned) (fun _ call owned => owned.step call) Owned.initial
    (fun lifecycle => lifecycle.connection.lastAttemptId) ProviderStep.attempt ?_ calls).1
  intro lifecycle call owned
  rcases (owned.turn call).attempt with ⟨silent, same⟩ | ⟨started, next⟩
  · exact .inl ⟨silent, Nat.le_of_eq same.symm⟩
  · exact .inr ⟨_, started, Nat.lt_succ_self _, next⟩

private theorem sessions_increase :
    ((Runs.history step {} calls).filterMap ProviderStep.session).Pairwise (· < ·) := by
  refine (Runs.issued_increasing (P := Owned) (fun _ call owned => owned.step call) Owned.initial
    (fun lifecycle => lifecycle.providerSession.lastId) ProviderStep.session ?_ calls).1
  intro lifecycle call owned
  rcases (owned.turn call).session with ⟨silent, same⟩ | ⟨begun, next⟩
  · exact .inl ⟨silent, Nat.le_of_eq same.symm⟩
  · exact .inr ⟨_, begun, Nat.lt_succ_self _, next⟩

private theorem requests_increase :
    ((Runs.history step {} calls).filterMap ProviderStep.begun).Pairwise (· < ·) := by
  refine (Runs.issued_increasing (P := Owned) (fun _ call owned => owned.step call) Owned.initial
    (fun lifecycle => lifecycle.transport.lastRequestId) ProviderStep.begun ?_ calls).1
  intro lifecycle call owned
  cases (owned.turn call).passes with
  | same unchanged silent unbegun => exact .inl ⟨unbegun, by rw [unchanged]⟩
  | ends request pending freed unbegun reports =>
    refine .inl ⟨unbegun, ?_⟩
    rw [pending, freed]
    exact Nat.le_refl _
  | starts request last called available next pending begun silent =>
    refine .inr ⟨_, begun, ?_, by rw [pending]; rfl⟩
    rw [available, next]
    exact Nat.lt_succ_self _

/-- The newest request that has ended: none is newer than the one before what is pending. -/
def lastEnded (lifecycle : MusicProviderLifecycle) : Nat :=
  match lifecycle.transport with
  | .available last => last
  | .pending request => request.requestId - 1

/-- Reports come in the order of the requests, so that no request is reported twice. -/
theorem reports_increase :
    ((Runs.history step {} calls).filterMap ProviderStep.reported).Pairwise (· < ·) := by
  refine (Runs.issued_increasing (P := Owned) (fun _ call owned => owned.step call) Owned.initial lastEnded
    ProviderStep.reported ?_ calls).1
  intro lifecycle call owned
  have unreported : ∀ {marks : ProviderMarks}, marks.report = none → marks.report.map Prod.fst = none := by
    intro marks silent
    rw [silent]
    rfl
  cases (owned.turn call).passes with
  | same unchanged silent unbegun =>
    refine .inl ⟨unreported silent, ?_⟩
    unfold lastEnded
    rw [unchanged]
  | ends request pending freed unbegun reports =>
    have positive := owned.counted request pending
    unfold lastEnded
    rw [pending, freed]
    rcases reports with ⟨outcome, report⟩ | ⟨-, silent⟩
    · refine .inr ⟨request.requestId, ?_, ?_, rfl⟩
      · unfold ProviderStep.reported
        dsimp only [Runs.take]
        rw [report]
        rfl
      · dsimp only
        omega
    · refine .inl ⟨unreported silent, ?_⟩
      dsimp only
      omega
  | starts request last called available next pending begun silent =>
    refine .inl ⟨unreported silent, ?_⟩
    unfold lastEnded
    rw [available, pending]
    dsimp only
    omega

/-- A call that began the request, with the owner, command and time it has. -/
def BegunIn (past : List ProviderStep) (request : PendingTransport) : Prop :=
  ∃ here ∈ past, here.input = .beginTransportEffect request.owner request.command request.startedAt ∧
    here.begun = some request.requestId

private theorem pending_begun : ∀ request, (Runs.final step {} calls).transport = .pending request →
      BegunIn (Runs.history step {} calls) request := by
  refine (Runs.induction_on (P := fun past lifecycle => Owned lifecycle ∧
    ∀ request, lifecycle.transport = .pending request → BegunIn past request) ⟨.initial, nofun⟩ ?_ calls).2
  intro past lifecycle call ⟨owned, known⟩
  refine ⟨.step owned call, ?_⟩
  intro request pending
  have earlier : ∀ {request}, BegunIn past request →
      BegunIn (past ++ [Runs.take step lifecycle call]) request := by
    intro request ⟨here, member, made⟩
    exact ⟨here, List.mem_append_left _ member, made⟩
  cases (owned.turn call).passes with
  | same unchanged silent unbegun => exact earlier (known request (unchanged.symm.trans pending))
  | ends ended was freed unbegun reports => cases freed.symm.trans pending
  | starts started last called available next begins begun silent =>
    obtain rfl : started = request := by simpa using begins.symm.trans pending
    exact ⟨_, List.mem_append_right _ (List.mem_singleton_self _), called, begun⟩

/-- The attempts of a stretch are paid from the budget it found. -/
theorem Owned.stretch (owned : Owned lifecycle) (calls : List ProviderCall)
    (spent : ∀ here ∈ Runs.history MusicProviderLifecycle.step lifecycle calls, ¬ProviderStep.Renews here) :
    ((Runs.history MusicProviderLifecycle.step lifecycle calls).filterMap ProviderStep.attempt).length +
      lifecycle.connection.attempts = (Runs.final MusicProviderLifecycle.step lifecycle calls).connection.attempts := by
  induction calls generalizing lifecycle with
  | nil => exact Nat.zero_add _
  | cons call calls ih =>
    have later := ih (owned.step call) fun here member => spent here (List.mem_cons_of_mem _ member)
    have paid := (owned.turn call).budget (spent _ (List.mem_cons_self ..))
    have counted : ((Runs.history MusicProviderLifecycle.step lifecycle (call :: calls)).filterMap
        ProviderStep.attempt).length = (lifecycle.step call).2.marks.attempt.toList.length +
          ((Runs.history MusicProviderLifecycle.step (lifecycle.step call).1 calls).filterMap
            ProviderStep.attempt).length := by
      simp only [Runs.history, List.filterMap_cons, ProviderStep.attempt, Runs.take]
      cases (lifecycle.step call).2.marks.attempt with
      | none => simp
      | some id => simp [Nat.add_comm]
    rw [counted]
    show _ = (Runs.final MusicProviderLifecycle.step (lifecycle.step call).1 calls).connection.attempts
    omega

/-- A transport command belongs to a live owner and ends exactly once, in every run of the
provider's calls: whoever owns what is pending is alive, identities only grow, each end is
reported by the call that made it, late callbacks change nothing, and no stretch without a
success or a new session starts more than three attempts. -/
theorem transport_ends_once (calls : List ProviderCall) :
    (∀ request, (Runs.final step {} calls).transport = .pending request →
      (Runs.final step {} calls).providerSession.active = some request.owner.providerGeneration ∧
      (∀ providerGeneration connectionId, request.owner = .connection providerGeneration connectionId →
        (Runs.final step {} calls).connection.state = .connected connectionId) ∧
      BegunIn (Runs.history step {} calls) request) ∧
    (∀ providerGeneration named outcome requestId reported,
      ((Runs.final step {} calls).finishTransport providerGeneration named outcome).2 =
        .finished requestId reported → reported = outcome) ∧
    ((Runs.history step {} calls).filterMap ProviderStep.begun).Pairwise (· < ·) ∧
    ((Runs.history step {} calls).filterMap ProviderStep.attempt).Pairwise (· < ·) ∧
    ((Runs.history step {} calls).filterMap ProviderStep.session).Pairwise (· < ·) ∧
    ((Runs.history step {} calls).filterMap ProviderStep.reported).Nodup ∧
    (∀ here ∈ Runs.history step {} calls, ∀ requestId outcome,
      here.output.marks.report = some (requestId, outcome) →
        (∃ request, here.before.transport = .pending request ∧ request.requestId = requestId) ∧
        here.after.transport = .available requestId) ∧
    (∀ here ∈ Runs.history step {} calls, ∀ request, here.before.transport = .pending request →
      here.after.transport ≠ .pending request → here.input ≠ .beginProviderSession →
        ∃ outcome, here.output.marks.report = some (request.requestId, outcome)) ∧
    (∀ call : ProviderCall, call.stale (Runs.final step {} calls) →
      ((Runs.final step {} calls).step call).1.transport =
          (Runs.final step {} calls).transport ∧
        ((Runs.final step {} calls).step call).1.connection =
          (Runs.final step {} calls).connection) ∧
    (∀ providerGeneration now requestId outcome,
      ((Runs.final step {} calls).expireTransport providerGeneration now).2 =
        .finished requestId outcome → outcome = .timedOut ∧
          ∃ request, (Runs.final step {} calls).transport = .pending request ∧
            request.requestId = requestId ∧ request.startedAt + 10000 ≤ now) ∧
    (∀ skip ∈ (Runs.final step {} calls).observations.pendingSkips, skip.outcome = .pending →
      ∃ request, (Runs.final step {} calls).transport = .pending request ∧
        request.requestId = skip.transportId) ∧
    ∀ early stretch late, Runs.history step {} calls = early ++ (stretch ++ late) →
      (∀ here ∈ stretch, ¬ProviderStep.Renews here) → (stretch.filterMap ProviderStep.attempt).length ≤ 3 := by
  have owned := owned_final calls
  refine ⟨?_, ?_, requests_increase calls, attempts_increase calls, sessions_increase calls, ?_, ?_, ?_, owned.stale,
    ?_, ?_, ?_⟩
  · intro request pending
    refine ⟨owned.session request pending, ?_, pending_begun calls request pending⟩
    intro providerGeneration connectionId owner
    exact owned.connection_owner pending owner
  · intro providerGeneration named outcome requestId reported finished
    exact owned.finishTransport_outcome finished
  · exact (reports_increase calls).imp Nat.ne_of_lt
  · intro here member requestId outcome report
    cases (owned_before member).2.passes with
    | same _ silent | starts _ _ _ _ _ _ _ silent => cases silent.symm.trans report
    | ends request pending freed unbegun reports =>
      rcases reports with ⟨given, said⟩ | ⟨-, silent⟩
      · cases said.symm.trans report
        exact ⟨⟨request, pending, rfl⟩, freed⟩
      · cases silent.symm.trans report
  · intro here member request pending gone other
    cases (owned_before member).2.passes with
    | same unchanged silent unbegun => exact absurd (unchanged.trans pending) gone
    | ends ended was freed unbegun reports =>
      obtain rfl : ended = request := by simpa using was.symm.trans pending
      rcases reports with said | ⟨session, -⟩
      · exact said
      · exact absurd session other
    | starts started last called available next begins begun silent => cases available.symm.trans pending
  · intro providerGeneration now requestId outcome finished
    exact owned.toQueued.expireTransport_late finished
  · intro skip member outcome
    have waits : (skip.transportId, .pending) ∈
        (Runs.final step {} calls).observations.skips :=
      List.mem_map.mpr ⟨skip, member, by rw [outcome]⟩
    obtain ⟨request, pending, same, -⟩ := owned.waiting _ waits
    exact ⟨request, pending, same⟩
  · intro early stretch late split spent
    obtain ⟨first, rest, rfl, -, tail⟩ := Runs.history_cut split
    obtain ⟨middle, last, -, rfl, -⟩ := Runs.history_cut tail.symm
    have paid := (owned_final first).stretch middle spent
    have within := ((owned_final (first ++ middle)).bounded)
    rw [Runs.final_append] at within
    unfold maximumAttempts at within
    omega

example : (Runs.history step {} [.beginProviderSession, .beginConnectionAttempt 0,
    .connectionEstablished 1 5, .beginTransportEffect (.connection 1 1) .next 10, .connectionDisconnectedEffect 1 20,
    .finishTransport 1 1 .accepted]).filterMap ProviderStep.reported = [1] := by
  decide

end MusicProviderLifecycle

end Cutout.Music

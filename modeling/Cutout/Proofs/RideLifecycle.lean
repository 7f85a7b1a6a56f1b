import Cutout.RideLifecycle
import Cutout.Library.Runs

/-! When a ride session starts activities. An activity is started for a new ride or for
a replacement that waited for the old one to end; a waiting replacement survives the
explicit end of the ride it replaces. -/

namespace Cutout.Core
open Library

namespace RideSessionInput

def isExplicitEnd : RideSessionInput → Bool
  | userDisconnected | userStopped | appReset => true
  | _ => false

def isStart : RideSessionInput → Bool
  | start _ => true
  | _ => false

end RideSessionInput

namespace RideSessionLifecycle

/-- Nothing about the ride's place in the queue of activities moves. -/
structure Keeps (state : RideSessionLifecycle) (decision : RideSessionDecision) : Prop where
  identity : decision.1.identity = state.identity
  pending : decision.1.pendingIdentity = state.pendingIdentity
  live : (state.phase.isLive = true → state.identity ≠ none) → decision.1.phase.isLive = state.phase.isLive
  ending : ∀ reason, state.phase = .ending reason → state.identity ≠ none → decision.1.phase = .ending reason
  silent : ∀ identity, decision.2 ≠ .startActivity identity

/-- What a transition can do to the current and to the waiting ride. -/
inductive Moves (state : RideSessionLifecycle) : RideSessionInput → RideSessionDecision → Prop where
  | keeps {input decision} (kept : Keeps state decision) : Moves state input decision
  | begins (identity) (idle : state.identity = none ∨ state.phase.isLive = false) :
      Moves state (.start identity) (starting identity state.appPresence, .startActivity identity)
  | replaces (current identity) (known : state.identity = some current) (live : state.phase.isLive = true) :
      Moves state (.start identity) ({ state with
        phase := .ending .replacedByNewSession, pendingIdentity := some identity, activity := .ending },
        .endActivity current .replacedByNewSession)
  | succeeds (current waiting reason) (known : state.identity = some current) (phase : state.phase = .ending reason)
      (pending : state.pendingIdentity = some waiting) :
      Moves state (.activityEnded current) (starting waiting state.appPresence, .startActivity waiting)
  | ends (current reason) (known : state.identity = some current) (pending : state.pendingIdentity = none) :
      Moves state (.activityEnded current) ({ state with phase := .ended reason, activity := .ended }, .none)
  | finishes {input} (current reason) (known : state.identity = some current)
      (phase : ∀ earlier, state.phase ≠ .ending earlier) (live : state.phase.isLive = true) :
      Moves state input ({ state with phase := .ending reason, pendingIdentity := none, activity := .ending },
        .endActivity current reason)

variable {state : RideSessionLifecycle} {input : RideSessionInput}

section State
variable (state : RideSessionLifecycle)

theorem Keeps.refl : Keeps state (state, .none) :=
  ⟨rfl, rfl, fun _ => rfl, fun _ phase _ => phase, nofun⟩

theorem start_moves (identity : RideSessionIdentity) : Moves state (.start identity) (state.start identity) := by
  unfold start
  split
  · exact .keeps (.refl state)
  · split
    · next current found =>
      obtain ⟨known, live⟩ := Option.filter_eq_some_iff.mp found
      exact .replaces current identity known live
    · next absent =>
      apply Moves.begins
      cases known : state.identity with
      | none => exact .inl rfl
      | some current =>
        rw [known] at absent
        simpa using absent

theorem activityEnded_moves (identity : RideSessionIdentity) :
    Moves state (.activityEnded identity) (state.activityEnded identity) := by
  unfold activityEnded
  split
  · exact .keeps (.refl state)
  · next known =>
    have known := not_not.mp known
    split
    · next reason phase =>
      split
      · next waiting pending => exact .succeeds identity waiting reason known phase pending
      · next pending => exact .ends identity reason known pending
    · exact .keeps (.refl state)

theorem finish_moves (input : RideSessionInput) (reason : RideSessionEndReason) :
    Moves state input (state.finish reason) := by
  unfold finish
  split
  · next known =>
    refine .keeps ⟨rfl, rfl, ?_, fun _ _ absurd => absurd.elim known, nofun⟩
    intro owned
    cases live : state.phase.isLive with
    | false => rfl
    | true => exact absurd known (owned live)
  · next current known =>
    split
    · exact .keeps (.refl state)
    · next live =>
      have live : state.phase.isLive = true := by simpa using live
      split
      · split
        · exact .keeps ⟨rfl, rfl, fun _ => rfl, fun _ phase _ => phase, nofun⟩
        · exact .keeps (.refl state)
      · next other => exact .finishes current reason known other live

end State

/-- An update that accepts only open phases keeps the phase open. -/
theorem Keeps.updated {decision : RideSessionDecision} (accepts : state.phase.acceptsUpdates = true)
    (identity : decision.1.identity = state.identity) (pending : decision.1.pendingIdentity = state.pendingIdentity)
    (live : decision.1.phase.isLive = true) (silent : ∀ identity, decision.2 ≠ .startActivity identity) :
    Keeps state decision := by
  refine ⟨identity, pending, ?_, ?_, silent⟩
  · intro
    rw [live]
    cases phase : state.phase <;> simp_all [RideSessionPhase.isLive, RideSessionPhase.acceptsUpdates]
  · intro reason phase
    rw [phase] at accepts
    cases accepts

theorem transition_moves (state : RideSessionLifecycle) (input : RideSessionInput) :
    Moves state input (state.transition input) := by
  cases input with
  | start identity => exact start_moves state identity
  | activityEnded identity => exact activityEnded_moves state identity
  | userDisconnected | userStopped | reconnectExhausted | appReset | unrecoverableSessionFailure =>
    exact finish_moves state _ _
  | activityStarted identity activityId =>
    rw [transition, activityStarted]
    split
    · exact .keeps (.refl state)
    · next open_ =>
      have accepts : state.phase.acceptsUpdates = true := by
        simp only [not_or, Bool.not_eq_false] at open_
        exact open_.2.2
      refine .keeps (.updated accepts rfl rfl ?_ nofun)
      cases phase : state.phase <;> simp_all [RideSessionPhase.isLive, RideSessionPhase.acceptsUpdates]
  | activityUnavailable identity =>
    rw [transition, activityUnavailable]
    split
    · exact .keeps (.refl state)
    · exact .keeps ⟨rfl, rfl, fun _ => rfl, fun _ phase _ => phase, nofun⟩
  | appBackgrounded =>
    rw [transition, appBackgrounded]
    split
    · exact .keeps (.refl state)
    · refine .keeps ⟨rfl, rfl, fun _ => rfl, fun _ phase _ => phase, ?_⟩
      intro identity
      split <;> exact nofun
  | appForegrounded =>
    rw [transition, appForegrounded]
    split
    · exact .keeps (.refl state)
    · exact .keeps ⟨rfl, rfl, fun _ => rfl, fun _ phase _ => phase, nofun⟩
  | bluetoothConnected =>
    rw [transition, bluetoothConnected]
    split
    · next phase => exact .keeps (.updated (by rw [phase]; rfl) rfl rfl rfl nofun)
    · next phase => exact .keeps (.updated (by rw [phase]; rfl) rfl rfl rfl nofun)
    · exact .keeps (.refl state)
  | bluetoothDisconnected at_ =>
    rw [transition, bluetoothDisconnected]
    split
    · exact .keeps (.refl state)
    · split
      · exact .keeps (.refl state)
      · next accepts =>
        have accepts : state.phase.acceptsUpdates = true := by simpa using accepts
        dsimp only
        split <;> exact .keeps (.updated accepts rfl rfl rfl nofun)
  | telemetryObserved at_ =>
    rw [transition, telemetryObserved]
    split
    · exact .keeps (.refl state)
    · split
      · exact .keeps (.refl state)
      · next accepts =>
        have accepts : state.phase.acceptsUpdates = true := by simpa using accepts
        split <;> exact .keeps (.updated accepts rfl rfl rfl nofun)
  | freshnessChecked now =>
    rw [transition, freshnessChecked]
    split
    · split
      · exact .keeps (.refl state)
      · next fresh =>
        have accepts : state.phase.acceptsUpdates = true := by
          simp only [not_or, Bool.not_eq_false] at fresh
          exact fresh.1
        split <;> exact .keeps (.updated accepts rfl rfl rfl nofun)
    · exact .keeps (.refl state)

/-- A live session has an identity, and a replacement waits only for a replaced ride to end. -/
structure Settled (state : RideSessionLifecycle) : Prop where
  owned : state.phase.isLive = true → state.identity ≠ none
  waiting : state.pendingIdentity ≠ none → state.phase = .ending .replacedByNewSession

theorem Settled.starting (identity : RideSessionIdentity) (presence : RideSessionAppPresence) :
    Settled (starting identity presence) := ⟨nofun, fun waits => absurd rfl waits⟩

theorem Settled.step (settled : Settled state) (input : RideSessionInput) : Settled (state.transition input).1 := by
  generalize moved : state.transition input = decision
  have moves := moved ▸ transition_moves state input
  cases moves with
  | keeps kept =>
    constructor
    · intro live
      rw [kept.identity]
      exact settled.owned (kept.live settled.owned ▸ live)
    · intro waits
      rw [kept.pending] at waits
      have phase := settled.waiting waits
      exact kept.ending _ phase (settled.owned (by rw [phase]; rfl))
  | begins identity => exact .starting identity _
  | succeeds current waiting => exact .starting waiting _
  | replaces current identity known =>
    constructor
    · intro _ absent
      cases known.symm.trans absent
    · intro
      rfl
  | ends current reason known pending => exact ⟨nofun, fun waits => absurd pending waits⟩
  | finishes current reason known =>
    constructor
    · intro _ absent
      cases known.symm.trans absent
    · intro waits
      exact absurd rfl waits

/-- Where a session's history begins: with nothing, or with a marked ride. -/
inductive Origin : RideSessionDecision → Prop where
  | default : Origin ({}, .none)
  | recovered (marker restored presence) : Origin (recover marker restored presence)

theorem Origin.settled {decision : RideSessionDecision} (origin : Origin decision) : Settled decision.1 := by
  cases origin with
  | default => exact ⟨nofun, fun waits => absurd rfl waits⟩
  | recovered marker restored presence =>
    rw [recover]
    split
    · exact .starting _ _
    · exact ⟨nofun, fun waits => absurd rfl waits⟩

abbrev run (state : RideSessionLifecycle) (inputs : List RideSessionInput) : RideSessionLifecycle :=
  Runs.final transition state inputs

theorem Settled.run (settled : Settled state) (inputs : List RideSessionInput) : Settled (state.run inputs) :=
  Runs.invariant (fun _ input kept => kept.step input) settled inputs

/-- No activity starts behind this state before a new ride is started. -/
def Quiet (state : RideSessionLifecycle) : Prop :=
  ∀ later next, (∀ input ∈ later ++ [next], input.isStart = false) →
    ∀ identity, ((state.run later).transition next).2 ≠ .startActivity identity

theorem pending_none_step (none : state.pendingIdentity = none) (other : input.isStart = false) :
    (state.transition input).1.pendingIdentity = .none ∧ ∀ identity, (state.transition input).2 ≠ .startActivity identity := by
  generalize moved : state.transition input = decision
  have moves := moved ▸ transition_moves state input
  cases moves with
  | keeps kept => exact ⟨kept.pending.trans none, kept.silent⟩
  | begins | replaces => cases other
  | succeeds current waiting reason known phase pending => cases none.symm.trans pending
  | ends current reason known pending => exact ⟨pending, nofun⟩
  | finishes => exact ⟨rfl, nofun⟩

theorem quiet_of_pending_none (none : state.pendingIdentity = none) : Quiet state := by
  intro later
  induction later generalizing state with
  | nil =>
    intro next others
    exact (pending_none_step none (others next (by simp))).2
  | cons input later ih =>
    intro next others
    have first := (pending_none_step none (others input (by simp))).1
    exact ih first next fun other member => others other (List.mem_cons_of_mem _ member)

section Settled
variable (settled : Settled state) (waits : state.pendingIdentity ≠ none)
include settled waits

theorem finish_while_waiting {reason : RideSessionEndReason} (other : reason ≠ .replacedByNewSession) :
    state.finish reason = (state, .none) := by
  have phase := settled.waiting waits
  have live : state.phase.isLive = true := by rw [phase]; rfl
  obtain ⟨current, known⟩ := Option.ne_none_iff_exists'.mp (settled.owned live)
  simp only [finish, known, phase, RideSessionPhase.isLive, Bool.true_eq_false, if_false]
  rw [if_neg fun same => other same.1.symm]

theorem transition_while_waiting (ends : input.isExplicitEnd = true) : state.transition input = (state, .none) := by
  cases input with
  | userDisconnected | userStopped | appReset => exact finish_while_waiting settled waits nofun
  | _ => cases ends

theorem waiting_is_not_quiet : ¬ Quiet state := by
  intro quiet
  obtain ⟨waiting, pending⟩ := Option.ne_none_iff_exists'.mp waits
  have phase := settled.waiting waits
  obtain ⟨current, known⟩ := Option.ne_none_iff_exists'.mp (settled.owned (by rw [phase]; rfl))
  have silent := quiet [] (.activityEnded current) (by simp [RideSessionInput.isStart]) waiting
  apply silent
  simp [run, Runs.final, transition, activityEnded, known, phase, pending]

end Settled

theorem explicit_end_quiet_iff (settled : Settled state) (ends : input.isExplicitEnd = true) :
    Quiet (state.transition input).1 ↔ state.pendingIdentity = none := by
  constructor
  · intro quiet
    by_contra waits
    rw [transition_while_waiting settled waits ends] at quiet
    exact waiting_is_not_quiet settled waits quiet
  · intro none
    have other : input.isStart = false := by cases input <;> first | rfl | cases ends
    exact quiet_of_pending_none (pending_none_step none other).1

theorem explicit_end_silent (ends : input.isExplicitEnd = true) (identity : RideSessionIdentity) :
    (state.transition input).2 ≠ .startActivity identity := by
  generalize moved : state.transition input = decision
  have moves := moved ▸ transition_moves state input
  cases moves with
  | keeps kept => exact kept.silent identity
  | begins | replaces | succeeds | ends => cases ends
  | finishes => nofun

/-- A started activity stays the current one until its end is announced. -/
theorem started_step {identity : RideSessionIdentity} (known : state.identity = some identity)
    (live : state.phase.isLive = true) (input : RideSessionInput) : input = .activityEnded identity ∨
      (state.transition input).1.identity = some identity ∧ (state.transition input).1.phase.isLive = true ∧
        ∀ other, (state.transition input).2 ≠ .startActivity other := by
  generalize moved : state.transition input = decision
  have moves := moved ▸ transition_moves state input
  cases moves with
  | keeps kept =>
    have owned : state.identity ≠ none := by
      rw [known]
      nofun
    exact .inr ⟨kept.identity.trans known, (kept.live fun _ => owned).trans live, kept.silent⟩
  | begins _ idle =>
    rcases idle with absent | dead
    · cases known.symm.trans absent
    · cases live.symm.trans dead
  | replaces => exact .inr ⟨known, rfl, nofun⟩
  | succeeds current _ _ owner | ends current _ owner =>
    cases known.symm.trans owner
    exact .inl rfl
  | finishes => exact .inr ⟨known, rfl, nofun⟩

theorem started_until_ended {identity other : RideSessionIdentity} (known : state.identity = some identity)
    (live : state.phase.isLive = true) (middle : List RideSessionInput) (next : RideSessionInput)
    (starts : ((state.run middle).transition next).2 = .startActivity other) :
    .activityEnded identity ∈ middle ++ [next] := by
  induction middle generalizing state with
  | nil =>
    rcases started_step known live next with ended | ⟨-, -, silent⟩
    · simp [ended]
    · exact absurd starts (silent other)
  | cons input middle ih =>
    rcases started_step known live input with ended | ⟨kept, alive, -⟩
    · simp [ended]
    · exact List.mem_cons_of_mem _ (ih kept alive starts)

theorem startActivity_current {identity : RideSessionIdentity}
    (starts : (state.transition input).2 = .startActivity identity) :
    (state.transition input).1.identity = some identity ∧ (state.transition input).1.phase.isLive = true := by
  generalize moved : state.transition input = decision at starts
  have moves := moved ▸ transition_moves state input
  cases moves with
  | keeps kept => exact absurd starts (kept.silent identity)
  | begins | succeeds =>
    cases starts
    exact ⟨rfl, rfl⟩
  | replaces | ends | finishes => cases starts

theorem Origin.startActivity_current {decision : RideSessionDecision} (origin : Origin decision)
    {identity : RideSessionIdentity} (starts : decision.2 = .startActivity identity) :
    decision.1.identity = some identity ∧ decision.1.phase.isLive = true := by
  cases origin with
  | default => cases starts
  | recovered marker restored presence =>
    rw [recover] at starts ⊢
    split at starts
    · next same =>
      cases starts
      rw [if_pos same]
      exact ⟨rfl, rfl⟩
    · cases starts

/-- An explicit end is final exactly when no replacement was waiting for the ride it ends. In every
session an activity is started only behind the announced end of the one before, and the platform's
callbacks for another identity change nothing. -/
theorem explicit_end_final_iff_no_replacement {decision : RideSessionDecision} (origin : Origin decision)
    (inputs : List RideSessionInput) :
    (∀ input, input.isExplicitEnd = true →
      (Quiet ((decision.1.run inputs).transition input).1 ↔ (decision.1.run inputs).pendingIdentity = none) ∧
      ∀ identity, ((decision.1.run inputs).transition input).2 ≠ .startActivity identity) ∧
    (∀ next started other, decision.2 = .startActivity started →
      ((decision.1.run inputs).transition next).2 = .startActivity other →
      .activityEnded started ∈ inputs ++ [next]) ∧
    (∀ input middle next started other, ((decision.1.run inputs).transition input).2 = .startActivity started →
      ((decision.1.run (inputs ++ input :: middle)).transition next).2 = .startActivity other →
      .activityEnded started ∈ middle ++ [next]) ∧
    ∀ identity, (decision.1.run inputs).identity ≠ some identity →
      (∀ activityId, (decision.1.run inputs).transition (.activityStarted identity activityId) =
        (decision.1.run inputs, .none)) ∧
      (decision.1.run inputs).transition (.activityEnded identity) = (decision.1.run inputs, .none) ∧
      (decision.1.run inputs).transition (.activityUnavailable identity) = (decision.1.run inputs, .none) := by
  have settled := origin.settled.run inputs
  refine ⟨?_, ?_, ?_, ?_⟩
  · intro input ends
    exact ⟨explicit_end_quiet_iff settled ends, explicit_end_silent ends⟩
  · intro next started other first second
    obtain ⟨known, live⟩ := origin.startActivity_current first
    exact started_until_ended known live inputs next second
  · intro input middle next started other first second
    obtain ⟨known, live⟩ := startActivity_current first
    rw [run, Runs.final_append] at second
    exact started_until_ended known live middle next second
  · intro identity foreign
    refine ⟨?_, ?_, ?_⟩
    · intro activityId
      exact if_pos (.inl foreign)
    · exact if_pos foreign
    · exact if_pos (.inl foreign)

theorem stopped_ride_stays_quiet :
    (({} : RideSessionLifecycle).run [.start ⟨"wheel", 1⟩, .activityStarted ⟨"wheel", 1⟩ "activity"]).phase = .active ∧
      Quiet ((({} : RideSessionLifecycle).run
        [.start ⟨"wheel", 1⟩, .activityStarted ⟨"wheel", 1⟩ "activity"]).transition .userStopped).1 := by
  refine ⟨by decide, ?_⟩
  have final := (explicit_end_final_iff_no_replacement .default
    [.start ⟨"wheel", 1⟩, .activityStarted ⟨"wheel", 1⟩ "activity"]).1 .userStopped rfl
  exact final.1.mpr (by decide)

/-- A ride stopped while its replacement waits: the replacement starts all the same. -/
theorem stopped_replacement_still_starts :
    let first : RideSessionIdentity := ⟨"wheel", 1⟩
    let second : RideSessionIdentity := ⟨"wheel", 2⟩
    let stopped := ((({} : RideSessionLifecycle).run [.start first, .start second]).transition .userStopped).1
    RideSessionInput.isExplicitEnd .userStopped = true ∧ RideSessionInput.isStart (.activityEnded first) = false ∧
      (stopped.transition (.activityEnded first)).2 = .startActivity second := by
  decide

end RideSessionLifecycle

end Cutout.Core

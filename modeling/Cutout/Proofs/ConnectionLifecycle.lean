import Cutout.ConnectionLifecycle
import Cutout.Library.Runs

/-! What a call can do to a connection attempt, and what follows for whole sequences of
calls: which attempt is current, when it may be verified, and which retries are
admitted. -/

namespace Cutout.Core
open Library

namespace ConnectionAttemptLifecycle
variable {calls : List ConnectionCall}

/-- The reply of a call that scheduled a retry, admitted one, or accepted something. -/
def quiet : ConnectionReply → Bool
  | .retry (.scheduled _) | .admitted (some _) | .accepted true => false
  | _ => true

/-- The calls that replace or end the attempt whatever the state is. -/
def opens : ConnectionCall → Bool
  | .start _ _ | .disconnect => true
  | _ => false

inductive Moves (state : ConnectionAttemptLifecycle) :
    ConnectionCall → ConnectionAttemptLifecycle × ConnectionReply → Prop where
  | stays {call reply} (silent : quiet reply = true) (closed : opens call = false) : Moves state call (state, reply)
  | begins (platform at_) :
      Moves state (.start platform at_) ((state.start platform at_).map id .begun)
  | admits (retry at_) (pending : state.pendingRetry = some retry) (due : retry.deadline ≤ at_) :
      Moves state (.admitRetry retry.token at_)
        ((beginAttempt { state with pendingRetry := none, failedAttempt := none } retry.platformIdentifier at_).map
          id (.admitted ∘ some))
  | schedules (failed at_ jitter retry snapshot) (free : state.pendingRetry = none)
      (bounded : state.retryScope = .initialIdentification → state.retryAttempt < 3)
      (current : state.snapshot.token = some failed → snapshot = { state.snapshot with
        revision := wrappingNext state.snapshot.revision
        readiness := .failed
        transport := .disconnected
        deadline := none })
      (retired : state.snapshot.token ≠ some failed → state.failedAttempt = some failed ∧ snapshot = state.snapshot) :
      Moves state (.requestRetry failed at_ jitter) ({ state with
        snapshot
        failedAttempt := some failed
        retryAttempt := min (state.retryAttempt + 1) 255
        retryToken := wrappingNext state.retryToken
        pendingRetry := some retry }, .retry (.scheduled retry))
  | exhausts (failed at_ jitter snapshot) (scope : state.retryScope = .initialIdentification)
      (current : state.snapshot.token = some failed → snapshot = {
        generation := wrappingNext state.snapshot.generation
        revision := wrappingNext state.snapshot.revision
        token := none
        readiness := .failed
        transport := .disconnected
        deadline := none })
      (retired : state.snapshot.token ≠ some failed → state.failedAttempt = some failed ∧ snapshot = state.snapshot) :
      Moves state (.requestRetry failed at_ jitter) ({ state with
        snapshot
        failedAttempt := some failed
        retryAttempt := min (state.retryAttempt + 1) 255 },
        .retry (.exhausted (min (state.retryAttempt + 1) 255)))
  | cancels (retry) (pending : state.pendingRetry = some retry) :
      Moves state (.cancelRetry retry.token)
        ({ state with pendingRetry := none, retryAttempt := 0, failedAttempt := none }, .accepted true)
  | verifies (token) (current : state.snapshot.token = some token) (waits : state.snapshot.readiness = .pending)
      (link : state.snapshot.transport = .connected) :
      Moves state (.finishDetection token true) ({ state with
        snapshot := { state.snapshot with
          readiness := .verified
          deadline := none
          revision := wrappingNext state.snapshot.revision }
        retryScope := .establishedConnection
        retryAttempt := 0
        failedAttempt := none
        pendingRetry := none }, .accepted true)
  | records {call} (token transport revision) (current : state.snapshot.token = some token)
      (waits : state.snapshot.readiness = .pending) (speaks : call.attempt = some token)
      (link : transport = state.snapshot.transport ∨ transport = .disconnected)
      (revised : revision = wrappingNext state.snapshot.revision ∨
        revision = wrappingNext (wrappingNext state.snapshot.revision))
      (unverified : call ≠ .finishDetection token true) :
      Moves state call ({ state with snapshot := { state.snapshot with
        transport, revision, readiness := .recordOnly, deadline := none } }, .accepted true)
  | disconnects : Moves state .disconnect (state.disconnect, .done)
  | connects (token) (current : state.snapshot.token = some token) (link : state.snapshot.transport = .connecting) :
      Moves state (.connected token) ({ state with snapshot := { state.snapshot with
        transport := .connected, revision := wrappingNext state.snapshot.revision } }, .accepted true)
  | drops (token) (current : state.snapshot.token = some token)
      (open_ : state.snapshot.readiness ≠ .pending ∧ state.snapshot.readiness ≠ .verified) :
      Moves state (.linkDown token) ({ state with snapshot := { state.snapshot with
        transport := .disconnected, revision := wrappingNext state.snapshot.revision } }, .accepted true)
  | fails {call} (token revision) (current : state.snapshot.token = some token)
      (verified : state.snapshot.readiness = .verified) (speaks : call.attempt = some token)
      (revised : revision = wrappingNext state.snapshot.revision ∨
        revision = wrappingNext (wrappingNext state.snapshot.revision))
      (unverified : call ≠ .finishDetection token true) :
      Moves state call ({ state with
        snapshot := { generation := wrappingNext state.snapshot.generation, revision, readiness := .failed }
        retryScope := .establishedConnection
        retryAttempt := 0
        failedAttempt := some token
        pendingRetry := none }, .accepted true)
  | conflicts (token) (current : state.snapshot.token = some token) (verified : state.snapshot.readiness = .verified) :
      Moves state (.conflict token) ({ state with snapshot := {
        generation := wrappingNext state.snapshot.generation
        revision := wrappingNext state.snapshot.revision
        readiness := .conflicted } }, .accepted true)

variable {state : ConnectionAttemptLifecycle} {token : ConnectionAttemptToken}

theorem isCurrent_iff : state.isCurrent token = true ↔ state.snapshot.token = some token := decide_eq_true_iff

theorem isCurrent_false_iff : state.isCurrent token = false ↔ state.snapshot.token ≠ some token := decide_eq_false_iff_not

private theorem requestRetry_moves (state : ConnectionAttemptLifecycle) (failed : ConnectionAttemptToken) (at_ jitter : Nat) :
    Moves state (.requestRetry failed at_ jitter) ((state.requestRetry failed at_ jitter).map id .retry) := by
  unfold requestRetry
  split
  · exact .stays rfl rfl
  · next free =>
    have free : state.pendingRetry = none := by simpa using free
    split
    · exact .stays rfl rfl
    · next owner =>
      have owner : state.snapshot.token ≠ some failed → state.failedAttempt = some failed := by
        intro other
        by_contra missing
        exact owner ⟨by rw [isCurrent_false_iff.mpr other]; rfl, missing⟩
      dsimp only
      split
      · next exhausted =>
        refine .exhausts failed at_ jitter _ exhausted.2 ?_ ?_
        · intro current
          rw [if_pos (isCurrent_iff.mpr current)]
        · intro other
          refine ⟨owner other, ?_⟩
          rw [isCurrent_false_iff.mpr other]
          rfl
      · next budget =>
        refine .schedules failed at_ jitter _ _ free ?_ ?_ ?_
        · intro scope
          have := mt (And.intro · scope) budget
          omega
        · intro current
          rw [if_pos (isCurrent_iff.mpr current)]
        · intro other
          refine ⟨owner other, ?_⟩
          rw [isCurrent_false_iff.mpr other]
          rfl

private theorem admitRetry_moves (state : ConnectionAttemptLifecycle) (retry at_ : Nat) :
    Moves state (.admitRetry retry at_) ((state.admitRetry retry at_).map id .admitted) := by
  unfold admitRetry
  split
  · exact .stays rfl rfl
  · next pending =>
    split
    · exact .stays rfl rfl
    · next due =>
      simp only [not_or, not_not, Nat.not_lt] at due
      rw [← due.1]
      exact .admits _ at_ pending due.2

private theorem cancelRetry_moves (state : ConnectionAttemptLifecycle) (retry : Nat) :
    Moves state (.cancelRetry retry) ((state.cancelRetry retry).map id .accepted) := by
  unfold cancelRetry
  split
  · exact .stays rfl rfl
  · next matching =>
    obtain ⟨pending, known, rfl⟩ := Option.map_eq_some_iff.mp (not_not.mp matching)
    exact .cancels pending known

theorem finishDetection_false (waits : state.snapshot.readiness = .pending)
    (current : state.snapshot.token = some token) : state.finishDetection token false =
      ({ state with snapshot := { state.snapshot with
        readiness := .recordOnly, deadline := none, revision := wrappingNext state.snapshot.revision } }, true) := by
  simp [finishDetection, isCurrent_iff.mpr current, waits]

section State
variable (state : ConnectionAttemptLifecycle) (token : ConnectionAttemptToken)

private theorem finishDetection_moves (verified : Bool) :
    Moves state (.finishDetection token verified) ((state.finishDetection token verified).map id .accepted) := by
  by_cases ready : state.isCurrent token = false ∨ state.snapshot.readiness ≠ .pending
  · rw [finishDetection, if_pos ready]
    exact .stays rfl rfl
  · have current : state.snapshot.token = some token := by
      rw [not_or, Bool.not_eq_false] at ready
      exact isCurrent_iff.mp ready.1
    have waits : state.snapshot.readiness = .pending := not_not.mp (not_or.mp ready).2
    cases verified with
    | false =>
      rw [finishDetection_false waits current]
      exact .records token _ _ current waits rfl (.inl rfl) (.inl rfl) nofun
    | true =>
      rw [finishDetection, if_neg ready]
      split
      · exact .stays rfl rfl
      · next link => exact .verifies token current waits (not_not.mp fun other => link ⟨rfl, other⟩)

private theorem transportFailed_moves :
    Moves state (.transportFailed token) ((state.transportFailed token).map id .accepted) := by
  unfold transportFailed
  split
  · exact .stays rfl rfl
  · next current =>
    have current := isCurrent_iff.mp (Bool.not_eq_false _ ▸ current)
    split
    · next waits =>
      rw [finishDetection_false waits current]
      exact .records token _ _ current waits rfl (.inl rfl) (.inl rfl) nofun
    · split
      · next verified => exact .fails token _ current verified rfl (.inl rfl) nofun
      · exact .stays rfl rfl

private theorem linkDown_moves : Moves state (.linkDown token) ((state.linkDown token).map id .accepted) := by
  unfold linkDown
  split
  · exact .stays rfl rfl
  · next current =>
    have current := isCurrent_iff.mp (Bool.not_eq_false _ ▸ current)
    dsimp only
    unfold transportFailed
    rw [if_neg (by rw [Bool.not_eq_false]; exact isCurrent_iff.mpr current)]
    split
    · next waits =>
      rw [finishDetection_false waits current]
      exact .records token .disconnected _ current waits rfl (.inr rfl) (.inr rfl) nofun
    · next unsettled =>
      split
      · next verified => exact .fails token _ current verified rfl (.inr rfl) nofun
      · next unverified => exact .drops token current ⟨unsettled, unverified⟩

end State

theorem step_moves (state : ConnectionAttemptLifecycle) (call : ConnectionCall) : Moves state call (state.step call) := by
  cases call with
  | start platform at_ => exact .begins platform at_
  | requestRetry failed at_ jitter => exact requestRetry_moves state failed at_ jitter
  | admitRetry retry at_ => exact admitRetry_moves state retry at_
  | cancelRetry retry => exact cancelRetry_moves state retry
  | finishDetection token verified => exact finishDetection_moves state token verified
  | transportFailed token => exact transportFailed_moves state token
  | linkDown token => exact linkDown_moves state token
  | disconnect => exact .disconnects
  | expire token at_ =>
    rw [step, expire]
    split
    · exact .stays rfl rfl
    · by_cases ready : state.snapshot.token = some token ∧ state.snapshot.readiness = .pending
      · rw [finishDetection_false ready.2 ready.1]
        exact .records token _ _ ready.1 ready.2 rfl (.inl rfl) (.inl rfl) nofun
      · rw [finishDetection, if_pos]
        · exact .stays rfl rfl
        · rw [isCurrent_false_iff]
          exact not_and_or.mp ready
  | connected token =>
    rw [step, connected]
    split
    · exact .stays rfl rfl
    · next ready =>
      rw [not_or, Bool.not_eq_false, not_not] at ready
      exact .connects token (isCurrent_iff.mp ready.1) ready.2
  | conflict token =>
    rw [step, conflict]
    split
    · exact .stays rfl rfl
    · next ready =>
      rw [not_or, Bool.not_eq_false, not_not] at ready
      exact .conflicts token (isCurrent_iff.mp ready.1) ready.2

structure Sound (state : ConnectionAttemptLifecycle) : Prop where
  token : ∀ token, state.snapshot.token = some token → token.generation = state.snapshot.generation
  verified : state.snapshot.readiness = .verified → state.snapshot.token ≠ none ∧
    state.snapshot.transport = .connected ∧ state.pendingRetry = none
  established : state.snapshot.readiness = .verified →
    state.failedAttempt = none ∧ state.retryScope = .establishedConnection
  deadline : state.snapshot.deadline ≠ none ↔ state.snapshot.readiness = .pending
  retry : state.pendingRetry ≠ none → state.snapshot.transport = .disconnected
  failed : ∀ failed, state.failedAttempt = some failed →
    state.snapshot.token = none ∨ state.snapshot.token = some failed
  idle : state.snapshot.token = none → state.snapshot.transport = .disconnected

theorem wrappingNext_ne (counter : Nat) : wrappingNext counter ≠ counter := by
  unfold wrappingNext
  omega

private theorem wrappingNext_twice_ne (counter : Nat) : wrappingNext (wrappingNext counter) ≠ counter := by
  unfold wrappingNext
  omega

theorem Sound.initial : Sound {} := by
  constructor <;> simp

theorem Sound.beginAttempt (state : ConnectionAttemptLifecycle) (none : state.pendingRetry = none)
    (failed : state.failedAttempt = .none) (platform : String) (at_ : Nat) :
    Sound (state.beginAttempt platform at_).1 := by
  constructor <;> simp_all [ConnectionAttemptLifecycle.beginAttempt]

theorem Sound.step (sound : Sound state) (call : ConnectionCall) : Sound (state.step call).1 := by
  generalize moved : state.step call = result
  have moves := moved ▸ step_moves state call
  cases moves with
  | stays => exact sound
  | begins platform at_ => exact .beginAttempt _ rfl rfl platform at_
  | admits retry at_ => exact .beginAttempt _ rfl rfl retry.platformIdentifier at_
  | schedules failed at_ jitter retry snapshot free bounded current retired =>
    by_cases known : state.snapshot.token = some failed
    · cases current known
      constructor <;> simp_all [sound.token]
    · obtain ⟨owner, rfl⟩ := retired known
      have idle : state.snapshot.token = none := (sound.failed failed owner).resolve_right known
      have unverified : state.snapshot.readiness ≠ .verified := fun verified => (sound.verified verified).1 idle
      refine ⟨sound.token, ?_, ?_, sound.deadline, fun _ => sound.idle idle, fun _ _ => .inl idle, sound.idle⟩
      · exact fun verified => absurd verified unverified
      · exact fun verified => absurd verified unverified
  | exhausts failed at_ jitter snapshot scope current retired =>
    by_cases known : state.snapshot.token = some failed
    · cases current known
      constructor <;> simp
    · obtain ⟨owner, rfl⟩ := retired known
      have idle : state.snapshot.token = none := (sound.failed failed owner).resolve_right known
      have unverified : state.snapshot.readiness ≠ .verified := fun verified => (sound.verified verified).1 idle
      refine ⟨sound.token, sound.verified, ?_, sound.deadline, sound.retry, fun _ _ => .inl idle, sound.idle⟩
      exact fun verified => absurd verified unverified
  | cancels retry pending =>
    refine ⟨sound.token, ?_, ?_, sound.deadline, ?_, nofun, sound.idle⟩
    · intro verified
      exact ⟨(sound.verified verified).1, (sound.verified verified).2.1, rfl⟩
    · intro verified
      exact ⟨rfl, (sound.established verified).2⟩
    · intro absent
      exact absurd rfl absent
  | verifies token current waits link =>
    constructor <;> simp_all [sound.token]
  | records token transport revision current waits speaks link revised =>
    refine ⟨sound.token, nofun, nofun, ?_, ?_, sound.failed, ?_⟩
    · simp
    · intro pending
      rcases link with rfl | rfl
      · exact sound.retry pending
      · rfl
    · intro absent
      cases current.symm.trans absent
  | disconnects => constructor <;> simp [disconnect]
  | connects token current link =>
    refine ⟨sound.token, ?_, sound.established, sound.deadline, ?_, sound.failed, ?_⟩
    · intro verified
      exact ⟨(sound.verified verified).1, rfl, (sound.verified verified).2.2⟩
    · intro pending
      cases link.symm.trans (sound.retry pending)
    · intro absent
      cases current.symm.trans absent
  | drops token current open_ =>
    refine ⟨sound.token, ?_, sound.established, sound.deadline, fun _ => rfl, sound.failed, fun _ => rfl⟩
    exact fun verified => absurd verified open_.2
  | fails token revision current verified speaks revised =>
    exact ⟨nofun, nofun, nofun, by simp, fun _ => rfl, fun _ _ => .inl rfl, fun _ => rfl⟩
  | conflicts token current verified =>
    have idle := sound.established verified
    constructor <;> simp_all

abbrev run (state : ConnectionAttemptLifecycle) (calls : List ConnectionCall) : ConnectionAttemptLifecycle :=
  Runs.final step state calls

theorem run_append (state : ConnectionAttemptLifecycle) (first second : List ConnectionCall) :
    state.run (first ++ second) = (state.run first).run second := Runs.final_append step state first second

theorem Sound.run (sound : Sound state) (calls : List ConnectionCall) : Sound (state.run calls) :=
  Runs.invariant (fun _ call kept => kept.step call) sound calls

/-- A call that speaks for another attempt than the current one, and does not ask for the retry
of the failed attempt, changes nothing. -/
theorem foreign_call_changes_nothing {call : ConnectionCall} (speaks : call.attempt = some token)
    (foreign : state.snapshot.token ≠ some token)
    (other : (∃ at_ jitter, call = .requestRetry token at_ jitter) → state.failedAttempt ≠ some token) :
    (state.step call).1 = state := by
  generalize moved : state.step call = result
  have moves := moved ▸ step_moves state call
  cases moves with
  | stays => rfl
  | begins | admits | cancels | disconnects => cases speaks
  | schedules failed at_ jitter _ _ _ _ _ retired | exhausts failed at_ jitter _ _ _ retired =>
    cases speaks
    exact absurd (retired foreign).1 (other ⟨at_, jitter, rfl⟩)
  | verifies owner current | connects owner current | drops owner current | conflicts owner current =>
    cases speaks
    exact absurd current foreign
  | records _ _ _ current _ named | fails _ _ current _ named =>
    cases speaks.symm.trans named
    exact absurd current foreign

section State
variable (state : ConnectionAttemptLifecycle) (call : ConnectionCall)

private theorem revision_changes (changed : (state.step call).1.snapshot ≠ state.snapshot) :
    (state.step call).1.snapshot.revision ≠ state.snapshot.revision := by
  have once := wrappingNext_ne state.snapshot.revision
  have twice := wrappingNext_twice_ne state.snapshot.revision
  generalize moved : state.step call = result at changed ⊢
  have moves := moved ▸ step_moves state call
  cases moves with
  | stays | cancels => exact absurd rfl changed
  | begins | admits | verifies | disconnects | connects | drops | conflicts => exact once
  | schedules failed _ _ _ _ _ _ current retired | exhausts failed _ _ _ _ current retired =>
    by_cases known : state.snapshot.token = some failed
    · rw [current known]
      exact once
    · exact absurd (retired known).2 changed
  | records _ _ _ _ _ _ _ revised | fails _ _ _ _ _ revised =>
    rcases revised with rfl | rfl
    · exact once
    · exact twice

abbrev ConnectionStep := Step ConnectionAttemptLifecycle ConnectionCall ConnectionReply

def generations (history : List ConnectionStep) : Nat :=
  history.countP fun step => decide (step.after.snapshot.generation ≠ step.before.snapshot.generation)

/-- Within a generation the token stays, and an attempt that left identification does not return to it. -/
theorem step_generation : (state.step call).1.snapshot.generation = wrappingNext state.snapshot.generation ∨
    (state.step call).1.snapshot.generation = state.snapshot.generation ∧
      (state.step call).1.snapshot.token = state.snapshot.token ∧
      ((state.step call).1.snapshot.readiness = .pending → state.snapshot.readiness = .pending) := by
  generalize moved : state.step call = result
  have moves := moved ▸ step_moves state call
  cases moves with
  | begins | admits | disconnects | fails | conflicts => exact .inl rfl
  | stays | cancels | connects | drops => exact .inr ⟨rfl, rfl, id⟩
  | verifies | records => exact .inr ⟨rfl, rfl, nofun⟩
  | schedules failed _ _ _ _ _ _ current retired =>
    by_cases known : state.snapshot.token = some failed
    · rw [current known]
      exact .inr ⟨rfl, rfl, nofun⟩
    · rw [(retired known).2]
      exact .inr ⟨rfl, rfl, id⟩
  | exhausts failed _ _ _ _ current retired =>
    by_cases known : state.snapshot.token = some failed
    · rw [current known]
      exact .inl rfl
    · rw [(retired known).2]
      exact .inr ⟨rfl, rfl, id⟩

theorem generations_cons (calls : List ConnectionCall) : generations (Runs.history step state (call :: calls)) =
      generations (Runs.history step (state.step call).1 calls) +
        if (state.step call).1.snapshot.generation ≠ state.snapshot.generation then 1 else 0 := by
  simp only [generations, Runs.history, List.countP_cons, Runs.take]
  simp

end State

theorem generations_append (state : ConnectionAttemptLifecycle) (first second : List ConnectionCall) :
    generations (Runs.history step state (first ++ second)) =
      generations (Runs.history step state first) + generations (Runs.history step (state.run first) second) := by
  rw [generations, Runs.history_append, List.countP_append]
  rfl

private theorem generation_counts (bounded : state.snapshot.generation < 2 ^ 64) (calls : List ConnectionCall) :
    (state.run calls).snapshot.generation =
      (state.snapshot.generation + generations (Runs.history step state calls)) % 2 ^ 64 := by
  induction calls generalizing state with
  | nil => exact (Nat.mod_eq_of_lt bounded).symm
  | cons call calls ih =>
    rcases step_generation state call with moved | ⟨same, -⟩
    · have next : (state.step call).1.snapshot.generation < 2 ^ 64 := by
        rw [moved]
        exact Nat.mod_lt _ (by decide)
      rw [generations_cons, run, Runs.final, ih next, moved, if_pos (wrappingNext_ne _), wrappingNext]
      omega
    · rw [generations_cons, run, Runs.final, ih (same ▸ bounded), same, if_neg (by simp)]
      rfl

theorem still_run (still : generations (Runs.history step state calls) = 0) :
    (state.run calls).snapshot.token = state.snapshot.token ∧
      ((state.run calls).snapshot.readiness = .pending → state.snapshot.readiness = .pending) := by
  induction calls generalizing state with
  | nil => exact ⟨rfl, id⟩
  | cons call calls ih =>
    rw [generations_cons] at still
    obtain ⟨token, readiness⟩ := ih (Nat.eq_zero_of_add_eq_zero_right still)
    rcases step_generation state call with moved | ⟨-, same, waits⟩
    · rw [moved, if_pos (wrappingNext_ne _)] at still
      omega
    · exact ⟨token.trans same, waits ∘ readiness⟩

/-- With fewer than 2^64 generations the current token carries their number. -/
theorem token_counts (few : generations (Runs.history step {} calls) < 2 ^ 64)
    (current : (({} : ConnectionAttemptLifecycle).run calls).snapshot.token = some token) :
    token.generation = generations (Runs.history step {} calls) := by
  rw [(Sound.initial.run calls).token token current, generation_counts (by decide) calls]
  exact (congrArg (· % 2 ^ 64) (Nat.zero_add _)).trans (Nat.mod_eq_of_lt few)

/-- A later token has a greater generation, unless the generation did not move at all. -/
theorem tokens_ordered {first second : List ConnectionCall}
    (few : generations (Runs.history step {} (first ++ second)) < 2 ^ 64) {old new : ConnectionAttemptToken}
    (before : (({} : ConnectionAttemptLifecycle).run first).snapshot.token = some old)
    (after : (({} : ConnectionAttemptLifecycle).run (first ++ second)).snapshot.token = some new) :
    old.generation < new.generation ∨
      old = new ∧ generations (Runs.history step (({} : ConnectionAttemptLifecycle).run first) second) = 0 := by
  have late := token_counts few after
  rw [generations_append] at few late
  have early := token_counts (Nat.lt_of_le_of_lt (Nat.le_add_right _ _) few) before
  rcases Nat.eq_zero_or_pos (generations (Runs.history step (({} : ConnectionAttemptLifecycle).run first) second)) with
    still | moved
  · right
    refine ⟨?_, still⟩
    rw [run_append, (still_run still).1] at after
    exact Option.some.inj (before.symm.trans after)
  · left
    omega

def verifies (token : ConnectionAttemptToken) (step : ConnectionStep) : Bool :=
  decide (step.input = .finishDetection token true ∧ step.output = .accepted true)

theorem verifies_cases (accepted : (state.step (.finishDetection token true)).2 = .accepted true) :
    state.snapshot.token = some token ∧ state.snapshot.readiness = .pending ∧
      (state.step (.finishDetection token true)).1.snapshot.token = some token ∧
      (state.step (.finishDetection token true)).1.snapshot.readiness = .verified := by
  generalize moved : state.step (.finishDetection token true) = result at accepted
  have moves := moved ▸ step_moves state (.finishDetection token true)
  cases moves with
  | stays silent =>
    cases accepted
    cases silent
  | verifies _ current waits => exact ⟨current, waits, current, rfl⟩
  | records _ _ _ _ _ speaks _ _ unverified | fails _ _ _ _ speaks _ unverified =>
    cases speaks
    exact absurd rfl unverified

/-- An attempt that is verified has been current and unidentified ever since it was current. -/
theorem verified_was_pending {issued later : List ConnectionCall}
    (few : generations (Runs.history step {} (issued ++ later)) < 2 ^ 64)
    (current : (({} : ConnectionAttemptLifecycle).run issued).snapshot.token = some token)
    (accepted : ((({} : ConnectionAttemptLifecycle).run (issued ++ later)).step (.finishDetection token true)).2 =
      .accepted true) {first rest : List ConnectionCall} (split : later = first ++ rest) :
    (({} : ConnectionAttemptLifecycle).run (issued ++ first)).snapshot.token = some token ∧
      (({} : ConnectionAttemptLifecycle).run (issued ++ first)).snapshot.readiness = .pending := by
  obtain ⟨last, waits, -⟩ := verifies_cases accepted
  have still : generations (Runs.history step (({} : ConnectionAttemptLifecycle).run issued) later) = 0 := by
    rcases tokens_ordered few current last with greater | ⟨-, still⟩
    · exact absurd greater (Nat.lt_irrefl _)
    · exact still
  rw [split, generations_append] at still
  obtain ⟨early, late⟩ := Nat.add_eq_zero_iff.mp still
  constructor
  · rw [run_append]
    exact (still_run early).1.trans current
  · rw [split, run_append, run_append] at waits
    rw [run_append]
    exact (still_run late).2 waits

private theorem verified_once (few : generations (Runs.history step {} calls) < 2 ^ 64)
    (accepted : ((({} : ConnectionAttemptLifecycle).run calls).step (.finishDetection token true)).2 = .accepted true) :
    ∀ earlier ∈ Runs.history step {} calls, verifies token earlier = false := by
  intro earlier member
  by_contra again
  rw [Bool.not_eq_false, verifies, decide_eq_true_iff] at again
  obtain ⟨past, later, split⟩ := List.append_of_mem member
  obtain ⟨first, last, rfl, -, here, -⟩ := Runs.history_split split
  rw [here] at again
  obtain ⟨input, output⟩ := again
  have input : earlier.input = .finishDetection token true := input
  rw [input] at output few accepted
  obtain ⟨-, -, current, verified⟩ := verifies_cases output
  rw [List.append_cons] at few accepted
  have pending := (verified_was_pending few (by rw [run_append]; exact current) accepted (List.nil_append last).symm).2
  rw [List.append_nil, run_append] at pending
  cases verified.symm.trans pending

/-- A call that opened a new retry budget: a begin, a disconnect, a cancelled retry, a verification. -/
def resets : ConnectionCall → ConnectionReply → Bool
  | .start _ _, _ | .disconnect, _ | .cancelRetry _, .accepted true | .finishDetection _ true, .accepted true => true
  | _, _ => false

def admits : ConnectionCall → ConnectionReply → Bool
  | .admitRetry _ _, .admitted (some _) => true
  | _, _ => false

/-- A retry that waits was scheduled by an earlier call, and no call since could have ended it. -/
def Scheduled (past : List ConnectionStep) (state : ConnectionAttemptLifecycle) : Prop :=
  ∀ retry, state.pendingRetry = some retry → ∃ early scheduling late, past = early ++ scheduling :: late ∧
    scheduling.output = .retry (.scheduled retry) ∧
    ∀ step ∈ late, resets step.input step.output = false ∧ admits step.input step.output = false ∧ step.input ≠ .cancelRetry retry.token

private theorem quiet_call {call : ConnectionCall} {reply : ConnectionReply} (silent : quiet reply = true)
    (closed : opens call = false) : resets call reply = false ∧ admits call reply = false := by
  unfold resets admits
  constructor <;> split <;> simp_all [quiet, opens]

private theorem speaking_call {call : ConnectionCall} (reply : ConnectionReply) (speaks : call.attempt = some token)
    (unverified : call ≠ .finishDetection token true) : resets call reply = false ∧ admits call reply = false := by
  unfold resets admits
  constructor <;> split <;> simp_all [ConnectionCall.attempt]

private theorem pendingRetry_cases {call : ConnectionCall} {retry : ConnectionRetry}
    (pending : (state.step call).1.pendingRetry = some retry) :
    (state.step call).2 = .retry (.scheduled retry) ∨ state.pendingRetry = some retry ∧
      resets call (state.step call).2 = false ∧ admits call (state.step call).2 = false ∧
      call ≠ .cancelRetry retry.token := by
  have foreign (same : state.pendingRetry = some retry) : call ≠ .cancelRetry retry.token := by
    rintro rfl
    simp [step, cancelRetry, same] at pending
  generalize moved : state.step call = result at pending ⊢
  have moves := moved ▸ step_moves state call
  cases moves with
  | stays silent closed =>
    have calm := quiet_call silent closed
    exact .inr ⟨pending, calm.1, calm.2, foreign pending⟩
  | begins | admits | cancels | verifies | disconnects | fails => cases pending
  | schedules =>
    cases pending
    exact .inl rfl
  | exhausts | connects | drops | conflicts => exact .inr ⟨pending, rfl, rfl, foreign pending⟩
  | records token transport revision _ _ speaks _ _ unverified =>
    have calm := speaking_call (.accepted true) speaks unverified
    exact .inr ⟨pending, calm.1, calm.2, foreign pending⟩

variable {past : List ConnectionStep}

theorem Scheduled.extend (scheduled : Scheduled past state) (call : ConnectionCall) :
    Scheduled (past ++ [Runs.take step state call]) (state.step call).1 := by
  intro retry pending
  rcases pendingRetry_cases pending with fresh | ⟨waits, open_, unused, foreign⟩
  · refine ⟨past, Runs.take step state call, [], rfl, fresh, ?_⟩
    intro step member
    cases member
  · obtain ⟨early, scheduling, late, rfl, output, kept⟩ := scheduled retry waits
    refine ⟨early, scheduling, late ++ [Runs.take step state call], by simp, output, ?_⟩
    intro step member
    rcases List.mem_append.mp member with inside | last
    · exact kept step inside
    · rw [List.mem_singleton.mp last]
      exact ⟨open_, unused, foreign⟩

theorem Scheduled.run (calls : List ConnectionCall) :
    Scheduled (Runs.history step {} calls) (({} : ConnectionAttemptLifecycle).run calls) :=
  Runs.induction_on (P := Scheduled) (fun _ pending => by cases pending)
    (fun _ _ call scheduled => scheduled.extend call) calls

private theorem admitted_cases {retry at_ : Nat} {begun : ConnectionAttemptToken}
    (admitted : (state.step (.admitRetry retry at_)).2 = .admitted (some begun)) :
    ∃ pending, state.pendingRetry = some pending ∧ pending.token = retry ∧ pending.deadline ≤ at_ ∧
      begun.platformIdentifier = pending.platformIdentifier := by
  generalize moved : state.step (.admitRetry retry at_) = result at admitted
  have moves := moved ▸ step_moves state (.admitRetry retry at_)
  cases moves with
  | stays silent =>
    cases admitted
    cases silent
  | admits pending _ waits due =>
    cases admitted
    exact ⟨pending, waits, rfl, due, rfl⟩
  | records _ _ _ _ _ speaks | fails _ _ _ _ speaks => cases speaks

/-- A retry scheduled under the bounded budget of an initial identification. -/
def schedulesInitially (step : ConnectionStep) : Bool :=
  match step.output with
  | .retry (.scheduled _) => decide (step.before.retryScope = .initialIdentification)
  | _ => false

/-- Without a reset the scope never narrows, and under the bounded scope the attempts count the retries. -/
theorem budget_step {call : ConnectionCall} (kept : resets call (state.step call).2 = false) :
    ((state.step call).1.retryScope = .initialIdentification →
      state.retryScope = .initialIdentification ∧ min 3 state.retryAttempt ≤ min 3 (state.step call).1.retryAttempt) ∧
    (schedulesInitially (Runs.take step state call) = true →
      state.retryScope = .initialIdentification ∧
        min 3 state.retryAttempt + 1 ≤ min 3 (state.step call).1.retryAttempt) := by
  rw [Runs.take]
  generalize moved : state.step call = result at kept ⊢
  have moves := moved ▸ step_moves state call
  cases moves with
  | begins | cancels | verifies | disconnects => cases kept
  | stays silent =>
    refine ⟨fun scope => ⟨scope, le_refl _⟩, ?_⟩
    intro fresh
    unfold schedulesInitially at fresh
    dsimp only at fresh
    split at fresh
    · cases silent
    · cases fresh
  | schedules failed at_ jitter retry snapshot free bounded =>
    refine ⟨fun scope => ⟨scope, by dsimp only; omega⟩, ?_⟩
    intro fresh
    have scope : state.retryScope = .initialIdentification := of_decide_eq_true fresh
    have := bounded scope
    exact ⟨scope, by dsimp only; omega⟩
  | exhausts => exact ⟨fun scope => ⟨scope, by dsimp only; omega⟩, nofun⟩
  | fails => exact ⟨nofun, nofun⟩
  | admits | records | connects | drops | conflicts => exact ⟨fun scope => ⟨scope, le_refl _⟩, nofun⟩

/-- What a stretch of calls without a reset has scheduled under the bounded scope. -/
def WithinBudget (past : List ConnectionStep) (state : ConnectionAttemptLifecycle) : Prop :=
  (∀ here ∈ past, resets here.input here.output = false) → past.countP schedulesInitially ≤ 3 ∧
    (state.retryScope = .initialIdentification → past.countP schedulesInitially ≤ min 3 state.retryAttempt)

theorem WithinBudget.extend (within : WithinBudget past state) (call : ConnectionCall) :
    WithinBudget (past ++ [Runs.take step state call]) (state.step call).1 := by
  intro kept
  obtain ⟨below, counts⟩ := within fun here member => kept here (List.mem_append_left _ member)
  have here : resets call (state.step call).2 = false := kept (Runs.take step state call) (by simp)
  obtain ⟨wide, fresh⟩ := budget_step here
  rw [List.countP_append, List.countP_singleton]
  split
  · next initially =>
    obtain ⟨scope, grows⟩ := fresh initially
    have := counts scope
    exact ⟨by omega, fun _ => by omega⟩
  · refine ⟨below, ?_⟩
    intro scope
    obtain ⟨narrow, grows⟩ := wide scope
    have := counts narrow
    omega

theorem WithinBudget.run (state : ConnectionAttemptLifecycle) (stretch : List ConnectionCall) :
    WithinBudget (Runs.history step state stretch) (state.run stretch) :=
  Runs.induction_on (P := WithinBudget) (fun _ => ⟨Nat.zero_le _, fun _ => Nat.zero_le _⟩)
    (fun _ _ call within => within.extend call) stretch

/-- Every sequence of calls of fewer than 2^64 generations keeps the lifecycle consistent. The current
token is newer than every token before it; calls for another attempt change nothing, and a changed
snapshot has a new revision. An attempt is verified once, and only if it has been unidentified ever
since it was issued. An admitted retry was scheduled by an earlier call, is due, and nothing since
has ended it; a bounded budget schedules at most three retries. -/
theorem connection_attempts_are_safe (calls : List ConnectionCall)
    (few : generations (Runs.history step {} calls) < 2 ^ 64) :
    let state := ({} : ConnectionAttemptLifecycle).run calls
    Sound state ∧
    (∀ first second old new, calls = first ++ second →
      (({} : ConnectionAttemptLifecycle).run first).snapshot.token = some old → state.snapshot.token = some new →
      old = new ∨ old.generation < new.generation) ∧
    (∀ call token, call.attempt = some token → state.snapshot.token ≠ some token →
      ((∃ at_ jitter, call = .requestRetry token at_ jitter) → state.failedAttempt ≠ some token) →
      (state.step call).1 = state) ∧
    (∀ call, (state.step call).1.snapshot ≠ state.snapshot →
      (state.step call).1.snapshot.revision ≠ state.snapshot.revision) ∧
    (∀ token, (state.step (.finishDetection token true)).2 = .accepted true →
      (∀ earlier ∈ Runs.history step {} calls, verifies token earlier = false) ∧
      ∀ issued first rest, calls = issued ++ (first ++ rest) →
        (({} : ConnectionAttemptLifecycle).run issued).snapshot.token = some token →
        (({} : ConnectionAttemptLifecycle).run (issued ++ first)).snapshot.token = some token ∧
        (({} : ConnectionAttemptLifecycle).run (issued ++ first)).snapshot.readiness = .pending) ∧
    (∀ retry at_ begun, (state.step (.admitRetry retry at_)).2 = .admitted (some begun) →
      ∃ early scheduling late scheduled, Runs.history step {} calls = early ++ scheduling :: late ∧
        scheduling.output = .retry (.scheduled scheduled) ∧ scheduled.token = retry ∧ scheduled.deadline ≤ at_ ∧
        begun.platformIdentifier = scheduled.platformIdentifier ∧
        ∀ here ∈ late, resets here.input here.output = false ∧ admits here.input here.output = false ∧
          here.input ≠ .cancelRetry retry) ∧
    ∀ first stretch, calls = first ++ stretch →
      (∀ here ∈ Runs.history step (({} : ConnectionAttemptLifecycle).run first) stretch,
        resets here.input here.output = false) →
      (Runs.history step (({} : ConnectionAttemptLifecycle).run first) stretch).countP schedulesInitially ≤ 3 := by
  refine ⟨Sound.initial.run calls, ?_, ?_, ?_, ?_, ?_, ?_⟩
  · rintro first second old new rfl before after
    rcases tokens_ordered few before after with greater | ⟨same, -⟩
    · exact .inr greater
    · exact .inl same
  · intro call token speaks foreign other
    exact foreign_call_changes_nothing speaks foreign other
  · intro call changed
    exact revision_changes _ call changed
  · intro token accepted
    refine ⟨verified_once few accepted, ?_⟩
    rintro issued first rest rfl current
    exact verified_was_pending few current accepted rfl
  · intro retry at_ begun admitted
    obtain ⟨pending, waits, rfl, due, platform⟩ := admitted_cases admitted
    obtain ⟨early, scheduling, late, split, output, kept⟩ := Scheduled.run calls pending waits
    exact ⟨early, scheduling, late, pending, split, output, rfl, due, platform, kept⟩
  · intro first stretch split kept
    exact (WithinBudget.run _ stretch kept).1

/-- A wheel that is lost while connecting, retried and then verified. -/
theorem retried_attempt_is_verified :
    let calls : List ConnectionCall := [.start "A" 0, .requestRetry ⟨1, "A"⟩ 10 500, .admitRetry 1 260, .connected ⟨2, "A"⟩]
    ((({} : ConnectionAttemptLifecycle).run calls).step (.finishDetection ⟨2, "A"⟩ true)).2 = .accepted true ∧
      Sound (({} : ConnectionAttemptLifecycle).run calls) ∧
      ∀ earlier ∈ Runs.history step {} calls, verifies ⟨2, "A"⟩ earlier = false := by
  intro calls
  have safe := connection_attempts_are_safe calls (by decide)
  have accepted : ((({} : ConnectionAttemptLifecycle).run calls).step (.finishDetection ⟨2, "A"⟩ true)).2 =
      .accepted true := by decide
  exact ⟨accepted, safe.1, (safe.2.2.2.2.1 ⟨2, "A"⟩ accepted).1⟩

end ConnectionAttemptLifecycle

end Cutout.Core

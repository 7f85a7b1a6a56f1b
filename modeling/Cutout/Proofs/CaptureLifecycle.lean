import Cutout.CaptureLifecycle
import Cutout.Library.Runs

/-! The receipts of capture writers. A generation that reached its finalization owes
exactly one completion, and the ledger of what is owed is the finalizing attempt
together with the retired ones. -/

namespace Cutout.Core
open Library
open Protocols (u64Max)

abbrev CaptureStep := Step CaptureSessionLifecycle CaptureCall CaptureReply

namespace CaptureCall

def finishToken : CaptureCall → Option CaptureFinishToken
  | finishFlush token _ | finishFlushWithTransport token _ _ => some token
  | _ => none

end CaptureCall

def CaptureReply.Refuses : CaptureReply → Prop
  | .generation issued => issued = none
  | .accepted answer => answer = false
  | .finishToken issued => issued = none
  | .release decision => decision = .rejected
  | .completion disposition => disposition = .rejected

namespace CaptureStep

def issuedGeneration (here : CaptureStep) : Option Nat :=
  match here.output with
  | .generation issued => issued
  | _ => none

def issuedToken (here : CaptureStep) : Option CaptureFinishToken :=
  match here.output with
  | .finishToken issued => issued
  | _ => none

def completedGeneration (here : CaptureStep) : Option Nat :=
  match here.input, here.output with
  | .complete generation _, .completion disposition => if disposition = .rejected then none else some generation
  | _, _ => none

def releasedGeneration (here : CaptureStep) : Option Nat :=
  match here.input, here.output with
  | .finishFlushWithTransport token _ _, .release (.releaseOwnedTransport _) => some token.generation
  | _, _ => none

end CaptureStep

namespace CaptureSessionLifecycle

def Finalizing (state : CaptureSessionLifecycle) (generation : Nat) : Prop :=
  ∃ attempt, state.current = some attempt ∧ attempt.generation = generation ∧ attempt.stage = .finalizing

/-- The current attempt is the newest generation, and a token is held exactly while it saves. -/
structure Sound (state : CaptureSessionLifecycle) : Prop where
  newest : ∀ attempt, state.current = some attempt → attempt.generation = state.nextGeneration
  held : ∀ token, state.finishing = some token →
    ∃ attempt, state.current = some attempt ∧ attempt.stage = .saving ∧ token.generation = attempt.generation
  saving : ∀ attempt, state.current = some attempt → attempt.stage = .saving → state.finishing ≠ none

inductive Moves (state : CaptureSessionLifecycle) : CaptureCall → CaptureReply → CaptureSessionLifecycle → Prop where
  | refused {call reply} (silent : reply.Refuses)
      (unclaimed : ∀ token, call.finishToken = some token → state.finishing ≠ some token) : Moves state call reply state
  | begins {call} (origin transport) (free : state.canStart = true)
      (bound : ∀ owned, transport = .owned owned →
        ∃ origin, call = .beginWithTransport origin .captureOwned (some owned))
      (unclaimed : call.finishToken = none) :
      Moves state call (.generation (some (state.nextGeneration + 1))) { state with
        nextGeneration := state.nextGeneration + 1, pendingCompletions := state.retiredCompletions
        current := some ⟨state.nextGeneration + 1, origin, .starting⟩, transport, finishing := none }
  | continues {call} (attempt target) (known : state.current = some attempt) (live : attempt.stage.reservesWriter = true)
      (idle : attempt.stage ≠ .saving) (next : target = .recording ∨ target = .failed ∨ target = .saveFailed)
      (unclaimed : call.finishToken = none) :
      Moves state call (.accepted true) { state with current := some { attempt with stage := target } }
  | saves (attempt generation) (known : state.current = some attempt) (own : attempt.generation = generation)
      (live : attempt.stage.reservesWriter = true) :
      Moves state (.beginFinish generation) (.finishToken (some ⟨generation, state.nextOperation + 1⟩)) { state with
        nextOperation := state.nextOperation + 1, current := some { attempt with stage := .saving }
        finishing := some ⟨generation, state.nextOperation + 1⟩ }
  | flushFails {call reply} (attempt token) (silent : reply.Refuses) (claimed : call.finishToken = some token)
      (held : state.finishing = some token) (known : state.current = some attempt) (saving : attempt.stage = .saving) :
      Moves state call reply { state with finishing := none, current := some { attempt with stage := .saveFailed } }
  | flushes {call reply} (attempt token transport) (claimed : call.finishToken = some token)
      (held : state.finishing = some token) (known : state.current = some attempt) (saving : attempt.stage = .saving)
      (kept : ∀ owned, transport = .owned owned → state.transport = .owned owned)
      (plain : reply = .accepted true ∨ reply = .release .writerOnly ∨ ∃ owned, state.transport = .owned owned ∧
        call = .finishFlushWithTransport token true (some owned) ∧ reply = .release (.releaseOwnedTransport owned)) :
      Moves state call reply { state with
        transport, finishing := none, current := some { attempt with stage := .finalizing } }
  | retires (attempt generation) (known : state.current = some attempt)
      (live : attempt.stage.reservesWriter = true ∨ attempt.stage = .finalizing) :
      Moves state (.retire generation) (.accepted true) { state with
        current := some { attempt with stage := .finalizing }, finishing := none }
  | completes (attempt generation succeeded target) (known : state.current = some attempt)
      (own : attempt.generation = generation) (finalizing : attempt.stage = .finalizing)
      (next : target = .saved ∨ target = .failed) :
      Moves state (.complete generation succeeded) (.completion .currentAttempt)
        { state with current := some { attempt with stage := target } }
  | completesRetired (generation succeeded) (owed : generation ∈ state.pendingCompletions) :
      Moves state (.complete generation succeeded) (.completion .historicalAttempt)
        { state with pendingCompletions := state.pendingCompletions.erase generation }

variable {state : CaptureSessionLifecycle}

theorem beginWithTransport_moves (state : CaptureSessionLifecycle) (origin ownership attempt) {call : CaptureCall}
    (same : call = .beginWithTransport origin ownership attempt ∨ attempt = none ∧ ownership = .borrowed)
    (unclaimed : call.finishToken = none) :
    Moves state call (.generation (state.beginWithTransport origin ownership attempt).2)
      (state.beginWithTransport origin ownership attempt).1 := by
  have refuse : Moves state call (.generation none) state :=
    .refused rfl (by simp [unclaimed])
  rw [beginWithTransport]
  by_cases free : state.canStart = true
  · rw [if_pos free]
    cases binding : transportBinding ownership attempt with
    | none => exact refuse
    | some transport =>
      by_cases room : state.nextGeneration + 1 ≤ u64Max
      · simp only [room, if_true]
        refine .begins origin transport free ?_ unclaimed
        rintro owned rfl
        rcases same with rfl | ⟨rfl, rfl⟩
        · refine ⟨origin, ?_⟩
          cases ownership <;> cases attempt <;> simp_all [transportBinding]
        · simp [transportBinding] at binding
      · simp only [room, if_false]
        exact refuse
  · rw [if_neg free]
    exact refuse

theorem transition_cases (state : CaptureSessionLifecycle) (generation source target) :
    state.transition generation source target = (state, false) ∨
      ∃ attempt, state.current = some attempt ∧ attempt.generation = generation ∧ attempt.stage = source ∧
        state.transition generation source target =
          ({ state with current := some { attempt with stage := target } }, true) := by
  unfold transition
  cases known : state.current with
  | none => exact .inl rfl
  | some attempt =>
    by_cases other : attempt.generation ≠ generation ∨ attempt.stage ≠ source
    · exact .inl (if_pos other)
    · simp only [not_or, not_not] at other
      refine .inr ⟨attempt, rfl, other.1, other.2, ?_⟩
      simp [other]

private theorem beginFinish_moves (state : CaptureSessionLifecycle) (generation : Nat) :
    Moves state (.beginFinish generation) (.finishToken (state.beginFinish generation).2)
      (state.beginFinish generation).1 := by
  have refuse : Moves state (.beginFinish generation) (.finishToken none) state :=
    .refused rfl (by simp [CaptureCall.finishToken])
  unfold beginFinish
  cases known : state.current with
  | none => exact refuse
  | some attempt =>
    dsimp only
    split
    · exact refuse
    · next admitted =>
      simp only [not_or, not_not, not_and_or] at admitted
      obtain ⟨own, -, stage⟩ := admitted
      split
      · refine .saves attempt generation known own ?_
        rcases stage with recording | failed
        · simp [recording, CaptureStage.reservesWriter]
        · simp [failed, CaptureStage.reservesWriter]
      · exact refuse

section Sound
variable (sound : Sound state) (token : CaptureFinishToken) (succeeded : Bool)
include sound

theorem finishFlush_cases : (state.finishing ≠ some token ∧ state.finishFlush token succeeded = (state, false)) ∨
      ∃ attempt, state.finishing = some token ∧ state.current = some attempt ∧ attempt.stage = .saving ∧
        state.finishFlush token succeeded = ({ state with
          finishing := none
          current := some { attempt with stage := if succeeded then .finalizing else .saveFailed } }, succeeded) := by
  by_cases held : state.finishing = some token
  · obtain ⟨attempt, known, saving, own⟩ := sound.held token held
    refine .inr ⟨attempt, held, known, saving, ?_⟩
    simp [finishFlush, held, known, saving, own]
  · exact .inl ⟨held, by simp [finishFlush, held]⟩

private theorem finishFlush_moves :
    Moves state (.finishFlush token succeeded) (.accepted (state.finishFlush token succeeded).2)
      (state.finishFlush token succeeded).1 := by
  rcases finishFlush_cases sound token succeeded with ⟨other, flush⟩ | ⟨attempt, held, known, saving, flush⟩
  · rw [flush]
    refine .refused rfl ?_
    rintro presented ⟨⟩
    exact other
  · rw [flush]
    cases succeeded with
    | false => exact .flushFails attempt token rfl rfl held known saving
    | true => exact .flushes attempt token state.transport rfl held known saving (fun _ same => same) (.inl rfl)

private theorem finishFlushWithTransport_moves (currentToken : Option ConnectionAttemptToken) :
    Moves state (.finishFlushWithTransport token succeeded currentToken)
      (.release (state.finishFlushWithTransport token succeeded currentToken).2)
      (state.finishFlushWithTransport token succeeded currentToken).1 := by
  unfold finishFlushWithTransport
  rcases finishFlush_cases sound token succeeded with ⟨other, flush⟩ | ⟨attempt, held, known, saving, flush⟩
  · rw [flush]
    refine .refused rfl ?_
    rintro presented ⟨⟩
    exact other
  · rw [flush]
    cases succeeded with
    | false => exact .flushFails attempt token rfl rfl held known saving
    | true =>
      cases binding : state.transport with
      | borrowed => exact .flushes attempt token .borrowed rfl held known saving nofun (.inr (.inl rfl))
      | owned owned =>
        refine .flushes attempt token .borrowed rfl held known saving nofun (.inr ?_)
        by_cases current : currentToken = some owned
        · exact .inr ⟨owned, binding, by rw [current], by simp [current]⟩
        · exact .inl (by simp [current])

end Sound

section State
variable (state : CaptureSessionLifecycle) (generation : Nat)

private theorem writerFailed_moves : Moves state (.writerFailed generation) (.accepted (state.writerFailed generation).2)
      (state.writerFailed generation).1 := by
  have refuse : Moves state (.writerFailed generation) (.accepted false) state :=
    .refused rfl (by simp [CaptureCall.finishToken])
  unfold writerFailed
  cases known : state.current with
  | none => exact refuse
  | some attempt =>
    dsimp only
    split
    · exact refuse
    · next admitted =>
      simp only [not_or, not_not, not_and_or] at admitted
      refine .continues attempt .saveFailed known ?_ ?_ (.inr (.inr rfl)) rfl
      · rcases admitted.2 with stage | stage <;> simp [stage, CaptureStage.reservesWriter]
      · rcases admitted.2 with stage | stage <;> simp [stage]

private theorem retire_moves :
    Moves state (.retire generation) (.accepted (state.retire generation).2) (state.retire generation).1 := by
  have refuse : Moves state (.retire generation) (.accepted false) state :=
    .refused rfl (by simp [CaptureCall.finishToken])
  unfold retire
  cases known : state.current with
  | none => exact refuse
  | some attempt =>
    dsimp only
    split
    · exact refuse
    · next admitted =>
      simp only [not_or, not_not, not_and_or] at admitted
      refine .retires attempt generation known ?_
      rcases admitted.2.2 with live | finalizing
      · exact .inl (by simpa using live)
      · exact .inr finalizing

theorem starts_moves {call : CaptureCall} {target : CaptureStage} (next : target = .recording ∨ target = .failed)
    (unclaimed : call.finishToken = none) :
    Moves state call (.accepted (state.transition generation .starting target).2)
      (state.transition generation .starting target).1 := by
  rcases transition_cases state generation .starting target with same | ⟨attempt, known, -, starting, moved⟩
  · rw [same]
    exact .refused rfl (by simp [unclaimed])
  · rw [moved]
    refine .continues attempt target known ?_ ?_ ?_ unclaimed
    · simp [starting, CaptureStage.reservesWriter]
    · simp [starting]
    · exact next.imp_right .inl

private theorem complete_moves (succeeded : Bool) :
    Moves state (.complete generation succeeded) (.completion (state.complete generation succeeded).2)
      (state.complete generation succeeded).1 := by
  unfold complete
  rcases transition_cases state generation .finalizing (if succeeded then .saved else .failed) with
    same | ⟨attempt, known, own, finalizing, moved⟩
  · rw [same]
    dsimp only
    split
    · next owed => exact .completesRetired generation succeeded owed
    · exact .refused rfl (by simp [CaptureCall.finishToken])
  · rw [moved]
    refine .completes attempt generation succeeded _ known own finalizing ?_
    cases succeeded <;> simp

end State

theorem step_moves (sound : Sound state) (call : CaptureCall) :
    Moves state call (state.step call).2 (state.step call).1 := by
  cases call with
  | beginBorrowed origin => exact beginWithTransport_moves state origin _ _ (.inr ⟨rfl, rfl⟩) rfl
  | beginWithTransport origin ownership attempt => exact beginWithTransport_moves state origin ownership attempt (.inl rfl) rfl
  | writerStarted generation => exact starts_moves state generation (.inl rfl) rfl
  | writerStartFailed generation => exact starts_moves state generation (.inr rfl) rfl
  | beginFinish generation => exact beginFinish_moves state generation
  | finishFlush token succeeded => exact finishFlush_moves sound token succeeded
  | finishFlushWithTransport token succeeded currentToken =>
    exact finishFlushWithTransport_moves sound token succeeded currentToken
  | writerFailed generation => exact writerFailed_moves state generation
  | retire generation => exact retire_moves state generation
  | complete generation succeeded => exact complete_moves state generation succeeded

theorem Sound.step {call : CaptureCall} {reply : CaptureReply} {after : CaptureSessionLifecycle} (sound : Sound state)
    (moves : Moves state call reply after) : Sound after := by
  cases moves with
  | refused => exact sound
  | begins origin transport =>
    refine ⟨?_, nofun, ?_⟩
    · rintro attempt ⟨⟩
      rfl
    · rintro attempt ⟨⟩ ⟨⟩
  | continues attempt target known live idle next =>
    refine ⟨?_, ?_, ?_⟩
    · rintro moved ⟨⟩
      exact sound.newest attempt known
    · intro token held
      obtain ⟨saving, found, stage, -⟩ := sound.held token held
      rw [known] at found
      cases found
      exact absurd stage idle
    · rintro moved ⟨⟩ saving
      rcases next with rfl | rfl | rfl <;> cases saving
  | saves attempt generation known own live =>
    refine ⟨?_, ?_, nofun⟩
    · rintro moved ⟨⟩
      exact sound.newest attempt known
    · rintro token ⟨⟩
      exact ⟨_, rfl, rfl, own.symm⟩
  | flushFails attempt _ _ _ _ known | flushes attempt _ _ _ _ known | retires attempt _ known =>
    refine ⟨?_, nofun, ?_⟩
    · rintro moved ⟨⟩
      exact sound.newest attempt known
    · rintro moved ⟨⟩ ⟨⟩
  | completes attempt generation succeeded target known own finalizing next =>
    refine ⟨?_, ?_, ?_⟩
    · rintro moved ⟨⟩
      exact sound.newest attempt known
    · intro token held
      obtain ⟨saving, found, stage, -⟩ := sound.held token held
      rw [known] at found
      cases found
      exact absurd (finalizing.symm.trans stage) (by decide)
    · rintro moved ⟨⟩ saving
      rcases next with rfl | rfl <;> cases saving
  | completesRetired => exact ⟨sound.newest, sound.held, sound.saving⟩

theorem mem_retiredCompletions {generation : Nat} :
    generation ∈ state.retiredCompletions ↔ state.Finalizing generation ∨ generation ∈ state.pendingCompletions := by
  unfold retiredCompletions Finalizing
  cases state.current with
  | none => simp
  | some attempt =>
    by_cases finalizing : attempt.stage = .finalizing
    · simp [finalizing, eq_comm]
    · simp [finalizing]

end CaptureSessionLifecycle

/-! What the platform was told, read off the history of its calls. -/

def issuedGenerations (past : List CaptureStep) : List Nat := past.filterMap CaptureStep.issuedGeneration

def issuedTokens (past : List CaptureStep) : List CaptureFinishToken := past.filterMap CaptureStep.issuedToken

def completedGenerations (past : List CaptureStep) : List Nat := past.filterMap CaptureStep.completedGeneration

def releasedGenerations (past : List CaptureStep) : List Nat := past.filterMap CaptureStep.releasedGeneration

/-- The generation reached its finalization at some point of the history. -/
def Entered (past : List CaptureStep) (generation : Nat) : Prop :=
  ∃ here ∈ past, here.after.Finalizing generation

def BoundTo (past : List CaptureStep) (generation : Nat) (owned : ConnectionAttemptToken) : Prop :=
  ∃ here ∈ past, here.output = .generation (some generation) ∧
    ∃ origin, here.input = .beginWithTransport origin .captureOwned (some owned)

section Snoc
variable (past : List CaptureStep) (here : CaptureStep)

theorem issuedGenerations_snoc :
    issuedGenerations (past ++ [here]) = issuedGenerations past ++ here.issuedGeneration.toList := by
  simp only [issuedGenerations, List.filterMap_append, List.filterMap_cons, List.filterMap_nil]
  cases here.issuedGeneration <;> rfl

theorem issuedTokens_snoc : issuedTokens (past ++ [here]) = issuedTokens past ++ here.issuedToken.toList := by
  simp only [issuedTokens, List.filterMap_append, List.filterMap_cons, List.filterMap_nil]
  cases here.issuedToken <;> rfl

theorem completedGenerations_snoc :
    completedGenerations (past ++ [here]) = completedGenerations past ++ here.completedGeneration.toList := by
  simp only [completedGenerations, List.filterMap_append, List.filterMap_cons, List.filterMap_nil]
  cases here.completedGeneration <;> rfl

theorem releasedGenerations_snoc :
    releasedGenerations (past ++ [here]) = releasedGenerations past ++ here.releasedGeneration.toList := by
  simp only [releasedGenerations, List.filterMap_append, List.filterMap_cons, List.filterMap_nil]
  cases here.releasedGeneration <;> rfl

theorem entered_snoc {generation : Nat} :
    Entered (past ++ [here]) generation ↔ Entered past generation ∨ here.after.Finalizing generation := by
  simp [Entered, or_and_right, exists_or]

end Snoc

theorem BoundTo.snoc {past : List CaptureStep} {generation : Nat} {owned : ConnectionAttemptToken}
    (bound : BoundTo past generation owned) (here : CaptureStep) : BoundTo (past ++ [here]) generation owned := by
  obtain ⟨begun, member, reply⟩ := bound
  exact ⟨begun, List.mem_append_left _ member, reply⟩

namespace CaptureStep
variable (here : CaptureStep)

theorem refuses_issues_nothing (silent : here.output.Refuses) : here.issuedGeneration = none ∧ here.issuedToken = none := by
  obtain ⟨before, input, output, after⟩ := here
  cases output <;> simp_all [issuedGeneration, issuedToken, CaptureReply.Refuses]

theorem refuses_consumes_nothing (silent : here.output.Refuses) :
    here.completedGeneration = none ∧ here.releasedGeneration = none := by
  obtain ⟨before, input, output, after⟩ := here
  cases output <;> cases input <;> simp_all [completedGeneration, releasedGeneration, CaptureReply.Refuses]

end CaptureStep

namespace CaptureSessionLifecycle
variable {past : List CaptureStep} {state : CaptureSessionLifecycle}
variable {after : CaptureSessionLifecycle}

/-- Both counters are ahead of everything issued, and the held token is the last one. -/
structure Issues (past : List CaptureStep) (state : CaptureSessionLifecycle) : Prop where
  ascending : (issuedGenerations past).Pairwise (· < ·)
  below : ∀ generation ∈ issuedGenerations past, generation ≤ state.nextGeneration
  operations : ((issuedTokens past).map CaptureFinishToken.operation).Pairwise (· < ·)
  beneath : ∀ token ∈ issuedTokens past, token.operation ≤ state.nextOperation
  last : ∀ token, state.finishing = some token → (issuedTokens past).getLast? = some token

variable {here : CaptureStep}

theorem Issues.quiet (issues : Issues past state) (generation : here.issuedGeneration = none)
    (token : here.issuedToken = none) (generations : after.nextGeneration = state.nextGeneration)
    (operations : after.nextOperation = state.nextOperation)
    (held : ∀ token, after.finishing = some token → state.finishing = some token) : Issues (past ++ [here]) after := by
  constructor
  · simpa [issuedGenerations_snoc, generation] using issues.ascending
  · simpa [issuedGenerations_snoc, generation, generations] using issues.below
  · simpa [issuedTokens_snoc, token] using issues.operations
  · simpa [issuedTokens_snoc, token, operations] using issues.beneath
  · intro kept finishing
    simpa [issuedTokens_snoc, token] using issues.last kept (held kept finishing)

theorem Issues.step (issues : Issues past state) {call : CaptureCall} {reply : CaptureReply}
    {after : CaptureSessionLifecycle} (moves : Moves state call reply after) :
    Issues (past ++ [⟨state, call, reply, after⟩]) after := by
  cases moves with
  | refused silent =>
    obtain ⟨generation, token⟩ := CaptureStep.refuses_issues_nothing ⟨state, call, reply, state⟩ silent
    exact issues.quiet generation token rfl rfl fun _ held => held
  | begins origin transport =>
    constructor
    · simp only [issuedGenerations_snoc, CaptureStep.issuedGeneration, Option.toList, List.pairwise_append]
      refine ⟨issues.ascending, List.pairwise_singleton _ _, ?_⟩
      intro earlier member fresh newest
      rw [List.mem_singleton.mp newest]
      exact Nat.lt_succ_of_le (issues.below earlier member)
    · simp only [issuedGenerations_snoc, CaptureStep.issuedGeneration, Option.toList, List.mem_append, List.mem_singleton]
      rintro generation (member | rfl)
      · exact Nat.le_succ_of_le (issues.below generation member)
      · exact Nat.le_refl _
    · simpa [issuedTokens_snoc, CaptureStep.issuedToken] using issues.operations
    · simpa [issuedTokens_snoc, CaptureStep.issuedToken] using issues.beneath
    · intro token held
      cases held
  | continues => exact issues.quiet rfl rfl rfl rfl fun _ held => held
  | saves attempt generation =>
    constructor
    · simpa [issuedGenerations_snoc, CaptureStep.issuedGeneration] using issues.ascending
    · simpa [issuedGenerations_snoc, CaptureStep.issuedGeneration] using issues.below
    · simp only [issuedTokens_snoc, CaptureStep.issuedToken, Option.toList, List.map_append, List.pairwise_append]
      refine ⟨issues.operations, List.pairwise_singleton _ _, ?_⟩
      intro earlier member fresh newest
      obtain ⟨token, issued, rfl⟩ := List.mem_map.mp member
      rw [List.map_singleton, List.mem_singleton] at newest
      rw [newest]
      exact Nat.lt_succ_of_le (issues.beneath token issued)
    · simp only [issuedTokens_snoc, CaptureStep.issuedToken, Option.toList, List.mem_append, List.mem_singleton]
      rintro token (member | rfl)
      · exact Nat.le_succ_of_le (issues.beneath token member)
      · exact Nat.le_refl _
    · rintro token ⟨⟩
      simp [issuedTokens_snoc, CaptureStep.issuedToken]
  | flushFails attempt token silent =>
    obtain ⟨generation, token⟩ := CaptureStep.refuses_issues_nothing ⟨state, call, reply, _⟩ silent
    refine issues.quiet generation token ?_ ?_ ?_
    · rfl
    · rfl
    · intro token held
      cases held
  | flushes attempt token transport claimed held known saving kept plain =>
    rcases plain with rfl | rfl | ⟨owned, binding, rfl, rfl⟩
    all_goals
      refine issues.quiet rfl rfl ?_ ?_ ?_
      · rfl
      · rfl
      · intro token held
        cases held
  | retires =>
    refine issues.quiet rfl rfl ?_ ?_ ?_
    · rfl
    · rfl
    · intro token held
      cases held
  | completes | completesRetired => exact issues.quiet rfl rfl rfl rfl fun _ held => held

/-- What was entered and not completed is what the lifecycle still holds. -/
structure Owes (past : List CaptureStep) (state : CaptureSessionLifecycle) : Prop where
  owed : ∀ generation, (Entered past generation ∧ generation ∉ completedGenerations past) ↔
    (state.Finalizing generation ∨ generation ∈ state.pendingCompletions)
  retired : ∀ generation ∈ state.pendingCompletions, generation < state.nextGeneration
  entered : ∀ generation, Entered past generation → generation ≤ state.nextGeneration
  parted : ∀ attempt, state.current = some attempt → Entered past attempt.generation → attempt.stage.reservesWriter = false
  completed : ∀ generation ∈ completedGenerations past, Entered past generation
  once : (completedGenerations past).Nodup

theorem not_finalizing_of_live {attempt : CaptureAttemptSnapshot} (known : state.current = some attempt)
    (live : attempt.stage.reservesWriter = true) (generation : Nat) : ¬state.Finalizing generation := by
  rintro ⟨found, current, -, finalizing⟩
  rw [known] at current
  cases current
  simp [finalizing, CaptureStage.reservesWriter] at live

/-- A call that consumes no receipt and finalizes nothing new leaves the debts as they were. -/
theorem Owes.quiet (owes : Owes past state) (completed : here.completedGeneration = none)
    (generations : here.after.nextGeneration = state.nextGeneration)
    (pending : here.after.pendingCompletions = state.pendingCompletions)
    (finalizing : ∀ generation, here.after.Finalizing generation ↔ state.Finalizing generation)
    (current : ∀ attempt, here.after.current = some attempt → attempt.stage.reservesWriter = true →
      ∃ earlier, state.current = some earlier ∧ earlier.generation = attempt.generation ∧
        earlier.stage.reservesWriter = true) : Owes (past ++ [here]) here.after := by
  have entered : ∀ generation, Entered (past ++ [here]) generation ↔ Entered past generation := by
    intro generation
    rw [entered_snoc, finalizing]
    constructor
    · rintro (before | now)
      · exact before
      · exact ((owes.owed generation).mpr (.inl now)).1
    · exact .inl
  constructor
  · intro generation
    rw [entered, completedGenerations_snoc, completed, finalizing, pending]
    simpa using owes.owed generation
  · rw [pending, generations]
    exact owes.retired
  · intro generation
    rw [entered, generations]
    exact owes.entered generation
  · intro attempt known reached
    rw [entered] at reached
    by_contra live
    obtain ⟨earlier, before, same, busy⟩ := current attempt known (by simpa using live)
    rw [← same] at reached
    simp [owes.parted earlier before reached] at busy
  · intro generation member
    rw [completedGenerations_snoc, completed] at member
    rw [entered]
    exact owes.completed generation (by simpa using member)
  · simpa [completedGenerations_snoc, completed] using owes.once

theorem Owes.finalize (owes : Owes past state) (sound : Sound state) (completed : here.completedGeneration = none)
    {attempt : CaptureAttemptSnapshot} (known : state.current = some attempt)
    (live : attempt.stage.reservesWriter = true)
    (current : here.after.current = some { attempt with stage := .finalizing })
    (generations : here.after.nextGeneration = state.nextGeneration)
    (pending : here.after.pendingCompletions = state.pendingCompletions) : Owes (past ++ [here]) here.after := by
  have finalizing : ∀ generation, here.after.Finalizing generation ↔ attempt.generation = generation := by
    intro generation
    simp [Finalizing, current]
  have fresh : ¬Entered past attempt.generation := by
    intro reached
    simp [owes.parted attempt known reached] at live
  constructor
  · intro generation
    rw [entered_snoc, completedGenerations_snoc, completed, finalizing, pending, Option.toList, List.append_nil]
    have owed := owes.owed generation
    have idle := not_finalizing_of_live known live generation
    constructor
    · rintro ⟨before | now, unpaid⟩
      · exact .inr ((owed.mp ⟨before, unpaid⟩).resolve_left idle)
      · exact .inl now
    · rintro (rfl | waiting)
      · exact ⟨.inr rfl, fun paid => fresh (owes.completed _ paid)⟩
      · obtain ⟨before, unpaid⟩ := owed.mpr (.inr waiting)
        exact ⟨.inl before, unpaid⟩
  · rw [pending, generations]
    exact owes.retired
  · intro generation reached
    rw [generations]
    rcases (entered_snoc past here).mp reached with before | now
    · exact owes.entered generation before
    · rw [← (finalizing generation).mp now, sound.newest attempt known]
  · intro moved found _
    rw [current] at found
    cases found
    rfl
  · intro generation member
    rw [completedGenerations_snoc, completed] at member
    rw [entered_snoc]
    exact .inl (owes.completed generation (by simpa using member))
  · simpa [completedGenerations_snoc, completed] using owes.once

theorem Owes.pay (owes : Owes past state) {generation : Nat} (completed : here.completedGeneration = some generation)
    (due : state.Finalizing generation ∨ generation ∈ state.pendingCompletions)
    (generations : here.after.nextGeneration = state.nextGeneration)
    (rest : ∀ other, here.after.Finalizing other ∨ other ∈ here.after.pendingCompletions ↔
      other ≠ generation ∧ (state.Finalizing other ∨ other ∈ state.pendingCompletions))
    (pending : ∀ other ∈ here.after.pendingCompletions, other ∈ state.pendingCompletions)
    (current : ∀ attempt, here.after.current = some attempt → attempt.stage.reservesWriter = true →
      state.current = some attempt) : Owes (past ++ [here]) here.after := by
  obtain ⟨reached, unpaid⟩ := (owes.owed generation).mpr due
  have entered : ∀ other, Entered (past ++ [here]) other ↔ Entered past other := by
    intro other
    rw [entered_snoc]
    constructor
    · rintro (before | now)
      · exact before
      · exact ((owes.owed other).mpr ((rest other).mp (.inl now)).2).1
    · exact .inl
  constructor
  · intro other
    rw [entered, completedGenerations_snoc, completed, rest, ← owes.owed other]
    simp only [Option.toList, List.mem_append, List.mem_singleton, not_or]
    tauto
  · intro other member
    rw [generations]
    exact owes.retired other (pending other member)
  · intro other
    rw [entered, generations]
    exact owes.entered other
  · intro attempt known before
    rw [entered] at before
    by_contra live
    exact live (owes.parted attempt (current attempt known (by simpa using live)) before)
  · intro other member
    rw [entered]
    rw [completedGenerations_snoc, completed] at member
    rcases List.mem_append.mp member with before | now
    · exact owes.completed other before
    · rw [List.mem_singleton.mp now]
      exact reached
  · rw [completedGenerations_snoc, completed]
    refine List.nodup_append.mpr ⟨owes.once, List.nodup_singleton _, ?_⟩
    intro other member fresh now same
    rw [List.mem_singleton.mp now] at same
    exact unpaid (same ▸ member)

/-- The next generation takes over, and a finalizing predecessor stays owed. -/
theorem Owes.begin (owes : Owes past state) (sound : Sound state) (completed : here.completedGeneration = none)
    (generations : here.after.nextGeneration = state.nextGeneration + 1)
    (pending : here.after.pendingCompletions = state.retiredCompletions)
    (current : ∀ attempt, here.after.current = some attempt →
      attempt.generation = state.nextGeneration + 1 ∧ attempt.stage = .starting) :
    Owes (past ++ [here]) here.after := by
  have starting : ∀ generation, ¬here.after.Finalizing generation := by
    rintro generation ⟨attempt, known, -, finalizing⟩
    exact absurd ((current attempt known).2.symm.trans finalizing) (by decide)
  have entered : ∀ generation, Entered (past ++ [here]) generation ↔ Entered past generation := by
    intro generation
    rw [entered_snoc]
    exact or_iff_left (starting generation)
  constructor
  · intro generation
    rw [entered, completedGenerations_snoc, completed, Option.toList, List.append_nil, owes.owed, pending,
      mem_retiredCompletions]
    exact (or_iff_right (starting generation)).symm
  · intro generation member
    rw [generations]
    rw [pending] at member
    rcases mem_retiredCompletions.mp member with ⟨attempt, known, rfl, -⟩ | waiting
    · exact Nat.lt_succ_of_le (Nat.le_of_eq (sound.newest attempt known))
    · exact Nat.lt_succ_of_lt (owes.retired generation waiting)
  · intro generation reached
    rw [generations]
    exact Nat.le_succ_of_le (owes.entered generation ((entered generation).mp reached))
  · intro attempt known reached
    rw [entered, (current attempt known).1] at reached
    exact absurd (owes.entered _ reached) (Nat.not_succ_le_self _)
  · intro generation member
    rw [completedGenerations_snoc, completed] at member
    exact (entered generation).mpr (owes.completed generation (by simpa using member))
  · simpa [completedGenerations_snoc, completed] using owes.once

theorem Owes.step (owes : Owes past state) (sound : Sound state) {call : CaptureCall} {reply : CaptureReply}
    {after : CaptureSessionLifecycle} (moves : Moves state call reply after) :
    Owes (past ++ [⟨state, call, reply, after⟩]) after := by
  cases moves with
  | refused silent =>
    have completed := (CaptureStep.refuses_consumes_nothing ⟨state, call, reply, state⟩ silent).1
    exact owes.quiet completed rfl rfl (fun _ => Iff.rfl) fun attempt known live => ⟨attempt, known, rfl, live⟩
  | begins origin transport free =>
    refine owes.begin sound (by cases call <;> rfl) rfl rfl ?_
    rintro attempt ⟨⟩
    exact ⟨rfl, rfl⟩
  | continues attempt target known live idle next =>
    refine owes.quiet (by cases call <;> rfl) rfl rfl ?_ ?_
    · intro generation
      refine iff_of_false ?_ (not_finalizing_of_live known live generation)
      rintro ⟨moved, ⟨⟩, -, finalizing⟩
      rcases next with rfl | rfl | rfl <;> cases finalizing
    · rintro moved ⟨⟩ -
      exact ⟨attempt, known, rfl, live⟩
  | saves attempt generation known own live =>
    refine owes.quiet rfl rfl rfl ?_ ?_
    · intro generation
      refine iff_of_false ?_ (not_finalizing_of_live known live generation)
      rintro ⟨moved, ⟨⟩, -, ⟨⟩⟩
    · rintro moved ⟨⟩ -
      exact ⟨attempt, known, rfl, live⟩
  | flushFails attempt token silent claimed held known saving =>
    have live : attempt.stage.reservesWriter = true := by simp [saving, CaptureStage.reservesWriter]
    refine owes.quiet (CaptureStep.refuses_consumes_nothing ⟨state, call, reply, _⟩ silent).1 rfl rfl ?_ ?_
    · intro generation
      refine iff_of_false ?_ (not_finalizing_of_live known live generation)
      rintro ⟨moved, ⟨⟩, -, ⟨⟩⟩
    · rintro moved ⟨⟩ -
      exact ⟨attempt, known, rfl, live⟩
  | flushes attempt token transport claimed held known saving kept plain =>
    refine owes.finalize sound ?_ known (by simp [saving, CaptureStage.reservesWriter]) rfl rfl rfl
    rcases plain with rfl | rfl | ⟨owned, binding, rfl, rfl⟩
    · cases call <;> rfl
    · cases call <;> rfl
    · rfl
  | retires attempt generation known live =>
    rcases live with live | finalizing
    · exact owes.finalize sound rfl known live rfl rfl rfl
    · refine owes.quiet rfl rfl rfl ?_ ?_
      · intro generation
        simp [Finalizing, known, finalizing]
      · rintro moved ⟨⟩ ⟨⟩
  | completes attempt generation succeeded target known own finalizing next =>
    have done : target.reservesWriter = false ∧ target ≠ .finalizing := by
      rcases next with rfl | rfl <;> exact ⟨rfl, nofun⟩
    refine owes.pay rfl (.inl ⟨attempt, known, own, finalizing⟩) rfl ?_ (fun _ member => member) ?_
    · intro other
      have unpaid : generation ∉ state.pendingCompletions := by
        intro waiting
        exact absurd (owes.retired generation waiting) (by rw [← own, sound.newest attempt known]; exact Nat.lt_irrefl _)
      simp only [Finalizing, known, Option.some.injEq, exists_eq_left', done.2, and_false, false_or, own, finalizing, and_true]
      constructor
      · intro waiting
        exact ⟨fun same => unpaid (same ▸ waiting), .inr waiting⟩
      · rintro ⟨different, same | waiting⟩
        · exact absurd same.symm different
        · exact waiting
    · rintro moved ⟨⟩ live
      simp [done.1] at live
  | completesRetired generation succeeded owed =>
    refine owes.pay rfl (.inr owed) rfl ?_ (fun _ member => Finset.mem_of_mem_erase member) fun _ known _ => known
    intro other
    simp only [Finset.mem_erase]
    have current : state.Finalizing other → other ≠ generation := by
      rintro ⟨attempt, known, rfl, -⟩ rfl
      exact absurd (owes.retired _ owed) (by rw [sound.newest attempt known]; exact Nat.lt_irrefl _)
    constructor
    · rintro (now | ⟨different, waiting⟩)
      · exact ⟨current now, .inl now⟩
      · exact ⟨different, .inr waiting⟩
    · rintro ⟨different, now | waiting⟩
      · exact .inl now
      · exact .inr ⟨different, waiting⟩

/-- The link of the current attempt is the one it was begun with, and each generation lets it go once. -/
structure Lets (past : List CaptureStep) (state : CaptureSessionLifecycle) : Prop where
  bound : ∀ owned attempt, state.transport = .owned owned → state.current = some attempt →
    BoundTo past attempt.generation owned
  released : ∀ generation ∈ releasedGenerations past, Entered past generation
  once : (releasedGenerations past).Nodup

theorem Lets.quiet (lets : Lets past state) (released : here.releasedGeneration = none)
    (transport : ∀ owned, here.after.transport = .owned owned → state.transport = .owned owned)
    (current : ∀ attempt, here.after.current = some attempt →
      ∃ earlier, state.current = some earlier ∧ earlier.generation = attempt.generation) :
    Lets (past ++ [here]) here.after := by
  constructor
  · intro owned attempt binding known
    obtain ⟨earlier, before, same⟩ := current attempt known
    rw [← same]
    exact (lets.bound owned earlier (transport owned binding) before).snoc here
  · intro generation member
    rw [releasedGenerations_snoc, released] at member
    exact (entered_snoc past here).mpr (.inl (lets.released generation (by simpa using member)))
  · simpa [releasedGenerations_snoc, released] using lets.once

theorem Lets.step (lets : Lets past state) (sound : Sound state) (owes : Owes past state) {call : CaptureCall}
    {reply : CaptureReply} {after : CaptureSessionLifecycle} (moves : Moves state call reply after) :
    Lets (past ++ [⟨state, call, reply, after⟩]) after := by
  cases moves with
  | refused silent =>
    have released := (CaptureStep.refuses_consumes_nothing ⟨state, call, reply, state⟩ silent).2
    exact lets.quiet released (fun _ same => same) fun attempt known => ⟨attempt, known, rfl⟩
  | begins origin transport free bound =>
    have released : CaptureStep.releasedGeneration ⟨state, call, .generation (some (state.nextGeneration + 1)), { state with
        nextGeneration := state.nextGeneration + 1, pendingCompletions := state.retiredCompletions
        current := some ⟨state.nextGeneration + 1, origin, .starting⟩, transport, finishing := none }⟩ = none := by
      cases call <;> rfl
    constructor
    · rintro owned attempt binding ⟨⟩
      exact ⟨_, List.mem_append_right _ (List.mem_singleton_self _), rfl, bound owned binding⟩
    · intro generation member
      rw [releasedGenerations_snoc, released] at member
      exact (entered_snoc past _).mpr (.inl (lets.released generation (by simpa using member)))
    · rw [releasedGenerations_snoc, released]
      simpa using lets.once
  | continues attempt target known =>
    refine lets.quiet (by cases call <;> rfl) (fun _ same => same) ?_
    rintro moved ⟨⟩
    exact ⟨attempt, known, rfl⟩
  | saves attempt generation known =>
    refine lets.quiet rfl (fun _ same => same) ?_
    rintro moved ⟨⟩
    exact ⟨attempt, known, rfl⟩
  | flushFails attempt token silent claimed held known =>
    refine lets.quiet (CaptureStep.refuses_consumes_nothing ⟨state, call, reply, _⟩ silent).2 (fun _ same => same) ?_
    rintro moved ⟨⟩
    exact ⟨attempt, known, rfl⟩
  | flushes attempt token transport claimed held known saving kept plain =>
    have moved : ∀ after : CaptureSessionLifecycle, after.current = some { attempt with stage := .finalizing } →
        ∀ other, after.current = some other → ∃ earlier, state.current = some earlier ∧ earlier.generation = other.generation := by
      intro after current other found
      rw [current] at found
      cases found
      exact ⟨attempt, known, rfl⟩
    rcases plain with rfl | rfl | ⟨owned, binding, rfl, rfl⟩
    · exact lets.quiet (by cases call <;> rfl) kept (moved _ rfl)
    · exact lets.quiet (by cases call <;> rfl) kept (moved _ rfl)
    · obtain ⟨holder, found, -, own⟩ := sound.held token held
      rw [known] at found
      cases found
      have fresh : ¬Entered past token.generation := by
        intro reached
        have parted := owes.parted attempt known (own ▸ reached)
        simp [saving, CaptureStage.reservesWriter] at parted
      constructor
      · rintro other following rebound ⟨⟩
        exact (lets.bound other attempt (kept other rebound) known).snoc _
      · intro generation member
        rw [releasedGenerations_snoc] at member
        rw [entered_snoc]
        rcases List.mem_append.mp member with before | now
        · exact .inl (lets.released generation before)
        · refine .inr ⟨_, rfl, ?_, rfl⟩
          exact own.symm.trans (List.mem_singleton.mp now).symm
      · rw [releasedGenerations_snoc]
        refine List.nodup_append.mpr ⟨lets.once, List.nodup_singleton _, ?_⟩
        intro earlier member later now same
        rw [List.mem_singleton.mp now] at same
        exact fresh (same ▸ lets.released earlier member)
  | retires attempt _ known | completes attempt _ _ _ known =>
    refine lets.quiet rfl (fun _ same => same) ?_
    rintro moved ⟨⟩
    exact ⟨attempt, known, rfl⟩
  | completesRetired => exact lets.quiet rfl (fun _ same => same) fun attempt known => ⟨attempt, known, rfl⟩

structure Kept (past : List CaptureStep) (state : CaptureSessionLifecycle) : Prop where
  sound : Sound state
  issues : Issues past state
  owes : Owes past state
  lets : Lets past state

theorem Kept.initial : Kept [] {} := by
  refine ⟨⟨nofun, nofun, nofun⟩, ⟨List.Pairwise.nil, nofun, List.Pairwise.nil, nofun, nofun⟩, ?_, nofun, nofun, List.nodup_nil⟩
  refine ⟨?_, nofun, ?_, nofun, nofun, List.nodup_nil⟩
  · intro generation
    simp [Entered, Finalizing]
  · intro generation reached
    simp [Entered] at reached

theorem Kept.step (kept : Kept past state) (call : CaptureCall) :
    Kept (past ++ [Runs.take CaptureSessionLifecycle.step state call]) (state.step call).1 := by
  have moves := step_moves kept.sound call
  exact ⟨kept.sound.step moves, kept.issues.step moves, kept.owes.step kept.sound moves,
    kept.lets.step kept.sound kept.owes moves⟩

theorem kept (calls : List CaptureCall) :
    Kept (Runs.history CaptureSessionLifecycle.step {} calls) (Runs.final CaptureSessionLifecycle.step {} calls) :=
  Runs.induction_on .initial (fun _ _ call kept => kept.step call) calls

/-- A token that was issued and is not held is never held again. -/
theorem Moves.holds {call : CaptureCall} {reply : CaptureReply} (moves : Moves state call reply after)
    (issues : Issues past state) {token : CaptureFinishToken} (issued : token ∈ issuedTokens past)
    (held : after.finishing = some token) : state.finishing = some token := by
  cases moves with
  | refused | continues => exact held
  | begins => cases held
  | saves =>
    cases held
    exact absurd (issues.beneath _ issued) (Nat.not_succ_le_self _)
  | flushFails | flushes | retires => cases held
  | completes | completesRetired => exact held

/-- A refused call changes nothing, and a call with a token is taken only for the held one. -/
theorem Moves.refuses {call : CaptureCall} {reply : CaptureReply} (moves : Moves state call reply after)
    {token : CaptureFinishToken} (presented : call.finishToken = some token) (other : state.finishing ≠ some token) :
    after = state ∧ reply.Refuses := by
  cases moves with
  | refused silent => exact ⟨rfl, silent⟩
  | begins _ _ _ _ unclaimed | continues _ _ _ _ _ _ unclaimed => simp [unclaimed] at presented
  | saves => cases presented
  | flushFails _ _ _ claimed held | flushes _ _ _ claimed held =>
    rw [claimed] at presented
    cases presented
    exact absurd held other
  | retires | completes | completesRetired => cases presented

theorem Moves.historical {call : CaptureCall} (moves : Moves state call (.completion .historicalAttempt) after) :
    after.current = state.current ∧ after.transport = state.transport ∧ after.finishing = state.finishing := by
  cases moves with
  | refused | completesRetired => exact ⟨rfl, rfl, rfl⟩
  | flushFails attempt token silent => cases silent
  | flushes attempt token transport claimed held known saving kept plain =>
    rcases plain with equal | equal | ⟨owned, binding, rfl, equal⟩ <;> cases equal

private theorem Moves.lets_go {call : CaptureCall} {owned : ConnectionAttemptToken}
    (moves : Moves state call (.release (.releaseOwnedTransport owned)) after) :
    ∃ token attempt, call = .finishFlushWithTransport token true (some owned) ∧ state.finishing = some token ∧
      state.current = some attempt ∧ state.transport = .owned owned := by
  cases moves with
  | refused silent | flushFails _ _ silent => cases silent
  | flushes attempt token transport claimed held known saving kept plain =>
    rcases plain with equal | equal | ⟨bound, binding, same, equal⟩
    · cases equal
    · cases equal
    · cases equal
      exact ⟨token, attempt, same, held, known, binding⟩

/-- What a history of calls and the lifecycle it ended in say of each other. -/
structure Accounted (past : List CaptureStep) (state : CaptureSessionLifecycle) : Prop where
  issued : (issuedGenerations past).Pairwise (· < ·)
  completed_once : (completedGenerations past).Nodup
  completed_after : ∀ early here late generation, past = early ++ here :: late →
    here.completedGeneration = some generation → Entered early generation
  owed : ∀ generation, Entered past generation ∧ generation ∉ completedGenerations past ↔
    state.Finalizing generation ∨ generation ∈ state.pendingCompletions
  pending_retired : ∀ attempt, state.current = some attempt → attempt.generation ∉ state.pendingCompletions
  historical : ∀ here ∈ past, here.output = .completion .historicalAttempt →
    here.after.current = here.before.current ∧ here.after.transport = here.before.transport ∧
      here.after.finishing = here.before.finishing
  finishing : ∀ token, state.finishing = some token ↔ (issuedTokens past).getLast? = some token ∧
    ∃ attempt, state.current = some attempt ∧ attempt.stage = .saving ∧ token.generation = attempt.generation
  refused : ∀ here ∈ past, ∀ token, here.input.finishToken = some token → here.before.finishing ≠ some token →
    here.after = here.before ∧ here.output.Refuses
  withdrawn : ∀ early here late token, past = early ++ here :: late → token ∈ issuedTokens (early ++ [here]) →
    here.after.finishing ≠ some token → state.finishing ≠ some token
  released_once : (releasedGenerations past).Nodup
  released : ∀ early here late owned, past = early ++ here :: late →
    here.output = .release (.releaseOwnedTransport owned) →
    ∃ token, here.input = .finishFlushWithTransport token true (some owned) ∧ BoundTo early token.generation owned

theorem Kept.completed_after (kept : Kept past state) {call : CaptureCall} {generation : Nat}
    (completed : CaptureStep.completedGeneration (Runs.take CaptureSessionLifecycle.step state call) = some generation) :
    Entered past generation := by
  have later := (kept.step call).owes.completed generation
    (by simp [completedGenerations_snoc, completed])
  rcases (entered_snoc past _).mp later with before | now
  · exact before
  · have once := (kept.step call).owes
    have paid : generation ∈ completedGenerations (past ++ [Runs.take CaptureSessionLifecycle.step state call]) := by
      simp [completedGenerations_snoc, completed]
    exact absurd paid ((once.owed generation).mpr (.inl now)).2

theorem Kept.withdrawn (kept : Kept past state) {token : CaptureFinishToken} (issued : token ∈ issuedTokens past)
    (gone : state.finishing ≠ some token) (calls : List CaptureCall) :
    (Runs.final CaptureSessionLifecycle.step state calls).finishing ≠ some token := by
  induction calls generalizing past state with
  | nil => exact gone
  | cons call calls ih =>
    apply ih (kept.step call)
    · rw [issuedTokens_snoc]
      exact List.mem_append_left _ issued
    · intro held
      exact gone ((step_moves kept.sound call).holds kept.issues issued held)

/-- Writer receipts are neither lost nor counted twice, whatever the platform calls and
in whatever order: what is owed is what the lifecycle still holds, each receipt is taken
once, and a link is let go once, by the attempt that was begun with it. -/
theorem receipts_accounted (calls : List CaptureCall) :
    Accounted (Runs.history CaptureSessionLifecycle.step {} calls)
      (Runs.final CaptureSessionLifecycle.step {} calls) := by
  have ledger := kept calls
  constructor
  · exact ledger.issues.ascending
  · exact ledger.owes.once
  · intro early here late generation split completed
    obtain ⟨first, last, rfl, rfl, same, -⟩ := Runs.history_split split
    rw [same] at completed
    exact (kept first).completed_after completed
  · exact ledger.owes.owed
  · intro attempt known waiting
    have earlier := ledger.owes.retired _ waiting
    rw [ledger.sound.newest attempt known] at earlier
    exact Nat.lt_irrefl _ earlier
  · intro here member reply
    obtain ⟨early, late, split⟩ := List.append_of_mem member
    obtain ⟨first, last, rfl, rfl, same, -⟩ := Runs.history_split split
    have moves := step_moves (kept first).sound here.input
    rw [same] at reply ⊢
    simp only [Runs.take] at reply
    rw [reply] at moves
    exact moves.historical
  · intro token
    constructor
    · intro held
      exact ⟨ledger.issues.last token held, ledger.sound.held token held⟩
    · rintro ⟨latest, attempt, known, saving, own⟩
      cases held : (Runs.final CaptureSessionLifecycle.step {} calls).finishing with
      | none => exact absurd held (ledger.sound.saving attempt known saving)
      | some other => rw [← ledger.issues.last other held, latest]
  · intro here member token presented other
    obtain ⟨early, late, split⟩ := List.append_of_mem member
    obtain ⟨first, last, rfl, rfl, same, -⟩ := Runs.history_split split
    rw [same] at presented other ⊢
    exact (step_moves (kept first).sound here.input).refuses presented other
  · intro early here late token split issued gone
    obtain ⟨first, last, rfl, rfl, same, -⟩ := Runs.history_split split
    rw [same] at issued gone
    rw [Runs.final_append]
    exact ((kept first).step here.input).withdrawn issued gone last
  · exact ledger.lets.once
  · intro early here late owned split reply
    obtain ⟨first, last, rfl, rfl, same, -⟩ := Runs.history_split split
    have before := kept first
    have moves := step_moves before.sound here.input
    rw [same] at reply
    simp only [Runs.take] at reply
    rw [reply] at moves
    obtain ⟨token, attempt, call, held, known, binding⟩ := moves.lets_go
    obtain ⟨holder, found, -, own⟩ := before.sound.held token held
    rw [known] at found
    cases found
    exact ⟨token, call, own ▸ before.lets.bound owned attempt binding known⟩

end CaptureSessionLifecycle

end Cutout.Core

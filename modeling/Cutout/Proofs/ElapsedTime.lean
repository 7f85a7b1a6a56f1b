import Cutout.ElapsedTime

/-! Elapsed time does not depend on the order of clock readings. A started ride is
always the span from its start to its anchor, and the anchor is the largest reading
that was counted: readings while running, and the reading of every resumption. -/

namespace Cutout.Rides
open Library
open Protocols (saturatingAdd u64Max)

namespace ElapsedTimeContinuation
variable {elapsed : ElapsedTimeContinuation} {anchor start : Nat}

/-- The continuation that covers `start` to `anchor`. -/
def spanning (start anchor : Nat) (running : Bool) : ElapsedTimeContinuation :=
  { parts := { duration := some (anchor - start), anchor := some anchor, running, isPartial := false } }

private theorem started_spanning (time : MonotonicMilliseconds) : started time = spanning time.asU64 time.asU64 true := by
  simp only [started, spanning, Nat.sub_self]

section Ordered
variable (ordered : start ≤ anchor)
include ordered

/-- The span saturates nowhere: both ends are readings of a `u64` clock. -/
theorem span_extends {time : Nat} (later : anchor ≤ time) (bounded : time ≤ u64Max) :
    saturatingAdd (anchor - start) (time - anchor) = time - start := by
  have sum : anchor - start + (time - anchor) = time - start := by omega
  unfold saturatingAdd
  rw [sum]
  exact Nat.min_eq_left (Nat.le_trans (Nat.sub_le time start) bounded)

theorem observe_spanning (running : Bool) (time : MonotonicMilliseconds) :
    (spanning start anchor running).observe time =
      spanning start (if running then max anchor time.asU64 else anchor) running := by
  cases running with
  | false => rfl
  | true =>
    simp only [observe, spanning, addDuration, Bool.not_true, Bool.false_eq_true, if_false, if_true]
    by_cases early : time.asU64 ≤ anchor
    · rw [if_pos early, Nat.max_eq_left early]
    · have later : anchor ≤ time.asU64 := Nat.le_of_not_le early
      rw [if_neg early, Nat.max_eq_right later, span_extends ordered later time.bounded]

private theorem interrupted_spanning (running : Bool) (time : MonotonicMilliseconds) :
    (spanning start anchor running).interrupted time =
      spanning start (if running then max anchor time.asU64 else anchor) false := by
  unfold interrupted
  rw [observe_spanning ordered]
  rfl

private theorem resumed_spanning (running : Bool) (time : MonotonicMilliseconds) :
    (spanning start anchor running).resumed time = spanning start (max anchor time.asU64) true := by
  cases running with
  | true =>
    have observed := observe_spanning ordered true time
    rw [if_pos rfl] at observed
    exact observed
  | false =>
    simp only [resumed, spanning, addDuration, Bool.false_eq_true, if_false, Option.isNone_some]
    by_cases later : time.asU64 > anchor
    · simp only [if_pos later, span_extends ordered (Nat.le_of_lt later) time.bounded,
        Nat.max_eq_right (Nat.le_of_lt later)]
    · simp only [if_neg later, Nat.max_eq_left (Nat.le_of_not_gt later)]

def counts (elapsed : ElapsedTimeContinuation) (call : LiveCall) : Bool :=
  elapsed.parts.running || call = .resumed

def runsAfter (elapsed : ElapsedTimeContinuation) : LiveCall → Bool
  | .observe | .paused => elapsed.parts.running
  | .interrupted => false
  | .resumed => true

/-- What a live call does to a span: it moves the anchor to a counted reading, never back. -/
theorem live_spanning (running : Bool) (call : LiveCall) (time : MonotonicMilliseconds) :
    (spanning start anchor running).live call time =
      spanning start (if (spanning start anchor running).counts call then max anchor time.asU64 else anchor)
        ((spanning start anchor running).runsAfter call) := by
  cases call with
  | observe =>
    rw [live, observe_spanning ordered]
    cases running <;> rfl
  | paused =>
    rw [live, paused, observe_spanning ordered]
    cases running <;> rfl
  | interrupted =>
    rw [live, interrupted_spanning ordered]
    cases running <;> rfl
  | resumed =>
    rw [live, resumed_spanning ordered]
    cases running <;> rfl

private theorem projectedAt_spanning (bounded : anchor ≤ u64Max) (running : Bool) (time : MonotonicMilliseconds) :
    (spanning start anchor running).projectedAt time =
      .complete ((if running then max anchor time.asU64 else anchor) - start) := by
  cases running with
  | false => rfl
  | true =>
    simp only [projectedAt, spanning, if_true, Bool.false_eq_true, if_false]
    rcases Nat.le_total anchor time.asU64 with later | early
    · rw [Nat.max_eq_right later, span_extends ordered later time.bounded]
    · have none : time.asU64 - anchor = anchor - anchor := by omega
      rw [Nat.max_eq_left early, none, span_extends ordered (Nat.le_refl anchor) bounded]

end Ordered

def countedReadings (history : List (Step ElapsedTimeContinuation (LiveCall × MonotonicMilliseconds) Unit)) : List Nat :=
  history.filterMap fun step => if step.before.counts step.input.1 then some step.input.2.asU64 else none

/-- What one live call may do to the fields: the anchor does not go back and the duration grows with it exactly. -/
def Advances (step : Step ElapsedTimeContinuation (LiveCall × MonotonicMilliseconds) Unit) : Prop :=
  ∃ before after duration, step.before.parts.anchor = some before ∧ step.after.parts.anchor = some after ∧
    before ≤ after ∧ step.before.parts.duration = some duration ∧
    step.after.parts.duration = some (duration + (after - before)) ∧ duration + (after - before) ≤ u64Max

/-- A run of live calls keeps the span from the start to the largest counted reading. -/
theorem live_run (start : MonotonicMilliseconds) (calls : List (LiveCall × MonotonicMilliseconds)) :
    let history := Runs.history liveStep (started start) calls
    let anchor := (countedReadings history).foldl max start.asU64
    (∃ running, Runs.final liveStep (started start) calls = spanning start.asU64 anchor running) ∧
      start.asU64 ≤ anchor ∧ anchor ≤ u64Max ∧ ∀ step ∈ history, Advances step := by
  intro history
  apply @Runs.induction_on _ _ _ liveStep
    (P := fun history elapsed =>
      (∃ running, elapsed = spanning start.asU64 ((countedReadings history).foldl max start.asU64) running) ∧
        start.asU64 ≤ (countedReadings history).foldl max start.asU64 ∧
        (countedReadings history).foldl max start.asU64 ≤ u64Max ∧ ∀ step ∈ history, Advances step)
  · refine ⟨⟨true, started_spanning start⟩, Nat.le_refl _, start.bounded, ?_⟩
    intro step member
    cases member
  · intro history elapsed input known
    obtain ⟨⟨running, same⟩, ordered, bounded, advanced⟩ := known
    generalize reached : (countedReadings history).foldl max start.asU64 = anchor at same ordered bounded
    have reading : (countedReadings (history ++ [Runs.take liveStep elapsed input])).foldl max start.asU64 =
        if elapsed.counts input.1 then max anchor input.2.asU64 else anchor := by
      unfold countedReadings at reached ⊢
      rw [List.filterMap_append, List.foldl_append, reached]
      by_cases counted : elapsed.counts input.1 = true
      · simp only [Runs.take, List.filterMap_cons, List.filterMap_nil, if_pos counted, List.foldl_cons, List.foldl_nil]
      · simp only [Runs.take, List.filterMap_cons, List.filterMap_nil, if_neg counted, List.foldl_nil]
    have raised : anchor ≤ if elapsed.counts input.1 then max anchor input.2.asU64 else anchor := by
      split
      · exact Nat.le_max_left _ _
      · exact Nat.le_refl _
    have capped : (if elapsed.counts input.1 then max anchor input.2.asU64 else anchor) ≤ u64Max := by
      split
      · exact Nat.max_le.mpr ⟨bounded, input.2.bounded⟩
      · exact bounded
    have moved : (liveStep elapsed input).1 =
        spanning start.asU64 (if elapsed.counts input.1 then max anchor input.2.asU64 else anchor)
          (elapsed.runsAfter input.1) := by
      rw [same]
      exact live_spanning ordered running input.1 input.2
    rw [reading, moved]
    refine ⟨⟨_, rfl⟩, Nat.le_trans ordered raised, capped, ?_⟩
    intro step member
    rcases List.mem_append.mp member with earlier | last
    · exact advanced step earlier
    · rw [List.mem_singleton.mp last]
      refine ⟨anchor, _, anchor - start.asU64, ?_, ?_, raised, ?_, ?_, ?_⟩
      · exact congrArg (·.parts.anchor) same
      · exact congrArg (·.parts.anchor) moved
      · exact congrArg (·.parts.duration) same
      · refine (congrArg (·.parts.duration) moved).trans (congrArg some ?_)
        omega
      · omega

/-- A continuation without an anchor or a running clock: nothing but a resumption moves it. -/
def Frozen (elapsed : ElapsedTimeContinuation) : Prop :=
  elapsed.parts.running = false ∧ elapsed.parts.anchor = none

private theorem stopped_frozen (elapsed : ElapsedTimeContinuation) (time : MonotonicMilliseconds) :
    (elapsed.stopped time).Frozen := ⟨rfl, rfl⟩

theorem Frozen.observe (frozen : elapsed.Frozen) (time : MonotonicMilliseconds) :
    elapsed.observe time = elapsed := by
  unfold ElapsedTimeContinuation.observe
  rw [frozen.1]
  rfl

/-- Calls other than a resumption keep a frozen continuation frozen and its duration as it is;
only a restart changes anything, and then only the coverage. -/
theorem Frozen.step (frozen : elapsed.Frozen) (call : ElapsedCall) (still : ∀ time, call ≠ .live .resumed time) :
    (elapsed.step call).1.Frozen ∧ (elapsed.step call).1.parts.duration = elapsed.parts.duration ∧
      (call ≠ .restoredAfterRestart → (elapsed.step call).1 = elapsed) := by
  have interrupted : ({ parts := { elapsed.parts with running := false } } : ElapsedTimeContinuation) = elapsed := by
    rw [← frozen.1]
  have stopped : ({ parts := { elapsed.parts with running := false, anchor := none } } : ElapsedTimeContinuation) =
      elapsed := by
    rw [← frozen.1, ← frozen.2]
  cases call with
  | live call time =>
    have kept : elapsed.live call time = elapsed := by
      cases call with
      | observe | paused => exact frozen.observe time
      | interrupted =>
        rw [live, ElapsedTimeContinuation.interrupted, frozen.observe]
        exact interrupted
      | resumed => exact absurd rfl (still time)
    refine ⟨?_, congrArg (·.parts.duration) kept, fun _ => kept⟩
    change (elapsed.live call time).Frozen
    rw [kept]
    exact frozen
  | stopped time =>
    have kept : elapsed.stopped time = elapsed := by
      rw [ElapsedTimeContinuation.stopped, frozen.observe]
      exact stopped
    exact ⟨⟨rfl, rfl⟩, congrArg (·.parts.duration) kept, fun _ => kept⟩
  | restoredAfterRestart => exact ⟨⟨rfl, rfl⟩, rfl, fun other => absurd rfl other⟩

theorem Frozen.run (frozen : elapsed.Frozen) (calls : List ElapsedCall)
    (still : ∀ call ∈ calls, ∀ time, call ≠ .live .resumed time) :
    (Runs.final ElapsedTimeContinuation.step elapsed calls).parts.duration = elapsed.parts.duration ∧
      (.restoredAfterRestart ∉ calls → Runs.final ElapsedTimeContinuation.step elapsed calls = elapsed) := by
  induction calls generalizing elapsed with
  | nil => exact ⟨rfl, fun _ => rfl⟩
  | cons call calls ih =>
    obtain ⟨again, lasting, unchanged⟩ := frozen.step call (still call List.mem_cons_self)
    obtain ⟨duration, same⟩ := ih again fun other member => still other (List.mem_cons_of_mem call member)
    refine ⟨duration.trans lasting, ?_⟩
    intro running
    rw [List.mem_cons, not_or] at running
    exact (same running.2).trans (unchanged (Ne.symm running.1))

/-- A resumption after a restart keeps the known duration as a lower bound. -/
theorem resumed_restored (elapsed : ElapsedTimeContinuation) (time : MonotonicMilliseconds) :
    (elapsed.restoredAfterRestart.resumed time).summary = .partially (elapsed.parts.duration.getD 0) := by
  cases known : elapsed.parts.duration with
  | none => simp only [restoredAfterRestart, resumed, summary, known, Bool.false_eq_true, if_false, Option.isNone_none, if_true,
      Option.getD_none]
  | some duration => simp only [restoredAfterRestart, resumed, summary, known, Bool.false_eq_true, if_false, Option.isNone_some,
      Option.isSome_some, if_true, Option.getD_some]

/-- The fields agree, as `fromStateParts` asks. -/
structure Consistent (elapsed : ElapsedTimeContinuation) : Prop where
  unavailable : elapsed.parts.duration = none →
    elapsed.parts.anchor = none ∧ elapsed.parts.running = false ∧ elapsed.parts.isPartial = false
  anchored : elapsed.parts.running = true → elapsed.parts.anchor.isSome = true

theorem fromStateParts_ok (consistent : elapsed.Consistent) : fromStateParts elapsed.parts = .ok elapsed := by
  unfold fromStateParts
  rw [if_neg]
  intro refused
  rw [Bool.or_eq_true, Bool.and_eq_true, Bool.and_eq_true, Option.isNone_iff_eq_none, Option.isNone_iff_eq_none] at refused
  rcases refused with ⟨missing, claimed⟩ | ⟨running, missing⟩
  · obtain ⟨unanchored, stands, complete⟩ := consistent.unavailable missing
    rw [unanchored, stands, complete] at claimed
    cases claimed
  · have anchored := consistent.anchored running
    rw [missing] at anchored
    cases anchored

private theorem consistent_of_accepted {parts : ElapsedTimeStateParts} (accepted : fromStateParts parts = .ok elapsed) :
    elapsed.Consistent := by
  unfold fromStateParts at accepted
  split at accepted
  · cases accepted
  next passes =>
    cases accepted
    rw [Bool.or_eq_true, not_or, Bool.and_eq_true, Bool.and_eq_true, not_and, not_and] at passes
    refine ⟨?_, ?_⟩
    · intro missing
      have idle := passes.1 (Option.isNone_iff_eq_none.mpr missing)
      rw [Bool.or_eq_true, Bool.or_eq_true, not_or, not_or] at idle
      exact ⟨Option.not_isSome_iff_eq_none.mp idle.1.1, Bool.eq_false_of_not_eq_true idle.1.2,
        Bool.eq_false_of_not_eq_true idle.2⟩
    · intro running
      exact Option.isSome_iff_ne_none.mpr fun missing => passes.2 running (Option.isNone_iff_eq_none.mpr missing)

theorem addDuration_shape (elapsed : ElapsedTimeContinuation) (milliseconds : Nat) :
    ∃ duration, (duration = none ↔ elapsed.parts.duration = none) ∧
      elapsed.addDuration milliseconds = { parts := { elapsed.parts with duration } } := by
  unfold addDuration
  split
  next known => exact ⟨_, by simp [known], rfl⟩
  next => exact ⟨elapsed.parts.duration, Iff.rfl, rfl⟩

theorem Consistent.observe (consistent : elapsed.Consistent) (time : MonotonicMilliseconds) :
    (elapsed.observe time).Consistent ∧ (elapsed.observe time).parts.running = elapsed.parts.running := by
  unfold ElapsedTimeContinuation.observe
  split
  · exact ⟨consistent, rfl⟩
  split
  · exact ⟨consistent, rfl⟩
  next anchor anchored =>
    split
    · exact ⟨consistent, rfl⟩
    · obtain ⟨duration, known, same⟩ := addDuration_shape elapsed (time.asU64 - anchor)
      rw [same]
      refine ⟨⟨?_, fun _ => rfl⟩, rfl⟩
      intro missing
      have idle := (consistent.unavailable (known.mp missing)).1
      rw [anchored] at idle
      cases idle

private theorem addDuration_known (known : elapsed.parts.duration ≠ none) (milliseconds : Nat) :
    (elapsed.addDuration milliseconds).parts.duration ≠ none := by
  obtain ⟨duration, unchanged, same⟩ := addDuration_shape elapsed milliseconds
  rw [same]
  intro missing
  exact known (unchanged.mp missing)

theorem Consistent.resumed (consistent : elapsed.Consistent) (time : MonotonicMilliseconds) :
    (elapsed.resumed time).Consistent := by
  unfold ElapsedTimeContinuation.resumed
  split
  · exact (consistent.observe time).1
  · refine ⟨?_, fun _ => rfl⟩
    intro missing
    -- the duration was made known before the gap was added
    exfalso
    dsimp only at missing
    generalize start : (if elapsed.parts.duration.isNone = true then
      ({ parts := { elapsed.parts with duration := some 0, isPartial := true } } : ElapsedTimeContinuation)
      else elapsed) = begun at missing
    have known : begun.parts.duration ≠ none := by
      rw [← start]
      split
      · exact Option.some_ne_none 0
      next present => exact fun absent => present (Option.isNone_iff_eq_none.mpr absent)
    split at missing
    · split at missing
      · exact addDuration_known known _ missing
      · exact known missing
    · exact known missing

theorem Consistent.step (consistent : elapsed.Consistent) (call : ElapsedCall) :
    (elapsed.step call).1.Consistent := by
  cases call with
  | live call time =>
    cases call with
    | observe | paused => exact (consistent.observe time).1
    | resumed => exact consistent.resumed time
    | interrupted =>
      have observed := (consistent.observe time).1
      refine ⟨?_, nofun⟩
      intro missing
      obtain ⟨anchor, -, complete⟩ := observed.unavailable missing
      exact ⟨anchor, rfl, complete⟩
  | stopped time =>
    have observed := (consistent.observe time).1
    exact ⟨fun missing => ⟨rfl, rfl, (observed.unavailable missing).2.2⟩, nofun⟩
  | restoredAfterRestart =>
    refine ⟨?_, nofun⟩
    intro missing
    have unknown : elapsed.parts.duration = none := missing
    refine ⟨rfl, rfl, ?_⟩
    simp only [ElapsedTimeContinuation.step, restoredAfterRestart, unknown, Option.isSome_none, Bool.false_eq_true, if_false]
    exact (consistent.unavailable unknown).2.2

/-- Where a continuation comes from: a ride start, no evidence, a published summary or accepted stored fields. -/
inductive Initial : ElapsedTimeContinuation → Prop where
  | started (time : MonotonicMilliseconds) : Initial (started time)
  | default : Initial {}
  | saved (summary : ElapsedTimeSummary) : Initial (fromSummary summary)
  | stored {parts : ElapsedTimeStateParts} {elapsed : ElapsedTimeContinuation}
      (accepted : fromStateParts parts = .ok elapsed) : Initial elapsed

theorem Initial.consistent (initial : Initial elapsed) : elapsed.Consistent := by
  cases initial with
  | started => exact ⟨nofun, fun _ => rfl⟩
  | default => exact ⟨fun _ => ⟨rfl, rfl, rfl⟩, nofun⟩
  | saved summary =>
    cases summary with
    | unavailable => exact ⟨fun _ => ⟨rfl, rfl, rfl⟩, nofun⟩
    | complete | partially => exact ⟨nofun, nofun⟩
  | stored accepted => exact consistent_of_accepted accepted

/-- A reading of the clock cannot rewind or inflate elapsed time. Over any live calls after a start,
in any order of readings, the duration is the largest counted reading less the start; a projection
adds only what lies past the anchor, whether or not an earlier reading is observed first. A stop
freezes the summary until a resumption, a restart keeps the duration as a lower bound, and every
state that any calls reach is accepted back from storage. -/
theorem elapsed_time_counts_the_largest_reading :
    (∀ (start : MonotonicMilliseconds) (calls : List (LiveCall × MonotonicMilliseconds)),
      let history := Runs.history liveStep (started start) calls
      let elapsed := Runs.final liveStep (started start) calls
      let anchor := (countedReadings history).foldl max start.asU64
      (∀ step ∈ history, Advances step) ∧ start.asU64 ≤ anchor ∧
        elapsed.parts.anchor = some anchor ∧ elapsed.parts.duration = some (anchor - start.asU64) ∧
        ∀ time, elapsed.projectedAt time =
            .complete ((if elapsed.parts.running then max anchor time.asU64 else anchor) - start.asU64) ∧
          ∀ earlier, earlier.asU64 ≤ time.asU64 → (elapsed.observe earlier).projectedAt time = elapsed.projectedAt time) ∧
    (∀ (elapsed : ElapsedTimeContinuation) (time : MonotonicMilliseconds) (calls : List ElapsedCall),
      (∀ call ∈ calls, ∀ later, call ≠ .live .resumed later) →
        (Runs.final step (elapsed.stopped time) calls).summary.duration = (elapsed.stopped time).summary.duration ∧
        (.restoredAfterRestart ∉ calls →
          (Runs.final step (elapsed.stopped time) calls).summary = (elapsed.stopped time).summary)) ∧
    (∀ (elapsed : ElapsedTimeContinuation) (time : MonotonicMilliseconds),
      (elapsed.restoredAfterRestart.resumed time).summary = .partially (elapsed.summary.duration.getD 0)) ∧
    (∀ (elapsed : ElapsedTimeContinuation) (calls : List ElapsedCall), Initial elapsed →
      fromStateParts (Runs.final step elapsed calls).parts = .ok (Runs.final step elapsed calls)) := by
  have summary_duration : ∀ elapsed : ElapsedTimeContinuation, elapsed.summary.duration = elapsed.parts.duration := by
    intro elapsed
    unfold summary
    split
    next missing => exact missing.symm
    next duration known =>
      rw [known]
      split <;> rfl
  refine ⟨?_, ?_, ?_, ?_⟩
  · intro start calls history elapsed anchor
    obtain ⟨⟨running, same⟩, ordered, bounded, advanced⟩ := live_run start calls
    refine ⟨advanced, ordered, congrArg (·.parts.anchor) same, congrArg (·.parts.duration) same, ?_⟩
    intro time
    have here : elapsed = spanning start.asU64 anchor running := same
    have projected : ∀ reached, start.asU64 ≤ reached → reached ≤ u64Max →
        (spanning start.asU64 reached running).projectedAt time =
          .complete ((if running then max reached time.asU64 else reached) - start.asU64) := by
      intro reached after capped
      exact projectedAt_spanning after capped running time
    refine ⟨?_, ?_⟩
    · rw [here]
      exact projected anchor ordered bounded
    · intro earlier before
      rw [here, observe_spanning ordered, projected anchor ordered bounded]
      cases running with
      | false => exact projected anchor ordered bounded
      | true =>
        rw [if_pos rfl, if_pos rfl, projected _ (Nat.le_trans ordered (Nat.le_max_left _ _))
          (Nat.max_le.mpr ⟨bounded, earlier.bounded⟩), if_pos rfl, Nat.max_assoc, Nat.max_eq_right before]
  · intro elapsed time calls still
    obtain ⟨lasting, same⟩ := (stopped_frozen elapsed time).run calls still
    refine ⟨?_, fun running => congrArg summary (same running)⟩
    rw [summary_duration, summary_duration, lasting]
  · intro elapsed time
    rw [summary_duration]
    exact resumed_restored elapsed time
  · intro elapsed calls initial
    exact fromStateParts_ok (Runs.invariant (fun _ call consistent => consistent.step call) initial.consistent calls)

end ElapsedTimeContinuation

end Cutout.Rides

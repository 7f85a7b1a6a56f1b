import Cutout.Proofs.ObservationTurns

/-! Who answers for failed observations. A ledger kept beside the run gives every failure
to the fence that covers it or to the next one; the queue's two flags say where the ledger
has failures, so that none is lost and none is reported without one. -/

namespace Cutout.Music
open Library
variable {past : List QueueStep} {stop : StopState} {queue : ObservationQueue} {here : QueueStep} {id : Nat}
variable (calls : List QueueCall)

/-- The failures a fence answers for. Observations admitted before it have
identifiers below the bound. -/
structure FenceAccount where
  id : Nat
  bound : Nat
  failures : List Nat
  told : Bool
  deriving Repr, DecidableEq

structure FailureLedger where
  unreported : List Nat := []
  fence : Option FenceAccount := none
  reports : List (Reporter × List Nat) := []
  deriving Repr, DecidableEq

namespace FailureLedger

/-- The active fence answers for the failures of the observations admitted before it. -/
def note (ledger : FailureLedger) (failures : List Nat) : FailureLedger :=
  match ledger.fence with
  | none => { ledger with unreported := ledger.unreported ++ failures }
  | some account =>
    { ledger with
      fence := some { account with failures := account.failures ++ failures.filter fun id => decide (id < account.bound) }
      unreported := ledger.unreported ++ failures.filter fun id => !decide (id < account.bound) }

/-- A fence takes on what nobody has reported and hands it back when it is dropped
unread; only its first report counts. -/
def record (ledger : FailureLedger) (nextId : Nat) : Option FenceEvent → FailureLedger
  | none => ledger
  | some (.begun id) => { ledger with unreported := [], fence := some ⟨id, nextId, ledger.unreported, false⟩ }
  | some (.reported (.fence _)) =>
    match ledger.fence with
    | some account =>
      if account.told then ledger
      else
        { ledger with
          fence := some { account with told := true }
          reports := ledger.reports ++ [(.fence account.id, account.failures)] }
    | none => ledger
  | some (.reported .quiescentStop) =>
    { ledger with unreported := [], reports := ledger.reports ++ [(.quiescentStop, ledger.unreported)] }
  | some (.dropped id) =>
    match ledger.fence with
    | some account =>
      if account.id = id then
        { ledger with fence := none, unreported := ledger.unreported ++ if account.told then [] else account.failures }
      else ledger
    | none => ledger

def take (ledger : FailureLedger) (here : QueueStep) : FailureLedger :=
  (ledger.note here.failures).record here.before.nextId here.fenceEvent

def of (past : List QueueStep) : FailureLedger := past.foldl take {}

@[simp] theorem of_snoc (past : List QueueStep) (here : QueueStep) : of (past ++ [here]) = (of past).take here := by
  simp [of]

def held (ledger : FailureLedger) : List Nat :=
  match ledger.fence with
  | some account => if account.told then [] else account.failures
  | none => []

def reported (ledger : FailureLedger) : List Nat := ledger.reports.flatMap Prod.snd

@[simp] theorem note_nil (ledger : FailureLedger) : ledger.note [] = ledger := by
  obtain ⟨unreported, fence, reports⟩ := ledger
  cases fence <;> simp [note]

theorem take_quiet {ledger : FailureLedger} (healthy : here.failures = []) :
    ledger.take here = ledger.record here.before.nextId here.fenceEvent := by
  rw [take, healthy, note_nil]

end FailureLedger

def QueueStep.reports (here : QueueStep) : Prop := ∃ reporter, here.fenceEvent = some (.reported reporter)

def FailedBeforeReport (past : List QueueStep) (id : Nat) : Prop :=
  ∃ early failing late, past = early ++ failing :: late ∧ id ∈ failing.failures ∧ ∃ here ∈ late, here.reports

theorem FailedBeforeReport.extend (failed : FailedBeforeReport past id) (here : QueueStep) :
    FailedBeforeReport (past ++ [here]) id := by
  obtain ⟨early, failing, late, rfl, member, report, present, reports⟩ := failed
  exact ⟨early, failing, late ++ [here], by simp, member, report, List.mem_append_left _ present, reports⟩

theorem FailedBeforeReport.reported (failed : id ∈ failedIds past) (reports : here.reports) :
    FailedBeforeReport (past ++ [here]) id := by
  obtain ⟨failing, member, fell⟩ := List.mem_flatMap.mp failed
  obtain ⟨early, late, rfl⟩ := List.append_of_mem member
  exact ⟨early, failing, late ++ [here], by simp, fell, here, by simp, reports⟩

/-- The fence was begun in the run, and the observations admitted before it are those below the bound. -/
def BegunWith (past : List QueueStep) (fence bound : Nat) : Prop :=
  ∃ early begun late, past = early ++ begun :: late ∧ begun.fenceEvent = some (.begun fence) ∧
    admittedIds early = List.range bound

theorem BegunWith.extend {fence bound : Nat} (begun : BegunWith past fence bound) (here : QueueStep) :
    BegunWith (past ++ [here]) fence bound := by
  obtain ⟨early, start, late, rfl, event, admissions⟩ := begun
  exact ⟨early, start, late ++ [here], by simp, event, admissions⟩

structure Fenced (past : List QueueStep) (queue : ObservationQueue) (unreported : List Nat) (stop : StopState)
    (account : FenceAccount) : Prop where
  same : account.id = stop.id
  failed : stop.failed = true ↔ account.failures ≠ []
  observed : stop.failureObserved = account.told
  told : account.told = true → account.failures ≠ [] ∧
    ∀ entry ∈ queue.entries, entry.id < account.bound → entry.phase.terminal = true
  cutoff : ∀ id, stop.covers id = true → id < account.bound
  covered : ∀ entry ∈ queue.entries, entry.id < account.bound → stop.owns queue.epoch entry.id = true
  later : ∀ id ∈ unreported, account.bound ≤ id
  bounded : account.bound ≤ queue.nextId
  begun : BegunWith past stop.id account.bound

structure Booked (past : List QueueStep) (queue : ObservationQueue) (ledger : FailureLedger) : Prop where
  accounted : (failedIds past).Perm (ledger.reported ++ ledger.held ++ ledger.unreported)
  failure : queue.failure = true ↔ ledger.unreported ≠ []
  fence : queue.stop = none ∧ ledger.fence = none ∨ ∃ stop account, queue.stop = some stop ∧
    ledger.fence = some account ∧ Fenced past queue ledger.unreported stop account
  filled : ∀ report ∈ ledger.reports, report.2 ≠ []
  earlier : ∀ report ∈ ledger.reports, ∀ id ∈ report.2, FailedBeforeReport past id

theorem Booked.initial : Booked [] {} {} := by
  refine ⟨.refl _, by simp, .inl ⟨rfl, rfl⟩, ?_, ?_⟩
  all_goals
    intro report member
    cases member

namespace Turn
variable {here : QueueStep}

theorem known_same (same : here.after.entries.map Entry.id = here.before.entries.map Entry.id) :
    ∀ entry ∈ here.after.entries, here.before.nextId ≤ entry.id ∨ ∃ old ∈ here.before.entries, old.id = entry.id := by
  intro entry member
  have present := List.mem_map_of_mem (f := Entry.id) member
  rw [same] at present
  exact .inr (List.mem_map.mp present)

theorem known (turn : Turn here) :
    ∀ entry ∈ here.after.entries, here.before.nextId ≤ entry.id ∨ ∃ old ∈ here.before.entries, old.id = entry.id := by
  cases turn with
  | idle published after => exact known_same (by rw [after])
  | entered owner after =>
    intro entry member
    rw [after] at member
    rcases List.mem_append.mp member with there | new
    · exact .inr ⟨entry, there, rfl⟩
    · obtain rfl := List.mem_singleton.mp new
      exact .inl (Nat.le_refl _)
  | advanced early entry late phase published head advance after => exact known_same (by simp [after, head.cut])
  | fell kept gone published epoch falls renewed after =>
    intro entry member
    rw [after] at member
    exact .inr (List.mem_map.mp (falls.sublist.subset (List.mem_map_of_mem member)))
  | begun _ after | told _ _ _ _ after | dropped _ _ after | quiescent _ _ after => exact known_same (by rw [after])

theorem epoch (turn : Turn here) : here.after.epoch = here.before.epoch ∨ here.after.entries = [] := by
  cases turn with
  | fell kept gone published epoch falls renewed after =>
    rw [after]
    exact renewed
  | _ => simp_all

end Turn

namespace Fenced
variable {past : List QueueStep} {here : QueueStep} {unreported : List Nat} {stop : StopState} {account : FenceAccount}

/-- A fence keeps its account over a step that leaves its flags alone. -/
theorem extend (fenced : Fenced past here.before unreported stop account) (taken : Turn here) :
    Fenced (past ++ [here]) here.after unreported stop account := by
  refine ⟨fenced.same, fenced.failed, fenced.observed, ?_, fenced.cutoff, ?_, fenced.later, ?_, fenced.begun.extend here⟩
  · intro told
    refine ⟨(fenced.told told).1, ?_⟩
    intro entry member below
    by_contra unfinished
    rcases taken.follows entry member (by simpa using unfinished) with fresh | ⟨old, there, undone, same, -⟩
    · have := fenced.bounded
      omega
    · have finished := (fenced.told told).2 old there (by omega)
      simp [finished] at undone
  · intro entry member below
    rcases taken.epoch with same | empty
    · rw [same]
      rcases taken.known entry member with fresh | ⟨old, there, equal⟩
      · have := fenced.bounded
        omega
      · exact equal ▸ fenced.covered old there (by omega)
    · rw [empty] at member
      cases member
  · have := taken.admits
    have := fenced.bounded
    omega

private theorem owns_iff (fenced : Fenced past here.before unreported stop account)
    (member : id ∈ openIds here.before.entries) : stop.owns here.before.epoch id = decide (id < account.bound) := by
  obtain ⟨entry, present, -, rfl⟩ := mem_openIds.mp member
  by_cases below : entry.id < account.bound
  · rw [fenced.covered entry present below, decide_eq_true below]
  · rw [decide_eq_false below, ← Bool.not_eq_true]
    intro owned
    simp only [StopState.owns, Bool.and_eq_true] at owned
    exact below (fenced.cutoff entry.id owned.2)

end Fenced

theorem any_congr_mem {ids : List Nat} {p q : Nat → Bool} (same : ∀ id ∈ ids, p id = q id) : ids.any p = ids.any q := by
  induction ids with
  | nil => rfl
  | cons id ids ih =>
    rw [List.any_cons, List.any_cons, same id List.mem_cons_self, ih fun other member => same other (List.mem_cons_of_mem _ member)]

namespace Booked
variable {past : List QueueStep} {here : QueueStep} {ledger : FailureLedger}

section Booked
variable (booked : Booked past here.before ledger)
include booked

/-- A step that neither fails an observation nor touches a fence. -/
theorem same (taken : Turn here) (healthy : here.failures = []) (stop : here.after.stop = here.before.stop)
    (failure : here.after.failure = here.before.failure) : Booked (past ++ [here]) here.after ledger := by
  refine ⟨?_, ?_, ?_, booked.filled, ?_⟩
  · rw [failedIds_snoc, healthy, List.append_nil]
    exact booked.accounted
  · rw [failure]
    exact booked.failure
  · rw [stop]
    rcases booked.fence with free | ⟨stop, account, active, kept, fenced⟩
    · exact .inl free
    · exact .inr ⟨stop, account, active, kept, fenced.extend taken⟩
  · intro report member id inside
    exact (booked.earlier report member id inside).extend here

theorem begins (tallied : Tallied past here.before) (free : here.before.stop = none)
    (after : here.after = { here.before with
      stopId := here.before.stopId + 1
      stop := some ⟨here.before.stopId, here.before.epoch, here.before.entries.getLast?.map Entry.id,
        here.before.failure, false⟩
      failure := false })
    (event : here.fenceEvent = some (.begun here.before.stopId)) :
    Booked (past ++ [here]) here.after (ledger.record here.before.nextId here.fenceEvent) := by
  have healthy : here.failures = [] := Turn.failures_same (by rw [after])
  have unfenced : ledger.fence = none := by
    rcases booked.fence with ⟨-, unfenced⟩ | ⟨stop, account, active, -, -⟩
    · exact unfenced
    · rw [free] at active
      cases active
  rw [event, FailureLedger.record]
  refine ⟨?_, ?_, ?_, booked.filled, ?_⟩
  · have accounted := booked.accounted
    simp only [FailureLedger.held, unfenced, List.append_nil] at accounted
    rw [failedIds_snoc, healthy, List.append_nil]
    simpa [FailureLedger.held, FailureLedger.reported] using accounted
  · rw [after]
    simp
  · right
    refine ⟨_, _, by rw [after], rfl, ?_⟩
    refine ⟨rfl, booked.failure, rfl, (nomatch ·), ?_, ?_, ?_, by rw [after], ?_⟩
    · intro id covered
      cases last : here.before.entries.getLast? with
      | none => simp [StopState.covers, last] at covered
      | some entry =>
        have := tallied.ordered.below entry (List.mem_of_getLast? last)
        simp only [StopState.covers, last, Option.map_some, Option.any_some, decide_eq_true_eq] at covered
        change id < here.before.nextId
        omega
    · intro entry member _
      rw [after] at member ⊢
      obtain ⟨front, last, cut⟩ : ∃ front last, here.before.entries = front ++ [last] := by
        rcases List.eq_nil_or_concat here.before.entries with empty | ⟨front, last, cut⟩
        · rw [empty] at member
          cases member
        · exact ⟨front, last, by rw [cut, List.concat_eq_append]⟩
      have least : entry.id ≤ last.id := by
        rw [cut] at member
        rcases List.mem_append.mp member with before | same
        · exact Nat.le_of_lt ((tallied.ordered.split cut).1 entry before)
        · rw [List.mem_singleton.mp same]
      simp [StopState.owns, StopState.covers, cut, least]
    · intro id member
      cases member
    · exact ⟨past, here, [], rfl, event, tallied.admissions⟩
  · intro report member id inside
    exact (booked.earlier report member id inside).extend here

theorem falls (taken : Turn here) {kept : List Entry} {gone : List Nat} (falls : Falls here.before.entries kept gone)
    (entries : here.after.entries = kept)
    (stop : here.after.stop = (here.before.markFailures here.before.epoch gone).stop)
    (failure : here.after.failure = (here.before.markFailures here.before.epoch gone).failure) :
    Booked (past ++ [here]) here.after (ledger.note here.failures) := by
  have same : here.failures.Perm gone := Turn.failures_fell falls entries
  have open_ : ∀ id ∈ here.failures, id ∈ openIds here.before.entries := fun id member => (List.mem_filter.mp member).1
  have any (p : Nat → Bool) : gone.any p = here.failures.any p := by
    rw [Bool.eq_iff_iff, List.any_eq_true, List.any_eq_true]
    simp only [same.mem_iff]
  rw [ObservationQueue.markFailures_eq] at stop failure
  simp only [any] at stop failure
  rcases booked.fence with ⟨free, unfenced⟩ | ⟨current, account, active, kept, fenced⟩
  · have marked : here.after.failure = (here.before.failure || !here.failures.isEmpty) := by
      rw [failure, free]
      cases here.failures <;> simp
    simp only [FailureLedger.note, unfenced]
    refine ⟨?_, ?_, .inl ⟨by rw [stop, free]; rfl, rfl⟩, booked.filled, ?_⟩
    · have accounted := booked.accounted.append_right here.failures
      rw [failedIds_snoc]
      simpa [FailureLedger.held, FailureLedger.reported, unfenced] using accounted
    · rw [marked, Bool.or_eq_true, booked.failure]
      cases here.failures <;> simp
    · intro report member id inside
      exact (booked.earlier report member id inside).extend here
  · have owned : ∀ id ∈ here.failures, current.owns here.before.epoch id = decide (id < account.bound) :=
      fun id member => fenced.owns_iff (open_ id member)
    have covered : here.failures.any (current.owns here.before.epoch) =
        here.failures.any fun id => decide (id < account.bound) := any_congr_mem owned
    have other : (here.failures.any fun id => !current.owns here.before.epoch id) =
        here.failures.any fun id => !decide (id < account.bound) :=
      any_congr_mem fun id member => by rw [owned id member]
    -- A fence that has told its failures covers nothing that could still fail.
    have complete (told : account.told = true) : (here.failures.filter fun id => decide (id < account.bound)) = [] := by
      apply List.filter_eq_nil_iff.mpr
      intro id member below
      obtain ⟨entry, present, unfinished, rfl⟩ := mem_openIds.mp (open_ id member)
      have finished := (fenced.told told).2 entry present (by simpa using below)
      simp [finished] at unfinished
    have filled (p : Nat → Bool) : here.failures.any p = true ↔ here.failures.filter p ≠ [] := by
      simp [List.filter_eq_nil_iff]
    have extended := fenced.extend taken
    simp only [active, Option.map_some, Option.any_some] at stop failure
    simp only [FailureLedger.note, kept]
    refine ⟨?_, ?_, .inr ⟨_, _, stop, rfl, ?_⟩, booked.filled, ?_⟩
    · have parted := (List.filter_append_perm (fun id => decide (id < account.bound)) here.failures).symm
      have accounted := booked.accounted.append parted
      rw [failedIds_snoc]
      refine accounted.trans ?_
      cases told : account.told with
      | true =>
        simp only [FailureLedger.held, FailureLedger.reported, kept, told, complete told, if_true, List.append_nil,
          List.nil_append, List.append_assoc]
        exact .refl _
      | false =>
        simp only [FailureLedger.held, FailureLedger.reported, kept, told, Bool.false_eq_true, if_false, List.append_assoc]
        exact (List.perm_append_comm_assoc _ _ _).append_left _ |>.append_left _
    · rw [failure, Bool.or_eq_true, booked.failure, other, filled]
      simp only [ne_eq, List.append_eq_nil_iff]
      tauto
    · refine ⟨extended.same, ?_, extended.observed, ?_, extended.cutoff, extended.covered, ?_, extended.bounded,
        extended.begun⟩
      · rw [Bool.or_eq_true, fenced.failed, covered, filled]
        simp only [ne_eq, List.append_eq_nil_iff]
        tauto
      · intro told
        refine ⟨?_, (extended.told told).2⟩
        simp [(fenced.told told).1]
      · intro id member
        rcases List.mem_append.mp member with before | new
        · exact fenced.later id before
        · simpa using (List.mem_filter.mp new).2
    · intro report member id inside
      exact (booked.earlier report member id inside).extend here

theorem reports_told (reports : here.reports) (reporter : Reporter) {told : List Nat} (failed : told ≠ [])
    (known : ∀ id ∈ told, id ∈ failedIds past) : (∀ report ∈ ledger.reports ++ [(reporter, told)], report.2 ≠ []) ∧
      ∀ report ∈ ledger.reports ++ [(reporter, told)], ∀ id ∈ report.2, FailedBeforeReport (past ++ [here]) id := by
  constructor
  · intro report member
    rcases List.mem_append.mp member with before | new
    · exact booked.filled report before
    · rw [List.mem_singleton.mp new]
      exact failed
  · intro report member id inside
    rcases List.mem_append.mp member with before | new
    · exact (booked.earlier report before id inside).extend here
    · rw [List.mem_singleton.mp new] at inside
      exact .reported (known id inside) reports

theorem tells (taken : Turn here) (active : here.before.stop = some stop) (failed : stop.failed = true)
    (finished : stop.epoch = here.before.epoch →
      ∀ entry ∈ here.before.entries, stop.covers entry.id = true → entry.phase.terminal = true)
    (after : here.after = { here.before with stop := some { stop with failureObserved := true } })
    (event : here.fenceEvent = some (.reported (.fence stop.id))) :
    Booked (past ++ [here]) here.after (ledger.record here.before.nextId here.fenceEvent) := by
  have healthy : here.failures = [] := Turn.failures_same (by rw [after])
  rcases booked.fence with ⟨free, -⟩ | ⟨current, account, there, kept, fenced⟩
  · rw [free] at active
    cases active
  obtain rfl : stop = current := Option.some.inj (active.symm.trans there)
  have extended := fenced.extend taken
  have covered : ∀ entry ∈ here.after.entries, entry.id < account.bound → entry.phase.terminal = true := by
    intro entry member below
    rw [after] at member
    have owned := fenced.covered entry member below
    simp only [StopState.owns, Bool.and_eq_true, decide_eq_true_eq] at owned
    exact finished owned.1 entry member owned.2
  have unchanged : here.after.stop = some { stop with failureObserved := true } := by rw [after]
  rw [event]
  simp only [FailureLedger.record, kept]
  cases told : account.told with
  | true =>
    simp only [if_true]
    refine ⟨?_, ?_, .inr ⟨_, account, unchanged, kept, ?_⟩, booked.filled, ?_⟩
    · rw [failedIds_snoc, healthy, List.append_nil]
      exact booked.accounted
    · rw [after]
      exact booked.failure
    · exact ⟨extended.same, extended.failed, told.symm, extended.told, extended.cutoff, extended.covered, extended.later,
        extended.bounded, extended.begun⟩
    · intro report member id inside
      exact (booked.earlier report member id inside).extend here
  | false =>
    simp only [Bool.false_eq_true, if_false]
    have accounted := booked.accounted
    simp only [FailureLedger.held, kept, told, Bool.false_eq_true, if_false] at accounted
    have known : ∀ id ∈ account.failures, id ∈ failedIds past := by
      intro id member
      rw [accounted.mem_iff]
      simp [member]
    obtain ⟨filled, earlier⟩ := booked.reports_told ⟨_, event⟩ (.fence account.id)
      (fenced.failed.mp failed) known
    refine ⟨?_, ?_, .inr ⟨_, _, unchanged, rfl, ?_⟩, filled, earlier⟩
    · rw [failedIds_snoc, healthy, List.append_nil]
      simpa [FailureLedger.held, FailureLedger.reported] using accounted
    · rw [after]
      exact booked.failure
    · exact ⟨extended.same, extended.failed, rfl, fun _ => ⟨fenced.failed.mp failed, covered⟩, extended.cutoff,
        extended.covered, extended.later, extended.bounded, extended.begun⟩

theorem drops (active : here.before.stop = some stop) (after : here.after = { here.before with
      stop := none
      failure := here.before.failure || (!stop.failureObserved && stop.failed) })
    (event : here.fenceEvent = some (.dropped stop.id)) :
    Booked (past ++ [here]) here.after (ledger.record here.before.nextId here.fenceEvent) := by
  have healthy : here.failures = [] := Turn.failures_same (by rw [after])
  rcases booked.fence with ⟨free, -⟩ | ⟨current, account, there, kept, fenced⟩
  · rw [free] at active
    cases active
  obtain rfl : stop = current := Option.some.inj (active.symm.trans there)
  rw [event]
  simp only [FailureLedger.record, kept, fenced.same, if_true]
  refine ⟨?_, ?_, .inl ⟨by rw [after], rfl⟩, booked.filled, ?_⟩
  · have accounted := booked.accounted
    simp only [FailureLedger.held, kept] at accounted
    rw [failedIds_snoc, healthy, List.append_nil]
    refine accounted.trans ?_
    simp only [FailureLedger.held, FailureLedger.reported, List.append_nil, List.append_assoc]
    exact List.perm_append_comm.append_left _
  · rw [after, Bool.or_eq_true, booked.failure, fenced.observed, Bool.and_eq_true, fenced.failed]
    cases account.told <;> simp only [Bool.not_true, Bool.not_false, Bool.false_eq_true, if_true, if_false, ne_eq,
      List.append_eq_nil_iff] <;> tauto
  · intro report member id inside
    exact (booked.earlier report member id inside).extend here

theorem quiesces (free : here.before.stop = none) (failed : here.before.failure = true)
    (after : here.after = { here.before with failure := false })
    (event : here.fenceEvent = some (.reported .quiescentStop)) :
    Booked (past ++ [here]) here.after (ledger.record here.before.nextId here.fenceEvent) := by
  have healthy : here.failures = [] := Turn.failures_same (by rw [after])
  have unfenced : ledger.fence = none := by
    rcases booked.fence with ⟨-, unfenced⟩ | ⟨stop, account, active, -, -⟩
    · exact unfenced
    · rw [free] at active
      cases active
  have accounted := booked.accounted
  simp only [FailureLedger.held, unfenced, List.append_nil] at accounted
  have known : ∀ id ∈ ledger.unreported, id ∈ failedIds past := by
    intro id member
    rw [accounted.mem_iff]
    simp [member]
  obtain ⟨filled, earlier⟩ := booked.reports_told ⟨_, event⟩ .quiescentStop
    (booked.failure.mp failed) known
  rw [event, FailureLedger.record]
  refine ⟨?_, ?_, .inl ⟨by rw [after, free], unfenced⟩, filled, earlier⟩
  · rw [failedIds_snoc, healthy, List.append_nil]
    simpa [FailureLedger.held, FailureLedger.reported, unfenced] using accounted
  · rw [after]
    simp

theorem step (tallied : Tallied past here.before) (taken : Turn here) :
    Booked (past ++ [here]) here.after (ledger.take here) := by
  have quiet (healthy : here.failures = []) (event : here.fenceEvent = none) : ledger.take here = ledger := by
    rw [FailureLedger.take_quiet healthy, event, FailureLedger.record]
  have turn := taken
  cases turn with
  | idle published after entered worked event =>
    have healthy : here.failures = [] := Turn.failures_same (by rw [after])
    have same : ledger.take here = ledger := by
      cases happened : here.fenceEvent with
      | none => exact quiet healthy happened
      | some found =>
        obtain ⟨id, rfl, other⟩ := event found happened
        rw [FailureLedger.take_quiet healthy, happened]
        rcases booked.fence with ⟨-, unfenced⟩ | ⟨stop, account, active, kept, fenced⟩
        · simp only [FailureLedger.record, unfenced]
        · have different : account.id ≠ id := fenced.same ▸ other stop active
          simp only [FailureLedger.record, kept, different, if_false]
    rw [same]
    exact booked.same taken healthy (by rw [after]) (by rw [after])
  | entered owner after entered worked event =>
    have healthy := Turn.failures_entered after
    rw [quiet healthy event]
    exact booked.same taken healthy (by rw [after]) (by rw [after])
  | advanced early entry late phase published head advance after =>
    have healthy := Turn.failures_advanced head advance after
    rw [quiet healthy advance.fenceEvent]
    exact booked.same taken healthy (by rw [after]) (by rw [after])
  | fell kept gone published epoch falls renewed after entered worked event =>
    rw [FailureLedger.take, event, FailureLedger.record]
    exact booked.falls taken falls (by rw [after]) (by rw [after]) (by rw [after])
  | begun free after entered worked event =>
    rw [FailureLedger.take_quiet (Turn.failures_same (by rw [after]))]
    exact booked.begins tallied free after event
  | told stop active failed finished after entered worked event =>
    rw [FailureLedger.take_quiet (Turn.failures_same (by rw [after]))]
    exact booked.tells taken active failed finished after event
  | dropped stop active after entered worked event =>
    rw [FailureLedger.take_quiet (Turn.failures_same (by rw [after]))]
    exact booked.drops active after event
  | quiescent free failed after entered worked event =>
    rw [FailureLedger.take_quiet (Turn.failures_same (by rw [after]))]
    exact booked.quiesces free failed after event

end Booked

end Booked

namespace FailureLedger

private theorem record_reports {ledger : FailureLedger} {nextId : Nat} {event : Option FenceEvent}
    (silent : ∀ reporter, event ≠ some (.reported reporter)) : (ledger.record nextId event).reports = ledger.reports := by
  cases event with
  | none => rfl
  | some event =>
    cases event with
    | begun id => rfl
    | reported reporter => exact absurd rfl (silent reporter)
    | dropped id =>
      unfold record
      cases ledger.fence with
      | none => rfl
      | some account => dsimp only; split <;> rfl

def fences (ledger : FailureLedger) : List Nat :=
  ledger.reports.filterMap fun report =>
    match report.1 with
    | .fence id => some id
    | .quiescentStop => none

def quiescentReports (ledger : FailureLedger) : Nat :=
  ledger.reports.countP fun report => decide (report.1 = .quiescentStop)

@[simp] theorem note_reports (ledger : FailureLedger) (failures : List Nat) :
    (ledger.note failures).reports = ledger.reports := by
  unfold note
  split <;> rfl

end FailureLedger

def incompleteStops (past : List QueueStep) : Nat :=
  past.countP fun here => decide (here.fenceEvent = some (.reported .quiescentStop))

/-- The ledger has one report for each fence that answered, and one for each answer of a quiescent stop. -/
structure Reporting (past : List QueueStep) (queue : ObservationQueue) (ledger : FailureLedger) : Prop where
  once : ledger.fences.Nodup
  below : ∀ fence ∈ ledger.fences, fence < queue.stopId
  active : ∀ stop, queue.stop = some stop → stop.id < queue.stopId ∧
    (stop.id ∈ ledger.fences ↔ stop.failureObserved = true)
  answered : ∀ fence, fence ∈ ledger.fences ↔ ∃ here ∈ past, here.fenceEvent = some (.reported (.fence fence))
  stops : ledger.quiescentReports = incompleteStops past

theorem Reporting.initial : Reporting [] {} {} := by
  refine ⟨List.nodup_nil, ?_, ?_, ?_, rfl⟩
  · intro fence member
    cases member
  · intro stop active
    cases active
  · intro fence
    simp [FailureLedger.fences]

namespace Reporting
variable {past : List QueueStep} {here : QueueStep} {ledger : FailureLedger}

section Reporting
variable (reporting : Reporting past here.before ledger)
include reporting

theorem quiet {after : FailureLedger} (same : after.reports = ledger.reports) (silent : ¬here.reports)
    (stopId : here.before.stopId ≤ here.after.stopId)
    (active : ∀ stop, here.after.stop = some stop → stop.id < here.after.stopId ∧
      (stop.id ∈ ledger.fences ↔ stop.failureObserved = true)) : Reporting (past ++ [here]) here.after after := by
  have fences : after.fences = ledger.fences := by rw [FailureLedger.fences, same, FailureLedger.fences]
  refine ⟨fences ▸ reporting.once, ?_, fences ▸ active, ?_, ?_⟩
  · intro fence member
    exact Nat.lt_of_lt_of_le (reporting.below fence (fences ▸ member)) stopId
  · intro fence
    rw [fences, reporting.answered fence]
    constructor
    · rintro ⟨step, member, told⟩
      exact ⟨step, List.mem_append_left _ member, told⟩
    · rintro ⟨step, member, told⟩
      rcases List.mem_append.mp member with before | now
      · exact ⟨step, before, told⟩
      · rw [List.mem_singleton.mp now] at told
        exact absurd ⟨_, told⟩ silent
  · have none : here.fenceEvent ≠ some (.reported .quiescentStop) := fun told => silent ⟨_, told⟩
    have stops := reporting.stops
    unfold FailureLedger.quiescentReports incompleteStops at stops ⊢
    rw [same, stops]
    simp [none]

theorem tells {account : FenceAccount} (active : here.before.stop = some stop) (kept : ledger.fence = some account)
    (equal : account.id = stop.id) (observed : stop.failureObserved = account.told)
    (after : here.after = { here.before with stop := some { stop with failureObserved := true } })
    (event : here.fenceEvent = some (.reported (.fence stop.id))) :
    Reporting (past ++ [here]) here.after (ledger.record here.before.nextId here.fenceEvent) := by
  obtain ⟨below, member⟩ := reporting.active stop active
  have stops : (ledger.record here.before.nextId here.fenceEvent).quiescentReports = incompleteStops (past ++ [here]) := by
    rw [event]
    simp only [FailureLedger.record, kept]
    have counted := reporting.stops
    unfold FailureLedger.quiescentReports incompleteStops at counted ⊢
    rw [List.countP_append, ← counted]
    split <;> simp [event]
  have fences : (ledger.record here.before.nextId here.fenceEvent).fences =
      ledger.fences ++ if account.told then [] else [stop.id] := by
    rw [event]
    simp only [FailureLedger.record, kept]
    cases account.told <;> simp [FailureLedger.fences, equal]
  have fresh (untold : account.told = false) : stop.id ∉ ledger.fences := by
    rw [member, observed, untold]
    simp
  refine ⟨?_, ?_, ?_, ?_, stops⟩
  · rw [fences]
    cases told : account.told with
    | true => simpa using reporting.once
    | false => exact List.nodup_append'.mpr ⟨reporting.once, by simp, by simpa using fresh told⟩
  · intro fence present
    rw [after]
    rw [fences] at present
    rcases List.mem_append.mp present with before | now
    · exact reporting.below fence before
    · have same : fence = stop.id := by
        split at now
        · cases now
        · exact List.mem_singleton.mp now
      exact same ▸ below
  · intro current found
    rw [after] at found ⊢
    cases found
    refine ⟨below, ?_⟩
    rw [fences, List.mem_append, member, observed]
    cases account.told <;> simp
  · intro fence
    rw [fences, List.mem_append, reporting.answered fence]
    constructor
    · rintro (⟨step, present, told⟩ | now)
      · exact ⟨step, List.mem_append_left _ present, told⟩
      · have same : fence = stop.id := by
          split at now
          · cases now
          · exact List.mem_singleton.mp now
        exact ⟨here, by simp, same ▸ event⟩
    · rintro ⟨step, present, told⟩
      rcases List.mem_append.mp present with before | now
      · exact .inl ⟨step, before, told⟩
      · rw [List.mem_singleton.mp now, event] at told
        cases told
        rw [← reporting.answered, member, observed]
        cases account.told <;> simp

theorem quiesces (free : here.before.stop = none) (after : here.after = { here.before with failure := false })
    (event : here.fenceEvent = some (.reported .quiescentStop)) :
    Reporting (past ++ [here]) here.after (ledger.record here.before.nextId here.fenceEvent) := by
  have fences : (ledger.record here.before.nextId here.fenceEvent).fences = ledger.fences := by
    rw [event]
    simp [FailureLedger.record, FailureLedger.fences]
  refine ⟨fences ▸ reporting.once, ?_, ?_, ?_, ?_⟩
  · rw [fences, after]
    exact reporting.below
  · intro stop active
    rw [after, free] at active
    cases active
  · intro fence
    rw [fences, reporting.answered fence]
    simp [event]
  · rw [event]
    have counted := reporting.stops
    unfold FailureLedger.quiescentReports incompleteStops at counted ⊢
    rw [List.countP_append, ← counted]
    simp [event, FailureLedger.record]

theorem step (booked : Booked past here.before ledger) (taken : Turn here) :
    Reporting (past ++ [here]) here.after (ledger.take here) := by
  have unreported (silent : ¬here.reports) : (ledger.take here).reports = ledger.reports := by
    rw [FailureLedger.take, FailureLedger.record_reports fun reporter told => silent ⟨reporter, told⟩,
      FailureLedger.note_reports]
  have silent (event : here.fenceEvent = none) : ¬here.reports := by
    rintro ⟨reporter, told⟩
    rw [event] at told
    cases told
  cases taken with
  | idle published after entered worked event =>
    have quiet : ¬here.reports := by
      rintro ⟨reporter, told⟩
      obtain ⟨id, dropped, -⟩ := event _ told
      cases dropped
    refine reporting.quiet (unreported quiet) quiet (by rw [after]) ?_
    rw [after]
    exact reporting.active
  | entered owner after entered worked event =>
    refine reporting.quiet (unreported (silent event)) (silent event) (by rw [after]) ?_
    rw [after]
    exact reporting.active
  | advanced early entry late phase published head advance after =>
    have quiet := silent advance.fenceEvent
    refine reporting.quiet (unreported quiet) quiet (by rw [after]) ?_
    rw [after]
    exact reporting.active
  | fell kept gone published epoch falls renewed after entered worked event =>
    rw [ObservationQueue.markFailures_eq] at after
    refine reporting.quiet (unreported (silent event)) (silent event) (by rw [after]) ?_
    rw [after]
    intro stop active
    obtain ⟨current, there, rfl⟩ := Option.map_eq_some_iff.mp active
    exact reporting.active current there
  | begun free after entered worked event =>
    have quiet : ¬here.reports := by
      rintro ⟨reporter, told⟩
      rw [event] at told
      cases told
    refine reporting.quiet (unreported quiet) quiet (by rw [after]; exact Nat.le_succ _) ?_
    rw [after]
    rintro stop ⟨⟩
    refine ⟨Nat.lt_succ_self _, ?_⟩
    constructor
    · intro member
      exact absurd (reporting.below _ member) (Nat.lt_irrefl _)
    · intro observed
      cases observed
  | told stop active failed finished after entered worked event =>
    rw [FailureLedger.take_quiet (Turn.failures_same (by rw [after]))]
    rcases booked.fence with ⟨free, -⟩ | ⟨current, account, there, kept, fenced⟩
    · rw [free] at active
      cases active
    obtain rfl : stop = current := Option.some.inj (active.symm.trans there)
    exact reporting.tells active kept fenced.same fenced.observed after event
  | dropped stop active after entered worked event =>
    have quiet : ¬here.reports := by
      rintro ⟨reporter, told⟩
      rw [event] at told
      cases told
    refine reporting.quiet (unreported quiet) quiet (by rw [after]) ?_
    rw [after]
    intro current found
    cases found
  | quiescent free failed after entered worked event =>
    rw [FailureLedger.take_quiet (Turn.failures_same (by rw [after]))]
    exact reporting.quiesces free after event

end Reporting

end Reporting

structure Accounts (past : List QueueStep) (queue : ObservationQueue) : Prop where
  tallied : Tallied past queue
  inOrder : InOrder past queue
  retained : Retained past queue
  booked : Booked past queue (.of past)
  reporting : Reporting past queue (.of past)

theorem Accounts.initial : Accounts [] {} := by
  refine ⟨.initial, ⟨List.Pairwise.nil, ?_, ?_⟩, ?_, .initial, .initial⟩
  · intro work member
    cases member
  · intro work member
    cases member
  · intro entry member
    cases member

theorem Accounts.step (accounts : Accounts past queue) (call : QueueCall) :
    Accounts (past ++ [Runs.take ObservationQueue.step queue call]) (queue.step call).1 := by
  have taken := turn accounts.tallied.ordered call
  refine ⟨accounts.tallied.step taken, accounts.inOrder.step accounts.tallied.ordered taken, accounts.retained.step taken,
    ?_, ?_⟩
  · rw [FailureLedger.of_snoc]
    exact accounts.booked.step accounts.tallied taken
  · rw [FailureLedger.of_snoc]
    exact accounts.reporting.step accounts.booked taken

def ObservationQueue.history (calls : List QueueCall) : List QueueStep := Runs.history ObservationQueue.step {} calls

theorem accounts : Accounts (ObservationQueue.history calls) (Runs.final ObservationQueue.step {} calls) :=
  Runs.induction_on .initial (fun _ _ call accounts => accounts.step call) calls

/-- Before each step of a run the accounts are those of the steps before it. -/
theorem accounts_before {calls : List QueueCall} {later : List QueueStep}
    (split : ObservationQueue.history calls = past ++ here :: later) :
    Accounts past here.before ∧ here = Runs.take ObservationQueue.step here.before here.input := by
  obtain ⟨first, last, -, rfl, same, -⟩ := Runs.history_split split
  rw [same]
  exact ⟨accounts first, rfl⟩

theorem ObservationQueue.waitResult_returned {fence : Nat} {result : Except AdmissionError Unit}
    (returned : (queue.waitResult fence).2 = .returned result) :
    result = .error .stale ∨ ∃ stop, queue.stop = some stop ∧ stop.id = fence ∧
      (stop.epoch = queue.epoch → ∀ entry ∈ queue.entries, stop.covers entry.id = true → entry.phase.terminal = true) ∧
      result = if stop.failed then .error .incomplete else .ok () := by
  unfold ObservationQueue.waitResult at returned
  split at returned
  · cases returned
    exact .inl rfl
  · next stop found =>
    obtain ⟨active, same⟩ := Option.filter_eq_some_iff.mp found
    right
    refine ⟨stop, active, by simpa using same, ?_⟩
    split at returned
    · cases returned
    · next free =>
      constructor
      · intro epoch entry member covered
        by_contra unfinished
        apply free
        refine ⟨epoch, List.any_eq_true.mpr ⟨entry, member, ?_⟩⟩
        simpa [covered] using unfinished
      · cases failed : stop.failed <;> simp [failed] at returned ⊢ <;> exact returned.symm

/-- A wait or a quiescent stop answers for exactly the failures it is due. -/
structure Results (run : List QueueStep) : Prop where
  fence : ∀ past here later, run = past ++ here :: later → ∀ fence result, here.input = .waitResult fence →
    here.output = .waited (.returned result) → result = .error .stale ∨
      ∃ account, (FailureLedger.of past).fence = some account ∧ account.id = fence ∧
        (result = .error .incomplete ∧ account.failures ≠ [] ∨ result = .ok () ∧ account.failures = [])
  quiescentStop : ∀ past here later, run = past ++ here :: later → ∀ result, here.input = .requireQuiescentStop →
    here.output = .quiescent result → result = .error .pending ∨ (FailureLedger.of past).fence = none ∧
      (result = .error .incomplete ∧ (FailureLedger.of past).unreported ≠ [] ∨
        result = .ok () ∧ (FailureLedger.of past).unreported = [])
  covered : ∀ past here later, run = past ++ here :: later → ∀ fence, here.input = .waitResult fence →
    here.output = .waited (.returned (.ok ())) →
    ∃ early begun late, past = early ++ begun :: late ∧ begun.fenceEvent = some (.begun fence) ∧
      ∀ id ∈ admittedIds early, id ∈ settledIds past ∧ id ∉ failedIds past ∨ FailedBeforeReport past id

/-- The failures of a run, each with who reported it or is to report it. -/
structure Accounted (run : List QueueStep) (ledger : FailureLedger) : Prop where
  failedOnce : (failedIds run).Nodup
  accounted : (failedIds run).Perm (ledger.reported ++ ledger.held ++ ledger.unreported)
  filled : ∀ report ∈ ledger.reports, report.2 ≠ []
  fenceOnce : ledger.fences.Nodup
  fences : ∀ fence, fence ∈ ledger.fences ↔ ∃ here ∈ run, here.fenceEvent = some (.reported (.fence fence))
  stops : ledger.quiescentReports = incompleteStops run

def claimedIds (run : List QueueStep) : List Nat :=
  (works run).filterMap fun work => if work.1 = .claim then some work.2 else none

structure Sequenced (run : List QueueStep) : Prop where
  admissions : (admittedIds run).Pairwise (· < ·)
  works : (works run).Pairwise Precedes
  claimedOnce : (claimedIds run).Nodup
  claims : ∀ past here later, run = past ++ here :: later → ∀ lease recording transition,
    here.input = .claimWrite lease → here.output = .claimed (.ok (recording, transition)) →
    ∃ earlier ∈ past, Classifies earlier lease.id (some recording) (some transition)
  settled : ∀ here ∈ run, ∀ id, here.settled = some id →
    ∃ entry ∈ here.before.entries, entry.id = id ∧ entry.phase.accepted = true
  fenced : ∀ past here later, run = past ++ here :: later → ∀ work, here.worked = some work →
    ∀ stop, here.before.stop = some stop → ∃ early begun late, past = early ++ begun :: late ∧
      begun.fenceEvent = some (.begun stop.id) ∧ work.2 ∈ admittedIds early

namespace Accounts
variable {past : List QueueStep} {here : QueueStep}

theorem nodup (accounts : Accounts past queue) :
    (failedIds past ++ settledIds past ++ openIds queue.entries).Nodup :=
  accounts.tallied.divided.nodup_iff.mpr List.nodup_range

/-- A fence answers ok when everything admitted before it is settled, or was reported. -/
theorem covered (accounts : Accounts past here.before) {account : FenceAccount}
    (fenced : Fenced past here.before (FailureLedger.of past).unreported stop account)
    (kept : (FailureLedger.of past).fence = some account) (finished : stop.epoch = here.before.epoch →
      ∀ entry ∈ here.before.entries, stop.covers entry.id = true → entry.phase.terminal = true)
    (healthy : account.failures = []) (below : id < account.bound) :
    id ∈ settledIds past ∧ id ∉ failedIds past ∨ FailedBeforeReport past id := by
  have placed : id ∈ failedIds past ++ settledIds past ++ openIds here.before.entries := by
    rw [accounts.tallied.divided.mem_iff, List.mem_range]
    exact Nat.lt_of_lt_of_le below fenced.bounded
  have apart := (List.nodup_append'.mp (List.nodup_append'.mp accounts.nodup).1).2.2
  rcases List.mem_append.mp placed with done | open_
  · rcases List.mem_append.mp done with failed | settled
    · right
      rw [accounts.booked.accounted.mem_iff] at failed
      rcases List.mem_append.mp failed with told | waiting
      · rcases List.mem_append.mp told with reported | held
        · obtain ⟨report, member, inside⟩ := List.mem_flatMap.mp reported
          exact accounts.booked.earlier report member id inside
        · simp [FailureLedger.held, kept, healthy] at held
      · have := fenced.later id waiting
        omega
    · exact .inl ⟨settled, fun failed => apart failed settled⟩
  · obtain ⟨entry, member, unfinished, rfl⟩ := mem_openIds.mp open_
    have owned := fenced.covered entry member below
    simp only [StopState.owns, Bool.and_eq_true, decide_eq_true_eq] at owned
    simp [finished owned.1 entry member owned.2] at unfinished

end Accounts

theorem results : Results (ObservationQueue.history calls) := by
  refine ⟨?_, ?_, ?_⟩
  · intro past here later split fence result called answered
    obtain ⟨accounts, same⟩ := accounts_before split
    have returned : (here.before.waitResult fence).2 = .returned result := by
      rw [same, called] at answered
      exact QueueReply.waited.inj answered
    rcases ObservationQueue.waitResult_returned returned with stale | ⟨stop, active, equal, finished, rfl⟩
    · exact .inl stale
    · rcases accounts.booked.fence with ⟨free, -⟩ | ⟨current, account, there, kept, fenced⟩
      · rw [free] at active
        cases active
      obtain rfl : stop = current := Option.some.inj (active.symm.trans there)
      refine .inr ⟨account, kept, fenced.same.trans equal, ?_⟩
      cases failed : stop.failed with
      | true => exact .inl ⟨rfl, fenced.failed.mp failed⟩
      | false =>
        refine .inr ⟨rfl, ?_⟩
        by_contra filled
        simp [fenced.failed.mpr filled] at failed
  · intro past here later split result called answered
    obtain ⟨accounts, same⟩ := accounts_before split
    have returned : here.before.requireQuiescentStop.2 = result := by
      rw [same, called] at answered
      exact QueueReply.quiescent.inj answered
    unfold ObservationQueue.requireQuiescentStop at returned
    split at returned
    · exact .inl returned.symm
    · next free =>
      right
      have unfenced : (FailureLedger.of past).fence = none := by
        rcases accounts.booked.fence with ⟨-, unfenced⟩ | ⟨stop, account, active, -, -⟩
        · exact unfenced
        · simp [active] at free
      refine ⟨unfenced, ?_⟩
      split at returned
      · next failed => exact .inl ⟨returned.symm, accounts.booked.failure.mp failed⟩
      · next healthy =>
        refine .inr ⟨returned.symm, ?_⟩
        by_contra filled
        exact healthy (accounts.booked.failure.mpr filled)
  · intro past here later split fence called answered
    obtain ⟨accounts, same⟩ := accounts_before split
    have returned : (here.before.waitResult fence).2 = .returned (.ok ()) := by
      rw [same, called] at answered
      exact QueueReply.waited.inj answered
    rcases ObservationQueue.waitResult_returned returned with stale | ⟨stop, active, equal, finished, result⟩
    · cases stale
    · rcases accounts.booked.fence with ⟨free, -⟩ | ⟨current, account, there, kept, fenced⟩
      · rw [free] at active
        cases active
      obtain rfl : stop = current := Option.some.inj (active.symm.trans there)
      have healthy : account.failures = [] := by
        by_contra filled
        simp [fenced.failed.mpr filled] at result
      obtain ⟨early, begun, late, cut, event, admissions⟩ := fenced.begun
      refine ⟨early, begun, late, cut, equal ▸ event, ?_⟩
      intro id member
      rw [admissions, List.mem_range] at member
      exact accounts.covered fenced kept finished healthy member

theorem accounted : Accounted (ObservationQueue.history calls) (.of (ObservationQueue.history calls)) := by
  have accounts := accounts calls
  have separate := (List.nodup_append'.mp (List.nodup_append'.mp accounts.nodup).1).1
  exact ⟨separate, accounts.booked.accounted, accounts.booked.filled, accounts.reporting.once, accounts.reporting.answered,
    accounts.reporting.stops⟩

theorem sequenced : Sequenced (ObservationQueue.history calls) := by
  have kept := accounts calls
  refine ⟨?_, kept.inOrder.sequence, ?_, ?_, ?_, ?_⟩
  · rw [kept.tallied.admissions]
    exact List.pairwise_lt_range
  · apply List.Pairwise.filterMap _ ?_ kept.inOrder.sequence
    intro first second precedes id claimed other found
    by_cases one : first.1 = .claim
    · by_cases two : second.1 = .claim
      · simp only [one, two, if_true, Option.some.injEq] at claimed found
        simp only [Precedes, one, two] at precedes
        omega
      · simp [two] at found
    · simp [one] at claimed
  · intro past here later split lease recording transition called answered
    obtain ⟨accounts, same⟩ := accounts_before split
    have taken := turn accounts.tallied.ordered here.input
    rw [← same] at taken
    have happened : here.worked = some (.claim, lease.id) := by simp [QueueStep.worked, called, answered]
    obtain ⟨early, entry, late, phase, head, advance⟩ := taken.advances happened (by intro same; cases same)
    cases advance with
    | claimed other _ _ called' answered' equal before =>
      cases called.symm.trans called'
      cases answered.symm.trans answered'
      obtain ⟨step, present, classifies⟩ := accounts.retained entry (by simp [head.cut]) _ _ before
      exact ⟨step, present, equal ▸ classifies⟩
    | classified _ _ _ called' | received _ _ called' | settled _ called' => cases called.symm.trans called'
  · intro here member id settled
    obtain ⟨past, later, split⟩ := List.append_of_mem member
    obtain ⟨accounts, same⟩ := accounts_before split
    have taken := turn accounts.tallied.ordered here.input
    rw [← same] at taken
    have happened := QueueStep.worked_of_settled settled
    obtain ⟨early, entry, late, phase, head, advance⟩ := taken.advances happened (by intro same; cases same)
    cases advance with
    | settled lease called answered equal accepted =>
      simp only [QueueStep.worked, called, answered, Option.some.injEq, Prod.mk.injEq, true_and] at happened
      exact ⟨entry, by simp [head.cut], equal.trans happened, accepted⟩
    | classified _ _ _ called answered | claimed _ _ _ called answered =>
      simp [QueueStep.worked, called, answered] at happened
    | received lease _ called answered => simp [QueueStep.worked, called] at happened
  · intro past here later split work happened stop active
    obtain ⟨accounts, same⟩ := accounts_before split
    have taken := turn accounts.tallied.ordered here.input
    rw [← same] at taken
    obtain ⟨early, entry, late, head, equal, least, passed⟩ := taken.worked accounts.tallied.ordered happened
    rcases accounts.booked.fence with ⟨free, -⟩ | ⟨current, account, there, kept, fenced⟩
    · rw [free] at active
      cases active
    obtain rfl : stop = current := Option.some.inj (active.symm.trans there)
    obtain ⟨early, begun, late, cut, event, admissions⟩ := fenced.begun
    refine ⟨early, begun, late, cut, event, ?_⟩
    have covers : stop.covers entry.id = true := by
      have unblocked := head.unblocked
      simp [ObservationQueue.blocked, active] at unblocked
      exact unblocked.2
    rw [admissions, List.mem_range, equal]
    exact fenced.cutoff entry.id covers

/-- Stop fences neither lose nor invent a failure, and work follows admission order. -/
structure StopFencesSound (run : List QueueStep) : Prop where
  results : Results run
  accounted : Accounted run (.of run)
  sequenced : Sequenced run

/-- In every run of the queue each failed observation is answered for by one fence or one
quiescent stop, a fence says ok only when all it covers is settled, and observations are
classified, claimed and settled in the order they came. -/
theorem ObservationQueue.stop_fences_sound (calls : List QueueCall) : StopFencesSound (ObservationQueue.history calls) :=
  ⟨results calls, accounted calls, sequenced calls⟩

/-- A fence that is asked twice reports its one failure twice. -/
theorem ObservationQueue.repeated_wait_reports_again :
    let run := ObservationQueue.history [.enter none, .beginStop, .requiredFailed ⟨0, 0⟩, .waitResult 0, .waitResult 0]
    failedIds run = [0] ∧
      (run.filter fun here => decide (here.output = .waited (.returned (.error .incomplete)))).length = 2 := by
  decide

end Cutout.Music

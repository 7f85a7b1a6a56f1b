import Cutout.ObservationAdmission
import Cutout.Library.Positions
import Cutout.Library.Runs

/-! The turns of the observation queue. Every call moves the head of the queue forward,
lets observations fall out of it, or begins, answers or drops a fence; from this the
order of the work and the fate of every observation follow. -/

namespace Cutout.Music
open Library
open Protocols (u64Max)
variable {entry : Entry} {id : Nat} {early late : List Entry}

abbrev QueueStep := Step ObservationQueue QueueCall QueueReply

def openIds (entries : List Entry) : List Nat := (entries.filter fun entry => !entry.phase.terminal).map Entry.id

@[simp] theorem openIds_append (first second : List Entry) : openIds (first ++ second) = openIds first ++ openIds second := by
  simp [openIds]

theorem openIds_cons (entry : Entry) (entries : List Entry) :
    openIds (entry :: entries) = (if entry.phase.terminal then [] else [entry.id]) ++ openIds entries := by
  cases finished : entry.phase.terminal <;> simp [openIds, finished]

theorem mem_openIds {entries : List Entry} :
    id ∈ openIds entries ↔ ∃ entry ∈ entries, entry.phase.terminal = false ∧ entry.id = id := by
  simp [openIds, and_assoc]

def lost (entries : List Entry) (id : Nat) : Bool :=
  entries.all fun entry => decide (entry.id ≠ id) || decide (entry.phase = .failed)

theorem lost_iff {entries : List Entry} :
    lost entries id = true ↔ ∀ entry ∈ entries, entry.id = id → entry.phase = .failed := by
  simp [lost, imp_iff_not_or]

inductive WorkKind where
  | classification | claim | settlement
  deriving Repr, DecidableEq

inductive Reporter where
  | fence (id : Nat)
  | quiescentStop
  deriving Repr, DecidableEq

inductive FenceEvent where
  | begun (id : Nat)
  | reported (by_ : Reporter)
  | dropped (id : Nat)
  deriving Repr, DecidableEq

namespace QueueStep

/-- The open observations that fail, are retired or are released here. -/
def failures (here : QueueStep) : List Nat := (openIds here.before.entries).filter (lost here.after.entries)

def admitted (here : QueueStep) : Option Nat :=
  match here.output with
  | .admission (.admitted lease) => some lease.id
  | _ => none

/-- A classification that ran, a claim that was granted or an accepted settlement. -/
def worked (here : QueueStep) : Option (WorkKind × Nat) :=
  match here.input, here.output with
  | .classify lease _ _, .classified (.ok ()) => some (.classification, lease.id)
  | .classify lease _ _, .classified (.error .operation) => some (.classification, lease.id)
  | .claimWrite lease, .claimed (.ok _) => some (.claim, lease.id)
  | .settle lease, .settled (.ok ()) => some (.settlement, lease.id)
  | _, _ => none

def settled (here : QueueStep) : Option Nat :=
  match here.worked with
  | some (.settlement, id) => some id
  | _ => none

def fenceEvent (here : QueueStep) : Option FenceEvent :=
  match here.input, here.output with
  | .beginStop, .fence (.ok id) => some (.begun id)
  | .waitResult fence, .waited (.returned (.error .incomplete)) => some (.reported (.fence fence))
  | .requireQuiescentStop, .quiescent (.error .incomplete) => some (.reported .quiescentStop)
  | .dropFence fence, _ => some (.dropped fence)
  | _, _ => none

end QueueStep

def ObservationQueue.markFailures (queue : ObservationQueue) (epoch : Nat) (ids : List Nat) : ObservationQueue :=
  ids.foldl (fun queue id => queue.markFailure epoch id) queue

def StopState.owns (stop : StopState) (epoch id : Nat) : Bool := decide (stop.epoch = epoch) && stop.covers id

namespace ObservationQueue
variable {queue : ObservationQueue} {epoch : Nat} {ids : List Nat}
variable {entry : Entry}

/-- A failure is marked on the fence that owns the observation, or else on the queue. -/
theorem markFailure_eq (id : Nat) : queue.markFailure epoch id =
    { queue with
      stop := queue.stop.map fun stop => { stop with failed := stop.failed || stop.owns epoch id }
      failure := queue.failure || !queue.stop.any fun stop => stop.owns epoch id } := by
  obtain ⟨nextId, current, publicationId, entries, stopId, stop, failure⟩ := queue
  cases stop with
  | none => simp [markFailure]
  | some stop =>
    by_cases owned : stop.epoch = epoch ∧ stop.covers id = true
    · have owns : stop.owns epoch id = true := by simpa [StopState.owns] using owned
      simp [markFailure, owned.1, owned.2, owns]
    · have owns : stop.owns epoch id = false := by
        rw [← Bool.not_eq_true]
        simpa [StopState.owns] using owned
      simp [markFailure, owned, owns]

theorem markFailures_cons (queue : ObservationQueue) (epoch id : Nat) (ids : List Nat) :
    queue.markFailures epoch (id :: ids) = (queue.markFailure epoch id).markFailures epoch ids := rfl

theorem markFailures_eq (queue : ObservationQueue) (epoch : Nat) (ids : List Nat) : queue.markFailures epoch ids =
    { queue with
      stop := queue.stop.map fun stop => { stop with failed := stop.failed || ids.any (stop.owns epoch) }
      failure := queue.failure || ids.any fun id => !queue.stop.any fun stop => stop.owns epoch id } := by
  induction ids generalizing queue with
  | nil => cases stopped : queue.stop <;> cases queue <;> simp_all [markFailures]
  | cons id ids ih =>
    rw [markFailures_cons, ih, markFailure_eq]
    have kept (stop : StopState) (failed : Bool) : ({ stop with failed := failed } : StopState).owns epoch = stop.owns epoch := rfl
    cases queue.stop <;> simp [kept, Bool.or_assoc]

structure Ordered (queue : ObservationQueue) : Prop where
  sorted : (queue.entries.map Entry.id).Pairwise (· < ·)
  below : ∀ entry ∈ queue.entries, entry.id < queue.nextId

/-- The head a ready lease owns: everything before it is finished and no fence holds it back. -/
structure Heads (queue : ObservationQueue) (early : List Entry) (entry : Entry) (late : List Entry) : Prop where
  cut : queue.entries = early ++ entry :: late
  finished : ∀ other ∈ early, other.phase.terminal = true
  unfinished : entry.phase.terminal = false
  unblocked : queue.blocked entry.id = false

theorem ready_heads {lease : ObservationLease} (ready : queue.ready lease = true) :
    ∃ early entry late, queue.Heads early entry late ∧ entry.id = lease.id ∧ queue.epoch = lease.epoch := by
  unfold ObservationQueue.ready at ready
  rw [Bool.and_eq_true, Bool.and_eq_true, decide_eq_true_eq] at ready
  obtain ⟨⟨epoch, head⟩, unblocked⟩ := ready
  unfold requiredHead at head
  cases found : queue.entries.find? fun entry => !entry.phase.terminal with
  | none => simp [found] at head
  | some entry =>
    rw [found] at head
    have same : entry.id = lease.id := by simpa using head
    obtain ⟨unfinished, early, late, cut, finished⟩ := List.find?_eq_some_iff_append.mp found
    refine ⟨early, entry, late, ⟨cut, ?_, by simpa using unfinished, by simpa [same] using unblocked⟩, same, epoch⟩
    intro other member
    simpa using finished other member

theorem Ordered.split (ordered : queue.Ordered) (cut : queue.entries = early ++ entry :: late) :
    (∀ other ∈ early, other.id < entry.id) ∧ ∀ other ∈ late, entry.id < other.id := by
  have sorted := ordered.sorted
  rw [cut] at sorted
  simp only [List.map_append, List.map_cons, List.pairwise_append, List.pairwise_cons, List.mem_map] at sorted
  obtain ⟨-, ⟨after, -⟩, before⟩ := sorted
  constructor
  · intro other member
    exact before _ ⟨other, member, rfl⟩ _ (by simp)
  · intro other member
    exact after _ ⟨other, member, rfl⟩

theorem Ordered.position (ordered : queue.Ordered) (cut : queue.entries = early ++ entry :: late) :
    queue.position entry.id = some early.length := by
  have before := (ordered.split cut).1
  unfold ObservationQueue.position
  rw [cut, List.findIdx?_append]
  have absent : early.findIdx? (fun other => decide (other.id = entry.id)) = none := by
    apply List.findIdx?_eq_none_iff.mpr
    intro other member
    have := before other member
    simp only [decide_eq_false_iff_not]
    omega
  simp [absent, List.findIdx?_cons]

theorem phaseAt_cut (cut : queue.entries = early ++ entry :: late) :
    queue.phaseAt early.length = some entry.phase := by
  simp [phaseAt, cut]

theorem setPhase_cut (cut : queue.entries = early ++ entry :: late) (phase : Phase) :
    queue.setPhase early.length phase =
      { queue with entries := early ++ { entry with phase := phase } :: late } := by
  simp [setPhase, cut]

theorem position_cut {index : Nat} (found : queue.position id = some index) :
    ∃ early entry late, queue.entries = early ++ entry :: late ∧ early.length = index ∧ entry.id = id := by
  obtain ⟨early, entry, late, cut, length, same, -⟩ := findIdx?_split found
  exact ⟨early, entry, late, cut, length, by simpa using same⟩

end ObservationQueue

inductive Advances (here : QueueStep) (entry : Entry) : Phase → Prop where
  | classified (lease : ObservationLease) (recording : Option RecordingIdentity)
      (transition : Option MusicHistoryTransition) (called : here.input = .classify lease recording (.value transition))
      (answered : here.output = .classified (.ok ())) (same : entry.id = lease.id) (before : entry.phase = .waiting) :
      Advances here entry (.classified recording transition)
  | claimed (lease : ObservationLease) (recording : RecordingIdentity) (transition : MusicHistoryTransition)
      (called : here.input = .claimWrite lease) (answered : here.output = .claimed (.ok (recording, transition)))
      (same : entry.id = lease.id) (before : entry.phase = .classified (some recording) (some transition)) :
      Advances here entry .writing
  | received (lease : ObservationLease) (receipt : HistoryReceipt) (called : here.input = .historyReceipt lease receipt)
      (answered : here.output = .done) (before : entry.phase = .writing) : Advances here entry (.receipt receipt)
  | settled (lease : ObservationLease) (called : here.input = .settle lease) (answered : here.output = .settled (.ok ()))
      (same : entry.id = lease.id) (before : entry.phase.accepted = true) : Advances here entry .settled

/-- The observations that fall out of the queue, and those that stay. -/
structure Falls (entries kept : List Entry) (gone : List Nat) : Prop where
  sublist : (kept.map Entry.id).Sublist (entries.map Entry.id)
  divided : (openIds entries).Perm (gone ++ openIds kept)
  same : ∀ entry ∈ kept, entry.phase.terminal = false → entry ∈ entries
  failed : ∀ id ∈ gone, lost kept id = true

inductive Turn (here : QueueStep) : Prop where
  | idle (published : Option Nat) (after : here.after = { here.before with publicationId := published })
      (entered : here.admitted = none) (worked : here.worked = none)
      (event : ∀ event, here.fenceEvent = some event →
        ∃ id, event = .dropped id ∧ ∀ stop, here.before.stop = some stop → stop.id ≠ id)
  | entered (owner : Option Nat)
      (after : here.after = { here.before with
        nextId := here.before.nextId + 1
        entries := here.before.entries ++ [⟨here.before.nextId, owner, .waiting⟩] })
      (entered : here.admitted = some here.before.nextId) (worked : here.worked = none) (event : here.fenceEvent = none)
  | advanced (early : List Entry) (entry : Entry) (late : List Entry) (phase : Phase) (published : Option Nat)
      (head : here.before.Heads early entry late) (advance : Advances here entry phase)
      (after : here.after = { here.before with
        entries := early ++ { entry with phase := phase } :: late
        publicationId := published })
  | fell (kept : List Entry) (gone : List Nat) (published : Option Nat) (epoch : Nat)
      (falls : Falls here.before.entries kept gone) (renewed : epoch = here.before.epoch ∨ kept = [])
      (after : here.after = { here.before.markFailures here.before.epoch gone with
        entries := kept
        publicationId := published
        epoch := epoch })
      (entered : here.admitted = none)
      (worked : ∀ work, here.worked = some work → ∃ early entry late, here.before.Heads early entry late ∧
        entry.phase = .waiting ∧ work = (.classification, entry.id) ∧ gone = [entry.id])
      (event : here.fenceEvent = none)
  | begun (free : here.before.stop = none)
      (after : here.after = { here.before with
        stopId := here.before.stopId + 1
        stop := some ⟨here.before.stopId, here.before.epoch, here.before.entries.getLast?.map Entry.id,
          here.before.failure, false⟩
        failure := false })
      (entered : here.admitted = none) (worked : here.worked = none)
      (event : here.fenceEvent = some (.begun here.before.stopId))
  | told (stop : StopState) (active : here.before.stop = some stop) (failed : stop.failed = true)
      (finished : stop.epoch = here.before.epoch →
        ∀ entry ∈ here.before.entries, stop.covers entry.id = true → entry.phase.terminal = true)
      (after : here.after = { here.before with stop := some { stop with failureObserved := true } })
      (entered : here.admitted = none) (worked : here.worked = none)
      (event : here.fenceEvent = some (.reported (.fence stop.id)))
  | dropped (stop : StopState) (active : here.before.stop = some stop)
      (after : here.after = { here.before with
        stop := none
        failure := here.before.failure || (!stop.failureObserved && stop.failed) })
      (entered : here.admitted = none) (worked : here.worked = none)
      (event : here.fenceEvent = some (.dropped stop.id))
  | quiescent (free : here.before.stop = none) (failed : here.before.failure = true)
      (after : here.after = { here.before with failure := false })
      (entered : here.admitted = none) (worked : here.worked = none)
      (event : here.fenceEvent = some (.reported .quiescentStop))

namespace Turn
variable {queue : ObservationQueue} {call : QueueCall} {reply : QueueReply}

theorem unmoved (published : Option Nat)
    (entered : QueueStep.admitted ⟨queue, call, reply, queue⟩ = none)
    (worked : QueueStep.worked ⟨queue, call, reply, queue⟩ = none)
    (event : QueueStep.fenceEvent ⟨queue, call, reply, queue⟩ = none) :
    Turn ⟨queue, call, reply, { queue with publicationId := published }⟩ := by
  refine .idle published rfl entered worked ?_
  intro found happened
  have none : some found = none := happened.symm.trans event
  cases none

end Turn

theorem Falls.fails (distinct : (∀ other ∈ early, other.id < entry.id) ∧ ∀ other ∈ late, entry.id < other.id)
    (unfinished : entry.phase.terminal = false) :
    Falls (early ++ entry :: late) (early ++ { entry with phase := .failed } :: late) [entry.id] := by
  refine ⟨?_, ?_, ?_, ?_⟩
  · simp
  · have finished : Phase.failed.terminal = true := rfl
    simp only [openIds_append, openIds_cons, unfinished, finished, if_true, Bool.false_eq_true, if_false, List.nil_append]
    exact List.perm_append_comm_assoc _ _ _
  · intro other member open_
    rcases List.mem_append.mp member with before | later
    · exact List.mem_append.mpr (.inl before)
    · rcases List.mem_cons.mp later with rfl | later
      · simp [Phase.terminal] at open_
      · exact List.mem_append.mpr (.inr (List.mem_cons_of_mem _ later))
  · intro id member
    rw [List.mem_singleton] at member
    subst member
    rw [lost_iff]
    intro other member same
    rcases List.mem_append.mp member with before | later
    · have := distinct.1 other before
      omega
    · rcases List.mem_cons.mp later with rfl | later
      · rfl
      · have := distinct.2 other later
        omega

/-- A middle entry that is taken out falls unless it was finished. -/
theorem Falls.leaves (distinct : (∀ other ∈ early, other.id < entry.id) ∧ ∀ other ∈ late, entry.id < other.id) :
    Falls (early ++ entry :: late) (early ++ late) (if entry.phase.terminal then [] else [entry.id]) := by
  refine ⟨?_, ?_, ?_, ?_⟩
  · simp
  · simp only [openIds_append, openIds_cons]
    exact List.perm_append_comm_assoc _ _ _
  · intro other member _
    simp only [List.mem_append, List.mem_cons] at member ⊢
    exact member.imp_right Or.inr
  · intro id member
    have same : id = entry.id := by
      split at member
      · cases member
      · exact List.mem_singleton.mp member
    subst same
    rw [lost_iff]
    intro other present same
    rcases List.mem_append.mp present with before | later
    · have := distinct.1 other before
      omega
    · have := distinct.2 other later
      omega

theorem Falls.removes (entries : List Entry) (distinct : (entries.map Entry.id).Pairwise (· < ·)) (gone : Entry → Bool) :
    Falls entries (entries.filter fun entry => !gone entry)
      ((entries.filter fun entry => gone entry && !entry.phase.terminal).map Entry.id) := by
  refine ⟨?_, ?_, ?_, ?_⟩
  · exact List.filter_sublist.map _
  · unfold openIds
    rw [← List.map_append]
    apply List.Perm.map
    rw [List.filter_filter]
    have parted := (List.filter_append_perm gone (entries.filter fun entry => !entry.phase.terminal)).symm
    simpa only [List.filter_filter, Bool.and_comm] using parted
  · intro entry member _
    exact (List.mem_filter.mp member).1
  · intro id member
    obtain ⟨entry, falling, rfl⟩ := List.mem_map.mp member
    obtain ⟨inside, falls⟩ := List.mem_filter.mp falling
    rw [lost_iff]
    intro other present same
    obtain ⟨there, stays⟩ := List.mem_filter.mp present
    have equal : other = entry := by
      have nodup : (entries.map Entry.id).Nodup := distinct.imp Nat.ne_of_lt
      exact List.inj_on_of_nodup_map nodup there inside same
    subst equal
    simp only [Bool.and_eq_true] at falls
    simp [falls.1] at stays

namespace Turn
variable {queue : ObservationQueue} {call : QueueCall} {reply : QueueReply} {lease : ObservationLease}
  {early late : List Entry} {entry : Entry}

theorem fails (ordered : queue.Ordered) (cut : queue.entries = early ++ entry :: late)
    (unfinished : entry.phase.terminal = false) (published : Option Nat)
    {after : ObservationQueue} (changed : after =
      ({ queue with
        entries := early ++ { entry with phase := .failed } :: late
        publicationId := published } : ObservationQueue).markFailure queue.epoch entry.id)
    (entered : QueueStep.admitted ⟨queue, call, reply, after⟩ = none)
    (worked : ∀ work, QueueStep.worked ⟨queue, call, reply, after⟩ = some work →
      queue.Heads early entry late ∧ entry.phase = .waiting ∧ work = (.classification, entry.id))
    (event : QueueStep.fenceEvent ⟨queue, call, reply, after⟩ = none) : Turn ⟨queue, call, reply, after⟩ := by
  have falls := Falls.fails (ordered.split cut) unfinished
  rw [← cut] at falls
  refine .fell _ [entry.id] published queue.epoch falls (.inl rfl) ?_ entered ?_ event
  · rw [changed, ObservationQueue.markFailures_eq, ObservationQueue.markFailure_eq]
    simp
  · intro work happened
    obtain ⟨head, waiting, same⟩ := worked work happened
    exact ⟨early, entry, late, head, waiting, same, rfl⟩

theorem classify (ordered : queue.Ordered) (recording : Option RecordingIdentity) (operation : ClassificationResult) :
    Turn ⟨queue, .classify lease recording operation, .classified (queue.classify lease recording operation).2,
      (queue.classify lease recording operation).1⟩ := by
  unfold ObservationQueue.classify
  by_cases ready : queue.ready lease = true
  · obtain ⟨early, entry, late, head, same, epoch⟩ := ObservationQueue.ready_heads ready
    simp only [ready, Bool.not_true, Bool.false_eq_true, if_false, ← same, ordered.position head.cut,
      ObservationQueue.phaseAt_cut head.cut, Option.some.injEq, ObservationQueue.setPhase_cut head.cut, ← epoch]
    by_cases waiting : entry.phase = .waiting
    · simp only [waiting, if_true]
      cases operation with
      | error =>
        refine fails ordered head.cut head.unfinished queue.publicationId rfl rfl ?_ rfl
        intro work happened
        cases happened
        exact ⟨head, waiting, by rw [same]⟩
      | value transition =>
        exact .advanced early entry late _ (some entry.id) head
          (.classified lease recording transition rfl rfl same waiting) rfl
    · simp only [waiting, if_false]
      exact unmoved _ rfl rfl rfl
  · rw [Bool.not_eq_true] at ready
    simp only [ready, Bool.not_false, if_true]
    exact unmoved _ rfl rfl rfl

theorem claimWrite (ordered : queue.Ordered) :
    Turn ⟨queue, .claimWrite lease, .claimed (queue.claimWrite lease).2, (queue.claimWrite lease).1⟩ := by
  unfold ObservationQueue.claimWrite
  by_cases ready : queue.ready lease = true
  · obtain ⟨early, entry, late, head, same, epoch⟩ := ObservationQueue.ready_heads ready
    simp only [ready, Bool.not_true, Bool.false_eq_true, if_false, ← same, ordered.position head.cut,
      ObservationQueue.phaseAt_cut head.cut, ObservationQueue.setPhase_cut head.cut]
    split
    · next recording transition found =>
      exact .advanced early entry late .writing _ head
        (.claimed lease recording transition rfl rfl same (Option.some.inj found)) rfl
    · exact unmoved _ rfl rfl rfl
  · rw [Bool.not_eq_true] at ready
    simp only [ready, Bool.not_false, if_true]
    exact unmoved _ rfl rfl rfl

theorem withReady : Turn ⟨queue, .withReady lease, .operated (queue.withReady lease).2, (queue.withReady lease).1⟩ := by
  unfold ObservationQueue.withReady
  split
  · exact unmoved _ rfl rfl rfl
  · split
    · exact unmoved _ rfl rfl rfl
    · exact unmoved _ rfl rfl rfl

theorem historyReceipt (ordered : queue.Ordered) (receipt : HistoryReceipt) :
    Turn ⟨queue, .historyReceipt lease receipt, .done, queue.historyReceipt lease receipt⟩ := by
  unfold ObservationQueue.historyReceipt
  by_cases ready : queue.ready lease = true
  · obtain ⟨early, entry, late, head, same, epoch⟩ := ObservationQueue.ready_heads ready
    simp only [ready, if_true, ← same, ordered.position head.cut, ObservationQueue.phaseAt_cut head.cut,
      Option.some.injEq, ObservationQueue.setPhase_cut head.cut]
    by_cases writing : entry.phase = .writing
    · simp only [writing, if_true]
      exact .advanced early entry late _ _ head (.received lease receipt rfl rfl writing) rfl
    · simp only [writing, if_false]
      exact unmoved _ rfl rfl rfl
  · simp only [ready, Bool.false_eq_true, if_false]
    exact unmoved _ rfl rfl rfl

theorem failPhase (ordered : queue.Ordered) {expected : Phase}
    (entered : ∀ after, QueueStep.admitted ⟨queue, call, .done, after⟩ = none)
    (worked : ∀ after, QueueStep.worked ⟨queue, call, .done, after⟩ = none)
    (event : ∀ after, QueueStep.fenceEvent ⟨queue, call, .done, after⟩ = none) :
    Turn ⟨queue, call, .done, queue.failPhase lease expected⟩ := by
  unfold ObservationQueue.failPhase
  by_cases ready : queue.ready lease = true
  · obtain ⟨early, entry, late, head, same, epoch⟩ := ObservationQueue.ready_heads ready
    simp only [ready, Bool.not_true, Bool.false_eq_true, if_false, ← same, ordered.position head.cut,
      ObservationQueue.phaseAt_cut head.cut, Option.some.injEq, ObservationQueue.setPhase_cut head.cut, ← epoch]
    by_cases meets : entry.phase = expected
    · simp only [meets, if_true]
      refine fails ordered head.cut head.unfinished (if expected = .waiting then some entry.id else queue.publicationId) ?_
        (entered _) ?_ (event _)
      · split <;> rfl
      · intro work happened
        have none := happened.symm.trans (worked _)
        cases none
    · simp only [meets, if_false]
      exact unmoved _ (entered _) (worked _) (event _)
  · rw [Bool.not_eq_true] at ready
    simp only [ready, Bool.not_false, if_true]
    exact unmoved _ (entered _) (worked _) (event _)

theorem settle (ordered : queue.Ordered) :
    Turn ⟨queue, .settle lease, .settled (queue.settle lease).2, (queue.settle lease).1⟩ := by
  unfold ObservationQueue.settle
  split
  · exact unmoved _ rfl rfl rfl
  · by_cases ready : queue.ready lease = true
    · obtain ⟨early, entry, late, head, same, epoch⟩ := ObservationQueue.ready_heads ready
      simp only [ready, Bool.not_true, Bool.false_eq_true, if_false, ← same, ordered.position head.cut,
        ObservationQueue.phaseAt_cut head.cut, ObservationQueue.setPhase_cut head.cut, ← epoch]
      split
      · exact unmoved _ rfl rfl rfl
      · exact unmoved _ rfl rfl rfl
      · next phase _ found =>
        obtain rfl : entry.phase = phase := Option.some.inj found
        split
        · next accepted => exact .advanced early entry late .settled _ head (.settled lease rfl rfl same accepted) rfl
        · split
          · refine fails ordered head.cut head.unfinished queue.publicationId rfl rfl ?_ rfl
            intro work happened
            cases happened
          · exact unmoved _ rfl rfl rfl
    · rw [Bool.not_eq_true] at ready
      simp only [ready, Bool.not_false, if_true]
      exact unmoved _ rfl rfl rfl

theorem release (ordered : queue.Ordered) : Turn ⟨queue, .release lease, .done, queue.release lease⟩ := by
  unfold ObservationQueue.release
  split
  · exact unmoved _ rfl rfl rfl
  · next epoch =>
    rw [not_not] at epoch
    split
    · exact unmoved _ rfl rfl rfl
    · next index found =>
      obtain ⟨early, entry, late, cut, rfl, same⟩ := ObservationQueue.position_cut found
      have falls := Falls.leaves (ordered.split cut)
      rw [← cut] at falls
      simp only [ObservationQueue.phaseAt_cut cut, ← epoch, ← same]
      refine .fell _ _ queue.publicationId queue.epoch falls (.inl rfl) ?_ rfl (fun work happened => nomatch happened) rfl
      rw [cut, eraseIdx_middle, ObservationQueue.markFailures_eq]
      split
      · cases queue.stop <;> simp
      · simp [ObservationQueue.markFailure_eq]

theorem requiredFailed (ordered : queue.Ordered) :
    Turn ⟨queue, .requiredFailed lease, .done, queue.requiredFailed lease⟩ := by
  unfold ObservationQueue.requiredFailed
  split
  · exact unmoved _ rfl rfl rfl
  · next epoch =>
    rw [not_not] at epoch
    split
    · exact unmoved _ rfl rfl rfl
    · next index found =>
      obtain ⟨early, entry, late, cut, rfl, same⟩ := ObservationQueue.position_cut found
      simp only [ObservationQueue.phaseAt_cut cut, ObservationQueue.setPhase_cut cut, Option.all_some, ← epoch, ← same]
      by_cases finished : entry.phase.terminal = true
      · simp only [finished, if_true]
        exact unmoved _ rfl rfl rfl
      · simp only [finished, Bool.false_eq_true, if_false]
        refine fails ordered cut (by simpa using finished) (if queue.ready lease then some entry.id else queue.publicationId)
          ?_ rfl (fun work happened => nomatch happened) rfl
        split <;> rfl

end Turn

namespace ObservationQueue
variable {queue : ObservationQueue}

/-- The entries of an owner leave together; the unfinished ones among them failed. -/
theorem retireEntries_eq (owner : Option Nat) (epoch : Nat) (entries : List Entry) (queue : ObservationQueue) :
    entries.foldl (retireEntry owner epoch) queue =
      { queue.markFailures epoch ((entries.filter fun entry =>
          (owner.all fun id => decide (entry.owner = some id)) && !entry.phase.terminal).map Entry.id) with
        entries := queue.entries ++ entries.filter fun entry => !owner.all fun id => decide (entry.owner = some id) } := by
  induction entries generalizing queue with
  | nil =>
    simp only [List.foldl_nil, List.filter_nil, List.map_nil, List.append_nil]
    rfl
  | cons entry entries ih =>
    rw [List.foldl_cons, ih, retireEntry]
    cases matched : owner.all fun id => decide (entry.owner = some id) with
    | false => simp [matched, markFailures_eq]
    | true =>
      cases finished : entry.phase.terminal with
      | true => simp [matched, finished]
      | false =>
        have keeps : (queue.markFailure epoch entry.id).entries = queue.entries := by rw [markFailure_eq]
        simp [matched, finished, markFailures_cons, keeps]

end ObservationQueue

namespace Turn
variable {queue : ObservationQueue} {call : QueueCall}

theorem retireMatching (ordered : queue.Ordered) (owner : Option Nat) (retire : Bool)
    (entered : ∀ after, QueueStep.admitted ⟨queue, call, .done, after⟩ = none)
    (worked : ∀ after, QueueStep.worked ⟨queue, call, .done, after⟩ = none)
    (event : ∀ after, QueueStep.fenceEvent ⟨queue, call, .done, after⟩ = none) :
    Turn ⟨queue, call, .done, queue.retireMatching owner retire⟩ := by
  unfold ObservationQueue.retireMatching
  cases retire with
  | false => exact unmoved _ (entered _) (worked _) (event _)
  | true =>
    have falls := Falls.removes queue.entries ordered.sorted fun entry => owner.all fun id => decide (entry.owner = some id)
    simp only [if_true, ObservationQueue.retireEntries_eq, List.nil_append]
    refine .fell _ _ queue.publicationId (if owner.isNone then min (queue.epoch + 1) u64Max else queue.epoch) falls ?_ ?_
      (entered _) (fun work happened => nomatch happened.symm.trans (worked _)) (event _)
    · cases owner with
      | none => exact .inr (by simp)
      | some owner => exact .inl rfl
    · cases owner <;> simp [ObservationQueue.markFailures_eq]

theorem enter (owner : Option Nat) :
    Turn ⟨queue, .enter owner, .admission (queue.admitObservation owner).2, (queue.admitObservation owner).1⟩ := by
  unfold ObservationQueue.admitObservation
  split
  · exact unmoved _ rfl rfl rfl
  · split
    · exact unmoved _ rfl rfl rfl
    · exact .entered owner rfl rfl rfl rfl

theorem beginStop : Turn ⟨queue, .beginStop, .fence queue.beginStop.2, queue.beginStop.1⟩ := by
  unfold ObservationQueue.beginStop
  split
  · exact unmoved _ rfl rfl rfl
  · next free =>
    split
    · exact unmoved _ rfl rfl rfl
    · exact .begun (by simpa using free) rfl rfl rfl rfl

theorem waitResult (fence : Nat) :
    Turn ⟨queue, .waitResult fence, .waited (queue.waitResult fence).2, (queue.waitResult fence).1⟩ := by
  unfold ObservationQueue.waitResult
  split
  · exact unmoved _ rfl rfl rfl
  · next stop found =>
    obtain ⟨active, same⟩ := Option.filter_eq_some_iff.mp found
    rw [decide_eq_true_eq] at same
    split
    · exact unmoved _ rfl rfl rfl
    · next free =>
      split
      · next failed =>
        subst same
        refine .told stop active failed ?_ rfl rfl rfl rfl
        intro epoch entry member covered
        by_contra unfinished
        apply free
        refine ⟨epoch, List.any_eq_true.mpr ⟨entry, member, ?_⟩⟩
        simpa [covered] using unfinished
      · exact unmoved _ rfl rfl rfl

theorem dropFence (fence : Nat) : Turn ⟨queue, .dropFence fence, .done, queue.dropFence fence⟩ := by
  unfold ObservationQueue.dropFence
  split
  · next free =>
    refine .idle queue.publicationId rfl rfl rfl ?_
    intro event happened
    cases happened
    exact ⟨fence, rfl, fun stop active => nomatch free.symm.trans active⟩
  · next stop active =>
    split
    · next other =>
      refine .idle queue.publicationId rfl rfl rfl ?_
      intro event happened
      cases happened
      refine ⟨fence, rfl, fun found there => ?_⟩
      obtain rfl : stop = found := Option.some.inj (active.symm.trans there)
      exact other
    · next same =>
      rw [not_not] at same
      subst same
      exact .dropped stop active rfl rfl rfl rfl

theorem requireQuiescentStop :
    Turn ⟨queue, .requireQuiescentStop, .quiescent queue.requireQuiescentStop.2, queue.requireQuiescentStop.1⟩ := by
  unfold ObservationQueue.requireQuiescentStop
  split
  · exact unmoved _ rfl rfl rfl
  · next free =>
    split
    · next failed =>
      refine .quiescent ?_ failed rfl rfl rfl rfl
      simpa using not_or.mp free |>.1
    · exact unmoved _ rfl rfl rfl

end Turn

theorem turn {queue : ObservationQueue} (ordered : queue.Ordered) (call : QueueCall) :
    Turn (Runs.take ObservationQueue.step queue call) := by
  cases call with
  | enter owner => exact .enter owner
  | withReady lease => exact .withReady
  | classify lease recording operation => exact .classify ordered recording operation
  | claimWrite lease => exact .claimWrite ordered
  | historyReceipt lease receipt => exact .historyReceipt ordered receipt
  | historyFailed | classificationFailed => exact .failPhase ordered (fun _ => rfl) (fun _ => rfl) fun _ => rfl
  | settle lease => exact .settle ordered
  | release lease => exact .release ordered
  | requiredFailed lease => exact .requiredFailed ordered
  | retireOwner owner retire => exact .retireMatching ordered (some owner) retire (fun _ => rfl) (fun _ => rfl) fun _ => rfl
  | retireAll => exact .retireMatching ordered none true (fun _ => rfl) (fun _ => rfl) fun _ => rfl
  | beginStop => exact .beginStop
  | waitResult fence => exact .waitResult fence
  | dropFence fence => exact .dropFence fence
  | requireQuiescentStop => exact .requireQuiescentStop

def Phase.rank : Phase → Nat
  | waiting => 0
  | classified _ _ => 1
  | writing => 2
  | receipt _ => 3
  | settled | failed => 4

def WorkKind.rank : WorkKind → Nat
  | classification => 0
  | claim => 1
  | settlement => 3

theorem Phase.terminal_of_accepted {phase : Phase} (accepted : phase.accepted = true) :
    phase.terminal = false ∧ phase.rank ≤ WorkKind.settlement.rank := by
  cases phase <;> simp_all [Phase.accepted, terminal, rank, WorkKind.rank]

namespace Advances
variable {here : QueueStep} {entry : Entry} {phase : Phase}

section Advance
variable (advance : Advances here entry phase)
include advance

theorem admitted : here.admitted = none := by
  cases advance <;> simp_all [QueueStep.admitted]

theorem fenceEvent : here.fenceEvent = none := by
  cases advance <;> simp_all [QueueStep.fenceEvent]

theorem settles : here.settled.toList = if phase.terminal then [entry.id] else [] := by
  cases advance <;> simp_all [QueueStep.settled, QueueStep.worked, Phase.terminal]

variable {work : WorkKind × Nat}

theorem worked (happened : here.worked = some work) :
    work.2 = entry.id ∧ entry.phase.rank ≤ work.1.rank ∧ work.1.rank < phase.rank := by
  cases advance with
  | classified lease recording transition called answered same before =>
    simp only [QueueStep.worked, called, answered, Option.some.injEq] at happened
    subst happened
    exact ⟨same.symm, by simp [before, Phase.rank], by simp [Phase.rank, WorkKind.rank]⟩
  | claimed lease recording transition called answered same before =>
    simp only [QueueStep.worked, called, answered, Option.some.injEq] at happened
    subst happened
    exact ⟨same.symm, by simp [before, Phase.rank, WorkKind.rank], by simp [Phase.rank, WorkKind.rank]⟩
  | received lease receipt called answered before => simp [QueueStep.worked, called] at happened
  | settled lease called answered same before =>
    simp only [QueueStep.worked, called, answered, Option.some.injEq] at happened
    subst happened
    exact ⟨same.symm, (Phase.terminal_of_accepted before).2, by simp [Phase.rank, WorkKind.rank]⟩

theorem forward : entry.phase.rank ≤ phase.rank ∧ phase ≠ .failed := by
  cases advance with
  | settled lease called answered same before =>
    have := (Phase.terminal_of_accepted before).2
    exact ⟨by simp only [Phase.rank, WorkKind.rank] at this ⊢; omega, by simp⟩
  | _ => simp_all [Phase.rank]

end Advance

end Advances

variable {here : QueueStep}

theorem QueueStep.settled_none (idle : here.worked = none) : here.settled = none := by
  simp [settled, idle]

theorem QueueStep.worked_of_settled (settles : here.settled = some id) : here.worked = some (.settlement, id) := by
  unfold settled at settles
  split at settles
  · next found => rw [found, ← Option.some.inj settles]
  · cases settles

namespace Turn
variable {here : QueueStep}

/-- Nothing fails when every open observation stays, failed ones aside. -/
theorem failures_nil (stays : ∀ entry ∈ here.before.entries, entry.phase.terminal = false →
    ∃ other ∈ here.after.entries, other.id = entry.id ∧ other.phase ≠ .failed) : here.failures = [] := by
  apply List.filter_eq_nil_iff.mpr
  intro id member fell
  obtain ⟨entry, present, unfinished, rfl⟩ := mem_openIds.mp member
  obtain ⟨other, there, same, healthy⟩ := stays entry present unfinished
  exact healthy (lost_iff.mp fell other there same)

theorem failures_same (same : here.after.entries = here.before.entries) : here.failures = [] := by
  apply failures_nil
  intro entry member unfinished
  refine ⟨entry, same ▸ member, rfl, ?_⟩
  intro failed
  simp [failed, Phase.terminal] at unfinished

theorem failures_fell {kept : List Entry} {gone : List Nat} (falls : Falls here.before.entries kept gone)
    (after : here.after.entries = kept) : here.failures.Perm gone := by
  unfold QueueStep.failures
  rw [after]
  refine (falls.divided.filter _).trans ?_
  have all : gone.filter (lost kept) = gone := List.filter_eq_self.mpr falls.failed
  have open_ : (openIds kept).filter (lost kept) = [] := by
    apply List.filter_eq_nil_iff.mpr
    intro id member fell
    obtain ⟨entry, present, unfinished, rfl⟩ := mem_openIds.mp member
    have failed := lost_iff.mp fell entry present rfl
    simp [failed, Phase.terminal] at unfinished
  rw [List.filter_append, all, open_, List.append_nil]

theorem failures_entered {owner : Option Nat} (after : here.after = { here.before with
    nextId := here.before.nextId + 1
    entries := here.before.entries ++ [⟨here.before.nextId, owner, .waiting⟩] }) : here.failures = [] := by
  apply failures_nil
  intro entry member unfinished
  rw [after]
  refine ⟨entry, List.mem_append_left _ member, rfl, ?_⟩
  intro failed
  simp [failed, Phase.terminal] at unfinished

theorem failures_advanced {phase : Phase} {published : Option Nat} (head : here.before.Heads early entry late)
    (advance : Advances here entry phase) (after : here.after = { here.before with
      entries := early ++ { entry with phase := phase } :: late
      publicationId := published }) : here.failures = [] := by
  apply failures_nil
  intro other member unfinished
  rw [after]
  simp only [head.cut, List.mem_append, List.mem_cons] at member ⊢
  have healthy : other.phase ≠ .failed := by
    intro failed
    simp [failed, Phase.terminal] at unfinished
  rcases member with before | rfl | later
  · exact ⟨other, .inl before, rfl, healthy⟩
  · exact ⟨_, .inr (.inl rfl), rfl, advance.forward.2⟩
  · exact ⟨other, .inr (.inr later), rfl, healthy⟩

theorem divided_same (same : here.after.entries = here.before.entries) (entered : here.admitted = none)
    (worked : here.worked = none) :
    (openIds here.before.entries ++ here.admitted.toList).Perm
      (here.failures ++ here.settled.toList ++ openIds here.after.entries) := by
  rw [failures_same same, entered, QueueStep.settled_none worked, same]
  simp

theorem divided (turn : Turn here) :
    (openIds here.before.entries ++ here.admitted.toList).Perm
      (here.failures ++ here.settled.toList ++ openIds here.after.entries) := by
  cases turn with
  | idle published after entered worked  => exact divided_same (by rw [after]) entered worked
  | entered owner after entered worked =>
    rw [failures_entered after, entered, QueueStep.settled_none worked, after]
    simp [openIds, Phase.terminal]
  | advanced early entry late phase published head advance after =>
    rw [failures_advanced head advance after, advance.admitted, advance.settles, after, head.cut]
    simp only [openIds_append, openIds_cons, head.unfinished, Option.toList_none, List.append_nil, List.nil_append,
      Bool.false_eq_true, if_false]
    cases phase.terminal with
    | false =>
      simp only [Bool.false_eq_true, if_false, List.nil_append]
      exact .refl _
    | true =>
      simp only [if_true, List.nil_append]
      exact List.perm_append_comm_assoc _ _ _
  | fell kept gone published epoch falls renewed after entered worked event =>
    have settled : here.settled = none := by
      unfold QueueStep.settled
      cases happened : here.worked with
      | none => rfl
      | some work =>
        obtain ⟨-, -, -, -, -, rfl, -⟩ := worked work happened
        rfl
    have stays : here.after.entries = kept := by rw [after]
    rw [entered, settled, stays]
    simp only [Option.toList_none, List.append_nil]
    exact falls.divided.trans ((failures_fell falls stays).symm.append_right _)
  | begun free after entered worked  => exact divided_same (by rw [after]) entered worked
  | told stop active failed finished after entered worked  => exact divided_same (by rw [after]) entered worked
  | dropped stop active after entered worked  => exact divided_same (by rw [after]) entered worked
  | quiescent free failed after entered worked  => exact divided_same (by rw [after]) entered worked

theorem admits (turn : Turn here) :
    here.admitted = none ∧ here.after.nextId = here.before.nextId ∨
      here.admitted = some here.before.nextId ∧ here.after.nextId = here.before.nextId + 1 := by
  cases turn with
  | idle published after entered => exact .inl ⟨entered, by rw [after]⟩
  | entered owner after entered => exact .inr ⟨entered, by rw [after]⟩
  | advanced early entry late phase published head advance after => exact .inl ⟨advance.admitted, by rw [after]⟩
  | fell kept gone published epoch falls renewed after entered =>
    exact .inl ⟨entered, by rw [after, ObservationQueue.markFailures_eq]⟩
  | begun _ after entered | told _ _ _ _ after entered | dropped _ _ after entered | quiescent _ _ after entered =>
    exact .inl ⟨entered, by rw [after]⟩

theorem ordered_same (ordered : here.before.Ordered)
    (sublist : (here.after.entries.map Entry.id).Sublist (here.before.entries.map Entry.id))
    (same : here.after.nextId = here.before.nextId) : here.after.Ordered := by
  refine ⟨ordered.sorted.sublist sublist, ?_⟩
  intro entry member
  obtain ⟨other, there, equal⟩ := List.mem_map.mp (sublist.subset (List.mem_map_of_mem member))
  rw [same, ← equal]
  exact ordered.below other there

theorem ordered (turn : Turn here) (ordered : here.before.Ordered) : here.after.Ordered := by
  cases turn with
  | idle published after => exact ordered_same ordered (by simp [after]) (by rw [after])
  | entered owner after =>
    rw [after]
    refine ⟨?_, ?_⟩
    · simp only [List.map_append, List.pairwise_append, List.map_cons, List.map_nil, List.pairwise_singleton, true_and,
        List.mem_map, List.mem_singleton]
      refine ⟨ordered.sorted, ?_⟩
      rintro id ⟨entry, member, rfl⟩ fresh rfl
      exact ordered.below entry member
    · intro entry member
      rcases List.mem_append.mp member with there | new
      · exact Nat.lt_succ_of_lt (ordered.below entry there)
      · obtain rfl := List.mem_singleton.mp new
        exact Nat.lt_succ_self _
  | advanced early entry late phase published head advance after =>
    exact ordered_same ordered (by simp [after, head.cut]) (by rw [after])
  | fell kept gone published epoch falls renewed after =>
    exact ordered_same ordered (by simpa [after] using falls.sublist) (by rw [after, ObservationQueue.markFailures_eq])
  | begun _ after | told _ _ _ _ after | dropped _ _ after | quiescent _ _ after =>
    exact ordered_same ordered (by simp [after]) (by rw [after])

/-- An open observation was just admitted, or was open before and has not gone back. -/
def Follows (before after : ObservationQueue) : Prop :=
  ∀ entry ∈ after.entries, entry.phase.terminal = false → entry.id = before.nextId ∨
    ∃ old ∈ before.entries, old.phase.terminal = false ∧ old.id = entry.id ∧ old.phase.rank ≤ entry.phase.rank

theorem follows_same (same : here.after.entries = here.before.entries) : Follows here.before here.after := by
  intro entry member unfinished
  exact .inr ⟨entry, same ▸ member, unfinished, rfl, Nat.le_refl _⟩

theorem follows (turn : Turn here) : Follows here.before here.after := by
  cases turn with
  | idle published after => exact follows_same (by rw [after])
  | entered owner after =>
    intro entry member unfinished
    rw [after] at member
    rcases List.mem_append.mp member with there | new
    · exact .inr ⟨entry, there, unfinished, rfl, Nat.le_refl _⟩
    · obtain rfl := List.mem_singleton.mp new
      exact .inl rfl
  | advanced early entry late phase published head advance after =>
    intro other member unfinished
    rw [after] at member
    rw [head.cut]
    simp only [List.mem_append, List.mem_cons] at member ⊢
    rcases member with before | rfl | later
    · exact .inr ⟨other, .inl before, unfinished, rfl, Nat.le_refl _⟩
    · exact .inr ⟨entry, .inr (.inl rfl), head.unfinished, rfl, advance.forward.1⟩
    · exact .inr ⟨other, .inr (.inr later), unfinished, rfl, Nat.le_refl _⟩
  | fell kept gone published epoch falls renewed after =>
    intro entry member unfinished
    rw [after] at member
    exact .inr ⟨entry, falls.same entry member unfinished, unfinished, rfl, Nat.le_refl _⟩
  | begun _ after | told _ _ _ _ after | dropped _ _ after | quiescent _ _ after => exact follows_same (by rw [after])

/-- Work is done on the head of the queue, which then has come past it. -/
theorem worked (turn : Turn here) (ordered : here.before.Ordered) (happened : here.worked = some work) :
    ∃ early entry late, here.before.Heads early entry late ∧ work.2 = entry.id ∧ entry.phase.rank ≤ work.1.rank ∧
      ∀ other ∈ here.after.entries, other.phase.terminal = false → other.id = work.2 → work.1.rank < other.phase.rank := by
  have contrary (none : here.worked = none) : False := by
    rw [none] at happened
    cases happened
  cases turn with
  | advanced early entry late phase published head advance after =>
    obtain ⟨same, least, past⟩ := advance.worked happened
    refine ⟨early, entry, late, head, same, least, ?_⟩
    intro other member unfinished equal
    obtain ⟨first, last⟩ := ordered.split head.cut
    rw [after] at member
    rcases List.mem_append.mp member with before | later
    · have := first other before
      omega
    · rcases List.mem_cons.mp later with rfl | later
      · exact past
      · have := last other later
        omega
  | fell kept gone published epoch falls renewed after entered worked =>
    obtain ⟨early, entry, late, head, waiting, rfl, rfl⟩ := worked work happened
    refine ⟨early, entry, late, head, rfl, by simp [waiting, Phase.rank], ?_⟩
    intro other member unfinished equal
    rw [after] at member
    have failed := lost_iff.mp (falls.failed entry.id (by simp)) other member equal
    simp [failed, Phase.terminal] at unfinished
  | idle _ _ _ worked | entered _ _ _ worked | begun _ _ _ worked | told _ _ _ _ _ _ worked | dropped _ _ _ _ worked
  | quiescent _ _ _ _ worked => exact (contrary worked).elim

end Turn

namespace Turn
variable {here : QueueStep} {work : WorkKind × Nat}

theorem advances (turn : Turn here) (happened : here.worked = some work) (kind : work.1 ≠ .classification) :
    ∃ early entry late phase, here.before.Heads early entry late ∧ Advances here entry phase := by
  have contrary (none : here.worked = none) : False := by
    rw [none] at happened
    cases happened
  cases turn with
  | advanced early entry late phase published head advance after => exact ⟨early, entry, late, phase, head, advance⟩
  | fell kept gone published epoch falls renewed after entered worked =>
    obtain ⟨early, entry, late, head, waiting, rfl, same⟩ := worked work happened
    exact absurd rfl kind
  | idle _ _ _ worked | entered _ _ _ worked | begun _ _ _ worked | told _ _ _ _ _ _ worked | dropped _ _ _ _ worked
  | quiescent _ _ _ _ worked => exact (contrary worked).elim

end Turn

def failedIds (past : List QueueStep) : List Nat := past.flatMap QueueStep.failures

def settledIds (past : List QueueStep) : List Nat := past.filterMap QueueStep.settled

def admittedIds (past : List QueueStep) : List Nat := past.filterMap QueueStep.admitted

def works (past : List QueueStep) : List (WorkKind × Nat) := past.filterMap QueueStep.worked

theorem filterMap_snoc {α : Type} (f : QueueStep → Option α) (past : List QueueStep) (here : QueueStep) :
    (past ++ [here]).filterMap f = past.filterMap f ++ (f here).toList := by
  cases found : f here <;> simp [found]

section Past
variable (past : List QueueStep) (here : QueueStep)

private theorem admittedIds_snoc :
    admittedIds (past ++ [here]) = admittedIds past ++ here.admitted.toList := filterMap_snoc _ past here

private theorem settledIds_snoc :
    settledIds (past ++ [here]) = settledIds past ++ here.settled.toList := filterMap_snoc _ past here

theorem works_snoc : works (past ++ [here]) = works past ++ here.worked.toList := filterMap_snoc _ past here

@[simp] theorem failedIds_snoc : failedIds (past ++ [here]) = failedIds past ++ here.failures := by
  simp [failedIds]

end Past

/-- Each observation is open, settled or failed, and only one of these. -/
structure Tallied (past : List QueueStep) (queue : ObservationQueue) : Prop where
  ordered : queue.Ordered
  admissions : admittedIds past = List.range queue.nextId
  divided : (failedIds past ++ settledIds past ++ openIds queue.entries).Perm (List.range queue.nextId)

theorem Tallied.initial : Tallied [] {} := by
  refine ⟨⟨List.Pairwise.nil, ?_⟩, rfl, .refl _⟩
  intro entry member
  cases member

variable {past : List QueueStep}

theorem Tallied.step (tallied : Tallied past here.before) (taken : Turn here) :
    Tallied (past ++ [here]) here.after := by
  have divided := taken.divided
  have next := taken.admits
  refine ⟨taken.ordered tallied.ordered, ?_, ?_⟩
  · rw [admittedIds_snoc, tallied.admissions]
    rcases next with ⟨nobody, still⟩ | ⟨entered, grown⟩
    · rw [nobody, still]
      exact List.append_nil _
    · rw [entered, grown, List.range_succ]
      rfl
  · have sums : (failedIds past ++ here.failures ++ (settledIds past ++ here.settled.toList) ++ openIds here.after.entries).Perm
        (failedIds past ++ settledIds past ++ openIds here.before.entries ++ here.admitted.toList) := by
      rw [List.perm_iff_count] at divided ⊢
      intro id
      have counted := divided id
      simp only [List.count_append] at counted ⊢
      omega
    rw [failedIds_snoc, settledIds_snoc]
    refine sums.trans ((tallied.divided.append_right _).trans ?_)
    rcases next with ⟨nobody, still⟩ | ⟨entered, grown⟩
    · rw [nobody, still]
      simp
    · rw [entered, grown, List.range_succ]
      rfl

/-- Work on an earlier observation, or an earlier kind of work on the same one. -/
def Precedes (first second : WorkKind × Nat) : Prop :=
  first.2 < second.2 ∨ first.2 = second.2 ∧ first.1.rank < second.1.rank

/-- Work happens in order, and the open observations are those it has not passed. -/
structure InOrder (past : List QueueStep) (queue : ObservationQueue) : Prop where
  sequence : (works past).Pairwise Precedes
  begun : ∀ work ∈ works past, work.2 < queue.nextId
  passed : ∀ work ∈ works past, ∀ entry ∈ queue.entries, entry.phase.terminal = false →
    work.2 < entry.id ∨ work.2 = entry.id ∧ work.1.rank < entry.phase.rank

theorem InOrder.step (inOrder : InOrder past here.before) (ordered : here.before.Ordered) (taken : Turn here) :
    InOrder (past ++ [here]) here.after := by
  have follows := taken.follows
  have grows : here.before.nextId ≤ here.after.nextId := by
    have := taken.admits
    omega
  have old : ∀ work ∈ works past, ∀ entry ∈ here.after.entries, entry.phase.terminal = false →
      work.2 < entry.id ∨ work.2 = entry.id ∧ work.1.rank < entry.phase.rank := by
    intro work member entry present unfinished
    rcases follows entry present unfinished with fresh | ⟨before, there, undone, same, forward⟩
    · exact .inl (fresh ▸ inOrder.begun work member)
    · have := inOrder.passed work member before there undone
      omega
  cases happened : here.worked with
  | none =>
    refine ⟨?_, ?_, ?_⟩
    all_goals rw [works_snoc, happened, Option.toList_none, List.append_nil]
    · exact inOrder.sequence
    · exact fun work member => Nat.lt_of_lt_of_le (inOrder.begun work member) grows
    · exact old
  | some work =>
    obtain ⟨early, entry, late, head, same, least, past⟩ := taken.worked ordered happened
    have inside : entry ∈ here.before.entries := by simp [head.cut]
    refine ⟨?_, ?_, ?_⟩
    all_goals rw [works_snoc, happened, Option.toList_some]
    · refine List.pairwise_append.mpr ⟨inOrder.sequence, List.pairwise_singleton _ _, ?_⟩
      intro first member second new
      obtain rfl := List.mem_singleton.mp new
      have := inOrder.passed first member entry inside head.unfinished
      unfold Precedes
      omega
    · intro other member
      rcases List.mem_append.mp member with before | new
      · exact Nat.lt_of_lt_of_le (inOrder.begun other before) grows
      · obtain rfl := List.mem_singleton.mp new
        exact same ▸ Nat.lt_of_lt_of_le (ordered.below entry inside) grows
    · intro other member later present unfinished
      rcases List.mem_append.mp member with before | new
      · exact old other before later present unfinished
      · obtain rfl := List.mem_singleton.mp new
        rcases follows later present unfinished with fresh | ⟨before, there, undone, equal, forward⟩
        · have := ordered.below entry inside
          exact .inl (by omega)
        · rw [head.cut] at there
          rcases List.mem_append.mp there with first | last
          · simp [head.finished before first] at undone
          · rcases List.mem_cons.mp last with rfl | last
            · exact .inr ⟨by omega, past later present unfinished (by omega)⟩
            · have := (ordered.split head.cut).2 before last
              exact .inl (by omega)

def Classifies (here : QueueStep) (id : Nat) (recording : Option RecordingIdentity)
    (transition : Option MusicHistoryTransition) : Prop :=
  ∃ lease, here.input = .classify lease recording (.value transition) ∧ here.output = .classified (.ok ()) ∧ lease.id = id

/-- What a classified observation holds is what its classification gave. -/
def Retained (past : List QueueStep) (queue : ObservationQueue) : Prop :=
  ∀ entry ∈ queue.entries, ∀ recording transition, entry.phase = .classified recording transition →
    ∃ here ∈ past, Classifies here entry.id recording transition

theorem Retained.extend {before after : ObservationQueue} (retained : Retained past before) (here : QueueStep)
    (same : ∀ entry ∈ after.entries, entry.phase.terminal = false → entry ∈ before.entries) :
    Retained (past ++ [here]) after := by
  intro entry member recording transition classified
  obtain ⟨step, present, classifies⟩ :=
    retained entry (same entry member (by simp [classified, Phase.terminal])) recording transition classified
  exact ⟨step, List.mem_append_left _ present, classifies⟩

theorem Retained.step (retained : Retained past here.before) (taken : Turn here) :
    Retained (past ++ [here]) here.after := by
  cases taken with
  | idle published after => exact retained.extend here fun entry member _ => by simpa [after] using member
  | entered owner after =>
    intro entry member recording transition classified
    rw [after] at member
    rcases List.mem_append.mp member with there | new
    · obtain ⟨step, present, classifies⟩ := retained entry there recording transition classified
      exact ⟨step, List.mem_append_left _ present, classifies⟩
    · obtain rfl := List.mem_singleton.mp new
      cases classified
  | advanced early entry late phase published head advance after =>
    intro other member recording transition classified
    rw [after] at member
    have kept (there : other ∈ here.before.entries) :
        ∃ step ∈ past ++ [here], Classifies step other.id recording transition := by
      obtain ⟨step, present, classifies⟩ := retained other there recording transition classified
      exact ⟨step, List.mem_append_left _ present, classifies⟩
    rcases List.mem_append.mp member with before | later
    · exact kept (by simp [head.cut, before])
    · rcases List.mem_cons.mp later with rfl | later
      · cases classified
        cases advance with
        | classified lease _ _ called answered same =>
          exact ⟨here, List.mem_append_right _ (List.mem_singleton_self here), lease, called, answered, same.symm⟩
      · exact kept (by simp [head.cut, later])
  | fell kept gone published epoch falls renewed after =>
    exact retained.extend here fun entry member unfinished => falls.same entry (by simpa [after] using member) unfinished
  | begun _ after | told _ _ _ _ after | dropped _ _ after | quiescent _ _ after =>
    exact retained.extend here fun entry member _ => by simpa [after] using member

end Cutout.Music

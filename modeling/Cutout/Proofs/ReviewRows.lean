import Cutout.Library.Outcomes
import Cutout.Proofs.OutboxRuns

/-! What a review of blocked operations rests on. Every blocked operation has a row kept for
its review, a retained entry is one the server may have sent, no two points have one server
identifier, and the outbox stays within its capacity. -/

namespace Cutout.Charging
open Library

namespace ChargingStore
variable {before middle after : ChargingStore} {fresh id point key : Uuid} {entry : ChargingDirectoryEntry}
variable {expected : ChargingRevision} {resolution : ChargingOperationResolution} {checked : ValidatedDirectoryEntry}
variable {receipt : ChargingWriteReceipt} {blocked : Nat}
variable (store : ChargingStore)
variable {current : StoredChargingSpot}

  {row later spot : SpotRow} {pin : Option Coordinate}

/-- A row is kept for every blocked operation, and a retained entry is valid. -/
structure Kept (store : ChargingStore) : Prop where
  blocked : ∀ operation ∈ store.outbox, operation.blockedKind.isSome = true →
    ∃ conflict, store.conflicts.find operation.operationId = some conflict
  valid : ∀ key conflict, store.conflicts.find key = some conflict → ∀ entry, conflict.remoteEntry = some entry → entry.Valid

namespace Kept
variable {change : OutboxRow → OutboxRow}

section Kept
variable (kept : Kept before)
include kept

theorem same (queue : SameQueue before after) : Kept after := by
  constructor
  · rw [queue.outbox, queue.conflicts]
    exact kept.blocked
  · rw [queue.conflicts]
    exact kept.valid

theorem queues {operation : OutboxRow} (queues : Queues operation before after receipt)
    (unblocked : operation.blockedKind = none) : Kept after := by
  constructor
  · intro other member blocked
    rw [queues.outbox, mem_insertOperation] at member
    rw [queues.conflicts]
    rcases member with rfl | there
    · rw [unblocked] at blocked
      cases blocked
    · exact kept.blocked other there blocked
  · rw [queues.conflicts]
    exact kept.valid

theorem deleteOperations (leaves : OutboxRow → Bool) : Kept (before.deleteOperations leaves) := by
  constructor
  · intro operation member blocked
    obtain ⟨there, stays⟩ := deleteOperations_mem member
    obtain ⟨conflict, found⟩ := kept.blocked operation there blocked
    refine ⟨conflict, ?_⟩
    have others : ((before.outbox.filter fun row => !leaves row).any fun row =>
        decide (row.operationId = operation.operationId)) = true := by
      rw [List.any_eq_true]
      exact ⟨operation, List.mem_filter.mpr ⟨there, by simp [stays]⟩, by simp⟩
    simp only [ChargingStore.deleteOperations, Table.find_keep, others, found]
    rfl
  · intro key conflict found
    exact kept.valid key conflict (deleteOperations_conflict found)

theorem marked (keeps : ∀ operation, (change operation).operationId = operation.operationId ∧
      ((change operation).blockedKind.isSome = true → operation.blockedKind.isSome = true)) :
    Kept (before.updateOperation key change) := by
  refine ⟨?_, kept.valid⟩
  intro operation member blocked
  obtain ⟨old, there, same⟩ := List.mem_map.mp member
  split at same
  · cases same
    rw [(keeps old).1]
    exact kept.blocked old there ((keeps old).2 blocked)
  · cases same
    exact kept.blocked operation there blocked

theorem blocks {draft : Option NewChargingSpot} {remote : Option ChargingDirectoryEntry}
    (keeps : ∀ operation, (change operation).operationId = operation.operationId)
    (valid : ∀ entry, remote = some entry → entry.Valid) :
    Kept ((before.updateOperation key change).keepConflict key draft remote) := by
  constructor
  · intro operation member blocked
    simp only [ChargingStore.keepConflict, Table.find_put]
    split
    · exact ⟨_, rfl⟩
    · next other =>
      obtain ⟨old, there, same⟩ := List.mem_map.mp member
      split at same
      · next here =>
        cases same
        exact absurd ((keeps old).trans here) other
      · cases same
        exact kept.blocked operation there blocked
  · intro other conflict found entry retained
    simp only [ChargingStore.keepConflict, Table.find_put] at found
    split at found
    · cases found
      cases held : before.conflicts.find key with
      | none =>
        simp only [ChargingStore.updateOperation, held] at retained
        exact valid entry retained
      | some old =>
        simp only [ChargingStore.updateOperation, held] at retained
        cases remote with
        | none => exact kept.valid key old held entry retained
        | some newest =>
          cases retained
          exact valid entry rfl
    · exact kept.valid other conflict found entry retained

theorem unblocks (unblocked : ∀ operation, (change operation).blockedKind = none)
    (outbox : after.outbox = before.outbox.map fun row => if row.operationId = key then change row else row)
    (conflicts : after.conflicts = (before.deleteConflict key).conflicts) : Kept after := by
  constructor
  · intro operation member blocked
    rw [outbox] at member
    obtain ⟨old, there, same⟩ := List.mem_map.mp member
    split at same
    · cases same
      rw [unblocked] at blocked
      cases blocked
    · next other =>
      cases same
      obtain ⟨conflict, found⟩ := kept.blocked operation there blocked
      refine ⟨conflict, ?_⟩
      rw [conflicts]
      simp only [ChargingStore.deleteConflict, Table.find_keep, found, decide_eq_true other]
      rfl
  · intro other conflict found
    rw [conflicts] at found
    simp only [ChargingStore.deleteConflict, Table.find_keep, Option.filter_eq_some_iff] at found
    exact kept.valid other conflict found.1

theorem deleteConflict (gone : ∀ operation ∈ before.outbox, operation.operationId ≠ key) :
    Kept (before.deleteConflict key) := by
  constructor
  · intro operation member blocked
    obtain ⟨conflict, found⟩ := kept.blocked operation member blocked
    refine ⟨conflict, ?_⟩
    simp only [ChargingStore.deleteConflict, Table.find_keep, found, decide_eq_true (gone operation member)]
    rfl
  · intro other conflict found
    simp only [ChargingStore.deleteConflict, Table.find_keep, Option.filter_eq_some_iff] at found
    exact kept.valid other conflict found.1

end Kept

end Kept

theorem reviewRows_kept {conflict : Option Uuid} {rows : List OutboxRow} (kept : Kept before)
    (done : reviewRows current entry before rows = .ok (after, conflict)) : Kept after :=
  reviewRows_keeps (fun _ _ kept => kept.marked fun _ => ⟨rfl, fun blocked => blocked⟩) kept done

private theorem reviewPendingChanges_kept (kept : Kept before) (valid : entry.Valid)
    (done : before.reviewPendingChanges id current entry = .ok (after, blocked)) : Kept after := by
  obtain ⟨reviewed, conflict, review, ⟨-, rfl⟩ | ⟨operationId, draft, -, -, rfl⟩⟩ := reviewPendingChanges_ok done
  · exact reviewRows_kept kept review
  · refine (reviewRows_kept kept review).blocks (fun _ => rfl) ?_
    intro newest same
    cases same
    exact valid

private theorem applyChangeEntry_kept (kept : Kept before) (done : before.applyChangeEntry entry = .ok (after, blocked)) :
    Kept after := by
  obtain ⟨valid, outcome⟩ := applyChangeEntry_ok done
  cases outcome with
  | inserted _ same _ => exact kept.same same
  | old same => exact same ▸ kept
  | tombstone _ _ _ _ _ _ _ _ _ review same | beside _ _ _ _ _ _ _ _ _ _ _ review same =>
    exact (reviewPendingChanges_kept kept valid review).same same
  | revived _ _ _ _ _ same | alone _ _ _ _ _ _ _ same => exact kept.same same

private theorem resolveOperation_kept (lines : Lines before) (kept : Kept before)
    (done : before.resolveOperation fresh id expected resolution = .ok after) : Kept after := by
  obtain ⟨-, review, spot, conflict, under, outcome⟩ := resolveOperation_ok done
  cases outcome with
  | retried same =>
    rw [same]
    exact @Kept.unblocks before _ id _ kept (fun _ => rfl) rfl rfl
  | rebased draft revision _ _ outbox _ conflicts _ => exact kept.unblocks (fun _ => rfl) outbox conflicts
  | abandoned _ _ _ _ same _ => exact (kept.deleteOperations _).same same
  | accepted _ _ _ _ _ _ _ _ _ _ outbox _ lastSequence conflicts _ =>
    have removed := kept.deleteOperations fun row => decide (row.pointId = review.row.pointId) &&
      (decide (row.operationId = id) || (review.row.action.carriesFields && decide (review.row.sequence < row.sequence) &&
        row.action.carriesFields))
    refine .same (@Kept.deleteConflict _ id removed ?_) ⟨outbox, lastSequence, conflicts⟩
    intro operation member same
    obtain ⟨there, stays⟩ := deleteOperations_mem member
    obtain ⟨inside, named, -⟩ := under.member
    rw [lines.only inside there (same.trans named.symm)] at stays
    simp [named] at stays

private theorem replaceBlockedOperation_kept {input : NewChargingSpot} (kept : Kept before)
    (done : before.replaceBlockedOperation fresh id expected input = .ok (after, receipt)) : Kept after := by
  obtain ⟨row, spot, revision, action, target, middle, -, -, -, -, -, -, same, queues⟩ := replaceBlockedOperation_ok done
  exact ((kept.deleteOperations _).same same).queues queues rfl

private theorem applyChangesPage_kept {entries : List ChargingDirectoryEntry} {nextCursor : ChargingChangeCursor} {now : Nat}
    {result : ChargingPageApplyResult} (kept : Kept before)
    (done : before.applyChangesPage entries nextCursor now = .ok (after, result)) : Kept after := by
  obtain ⟨applied, count, blocked, took, -, rfl⟩ := applyChangesPage_ok done
  have page : Kept applied := PageAvoids.invariant (fun kept _ took => applyChangeEntry_kept kept took) kept
    (.never _ before entries) took
  exact page.same ⟨rfl, rfl, rfl⟩

/-- What a property of the outbox needs to survive the calls that add no operation and block none. -/
structure QueueRule (P : ChargingStore → Prop) : Prop where
  same : ∀ {before after}, P before → SameQueue before after → P after
  deletes : ∀ {before} (leaves : OutboxRow → Bool), P before → P (before.deleteOperations leaves)
  freezes : ∀ {before} (operationId : Uuid) (target : ChargingTarget), P before →
    P (before.updateOperation operationId fun row => { row with target := some target })

/-- Whether a call may add an operation to the outbox or block one. -/
def adds : ChargingCall → Bool
  | .account _ | .nextOperation | .cacheDirectoryEntry _ | .acknowledgeOperation .. | .acknowledgeVoteOperation ..
  | .cacheVote .. => false
  | _ => true

theorem QueueRule.step {P : ChargingStore → Prop} (rule : QueueRule P) {call : ChargingCall} (adds : adds call = false)
    (holds : P store) : P (store.step call).1 := by
  cases call with
  | account event =>
    refine commit_of holds ?_
    intro after value done
    unfold applyAccount at done
    split at done
    · cases done
      exact rule.same holds ⟨rfl, rfl, rfl⟩
    · obtain ⟨_, -, done⟩ := ok_bind done
      cases done
      exact rule.same (rule.deletes (fun _ => true) holds) ⟨rfl, rfl, rfl⟩
    · cases done
    · cases done
      exact holds
  | nextOperation =>
    refine commit_of holds ?_
    intro after operation done
    obtain ⟨-, ⟨-, -, rfl⟩ | ⟨row, target, -, -, ⟨-, rfl⟩ | ⟨-, rfl⟩⟩⟩ := nextOperation_ok done
    · exact holds
    · exact holds
    · exact rule.freezes _ _ holds
  | cacheDirectoryEntry entry =>
    refine commit_of holds ?_
    intro after point done
    obtain ⟨-, rfl | ⟨row, revision, -, -, -, -, -, -, -, -, same⟩ | ⟨revision, -, -, same⟩⟩ := cacheDirectoryEntry_ok done
    · exact holds
    · exact rule.same holds same
    · exact rule.same holds same
  | acknowledgeOperation id applied entry =>
    refine commit_of holds ?_
    intro after point done
    obtain ⟨-, ⟨-, rfl⟩ | ⟨row, target, spot, -, -, -, -, same, -⟩⟩ := acknowledgeOperation_ok done
    · exact holds
    · exact rule.same (rule.deletes _ holds) same
  | acknowledgeVoteOperation id receipt =>
    refine commit_of holds ?_
    intro after point done
    obtain ⟨-, rfl⟩ | ⟨row, target, spot, shown, -, -, -, -, -, -, same, -⟩ := acknowledgeVoteOperation_ok done
    · exact holds
    · exact rule.same (rule.deletes _ holds) same
  | cacheVote remoteId vote voteRevision votesUp votesDown changeSequence =>
    refine commit_of holds ?_
    intro after point done
    obtain ⟨-, row, revision, shown, -, -, -, -, -, same⟩ := cacheVote_ok done
    exact rule.same holds same
  | _ => cases adds

private theorem kept_rule : QueueRule Kept :=
  ⟨.same, fun leaves kept => kept.deleteOperations leaves, fun _ _ kept => kept.marked fun _ => ⟨rfl, fun blocked => blocked⟩⟩

private theorem step_kept (call : ChargingCall) (lines : Lines store) (kept : Kept store) : Kept (store.step call).1 := by
  cases call with
  | save point fresh input =>
    refine commit_of kept ?_
    intro after receipt done
    obtain ⟨-, middle, -, same, queues⟩ := save_ok done
    exact (kept.same same).queues queues rfl
  | change fresh id expected action =>
    refine commit_of kept ?_
    intro after receipt done
    obtain ⟨row, revision, middle, -, -, -, same, queues⟩ := change_ok done
    exact (kept.same same).queues queues rfl
  | applyChangesPage entries nextCursor now => exact commit_of kept fun _ _ done => applyChangesPage_kept kept done
  | blockOperation id kind =>
    refine commit_done_of kept ?_
    intro after done
    obtain ⟨row, draft, -, rfl⟩ := blockOperation_ok done
    refine kept.blocks (fun _ => rfl) ?_
    intro entry never
    cases never
  | resolveOperation fresh id expected resolution =>
    exact commit_done_of kept fun _ done => resolveOperation_kept lines kept done
  | replaceBlockedOperation fresh id expected input =>
    exact commit_of kept fun _ _ done => replaceBlockedOperation_kept kept done
  | _ => exact kept_rule.step store rfl kept

def DistinctRemotes (store : ChargingStore) : Prop :=
  ∀ one two first second remoteId, store.spots.find one = some first → store.spots.find two = some second →
    first.remoteId = some remoteId → second.remoteId = some remoteId → one = two

def Free (store : ChargingStore) (id remoteId : Uuid) : Prop :=
  ∀ other spot, other ≠ id → store.spots.find other = some spot → spot.remoteId ≠ some remoteId

namespace DistinctRemotes

theorem same (distinct : DistinctRemotes before) (spots : after.spots = before.spots) : DistinctRemotes after := by
  unfold DistinctRemotes
  rw [spots]
  exact distinct

theorem became (distinct : DistinctRemotes before) (moved : Became id later pin before after)
    (free : ∀ remoteId, later.remoteId = some remoteId → Free before id remoteId) : DistinctRemotes after := by
  intro one two first second remoteId known also held same
  by_cases here : one = id
  · by_cases there : two = id
    · rw [here, there]
    · rw [here, moved.spot] at known
      cases known
      rw [moved.spots two there] at also
      exact absurd same (free remoteId held two second there also)
  · rw [moved.spots one here] at known
    by_cases there : two = id
    · rw [there, moved.spot] at also
      cases also
      exact absurd held (free remoteId same one first here known)
    · rw [moved.spots two there] at also
      exact distinct one two first second remoteId known also held same

theorem known (distinct : DistinctRemotes before) (moved : Became id later pin before after)
    (known : before.spots.find id = some row) (same : later.remoteId = row.remoteId) : DistinctRemotes after := by
  apply distinct.became moved
  intro remoteId held other spot apart found equal
  rw [same] at held
  exact apart (distinct other id spot row remoteId found known equal held)

end DistinctRemotes

private theorem findRemote_none (missing : before.findRemote key = none) : Free before id key := by
  intro other spot _ known held
  have absent := Table.search_none missing known
  simp [held] at absent

theorem applyEntry_free {update : EntryUpdate} (known : before.spots.find id = some row)
    (done : before.applyEntry id checked update = .ok after) : Free before id checked.entry.id := by
  unfold applyEntry at done
  dsimp only at done
  obtain ⟨placed, applied, done⟩ := ok_bind done
  obtain ⟨_, free, -⟩ := ok_bind done
  obtain ⟨moved, -⟩ := Became.applyBody known applied
  have free := ensure_ok free
  rw [seenEntry_id, remoteFree, Option.isNone_iff_eq_none] at free
  intro other spot apart found held
  rw [← moved.spots other apart] at found
  have absent := Table.search_none free found
  simp [apart, held] at absent

private theorem replaceCached_free {existing : Option Uuid} (known : before.spots.find id = some row)
    (done : before.replaceCached id existing checked = .ok (after, point)) : Free before id checked.entry.id := by
  unfold replaceCached at done
  obtain ⟨applied, took, -⟩ := ok_bind done
  exact applyEntry_free known took

private theorem cacheDirectoryEntry_remotes (distinct : DistinctRemotes before)
    (done : before.cacheDirectoryEntry entry = .ok (after, point)) : DistinctRemotes after := by
  obtain ⟨-, rfl | ⟨row, revision, known, remote, -, -, -, -, -, moved, -⟩ | ⟨revision, unknown, moved, -⟩⟩ :=
    cacheDirectoryEntry_ok done
  · exact distinct
  · refine distinct.known moved known (Eq.trans ?_ remote.symm)
    exact congrArg some seenEntry_id
  · apply distinct.became moved
    intro remoteId held
    have named : entry.id = remoteId := Option.some.inj ((congrArg some seenEntry_id).symm.trans held)
    unfold cacheDirectoryEntry at done
    obtain ⟨checked, validated, done⟩ := ok_bind done
    have equal := ValidatedDirectoryEntry.new_ok validated
    subst equal
    dsimp only at done
    generalize before.findRemote checked.entry.id = existing at done
    generalize existing.getD checked.entry.id = id at done
    split at done
    · next current found =>
      obtain ⟨row, known, -⟩ := detail_some found
      obtain ⟨unchanged, -, done⟩ := ok_bind done
      split at done
      · cases done
        cases unknown.symm.trans known
      · obtain ⟨revision, -, same, -⟩ := replaceCached_ok known done
        rw [same] at unknown
        cases unknown.symm.trans known
    · obtain ⟨_, -, done⟩ := ok_bind done
      obtain ⟨inserted, created, done⟩ := ok_bind done
      obtain ⟨absent, began, -⟩ := insertDirectory_ok created
      obtain ⟨revision, -, same, -⟩ := replaceCached_ok began.spot done
      have free := replaceCached_free began.spot done
      rw [named] at free
      rw [same]
      intro other spot apart found
      rw [← began.spots other apart] at found
      exact free other spot apart found

private theorem acknowledgeOperation_remotes {applied : ChargingRevision} (distinct : DistinctRemotes before)
    (done : before.acknowledgeOperation id applied entry = .ok (after, point)) : DistinctRemotes after := by
  obtain ⟨-, ⟨-, rfl⟩ | ⟨row, target, spot, sent, rfl, known, -, -, moved⟩⟩ := acknowledgeOperation_ok done
  · exact distinct
  apply distinct.became moved
  intro remoteId held
  rw [(acknowledgedRow_same _ id entry spot).1] at held
  cases held
  unfold acknowledgeOperation at done
  obtain ⟨checked, validated, done⟩ := ok_bind done
  have equal := ValidatedDirectoryEntry.new_ok validated
  subst equal
  obtain ⟨_, -, done⟩ := ok_bind done
  rw [sent.pending] at done
  obtain ⟨current, found, done⟩ := ok_bind done
  obtain ⟨frozen, -, done⟩ := ok_bind done
  obtain ⟨_, -, done⟩ := ok_bind done
  obtain ⟨taken, took, -⟩ := ok_bind done
  obtain ⟨held, also, same⟩ := detail_some (orError_ok found)
  have detailed : current.toSpotRow = held := by rw [same]
  have placed : current.pointId = row.pointId := by rw [same]
  have early := (preservePendingPublication_ok (before.removeOperation id) checked.entry
    ((before.removeOperation id).hasPendingOperations row.pointId) also detailed placed).1
  have free := applyEntry_free early.spot took
  intro other spot apart found
  exact free other spot apart ((early.spots other apart).trans found)

private theorem applyChangeEntry_remotes (distinct : DistinctRemotes before)
    (done : before.applyChangeEntry entry = .ok (after, blocked)) : DistinctRemotes after := by
  obtain ⟨-, outcome⟩ := applyChangeEntry_ok done
  cases outcome with
  | inserted unknown _ moved new =>
    apply distinct.became moved
    intro remoteId held
    have named : entry.id = remoteId := Option.some.inj ((congrArg some seenEntry_id).symm.trans held)
    rw [← named]
    exact findRemote_none new
  | old same => exact same ▸ distinct
  | tombstone id row revision reviewed current blocked newer _ _ _ _ _ _ moved =>
    exact distinct.known moved newer.known newer.remote.symm
  | beside id row voted revision voteRevision reviewed current blocked newer _ _ _ _ _ _ revoted moved =>
    refine distinct.known moved newer.known (revoted.remoteId.trans ?_)
    rw [besideUpdate_remoteId, newer.remote]
  | revived id row revision newer _ _ _ _ moved => exact distinct.known moved newer.known newer.remote.symm
  | alone id row voted revision voteRevision newer _ _ _ _ revoted moved =>
    refine distinct.known moved newer.known (revoted.remoteId.trans ?_)
    rw [newer.remote]
    exact congrArg some seenEntry_id

theorem UnderReview.retained {review : Reviewed} {conflict : ConflictRow}
    (under : UnderReview before id review spot conflict) (lines : Lines before)
    (remote : review.remote = some checked) : spot.remoteId = some checked.entry.id := by
  obtain ⟨member, equal, -⟩ := under.member
  have kept := under.kept
  rw [← equal] at kept
  refine (lines.lined _ spot under.known).remote review.row member rfl conflict kept checked.entry ?_
  rw [← under.remote, remote]
  rfl

private theorem resolveOperation_remotes (lines : Lines before) (distinct : DistinctRemotes before)
    (done : before.resolveOperation fresh id expected resolution = .ok after) : DistinctRemotes after := by
  obtain ⟨-, review, spot, conflict, under, outcome⟩ := resolveOperation_ok done
  cases outcome with
  | retried same => exact distinct.same (by rw [same]; rfl)
  | rebased _ _ _ _ _ _ _ moved | abandoned _ _ _ _ _ moved => exact distinct.known moved under.known rfl
  | accepted checked final pin revision remote _ _ _ takes _ _ _ _ _ moved =>
    refine distinct.known moved under.known (takes.remoteId.trans ?_)
    exact (under.retained lines remote).symm

private theorem step_remotes (call : ChargingCall) (lines : Lines store) (active : store.account = .active)
    (distinct : DistinctRemotes store) : DistinctRemotes (store.step call).1 := by
  cases call with
  | account event =>
    refine commit_of distinct ?_
    intro after value done
    unfold applyAccount at done
    rw [active] at done
    cases event with
    | read | beginDeletion =>
      cases done
      exact distinct
    | completeDeletion atMs => cases done
  | save point fresh input =>
    refine commit_of distinct ?_
    intro after receipt done
    obtain ⟨-, middle, moved, -, queues⟩ := save_ok done
    apply (distinct.became moved _).same queues.spots
    intro remoteId never
    cases never
  | change fresh id expected action =>
    refine commit_of distinct ?_
    intro after receipt done
    obtain ⟨row, revision, middle, known, admitted, moved, -, queues⟩ := change_ok done
    exact (distinct.known moved known (changedRow_same row revision admitted.notCreate).2.1).same queues.spots
  | nextOperation =>
    refine commit_of distinct ?_
    intro after operation done
    obtain ⟨-, ⟨-, -, rfl⟩ | ⟨row, target, -, -, ⟨-, rfl⟩ | ⟨-, rfl⟩⟩⟩ := nextOperation_ok done
    · exact distinct
    · exact distinct
    · exact distinct
  | cacheDirectoryEntry entry => exact commit_of distinct fun _ _ done => cacheDirectoryEntry_remotes distinct done
  | acknowledgeOperation id applied entry =>
    exact commit_of distinct fun _ _ done => acknowledgeOperation_remotes distinct done
  | acknowledgeVoteOperation id receipt =>
    refine commit_of distinct ?_
    intro after point done
    obtain ⟨-, rfl⟩ | ⟨row, target, spot, shown, -, -, -, known, -, -, -, moved⟩ := acknowledgeVoteOperation_ok done
    · exact distinct
    · exact distinct.known moved known rfl
  | applyChangesPage entries nextCursor now =>
    refine commit_of distinct ?_
    intro after result done
    obtain ⟨applied, count, blocked, took, -, rfl⟩ := applyChangesPage_ok done
    have page : DistinctRemotes applied := PageAvoids.invariant
      (fun distinct _ took => applyChangeEntry_remotes distinct took) distinct (.never _ store entries) took
    exact page.same rfl
  | cacheVote remoteId vote voteRevision votesUp votesDown changeSequence =>
    refine commit_of distinct ?_
    intro after point done
    obtain ⟨-, row, revision, shown, known, -, -, -, moved, -⟩ := cacheVote_ok done
    exact distinct.known moved known rfl
  | blockOperation id kind =>
    refine commit_done_of distinct ?_
    intro after done
    obtain ⟨row, draft, -, rfl⟩ := blockOperation_ok done
    exact distinct
  | resolveOperation fresh id expected resolution =>
    exact commit_done_of distinct fun _ done => resolveOperation_remotes lines distinct done
  | replaceBlockedOperation fresh id expected input =>
    refine commit_of distinct ?_
    intro after receipt done
    obtain ⟨row, spot, revision, action, target, middle, -, -, known, -, -, moved, -, queues⟩ := replaceBlockedOperation_ok done
    exact (distinct.known moved known rfl).same queues.spots

def Roomy (store : ChargingStore) : Prop := store.outbox.length ≤ chargingOutboxCapacity

private theorem insertOperation_length (row : OutboxRow) (rows : List OutboxRow) :
    (insertOperation row rows).length = rows.length + 1 := (insertOperation_perm row rows).length_eq

theorem insertRow_roomy {row : OutboxRow} (done : before.insertRow row = .ok (after, receipt)) : Roomy after := by
  unfold insertRow at done
  obtain ⟨_, -, done⟩ := ok_bind done
  obtain ⟨_, room, done⟩ := ok_bind done
  obtain ⟨_, -, done⟩ := ok_bind done
  cases done
  have room := ensure_ok room
  unfold Roomy
  rw [insertOperation_length]
  exact room

namespace Roomy

theorem le (roomy : Roomy before) (fewer : after.outbox.length ≤ before.outbox.length) : Roomy after :=
  Nat.le_trans fewer roomy

theorem same (roomy : Roomy before) (queue : SameQueue before after) : Roomy after :=
  roomy.le (Nat.le_of_eq (congrArg List.length queue.outbox))

theorem ids (roomy : Roomy before) (same : after.outbox.map OutboxRow.operationId = before.outbox.map OutboxRow.operationId) :
    Roomy after := by
  apply roomy.le
  have lengths := congrArg List.length same
  rw [List.length_map, List.length_map] at lengths
  exact Nat.le_of_eq lengths

theorem updateOperation {change : OutboxRow → OutboxRow} (roomy : Roomy before) : Roomy (before.updateOperation key change) :=
  roomy.le (Nat.le_of_eq (List.length_map _))

theorem deleteOperations (roomy : Roomy before) (leaves : OutboxRow → Bool) : Roomy (before.deleteOperations leaves) :=
  roomy.le (List.length_filter_le _ _)

end Roomy

private theorem resolveOperation_roomy (roomy : Roomy before)
    (done : before.resolveOperation fresh id expected resolution = .ok after) : Roomy after := by
  obtain ⟨-, review, spot, conflict, under, outcome⟩ := resolveOperation_ok done
  cases outcome with
  | retried same =>
    rw [same]
    exact roomy.updateOperation
  | rebased _ _ _ _ outbox _ _ _ =>
    apply roomy.le
    rw [outbox]
    exact Nat.le_of_eq (List.length_map _)
  | abandoned _ _ _ _ same _ => exact (roomy.deleteOperations _).same same
  | accepted _ _ _ _ _ _ _ _ _ _ outbox _ _ _ _ =>
    apply roomy.le
    rw [outbox]
    exact List.length_filter_le _ _

private theorem step_roomy (call : ChargingCall) (roomy : Roomy store) : Roomy (store.step call).1 := by
  cases call with
  | save point fresh input =>
    refine commit_of roomy ?_
    intro after receipt done
    obtain ⟨indexed, -, done⟩ := ok_bind done
    obtain ⟨_, -, done⟩ := ok_bind done
    exact insertRow_roomy done
  | change fresh id expected action =>
    refine commit_of roomy ?_
    intro after receipt done
    obtain ⟨current, -, done⟩ := ok_bind done
    obtain ⟨revision, -, done⟩ := ok_bind done
    obtain ⟨applied, -, done⟩ := ok_bind done
    exact insertRow_roomy done
  | applyChangesPage entries nextCursor now =>
    refine commit_of roomy ?_
    intro after result done
    obtain ⟨applied, count, blocked, took, -, rfl⟩ := applyChangesPage_ok done
    have page : Roomy applied := PageAvoids.invariant
      (fun roomy _ took => roomy.ids (applyChangeEntry_ok took).2.ids) roomy (.never _ store entries) took
    exact page
  | blockOperation id kind =>
    refine commit_done_of roomy ?_
    intro after done
    obtain ⟨row, draft, -, rfl⟩ := blockOperation_ok done
    exact roomy.updateOperation
  | resolveOperation fresh id expected resolution =>
    exact commit_done_of roomy fun _ done => resolveOperation_roomy roomy done
  | replaceBlockedOperation fresh id expected input =>
    refine commit_of roomy ?_
    intro after receipt done
    obtain ⟨_, -, done⟩ := ok_bind done
    obtain ⟨row, -, done⟩ := ok_bind done
    obtain ⟨kind, -, done⟩ := ok_bind done
    obtain ⟨current, -, done⟩ := ok_bind done
    obtain ⟨_, -, done⟩ := ok_bind done
    obtain ⟨remote, -, done⟩ := ok_bind done
    obtain ⟨_, -, done⟩ := ok_bind done
    obtain ⟨action, -, done⟩ := ok_bind done
    obtain ⟨revision, -, done⟩ := ok_bind done
    obtain ⟨indexed, -, done⟩ := ok_bind done
    exact insertRow_roomy done
  | _ =>
    have rule : QueueRule Roomy :=
      ⟨.same, fun leaves roomy => roomy.deleteOperations leaves, fun _ _ roomy => roomy.updateOperation⟩
    exact rule.step store rfl roomy

private theorem step_active (call : ChargingCall) (active : (store.step call).1.account = .active) :
    store.account = .active := by
  by_contra inactive
  suffices still : (store.step call).1.account ≠ .active from still active
  have refused {α : Type} {outcome : Except StorageError (ChargingStore × α)} {reply : α → ChargingReply}
      (never : ∀ after value, outcome = .ok (after, value) → store.account = .active) :
      (store.commit outcome reply).1.account ≠ .active :=
    commit_of (P := fun after => after.account ≠ .active) inactive fun after value done => absurd (never after value done) inactive
  have kept {after : ChargingStore} (same : after.account = store.account) : after.account ≠ .active := by rwa [same]
  cases call with
  | account event =>
    refine commit_of (P := fun after => after.account ≠ .active) inactive ?_
    intro after value done
    unfold applyAccount at done
    cases held : store.account with
    | active => exact absurd held inactive
    | deleting =>
      rw [held] at done
      cases event with
      | completeDeletion atMs =>
        obtain ⟨_, -, done⟩ := ok_bind done
        cases done
        intro never
        cases never
      | _ =>
        cases done
        exact inactive
    | deleted atMs =>
      rw [held] at done
      cases event with
      | _ =>
        cases done
        exact inactive
  | save point fresh input =>
    apply refused
    intro after receipt done
    obtain ⟨-, middle, moved, -, queues⟩ := save_ok done
    rw [← moved.account]
    exact queues.active
  | change fresh id expected action =>
    apply refused
    intro after receipt done
    obtain ⟨row, revision, middle, -, -, moved, -, queues⟩ := change_ok done
    rw [← moved.account]
    exact queues.active
  | nextOperation => exact refused fun _ _ done => (nextOperation_ok done).1
  | cacheDirectoryEntry entry =>
    refine commit_of (P := fun after => after.account ≠ .active) inactive ?_
    intro after point done
    obtain ⟨-, rfl | ⟨row, revision, -, -, -, -, -, -, -, moved, -⟩ | ⟨revision, -, moved, -⟩⟩ := cacheDirectoryEntry_ok done
    · exact inactive
    · exact kept moved.account
    · exact kept moved.account
  | acknowledgeOperation id applied entry =>
    apply refused
    intro after point done
    obtain ⟨checked, -, done⟩ := ok_bind done
    obtain ⟨_, active, -⟩ := ok_bind done
    exact ensureActive_ok active
  | acknowledgeVoteOperation id receipt =>
    apply refused
    intro after point done
    obtain ⟨_, -, done⟩ := ok_bind done
    obtain ⟨_, active, -⟩ := ok_bind done
    exact ensureActive_ok active
  | applyChangesPage entries nextCursor now =>
    refine commit_of (P := fun after => after.account ≠ .active) inactive ?_
    intro after result done
    obtain ⟨applied, count, blocked, took, -, rfl⟩ := applyChangesPage_ok done
    have page : applied.account = store.account := PageAvoids.invariant (P := fun after => after.account = store.account)
      (fun same _ took => (applyChangeEntry_ok took).2.account.trans same) rfl (.never _ store entries) took
    exact kept page
  | cacheVote remoteId vote voteRevision votesUp votesDown changeSequence =>
    exact refused fun _ _ done => (cacheVote_ok done).1
  | blockOperation id kind =>
    refine commit_done_of (P := fun after => after.account ≠ .active) inactive ?_
    intro after done
    obtain ⟨row, draft, -, rfl⟩ := blockOperation_ok done
    exact inactive
  | resolveOperation fresh id expected resolution =>
    exact commit_done_of (P := fun after => after.account ≠ .active) inactive
      fun _ done => absurd (resolveOperation_ok done).1 inactive
  | replaceBlockedOperation fresh id expected input =>
    apply refused
    intro after receipt done
    obtain ⟨_, active, -⟩ := ok_bind done
    exact ensureActive_ok active

structure Reviewing (store : ChargingStore) : Prop extends Lines store, Kept store where
  remotes : DistinctRemotes store
  room : Roomy store

/-- Every active store that calls reach from an empty one is ready for review. -/
theorem run_reviewing (points : List Uuid) (index : SpatialIndex) (calls : List ChargingCall)
    (active : (Runs.final step { mapPoints := points, index := index } calls).account = .active) :
    Reviewing (Runs.final step { mapPoints := points, index := index } calls) := by
  have initial : Reviewing { mapPoints := points, index := index } := by
    refine ⟨(Reached.start points index).toLines, ⟨?_, ?_⟩, ?_, Nat.zero_le _⟩
    · intro operation member
      exact absurd member List.not_mem_nil
    · intro key conflict found
      cases found
    · intro one two first second remoteId known
      cases known
  refine Runs.invariant (P := fun store => store.account = .active → Reviewing store) ?_ (fun _ => initial) calls active
  intro store call held alive
  have before := step_active store call alive
  have here := held before
  exact ⟨step_lines store call here.toLines before, step_kept store call here.toLines here.toKept,
    step_remotes store call here.toLines before here.remotes, step_roomy store call here.room⟩

end ChargingStore

end Cutout.Charging

import Cutout.Proofs.ChargingOutbox

/-! Every call of the charging store keeps the outbox in order: local changes join behind
the create, an acknowledged create makes its point known, a page's entry freezes and
blocks operations of a point the server knows, and what a user resolves or replaces
stands where it stood. -/

namespace Cutout.Charging
open Library

namespace ChargingStore
variable {before middle after : ChargingStore} {fresh id point key : Uuid} {entry : ChargingDirectoryEntry}
variable {operation : OutboxRow} {receipt : ChargingWriteReceipt} {leaves : OutboxRow → Bool}
variable {change : OutboxRow → OutboxRow} {current : StoredChargingSpot} {expected : ChargingRevision}
variable {action : ChargingAction} {rows : List OutboxRow} {remoteId : Uuid}
variable {input : NewChargingSpot} {target : ChargingTarget}

  {row later spot : SpotRow} {pin : Option Coordinate}

theorem save_lines (lines : Lines before) (done : before.save point fresh input = .ok (after, receipt)) :
    Lines after := by
  obtain ⟨unknown, middle, moved, same, queues⟩ := save_ok done
  have none_ : ∀ row, before.spots.find point = some row → row.localRevision.value ≤ (savedRow input).localRevision.value := by
    intro row known
    cases unknown.symm.trans known
  have rows := lines.toRows.became moved same none_
  have only : ∀ operation ∈ after.outbox, operation.pointId = point → operation.action = .create input ∧
      operation.operationId = fresh := by
    intro operation member place
    rw [queues.outbox, mem_insertOperation] at member
    rcases member with rfl | there
    · exact ⟨rfl, rfl⟩
    · rw [same.outbox] at there
      exact absurd place (lines.toRows.absent unknown operation there)
  apply lines.changed (rows.queues queues ⟨_, moved.spot, Nat.le_refl _⟩ rfl)
    ((Untouched.became moved same).trans (.queues queues))
  intro spot known
  rw [queues.spots, moved.spot] at known
  cases known
  refine ⟨?_, ?_, ?_, ?_, ?_⟩
  · intro remote
    cases remote
  · intro _ operation member place
    left
    rw [(only operation member place).1]
    rfl
  · intro one first two second here there kind other
    have bothKnown := (only one first here).2.trans (only two second there).2.symm
    exact (rows.queues queues ⟨_, moved.spot, Nat.le_refl _⟩ rfl).ids one first two second bothKnown
  · intro _ _
    exact queues.hasCreate rfl trivial
  · intro operation member place conflict found
    rw [(only operation member place).2, queues.conflicts, rows.unkept queues.unknown] at found
    cases found

theorem changedRow_same (row : SpotRow) (revision : ChargingRevision) (notCreate : action.isCreate = false) :
    (changedRow action revision row).localRevision = revision ∧ (changedRow action revision row).remoteId = row.remoteId ∧
      (changedRow action revision row).lastAck = row.lastAck ∧
      ((changedRow action revision row).status ≠ .withdrawn → row.status ≠ .withdrawn) := by
  cases action with
  | create input => cases notCreate
  | edit input => exact ⟨rfl, rfl, rfl, fun shown => shown⟩
  | withdraw => exact ⟨rfl, rfl, rfl, fun shown => absurd rfl shown⟩
  | verify | vote => exact ⟨rfl, rfl, rfl, fun shown => shown⟩

theorem change_lines (lines : Lines before) (done : before.change fresh id expected action = .ok (after, receipt)) :
    Lines after := by
  obtain ⟨row, revision, middle, known, admitted, moved, same, queues⟩ := change_ok done
  obtain ⟨revised, remoteId, -, status⟩ := changedRow_same row revision admitted.notCreate
  have grows : ∀ old, before.spots.find id = some old →
      old.localRevision.value ≤ (changedRow action revision row).localRevision.value := by
    intro old held
    cases known.symm.trans held
    rw [revised, admitted.next]
    exact Nat.le_succ _
  have rows := lines.toRows.became moved same grows
  have owned : ∃ spot, middle.spots.find id = some spot ∧ revision.value ≤ spot.localRevision.value :=
    ⟨_, moved.spot, Nat.le_of_eq (congrArg ChargingRevision.value revised.symm)⟩
  apply lines.changed (rows.queues queues owned rfl) ((Untouched.became moved same).trans (.queues queues))
  intro spot held
  rw [queues.spots, moved.spot] at held
  cases held
  have lined := lines.lined id row known
  have shown : row.status ≠ .withdrawn := by
    intro withdrawn
    rcases admitted.status with visible | ⟨hidden, -⟩
    · rw [withdrawn] at visible
      cases visible
    · cases withdrawn.symm.trans hidden
  apply (lined.unedited same remoteId status).joined queues ⟨admitted.notCreate, rfl, rfl⟩
  · intro other member
    rw [same.outbox] at member
    exact Nat.lt_succ_of_le (lines.bounded other member)
  · intro unknown
    rw [remoteId] at unknown
    obtain ⟨create, member, place, kind, holds⟩ := lined.pending unknown shown
    exact ⟨create, same.outbox ▸ member, place, kind, holds⟩
  · exact rows.unkept queues.unknown

/-- An edit of the operation under an identifier that keeps what it asks for. -/
theorem Lines.edited (lines : Lines before) (place : ∀ row ∈ before.outbox, row.operationId = key → row.pointId = id)
    (rows : Rows (before.updateOperation key change))
    (keeps : ∀ row, (change row).operationId = row.operationId ∧ (change row).sequence = row.sequence ∧
      (change row).pointId = row.pointId ∧ (change row).action = row.action)
    (sent : ∀ spot, before.spots.find id = some spot → spot.remoteId = none →
      ∀ row ∈ before.outbox, row.operationId = key → row.action.isCreate = true) :
    Lines (before.updateOperation key change) := by
  have still : Untouched id before (before.updateOperation key change) := by
    apply Untouched.updateOperation
    intro row inside same
    rw [(keeps row).2.2.1]
    exact ⟨place row inside same, place row inside same⟩
  apply lines.changed rows still
  intro spot known
  have lined := lines.lined id spot known
  refine lined.edited rfl ?_ ?_ rfl (fun shown => shown) ?_
  · intro row
    split
    · exact ⟨(keeps row).2.2.1, (keeps row).2.2.2, (keeps row).2.1⟩
    · exact ⟨rfl, rfl, rfl⟩
  · intro unknown row inside _ kind
    rw [if_neg]
    intro same
    rw [sent spot known unknown row inside same] at kind
    cases kind
  · intro row inside place conflict found
    obtain ⟨old, there, same⟩ := List.mem_map.mp inside
    have named : row.operationId = old.operationId ∧ row.pointId = old.pointId := by
      rw [← same]
      split
      · exact ⟨(keeps old).1, (keeps old).2.2.1⟩
      · exact ⟨rfl, rfl⟩
    rw [named.1] at found
    exact lined.remote old there (named.2.symm.trans place) conflict found

theorem Rows.only (rows : Rows before) (member : operation ∈ before.outbox) {other : OutboxRow}
    (inside : other ∈ before.outbox) (same : other.operationId = operation.operationId) : other = operation :=
  rows.ids other inside operation member same

theorem Rows.edited (rows : Rows before)
    (keeps : ∀ row, (change row).operationId = row.operationId ∧ (change row).sequence = row.sequence ∧
      (change row).pointId = row.pointId ∧ (change row).localRevision = row.localRevision)
    (frozen : ∀ operation ∈ before.outbox, operation.operationId = key → (change operation).blockedKind.isSome = true →
      (change operation).target.isSome = true) : Rows (before.updateOperation key change) := by
  refine rows.updateOperation ?_ (fun row => (keeps row).2) (.inl rfl) frozen
  intro row
  split
  · next same => rw [(keeps row).1, same]
  · rfl

theorem isFirst_iff : before.isFirst operation = true ↔
    ∀ prior ∈ before.outbox, prior.pointId = operation.pointId → operation.sequence ≤ prior.sequence := by
  simp only [isFirst, Bool.not_eq_true', List.any_eq_false, Bool.and_eq_true, decide_eq_true_eq, not_and, Nat.not_lt]

/-- What comes first for a point the server does not know is the create. -/
theorem Lines.first_create (lines : Lines before) (member : operation ∈ before.outbox)
    (first : before.isFirst operation = true) (known : before.spots.find operation.pointId = some spot)
    (unknown : spot.remoteId = none) : operation.action.isCreate = true := by
  rcases (lines.lined _ spot known).waits unknown operation member rfl with kind | ⟨-, create, there, place, -, ahead⟩
  · exact kind
  · exact absurd ahead (Nat.not_lt.mpr (isFirst_iff.mp first create there place))

theorem pendingOperation_some (pending : before.pendingOperation = some operation) :
    operation ∈ before.outbox ∧ operation.blockedKind = none ∧ before.isFirst operation = true := by
  have holds := List.find?_some pending
  rw [isPending, Bool.and_eq_true, Option.isNone_iff_eq_none] at holds
  exact ⟨List.mem_of_find?_eq_some pending, holds.1, holds.2⟩

theorem nextOperation_lines {operation : Option ChargingOperation} (lines : Lines before)
    (done : before.nextOperation = .ok (after, operation)) : Lines after := by
  obtain ⟨-, ⟨-, -, rfl⟩ | ⟨row, target, pending, -, ⟨-, rfl⟩ | ⟨-, rfl⟩⟩⟩ := nextOperation_ok done
  · exact lines
  · exact lines
  · obtain ⟨member, -, first⟩ := pendingOperation_some pending
    have place : ∀ other ∈ before.outbox, other.operationId = row.operationId → other.pointId = row.pointId :=
      fun other inside same => by rw [lines.only member inside same]
    apply lines.edited place
    · exact lines.toRows.edited (fun _ => ⟨rfl, rfl, rfl, rfl⟩) fun _ _ _ _ => rfl
    · exact fun _ => ⟨rfl, rfl, rfl, rfl⟩
    · intro spot known unknown other inside same
      rw [lines.only member inside same]
      exact lines.first_create member first known unknown

/-- A spot changed beside its queue, which is in order as it was. -/
theorem Lines.became (lines : Lines before) (moved : Became id later pin before after) (same : SameQueue before after)
    (grows : ∀ row, before.spots.find id = some row → row.localRevision.value ≤ later.localRevision.value)
    (lined : Lined after id later) : Lines after := by
  apply lines.changed (lines.toRows.became moved same grows) (.became moved same)
  intro spot known
  cases moved.spot.symm.trans known
  exact lined

theorem cacheVote_lines {vote : Option ChargingVote} {voteRevision : ChargingRevision} {votesUp votesDown : Nat}
    {changeSequence : ChargingChangeCursor} (lines : Lines before)
    (done : before.cacheVote remoteId vote voteRevision votesUp votesDown changeSequence = .ok (after, point)) :
    Lines after := by
  obtain ⟨-, row, revision, shown, known, next, -, -, moved, same⟩ := cacheVote_ok done
  apply lines.became moved same
  · intro old held
    cases known.symm.trans held
    exact next ▸ Nat.le_succ _
  · exact (lines.lined point row known).unedited same rfl fun shown => shown

theorem no_operations (alone : before.hasPendingOperations id = false) : ∀ operation ∈ before.outbox, operation.pointId ≠ id := by
  intro operation member place
  have pending : before.hasPendingOperations id = true := hasPending_iff.mpr ⟨operation, member, place, rfl⟩
  rw [alone] at pending
  cases pending

theorem cacheDirectoryEntry_lines (lines : Lines before) (done : before.cacheDirectoryEntry entry = .ok (after, point)) :
    Lines after := by
  obtain ⟨-, rfl | ⟨row, revision, known, -, alone, -, -, -, grows, moved, same⟩ | ⟨revision, unknown, moved, same⟩⟩ :=
    cacheDirectoryEntry_ok done
  · exact lines
  · apply lines.became moved same
    · intro old held
      cases known.symm.trans held
      exact grows
    · apply Lined.empty
      · rw [same.outbox]
        exact no_operations alone
      · intro absent
        cases absent
  · apply lines.became moved same
    · intro old held
      cases unknown.symm.trans held
    · apply Lined.empty
      · rw [same.outbox]
        exact lines.toRows.absent unknown
      · intro absent
        cases absent

/-- A point the server knows keeps its queue in order when rows only leave or are marked, and
what is kept for review is of that server's spot. -/
theorem Lined.stays (lined : Lined before id spot) (sent : spot.remoteId = some remoteId)
    (same : later.remoteId = some remoteId)
    (rows : ∀ operation ∈ after.outbox, operation.pointId = id → ∃ old ∈ before.outbox, old.pointId = id ∧
      old.action = operation.action ∧ ∀ conflict, after.conflicts.find operation.operationId = some conflict →
        ∀ entry, conflict.remoteEntry = some entry → entry.id = remoteId ∨
          ∃ kept, before.conflicts.find old.operationId = some kept ∧ kept.remoteEntry = some entry) :
    Lined after id later := by
  apply Lined.known
  · rw [same]
    rfl
  · intro operation member place
    obtain ⟨old, there, here, action, -⟩ := rows operation member place
    rw [← action]
    exact lined.sent (by rw [sent]; rfl) old there here
  · intro operation member place conflict found entry kept
    obtain ⟨old, there, here, -, review⟩ := rows operation member place
    rcases review conflict found entry kept with rfl | ⟨first, held, also⟩
    · exact same
    · rw [same, ← sent]
      exact lined.remote old there here first held entry also

theorem deleteOperations_mem (member : operation ∈ (before.deleteOperations leaves).outbox) :
    operation ∈ before.outbox ∧ leaves operation = false := by
  obtain ⟨there, stays⟩ := List.mem_filter.mp member
  exact ⟨there, by simpa using stays⟩

theorem mem_deleteOperations (member : operation ∈ before.outbox) (stays : leaves operation ≠ true) :
    operation ∈ (before.deleteOperations leaves).outbox := by
  refine List.mem_filter.mpr ⟨member, ?_⟩
  rw [Bool.not_eq_true', ← Bool.not_eq_true]
  exact stays

theorem deleteOperations_conflict {conflict : ConflictRow}
    (found : (before.deleteOperations leaves).conflicts.find key = some conflict) :
    before.conflicts.find key = some conflict := by
  simp only [deleteOperations, Table.find_keep, Option.filter_eq_some_iff] at found
  exact found.1

theorem findOperation_some (found : before.findOperation id = some operation) :
    operation ∈ before.outbox ∧ operation.operationId = id := by
  have same := List.find?_some found
  exact ⟨List.mem_of_find?_eq_some found, of_decide_eq_true same⟩

theorem pendingOperationById_some (pending : before.pendingOperationById id = some operation) :
    operation ∈ before.outbox ∧ operation.operationId = id ∧ operation.blockedKind = none ∧
      before.isFirst operation = true := by
  have holds := List.find?_some pending
  rw [Bool.and_eq_true, decide_eq_true_eq, isPending, Bool.and_eq_true, Option.isNone_iff_eq_none] at holds
  exact ⟨List.mem_of_find?_eq_some pending, holds⟩

theorem acknowledgedRow_same (pending : Bool) (id : Uuid) (entry : ChargingDirectoryEntry) (row : SpotRow) :
    (acknowledgedRow pending id entry row).remoteId = some entry.id ∧
      (acknowledgedRow pending id entry row).localRevision = row.localRevision := by
  cases pending with
  | false => exact ⟨rfl, rfl⟩
  | true =>
    refine ⟨rfl, ?_⟩
    simp only [acknowledgedRow, publishedRow, EntryUpdate.takes, EntryUpdate.noted, EntryUpdate.body, if_true]
    split <;> rfl

/-- An operation leaves and its spot, whose revision does not go back, changes. -/
theorem Lines.removed (lines : Lines before) (member : operation ∈ before.outbox)
    (same : SameQueue (before.removeOperation operation.operationId) after)
    (moved : Became operation.pointId later pin before after)
    (known : before.spots.find operation.pointId = some spot)
    (grows : spot.localRevision.value ≤ later.localRevision.value) (lined : Lined after operation.pointId later) :
    Lines after := by
  have began : SameSpots (before.removeOperation operation.operationId) before := ⟨rfl, rfl, rfl, rfl⟩
  have place : ∀ other ∈ before.outbox, decide (other.operationId = operation.operationId) = true →
      other.pointId = operation.pointId := by
    intro other inside equal
    rw [lines.ids other inside operation member (of_decide_eq_true equal)]
  have rows : Rows after := by
    apply (lines.toRows.deleteOperations _).became (began.became moved) same
    intro row held
    cases known.symm.trans held
    exact grows
  apply lines.changed rows ((Untouched.deleteOperations place).trans (.became (began.became moved) same))
  intro final held
  cases moved.spot.symm.trans held
  exact lined

theorem acknowledgeOperation_lines {applied : ChargingRevision} (lines : Lines before)
    (done : before.acknowledgeOperation id applied entry = .ok (after, point)) : Lines after := by
  obtain ⟨-, ⟨-, rfl⟩ | ⟨row, target, spot, sent, rfl, known, receipted, same, moved⟩⟩ := acknowledgeOperation_ok done
  · exact lines
  obtain ⟨member, rfl, -, -⟩ := pendingOperationById_some sent.pending
  generalize (before.removeOperation row.operationId).hasPendingOperations row.pointId = pending at moved
  obtain ⟨remoteId, revision⟩ := acknowledgedRow_same pending row.operationId entry spot
  have lined := lines.lined row.pointId spot known
  apply lines.removed member same moved known (Nat.le_of_eq (congrArg ChargingRevision.value revision.symm))
  have inside {operation : OutboxRow} (there : operation ∈ after.outbox) :
      operation ∈ before.outbox ∧ operation.operationId ≠ row.operationId := by
    rw [same.outbox] at there
    obtain ⟨old, stays⟩ := deleteOperations_mem there
    exact ⟨old, of_decide_eq_false stays⟩
  have held {key : Uuid} {conflict : ConflictRow} (found : after.conflicts.find key = some conflict) :
      before.conflicts.find key = some conflict := by
    rw [same.conflicts] at found
    exact deleteOperations_conflict found
  rcases receipted.remote with ⟨-, create, unknown⟩ | known
  · apply Lined.known (by rw [remoteId]; rfl)
    · intro operation there place
      by_contra kind
      have kind : operation.action.isCreate = true := by simpa using kind
      apply (inside there).2
      rw [lined.single operation (inside there).1 row member place rfl kind create]
    · intro operation there place conflict found entry kept
      have sent := lined.remote operation (inside there).1 place conflict (held found) entry kept
      cases unknown.symm.trans sent
  · apply lined.stays known remoteId
    intro operation there place
    refine ⟨operation, (inside there).1, place, rfl, ?_⟩
    exact fun conflict found entry kept => .inr ⟨conflict, held found, kept⟩

theorem acknowledgeVoteOperation_lines {receipt : ChargingVoteReceipt} (lines : Lines before)
    (done : before.acknowledgeVoteOperation id receipt = .ok (after, point)) : Lines after := by
  obtain ⟨-, rfl⟩ | ⟨row, target, spot, shown, sent, rfl, -, known, remote, -, same, moved⟩ :=
    acknowledgeVoteOperation_ok done
  · exact lines
  obtain ⟨member, rfl, -, -⟩ := pendingOperationById_some sent.pending
  obtain ⟨remoteId, remote⟩ := Option.isSome_iff_exists.mp remote
  apply lines.removed member same moved known (Nat.le_refl _)
  refine (lines.lined row.pointId spot known).stays remote ?_ ?_
  · exact remote
  intro operation there place
  rw [same.outbox] at there
  refine ⟨operation, (deleteOperations_mem there).1, place, rfl, ?_⟩
  intro conflict found entry kept
  rw [same.conflicts] at found
  exact .inr ⟨conflict, deleteOperations_conflict found, kept⟩

/-- What is kept for an operation is of the server's spot of its point. -/
theorem Lines.keepConflict {draft : Option NewChargingSpot} {remote : Option ChargingDirectoryEntry}
    (lines : Lines before) (member : operation ∈ before.outbox)
    (fits : ∀ spot, before.spots.find operation.pointId = some spot → ∀ entry, remote = some entry →
      spot.remoteId = some entry.id) : Lines (before.keepConflict operation.operationId draft remote) := by
  refine ⟨lines.toRows.keepConflict ⟨operation, member, rfl⟩, ?_⟩
  intro id spot known
  have lined := lines.lined id spot known
  refine ⟨lined.sent, lined.waits, lined.single, lined.pending, ?_⟩
  intro row inside place conflict found entry held
  simp only [ChargingStore.keepConflict, Table.find_put] at found
  split at found
  · next same =>
    have here : row = operation := lines.only member inside same
    cases found
    subst here
    subst place
    cases remote with
    | some newest =>
      have kept : newest = entry := by
        split at held
        · exact Option.some.inj held
        · exact Option.some.inj held
      exact fits spot known entry (congrArg some kept)
    | none =>
      split at held
      · next old before => exact lined.remote row inside rfl old before entry held
      · cases held
  · exact lined.remote row inside place conflict found entry held

theorem blockOperation_lines {kind : ChargingOperationBlockKind} (lines : Lines before)
    (done : before.blockOperation id kind = .ok after) : Lines after := by
  obtain ⟨row, draft, found, rfl⟩ := blockOperation_ok done
  have member := List.mem_of_find?_eq_some found
  have holds := List.find?_some found
  rw [Bool.and_eq_true, decide_eq_true_eq] at holds
  obtain ⟨rfl, target⟩ := holds
  have place : ∀ other ∈ before.outbox, other.operationId = row.operationId → other.pointId = row.pointId :=
    fun other inside same => by rw [lines.only member inside same]
  have blocked : Lines (before.updateOperation row.operationId fun row => { row with blockedKind := some kind }) := by
    apply lines.edited place
    · refine lines.toRows.edited (fun _ => ⟨rfl, rfl, rfl, rfl⟩) ?_
      intro other inside same _
      rw [lines.only member inside same]
      exact target
    · exact fun _ => ⟨rfl, rfl, rfl, rfl⟩
    · intro spot known unknown other inside same
      rw [lines.only member inside same]
      rcases (lines.lined _ spot known).waits unknown row member rfl with kind | ⟨plain, -⟩
      · exact kind
      · rw [plain.target] at target
        cases target
  have there : { row with blockedKind := some kind } ∈
      (before.updateOperation row.operationId fun row => { row with blockedKind := some kind }).outbox :=
    List.mem_map.mpr ⟨row, member, if_pos rfl⟩
  refine @Lines.keepConflict _ { row with blockedKind := some kind } draft none blocked there ?_
  intro spot known entry absent
  cases absent

/-- The same operation later: what it asks for stays, and so does a target once there is one. -/
structure Persists (old operation : OutboxRow) : Prop where
  operationId : operation.operationId = old.operationId
  pointId : operation.pointId = old.pointId
  action : operation.action = old.action
  target : ∀ target, old.target = some target → operation.target = some target

/-- Every operation after has a new identifier or persists from before. -/
def Evolves (drawn : List Uuid) (before after : ChargingStore) : Prop :=
  ∀ operation ∈ after.outbox, operation.operationId ∈ drawn ∨ ∃ old ∈ before.outbox, Persists old operation

namespace Evolves
variable {drawn : List Uuid}

theorem refl (drawn : List Uuid) (store : ChargingStore) : Evolves drawn store store :=
  fun operation member => .inr ⟨operation, member, rfl, rfl, rfl, fun _ held => held⟩

theorem same (queue : SameQueue before after) : Evolves drawn before after := by
  intro operation member
  rw [queue.outbox] at member
  exact refl drawn before operation member

theorem mono {more : List Uuid} (evolves : Evolves drawn before after) (inside : drawn ⊆ more) : Evolves more before after :=
  fun operation member => (evolves operation member).imp_left fun new => inside new

theorem trans (first : Evolves drawn before middle) (second : Evolves drawn middle after) : Evolves drawn before after := by
  intro operation member
  rcases second operation member with new | ⟨next, there, persists⟩
  · exact .inl new
  · rcases first next there with new | ⟨old, known, began⟩
    · exact .inl (persists.operationId ▸ new)
    · refine .inr ⟨old, known, persists.operationId.trans began.operationId, persists.pointId.trans began.pointId,
        persists.action.trans began.action, ?_⟩
      exact fun target held => persists.target target (began.target target held)

theorem updateOperation
    (keeps : ∀ row ∈ before.outbox, row.operationId = key → (change row).operationId ∈ drawn ∨ Persists row (change row)) :
    Evolves drawn before (before.updateOperation key change) := by
  intro operation member
  obtain ⟨old, known, same⟩ := List.mem_map.mp member
  split at same
  · next here =>
    subst same
    rcases keeps old known here with new | persists
    · exact .inl new
    · exact .inr ⟨old, known, persists⟩
  · subst same
    exact refl drawn before old known

theorem deleteOperations (leaves : OutboxRow → Bool) : Evolves drawn before (before.deleteOperations leaves) :=
  fun operation member => refl drawn before operation (deleteOperations_mem member).1

theorem queues (queues : Queues operation before after receipt) (new : operation.operationId ∈ drawn) :
    Evolves drawn before after := by
  intro other member
  rw [queues.outbox, mem_insertOperation] at member
  rcases member with rfl | there
  · exact .inl new
  · exact refl drawn before other there

theorem freezeTarget {operationId : Uuid} {saved : Option ChargingTarget}
    (unset : saved = none → ∀ row ∈ before.outbox, row.operationId = operationId → row.target = none)
    (done : before.freezeTarget operationId action saved current = .ok (after, target)) :
    Evolves drawn before after := by
  rcases freezeTarget_ok done with ⟨-, rfl⟩ | ⟨absent, rfl, -⟩
  · exact refl drawn _
  · apply updateOperation
    intro row member same
    refine .inr ⟨rfl, rfl, rfl, ?_⟩
    intro target held
    cases (unset absent row member same).symm.trans held

end Evolves

/-- What a review needs of the rows it goes through: each is in the outbox, under its own identifier. -/
structure Reviewable (store : ChargingStore) (id : Uuid) (rows : List OutboxRow) : Prop where
  inside : ∀ row ∈ rows, row ∈ store.outbox ∧ row.pointId = id
  distinct : (rows.map OutboxRow.operationId).Nodup

theorem Reviewable.operationsOf (rows : Rows before) (id : Uuid) : Reviewable before id (before.operationsOf id) where
  inside row member := by
    obtain ⟨inside, place⟩ := List.mem_filter.mp member
    exact ⟨inside, of_decide_eq_true place⟩
  distinct := rows.distinct.sublist (List.filter_sublist.map _)

theorem Reviewable.behind (reviewable : Reviewable before id (operation :: rows)) :
    Reviewable (before.updateOperation operation.operationId change) id rows := by
  obtain ⟨apart, distinct⟩ := List.nodup_cons.mp reviewable.distinct
  refine ⟨?_, distinct⟩
  intro row member
  obtain ⟨inside, place⟩ := reviewable.inside row (List.mem_cons_of_mem _ member)
  refine ⟨List.mem_map.mpr ⟨row, inside, if_neg ?_⟩, place⟩
  exact fun same => apart (List.mem_map.mpr ⟨row, member, same⟩)

theorem Reviewable.tail (reviewable : Reviewable before id (operation :: rows)) : Reviewable before id rows where
  inside row member := reviewable.inside row (List.mem_cons_of_mem _ member)
  distinct := (List.nodup_cons.mp reviewable.distinct).2

theorem Lines.froze (lines : Lines before) (member : operation ∈ before.outbox)
    (sent : ∀ spot, before.spots.find operation.pointId = some spot → spot.remoteId.isSome = true) :
    Lines (before.updateOperation operation.operationId fun row => { row with target := some target }) := by
  have place : ∀ other ∈ before.outbox, other.operationId = operation.operationId → other.pointId = operation.pointId :=
    fun other inside same => by rw [lines.only member inside same]
  apply lines.edited place
  · exact lines.toRows.edited (fun _ => ⟨rfl, rfl, rfl, rfl⟩) fun _ _ _ _ => rfl
  · exact fun _ => ⟨rfl, rfl, rfl, rfl⟩
  · intro spot known unknown
    have present := sent spot known
    rw [unknown] at present
    cases present

/-- What the review of a point the server knows does: rows get targets, the named one among them. -/
theorem reviewRows_lines {conflict : Option Uuid} (lines : Lines before) (reviewable : Reviewable before id rows)
    (sent : ∀ spot, before.spots.find id = some spot → spot.remoteId.isSome = true)
    (done : reviewRows current entry before rows = .ok (after, conflict)) :
    Lines after ∧ Evolves [] before after ∧ ∀ named, conflict = some named → ∀ operation ∈ after.outbox,
      operation.operationId = named → operation.pointId = id ∧ operation.target.isSome = true := by
  induction rows generalizing before conflict with
  | nil =>
    cases done
    refine ⟨lines, .refl _ _, ?_⟩
    intro named absent
    cases absent
  | cons row rows ih =>
    obtain ⟨member, rfl⟩ := reviewable.inside row List.mem_cons_self
    unfold reviewRows at done
    split at done
    · obtain ⟨⟨frozen, target⟩, froze, done⟩ := ok_bind done
      obtain ⟨⟨reviewed, later⟩, rest, done⟩ := ok_bind done
      cases done
      have unset : row.target = none → ∀ other ∈ before.outbox, other.operationId = row.operationId → other.target = none := by
        intro absent other inside same
        rw [lines.only member inside same]
        exact absent
      have first : Lines frozen ∧ Reviewable frozen row.pointId rows ∧ frozen.spots = before.spots ∧
          ∃ operation ∈ frozen.outbox, operation.operationId = row.operationId ∧ operation.pointId = row.pointId ∧
            operation.target = some target := by
        rcases freezeTarget_ok froze with ⟨saved, rfl⟩ | ⟨absent, rfl, -⟩
        · exact ⟨lines, reviewable.tail, rfl, row, member, rfl, rfl, saved⟩
        · refine ⟨lines.froze member sent, reviewable.behind, rfl, { row with target := some target }, ?_, rfl, rfl, rfl⟩
          exact List.mem_map.mpr ⟨row, member, if_pos rfl⟩
      obtain ⟨kept, behind, spots, marked, there, named, place, targeted⟩ := first
      obtain ⟨final, evolves, -⟩ := ih kept behind (by rw [spots]; exact sent) rest
      refine ⟨final, (Evolves.freezeTarget unset froze).trans evolves, ?_⟩
      intro conflict same operation inside equal
      cases same
      rcases evolves operation inside with new | ⟨old, held, persists⟩
      · cases new
      · cases kept.only there held ((persists.operationId.symm.trans equal).trans named.symm)
        exact ⟨persists.pointId.trans place, by rw [persists.target target targeted]; rfl⟩
    · exact ih lines reviewable.tail sent done

theorem reviewPendingChanges_lines {blocked : Nat} (lines : Lines before) (known : before.spots.find id = some spot)
    (sent : spot.remoteId = some entry.id)
    (done : before.reviewPendingChanges id current entry = .ok (after, blocked)) :
    Lines after ∧ Evolves [] before after := by
  obtain ⟨reviewed, conflict, review, outcome⟩ := reviewPendingChanges_ok done
  have present : ∀ other, before.spots.find id = some other → other.remoteId.isSome = true := by
    intro other held
    cases known.symm.trans held
    rw [sent]
    rfl
  obtain ⟨kept, evolves, targeted⟩ := reviewRows_lines lines (.operationsOf lines.toRows id) present review
  have spots := (reviewRows_sameSpots review).spots
  obtain ⟨-, rfl⟩ | ⟨operationId, draft, named, found, rfl⟩ := outcome
  · exact ⟨kept, evolves⟩
  obtain ⟨operation, found⟩ := Option.isSome_iff_exists.mp found
  obtain ⟨member, rfl⟩ := findOperation_some found
  obtain ⟨rfl, target⟩ := targeted _ named operation member rfl
  have place : ∀ other ∈ reviewed.outbox, other.operationId = operation.operationId → other.pointId = operation.pointId :=
    fun other inside equal => by rw [kept.only member inside equal]
  have marked : Lines (reviewed.updateOperation operation.operationId fun row =>
      { row with blockedKind := row.blockedKind.or (some .conflict) }) := by
    apply kept.edited place
    · refine kept.toRows.edited (fun _ => ⟨rfl, rfl, rfl, rfl⟩) ?_
      intro other inside equal _
      rw [kept.only member inside equal]
      exact target
    · exact fun _ => ⟨rfl, rfl, rfl, rfl⟩
    · intro other held unknown
      rw [spots] at held
      have present := present other held
      rw [unknown] at present
      cases present
  have there : { operation with blockedKind := operation.blockedKind.or (some .conflict) } ∈
      (reviewed.updateOperation operation.operationId fun row =>
        { row with blockedKind := row.blockedKind.or (some .conflict) }).outbox :=
    List.mem_map.mpr ⟨operation, member, if_pos rfl⟩
  constructor
  · refine @Lines.keepConflict _ { operation with blockedKind := operation.blockedKind.or (some .conflict) } draft
      (some entry) marked there ?_
    intro other held newest same
    cases same
    rw [show (reviewed.updateOperation operation.operationId fun row =>
      { row with blockedKind := row.blockedKind.or (some .conflict) }).spots = before.spots from spots] at held
    cases known.symm.trans held
    exact sent
  · apply evolves.trans
    intro other inside
    refine Evolves.updateOperation ?_ other inside
    exact fun row _ _ => .inr ⟨rfl, rfl, rfl, fun _ held => held⟩

theorem SameSpots.symm (same : SameSpots before after) : SameSpots after before :=
  ⟨same.spots.symm, same.index.symm, same.account.symm, same.cursor.symm⟩

/-- A page's entry for a point the server knows, beside whatever is queued. -/
theorem Lines.newer {revision : ChargingRevision} (lines : Lines middle) (spots : SameSpots before middle)
    (newer : Newer before entry id row revision) (same : SameQueue middle after) (moved : Became id later pin before after)
    (remoteId : later.remoteId = some entry.id) (revised : later.localRevision = revision) : Lines after := by
  have known : middle.spots.find id = some row := by rw [spots.spots, newer.known]
  apply lines.became (spots.symm.became moved) same
  · intro old held
    cases known.symm.trans held
    rw [revised, newer.revision]
    exact Nat.le_succ _
  · apply (lines.lined id row known).stays newer.remote remoteId
    intro operation member place
    rw [same.outbox] at member
    refine ⟨operation, member, place, rfl, ?_⟩
    intro conflict found entry kept
    rw [same.conflicts] at found
    exact .inr ⟨conflict, found, kept⟩

theorem besideUpdate_remoteId : ((besideUpdate before id entry).takes (before.seenEntry entry) row).remoteId = some entry.id := by
  unfold besideUpdate
  split
  · exact congrArg some seenEntry_id
  · exact congrArg some seenEntry_id

theorem applyChangeEntry_lines {blocked : Nat} (lines : Lines before)
    (done : before.applyChangeEntry entry = .ok (after, blocked)) : Lines after := by
  obtain ⟨-, outcome⟩ := applyChangeEntry_ok done
  cases outcome with
  | inserted unknown same moved =>
    apply lines.became moved same
    · intro old held
      cases unknown.symm.trans held
    · apply Lined.empty
      · rw [same.outbox]
        exact lines.toRows.absent unknown
      · intro absent
        cases absent
  | old same => exact same ▸ lines
  | tombstone id row revision reviewed current blocked newer _ _ review same _ _ moved =>
    have reviewedLines := (reviewPendingChanges_lines lines newer.known newer.remote review).1
    exact reviewedLines.newer (reviewPendingChanges_sameSpots review) newer same moved rfl rfl
  | beside id row voted revision voteRevision reviewed current blocked newer _ _ review same _ _ revoted moved =>
    have reviewedLines := (reviewPendingChanges_lines lines newer.known newer.remote review).1
    exact reviewedLines.newer (reviewPendingChanges_sameSpots review) newer same moved
      (revoted.remoteId.trans besideUpdate_remoteId) rfl
  | revived id row revision newer _ same _ _ moved => exact lines.newer (.refl _) newer same moved rfl rfl
  | alone id row voted revision voteRevision newer _ same _ _ revoted moved =>
    exact lines.newer (.refl _) newer same moved (revoted.remoteId.trans (congrArg some seenEntry_id)) rfl

theorem PageAvoids.never (cursor : Nat) (store : ChargingStore) (entries : List ChargingDirectoryEntry) :
    PageAvoids (fun _ _ => False) cursor store entries := by
  induction entries generalizing store with
  | nil => trivial
  | cons entry entries ih =>
    unfold PageAvoids
    split
    · exact ih store
    · exact ⟨fun never => never, fun applied _ _ => ih applied⟩

theorem Lines.same (lines : Lines before) (spots : after.spots = before.spots) (same : SameQueue before after) :
    Lines after := by
  refine ⟨⟨?_, ?_, ?_, ?_, ?_⟩, ?_⟩
  · rw [same.outbox, same.lastSequence]
    exact lines.bounded
  · rw [same.outbox]
    exact lines.distinct
  · rw [same.outbox, spots]
    exact lines.owned
  · rw [same.outbox]
    exact lines.frozen
  · rw [same.outbox, same.conflicts]
    exact lines.kept
  · intro id spot known
    rw [spots] at known
    exact (lines.lined id spot known).unedited same rfl fun shown => shown

theorem applyChangesPage_lines {entries : List ChargingDirectoryEntry} {nextCursor : ChargingChangeCursor} {now : Nat}
    {result : ChargingPageApplyResult} (lines : Lines before)
    (done : before.applyChangesPage entries nextCursor now = .ok (after, result)) : Lines after := by
  obtain ⟨applied, count, blocked, took, -, rfl⟩ := applyChangesPage_ok done
  have page : Lines applied :=
    PageAvoids.invariant (fun kept _ took => applyChangeEntry_lines kept took) lines (.never _ before entries) took
  exact page.same rfl ⟨rfl, rfl, rfl⟩

theorem Lines.deleteConflict (lines : Lines before) (key : Uuid) : Lines (before.deleteConflict key) := by
  refine ⟨lines.toRows.deleteConflict key, ?_⟩
  intro id spot known
  have lined := lines.lined id spot known
  refine ⟨lined.sent, lined.waits, lined.single, lined.pending, ?_⟩
  intro operation member place conflict found
  simp only [ChargingStore.deleteConflict, Table.find_keep, Option.filter_eq_some_iff] at found
  exact lined.remote operation member place conflict found.1

/-- A blocked operation of a point the server does not know is the create. -/
theorem Lines.blocked_create (lines : Lines before) (member : operation ∈ before.outbox)
    (blocked : operation.blockedKind.isSome = true) (known : before.spots.find operation.pointId = some spot)
    (unknown : spot.remoteId = none) : operation.action.isCreate = true := by
  rcases (lines.lined _ spot known).waits unknown operation member rfl with kind | ⟨plain, -⟩
  · exact kind
  · rw [plain.blocked] at blocked
    cases blocked

section Resolutions
variable {review : Reviewed} {conflict : ConflictRow} {revision : ChargingRevision}

theorem UnderReview.member (under : UnderReview before id review spot conflict) :
    review.row ∈ before.outbox ∧ review.row.operationId = id ∧ review.row.blockedKind.isSome = true := by
  obtain ⟨member, same⟩ := findOperation_some under.operation
  exact ⟨member, same, by rw [under.blocked]; rfl⟩

theorem retried_lines (lines : Lines before) (under : UnderReview before id review spot conflict) :
    Lines ((before.updateOperation id fun row => { row with blockedKind := none }).deleteConflict id) := by
  obtain ⟨member, rfl, blocked⟩ := under.member
  apply Lines.deleteConflict
  have place : ∀ other ∈ before.outbox, other.operationId = review.row.operationId → other.pointId = review.row.pointId :=
    fun other inside same => by rw [lines.only member inside same]
  apply lines.edited place
  · refine lines.toRows.edited (fun _ => ⟨rfl, rfl, rfl, rfl⟩) ?_
    intro other _ _ never
    cases never
  · exact fun _ => ⟨rfl, rfl, rfl, rfl⟩
  · intro spot known unknown other inside same
    rw [lines.only member inside same]
    exact lines.blocked_create member blocked known unknown

theorem rebased_lines (lines : Lines before) (under : UnderReview before id review spot conflict)
    (free : fresh = id ∨ before.findOperation fresh = none)
    (outbox : after.outbox = before.outbox.map fun row =>
      if row.operationId = id then { row with operationId := fresh, blockedKind := none, target := none } else row)
    (lastSequence : after.lastSequence = before.lastSequence)
    (conflicts : after.conflicts = (before.deleteConflict id).conflicts)
    (moved : Became review.row.pointId later pin before after) (remoteId : later.remoteId = spot.remoteId)
    (status : later.status = spot.status) (grows : spot.localRevision.value ≤ later.localRevision.value) : Lines after := by
  obtain ⟨member, rfl, blocked⟩ := under.member
  have cleared : (before.deleteConflict review.row.operationId).conflicts.find review.row.operationId = none := by
    simp [ChargingStore.deleteConflict]
  have unused : fresh = review.row.operationId ∨
      (∀ operation ∈ (before.deleteConflict review.row.operationId).outbox, operation.operationId ≠ fresh) ∧
        (before.deleteConflict review.row.operationId).conflicts.find review.row.operationId = none := by
    rcases free with same | unknown
    · exact .inl same
    · refine .inr ⟨?_, cleared⟩
      intro operation inside
      simpa using List.find?_eq_none.mp unknown operation inside
  have place : ∀ other ∈ before.outbox, other.operationId = review.row.operationId → other.pointId = review.row.pointId :=
    fun other inside same => by rw [lines.only member inside same]
  have rows : Rows ((before.deleteConflict review.row.operationId).updateOperation review.row.operationId fun row =>
      { row with operationId := fresh, blockedKind := none, target := none }) := by
    refine (lines.toRows.deleteConflict _).updateOperation ?_ (fun _ => ⟨rfl, rfl, rfl⟩) unused ?_
    · intro row
      split <;> rfl
    · intro other _ _ never
      cases never
  have queue : SameQueue ((before.deleteConflict review.row.operationId).updateOperation review.row.operationId fun row =>
      { row with operationId := fresh, blockedKind := none, target := none }) after := ⟨outbox, lastSequence, conflicts⟩
  have spots : SameSpots ((before.deleteConflict review.row.operationId).updateOperation review.row.operationId fun row =>
      { row with operationId := fresh, blockedKind := none, target := none }) before := ⟨rfl, rfl, rfl, rfl⟩
  have still : Untouched review.row.pointId before after := by
    refine ((Untouched.deleteConflict place).trans (.updateOperation ?_)).trans (.became (spots.became moved) queue)
    exact fun other inside same => ⟨place other inside same, place other inside same⟩
  apply lines.changed (rows.became (spots.became moved) queue ?_) still
  · intro final held
    cases moved.spot.symm.trans held
    have lined := lines.lined _ spot under.known
    refine lined.edited outbox ?_ ?_ remoteId (by rw [status]; exact fun shown => shown) ?_
    · intro row
      split <;> exact ⟨rfl, rfl, rfl⟩
    · intro unknown row inside _ kind
      rw [if_neg]
      intro same
      rw [lines.only member inside same, lines.blocked_create member blocked under.known unknown] at kind
      cases kind
    · intro operation inside here kept found entry reviewed
      rw [outbox] at inside
      obtain ⟨old, there, equal⟩ := List.mem_map.mp inside
      rw [conflicts] at found
      simp only [ChargingStore.deleteConflict, Table.find_keep, Option.filter_eq_some_iff, decide_eq_true_eq] at found
      split at equal
      · subst equal
        -- The new identifier has nothing kept: it is the old one, just cleared, or nobody's.
        rcases free with same | unknown
        · exact absurd same found.2
        · cases (lines.toRows.unkept unknown).symm.trans found.1
      · subst equal
        rw [remoteId]
        exact lined.remote old there here kept found.1 entry reviewed
  · intro old held
    cases under.known.symm.trans held
    exact grows

theorem abandoned_lines (lines : Lines before) (known : before.spots.find point = some spot)
    (same : SameQueue (before.deleteOperations fun row => decide (row.pointId = point) &&
      decide (row.localRevision.value ≤ spot.localRevision.value)) after)
    (moved : Became point later pin before after) (status : later.status = .withdrawn)
    (grows : spot.localRevision.value ≤ later.localRevision.value) : Lines after := by
  have spots : SameSpots (before.deleteOperations fun row => decide (row.pointId = point) &&
      decide (row.localRevision.value ≤ spot.localRevision.value)) before := ⟨rfl, rfl, rfl, rfl⟩
  have place : ∀ other ∈ before.outbox, (decide (other.pointId = point) &&
      decide (other.localRevision.value ≤ spot.localRevision.value)) = true → other.pointId = point := by
    intro other _ leaves
    rw [Bool.and_eq_true, decide_eq_true_eq] at leaves
    exact leaves.1
  have rows : Rows after := by
    apply (lines.toRows.deleteOperations _).became (spots.became moved) same
    intro old held
    cases known.symm.trans held
    exact grows
  apply lines.changed rows ((Untouched.deleteOperations place).trans (.became (spots.became moved) same))
  intro final held
  cases moved.spot.symm.trans held
  apply Lined.empty
  · intro operation member here
    rw [same.outbox] at member
    obtain ⟨there, stays⟩ := deleteOperations_mem member
    obtain ⟨owner, held, bound⟩ := lines.owned operation there
    rw [here] at held
    cases known.symm.trans held
    simp [here, bound] at stays
  · exact fun _ => status

theorem superseded_lines (lines : Lines before)
    (place : ∀ operation, leaves operation = true → operation.pointId = point)
    (known : before.spots.find point = some spot) (sent : spot.remoteId = some remoteId)
    (same : SameQueue ((before.deleteOperations leaves).deleteConflict key) after)
    (gone : ∀ operation ∈ before.outbox, operation.operationId = key → leaves operation = true)
    (moved : Became point later pin before after) (stays : later.remoteId = some remoteId)
    (grows : spot.localRevision.value ≤ later.localRevision.value) : Lines after := by
  have spots : SameSpots ((before.deleteOperations leaves).deleteConflict key) before := ⟨rfl, rfl, rfl, rfl⟩
  have none_ : ∀ operation ∈ (before.deleteOperations leaves).outbox, operation.operationId = key → operation.pointId = point := by
    intro operation member equal
    obtain ⟨there, left⟩ := deleteOperations_mem member
    rw [gone operation there equal] at left
    cases left
  have rows : Rows after := by
    apply ((lines.toRows.deleteOperations leaves).deleteConflict key).became (spots.became moved) same
    intro old held
    cases known.symm.trans held
    exact grows
  apply lines.changed rows
    (((Untouched.deleteOperations fun operation _ => place operation).trans (.deleteConflict none_)).trans
      (.became (spots.became moved) same))
  intro final held
  cases moved.spot.symm.trans held
  apply (lines.lined point spot known).stays sent stays
  intro operation member here
  rw [same.outbox] at member
  refine ⟨operation, (deleteOperations_mem member).1, here, rfl, ?_⟩
  intro conflict found entry kept
  rw [same.conflicts] at found
  simp only [ChargingStore.deleteConflict, Table.find_keep, Option.filter_eq_some_iff] at found
  exact .inr ⟨conflict, deleteOperations_conflict found.1, kept⟩

theorem superseded_place {leaver : OutboxRow} {sequence : Nat} {fields : Bool}
    (leaves : (decide (leaver.pointId = point) && (decide (leaver.operationId = id) ||
      (fields && decide (sequence < leaver.sequence) && leaver.action.carriesFields))) = true) : leaver.pointId = point := by
  rw [Bool.and_eq_true, decide_eq_true_eq] at leaves
  exact leaves.1

theorem resolveOperation_lines {resolution : ChargingOperationResolution} (lines : Lines before)
    (done : before.resolveOperation fresh id expected resolution = .ok after) : Lines after := by
  obtain ⟨-, review, spot, conflict, under, outcome⟩ := resolveOperation_ok done
  have grows {revision : ChargingRevision} (next : revision.value = spot.localRevision.value + 1) :
      spot.localRevision.value ≤ revision.value := by
    rw [next]
    exact Nat.le_succ _
  cases outcome with
  | retried same =>
    rw [same]
    exact retried_lines lines under
  | rebased draft revision next free outbox lastSequence conflicts moved =>
    exact rebased_lines lines under free outbox lastSequence conflicts moved rfl rfl (grows next)
  | abandoned revision next _ _ same moved => exact abandoned_lines lines under.known same moved rfl (grows next)
  | accepted checked final pin revision remote next _ _ takes _ outbox _ lastSequence conflicts moved =>
    obtain ⟨member, equal, -⟩ := under.member
    have kept := under.kept
    rw [← equal] at kept
    have entry : conflict.remoteEntry = some checked.entry := by
      rw [← under.remote, remote]
      rfl
    have sent := (lines.lined _ spot under.known).remote review.row member rfl conflict kept checked.entry entry
    refine superseded_lines lines (fun _ => superseded_place) under.known sent ⟨outbox, lastSequence, conflicts⟩ ?_ moved
      takes.remoteId (grows next)
    intro operation inside same
    rw [lines.only member inside (same.trans equal.symm)]
    simp [equal]

/-- A create that takes the place of the create at the head of the queue. -/
theorem Lined.recreated {replaced : OutboxRow} (queues : Queues operation middle after receipt)
    (home : operation.pointId = id) (lined : Lined before id spot) (unknown : spot.remoteId = none)
    (member : replaced ∈ before.outbox) (place : replaced.pointId = id) (kind : replaced.action.isCreate = true)
    (gone : leaves replaced = true) (same : SameQueue (before.deleteOperations leaves) middle)
    (create : operation.action.isCreate = true) (sequence : operation.sequence = replaced.sequence)
    (unkept : middle.conflicts.find operation.operationId = none) (remoteId : later.remoteId = none) :
    Lined after id later := by
  subst home
  have members {other : OutboxRow} (inside : other ∈ after.outbox) :
      other = operation ∨ other ∈ before.outbox ∧ leaves other = false := by
    rw [queues.outbox, mem_insertOperation, same.outbox] at inside
    exact inside.imp_right deleteOperations_mem
  have only {other : OutboxRow} (inside : other ∈ after.outbox) (here : other.pointId = operation.pointId)
      (creates : other.action.isCreate = true) : other = operation := by
    rcases members inside with new | ⟨old, stays⟩
    · exact new
    · rw [lined.single other old replaced member here place creates kind, gone] at stays
      cases stays
  refine ⟨?_, ?_, ?_, ?_, ?_⟩
  · intro known
    rw [remoteId] at known
    cases known
  · intro _ other inside here
    rcases members inside with new | ⟨old, stays⟩
    · left
      rw [new]
      exact create
    · rcases lined.waits unknown other old here with creates | ⟨plain, first, there, begun, creates, ahead⟩
      · exact .inl creates
      · rw [lined.single first there replaced member begun place creates kind, ← sequence] at ahead
        exact .inr ⟨plain, queues.hasCreate create ahead⟩
  · intro one first two second here there creates also
    rw [only first here creates, only second there also]
  · intro _ _
    exact queues.hasCreate create trivial
  · intro other inside here conflict found entry kept
    rw [queues.conflicts] at found
    rcases members inside with new | ⟨old, -⟩
    · rw [new, unkept] at found
      cases found
    · rw [same.conflicts] at found
      have sent := lined.remote other old here conflict (deleteOperations_conflict found) entry kept
      cases unknown.symm.trans sent

theorem replaceBlockedOperation_lines (lines : Lines before)
    (done : before.replaceBlockedOperation fresh id expected input = .ok (after, receipt)) : Lines after := by
  obtain ⟨row, spot, revision, action, target, middle, found, blocked, known, next, chosen, moved, same, queues⟩ :=
    replaceBlockedOperation_ok done
  obtain ⟨member, equal⟩ := findOperation_some found
  have lined := lines.lined row.pointId spot known
  have spots : SameSpots (before.removeSupersededFieldOperations row.pointId id row.sequence row.action.carriesFields) before :=
    ⟨rfl, rfl, rfl, rfl⟩
  have rows : Rows middle := by
    apply (lines.toRows.deleteOperations _).became (spots.became moved) same
    intro old held
    cases known.symm.trans held
    exact next ▸ Nat.le_succ _
  have still : Untouched row.pointId before
      (before.removeSupersededFieldOperations row.pointId id row.sequence row.action.carriesFields) :=
    .deleteOperations fun _ _ => superseded_place
  have joined := Untouched.queues queues
  apply lines.changed (rows.queues queues ⟨_, moved.spot, Nat.le_refl _⟩ rfl)
    ((still.trans (.became (spots.became moved) same)).trans joined)
  intro final held
  rw [queues.spots, moved.spot] at held
  cases held
  have unkept := rows.unkept queues.unknown
  rcases chosen with ⟨present, -, rfl, -⟩ | ⟨absent, -, rfl, -⟩
  · have members {other : OutboxRow} (inside : other ∈ after.outbox) : other.operationId = fresh ∧ other.action = .edit input ∨
        other ∈ before.outbox := by
      rw [queues.outbox, mem_insertOperation, same.outbox] at inside
      rcases inside with new | old
      · exact .inl ⟨by rw [new], by rw [new]⟩
      · exact .inr (deleteOperations_mem old).1
    refine .known ?_ ?_ ?_
    · exact present
    · intro other inside here
      rcases members inside with ⟨-, edit⟩ | old
      · rw [edit]
        rfl
      · exact lined.sent present other old here
    · intro other inside here conflict found entry kept
      rw [queues.conflicts] at found
      rcases members inside with ⟨new, -⟩ | old
      · rw [new, unkept] at found
        cases found
      · rw [same.conflicts] at found
        exact lined.remote other old here conflict (deleteOperations_conflict found) entry kept
  · exact .recreated queues rfl lined absent member rfl (lines.blocked_create member blocked known absent) (by simp [equal]) same
      rfl rfl unkept absent

end Resolutions

end ChargingStore

end Cutout.Charging

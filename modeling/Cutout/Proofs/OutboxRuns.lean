import Cutout.Proofs.OutboxCalls

/-! The outbox over whole runs of an active account. Operations are handed out in the order
of their point, a target once chosen stays, no operation leaves unasked, and a receipt that
comes twice is taken once. -/

namespace Cutout.Charging
open Library

def ChargingCall.drawn : ChargingCall → List Uuid
  | .save _ fresh _ | .change fresh _ _ _ | .resolveOperation fresh _ _ .rebaseKeepingLocal
  | .replaceBlockedOperation fresh _ _ _ => [fresh]
  | _ => []

namespace ChargingStore
variable {before middle after : ChargingStore} {fresh id point key : Uuid} {entry : ChargingDirectoryEntry}
variable {expected : ChargingRevision} {resolution : ChargingOperationResolution}
variable {entries : List ChargingDirectoryEntry} {nextCursor : ChargingChangeCursor} {result : ChargingPageApplyResult}
variable {current : StoredChargingSpot} {now : Nat}
variable (store : ChargingStore)
variable {receipt : ChargingWriteReceipt} {applied : ChargingRevision} {input : NewChargingSpot}

  {row later spot : SpotRow} {pin : Option Coordinate}

section Evolution

theorem nextOperation_evolves {operation : Option ChargingOperation} (lines : Lines before)
    (done : before.nextOperation = .ok (after, operation)) : Evolves [] before after := by
  obtain ⟨-, ⟨-, -, rfl⟩ | ⟨row, target, pending, -, ⟨-, rfl⟩ | ⟨unset, rfl⟩⟩⟩ := nextOperation_ok done
  · exact .refl _ _
  · exact .refl _ _
  · obtain ⟨member, -, -⟩ := pendingOperation_some pending
    apply Evolves.updateOperation
    intro other inside same
    refine .inr ⟨rfl, rfl, rfl, ?_⟩
    intro target held
    rw [lines.only member inside same, unset] at held
    cases held

theorem PageEntry.evolves (lines : Lines before) (outcome : PageEntry before after entry) : Evolves [] before after := by
  cases outcome with
  | inserted _ same _ => exact .same same
  | old same => exact same ▸ .refl _ _
  | tombstone _ _ _ _ _ _ newer _ _ review same | beside _ _ _ _ _ _ _ _ newer _ _ review same =>
    exact (reviewPendingChanges_lines lines newer.known newer.remote review).2.trans (.same same)
  | revived _ _ _ _ _ same | alone _ _ _ _ _ _ _ same => exact .same same

theorem applyChangesPage_evolves (lines : Lines before)
    (done : before.applyChangesPage entries nextCursor now = .ok (after, result)) : Evolves [] before after := by
  obtain ⟨applied, count, blocked, took, -, rfl⟩ := applyChangesPage_ok done
  have page : Lines applied ∧ Evolves [] before applied := by
    refine PageAvoids.invariant (P := fun store => Lines store ∧ Evolves [] before store) ?_ ⟨lines, .refl _ _⟩
      (.never _ before entries) took
    intro store applied entry blocked holds _ took
    refine ⟨applyChangeEntry_lines holds.1 took, holds.2.trans ?_⟩
    exact (applyChangeEntry_ok took).2.evolves holds.1
  exact page.2

theorem resolveOperation_evolves (done : before.resolveOperation fresh id expected resolution = .ok after) :
    Evolves (ChargingCall.drawn (.resolveOperation fresh id expected resolution)) before after := by
  obtain ⟨-, review, spot, conflict, under, outcome⟩ := resolveOperation_ok done
  cases outcome with
  | retried same =>
    rw [same]
    intro operation member
    refine Evolves.updateOperation ?_ operation member
    exact fun _ _ _ => .inr ⟨rfl, rfl, rfl, fun _ held => held⟩
  | rebased draft revision _ _ outbox _ _ _ =>
    have renamed : Evolves [fresh] before (before.updateOperation id fun row =>
        { row with operationId := fresh, blockedKind := none, target := none }) :=
      .updateOperation fun _ _ _ => .inl (List.mem_singleton.mpr rfl)
    intro operation member
    rw [outbox] at member
    exact renamed operation member
  | abandoned _ _ _ _ same _ => exact (Evolves.deleteOperations _).trans (.same same)
  | accepted _ _ _ _ _ _ _ _ _ _ outbox _ _ _ _ =>
    intro operation member
    rw [outbox] at member
    exact Evolves.deleteOperations _ operation member

theorem replaceBlockedOperation_evolves
    (done : before.replaceBlockedOperation fresh id expected input = .ok (after, receipt)) :
    Evolves [fresh] before after := by
  obtain ⟨row, spot, revision, action, target, middle, -, -, -, -, -, -, same, queues⟩ := replaceBlockedOperation_ok done
  exact ((Evolves.deleteOperations _).trans (.same same)).trans (.queues queues (List.mem_singleton.mpr rfl))

theorem step_evolves (call : ChargingCall) (lines : Lines store) (active : store.account = .active) :
    Evolves call.drawn store (store.step call).1 := by
  cases call with
  | account event =>
    refine commit_of (.refl _ store) ?_
    intro after value done
    unfold applyAccount at done
    rw [active] at done
    cases event with
    | read =>
      cases done
      exact .refl _ store
    | beginDeletion =>
      cases done
      exact .same ⟨rfl, rfl, rfl⟩
    | completeDeletion atMs => cases done
  | save point fresh input =>
    refine commit_of (.refl _ store) ?_
    intro after receipt done
    obtain ⟨-, middle, -, same, queues⟩ := save_ok done
    exact (Evolves.same same).trans (.queues queues (List.mem_singleton.mpr rfl))
  | change fresh id expected action =>
    refine commit_of (.refl _ store) ?_
    intro after receipt done
    obtain ⟨row, revision, middle, -, -, -, same, queues⟩ := change_ok done
    exact (Evolves.same same).trans (.queues queues (List.mem_singleton.mpr rfl))
  | nextOperation => exact commit_of (.refl _ store) fun _ _ done => nextOperation_evolves lines done
  | cacheDirectoryEntry entry =>
    refine commit_of (.refl _ store) ?_
    intro after point done
    obtain ⟨-, rfl | ⟨row, revision, -, -, -, -, -, -, -, -, same⟩ | ⟨revision, -, -, same⟩⟩ := cacheDirectoryEntry_ok done
    · exact .refl _ _
    · exact .same same
    · exact .same same
  | acknowledgeOperation id applied entry =>
    refine commit_of (.refl _ store) ?_
    intro after point done
    obtain ⟨-, ⟨-, rfl⟩ | ⟨row, target, spot, -, -, -, -, same, -⟩⟩ := acknowledgeOperation_ok done
    · exact .refl _ _
    · exact (Evolves.deleteOperations _).trans (.same same)
  | acknowledgeVoteOperation id receipt =>
    refine commit_of (.refl _ store) ?_
    intro after point done
    obtain ⟨-, rfl⟩ | ⟨row, target, spot, shown, -, -, -, -, -, -, same, -⟩ := acknowledgeVoteOperation_ok done
    · exact .refl _ _
    · exact (Evolves.deleteOperations _).trans (.same same)
  | applyChangesPage entries nextCursor now =>
    exact commit_of (.refl _ store) fun _ _ done => applyChangesPage_evolves lines done
  | cacheVote remoteId vote voteRevision votesUp votesDown changeSequence =>
    refine commit_of (.refl _ store) ?_
    intro after point done
    obtain ⟨-, row, revision, shown, -, -, -, -, -, same⟩ := cacheVote_ok done
    exact .same same
  | blockOperation id kind =>
    refine commit_done_of (.refl _ store) ?_
    intro after done
    obtain ⟨row, draft, -, rfl⟩ := blockOperation_ok done
    intro operation member
    refine Evolves.updateOperation ?_ operation member
    exact fun _ _ _ => .inr ⟨rfl, rfl, rfl, fun _ held => held⟩
  | resolveOperation fresh id expected resolution =>
    exact commit_done_of (.refl _ store) fun _ done => resolveOperation_evolves done
  | replaceBlockedOperation fresh id expected input =>
    exact commit_of (.refl _ store) fun _ _ done => replaceBlockedOperation_evolves done

theorem step_lines (call : ChargingCall) (lines : Lines store) (active : store.account = .active) :
    Lines (store.step call).1 := by
  cases call with
  | account event =>
    refine commit_of lines ?_
    intro after value done
    unfold applyAccount at done
    rw [active] at done
    cases event with
    | read =>
      cases done
      exact lines
    | beginDeletion =>
      cases done
      exact lines.same rfl ⟨rfl, rfl, rfl⟩
    | completeDeletion atMs => cases done
  | save point fresh input => exact commit_of lines fun _ _ done => save_lines lines done
  | change fresh id expected action => exact commit_of lines fun _ _ done => change_lines lines done
  | nextOperation => exact commit_of lines fun _ _ done => nextOperation_lines lines done
  | cacheDirectoryEntry entry => exact commit_of lines fun _ _ done => cacheDirectoryEntry_lines lines done
  | acknowledgeOperation id applied entry => exact commit_of lines fun _ _ done => acknowledgeOperation_lines lines done
  | acknowledgeVoteOperation id receipt => exact commit_of lines fun _ _ done => acknowledgeVoteOperation_lines lines done
  | applyChangesPage entries nextCursor now => exact commit_of lines fun _ _ done => applyChangesPage_lines lines done
  | cacheVote remoteId vote voteRevision votesUp votesDown changeSequence =>
    exact commit_of lines fun _ _ done => cacheVote_lines lines done
  | blockOperation id kind => exact commit_done_of lines fun _ done => blockOperation_lines lines done
  | resolveOperation fresh id expected resolution =>
    exact commit_done_of lines fun _ done => resolveOperation_lines lines done
  | replaceBlockedOperation fresh id expected input =>
    exact commit_of lines fun _ _ done => replaceBlockedOperation_lines lines done

end Evolution

section Acknowledgments

/-- Every remembered receipt was remembered before, and a point the server knows stays one. -/
def Retains (before after : ChargingStore) : Prop :=
  ∀ id spot key, after.spots.find id = some spot → spot.lastAck = some key → ∃ old, before.spots.find id = some old ∧
    old.lastAck = some key ∧ (old.remoteId.isSome = true → spot.remoteId.isSome = true)

namespace Retains

theorem same (spots : after.spots = before.spots) : Retains before after := by
  intro id spot key known held
  rw [spots] at known
  exact ⟨spot, known, held, fun present => present⟩

theorem trans (first : Retains before middle) (second : Retains middle after) : Retains before after := by
  intro id spot key known held
  obtain ⟨next, there, remembered, present⟩ := second id spot key known held
  obtain ⟨old, here, began, began'⟩ := first id next key there remembered
  exact ⟨old, here, began, fun known => present (began' known)⟩

theorem became (moved : Became id later pin before after)
    (keeps : ∀ key, later.lastAck = some key → ∃ old, before.spots.find id = some old ∧ old.lastAck = some key ∧
      (old.remoteId.isSome = true → later.remoteId.isSome = true)) : Retains before after := by
  intro other spot key known held
  by_cases here : other = id
  · subst here
    cases moved.spot.symm.trans known
    exact keeps key held
  · rw [moved.spots other here] at known
    exact ⟨spot, known, held, fun present => present⟩

theorem known (moved : Became id later pin before after) (known : before.spots.find id = some row)
    (lastAck : later.lastAck = row.lastAck) (remoteId : row.remoteId.isSome = true → later.remoteId.isSome = true) :
    Retains before after := by
  apply became moved
  intro key held
  exact ⟨row, known, lastAck ▸ held, remoteId⟩

theorem unknown (moved : Became id later pin before after) (lastAck : later.lastAck = none) : Retains before after := by
  apply became moved
  intro key held
  rw [lastAck] at held
  cases held

end Retains

/-- A call keeps the receipts, or one point takes the receipt of its operation, which leaves. -/
inductive Receipts (before after : ChargingStore) : Prop where
  | kept (retains : Retains before after)
  | taken (operation : OutboxRow) (later : SpotRow) (pin : Option Coordinate) (member : operation ∈ before.outbox)
      (moved : Became operation.pointId later pin before after) (lastAck : later.lastAck = some operation.operationId)
      (remoteId : later.remoteId.isSome = true) (outbox : after.outbox = (before.removeOperation operation.operationId).outbox)

theorem applyChangeEntry_retains {blocked : Nat} (done : before.applyChangeEntry entry = .ok (after, blocked)) :
    Retains before after := by
  obtain ⟨-, outcome⟩ := applyChangeEntry_ok done
  cases outcome with
  | inserted unknown _ moved => exact .unknown moved rfl
  | old same => exact .same (by rw [same])
  | tombstone _ _ _ _ _ _ newer _ _ _ _ _ _ moved | revived _ _ _ newer _ _ _ _ moved =>
    exact .known moved newer.known rfl fun _ => rfl
  | beside id row voted revision voteRevision reviewed current blocked newer _ _ _ _ _ _ revoted moved =>
    refine .known moved newer.known (revoted.lastAck.trans ?_) fun _ => ?_
    · unfold besideUpdate
      split <;> rfl
    · show voted.remoteId.isSome = true
      rw [revoted.remoteId, besideUpdate_remoteId]
      rfl
  | alone id row voted revision voteRevision newer _ _ _ _ revoted moved =>
    refine .known moved newer.known revoted.lastAck fun _ => ?_
    show voted.remoteId.isSome = true
    rw [revoted.remoteId]
    rfl

theorem applyChangesPage_retains (done : before.applyChangesPage entries nextCursor now = .ok (after, result)) :
    Retains before after := by
  obtain ⟨applied, count, blocked, took, -, rfl⟩ := applyChangesPage_ok done
  have page : Retains before applied := PageAvoids.invariant
    (fun kept _ took => kept.trans (applyChangeEntry_retains took)) (.same rfl) (.never _ before entries) took
  exact page.trans (.same rfl)

theorem acknowledgeOperation_receipts (done : before.acknowledgeOperation id applied entry = .ok (after, point)) :
    Receipts before after := by
  obtain ⟨-, ⟨-, rfl⟩ | ⟨row, target, spot, sent, rfl, known, -, same, moved⟩⟩ := acknowledgeOperation_ok done
  · exact .kept (.same rfl)
  · obtain ⟨member, rfl, -, -⟩ := pendingOperationById_some sent.pending
    refine .taken row _ _ member moved rfl ?_ same.outbox
    rw [(acknowledgedRow_same _ row.operationId entry spot).1]
    rfl

theorem acknowledgeVoteOperation_receipts {receipt : ChargingVoteReceipt}
    (done : before.acknowledgeVoteOperation id receipt = .ok (after, point)) : Receipts before after := by
  obtain ⟨-, rfl⟩ | ⟨row, target, spot, shown, sent, rfl, -, -, remote, -, same, moved⟩ := acknowledgeVoteOperation_ok done
  · exact .kept (.same rfl)
  · obtain ⟨member, rfl, -, -⟩ := pendingOperationById_some sent.pending
    exact .taken row _ _ member moved rfl remote same.outbox

theorem resolveOperation_retains (done : before.resolveOperation fresh id expected resolution = .ok after) :
    Retains before after := by
  obtain ⟨-, review, spot, conflict, under, outcome⟩ := resolveOperation_ok done
  cases outcome with
  | retried same => exact .same (by rw [same]; rfl)
  | rebased _ _ _ _ _ _ _ moved | abandoned _ _ _ _ _ moved => exact .known moved under.known rfl fun present => present
  | accepted checked final pin revision _ _ _ _ takes _ _ _ _ _ moved =>
    refine .known moved under.known takes.lastAck fun _ => ?_
    show final.remoteId.isSome = true
    rw [takes.remoteId]
    rfl

theorem step_receipts (call : ChargingCall) (active : store.account = .active) :
    Receipts store (store.step call).1 := by
  have still : Receipts store store := .kept (.same rfl)
  cases call with
  | account event =>
    refine commit_of still ?_
    intro after value done
    unfold applyAccount at done
    rw [active] at done
    cases event with
    | read =>
      cases done
      exact still
    | beginDeletion =>
      cases done
      exact .kept (.same rfl)
    | completeDeletion atMs => cases done
  | save point fresh input =>
    refine commit_of still ?_
    intro after receipt done
    obtain ⟨-, middle, moved, -, queues⟩ := save_ok done
    exact .kept (.unknown (queues.became moved) rfl)
  | change fresh id expected action =>
    refine commit_of still ?_
    intro after receipt done
    obtain ⟨row, revision, middle, known, admitted, moved, -, queues⟩ := change_ok done
    obtain ⟨-, remoteId, lastAck, -⟩ := changedRow_same row revision admitted.notCreate
    exact .kept (.known (queues.became moved) known lastAck (remoteId ▸ fun present => present))
  | nextOperation =>
    refine commit_of still ?_
    intro after operation done
    obtain ⟨-, ⟨-, -, rfl⟩ | ⟨row, target, -, -, ⟨-, rfl⟩ | ⟨-, rfl⟩⟩⟩ := nextOperation_ok done
    · exact still
    · exact still
    · exact .kept (.same rfl)
  | cacheDirectoryEntry entry =>
    refine commit_of still ?_
    intro after point done
    obtain ⟨-, rfl | ⟨row, revision, known, -, -, -, -, -, -, moved, -⟩ | ⟨revision, -, moved, -⟩⟩ := cacheDirectoryEntry_ok done
    · exact still
    · exact .kept (.known moved known rfl fun _ => rfl)
    · exact .kept (.unknown moved rfl)
  | acknowledgeOperation id applied entry => exact commit_of still fun _ _ done => acknowledgeOperation_receipts done
  | acknowledgeVoteOperation id receipt => exact commit_of still fun _ _ done => acknowledgeVoteOperation_receipts done
  | applyChangesPage entries nextCursor now => exact commit_of still fun _ _ done => .kept (applyChangesPage_retains done)
  | cacheVote remoteId vote voteRevision votesUp votesDown changeSequence =>
    refine commit_of still ?_
    intro after point done
    obtain ⟨-, row, revision, shown, known, -, -, -, moved, -⟩ := cacheVote_ok done
    exact .kept (.known moved known rfl fun present => present)
  | blockOperation id kind =>
    refine commit_done_of still ?_
    intro after done
    obtain ⟨row, draft, -, rfl⟩ := blockOperation_ok done
    exact .kept (.same rfl)
  | resolveOperation fresh id expected resolution =>
    exact commit_done_of still fun _ done => .kept (resolveOperation_retains done)
  | replaceBlockedOperation fresh id expected input =>
    refine commit_of still ?_
    intro after receipt done
    obtain ⟨row, spot, revision, action, target, middle, -, -, known, -, -, moved, -, queues⟩ := replaceBlockedOperation_ok done
    exact .kept (.known (queues.became moved) known rfl fun present => present)

end Acknowledgments

section Leaving
variable {operation : OutboxRow}
variable {Q : ChargingStore → ChargingReply → Prop}

def SameIds (before after : ChargingStore) : Prop :=
  after.outbox.map OutboxRow.operationId = before.outbox.map OutboxRow.operationId

theorem SameIds.same (queue : SameQueue before after) : SameIds before after := by
  unfold SameIds
  rw [queue.outbox]

theorem SameIds.updateOperation {change : OutboxRow → OutboxRow}
    (keeps : ∀ row, (change row).operationId = row.operationId) : SameIds before (before.updateOperation key change) := by
  unfold SameIds ChargingStore.updateOperation
  rw [List.map_map]
  apply List.map_congr_left
  intro row _
  show (if row.operationId = key then change row else row).operationId = row.operationId
  split
  · exact keeps row
  · rfl

theorem SameIds.trans (first : SameIds before middle) (second : SameIds middle after) : SameIds before after :=
  Eq.trans second first

theorem reviewRows_ids {conflict : Option Uuid} {rows : List OutboxRow}
    (done : reviewRows current entry before rows = .ok (after, conflict)) : SameIds before after :=
  reviewRows_keeps (fun _ _ same => same.trans (.updateOperation fun _ => rfl)) rfl done

theorem reviewPendingChanges_ids {blocked : Nat}
    (done : before.reviewPendingChanges id current entry = .ok (after, blocked)) : SameIds before after := by
  obtain ⟨reviewed, conflict, review, ⟨-, rfl⟩ | ⟨operationId, draft, -, -, rfl⟩⟩ := reviewPendingChanges_ok done
  · exact reviewRows_ids review
  · exact (reviewRows_ids review).trans (.updateOperation fun _ => rfl)

theorem PageEntry.ids (outcome : PageEntry before after entry) : SameIds before after := by
  cases outcome with
  | inserted _ same _ => exact .same same
  | old same => exact same ▸ rfl
  | tombstone _ _ _ _ _ _ _ _ _ review same | beside _ _ _ _ _ _ _ _ _ _ _ review same =>
    exact (reviewPendingChanges_ids review).trans (.same same)
  | revived _ _ _ _ _ same | alone _ _ _ _ _ _ _ same => exact .same same

theorem applyChangesPage_ids (done : before.applyChangesPage entries nextCursor now = .ok (after, result)) :
    SameIds before after := by
  obtain ⟨applied, count, blocked, took, -, rfl⟩ := applyChangesPage_ok done
  have page : SameIds before applied := PageAvoids.invariant
    (fun kept _ took => SameIds.trans kept (applyChangeEntry_ok took).2.ids) (.same ⟨rfl, rfl, rfl⟩)
    (.never _ before entries) took
  exact page

def Stays (operation : OutboxRow) (after : ChargingStore) : Prop := ∃ later ∈ after.outbox, Persists operation later

theorem Stays.inside (member : operation ∈ after.outbox) : Stays operation after :=
  ⟨operation, member, rfl, rfl, rfl, fun _ held => held⟩

section Lines
variable (lines : Lines before)
include lines

/-- Where the identifiers stay and nothing is new every operation is there. -/
theorem Stays.marked (evolves : Evolves [] before after) (ids : SameIds before after)
    (member : operation ∈ before.outbox) : Stays operation after := by
  have there : operation.operationId ∈ after.outbox.map OutboxRow.operationId := by
    rw [ids]
    exact List.mem_map_of_mem member
  obtain ⟨later, inside, same⟩ := List.mem_map.mp there
  rcases evolves later inside with new | ⟨old, known, persists⟩
  · cases new
  · cases lines.only member known (persists.operationId.symm.trans same)
    exact ⟨later, inside, persists⟩

/-- A blocked operation of the point is chosen: the operation itself or one ahead of it. -/
def Chosen (store : ChargingStore) (id : Uuid) (operation : OutboxRow) : Prop :=
  ∃ blocked ∈ store.outbox, blocked.operationId = id ∧ blocked.blockedKind.isSome = true ∧
    blocked.pointId = operation.pointId ∧ (blocked = operation ∨ blocked.sequence < operation.sequence)

/-- Why an operation may leave: its own receipt, checked against what was sent, or the user's
decision about a blocked operation. -/
def Settled (store : ChargingStore) (call : ChargingCall) (reply : ChargingReply) (operation : OutboxRow) : Prop :=
  match call with
  | .acknowledgeOperation id applied entry => operation.operationId = id ∧ reply = .point operation.pointId ∧ entry.Valid ∧
      ∃ target current, Sent store id operation target ∧ store.detail operation.pointId = some current ∧
        validateAcknowledgment current operation.action target applied entry = .ok ()
  | .acknowledgeVoteOperation id receipt => operation.operationId = id ∧ reply = .point operation.pointId ∧
      ∃ target current remoteId, Sent store id operation target ∧ store.detail operation.pointId = some current ∧
        current.remoteId = some remoteId ∧ validateAcknowledgment current operation.action target receipt.appliedRevision
          (voteEntry current remoteId receipt) = .ok ()
  | .resolveOperation _ id _ resolution => reply = .done ∧ resolution ≠ .retry ∧ Chosen store id operation
  | .replaceBlockedOperation _ id _ _ => (∃ receipt, reply = .written receipt) ∧ Chosen store id operation
  | _ => False

theorem acknowledgeOperation_settled (member : operation ∈ before.outbox)
    (done : before.acknowledgeOperation id applied entry = .ok (after, point)) :
    Stays operation after ∨ Settled before (.acknowledgeOperation id applied entry) (.point point) operation := by
  obtain ⟨valid, ⟨-, rfl⟩ | ⟨row, target, spot, sent, rfl, known, -, same, -⟩⟩ := acknowledgeOperation_ok done
  · exact .inl (.inside member)
  obtain ⟨inside, equal, -, -⟩ := pendingOperationById_some sent.pending
  by_cases here : operation.operationId = id
  · right
    cases lines.only inside member (here.trans equal.symm)
    unfold acknowledgeOperation at done
    obtain ⟨checked, validated, done⟩ := ok_bind done
    obtain ⟨_, -, done⟩ := ok_bind done
    rw [sent.pending] at done
    obtain ⟨current, found, done⟩ := ok_bind done
    obtain ⟨frozen, saved, done⟩ := ok_bind done
    obtain ⟨_, passes, -⟩ := ok_bind done
    cases sent.target.symm.trans (orError_ok saved)
    exact ⟨here, rfl, valid, target, current, sent, orError_ok found, passes⟩
  · left
    apply Stays.inside
    rw [same.outbox]
    exact mem_deleteOperations member (by simp [here])

theorem acknowledgeVoteOperation_settled {receipt : ChargingVoteReceipt} (member : operation ∈ before.outbox)
    (done : before.acknowledgeVoteOperation id receipt = .ok (after, point)) :
    Stays operation after ∨ Settled before (.acknowledgeVoteOperation id receipt) (.point point) operation := by
  obtain ⟨-, rfl⟩ | ⟨row, target, spot, shown, sent, rfl, -, -, -, -, same, -⟩ := acknowledgeVoteOperation_ok done
  · exact .inl (.inside member)
  obtain ⟨inside, equal, -, -⟩ := pendingOperationById_some sent.pending
  by_cases here : operation.operationId = id
  · right
    cases lines.only inside member (here.trans equal.symm)
    unfold acknowledgeVoteOperation at done
    obtain ⟨_, -, done⟩ := ok_bind done
    obtain ⟨_, -, done⟩ := ok_bind done
    rw [sent.pending] at done
    obtain ⟨current, found, done⟩ := ok_bind done
    obtain ⟨_, -, done⟩ := ok_bind done
    obtain ⟨frozen, saved, done⟩ := ok_bind done
    obtain ⟨remoteId, remote, done⟩ := ok_bind done
    obtain ⟨_, passes, -⟩ := ok_bind done
    cases sent.target.symm.trans (orError_ok saved)
    exact ⟨here, rfl, target, current, remoteId, sent, orError_ok found, orError_ok remote, passes⟩
  · left
    apply Stays.inside
    rw [same.outbox]
    exact mem_deleteOperations member (by simp [here])

theorem Chosen.superseded {blocked : OutboxRow} {fields : Bool} (inside : blocked ∈ before.outbox)
    (kind : blocked.blockedKind.isSome = true) (member : operation ∈ before.outbox)
    (leaves : (decide (operation.pointId = blocked.pointId) && (decide (operation.operationId = blocked.operationId) ||
      (fields && decide (blocked.sequence < operation.sequence) && operation.action.carriesFields))) = true) :
    Chosen before blocked.operationId operation := by
  simp only [Bool.and_eq_true, Bool.or_eq_true, decide_eq_true_eq] at leaves
  refine ⟨blocked, inside, rfl, kind, leaves.1.symm, ?_⟩
  rcases leaves.2 with same | ⟨⟨-, behind⟩, -⟩
  · exact .inl (lines.only member inside same.symm)
  · exact .inr behind

theorem resolveOperation_settled (member : operation ∈ before.outbox)
    (done : before.resolveOperation fresh id expected resolution = .ok after) :
    Stays operation after ∨ Settled before (.resolveOperation fresh id expected resolution) .done operation := by
  have evolves := resolveOperation_evolves done
  obtain ⟨-, review, spot, conflict, under, outcome⟩ := resolveOperation_ok done
  obtain ⟨inside, rfl, blocked⟩ := under.member
  cases outcome with
  | retried same =>
    have ids : SameIds before after := by
      rw [same]
      exact .updateOperation fun _ => rfl
    exact .inl (.marked lines evolves ids member)
  | rebased _ _ _ _ outbox _ _ _ =>
    by_cases here : operation.operationId = review.row.operationId
    · right
      refine ⟨rfl, ?_, review.row, inside, rfl, blocked, ?_⟩
      · intro retry
        cases retry
      · rw [lines.only inside member here]
        exact ⟨rfl, .inl rfl⟩
    · left
      apply Stays.inside
      rw [outbox]
      exact List.mem_map.mpr ⟨operation, member, if_neg here⟩
  | abandoned _ _ unknown create same _ =>
    by_cases here : operation.pointId = review.row.pointId
    · right
      refine ⟨rfl, ?_, review.row, inside, rfl, blocked, here.symm, ?_⟩
      · intro retry
        cases retry
      · have lined := lines.lined _ spot under.known
        rcases lined.waits unknown operation member here with also | ⟨-, first, there, place, kind, ahead⟩
        · exact .inl (lined.single review.row inside operation member rfl here create also)
        · rw [lined.single first there review.row inside place rfl kind create] at ahead
          exact .inr ahead
    · left
      apply Stays.inside
      rw [same.outbox]
      exact mem_deleteOperations member (by simp [here])
  | accepted _ _ _ _ _ _ _ _ _ _ outbox _ _ _ _ =>
    by_cases leaves : (decide (operation.pointId = review.row.pointId) &&
        (decide (operation.operationId = review.row.operationId) || (review.row.action.carriesFields &&
          decide (review.row.sequence < operation.sequence) && operation.action.carriesFields))) = true
    · right
      refine ⟨rfl, ?_, .superseded lines inside blocked member leaves⟩
      intro retry
      cases retry
    · left
      apply Stays.inside
      rw [outbox]
      exact mem_deleteOperations member leaves

theorem replaceBlockedOperation_settled (member : operation ∈ before.outbox)
    (done : before.replaceBlockedOperation fresh id expected input = .ok (after, receipt)) :
    Stays operation after ∨ Settled before (.replaceBlockedOperation fresh id expected input) (.written receipt) operation := by
  obtain ⟨row, spot, revision, action, target, middle, found, blocked, -, -, -, -, same, queues⟩ :=
    replaceBlockedOperation_ok done
  obtain ⟨inside, rfl⟩ := findOperation_some found
  by_cases leaves : (decide (operation.pointId = row.pointId) && (decide (operation.operationId = row.operationId) ||
      (row.action.carriesFields && decide (row.sequence < operation.sequence) && operation.action.carriesFields))) = true
  · exact .inr ⟨⟨receipt, rfl⟩, .superseded lines inside blocked member leaves⟩
  · left
    apply Stays.inside
    rw [queues.outbox, mem_insertOperation, same.outbox]
    exact .inr (mem_deleteOperations member leaves)

end Lines

/-- What holds of a refused call and of a successful one holds of its result and reply. -/
theorem commit_reply {α : Type} {outcome : Except StorageError (ChargingStore × α)} {reply : α → ChargingReply}
    (refused : ∀ error, Q before (.failed error))
    (done : ∀ after value, outcome = .ok (after, value) → Q after (reply value)) :
    Q (before.commit outcome reply).1 (before.commit outcome reply).2 := by
  cases outcome with
  | error error => exact refused error
  | ok result => exact done result.1 result.2 rfl

theorem commit_done_reply {outcome : Except StorageError ChargingStore} (refused : ∀ error, Q before (.failed error))
    (done : ∀ after, outcome = .ok after → Q after .done) :
    Q (before.commit (outcome.map fun after => (after, ())) fun _ => .done).1
      (before.commit (outcome.map fun after => (after, ())) fun _ => .done).2 := by
  cases outcome with
  | error error => exact refused error
  | ok after => exact done after rfl

/-- An operation is there after a call, or the call settles it. -/
theorem step_settles (call : ChargingCall) (lines : Lines store) (active : store.account = .active)
    (member : operation ∈ store.outbox) :
    Stays operation (store.step call).1 ∨ Settled store call (store.step call).2 operation := by
  have refused : ∀ error : StorageError, Stays operation store ∨ Settled store call (.failed error) operation :=
    fun _ => .inl (.inside member)
  cases call with
  | account event =>
    refine .inl (commit_of (.inside member) ?_)
    intro after value done
    unfold applyAccount at done
    rw [active] at done
    cases event with
    | read | beginDeletion =>
      cases done
      exact .inside member
    | completeDeletion atMs => cases done
  | save point fresh input =>
    refine .inl (commit_of (.inside member) ?_)
    intro after receipt done
    obtain ⟨-, middle, -, same, queues⟩ := save_ok done
    apply Stays.inside
    rw [queues.outbox, mem_insertOperation, same.outbox]
    exact .inr member
  | change fresh id expected action =>
    refine .inl (commit_of (.inside member) ?_)
    intro after receipt done
    obtain ⟨row, revision, middle, -, -, -, same, queues⟩ := change_ok done
    apply Stays.inside
    rw [queues.outbox, mem_insertOperation, same.outbox]
    exact .inr member
  | nextOperation =>
    refine .inl (commit_of (.inside member) ?_)
    intro after handed done
    refine .marked lines (nextOperation_evolves lines done) ?_ member
    obtain ⟨-, ⟨-, -, rfl⟩ | ⟨row, target, -, -, ⟨-, rfl⟩ | ⟨-, rfl⟩⟩⟩ := nextOperation_ok done
    · rfl
    · rfl
    · exact .updateOperation fun _ => rfl
  | cacheDirectoryEntry entry =>
    refine .inl (commit_of (.inside member) ?_)
    intro after point done
    obtain ⟨-, rfl | ⟨row, revision, -, -, -, -, -, -, -, -, same⟩ | ⟨revision, -, -, same⟩⟩ := cacheDirectoryEntry_ok done
    · exact .inside member
    · exact .inside (same.outbox ▸ member)
    · exact .inside (same.outbox ▸ member)
  | acknowledgeOperation id applied entry =>
    exact commit_reply (Q := fun after reply => Stays operation after ∨ Settled store _ reply operation) refused
      fun _ _ done => acknowledgeOperation_settled lines member done
  | acknowledgeVoteOperation id receipt =>
    exact commit_reply (Q := fun after reply => Stays operation after ∨ Settled store _ reply operation) refused
      fun _ _ done => acknowledgeVoteOperation_settled lines member done
  | applyChangesPage entries nextCursor now =>
    refine .inl (commit_of (.inside member) ?_)
    intro after result done
    exact .marked lines (applyChangesPage_evolves lines done) (applyChangesPage_ids done) member
  | cacheVote remoteId vote voteRevision votesUp votesDown changeSequence =>
    refine .inl (commit_of (.inside member) ?_)
    intro after point done
    obtain ⟨-, row, revision, shown, -, -, -, -, -, same⟩ := cacheVote_ok done
    exact .inside (same.outbox ▸ member)
  | blockOperation id kind =>
    refine .inl (commit_done_of (.inside member) ?_)
    intro after done
    obtain ⟨row, draft, -, rfl⟩ := blockOperation_ok done
    have evolves : Evolves [] store (store.updateOperation id fun row => { row with blockedKind := some kind }) :=
      .updateOperation fun _ _ _ => .inr ⟨rfl, rfl, rfl, fun _ held => held⟩
    exact .marked lines evolves (.updateOperation fun _ => rfl) member
  | resolveOperation fresh id expected resolution =>
    exact commit_done_reply (Q := fun after reply => Stays operation after ∨ Settled store _ reply operation) refused
      fun _ done => resolveOperation_settled lines member done
  | replaceBlockedOperation fresh id expected input =>
    exact commit_reply (Q := fun after reply => Stays operation after ∨ Settled store _ reply operation) refused
      fun _ _ done => replaceBlockedOperation_settled lines member done

end Leaving

section Reached
variable {store : ChargingStore} {used : List Uuid}

/-- What holds of a store whose operations and receipts carry these identifiers. -/
structure Reached (used : List Uuid) (store : ChargingStore) : Prop extends Lines store where
  drawn : ∀ operation ∈ store.outbox, operation.operationId ∈ used
  acked : ∀ id spot key, store.spots.find id = some spot → spot.lastAck = some key →
    key ∈ used ∧ spot.remoteId.isSome = true ∧ ∀ operation ∈ store.outbox, operation.operationId ≠ key
  lasts : ∀ one two spot other key, store.spots.find one = some spot → store.spots.find two = some other →
    spot.lastAck = some key → other.lastAck = some key → one = two

theorem Reached.start (points : List Uuid) (index : SpatialIndex) :
    Reached [] { mapPoints := points, index := index } where
  bounded _ member := absurd member List.not_mem_nil
  distinct := List.nodup_nil
  owned _ member := absurd member List.not_mem_nil
  frozen _ member := absurd member List.not_mem_nil
  kept _ _ found := by cases found
  lined _ _ known := by cases known
  drawn _ member := absurd member List.not_mem_nil
  acked _ _ _ known := by cases known
  lasts _ _ _ _ _ known := by cases known

/-- Identifiers drawn later are no operation's and no receipt's. -/
theorem Reached.step {call : ChargingCall} (reached : Reached used store) (active : store.account = .active)
    (fresh : ∀ key ∈ call.drawn, key ∉ used) : Reached (used ++ call.drawn) (store.step call).1 := by
  have evolves := step_evolves store call reached.toLines active
  have receipts := step_receipts store call active
  -- A receipt remembered before is not among the operations, old or new.
  have apart {id key : Uuid} {spot : SpotRow} (known : store.spots.find id = some spot) (held : spot.lastAck = some key) :
      ∀ operation ∈ (store.step call).1.outbox, operation.operationId ≠ key := by
    obtain ⟨old, -, absent⟩ := reached.acked id spot key known held
    intro operation member same
    rcases evolves operation member with new | ⟨before, there, persists⟩
    · exact fresh operation.operationId new (same ▸ old)
    · exact absent before there (persists.operationId.symm.trans same)
  refine ⟨step_lines store call reached.toLines active, ?_, ?_, ?_⟩
  · intro operation member
    rcases evolves operation member with new | ⟨old, there, persists⟩
    · exact List.mem_append_right _ new
    · rw [persists.operationId]
      exact List.mem_append_left _ (reached.drawn old there)
  · intro id spot key known held
    cases receipts with
    | kept retains =>
      obtain ⟨old, there, remembered, present⟩ := retains id spot key known held
      obtain ⟨drawn, remoteId, -⟩ := reached.acked id old key there remembered
      exact ⟨List.mem_append_left _ drawn, present remoteId, apart there remembered⟩
    | taken operation later pin member moved lastAck remoteId outbox =>
      by_cases here : id = operation.pointId
      · subst here
        cases moved.spot.symm.trans known
        cases lastAck.symm.trans held
        refine ⟨List.mem_append_left _ (reached.drawn operation member), remoteId, ?_⟩
        intro left inside
        rw [outbox] at inside
        exact of_decide_eq_false (deleteOperations_mem inside).2
      · rw [moved.spots id here] at known
        obtain ⟨drawn, remoteId, -⟩ := reached.acked id spot key known held
        exact ⟨List.mem_append_left _ drawn, remoteId, apart known held⟩
  · intro one two spot other key first second held also
    cases receipts with
    | kept retains =>
      obtain ⟨old, there, remembered, -⟩ := retains one spot key first held
      obtain ⟨next, here, recalled, -⟩ := retains two other key second also
      exact reached.lasts one two old next key there here remembered recalled
    | taken operation later pin member moved lastAck remoteId outbox =>
      have elsewhere {id : Uuid} {spot : SpotRow} (away : id ≠ operation.pointId)
          (known : (store.step call).1.spots.find id = some spot) (held : spot.lastAck = some operation.operationId) : False := by
        rw [moved.spots id away] at known
        exact (reached.acked id spot _ known held).2.2 operation member rfl
      by_cases here : one = operation.pointId
      · by_cases there : two = operation.pointId
        · rw [here, there]
        · subst here
          cases moved.spot.symm.trans first
          cases lastAck.symm.trans held
          exact absurd also (elsewhere there second)
      · by_cases there : two = operation.pointId
        · subst there
          cases moved.spot.symm.trans second
          cases lastAck.symm.trans also
          exact absurd held (elsewhere here first)
        · rw [moved.spots one here] at first
          rw [moved.spots two there] at second
          exact reached.lasts one two spot other key first second held also

theorem Reached.run (reached : Reached used store) (calls : List ChargingCall)
    (active : ∀ here ∈ Runs.history ChargingStore.step store calls, here.before.account = .active)
    (fresh : (used ++ calls.flatMap ChargingCall.drawn).Nodup) :
    Reached (used ++ calls.flatMap ChargingCall.drawn) (Runs.final ChargingStore.step store calls) ∧
      Evolves (calls.flatMap ChargingCall.drawn) store (Runs.final ChargingStore.step store calls) := by
  induction calls generalizing store used with
  | nil =>
    rw [List.flatMap_nil, List.append_nil]
    exact ⟨reached, .refl _ _⟩
  | cons call calls ih =>
    rw [List.flatMap_cons, ← List.append_assoc] at fresh ⊢
    have here := active _ List.mem_cons_self
    have unused : ∀ key ∈ call.drawn, key ∉ used := by
      intro key new old
      exact (List.nodup_append.mp (List.nodup_append.mp fresh).1).2.2 key old key new rfl
    obtain ⟨last, evolves⟩ := ih (reached.step here unused) (fun later member => active later (List.mem_cons_of_mem _ member)) fresh
    refine ⟨last, ?_⟩
    exact ((step_evolves store call reached.toLines here).mono (List.subset_append_left _ _)).trans
      (evolves.mono (List.subset_append_right _ _))

/-- What the queue of a store promises: the only create of a point the server does not know comes first,
an operation is handed out unblocked and first of its point with the target it has from then on, nothing
but blocked points keeps the queue waiting, and the last receipt of a point is answered again as it was. -/
structure InOrder (store : ChargingStore) : Prop where
  creates : ∀ id spot, store.spots.find id = some spot → spot.remoteId = none → ∀ operation ∈ store.outbox,
    operation.pointId = id → ∃ create ∈ store.outbox, create.pointId = id ∧ create.action.isCreate = true ∧
      (∀ other ∈ store.outbox, other.pointId = id → create.sequence ≤ other.sequence) ∧
      ∀ other ∈ store.outbox, other.pointId = id → other.action.isCreate = true → other = create
  hands : ∀ after handed, store.nextOperation = .ok (after, some handed) → ∃ operation ∈ store.outbox,
    operation.blockedKind = none ∧ (∀ prior ∈ store.outbox, prior.pointId = operation.pointId →
      operation.sequence ≤ prior.sequence) ∧ ∃ sent ∈ after.outbox, Persists operation sent ∧
      sent.target = some handed.target ∧ sent.operationId = handed.id ∧ sent.pointId = handed.pointId ∧
      sent.action = handed.action
  answers : store.account = .active → ∃ after handed, store.nextOperation = .ok (after, handed) ∧
    (handed = none → ∀ operation ∈ store.outbox, operation.blockedKind = none →
      ∃ prior ∈ store.outbox, prior.pointId = operation.pointId ∧ prior.sequence < operation.sequence)
  replays : store.account = .active → ∀ id spot key, store.spots.find id = some spot → spot.lastAck = some key →
    ∃ remoteId, spot.remoteId = some remoteId ∧
      (∀ applied entry, ChargingDirectoryEntry.Valid entry → entry.id = remoteId →
        store.acknowledgeOperation key applied entry = .ok (store, id)) ∧
      ∀ receipt, receipt.votesUp ≤ i64Max ∧ receipt.votesDown ≤ i64Max →
        store.acknowledgeVoteOperation key receipt = .ok (store, id)

theorem Lines.creates (lines : Lines store) {operation : OutboxRow} (known : store.spots.find id = some spot)
    (unknown : spot.remoteId = none) (member : operation ∈ store.outbox) (place : operation.pointId = id) :
    ∃ create ∈ store.outbox, create.pointId = id ∧ create.action.isCreate = true ∧
      (∀ other ∈ store.outbox, other.pointId = id → create.sequence ≤ other.sequence) ∧
      ∀ other ∈ store.outbox, other.pointId = id → other.action.isCreate = true → other = create := by
  have lined := lines.lined id spot known
  have has : HasCreate store id fun _ => True := by
    rcases lined.waits unknown operation member place with kind | ⟨-, create, there, here, kind, -⟩
    · exact ⟨operation, member, place, kind, trivial⟩
    · exact ⟨create, there, here, kind, trivial⟩
  obtain ⟨create, there, here, kind, -⟩ := has
  refine ⟨create, there, here, kind, ?_, ?_⟩
  · intro other inside beside
    rcases lined.waits unknown other inside beside with also | ⟨-, first, known, begun, creates, ahead⟩
    · exact Nat.le_of_eq (congrArg OutboxRow.sequence (lined.single create there other inside here beside kind also))
    · rw [lined.single first known create there begun here creates kind] at ahead
      exact Nat.le_of_lt ahead
  · exact fun other inside beside also => lined.single other inside create there beside here also kind

theorem Lines.hands (lines : Lines store) {handed : ChargingOperation} (done : store.nextOperation = .ok (after, some handed)) :
    ∃ operation ∈ store.outbox, operation.blockedKind = none ∧ (∀ prior ∈ store.outbox, prior.pointId = operation.pointId →
      operation.sequence ≤ prior.sequence) ∧ ∃ sent ∈ after.outbox, Persists operation sent ∧
      sent.target = some handed.target ∧ sent.operationId = handed.id ∧ sent.pointId = handed.pointId ∧
      sent.action = handed.action := by
  obtain ⟨-, ⟨-, never, -⟩ | ⟨row, target, pending, same, outcome⟩⟩ := nextOperation_ok done
  · cases never
  cases same
  obtain ⟨member, unblocked, first⟩ := pendingOperation_some pending
  refine ⟨row, member, unblocked, isFirst_iff.mp first, ?_⟩
  rcases outcome with ⟨saved, rfl⟩ | ⟨unset, rfl⟩
  · exact ⟨row, member, ⟨rfl, rfl, rfl, fun _ held => held⟩, saved, rfl, rfl, rfl⟩
  · refine ⟨{ row with target := some target }, List.mem_map.mpr ⟨row, member, if_pos rfl⟩, ⟨rfl, rfl, rfl, ?_⟩, rfl, rfl, rfl, rfl⟩
    intro other held
    cases unset.symm.trans held

/-- A create needs no server's spot, and any other operation has one where the server knows the point. -/
theorem chooseTarget_found {action : ChargingAction} (fits : action.isCreate = true ∨ current.remoteId.isSome = true) :
    ∃ target, chooseTarget action current = .ok target := by
  cases action with
  | create input => exact ⟨_, rfl⟩
  | edit _ | withdraw | verify | vote _ =>
    rcases fits with never | present
    · cases never
    · obtain ⟨remoteId, same⟩ := Option.isSome_iff_exists.mp present
      unfold chooseTarget
      rw [same]
      exact ⟨_, rfl⟩

/-- The next operation is always answered: a point the server does not know has its create first. -/
theorem Lines.answers (lines : Lines store) (active : store.account = .active) : ∃ after handed,
    store.nextOperation = .ok (after, handed) ∧ (handed = none → ∀ operation ∈ store.outbox, operation.blockedKind = none →
      ∃ prior ∈ store.outbox, prior.pointId = operation.pointId ∧ prior.sequence < operation.sequence) := by
  have begins : store.ensureActive = .ok () := if_pos active
  cases pending : store.pendingOperation with
  | none =>
    refine ⟨store, none, ?_, ?_⟩
    · unfold nextOperation
      rw [begins, pending]
      rfl
    · intro _ operation member unblocked
      have waits := List.find?_eq_none.mp pending operation member
      simp only [isPending, unblocked, Option.isNone_none, Bool.true_and, isFirst_iff] at waits
      by_contra alone
      apply waits
      intro prior inside same
      by_contra less
      exact alone ⟨prior, inside, same, Nat.lt_of_not_le less⟩
  | some row =>
    obtain ⟨member, -, first⟩ := pendingOperation_some pending
    obtain ⟨spot, known, -⟩ := lines.owned row member
    obtain ⟨current, found⟩ : ∃ current, store.detail row.pointId = some current := ⟨_, by rw [detail, known]; rfl⟩
    obtain ⟨held, also, same⟩ := detail_some found
    cases known.symm.trans also
    have frozen : ∃ after target, store.freezeTarget row.operationId row.action row.target current = .ok (after, target) := by
      unfold freezeTarget
      cases row.target with
      | some target => exact ⟨_, _, rfl⟩
      | none =>
        obtain ⟨target, chosen⟩ : ∃ target, chooseTarget row.action current = .ok target := by
          apply chooseTarget_found
          cases remote : spot.remoteId with
          | none => exact .inl (lines.first_create member first known remote)
          | some remoteId => exact .inr (by rw [same, remote]; rfl)
        exact ⟨_, target, by simp only [chosen]; rfl⟩
    obtain ⟨after, target, froze⟩ := frozen
    refine ⟨after, some ⟨row.operationId, row.pointId, row.localRevision, target, row.action⟩, ?_, ?_⟩
    · unfold nextOperation
      simp only [begins, pending, found, orError]
      show Except.bind (store.freezeTarget row.operationId row.action row.target current) _ = _
      rw [froze]
      rfl
    · intro never
      cases never

theorem Reached.replayed (reached : Reached used store) {remoteId : Uuid} (known : store.spots.find id = some spot)
    (held : spot.lastAck = some key) (remote : spot.remoteId = some remoteId) :
    store.replayedAcknowledgment key remoteId = .ok (store, id) := by
  unfold replayedAcknowledgment
  cases found : store.spots.search fun _ row => decide (row.lastAck = some key) && decide (row.remoteId = some remoteId) with
  | none =>
    have absent := Table.search_none found known
    simp [held, remote] at absent
  | some point =>
    obtain ⟨other, there, same⟩ := Table.search_some found
    rw [Bool.and_eq_true, decide_eq_true_eq] at same
    cases reached.lasts point id other spot key there known same.1 held
    rfl

theorem Reached.forgotten (reached : Reached used store) (known : store.spots.find id = some spot)
    (held : spot.lastAck = some key) : store.pendingOperationById key = none := by
  apply List.find?_eq_none.mpr
  intro operation member
  have other := (reached.acked id spot key known held).2.2 operation member
  simp [other]

theorem Reached.replays (reached : Reached used store) (active : store.account = .active)
    (known : store.spots.find id = some spot) (held : spot.lastAck = some key) : ∃ remoteId, spot.remoteId = some remoteId ∧
      (∀ applied entry, ChargingDirectoryEntry.Valid entry → entry.id = remoteId →
        store.acknowledgeOperation key applied entry = .ok (store, id)) ∧
      ∀ receipt, receipt.votesUp ≤ i64Max ∧ receipt.votesDown ≤ i64Max →
        store.acknowledgeVoteOperation key receipt = .ok (store, id) := by
  have begins : store.ensureActive = .ok () := if_pos active
  have forgotten := reached.forgotten known held
  obtain ⟨remoteId, remote⟩ := Option.isSome_iff_exists.mp (reached.acked id spot key known held).2.1
  have replayed := reached.replayed known held remote
  refine ⟨remoteId, remote, ?_, ?_⟩
  · intro applied entry valid same
    subst same
    unfold acknowledgeOperation ValidatedDirectoryEntry.new
    rw [dif_pos valid, begins, forgotten]
    exact replayed
  · intro receipt bounded
    unfold acknowledgeVoteOperation ensure
    rw [if_pos bounded, begins, forgotten]
    cases found : store.spots.search fun _ row => decide (row.lastAck = some key) with
    | none =>
      have absent := Table.search_none found known
      simp [held] at absent
    | some point =>
      obtain ⟨other, there, same⟩ := Table.search_some found
      cases reached.lasts point id other spot key there known (of_decide_eq_true same) held
      have named : (store.spots.find id).bind SpotRow.remoteId = some remoteId := by
        rw [known]
        exact remote
      show Except.bind (orError ((store.spots.find id).bind SpotRow.remoteId) .chargingConflict) _ = _
      rw [named]
      exact replayed

theorem Reached.inOrder (reached : Reached used store) : InOrder store where
  creates _ _ known unknown _ member place := reached.toLines.creates known unknown member place
  hands _ _ done := reached.toLines.hands done
  answers active := reached.toLines.answers active
  replays active _ _ _ known held := reached.replays active known held

end Reached

/-- From an empty store, in every run of an active account whose operation identifiers are drawn once: the
queue is in order after any number of calls; an operation that is still there later is the one it was,
with the target it had, if it had one; and no call but its own checked receipt or a decision about a
blocked operation takes an operation away. -/
theorem outbox_keeps_order_targets_and_intent (points : List Uuid) (index : SpatialIndex) (calls : List ChargingCall)
    (active : ∀ here ∈ Runs.history step { mapPoints := points, index := index } calls, here.before.account = .active)
    (fresh : (calls.flatMap ChargingCall.drawn).Nodup) :
    let start : ChargingStore := { mapPoints := points, index := index }
    (∀ first rest, calls = first ++ rest → InOrder (Runs.final step start first)) ∧
    (∀ first rest, calls = first ++ rest → ∀ operation ∈ (Runs.final step start first).outbox,
      ∀ later ∈ (Runs.final step start calls).outbox, later.operationId = operation.operationId → Persists operation later) ∧
    ∀ here ∈ Runs.history step start calls, ∀ operation ∈ here.before.outbox,
      Stays operation here.after ∨ Settled here.before here.input here.output operation := by
  intro start
  have reached {first rest : List ChargingCall} (split : calls = first ++ rest) :
      Reached (first.flatMap ChargingCall.drawn) (Runs.final step start first) := by
    subst split
    rw [List.flatMap_append] at fresh
    rw [Runs.history_append] at active
    exact ((Reached.start points index).run first (fun here member => active here (List.mem_append_left _ member))
      (List.nodup_append.mp fresh).1).1
  refine ⟨fun first rest split => (reached split).inOrder, ?_, ?_⟩
  · intro first rest split operation member later inside same
    have began := reached split
    subst split
    rw [List.flatMap_append] at fresh
    rw [Runs.history_append] at active
    rw [Runs.final_append] at inside
    obtain ⟨-, evolves⟩ := began.run rest (fun here member => active here (List.mem_append_right _ member)) fresh
    rcases evolves later inside with new | ⟨old, known, persists⟩
    · -- An identifier drawn later is not that of an operation already there.
      rw [same] at new
      exact absurd rfl ((List.nodup_append.mp fresh).2.2 _ (began.drawn operation member) _ new)
    · cases began.only member known (persists.operationId.symm.trans same)
      exact persists
  · intro here member operation inside
    obtain ⟨past, next, split⟩ := List.append_of_mem member
    obtain ⟨first, last, inputs, -, same, -⟩ := Runs.history_split split
    have alive := active here member
    rw [same] at inside alive ⊢
    exact step_settles _ here.input (reached inputs).toLines alive inside

/-- A published spot is edited, the edit is sent, refused and made again with another body, and a page comes in between. -/
def editedRun : List ChargingCall := publishedRun ++
  [.change 101 samplePoint .initial (.edit sampleSpot), .nextOperation, .blockOperation 101 .invalid,
    .applyChangesPage [sampleEntry .published two two] two 5,
    .replaceBlockedOperation 102 101 three ⟨⟨377749000, -1224194001⟩, "outlet behind the entrance"⟩, .nextOperation]

theorem outbox_keeps_order_targets_and_intent_edited :
    ((Runs.final step {} editedRun).outbox.map fun row => (row.operationId, row.target)) =
        [(102, some (.existing sampleRemote two))] ∧
      InOrder (Runs.final step {} editedRun) := by
  refine ⟨by decide, ?_⟩
  have kept := outbox_keeps_order_targets_and_intent [] {} editedRun (by decide) (by decide)
  exact kept.1 editedRun [] (List.append_nil _).symm

end ChargingStore

end Cutout.Charging

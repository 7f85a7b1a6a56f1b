import Cutout.Proofs.ChargingRevisions

/-! The map and the spots. A shown spot has a body and its pin is the body's, a spot that
is not shown has no pin, and a pending withdrawal keeps a spot off the map. Every call
keeps this but a page that publishes a spot which the store has no body for, or which a
withdrawal is pending for. -/

namespace Cutout.Charging
open Library

namespace ChargingStore
variable {before middle after : ChargingStore} {fresh id point : Uuid} {entry : ChargingDirectoryEntry}
variable {meets : ChargingAction → Bool} {voteRevision : ChargingRevision}
variable (store : ChargingStore)
variable {revision : ChargingRevision}

  {row later spot : SpotRow} {pin : Option Coordinate}

theorem hasPending_iff : before.hasPending id meets = true ↔
    ∃ operation ∈ before.outbox, operation.pointId = id ∧ meets operation.action = true := by
  simp [hasPending, List.any_eq_true]

/-- Every operation after was there before, for the same point with the same action. -/
def NoneNew (before after : ChargingStore) : Prop :=
  ∀ operation ∈ after.outbox, ∃ old ∈ before.outbox, old.pointId = operation.pointId ∧ old.action = operation.action

namespace NoneNew
variable {current : StoredChargingSpot}

theorem refl : NoneNew store store := fun operation member => ⟨operation, member, rfl, rfl⟩

theorem trans (first : NoneNew before middle) (second : NoneNew middle after) : NoneNew before after := by
  intro operation member
  obtain ⟨next, there, point, action⟩ := second operation member
  obtain ⟨old, known, place, kind⟩ := first next there
  exact ⟨old, known, place.trans point, kind.trans action⟩

theorem same (queue : SameQueue before after) : NoneNew before after := by
  intro operation member
  rw [queue.outbox] at member
  exact ⟨operation, member, rfl, rfl⟩

theorem updateOperation (operationId : Uuid) {change : OutboxRow → OutboxRow}
    (keeps : ∀ operation, (change operation).pointId = operation.pointId ∧ (change operation).action = operation.action) :
    NoneNew before (before.updateOperation operationId change) := by
  intro operation member
  obtain ⟨old, known, rfl⟩ := List.mem_map.mp member
  refine ⟨old, known, ?_⟩
  split
  · exact ⟨(keeps old).1.symm, (keeps old).2.symm⟩
  · exact ⟨rfl, rfl⟩

theorem deleteOperations (leaves : OutboxRow → Bool) : NoneNew before (before.deleteOperations leaves) :=
  fun operation member => ⟨operation, (List.mem_filter.mp member).1, rfl, rfl⟩

theorem hasPending (none : NoneNew before after) (pending : after.hasPending id meets = true) :
    before.hasPending id meets = true := by
  rw [hasPending_iff] at pending ⊢
  obtain ⟨operation, member, point, kind⟩ := pending
  obtain ⟨old, known, place, action⟩ := none operation member
  exact ⟨old, known, place.trans point, action ▸ kind⟩

theorem reviewRows {conflict : Option Uuid} {rows : List OutboxRow}
    (done : reviewRows current entry before rows = .ok (after, conflict)) : NoneNew before after :=
  reviewRows_keeps (fun operationId _ none => none.trans (.updateOperation operationId fun _ => ⟨rfl, rfl⟩)) (.refl before) done

theorem reviewPendingChanges {blocked : Nat}
    (done : before.reviewPendingChanges id current entry = .ok (after, blocked)) : NoneNew before after := by
  obtain ⟨reviewed, conflict, review, ⟨-, rfl⟩ | ⟨operationId, draft, -, -, rfl⟩⟩ := reviewPendingChanges_ok done
  · exact reviewRows review
  · exact (reviewRows review).trans (updateOperation operationId fun _ => ⟨rfl, rfl⟩)

end NoneNew

theorem mem_insertOperation {row operation : OutboxRow} {rows : List OutboxRow} :
    operation ∈ insertOperation row rows ↔ operation = row ∨ operation ∈ rows := by
  induction rows with
  | nil => simp [insertOperation]
  | cons first rows ih =>
    unfold insertOperation
    split
    · simp
    · simp only [List.mem_cons, ih]
      exact or_left_comm

structure Consistent (store : ChargingStore) : Prop where
  fits : ∀ id row, store.spots.find id = some row → Fits row (store.index.entry id)
  withdrawn : ∀ id row, store.spots.find id = some row → store.hasPending id ChargingAction.isWithdraw = true →
    row.status.visible = false
  owned : ∀ operation ∈ store.outbox, (store.spots.find operation.pointId).isSome = true

namespace Consistent

section Consistent
variable (consistent : Consistent before)
include consistent

theorem same (spots : SameSpots before after) (none : NoneNew before after) : Consistent after := by
  refine ⟨?_, ?_, ?_⟩
  · intro id row known
    rw [spots.spots] at known
    rw [spots.index]
    exact consistent.fits id row known
  · intro id row known pending
    rw [spots.spots] at known
    exact consistent.withdrawn id row known (none.hasPending pending)
  · intro operation member
    obtain ⟨old, known, place, -⟩ := none operation member
    rw [spots.spots, ← place]
    exact consistent.owned old known

/-- A call that changes one point, whose operations may be new. -/
theorem became (moved : Became id later pin before after) (fits : Fits later pin)
    (hidden : after.hasPending id ChargingAction.isWithdraw = true → later.status.visible = false)
    (elsewhere : ∀ operation ∈ after.outbox, operation.pointId = id ∨
      ∃ old ∈ before.outbox, old.pointId = operation.pointId ∧ old.action = operation.action) :
    Consistent after := by
  refine ⟨?_, ?_, ?_⟩
  · intro other row known
    by_cases here : other = id
    · subst here
      cases moved.spot.symm.trans known
      rw [moved.pinned]
      exact fits
    · rw [moved.spots other here] at known
      rw [moved.pins other here]
      exact consistent.fits other row known
  · intro other row known pending
    by_cases here : other = id
    · subst here
      cases moved.spot.symm.trans known
      exact hidden pending
    · rw [moved.spots other here] at known
      apply consistent.withdrawn other row known
      rw [hasPending_iff] at pending ⊢
      obtain ⟨operation, member, place, kind⟩ := pending
      rcases elsewhere operation member with same | ⟨old, there, point, action⟩
      · exact absurd (place.symm.trans same) here
      · exact ⟨old, there, point.trans place, action ▸ kind⟩
  · intro operation member
    by_cases here : operation.pointId = id
    · rw [here, moved.spot]
      rfl
    · rcases elsewhere operation member with same | ⟨old, there, point, -⟩
      · exact absurd same here
      · rw [moved.spots _ here, ← point]
        exact consistent.owned old there

theorem moved (moved : Became id later pin before after) (fits : Fits later pin) (none : NoneNew before after)
    (hidden : before.hasPending id ChargingAction.isWithdraw = true → later.status.visible = false) :
    Consistent after :=
  consistent.became moved fits (fun pending => hidden (none.hasPending pending))
    fun operation member => .inr (none operation member)

/-- The same where an operation that is no withdrawal, or comes with a hidden spot, joins. -/
theorem queued {operation : OutboxRow} {receipt : ChargingWriteReceipt} (moved : Became id later pin before middle)
    (none : NoneNew before middle) (queues : Queues operation middle after receipt) (place : operation.pointId = id)
    (fits : Fits later pin) (kind : operation.action.isWithdraw = true → later.status.visible = false)
    (hidden : before.hasPending id ChargingAction.isWithdraw = true → later.status.visible = false) :
    Consistent after := by
  have members : ∀ other ∈ after.outbox, other = operation ∨ other ∈ middle.outbox := by
    intro other member
    rw [queues.outbox] at member
    exact mem_insertOperation.mp member
  refine consistent.became (queues.became moved) fits ?_ ?_
  · intro pending
    obtain ⟨other, member, point, withdraw⟩ := hasPending_iff.mp pending
    rcases members other member with rfl | there
    · exact kind withdraw
    · exact hidden (none.hasPending (hasPending_iff.mpr ⟨other, there, point, withdraw⟩))
  · intro other member
    rcases members other member with rfl | there
    · exact .inl place
    · exact .inr (none other there)

theorem idle (unknown : before.spots.find id = none) : before.hasPending id meets ≠ true := by
  intro pending
  obtain ⟨operation, member, rfl, -⟩ := hasPending_iff.mp pending
  have owner := consistent.owned operation member
  rw [unknown] at owner
  cases owner

end Consistent

end Consistent

theorem Fits.hidden (row : SpotRow) (hidden : row.status.visible = false) : Fits row none := by
  refine ⟨?_, ?_⟩
  · intro visible
    rw [hidden] at visible
    cases visible
  · simp [shownPin, hidden]

theorem Fits.congr (fits : Fits row pin) (input : later.input = row.input)
    (status : later.status.visible = row.status.visible) : Fits later pin := by
  refine ⟨?_, ?_⟩
  · rw [status, input]
    exact fits.body
  · rw [fits.pin, shownPin, shownPin, status, input]

theorem not_pending (none : before.hasPendingOperations id = false) : before.hasPending id meets ≠ true := by
  intro pending
  obtain ⟨operation, member, place, -⟩ := hasPending_iff.mp pending
  have any : before.hasPendingOperations id = true := hasPending_iff.mpr ⟨operation, member, place, rfl⟩
  rw [none] at any
  cases any

section Calls
variable (consistent : Consistent before)
variable {receipt : ChargingWriteReceipt} {expected : ChargingRevision}
variable {input : NewChargingSpot}

include consistent

theorem save_consistent (done : before.save point fresh input = .ok (after, receipt)) : Consistent after := by
  obtain ⟨unknown, middle, moved, same, queues⟩ := save_ok done
  refine consistent.queued moved (.same same) queues rfl ⟨fun _ => rfl, rfl⟩ ?_ ?_
  · intro kind
    cases kind
  · exact fun pending => absurd pending (consistent.idle unknown)

theorem change_consistent {action : ChargingAction}
    (done : before.change fresh id expected action = .ok (after, receipt)) : Consistent after := by
  obtain ⟨row, revision, middle, known, admitted, moved, same, queues⟩ := change_ok done
  have fits := consistent.fits id row known
  have hidden := consistent.withdrawn id row known
  cases action with
  | edit input =>
    refine consistent.queued moved (.same same) queues rfl ⟨fun _ => rfl, rfl⟩ ?_ hidden
    intro kind
    cases kind
  | withdraw =>
    refine consistent.queued moved (.same same) queues rfl (.hidden _ rfl) ?_ ?_
    · exact fun _ => rfl
    · exact fun _ => rfl
  | vote | verify =>
    refine consistent.queued moved (.same same) queues rfl (fits.congr rfl rfl) ?_ hidden
    intro kind
    cases kind
  | create input => cases admitted.notCreate

theorem nextOperation_consistent {operation : Option ChargingOperation}
    (done : before.nextOperation = .ok (after, operation)) : Consistent after := by
  obtain ⟨-, ⟨-, -, rfl⟩ | ⟨row, target, -, -, ⟨-, rfl⟩ | ⟨-, rfl⟩⟩⟩ := nextOperation_ok done
  · exact consistent
  · exact consistent
  · exact consistent.same ⟨rfl, rfl, rfl, rfl⟩ (.updateOperation _ fun _ => ⟨rfl, rfl⟩)

theorem cacheDirectoryEntry_consistent (done : before.cacheDirectoryEntry entry = .ok (after, point)) :
    Consistent after := by
  obtain ⟨valid, rfl | ⟨row, revision, known, -, none, -, -, -, -, moved, same⟩ | ⟨revision, unknown, moved, same⟩⟩ :=
    cacheDirectoryEntry_ok done
  · exact consistent
  · refine consistent.moved moved (.served valid seenEntry_input seenEntry_status) (.same same) ?_
    exact fun pending => absurd pending (not_pending none)
  · refine consistent.moved moved (.served valid seenEntry_input seenEntry_status) (.same same) ?_
    exact fun pending => absurd pending (consistent.idle unknown)

theorem cacheVote_consistent {remoteId : Uuid} {vote : Option ChargingVote} {votesUp votesDown : Nat}
    {changeSequence : ChargingChangeCursor}
    (done : before.cacheVote remoteId vote voteRevision votesUp votesDown changeSequence = .ok (after, point)) :
    Consistent after := by
  obtain ⟨-, row, revision, shown, known, -, -, -, moved, same⟩ := cacheVote_ok done
  exact consistent.moved moved ((consistent.fits point row known).congr rfl rfl) (.same same)
    (consistent.withdrawn point row known)

theorem acknowledgeOperation_consistent {applied : ChargingRevision}
    (done : before.acknowledgeOperation id applied entry = .ok (after, point)) : Consistent after := by
  obtain ⟨valid, ⟨-, rfl⟩ | ⟨row, target, spot, -, -, known, -, same, moved⟩⟩ := acknowledgeOperation_ok done
  · exact consistent
  · have none : NoneNew before after := (NoneNew.deleteOperations _).trans (.same same)
    dsimp only at moved
    cases waits : (before.removeOperation id).hasPendingOperations point with
    | false =>
      rw [waits] at moved
      refine consistent.became moved (.served valid rfl rfl) ?_ fun operation member => .inr (none operation member)
      intro pending
      exact absurd ((NoneNew.same same).hasPending pending) (not_pending waits)
    | true =>
      rw [waits] at moved
      have status : (acknowledgedRow true id entry spot).status.visible = spot.status.visible := by
        simp only [acknowledgedRow, if_true, EntryUpdate.takes, EntryUpdate.noted, EntryUpdate.body, publishedRow]
        split
        · next queued =>
          rw [queued.2.1]
          rfl
        · rfl
      have input : (acknowledgedRow true id entry spot).input = spot.input := by
        simp only [acknowledgedRow, if_true, EntryUpdate.takes, EntryUpdate.noted, EntryUpdate.body, publishedRow]
        split <;> rfl
      refine consistent.moved moved ((consistent.fits point spot known).congr input status) none ?_
      intro pending
      rw [status]
      exact consistent.withdrawn point spot known pending

theorem acknowledgeVoteOperation_consistent {receipt : ChargingVoteReceipt}
    (done : before.acknowledgeVoteOperation id receipt = .ok (after, point)) : Consistent after := by
  obtain ⟨-, rfl⟩ | ⟨row, target, spot, shown, -, -, -, known, -, -, same, moved⟩ := acknowledgeVoteOperation_ok done
  · exact consistent
  · exact consistent.moved moved ((consistent.fits point spot known).congr rfl rfl)
      ((NoneNew.deleteOperations _).trans (.same same)) (consistent.withdrawn point spot known)

theorem blockOperation_consistent {kind : ChargingOperationBlockKind} (done : before.blockOperation id kind = .ok after) :
    Consistent after := by
  obtain ⟨row, draft, -, rfl⟩ := blockOperation_ok done
  exact consistent.same ⟨rfl, rfl, rfl, rfl⟩ (.updateOperation id fun _ => ⟨rfl, rfl⟩)

theorem replaceBlockedOperation_consistent
    (done : before.replaceBlockedOperation fresh id expected input = .ok (after, receipt)) : Consistent after := by
  obtain ⟨row, spot, revision, action, target, middle, -, -, known, -, chosen, moved, same, queues⟩ :=
    replaceBlockedOperation_ok done
  refine consistent.queued moved ((NoneNew.deleteOperations _).trans (.same same)) queues rfl ⟨fun _ => rfl, rfl⟩ ?_
    (consistent.withdrawn _ spot known)
  intro kind
  rcases chosen with ⟨-, -, rfl, -⟩ | ⟨-, -, rfl, -⟩
  · cases kind
  · cases kind

theorem resolveOperation_consistent {resolution : ChargingOperationResolution}
    (done : before.resolveOperation fresh id expected resolution = .ok after) : Consistent after := by
  obtain ⟨-, review, spot, conflict, under, outcome⟩ := resolveOperation_ok done
  have fits := consistent.fits _ spot under.known
  have hidden := consistent.withdrawn _ spot under.known
  cases outcome with
  | retried same =>
    rw [same]
    exact consistent.same ⟨rfl, rfl, rfl, rfl⟩ (.updateOperation id fun _ => ⟨rfl, rfl⟩)
  | rebased draft revision _ _ outbox _ _ moved =>
    have renamed : NoneNew before (before.updateOperation id fun row =>
        { row with operationId := fresh, blockedKind := none, target := none }) := .updateOperation id fun _ => ⟨rfl, rfl⟩
    have none : NoneNew before after := by
      intro operation member
      rw [outbox] at member
      exact renamed operation member
    refine consistent.moved moved ?_ none hidden
    cases draft with
    | none => exact fits.congr rfl rfl
    | some input => exact ⟨fun _ => rfl, rfl⟩
  | abandoned revision _ _ _ same moved =>
    exact consistent.moved moved (.hidden _ rfl) ((NoneNew.deleteOperations _).trans (.same same)) fun _ => rfl
  | accepted checked final pin revision _ _ _ _ _ fits outbox withdrawn _ _ moved =>
    have none : NoneNew before after := by
      intro operation member
      rw [outbox] at member
      exact NoneNew.deleteOperations _ operation member
    refine consistent.became moved (fits.congr rfl rfl) ?_ fun operation member => .inr (none operation member)
    intro pending
    show final.status.visible = false
    rw [withdrawn pending]
    rfl

theorem applyAccount_consistent {event : AccountEvent} {state : CommunityAccountState}
    (done : before.applyAccount event = .ok (after, state)) : Consistent after := by
  unfold applyAccount at done
  split at done
  · cases done
    exact ⟨consistent.fits, consistent.withdrawn, consistent.owned⟩
  · obtain ⟨_, -, done⟩ := ok_bind done
    cases done
    refine ⟨?_, ?_, ?_⟩
    · intro id row known
      simp only [Table.find_mapValues] at known
      obtain ⟨old, held, rfl⟩ := Option.map_eq_some_iff.mp known
      exact (consistent.fits id old held).congr rfl rfl
    · intro id row known pending
      obtain ⟨operation, member, -⟩ := hasPending_iff.mp pending
      exact absurd (List.mem_filter.mp member).2 (by simp)
    · intro operation member
      exact absurd (List.mem_filter.mp member).2 (by simp)
  · cases done
  · cases done
    exact consistent

end Calls

/-- A published entry reaches a spot that the store cannot show: a withdrawn one nothing is
pending for, or a hidden one whose withdrawal is pending or whose pending body is gone. -/
def Resurfaces (store : ChargingStore) (entry : ChargingDirectoryEntry) : Prop :=
  ∃ id row, store.findRemote entry.id = some id ∧ store.spots.find id = some row ∧
    row.changeSequence.value < entry.changeSequence.value ∧ entry.status = .published ∧
    (row.status = .withdrawn ∧ store.hasPendingOperations id = false ∨
      row.status ≠ .withdrawn ∧ (store.hasPending id ChargingAction.isWithdraw = true ∨
        store.hasPending id ChargingAction.carriesFields = true ∧ row.input = none))

theorem ChargingDirectoryEntry.Valid.published (valid : entry.Valid) (visible : entry.status.visible = true) :
    entry.status = .published := by
  cases same : entry.status with
  | published => rfl
  | queued => exact absurd same valid.status
  | hidden | withdrawn | removed => simp [same, ChargingStatus.visible] at visible

theorem Fits.beside {voted : SpotRow} (valid : entry.Valid) (newer : Newer before entry id row revision)
    (safe : ¬Resurfaces before entry) (shown : ¬(row.status = .withdrawn ∧ entry.status = .published))
    (revoted : Revoted ((besideUpdate before id entry).takes (before.seenEntry entry) row) voteRevision voted) :
    Fits voted ((besideUpdate before id entry).puts (before.seenEntry entry) row (before.index.entry id)) := by
  unfold besideUpdate at revoted ⊢
  split at revoted
  · next fields =>
    rw [if_pos fields]
    have published := ChargingDirectoryEntry.Valid.published valid fields.2
    refine ⟨?_, ?_⟩
    · intro visible
      rw [revoted.input]
      by_contra bodiless
      have none : row.input = none := Option.not_isSome_iff_eq_none.mp bodiless
      refine safe ⟨id, row, newer.found, newer.known, newer.changeSequence, published, .inr ⟨?_, .inr ⟨fields.1, none⟩⟩⟩
      exact fun withdrawn => shown ⟨withdrawn, published⟩
    · rw [revoted.input, revoted.status]
      rfl
  · next plain =>
    rw [if_neg plain]
    simp only [EntryUpdate.puts, seenEntry_input, seenEntry_status]
    exact .served valid (revoted.input.trans seenEntry_input) (revoted.status.trans seenEntry_status)

theorem besideUpdate_status {voted : SpotRow}
    (revoted : Revoted ((besideUpdate before id entry).takes (before.seenEntry entry) row) voteRevision voted) :
    (SpotRow.revised voted revision).status = entry.status := by
  show voted.status = entry.status
  rw [revoted.status]
  unfold besideUpdate
  split
  · exact seenEntry_status
  · exact seenEntry_status

theorem applyChangeEntry_consistent {blocked : Nat} (consistent : Consistent before) (safe : ¬Resurfaces before entry)
    (done : before.applyChangeEntry entry = .ok (after, blocked)) : Consistent after := by
  obtain ⟨valid, outcome⟩ := applyChangeEntry_ok done
  cases outcome with
  | inserted unknown same moved =>
    refine consistent.moved moved (.served valid seenEntry_input seenEntry_status) (.same same) ?_
    exact fun pending => absurd pending (consistent.idle unknown)
  | old same => exact same ▸ consistent
  | tombstone id row revision reviewed current blocked newer pending _ review same _ _ moved =>
    exact consistent.moved moved (.hidden _ rfl) ((NoneNew.reviewPendingChanges review).trans (.same same)) fun _ => rfl
  | beside id row voted revision voteRevision reviewed current blocked newer pending _ review same shown vote revoted moved =>
    have fits := Fits.beside valid newer safe shown revoted
    refine consistent.moved moved (fits.congr rfl rfl) ((NoneNew.reviewPendingChanges review).trans (.same same)) ?_
    intro withdrawal
    rw [besideUpdate_status revoted, ← Bool.not_eq_true]
    intro visible
    have published := ChargingDirectoryEntry.Valid.published valid visible
    refine safe ⟨id, row, newer.found, newer.known, newer.changeSequence, published, .inr ⟨?_, .inl withdrawal⟩⟩
    exact fun withdrawn => shown ⟨withdrawn, published⟩
  | revived id row revision newer alone _ withdrawn published moved =>
    refine absurd ?_ safe
    exact ⟨id, row, newer.found, newer.known, newer.changeSequence, published, .inl ⟨withdrawn, alone⟩⟩
  | alone id row voted revision voteRevision newer alone same shown vote revoted moved =>
    have fits := Fits.served valid (revoted.input.trans seenEntry_input) (revoted.status.trans seenEntry_status)
    refine consistent.moved moved (fits.congr rfl rfl) (.same same) ?_
    exact fun pending => absurd pending (not_pending alone)

/-- A call that, where the store takes it, brings no spot onto the map which the store cannot show. -/
def ShowsKnown (store : ChargingStore) : ChargingCall → Prop
  | .applyChangesPage entries nextCursor now =>
    store.Accepts (.applyChangesPage entries nextCursor now) → PageAvoids Resurfaces store.cursor.value store entries
  | _ => True

theorem applyChangesPage_consistent {entries : List ChargingDirectoryEntry} {nextCursor : ChargingChangeCursor} {now : Nat}
    {result : ChargingPageApplyResult} (consistent : Consistent before)
    (safe : PageAvoids Resurfaces before.cursor.value before entries)
    (done : before.applyChangesPage entries nextCursor now = .ok (after, result)) : Consistent after := by
  obtain ⟨applied, count, blocked, took, -, rfl⟩ := applyChangesPage_ok done
  have page : Consistent applied := PageAvoids.invariant (fun kept => applyChangeEntry_consistent kept) consistent safe took
  exact ⟨page.fits, page.withdrawn, page.owned⟩

theorem step_consistent (call : ChargingCall) (consistent : Consistent store) (safe : store.ShowsKnown call) :
    Consistent (store.step call).1 := by
  cases call with
  | account event => exact commit_of consistent fun _ _ done => applyAccount_consistent consistent done
  | save point fresh input => exact commit_of consistent fun _ _ done => save_consistent consistent done
  | change fresh id expected action => exact commit_of consistent fun _ _ done => change_consistent consistent done
  | nextOperation => exact commit_of consistent fun _ _ done => nextOperation_consistent consistent done
  | cacheDirectoryEntry entry => exact commit_of consistent fun _ _ done => cacheDirectoryEntry_consistent consistent done
  | acknowledgeOperation id applied entry =>
    exact commit_of consistent fun _ _ done => acknowledgeOperation_consistent consistent done
  | acknowledgeVoteOperation id receipt =>
    exact commit_of consistent fun _ _ done => acknowledgeVoteOperation_consistent consistent done
  | applyChangesPage entries nextCursor now =>
    exact commit_of consistent fun _ _ done => applyChangesPage_consistent consistent (safe (.page done)) done
  | cacheVote remoteId vote voteRevision votesUp votesDown changeSequence =>
    exact commit_of consistent fun _ _ done => cacheVote_consistent consistent done
  | blockOperation id kind => exact commit_done_of consistent fun _ done => blockOperation_consistent consistent done
  | resolveOperation fresh id expected resolution =>
    exact commit_done_of consistent fun _ done => resolveOperation_consistent consistent done
  | replaceBlockedOperation fresh id expected input =>
    exact commit_of consistent fun _ _ done => replaceBlockedOperation_consistent consistent done

theorem run_consistent (calls : List ChargingCall) (consistent : Consistent store)
    (safe : ∀ here ∈ Runs.history step store calls, here.before.ShowsKnown here.input) :
    Consistent (Runs.final step store calls) := by
  induction calls generalizing store with
  | nil => exact consistent
  | cons call calls ih =>
    have first : Consistent (store.step call).1 := step_consistent store call consistent (safe _ List.mem_cons_self)
    exact ih _ first fun here member => safe here (List.mem_cons_of_mem _ member)

structure MapAgrees (store : ChargingStore) : Prop where
  shown : ∀ id row, store.spots.find id = some row → row.status.visible = true →
    ∃ body, row.input = some body ∧ store.index.entry id = some body.coordinate
  hidden : ∀ id row, store.spots.find id = some row → row.status.visible = false → store.index.entry id = none
  withdrawn : ∀ id row, store.spots.find id = some row → store.hasPending id ChargingAction.isWithdraw = true →
    row.status.visible = false

theorem Consistent.mapAgrees {store : ChargingStore} (consistent : Consistent store) : MapAgrees store := by
  refine ⟨?_, ?_, consistent.withdrawn⟩
  · intro id row known visible
    have fits := consistent.fits id row known
    obtain ⟨body, input⟩ := Option.isSome_iff_exists.mp (fits.body visible)
    exact ⟨body, input, by rw [fits.pin, shownPin, if_pos visible, input]; rfl⟩
  · intro id row known hidden
    rw [(consistent.fits id row known).pin, shownPin, hidden]
    rfl

/-- Whatever points the map had before, after every run whose pages bring no spot onto the
map which the store cannot show, the map agrees with the spots. -/
theorem map_agrees_with_spots (points : List Uuid) (index : SpatialIndex) (calls : List ChargingCall)
    (safe : ∀ here ∈ Runs.history step { mapPoints := points, index := index } calls, here.before.ShowsKnown here.input) :
    MapAgrees (Runs.final step { mapPoints := points, index := index } calls) := by
  refine (run_consistent _ calls ⟨?_, ?_, ?_⟩ safe).mapAgrees
  · intro id row known
    cases known
  · intro id row known
    cases known
  · intro operation member
    cases member

/-- What the map says of the sample spot: its status, whether it has a body and a pin, and
whether a withdrawal is pending. -/
def sampleOnMap (store : ChargingStore) : Option (ChargingStatus × Bool × Bool × Bool) :=
  (store.spots.find samplePoint).map fun row => (row.status, row.input.isSome, (store.index.entry samplePoint).isSome,
    store.hasPending samplePoint ChargingAction.isWithdraw)

private theorem shown_spot_kept {store : ChargingStore} (id : Uuid) (found : store.findRemote entry.id = some id)
    (pending : store.hasPending id ChargingAction.isWithdraw = false)
    (shown : (store.spots.find id).map (fun row => (row.status, row.input.isSome)) = some (.published, true)) :
    ¬Resurfaces store entry := by
  rintro ⟨other, row, same, known, -, -, ⟨withdrawn, -⟩ | ⟨-, withdrawal | ⟨-, bodyless⟩⟩⟩
  all_goals
    rw [found, Option.some.injEq] at same
    subst same
  · rw [known, Option.map_some, withdrawn] at shown
    cases shown
  · rw [pending] at withdrawal
    cases withdrawal
  · rw [known, Option.map_some, bodyless] at shown
    cases congrArg (Option.map Prod.snd) shown

/-- The reviewed spot, and a page that hides it. -/
def hiddenCalls : List ChargingCall := reviewedCalls ++ [.applyChangesPage [sampleEntry .hidden four four] four 7]

theorem map_agrees_with_hidden_spot :
    let spots := Runs.final step {} (votedRun ++ hiddenCalls)
    MapAgrees spots ∧ sampleOnMap (Runs.final step {} (votedRun ++ reviewedCalls)) = some (.published, true, true, false) ∧
      sampleOnMap spots = some (.hidden, false, false, false) := by
  refine ⟨map_agrees_with_spots [] {} _ ?_, by decide, by decide⟩
  intro here member
  simp only [votedRun, publishedRun, hiddenCalls, reviewedCalls, List.cons_append, List.nil_append, Runs.history,
    List.mem_cons, List.not_mem_nil, or_false] at member
  rcases member with rfl | rfl | rfl | rfl | rfl | rfl | rfl | rfl | rfl | rfl | rfl
  · trivial
  · trivial
  · trivial
  · trivial
  · trivial
  · trivial
  · exact fun _ => ⟨shown_spot_kept samplePoint rfl rfl rfl, fun _ _ _ => trivial⟩
  · trivial
  · exact fun _ => ⟨shown_spot_kept samplePoint rfl rfl rfl, fun _ _ _ => trivial⟩
  · trivial
  · refine fun _ => ⟨?_, fun _ _ _ => trivial⟩
    rintro ⟨id, row, -, -, -, published, -⟩
    cases published

/-- A withdrawn spot counts as published again without body and pin; a hidden spot with an
edit pending is published without them; one with a withdrawal pending is back on the map. -/
theorem published_pages_resurface :
    let revived : List ChargingCall := [.change 102 samplePoint .initial .withdraw, .nextOperation,
      .acknowledgeOperation 102 two (sampleEntry .withdrawn two two),
      .applyChangesPage [sampleEntry .published three three] three 5]
    let pages : List ChargingCall := [.applyChangesPage [sampleEntry .hidden two two] two 5,
      .applyChangesPage [sampleEntry .published three three] three 5]
    sampleOnMap (Runs.final step {} (publishedRun ++ revived)) = some (.published, false, false, false) ∧
    sampleOnMap (Runs.final step {} (publishedRun ++ [.change 102 samplePoint .initial (.edit sampleSpot)] ++ pages)) =
      some (.published, false, false, false) ∧
    sampleOnMap (Runs.final step {} (publishedRun ++ [.change 102 samplePoint .initial .withdraw] ++ pages)) =
      some (.published, true, true, true) := by
  decide

end ChargingStore

end Cutout.Charging

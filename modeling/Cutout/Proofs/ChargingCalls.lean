import Cutout.Proofs.ChargingRows

/-! What a successful call of the charging store has done: the row and the pin it leaves
at its point, and how it changed the outbox. -/

namespace Cutout.Charging
open Library

namespace ChargingStore
variable {before middle after : ChargingStore} {fresh id point : Uuid} {entry : ChargingDirectoryEntry}
variable {current : StoredChargingSpot} {checked : ValidatedDirectoryEntry} {pin : Option Coordinate}
variable {row spot : SpotRow} {receipt : ChargingWriteReceipt} {expected : ChargingRevision} {action : ChargingAction}
variable {entries : List ChargingDirectoryEntry} {review : Reviewed} {blocked : Nat} {status : ChargingStatus}
variable {conflict : ConflictRow} {remoteId : Uuid}
variable {nextCursor : ChargingChangeCursor} {result : ChargingPageApplyResult}
variable {voteRevision revision applied : ChargingRevision} {input : NewChargingSpot} {target : ChargingTarget}

theorem detail_some (found : before.detail id = some current) :
    ∃ row, before.spots.find id = some row ∧ current = { row with
      pointId := id
      pendingOperations := (before.operationsOf id).length
      pendingVote := before.hasPending id ChargingAction.isVote } := by
  obtain ⟨row, held, same⟩ := Option.map_eq_some_iff.mp found
  exact ⟨row, held, same.symm⟩

theorem ensureActive_ok {done : Unit} (active : before.ensureActive = .ok done) : before.account = .active :=
  ensure_ok active

structure Queues (row : OutboxRow) (before after : ChargingStore) (receipt : ChargingWriteReceipt) : Prop where
  outbox : after.outbox = insertOperation row before.outbox
  lastSequence : after.lastSequence = max before.lastSequence row.sequence
  conflicts : after.conflicts = before.conflicts
  spots : after.spots = before.spots
  index : after.index = before.index
  account : after.account = before.account
  cursor : after.cursor = before.cursor
  active : before.account = .active
  unknown : before.findOperation row.operationId = none
  receipt : receipt = ⟨row.pointId, row.localRevision, row.operationId⟩

theorem insertRow_ok {row : OutboxRow} (done : before.insertRow row = .ok (after, receipt)) :
    Queues row before after receipt := by
  unfold insertRow at done
  obtain ⟨_, active, done⟩ := ok_bind done
  obtain ⟨_, -, done⟩ := ok_bind done
  obtain ⟨_, unknown, done⟩ := ok_bind done
  cases done
  exact ⟨rfl, rfl, rfl, rfl, rfl, rfl, rfl, ensureActive_ok active, ensure_ok unknown, rfl⟩

def savedRow (input : NewChargingSpot) : SpotRow :=
  { input := some input, owned := true, status := .queued, localRevision := .initial }

theorem save_ok (done : before.save point fresh input = .ok (after, receipt)) : before.spots.find point = none ∧
    ∃ middle, Became point (savedRow input) (some input.coordinate) before middle ∧ SameQueue before middle ∧
      Queues { sequence := before.lastSequence + 1, operationId := fresh, pointId := point, action := .create input,
               localRevision := .initial } middle after receipt := by
  unfold save at done
  obtain ⟨indexed, placed, done⟩ := ok_bind done
  obtain ⟨_, unknown, done⟩ := ok_bind done
  obtain ⟨spots, entries, account, cursor, same⟩ := updateSpatialIndex_ok placed
  have unknown := ensure_ok unknown
  rw [spots] at unknown
  have queues := insertRow_ok done
  refine ⟨unknown, { indexed with spots := indexed.spots.put point (savedRow input) }, ?_, ?_, ?_⟩
  · refine ⟨by simp, ?_, ?_, ?_, account, cursor⟩
    · exact (entries point).trans (if_pos rfl)
    · intro other apart
      simp [apart, spots]
    · intro other apart
      exact (entries other).trans (if_neg apart)
  · exact ⟨same.outbox, same.lastSequence, same.conflicts⟩
  · rw [← same.lastSequence]
    exact queues

def changedRow (action : ChargingAction) (revision : ChargingRevision) (row : SpotRow) : SpotRow :=
  let applied := match action with
    | .edit input => { row with input := some input, verifiedAtMs := none }
    | .withdraw => { row with status := .withdrawn, input := none, verifiedAtMs := none }
    | .vote vote => { row with vote := vote }
    | .create _ | .verify => row
  { applied with localRevision := revision }

def changedPin (action : ChargingAction) (row : SpotRow) (pin : Option Coordinate) : Option Coordinate :=
  match action with
  | .edit input => shownPin (some input) row.status
  | .withdraw => none
  | .vote _ | .create _ | .verify => pin

private theorem applyChange_ok (known : before.spots.find id = some row) (same : current.toSpotRow = row)
    (placed : current.pointId = id) (done : before.applyChange current action = .ok middle) :
    Became id (changedRow action revision row) (changedPin action row (before.index.entry id)) before
      (middle.updateLocalRevision id revision) ∧ SameQueue before (middle.updateLocalRevision id revision) := by
  subst placed
  subst same
  have revise {spot : SpotRow} {pin : Option Coordinate} (became : Became current.pointId spot pin before middle) :
      Became current.pointId { spot with localRevision := revision } pin before
        (middle.updateLocalRevision current.pointId revision) := by
    have updated := Became.updateSpot became.spot fun row => { row with localRevision := revision }
    rw [became.pinned] at updated
    exact became.trans updated
  unfold applyChange at done
  cases action with
  | edit input =>
    obtain ⟨indexed, placed, done⟩ := ok_bind done
    cases done
    obtain ⟨moved, same⟩ := Became.updateSpatialIndex known placed
    have updated := Became.updateSpot moved.spot fun row => { row with input := some input, verifiedAtMs := none }
    rw [moved.pinned] at updated
    exact ⟨revise (moved.trans updated), same.outbox, same.lastSequence, same.conflicts⟩
  | withdraw =>
    cases done
    have removed := Became.removeSpatialIndex known
    have updated := Became.updateSpot removed.spot fun row =>
      { row with status := .withdrawn, input := none, verifiedAtMs := none }
    rw [removed.pinned] at updated
    exact ⟨revise (removed.trans updated), rfl, rfl, rfl⟩
  | vote vote =>
    cases done
    exact ⟨revise (.updateSpot known fun row => { row with vote := vote }), rfl, rfl, rfl⟩
  | create | verify =>
    cases done
    exact ⟨revise (.refl known), rfl, rfl, rfl⟩

/-- A change is made to a shown spot, or to a hidden one of its owner. -/
structure Admitted (row : SpotRow) (action : ChargingAction) (revision : ChargingRevision) : Prop where
  status : row.status.visible = true ∨ row.status = .hidden ∧ (action = .withdraw ∨ ∃ input, action = .edit input)
  next : revision.value = row.localRevision.value + 1
  notCreate : action.isCreate = false

private theorem checkedChange_ok (done : checkedChange current expected action = .ok revision) :
    Admitted current.toSpotRow action revision := by
  unfold checkedChange at done
  obtain ⟨_, equal, done⟩ := ok_bind done
  obtain ⟨_, admitted, done⟩ := ok_bind done
  obtain ⟨following, next, done⟩ := ok_bind done
  obtain ⟨_, notCreate, done⟩ := ok_bind done
  obtain ⟨_, -, done⟩ := ok_bind done
  cases done
  have equal := ensure_ok equal
  subst equal
  refine ⟨?_, ChargingRevision.next_ok next, ensure_ok notCreate⟩
  have admitted := ensure_ok admitted
  unfold admitsChange at admitted
  rw [Bool.or_eq_true] at admitted
  rcases admitted with visible | owner
  · exact .inl visible
  · simp only [Bool.and_eq_true, decide_eq_true_eq] at owner
    obtain ⟨⟨-, hidden⟩, kind⟩ := owner
    refine .inr ⟨hidden, ?_⟩
    cases action with
    | edit input => exact .inr ⟨input, rfl⟩
    | withdraw => exact .inl rfl
    | create | verify | vote => cases kind

theorem change_ok (done : before.change fresh id expected action = .ok (after, receipt)) :
    ∃ row revision middle, before.spots.find id = some row ∧ Admitted row action revision ∧
      Became id (changedRow action revision row) (changedPin action row (before.index.entry id)) before middle ∧
      SameQueue before middle ∧
      Queues { sequence := before.lastSequence + 1, operationId := fresh, pointId := id, action,
               localRevision := revision } middle after receipt := by
  unfold change at done
  obtain ⟨current, found, done⟩ := ok_bind done
  obtain ⟨revision, checked, done⟩ := ok_bind done
  obtain ⟨applied, moved, wrote⟩ := ok_bind done
  obtain ⟨row, known, rfl⟩ := detail_some (orError_ok found)
  obtain ⟨became, same⟩ := applyChange_ok known rfl rfl moved
  have queues := insertRow_ok wrote
  refine ⟨row, revision, _, known, checkedChange_ok checked, became, same, ?_⟩
  rw [← same.lastSequence]
  exact queues

structure SameSpots (before after : ChargingStore) : Prop where
  spots : after.spots = before.spots
  index : after.index = before.index
  account : after.account = before.account
  cursor : after.cursor = before.cursor

namespace SameSpots

theorem refl (store : ChargingStore) : SameSpots store store := ⟨rfl, rfl, rfl, rfl⟩

theorem trans (first : SameSpots before middle) (second : SameSpots middle after) : SameSpots before after :=
  ⟨second.spots.trans first.spots, second.index.trans first.index, second.account.trans first.account,
    second.cursor.trans first.cursor⟩

theorem became (same : SameSpots before middle) (became : Became id spot pin middle after) :
    Became id spot pin before after where
  spot := became.spot
  pinned := became.pinned
  spots other apart := by rw [became.spots other apart, same.spots]
  pins other apart := by rw [became.pins other apart, same.index]
  account := became.account.trans same.account
  cursor := became.cursor.trans same.cursor

end SameSpots

theorem Became.followed (became : Became id spot pin before middle) (same : SameSpots middle after) :
    Became id spot pin before after where
  spot := by rw [same.spots, became.spot]
  pinned := by rw [same.index, became.pinned]
  spots other apart := by rw [same.spots, became.spots other apart]
  pins other apart := by rw [same.index, became.pins other apart]
  account := same.account.trans became.account
  cursor := same.cursor.trans became.cursor

theorem Queues.became {row : OutboxRow} (queues : Queues row middle after receipt)
    (became : Became id spot pin before middle) : Became id spot pin before after := by
  exact became.followed ⟨queues.spots, queues.index, queues.account, queues.cursor⟩

/-- A frozen target stays; else it names the server's spot and the revision known of it. -/
theorem freezeTarget_ok {operationId : Uuid} {saved : Option ChargingTarget}
    (done : before.freezeTarget operationId action saved current = .ok (after, target)) :
    (saved = some target ∧ after = before) ∨
      saved = none ∧ after = (before.updateOperation operationId fun row => { row with target := some target }) ∧
        (action.isCreate = true ∨ current.remoteId.isSome = true) := by
  unfold freezeTarget at done
  cases saved with
  | some saved =>
    cases done
    exact .inl ⟨rfl, rfl⟩
  | none =>
    obtain ⟨frozen, chosen, done⟩ := ok_bind done
    cases done
    refine .inr ⟨rfl, rfl, ?_⟩
    unfold chooseTarget at chosen
    cases action with
    | create input => exact .inl rfl
    | _ =>
      obtain ⟨remoteId, known, -⟩ := ok_bind chosen
      exact .inr (by rw [orError_ok known]; rfl)

theorem nextOperation_ok {operation : Option ChargingOperation}
    (done : before.nextOperation = .ok (after, operation)) : before.account = .active ∧
    ((before.pendingOperation = none ∧ operation = none ∧ after = before) ∨
      ∃ row target, before.pendingOperation = some row ∧
        operation = some ⟨row.operationId, row.pointId, row.localRevision, target, row.action⟩ ∧
        ((row.target = some target ∧ after = before) ∨ row.target = none ∧
          after = (before.updateOperation row.operationId fun row => { row with target := some target }))) := by
  unfold nextOperation at done
  obtain ⟨_, active, done⟩ := ok_bind done
  refine ⟨ensureActive_ok active, ?_⟩
  split at done
  · next none =>
    cases done
    exact .inl ⟨none, rfl, rfl⟩
  · next row pending =>
    obtain ⟨current, -, done⟩ := ok_bind done
    obtain ⟨⟨frozen, target⟩, froze, done⟩ := ok_bind done
    cases done
    refine .inr ⟨row, target, pending, rfl, ?_⟩
    rcases freezeTarget_ok froze with saved | ⟨unset, same, -⟩
    · exact .inl saved
    · exact .inr ⟨unset, same⟩

theorem seenEntry_active (active : before.account = .active) : before.seenEntry entry = entry := if_pos active

@[simp] theorem seenEntry_input : (before.seenEntry entry).input = entry.input := by
  unfold seenEntry
  split <;> rfl

@[simp] theorem seenEntry_status : (before.seenEntry entry).status = entry.status := by
  unfold seenEntry
  split <;> rfl

@[simp] theorem seenEntry_id : (before.seenEntry entry).id = entry.id := by
  unfold seenEntry
  split <;> rfl

def directoryRow (entry : ChargingDirectoryEntry) : SpotRow :=
  { input := none, owned := false, status := entry.status, localRevision := .initial }

theorem insertDirectory_ok (done : before.insertDirectory id checked = .ok after) :
    before.spots.find id = none ∧ Became id (directoryRow checked.entry) (before.index.entry id) before after ∧
      SameQueue before after := by
  unfold insertDirectory at done
  obtain ⟨_, -, done⟩ := ok_bind done
  obtain ⟨_, unknown, done⟩ := ok_bind done
  cases done
  refine ⟨ensure_ok unknown, ⟨?_, rfl, ?_, fun _ _ => rfl, rfl, rfl⟩, rfl, rfl, rfl⟩
  · simp [directoryRow]
  · intro other apart
    simp [apart]

def SpotRow.revised (row : SpotRow) (revision : ChargingRevision) : SpotRow := { row with localRevision := revision }

theorem Became.revise (became : Became id spot pin before middle) (revision : ChargingRevision) :
    Became id (SpotRow.revised spot revision) pin before (middle.updateLocalRevision id revision) := by
  have updated := Became.updateSpot became.spot fun row => SpotRow.revised row revision
  rw [became.pinned] at updated
  exact became.trans updated

theorem replaceCached_ok {existing : Option Uuid} (known : before.spots.find id = some row)
    (done : before.replaceCached id existing checked = .ok (after, point)) :
    ∃ revision, row.localRevision.value ≤ revision.value ∧ point = id ∧
      Became id (SpotRow.revised (EntryUpdate.replaceBody.takes (before.seenEntry checked.entry) row) revision)
        (shownPin checked.entry.input checked.entry.status) before after ∧ SameQueue before after := by
  unfold replaceCached at done
  obtain ⟨applied, took, done⟩ := ok_bind done
  obtain ⟨became, same⟩ := Became.applyEntry known took
  simp only [EntryUpdate.puts, seenEntry_input, seenEntry_status] at became
  split at done
  · obtain ⟨current, found, done⟩ := ok_bind done
    obtain ⟨revision, next, done⟩ := ok_bind done
    cases done
    obtain ⟨held, stored, rfl⟩ := detail_some (orError_ok found)
    cases became.spot.symm.trans stored
    refine ⟨revision, ?_, rfl, became.revise revision, same.outbox, same.lastSequence, same.conflicts⟩
    have following : revision.value = row.localRevision.value + 1 := ChargingRevision.next_ok next
    omega
  · cases done
    exact ⟨row.localRevision, Nat.le_refl _, rfl, became, same⟩

theorem cacheDirectoryEntry_ok (done : before.cacheDirectoryEntry entry = .ok (after, point)) :
    entry.Valid ∧ (after = before ∨
      (∃ row revision, before.spots.find point = some row ∧ row.remoteId = some entry.id ∧
        before.hasPendingOperations point = false ∧ row.changeSequence.value ≤ entry.changeSequence.value ∧
        row.remoteRevision.value ≤ entry.revision.value ∧ row.voteRevision.value ≤ entry.voteRevision.value ∧
        row.localRevision.value ≤ revision.value ∧
        Became point (SpotRow.revised (EntryUpdate.replaceBody.takes (before.seenEntry entry) row) revision)
          (shownPin entry.input entry.status) before after ∧ SameQueue before after) ∨
      ∃ revision, before.spots.find point = none ∧
        Became point
          (SpotRow.revised (EntryUpdate.replaceBody.takes (before.seenEntry entry) (directoryRow entry)) revision)
          (shownPin entry.input entry.status) before after ∧ SameQueue before after) := by
  unfold cacheDirectoryEntry at done
  obtain ⟨checked, validated, done⟩ := ok_bind done
  have equal := ValidatedDirectoryEntry.new_ok validated
  subst equal
  refine ⟨checked.valid, ?_⟩
  dsimp only at done
  generalize before.findRemote checked.entry.id = existing at done
  generalize existing.getD checked.entry.id = id at done
  split at done
  · next current found =>
    obtain ⟨unchanged, guards, wrote⟩ := ok_bind done
    obtain ⟨row, known, rfl⟩ := detail_some found
    unfold cacheIsUnchanged at guards
    obtain ⟨_, guards, -⟩ := ok_bind guards
    obtain ⟨remote, idle, sequence, revision, votes⟩ := ensure_ok guards
    split at wrote
    · cases wrote
      exact .inl rfl
    · obtain ⟨following, counted, rfl, became, same⟩ := replaceCached_ok known wrote
      exact .inr (.inl ⟨row, following, known, remote, idle, sequence, revision, votes, counted, became, same⟩)
  · obtain ⟨_, -, done⟩ := ok_bind done
    obtain ⟨inserted, created, done⟩ := ok_bind done
    obtain ⟨unknown, began, still⟩ := insertDirectory_ok created
    obtain ⟨revision, -, rfl, became, same⟩ := replaceCached_ok began.spot done
    have account : inserted.seenEntry checked.entry = before.seenEntry checked.entry := by
      unfold seenEntry
      rw [began.account]
    rw [account] at became
    exact .inr (.inr ⟨revision, unknown, began.trans became, still.trans same⟩)

theorem cacheVote_ok {vote : Option ChargingVote} {votesUp votesDown : Nat} {changeSequence : ChargingChangeCursor}
    (done : before.cacheVote remoteId vote voteRevision votesUp votesDown changeSequence = .ok (after, point)) :
    before.account = .active ∧ ∃ row revision shown, before.spots.find point = some row ∧
      revision.value = row.localRevision.value + 1 ∧ row.changeSequence.value ≤ changeSequence.value ∧
      row.voteRevision.value ≤ voteRevision.value ∧
      Became point { row with vote := shown, voteRevision, votesUp, votesDown, changeSequence, localRevision := revision }
        (before.index.entry point) before after ∧ SameQueue before after := by
  unfold cacheVote at done
  obtain ⟨_, -, done⟩ := ok_bind done
  obtain ⟨id, -, done⟩ := ok_bind done
  obtain ⟨_, active, done⟩ := ok_bind done
  obtain ⟨current, found, done⟩ := ok_bind done
  obtain ⟨_, guards, done⟩ := ok_bind done
  obtain ⟨revision, next, wrote⟩ := ok_bind done
  obtain ⟨row, known, rfl⟩ := detail_some (orError_ok found)
  cases wrote
  obtain ⟨sequence, votes⟩ := ensure_ok guards
  refine ⟨ensureActive_ok active, row, revision,
    if before.hasPending point ChargingAction.isVote then row.vote else vote, known, ChargingRevision.next_ok next,
    sequence, votes, ?_, rfl, rfl, rfl⟩
  have voted := Became.updateSpot known fun row => { row with
    vote := if before.hasPending point ChargingAction.isVote then row.vote else vote
    voteRevision := voteRevision
    votesUp := votesUp
    votesDown := votesDown
    changeSequence := changeSequence }
  exact voted.revise revision

theorem removeOperation_sameSpots : SameSpots before (before.removeOperation id) := ⟨rfl, rfl, rfl, rfl⟩

/-- A receipt fits its operation: it names the operation's spot and goes no revision back. -/
structure Receipted (row : SpotRow) (action : ChargingAction) (target : ChargingTarget)
    (entry : ChargingDirectoryEntry) : Prop where
  remote : (target = .create ∧ action.isCreate = true ∧ row.remoteId = none) ∨ row.remoteId = some entry.id
  revision : row.remoteRevision.value ≤ entry.revision.value
  changeSequence : row.changeSequence.value ≤ entry.changeSequence.value
  voteRevision : row.voteRevision.value ≤ entry.voteRevision.value

theorem validateAcknowledgment_ok {done : Unit}
    (valid : validateAcknowledgment current action target applied entry = .ok done) :
    Receipted current.toSpotRow action target entry := by
  unfold validateAcknowledgment at valid
  obtain ⟨expected, known, valid⟩ := ok_bind valid
  obtain ⟨following, -, valid⟩ := ok_bind valid
  obtain ⟨-, revision, changeSequence, -, voteRevision, -⟩ := ensure_ok valid
  refine ⟨?_, revision, changeSequence, voteRevision⟩
  unfold expectedRevision at known
  cases target with
  | create =>
    obtain ⟨_, guards, -⟩ := ok_bind known
    obtain ⟨create, unknown⟩ := ensure_ok guards
    exact .inl ⟨rfl, create, unknown⟩
  | existing remoteId expected =>
    obtain ⟨_, guards, -⟩ := ok_bind known
    obtain ⟨rfl, same⟩ := ensure_ok guards
    exact .inr same

/-- A spot still queued counts as published although other operations wait. -/
def publishedRow (pending : Bool) (entry : ChargingDirectoryEntry) (row : SpotRow) : SpotRow :=
  if pending = true ∧ row.status = .queued ∧ entry.status = .published then { row with status := .published } else row

theorem preservePendingPublication_ok (store : ChargingStore) (entry : ChargingDirectoryEntry) (pending : Bool)
    (known : store.spots.find point = some spot) (same : current.toSpotRow = spot) (placed : current.pointId = point) :
    Became point (publishedRow pending entry spot) (store.index.entry point) store
      (store.preservePendingPublication current entry pending) ∧
    SameQueue store (store.preservePendingPublication current entry pending) := by
  subst same
  subst placed
  unfold preservePendingPublication publishedRow
  split
  · exact ⟨.updateSpot known fun row => { row with status := .published }, rfl, rfl, rfl⟩
  · exact ⟨.refl known, .refl _⟩

def acknowledgedRow (pending : Bool) (id : Uuid) (entry : ChargingDirectoryEntry) (row : SpotRow) : SpotRow :=
  { (if pending then EntryUpdate.preserveLocal.takes entry (publishedRow pending entry row)
      else EntryUpdate.replaceBody.takes entry row) with lastAck := some id }

/-- The operation a receipt is for: first of its point, not blocked and sent before. -/
structure Sent (store : ChargingStore) (id : Uuid) (row : OutboxRow) (target : ChargingTarget) : Prop where
  pending : store.pendingOperationById id = some row
  target : row.target = some target
  active : store.account = .active

theorem replayedAcknowledgment_ok (done : before.replayedAcknowledgment id remoteId = .ok (after, point)) :
    after = before := by
  unfold replayedAcknowledgment at done
  obtain ⟨_, -, done⟩ := ok_bind done
  cases done
  rfl

theorem acknowledgeOperation_ok (done : before.acknowledgeOperation id applied entry = .ok (after, point)) :
    entry.Valid ∧ ((before.pendingOperationById id = none ∧ after = before) ∨
      ∃ row target spot, Sent before id row target ∧ row.pointId = point ∧ before.spots.find point = some spot ∧
        Receipted spot row.action target entry ∧ SameQueue (before.removeOperation id) after ∧
        let pending := (before.removeOperation id).hasPendingOperations point
        Became point (acknowledgedRow pending id entry spot)
          (if pending then before.index.entry point else shownPin entry.input entry.status) before after) := by
  unfold acknowledgeOperation at done
  obtain ⟨checked, validated, done⟩ := ok_bind done
  have equal := ValidatedDirectoryEntry.new_ok validated
  subst equal
  refine ⟨checked.valid, ?_⟩
  obtain ⟨_, active, done⟩ := ok_bind done
  split at done
  · next unknown => exact .inl ⟨unknown, replayedAcknowledgment_ok done⟩
  · next row pending =>
    obtain ⟨current, found, done⟩ := ok_bind done
    obtain ⟨target, sent, done⟩ := ok_bind done
    obtain ⟨_, valid, done⟩ := ok_bind done
    obtain ⟨taken, took, wrote⟩ := ok_bind done
    obtain ⟨spot, known, detailed⟩ := detail_some (orError_ok found)
    have equal : current.toSpotRow = spot := by rw [detailed]
    have placed : current.pointId = row.pointId := by rw [detailed]
    cases wrote
    refine .inr ⟨row, target, spot, ⟨pending, orError_ok sent, ensureActive_ok active⟩, rfl, known,
      equal ▸ validateAcknowledgment_ok valid, ?_⟩
    generalize (before.removeOperation id).hasPendingOperations row.pointId = waiting at took ⊢
    obtain ⟨begun, still⟩ := preservePendingPublication_ok (before.removeOperation id) checked.entry waiting known equal placed
    obtain ⟨became, same⟩ := Became.applyEntry begun.spot took
    rw [seenEntry_active (begun.account.trans (ensureActive_ok active)), begun.pinned] at became
    have remembered := Became.updateSpot became.spot fun row => { row with lastAck := some id }
    rw [became.pinned] at remembered
    have whole := removeOperation_sameSpots.became ((begun.trans became).trans remembered)
    refine ⟨(still.trans same).trans ⟨rfl, rfl, rfl⟩, ?_⟩
    cases waiting with
    | true | false => exact whole

theorem acknowledgeVoteOperation_ok {receipt : ChargingVoteReceipt}
    (done : before.acknowledgeVoteOperation id receipt = .ok (after, point)) :
    (before.pendingOperationById id = none ∧ after = before) ∨
      ∃ row target spot shown, Sent before id row target ∧ row.pointId = point ∧ row.action.isVote = true ∧
        before.spots.find point = some spot ∧ spot.remoteId.isSome = true ∧
        spot.voteRevision.value ≤ receipt.voteRevision.value ∧ SameQueue (before.removeOperation id) after ∧
        Became point { spot with
            vote := shown
            voteRevision := receipt.voteRevision
            votesUp := receipt.votesUp
            votesDown := receipt.votesDown
            lastAck := some id } (before.index.entry point) before after := by
  unfold acknowledgeVoteOperation at done
  obtain ⟨_, -, done⟩ := ok_bind done
  obtain ⟨_, active, done⟩ := ok_bind done
  split at done
  · next unknown =>
    obtain ⟨_, -, done⟩ := ok_bind done
    obtain ⟨_, -, done⟩ := ok_bind done
    exact .inl ⟨unknown, replayedAcknowledgment_ok done⟩
  · next row pending =>
    obtain ⟨current, found, done⟩ := ok_bind done
    obtain ⟨_, isVote, done⟩ := ok_bind done
    obtain ⟨target, sent, done⟩ := ok_bind done
    obtain ⟨remoteId, remote, done⟩ := ok_bind done
    obtain ⟨_, valid, done⟩ := ok_bind done
    obtain ⟨_, -, wrote⟩ := ok_bind done
    obtain ⟨spot, known, detailed⟩ := detail_some (orError_ok found)
    have equal : current.toSpotRow = spot := by rw [detailed]
    cases wrote
    have receipted := validateAcknowledgment_ok valid
    have remote := orError_ok remote
    rw [equal] at receipted remote
    refine .inr ⟨row, target, spot,
      if (before.removeOperation id).hasPending row.pointId ChargingAction.isVote then spot.vote else receipt.vote,
      ⟨pending, orError_ok sent, ensureActive_ok active⟩, rfl, ensure_ok isVote, known, by rw [remote]; rfl,
      receipted.voteRevision, ⟨rfl, rfl, rfl⟩, ?_⟩
    have held : (before.removeOperation id).spots.find row.pointId = some spot := known
    have voted := Became.updateSpot held fun spot => { spot with
      vote := if (before.removeOperation id).hasPending row.pointId ChargingAction.isVote then spot.vote else receipt.vote
      voteRevision := receipt.voteRevision
      votesUp := receipt.votesUp
      votesDown := receipt.votesDown }
    have remembered := Became.updateSpot voted.spot fun spot => { spot with lastAck := some id }
    rw [voted.pinned] at remembered
    exact removeOperation_sameSpots.became (voted.trans remembered)

theorem blockOperation_ok {kind : ChargingOperationBlockKind} (done : before.blockOperation id kind = .ok after) :
    ∃ row draft, (before.outbox.find? fun row => decide (row.operationId = id) && row.target.isSome) = some row ∧
      after = (before.updateOperation id fun row => { row with blockedKind := some kind }).keepConflict id draft none := by
  unfold blockOperation at done
  obtain ⟨row, held, done⟩ := ok_bind done
  obtain ⟨current, -, done⟩ := ok_bind done
  cases done
  exact ⟨row, _, orError_ok held, rfl⟩

/-- A review of the pending rows freezes targets and does nothing else. -/
theorem reviewRows_keeps {kept : ChargingStore → Prop} {conflict : Option Uuid} {rows : List OutboxRow}
    (freezes : ∀ {store : ChargingStore} (operationId : Uuid) (target : ChargingTarget), kept store →
      kept (store.updateOperation operationId fun row => { row with target := some target }))
    (initial : kept before) (done : reviewRows current entry before rows = .ok (after, conflict)) : kept after := by
  induction rows generalizing before conflict with
  | nil =>
    cases done
    exact initial
  | cons row rows ih =>
    unfold reviewRows at done
    split at done
    · obtain ⟨⟨frozen, target⟩, froze, done⟩ := ok_bind done
      obtain ⟨⟨reviewed, later⟩, rest, done⟩ := ok_bind done
      cases done
      refine ih ?_ rest
      rcases freezeTarget_ok froze with ⟨-, rfl⟩ | ⟨-, rfl, -⟩
      · exact initial
      · exact freezes _ _ initial
    · exact ih initial done

theorem reviewRows_sameSpots {conflict : Option Uuid} {rows : List OutboxRow}
    (done : reviewRows current entry before rows = .ok (after, conflict)) : SameSpots before after :=
  reviewRows_keeps (fun _ _ same => same.trans ⟨rfl, rfl, rfl, rfl⟩) (.refl before) done

private theorem storeConflict_ok {operationId : Uuid} (done : before.storeConflict operationId current entry = .ok after) :
    ∃ draft, after = (before.updateOperation operationId fun row =>
      { row with blockedKind := row.blockedKind.or (some .conflict) }).keepConflict operationId draft (some entry) := by
  unfold storeConflict at done
  obtain ⟨row, -, done⟩ := ok_bind done
  cases done
  exact ⟨_, rfl⟩

theorem reviewPendingChanges_ok (done : before.reviewPendingChanges id current entry = .ok (after, blocked)) :
    ∃ reviewed conflict, reviewRows current entry before (before.operationsOf id) = .ok (reviewed, conflict) ∧
      (conflict = none ∧ after = reviewed ∨ ∃ operationId draft, conflict = some operationId ∧
        (reviewed.findOperation operationId).isSome = true ∧
        after = (reviewed.updateOperation operationId fun row =>
          { row with blockedKind := row.blockedKind.or (some .conflict) }).keepConflict operationId draft (some entry)) := by
  unfold reviewPendingChanges at done
  obtain ⟨⟨reviewed, conflict⟩, review, done⟩ := ok_bind done
  refine ⟨reviewed, conflict, review, ?_⟩
  cases conflict with
  | none =>
    cases done
    exact .inl ⟨rfl, rfl⟩
  | some operationId =>
    obtain ⟨row, found, done⟩ := ok_bind done
    obtain ⟨kept, stored, done⟩ := ok_bind done
    cases done
    obtain ⟨draft, same⟩ := storeConflict_ok stored
    exact .inr ⟨operationId, draft, rfl, by rw [orError_ok found]; rfl, same⟩

theorem reviewPendingChanges_sameSpots (done : before.reviewPendingChanges id current entry = .ok (after, blocked)) :
    SameSpots before after := by
  obtain ⟨reviewed, conflict, review, ⟨-, rfl⟩ | ⟨operationId, draft, -, -, rfl⟩⟩ := reviewPendingChanges_ok done
  · exact reviewRows_sameSpots review
  · exact (reviewRows_sameSpots review).trans ⟨rfl, rfl, rfl, rfl⟩

/-- The row a tombstone keeps: what the server says of it, and no body. -/
def metadataRow (entry : ChargingDirectoryEntry) (pendingVote : Bool) (row : SpotRow) : SpotRow :=
  { row with
    status := entry.status
    remoteId := some entry.id
    remoteRevision := entry.revision
    changeSequence := entry.changeSequence
    verifiedAtMs := entry.verifiedAtMs
    vote := if pendingVote then row.vote else entry.vote
    voteRevision := entry.voteRevision
    votesUp := entry.votesUp
    votesDown := entry.votesDown }

theorem updateRemoteMetadata_ok {pendingVote : Bool} (known : before.spots.find id = some row)
    (done : before.updateRemoteMetadata id entry pendingVote = .ok after) :
    Became id (metadataRow entry pendingVote row) (before.index.entry id) before after ∧ SameQueue before after := by
  unfold updateRemoteMetadata at done
  obtain ⟨_, -, done⟩ := ok_bind done
  cases done
  exact ⟨.updateSpot known (metadataRow entry pendingVote), rfl, rfl, rfl⟩

structure Revoted (row : SpotRow) (voteRevision : ChargingRevision) (voted : SpotRow) : Prop where
  input : voted.input = row.input
  status : voted.status = row.status
  localRevision : voted.localRevision = row.localRevision
  remoteId : voted.remoteId = row.remoteId
  remoteRevision : voted.remoteRevision = row.remoteRevision
  changeSequence : voted.changeSequence = row.changeSequence
  voteRevision : voted.voteRevision = voteRevision
  lastAck : voted.lastAck = row.lastAck

/-- The vote a page leaves: the stored one, unless the entry says more of it. -/
def PageVote (before : ChargingStore) (entry : ChargingDirectoryEntry) (row : SpotRow) (voteRevision : ChargingRevision) :
    Prop :=
  voteRevision = row.voteRevision ∨
    entry.voteRevision ≠ .zero ∧ voteRevision = (before.seenEntry entry).voteRevision

theorem Became.restoreVote (equal : current.toSpotRow = row) (became : Became id spot pin before middle)
    (includeRevision : Bool) :
    ∃ voted, Revoted spot (if includeRevision then row.voteRevision else spot.voteRevision) voted ∧
      Became id voted pin before (middle.restoreVote id current includeRevision) ∧
      SameQueue middle (middle.restoreVote id current includeRevision) := by
  subst equal
  have restored := Became.updateSpot became.spot fun row => { row with
    vote := current.vote
    voteRevision := if includeRevision then current.voteRevision else row.voteRevision }
  rw [became.pinned] at restored
  refine ⟨_, ?_, became.trans restored, rfl, rfl, rfl⟩
  exact ⟨rfl, rfl, rfl, rfl, rfl, rfl, rfl, rfl⟩

/-- An entry beside pending operations: a withdrawn spot stays one, another takes what it may. -/
theorem applyBesidePending_ok {fields : Bool} (known : before.spots.find id = some row)
    (equal : current.toSpotRow = row) (done : before.applyBesidePending id current checked fields = .ok after) :
    SameQueue before after ∧
    ((row.status = .withdrawn ∧ checked.entry.status = .published ∧
        Became id { metadataRow checked.entry current.pendingVote row with status := .withdrawn } none before after) ∨
      ¬(row.status = .withdrawn ∧ checked.entry.status = .published) ∧ ∃ voted voteRevision,
        let update := if fields = true ∧ checked.entry.status.visible = true then EntryUpdate.preserveInput else .replaceBody
        PageVote before checked.entry row voteRevision ∧
        Revoted (update.takes (before.seenEntry checked.entry) row) voteRevision voted ∧
        Became id voted (update.puts (before.seenEntry checked.entry) row (before.index.entry id)) before after) := by
  unfold applyBesidePending at done
  dsimp only at done
  rw [show current.status = row.status by rw [equal]] at done
  split at done
  · next tombstone =>
    obtain ⟨updated, metadata, done⟩ := ok_bind done
    cases done
    obtain ⟨became, same⟩ := updateRemoteMetadata_ok known metadata
    have kept := Became.updateSpot became.spot fun row => { row with status := .withdrawn }
    have removed := Became.removeSpatialIndex kept.spot
    exact ⟨same.trans ⟨rfl, rfl, rfl⟩, .inl ⟨tombstone.1, tombstone.2, (became.trans kept).trans removed⟩⟩
  · next shown =>
    generalize (if fields = true ∧ checked.entry.status.visible = true then EntryUpdate.preserveInput else .replaceBody) =
      update at done ⊢
    obtain ⟨applied, took, done⟩ := ok_bind done
    cases done
    obtain ⟨became, same⟩ := Became.applyEntry known took
    split
    · next keeps =>
      obtain ⟨voted, revoted, restored, still⟩ := became.restoreVote equal (decide (checked.entry.voteRevision = .zero))
      refine ⟨same.trans still, .inr ⟨shown, voted, _, ?_, revoted, restored⟩⟩
      by_cases zero : checked.entry.voteRevision = .zero
      · exact .inl (by simp [zero])
      · exact .inr ⟨zero, by simp [zero]; rfl⟩
    · next votes =>
      split
      · obtain ⟨voted, revoted, restored, still⟩ := became.restoreVote equal true
        have counted := Became.updateSpot restored.spot fun row =>
          { row with votesUp := current.votesUp, votesDown := current.votesDown }
        rw [restored.pinned] at counted
        refine ⟨(same.trans still).trans ⟨rfl, rfl, rfl⟩, .inr ⟨shown, _, _, .inl rfl, ?_, restored.trans counted⟩⟩
        exact ⟨revoted.input, revoted.status, revoted.localRevision, revoted.remoteId, revoted.remoteRevision,
          revoted.changeSequence, revoted.voteRevision, revoted.lastAck⟩
      · refine ⟨same, .inr ⟨shown, _, _, .inr ⟨?_, rfl⟩, ⟨rfl, rfl, rfl, rfl, rfl, rfl, rfl, rfl⟩, became⟩⟩
        exact fun zero => votes (.inr zero)

private theorem applyAlone_ok (known : before.spots.find id = some row) (equal : current.toSpotRow = row)
    (done : before.applyAlone id current checked = .ok after) : SameQueue before after ∧
    ((row.status = .withdrawn ∧ checked.entry.status = .published ∧
        Became id (metadataRow checked.entry false row) none before after) ∨
      ¬(row.status = .withdrawn ∧ checked.entry.status = .published) ∧ ∃ voted voteRevision,
        PageVote before checked.entry row voteRevision ∧
        Revoted (EntryUpdate.replaceBody.takes (before.seenEntry checked.entry) row) voteRevision voted ∧
        Became id voted (shownPin checked.entry.input checked.entry.status) before after) := by
  unfold applyAlone at done
  dsimp only at done
  rw [show current.status = row.status by rw [equal]] at done
  split at done
  · next tombstone =>
    obtain ⟨updated, metadata, done⟩ := ok_bind done
    cases done
    obtain ⟨became, same⟩ := updateRemoteMetadata_ok known metadata
    have removed := Became.removeSpatialIndex became.spot
    exact ⟨same.trans ⟨rfl, rfl, rfl⟩, .inl ⟨tombstone.1, tombstone.2, became.trans removed⟩⟩
  · next shown =>
    obtain ⟨applied, took, done⟩ := ok_bind done
    cases done
    obtain ⟨became, same⟩ := Became.applyEntry known took
    simp only [EntryUpdate.puts, seenEntry_input, seenEntry_status] at became
    split
    · obtain ⟨voted, revoted, restored, still⟩ := became.restoreVote equal true
      exact ⟨same.trans still, .inr ⟨shown, voted, _, .inl rfl, revoted, restored⟩⟩
    · next votes =>
      exact ⟨same, .inr ⟨shown, _, _, .inr ⟨votes, rfl⟩, ⟨rfl, rfl, rfl, rfl, rfl, rfl, rfl, rfl⟩, became⟩⟩

/-- The entry belongs to a known point and is newer than what is stored of it. -/
structure Newer (store : ChargingStore) (entry : ChargingDirectoryEntry) (id : Uuid) (row : SpotRow)
    (revision : ChargingRevision) : Prop where
  found : store.findRemote entry.id = some id
  known : store.spots.find id = some row
  remote : row.remoteId = some entry.id
  changeSequence : row.changeSequence.value < entry.changeSequence.value
  remoteRevision : row.remoteRevision.value ≤ entry.revision.value
  voteRevision : entry.voteRevision = .zero ∨ row.voteRevision.value ≤ entry.voteRevision.value
  revision : revision.value = row.localRevision.value + 1

def besideUpdate (store : ChargingStore) (id : Uuid) (entry : ChargingDirectoryEntry) : EntryUpdate :=
  if store.hasPending id ChargingAction.carriesFields = true ∧ entry.status.visible = true then .preserveInput
  else .replaceBody

inductive PageEntry (before after : ChargingStore) (entry : ChargingDirectoryEntry) : Prop where
  | inserted (unknown : before.spots.find entry.id = none) (same : SameQueue before after)
      (became : Became entry.id (EntryUpdate.replaceBody.takes (before.seenEntry entry) (directoryRow entry))
        (shownPin entry.input entry.status) before after) (new : before.findRemote entry.id = none)
  | old (same : after = before)
  | tombstone (id : Uuid) (row : SpotRow) (revision : ChargingRevision) (reviewed : ChargingStore)
      (current : StoredChargingSpot) (blocked : Nat) (newer : Newer before entry id row revision)
      (pending : before.hasPendingOperations id = true) (equal : current.toSpotRow = row)
      (review : before.reviewPendingChanges id current entry = .ok (reviewed, blocked)) (same : SameQueue reviewed after)
      (withdrawn : row.status = .withdrawn) (published : entry.status = .published)
      (became : Became id (SpotRow.revised { metadataRow entry current.pendingVote row with status := .withdrawn } revision)
        none before after)
  | beside (id : Uuid) (row voted : SpotRow) (revision voteRevision : ChargingRevision) (reviewed : ChargingStore)
      (current : StoredChargingSpot) (blocked : Nat) (newer : Newer before entry id row revision)
      (pending : before.hasPendingOperations id = true) (equal : current.toSpotRow = row)
      (review : before.reviewPendingChanges id current entry = .ok (reviewed, blocked)) (same : SameQueue reviewed after)
      (shown : ¬(row.status = .withdrawn ∧ entry.status = .published)) (vote : PageVote before entry row voteRevision)
      (revoted : Revoted ((besideUpdate before id entry).takes (before.seenEntry entry) row) voteRevision voted)
      (became : Became id (SpotRow.revised voted revision)
        ((besideUpdate before id entry).puts (before.seenEntry entry) row (before.index.entry id)) before after)
  | revived (id : Uuid) (row : SpotRow) (revision : ChargingRevision) (newer : Newer before entry id row revision)
      (alone : before.hasPendingOperations id = false) (same : SameQueue before after)
      (withdrawn : row.status = .withdrawn) (published : entry.status = .published)
      (became : Became id (SpotRow.revised (metadataRow entry false row) revision) none before after)
  | alone (id : Uuid) (row voted : SpotRow) (revision voteRevision : ChargingRevision)
      (newer : Newer before entry id row revision) (alone : before.hasPendingOperations id = false)
      (same : SameQueue before after) (shown : ¬(row.status = .withdrawn ∧ entry.status = .published))
      (vote : PageVote before entry row voteRevision)
      (revoted : Revoted (EntryUpdate.replaceBody.takes (before.seenEntry entry) row) voteRevision voted)
      (became : Became id (SpotRow.revised voted revision) (shownPin entry.input entry.status) before after)

theorem hasPendingOperations_iff : before.hasPendingOperations id = true ↔ 0 < (before.operationsOf id).length := by
  simp only [hasPendingOperations, hasPending, operationsOf, Bool.and_true, List.any_eq_true, decide_eq_true_eq,
    List.length_pos_iff_exists_mem, List.mem_filter]

theorem SameSpots.seenEntry (same : SameSpots before after) : after.seenEntry entry = before.seenEntry entry := by
  unfold ChargingStore.seenEntry
  rw [same.account]

private theorem SameSpots.pageVote (same : SameSpots before after) (vote : PageVote after entry row voteRevision) :
    PageVote before entry row voteRevision := by
  unfold PageVote at vote ⊢
  rwa [same.seenEntry] at vote

private theorem applyNewer_ok (found : before.findRemote checked.entry.id = some id) (known : before.spots.find id = some row)
    (remote : row.remoteId = some checked.entry.id)
    (later : row.changeSequence.value < checked.entry.changeSequence.value) (equal : current.toSpotRow = row)
    (counted : current.pendingOperations = (before.operationsOf id).length)
    (done : before.applyNewer id current checked = .ok (after, blocked)) : PageEntry before after checked.entry := by
  unfold applyNewer at done
  obtain ⟨_, guards, done⟩ := ok_bind done
  obtain ⟨revisions, votes⟩ := ensure_ok guards
  have newer {revision : ChargingRevision} (next : current.localRevision.next = .ok revision) :
      Newer before checked.entry id row revision := by
    subst equal
    exact ⟨found, known, remote, later, revisions, votes, ChargingRevision.next_ok next⟩
  rw [counted] at done
  split at done
  · next waiting =>
    have pending := hasPendingOperations_iff.mpr waiting
    obtain ⟨⟨reviewed, blocked⟩, review, done⟩ := ok_bind done
    obtain ⟨applied, took, done⟩ := ok_bind done
    obtain ⟨revision, next, done⟩ := ok_bind done
    cases done
    have still := reviewPendingChanges_sameSpots review
    have held : reviewed.spots.find id = some row := by rw [still.spots, known]
    obtain ⟨same, outcome⟩ := applyBesidePending_ok held equal took
    have queue : SameQueue reviewed (applied.updateLocalRevision id revision) := same.trans ⟨rfl, rfl, rfl⟩
    rcases outcome with ⟨withdrawn, published, became⟩ | ⟨shown, voted, voteRevision, vote, revoted, became⟩
    · exact .tombstone id row revision reviewed current _ (newer next) pending equal review queue withdrawn published
        ((still.became became).revise revision)
    · rw [still.seenEntry] at revoted became
      rw [still.index] at became
      exact .beside id row voted revision voteRevision reviewed current _ (newer next) pending equal review queue shown
        (still.pageVote vote) revoted ((still.became became).revise revision)
  · next none =>
    have alone : before.hasPendingOperations id = false := by
      rw [← Bool.not_eq_true, hasPendingOperations_iff]
      exact none
    obtain ⟨applied, took, done⟩ := ok_bind done
    obtain ⟨revision, next, done⟩ := ok_bind done
    cases done
    obtain ⟨same, outcome⟩ := applyAlone_ok known equal took
    have queue : SameQueue before (applied.updateLocalRevision id revision) := same.trans ⟨rfl, rfl, rfl⟩
    rcases outcome with ⟨withdrawn, published, became⟩ | ⟨shown, voted, voteRevision, vote, revoted, became⟩
    · exact .revived id row revision (newer next) alone queue withdrawn published (became.revise revision)
    · exact .alone id row voted revision voteRevision (newer next) alone queue shown vote revoted
        (became.revise revision)

private theorem findRemote_some (found : before.findRemote remoteId = some id) :
    ∃ row, before.spots.find id = some row ∧ row.remoteId = some remoteId := by
  obtain ⟨row, known, same⟩ := Table.search_some found
  exact ⟨row, known, of_decide_eq_true same⟩

theorem applyChangeEntry_ok (done : before.applyChangeEntry entry = .ok (after, blocked)) :
    entry.Valid ∧ PageEntry before after entry := by
  unfold applyChangeEntry at done
  obtain ⟨checked, validated, done⟩ := ok_bind done
  have same := ValidatedDirectoryEntry.new_ok validated
  subst same
  refine ⟨checked.valid, ?_⟩
  split at done
  · next new =>
    obtain ⟨inserted, created, done⟩ := ok_bind done
    obtain ⟨applied, took, done⟩ := ok_bind done
    cases done
    obtain ⟨unknown, began, still⟩ := insertDirectory_ok created
    obtain ⟨became, same⟩ := Became.applyEntry began.spot took
    have seen : inserted.seenEntry checked.entry = before.seenEntry checked.entry := by
      unfold seenEntry
      rw [began.account]
    simp only [seen, EntryUpdate.puts, seenEntry_input, seenEntry_status] at became
    exact .inserted unknown (still.trans same) (began.trans became) new
  · next id found =>
    obtain ⟨current, detailed, done⟩ := ok_bind done
    obtain ⟨row, known, remote⟩ := findRemote_some found
    obtain ⟨held, stored, equal⟩ := detail_some (orError_ok detailed)
    cases known.symm.trans stored
    have spot : current.toSpotRow = row := by rw [equal]
    split at done
    · cases done
      exact .old rfl
    · next later =>
      have later : row.changeSequence.value < checked.entry.changeSequence.value := by
        rw [← spot]
        omega
      exact applyNewer_ok found known remote later spot (by rw [equal]) done

/-- What is under review: a blocked operation, its spot and what was kept of it. -/
structure UnderReview (store : ChargingStore) (id : Uuid) (review : Reviewed) (spot : SpotRow)
    (conflict : ConflictRow) : Prop where
  operation : store.findOperation id = some review.row
  blocked : review.row.blockedKind = some review.kind
  known : store.spots.find review.row.pointId = some spot
  current : review.current.toSpotRow = spot
  placed : review.current.pointId = review.row.pointId
  kept : store.conflicts.find id = some conflict
  remote : review.remote.map ValidatedDirectoryEntry.entry = conflict.remoteEntry

theorem retainedEntry_ok {retained : Option ChargingDirectoryEntry} {remote : Option ValidatedDirectoryEntry}
    (done : retainedEntry retained = .ok remote) : remote.map ValidatedDirectoryEntry.entry = retained := by
  cases retained with
  | none =>
    cases done
    rfl
  | some entry =>
    obtain ⟨checked, validated, done⟩ := ok_bind done
    cases done
    exact congrArg some (ValidatedDirectoryEntry.new_ok validated)

theorem reviewed_ok (done : before.reviewed id expected = .ok review) :
    ∃ spot conflict, UnderReview before id review spot conflict ∧ spot.localRevision = expected := by
  unfold reviewed at done
  obtain ⟨row, operation, done⟩ := ok_bind done
  obtain ⟨kind, blocked, done⟩ := ok_bind done
  obtain ⟨current, found, done⟩ := ok_bind done
  obtain ⟨_, expects, done⟩ := ok_bind done
  obtain ⟨conflict, kept, done⟩ := ok_bind done
  obtain ⟨remote, retained, wrote⟩ := ok_bind done
  obtain ⟨spot, known, equal⟩ := detail_some (orError_ok found)
  cases wrote
  have current : current.toSpotRow = spot := by rw [equal]
  refine ⟨spot, conflict, ⟨orError_ok operation, orError_ok blocked, known, current, by rw [equal], orError_ok kept,
    retainedEntry_ok retained⟩, ?_⟩
  rw [← current]
  exact ensure_ok expects

private theorem placeDraft_ok {draft : Option NewChargingSpot} (known : before.spots.find id = some row)
    (done : before.placeDraft id draft status = .ok after) : Became id { row with input := draft.or row.input }
      (if draft.isSome then shownPin draft status else before.index.entry id) before after ∧ SameQueue before after := by
  cases draft with
  | none =>
    cases done
    exact ⟨.refl known, .refl _⟩
  | some input =>
    have updated := Became.updateSpot known fun row => { row with input := some input }
    obtain ⟨moved, same⟩ := Became.updateSpatialIndex updated.spot done
    exact ⟨updated.trans moved, same.outbox, same.lastSequence, same.conflicts⟩

/-- A row that has taken an accepted entry, apart from what is still pending. -/
structure Accepted (row : SpotRow) (entry : ChargingDirectoryEntry) (accepted : SpotRow) : Prop where
  remoteId : accepted.remoteId = some entry.id
  remoteRevision : accepted.remoteRevision = entry.revision
  changeSequence : accepted.changeSequence = entry.changeSequence
  voteRevision : accepted.voteRevision = entry.voteRevision
  lastAck : accepted.lastAck = row.lastAck

/-- The pin fits the row: a shown spot has a body, and its pin is there. -/
structure Fits (row : SpotRow) (pin : Option Coordinate) : Prop where
  body : row.status.visible = true → row.input.isSome = true
  pin : pin = shownPin row.input row.status

theorem Fits.served (valid : entry.Valid) (input : row.input = entry.input) (status : row.status = entry.status) :
    Fits row (shownPin entry.input entry.status) := by
  refine ⟨?_, by rw [input, status]⟩
  rw [input, status]
  intro visible
  apply valid.body.mp
  cases same : entry.status with
  | queued => exact absurd same valid.status
  | published => rfl
  | hidden | withdrawn | removed => simp [same, ChargingStatus.visible] at visible

private theorem restoreFields_ok {input : Option NewChargingSpot} {restores : Bool} (began : Became id row pin before middle)
    (fits : Fits row pin) (same : row.status = status)
    (done : middle.restoreFields id input restores status = .ok after) :
    ∃ body pinned, Became id { row with input := body } pinned before after ∧ SameQueue middle after ∧
      Fits { row with input := body } pinned := by
  have keep : ∃ body pinned, Became id { row with input := body } pinned before middle ∧ SameQueue middle middle ∧
      Fits { row with input := body } pinned := ⟨row.input, pin, began, .refl _, fits⟩
  unfold restoreFields at done
  cases input with
  | none =>
    cases done
    exact keep
  | some input =>
    dsimp only at done
    split at done
    · obtain ⟨indexed, placed, done⟩ := ok_bind done
      cases done
      obtain ⟨moved, still⟩ := Became.updateSpatialIndex began.spot placed
      have updated := Became.updateSpot moved.spot fun row => { row with input := some input }
      rw [moved.pinned] at updated
      refine ⟨some input, _, (began.trans moved).trans updated, still.trans ⟨rfl, rfl, rfl⟩, fun _ => rfl, ?_⟩
      rw [← same]
    · cases done
      exact keep

/-- After an entry was accepted a spot is shown only where no withdrawal is pending. -/
theorem restorePendingLocalState_ok {taken : SpotRow} (placed : current.pointId = id)
    (began : Became id taken pin before middle) (fits : Fits taken pin) (shown : taken.status = status)
    (accepted : Accepted row entry taken) (done : middle.restorePendingLocalState current status = .ok after) :
    ∃ final pinned, Accepted row entry final ∧ Became id final pinned before after ∧ SameQueue middle after ∧
      Fits final pinned ∧ (middle.hasPending id ChargingAction.isWithdraw = true → final.status = .withdrawn) := by
  subst placed
  unfold restorePendingLocalState at done
  dsimp only at done
  obtain ⟨placed, restored, done⟩ := ok_bind done
  cases done
  have voted : ∃ vote, Became current.pointId { taken with vote := vote } pin before
      (if middle.hasPending current.pointId ChargingAction.isVote then
        middle.updateSpot current.pointId fun row => { row with vote := current.vote } else middle) ∧
      SameQueue middle (if middle.hasPending current.pointId ChargingAction.isVote then
        middle.updateSpot current.pointId fun row => { row with vote := current.vote } else middle) := by
    split
    · have updated := Became.updateSpot began.spot fun row => { row with vote := current.vote }
      rw [began.pinned] at updated
      exact ⟨current.vote, began.trans updated, rfl, rfl, rfl⟩
    · exact ⟨taken.vote, began, .refl _⟩
  obtain ⟨vote, votes, first⟩ := voted
  obtain ⟨body, pinned, became, second, fit⟩ := restoreFields_ok votes ⟨fits.body, fits.pin⟩ shown restored
  split
  · next withdrawal =>
    have removed := Became.removeSpatialIndex became.spot
    have updated := Became.updateSpot removed.spot fun row => { row with status := .withdrawn, input := none }
    rw [removed.pinned] at updated
    refine ⟨_, none, ?_, (became.trans removed).trans updated, (first.trans second).trans ⟨rfl, rfl, rfl⟩, ?_, fun _ => rfl⟩
    · exact ⟨accepted.remoteId, accepted.remoteRevision, accepted.changeSequence, accepted.voteRevision, accepted.lastAck⟩
    · refine ⟨?_, rfl⟩
      intro visible
      cases visible
  · next none =>
    refine ⟨_, pinned, ?_, became, first.trans second, fit, fun pending => absurd pending none⟩
    exact ⟨accepted.remoteId, accepted.remoteRevision, accepted.changeSequence, accepted.voteRevision, accepted.lastAck⟩

inductive Resolves (before after : ChargingStore) (fresh id : Uuid) (review : Reviewed) (spot : SpotRow) :
    ChargingOperationResolution → Prop where
  | retried (same : after = (before.updateOperation id fun row => { row with blockedKind := none }).deleteConflict id) :
      Resolves before after fresh id review spot .retry
  | rebased (draft : Option NewChargingSpot) (revision : ChargingRevision)
      (next : revision.value = spot.localRevision.value + 1)
      (unknown : fresh = id ∨ before.findOperation fresh = none)
      (outbox : after.outbox = before.outbox.map fun row =>
        if row.operationId = id then { row with operationId := fresh, blockedKind := none, target := none } else row)
      (lastSequence : after.lastSequence = before.lastSequence)
      (conflicts : after.conflicts = (before.deleteConflict id).conflicts)
      (became : Became review.row.pointId (SpotRow.revised { spot with input := draft.or spot.input } revision)
        (if draft.isSome then shownPin draft spot.status else before.index.entry review.row.pointId) before after) :
      Resolves before after fresh id review spot .rebaseKeepingLocal
  | abandoned (revision : ChargingRevision) (next : revision.value = spot.localRevision.value + 1)
      (unknown : spot.remoteId = none) (create : review.row.action.isCreate = true)
      (same : SameQueue (before.deleteOperations fun row => decide (row.pointId = review.row.pointId) &&
        decide (row.localRevision.value ≤ spot.localRevision.value)) after)
      (became : Became review.row.pointId { spot with status := .withdrawn, localRevision := revision } none before after) :
      Resolves before after fresh id review spot .acceptServer
  | accepted (checked : ValidatedDirectoryEntry) (final : SpotRow) (pin : Option Coordinate) (revision : ChargingRevision)
      (remote : review.remote = some checked) (next : revision.value = spot.localRevision.value + 1)
      (changeSequence : spot.changeSequence.value ≤ checked.entry.changeSequence.value)
      (remoteRevision : spot.remoteRevision.value ≤ checked.entry.revision.value)
      (takes : Accepted spot checked.entry final) (fits : Fits final pin)
      (outbox : after.outbox = (before.removeSupersededFieldOperations review.row.pointId id review.row.sequence
        review.row.action.carriesFields).outbox)
      (withdrawn : after.hasPending review.row.pointId ChargingAction.isWithdraw = true → final.status = .withdrawn)
      (lastSequence : after.lastSequence = before.lastSequence)
      (conflicts : after.conflicts = ((before.removeSupersededFieldOperations review.row.pointId id review.row.sequence
        review.row.action.carriesFields).deleteConflict id).conflicts)
      (became : Became review.row.pointId (SpotRow.revised final revision) pin before after) :
      Resolves before after fresh id review spot .acceptServer

section Under
variable (under : UnderReview before id review spot conflict)
include under

private theorem rebaseOperation_ok (done : before.rebaseOperation fresh review id = .ok after) :
    Resolves before after fresh id review spot .rebaseKeepingLocal := by
  unfold rebaseOperation at done
  obtain ⟨_, -, done⟩ := ok_bind done
  dsimp only at done
  obtain ⟨drafted, placed, done⟩ := ok_bind done
  obtain ⟨_, unknown, done⟩ := ok_bind done
  obtain ⟨revision, next, done⟩ := ok_bind done
  cases done
  obtain ⟨became, same⟩ := placeDraft_ok under.known placed
  rw [under.current] at became
  have free := ensure_ok unknown
  rw [show drafted.findOperation fresh = before.findOperation fresh by rw [findOperation, same.outbox, findOperation]] at free
  have following := ChargingRevision.next_ok next
  rw [under.current] at following
  refine .rebased (rebasedDraft review) revision following free ?_ same.lastSequence ?_
    ((became.revise revision).followed ⟨rfl, rfl, rfl, rfl⟩)
  · rw [← same.outbox]
    rfl
  · simp only [deleteConflict, ← same.conflicts]
    rfl

private theorem abandonCreate_ok (done : before.abandonCreate review spot.localRevision = .ok after) :
    Resolves before after fresh id review spot .acceptServer := by
  unfold abandonCreate at done
  obtain ⟨_, guards, done⟩ := ok_bind done
  obtain ⟨revision, next, done⟩ := ok_bind done
  cases done
  obtain ⟨-, unknown, create⟩ := ensure_ok guards
  rw [under.current] at unknown next
  have held : (before.deleteOperations fun row => decide (row.pointId = review.row.pointId) &&
    decide (row.localRevision.value ≤ spot.localRevision.value)).spots.find review.row.pointId = some spot := under.known
  have updated := Became.updateSpot held fun row => { row with status := .withdrawn, localRevision := revision }
  have removed := Became.removeSpatialIndex updated.spot
  have began : SameSpots before (before.deleteOperations fun row => decide (row.pointId = review.row.pointId) &&
    decide (row.localRevision.value ≤ spot.localRevision.value)) := ⟨rfl, rfl, rfl, rfl⟩
  exact .abandoned revision (ChargingRevision.next_ok next) unknown create ⟨rfl, rfl, rfl⟩
    (began.became (updated.trans removed))

private theorem acceptEntry_ok (remote : review.remote = some checked) (active : before.account = .active)
    (done : before.acceptEntry review id checked = .ok after) :
    Resolves before after fresh id review spot .acceptServer := by
  unfold acceptEntry at done
  obtain ⟨_, guards, done⟩ := ok_bind done
  dsimp only at done
  obtain ⟨applied, took, done⟩ := ok_bind done
  obtain ⟨restored, restores, done⟩ := ok_bind done
  obtain ⟨revision, next, done⟩ := ok_bind done
  cases done
  obtain ⟨changeSequence, remoteRevision⟩ := ensure_ok guards
  rw [under.current] at changeSequence remoteRevision next
  generalize removes : before.removeSupersededFieldOperations review.row.pointId id review.row.sequence
    review.row.action.carriesFields = removed at took
  have began : SameSpots before removed := by
    rw [← removes]
    exact ⟨rfl, rfl, rfl, rfl⟩
  have held : removed.spots.find review.row.pointId = some spot := by rw [began.spots, under.known]
  obtain ⟨became, same⟩ := Became.applyEntry held took
  rw [seenEntry_active (began.account.trans active)] at became
  have taken := began.became became
  have takes : Accepted spot checked.entry (EntryUpdate.replaceBody.takes checked.entry spot) := ⟨rfl, rfl, rfl, rfl, rfl⟩
  obtain ⟨final, pin, accepted, became, still, fits, withdrawn⟩ := restorePendingLocalState_ok under.placed taken
    (.served checked.valid rfl rfl) rfl takes restores
  have queue : SameQueue removed (restored.updateLocalRevision review.row.pointId revision) :=
    (same.trans still).trans ⟨rfl, rfl, rfl⟩
  refine .accepted checked final pin revision remote (ChargingRevision.next_ok next) changeSequence remoteRevision accepted
    fits (queue.outbox.trans (by rw [removes])) ?_ ?_ ?_ ((became.revise revision).followed ⟨rfl, rfl, rfl, rfl⟩)
  · intro pending
    apply withdrawn
    rwa [hasPending, still.outbox.symm]
  · rw [← removes] at queue
    exact queue.lastSequence
  · rw [removes]
    simp only [deleteConflict, ← queue.conflicts]

end Under

theorem resolveOperation_ok {resolution : ChargingOperationResolution}
    (done : before.resolveOperation fresh id expected resolution = .ok after) :
    before.account = .active ∧ ∃ review spot conflict, UnderReview before id review spot conflict ∧
      Resolves before after fresh id review spot resolution := by
  unfold resolveOperation at done
  obtain ⟨_, active, done⟩ := ok_bind done
  obtain ⟨review, reads, done⟩ := ok_bind done
  obtain ⟨spot, conflict, under, rfl⟩ := reviewed_ok reads
  refine ⟨ensureActive_ok active, review, spot, conflict, under, ?_⟩
  cases resolution with
  | retry =>
    unfold retryOperation at done
    obtain ⟨_, -, done⟩ := ok_bind done
    cases done
    exact .retried rfl
  | rebaseKeepingLocal => exact rebaseOperation_ok under done
  | acceptServer =>
    dsimp only at done
    split at done
    · exact abandonCreate_ok under done
    · next checked remote => exact acceptEntry_ok under remote (ensureActive_ok active) done

theorem replaceBlockedOperation_ok
    (done : before.replaceBlockedOperation fresh id expected input = .ok (after, receipt)) :
    ∃ row spot revision action target middle, before.findOperation id = some row ∧ row.blockedKind.isSome = true ∧
      before.spots.find row.pointId = some spot ∧ revision.value = spot.localRevision.value + 1 ∧
      ((spot.remoteId.isSome = true ∧ spot.status = .published ∧ action = .edit input ∧ target.isSome = true) ∨
        spot.remoteId = none ∧ spot.status = .queued ∧ action = .create input ∧ target = none) ∧
      Became row.pointId (SpotRow.revised { spot with input := some input } revision)
        (shownPin (some input) spot.status) before middle ∧
      SameQueue (before.removeSupersededFieldOperations row.pointId id row.sequence row.action.carriesFields) middle ∧
      Queues { sequence := row.sequence, operationId := fresh, pointId := row.pointId, action,
               localRevision := revision, target } middle after receipt := by
  unfold replaceBlockedOperation at done
  obtain ⟨_, -, done⟩ := ok_bind done
  obtain ⟨row, operation, done⟩ := ok_bind done
  obtain ⟨kind, blocked, done⟩ := ok_bind done
  obtain ⟨current, found, done⟩ := ok_bind done
  obtain ⟨_, -, done⟩ := ok_bind done
  obtain ⟨remote, -, done⟩ := ok_bind done
  obtain ⟨_, -, done⟩ := ok_bind done
  obtain ⟨action, chosen, done⟩ := ok_bind done
  obtain ⟨revision, next, done⟩ := ok_bind done
  obtain ⟨indexed, placed, wrote⟩ := ok_bind done
  obtain ⟨spot, known, detailed⟩ := detail_some (orError_ok found)
  have equal : current.toSpotRow = spot := by rw [detailed]
  subst equal
  have began : SameSpots before
      (before.removeSupersededFieldOperations row.pointId id row.sequence row.action.carriesFields) := ⟨rfl, rfl, rfl, rfl⟩
  have held : (before.removeSupersededFieldOperations row.pointId id row.sequence
    row.action.carriesFields).spots.find row.pointId = some current.toSpotRow := known
  have updated := Became.updateSpot held fun spot => { spot with input := some input, localRevision := revision }
  obtain ⟨moved, same⟩ := Became.updateSpatialIndex updated.spot placed
  refine ⟨row, current.toSpotRow, revision, action, _, indexed, orError_ok operation, by rw [orError_ok blocked]; rfl, known,
    ChargingRevision.next_ok next, ?_, began.became (updated.trans moved),
    ⟨same.outbox, same.lastSequence, same.conflicts⟩, insertRow_ok wrote⟩
  unfold replacement at chosen
  split at chosen
  · next present =>
    obtain ⟨_, published, chosen⟩ := ok_bind chosen
    cases chosen
    exact .inl ⟨present, ensure_ok published, rfl, by simpa using present⟩
  · next absent =>
    obtain ⟨_, queued, chosen⟩ := ok_bind chosen
    cases chosen
    have none : current.remoteId = none := by simpa using absent
    exact .inr ⟨none, ensure_ok queued, rfl, by rw [none]; rfl⟩

/-- No entry of a page, each taken at the store it meets, is of the kind. -/
def PageAvoids (kind : ChargingStore → ChargingDirectoryEntry → Prop) (cursor : Nat) :
    ChargingStore → List ChargingDirectoryEntry → Prop
  | _, [] => True
  | store, entry :: later =>
    if entry.changeSequence.value ≤ cursor then PageAvoids kind cursor store later
    else ¬kind store entry ∧
      ∀ applied blocked, store.applyChangeEntry entry = .ok (applied, blocked) → PageAvoids kind cursor applied later

theorem PageAvoids.invariant {kind : ChargingStore → ChargingDirectoryEntry → Prop} {cursor : Nat}
    {P : ChargingStore → Prop}
    (kept : ∀ {store applied : ChargingStore} {entry : ChargingDirectoryEntry} {blocked : Nat},
      P store → ¬kind store entry → store.applyChangeEntry entry = .ok (applied, blocked) → P applied)
    (holds : P before) (avoids : PageAvoids kind cursor before entries) {count : Nat}
    (done : applyEntries cursor before entries = .ok (after, count, blocked)) : P after := by
  induction entries generalizing before count blocked with
  | nil =>
    cases done
    exact holds
  | cons entry entries ih =>
    unfold PageAvoids at avoids
    unfold applyEntries at done
    split at done
    · next old =>
      rw [if_pos old] at avoids
      exact ih holds avoids done
    · next new =>
      rw [if_neg new] at avoids
      obtain ⟨⟨applied, one⟩, took, done⟩ := ok_bind done
      obtain ⟨⟨final, rest, others⟩, remaining, done⟩ := ok_bind done
      cases done
      exact ih (kept holds avoids.1 took) (avoids.2 applied one took) remaining

theorem PageEntry.account (outcome : PageEntry before after entry) : after.account = before.account := by
  cases outcome with
  | inserted _ _ moved => exact moved.account
  | old same => rw [same]
  | tombstone _ _ _ _ _ _ _ _ _ _ _ _ _ moved | beside _ _ _ _ _ _ _ _ _ _ _ _ _ _ _ _ moved
  | revived _ _ _ _ _ _ _ _ moved | alone _ _ _ _ _ _ _ _ _ _ _ moved => exact moved.account

theorem applyChangesPage_ok {now : Nat} (done : before.applyChangesPage entries nextCursor now = .ok (after, result)) :
    ∃ applied count blocked, applyEntries before.cursor.value before entries = .ok (applied, count, blocked) ∧
      before.cursor.value ≤ nextCursor.value ∧
      after = { applied with cursor := nextCursor, lastRefreshedAtMs := some now } := by
  unfold applyChangesPage at done
  obtain ⟨_, -, done⟩ := ok_bind done
  obtain ⟨_, -, done⟩ := ok_bind done
  obtain ⟨_, grows, done⟩ := ok_bind done
  obtain ⟨⟨applied, count, blocked⟩, took, done⟩ := ok_bind done
  obtain ⟨_, -, done⟩ := ok_bind done
  cases done
  exact ⟨applied, count, blocked, took, ensure_ok grows, rfl⟩

/-- The store does not refuse the call. -/
def Accepts (store : ChargingStore) (call : ChargingCall) : Prop := ∀ error, (store.step call).2 ≠ .failed error

theorem Accepts.page {now : Nat} (done : before.applyChangesPage entries nextCursor now = .ok (after, result)) :
    before.Accepts (.applyChangesPage entries nextCursor now) := by
  intro error failed
  rw [step, done] at failed
  cases failed

theorem Accepts.resolution {resolution : ChargingOperationResolution}
    (done : before.resolveOperation fresh id expected resolution = .ok after) :
    before.Accepts (.resolveOperation fresh id expected resolution) := by
  intro error failed
  rw [step, done] at failed
  cases failed

section Commits
variable {α : Type} {P : ChargingStore → Prop}

/-- What holds before a call and after its success holds when it is committed. -/
theorem commit_of {outcome : Except StorageError (ChargingStore × α)} {reply : α → ChargingReply} (holds : P before)
    (kept : ∀ after value, outcome = .ok (after, value) → P after) : P (before.commit outcome reply).1 := by
  cases outcome with
  | error error => exact holds
  | ok result => exact kept result.1 result.2 rfl

theorem commit_done_of {outcome : Except StorageError ChargingStore} (holds : P before)
    (kept : ∀ after, outcome = .ok after → P after) :
    P (before.commit (outcome.map fun after => (after, ())) fun _ => .done).1 := by
  cases outcome with
  | error error => exact holds
  | ok after => exact kept after rfl

end Commits

end ChargingStore

end Cutout.Charging

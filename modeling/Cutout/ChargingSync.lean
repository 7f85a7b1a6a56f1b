import Cutout.ChargingStore

/-! The calls of the charging store: local changes, operations handed out and
acknowledged, server entries and pages, and the user's resolution of blocked operations. -/

namespace Cutout.Charging
open Library

structure ChargingStore where
  mapPoints : List Uuid := []
  index : SpatialIndex := {}
  spots : Table Uuid SpotRow := {}
  /-- The outbox in the order of its sequence, the primary key. -/
  outbox : List OutboxRow := []
  lastSequence : Nat := 0
  conflicts : Table Uuid ConflictRow := {}
  cursor : ChargingChangeCursor := .zero
  lastRefreshedAtMs : Option Nat := none
  account : CommunityAccountState := .active

def chargingOutboxCapacity : Nat := 1024
def chargingSyncPageLimit : Nat := 100

/-- Puts a row in its place in the order of the sequence. -/
def insertOperation (row : OutboxRow) : List OutboxRow → List OutboxRow
  | [] => [row]
  | first :: later => if row.sequence < first.sequence then row :: first :: later else first :: insertOperation row later

namespace ChargingStore

def ensureActive (store : ChargingStore) : Except StorageError Unit :=
  ensure (store.account = .active) .communityAccountUnavailable

section Rows
variable (store : ChargingStore)

def updateSpot (id : Uuid) (change : SpotRow → SpotRow) : ChargingStore :=
  { store with spots := store.spots.modify id change }

def updateLocalRevision (id : Uuid) (revision : ChargingRevision) : ChargingStore :=
  store.updateSpot id fun row => { row with localRevision := revision }

def updateOperation (operationId : Uuid) (change : OutboxRow → OutboxRow) : ChargingStore :=
  { store with outbox := store.outbox.map fun row => if row.operationId = operationId then change row else row }

def deleteOperations (leaves : OutboxRow → Bool) : ChargingStore :=
  { store with
    outbox := store.outbox.filter fun row => !leaves row
    conflicts := store.conflicts.keep fun operationId _ =>
      (store.outbox.filter fun row => !leaves row).any fun row => decide (row.operationId = operationId) }

def deleteConflict (operationId : Uuid) : ChargingStore :=
  { store with conflicts := store.conflicts.keep fun other _ => decide (other ≠ operationId) }

def operationsOf (id : Uuid) : List OutboxRow := store.outbox.filter fun row => decide (row.pointId = id)

def hasPending (id : Uuid) (meets : ChargingAction → Bool) : Bool :=
  store.outbox.any fun row => decide (row.pointId = id) && meets row.action

def hasPendingOperations (id : Uuid) : Bool := store.hasPending id fun _ => true

def findOperation (operationId : Uuid) : Option OutboxRow :=
  store.outbox.find? fun row => decide (row.operationId = operationId)

def detail (id : Uuid) : Option StoredChargingSpot :=
  (store.spots.find id).map fun row =>
    { row with
      pointId := id
      pendingOperations := (store.operationsOf id).length
      pendingVote := store.hasPending id ChargingAction.isVote }

def findRemote (remoteId : Uuid) : Option Uuid := store.spots.search fun _ row => decide (row.remoteId = some remoteId)

end Rows

section Index
variable (store : ChargingStore)

def updateSpatialIndex (id : Uuid) (input : NewChargingSpot) (status : ChargingStatus) :
    Except StorageError ChargingStore := do
  let index ← store.index.update id input.coordinate status.visible
  .ok { store with mapPoints := if id ∈ store.mapPoints then store.mapPoints else store.mapPoints ++ [id], index }

def removeSpatialIndex (id : Uuid) : ChargingStore := { store with index := store.index.remove id }

def placeBody (id : Uuid) (input : Option NewChargingSpot) (status : ChargingStatus) : Except StorageError ChargingStore :=
  match input with
  | some input => store.updateSpatialIndex id input status
  | none => .ok (store.removeSpatialIndex id)

end Index

section Queue
variable (store : ChargingStore)

/-- The outbox takes a row whose operation it does not know, up to its capacity. -/
def insertRow (row : OutboxRow) : Except StorageError (ChargingStore × ChargingWriteReceipt) := do
  store.ensureActive
  ensure (store.outbox.length < chargingOutboxCapacity) .chargingOutboxFull
  ensure (store.findOperation row.operationId = none) .sqlite
  .ok ({ store with outbox := insertOperation row store.outbox, lastSequence := max store.lastSequence row.sequence },
    ⟨row.pointId, row.localRevision, row.operationId⟩)

def queue (fresh id : Uuid) (revision : ChargingRevision) (action : ChargingAction) :
    Except StorageError (ChargingStore × ChargingWriteReceipt) :=
  store.insertRow
    { sequence := store.lastSequence + 1, operationId := fresh, pointId := id, action, localRevision := revision }

def queueAtSequence (fresh : Uuid) (sequence : Nat) (id : Uuid) (revision : ChargingRevision) (action : ChargingAction)
    (target : Option ChargingTarget) : Except StorageError (ChargingStore × ChargingWriteReceipt) :=
  store.insertRow { sequence, operationId := fresh, pointId := id, action, localRevision := revision, target }

/-- No operation of the same point comes before. -/
def isFirst (row : OutboxRow) : Bool :=
  !store.outbox.any fun prior => decide (prior.pointId = row.pointId) && decide (prior.sequence < row.sequence)

def isPending (row : OutboxRow) : Bool := row.blockedKind.isNone && store.isFirst row

def pendingOperation : Option OutboxRow := store.outbox.find? store.isPending

def pendingOperationById (id : Uuid) : Option OutboxRow :=
  store.outbox.find? fun row => decide (row.operationId = id) && store.isPending row

/-- Where an operation goes: a create to no spot yet, any other to the one the server knows. -/
def chooseTarget (action : ChargingAction) (current : StoredChargingSpot) : Except StorageError ChargingTarget :=
  match action with
  | .create _ => .ok .create
  | .edit _ | .withdraw | .verify | .vote _ => do
    let id ← orError current.remoteId .chargingConflict
    .ok (.existing id (if action.isVote then current.voteRevision else current.remoteRevision))

def freezeTarget (operationId : Uuid) (action : ChargingAction) (savedTarget : Option ChargingTarget)
    (current : StoredChargingSpot) : Except StorageError (ChargingStore × ChargingTarget) :=
  match savedTarget with
  | some target => .ok (store, target)
  | none => do
    let target ← chooseTarget action current
    .ok (store.updateOperation operationId fun row => { row with target := some target }, target)

def nextOperation : Except StorageError (ChargingStore × Option ChargingOperation) := do
  store.ensureActive
  match store.pendingOperation with
  | none => .ok (store, none)
  | some pending =>
    let current ← orError (store.detail pending.pointId) .notFound
    let (frozen, target) ← store.freezeTarget pending.operationId pending.action pending.target current
    .ok (frozen, some ⟨pending.operationId, pending.pointId, pending.localRevision, target, pending.action⟩)

end Queue

section Entries
variable (store : ChargingStore)

inductive EntryUpdate where
  | replaceBody | preserveInput | preserveLocal
  deriving Repr, DecidableEq

/-- An entry as the account may use it: votes belong to an active account. -/
def seenEntry (entry : ChargingDirectoryEntry) : ChargingDirectoryEntry :=
  if store.account = .active then entry else { entry with vote := none, voteRevision := .zero }

/-- No other point has the server's identifier. -/
def remoteFree (id remoteId : Uuid) : Bool :=
  (store.spots.search fun other row => decide (other ≠ id) && decide (row.remoteId = some remoteId)).isNone

def applyBody (id : Uuid) (entry : ChargingDirectoryEntry) (update : EntryUpdate) : Except StorageError ChargingStore :=
  match update with
  | .replaceBody => do
    let placed ← store.placeBody id entry.input entry.status
    .ok (placed.updateSpot id fun row => { row with input := entry.input, status := entry.status, vote := entry.vote })
  | .preserveInput => do
    let row ← orError (store.spots.find id) .sqlite
    let placed ← store.placeBody id row.input entry.status
    .ok (placed.updateSpot id fun row => { row with status := entry.status, vote := entry.vote })
  | .preserveLocal => .ok store

def applyEntry (id : Uuid) (checked : ValidatedDirectoryEntry) (update : EntryUpdate) :
    Except StorageError ChargingStore := do
  let entry := store.seenEntry checked.entry
  let placed ← store.applyBody id entry update
  ensure (placed.remoteFree id entry.id = true) .sqlite
  .ok (placed.updateSpot id fun row => { row with
    remoteId := some entry.id
    remoteRevision := entry.revision
    changeSequence := entry.changeSequence
    verifiedAtMs := if update = .replaceBody then entry.verifiedAtMs else row.verifiedAtMs
    voteRevision := entry.voteRevision
    votesUp := entry.votesUp
    votesDown := entry.votesDown })

def insertDirectory (id : Uuid) (checked : ValidatedDirectoryEntry) : Except StorageError ChargingStore := do
  ensure (id ∉ store.mapPoints) .sqlite
  ensure (store.spots.find id = none) .sqlite
  .ok { store with
    mapPoints := store.mapPoints ++ [id]
    spots := store.spots.put id
      { input := none, owned := false, status := checked.entry.status, localRevision := .initial } }

def updateRemoteMetadata (id : Uuid) (entry : ChargingDirectoryEntry) (pendingVote : Bool) :
    Except StorageError ChargingStore := do
  ensure (store.remoteFree id entry.id = true) .sqlite
  .ok (store.updateSpot id fun row => { row with
    status := entry.status
    remoteId := some entry.id
    remoteRevision := entry.revision
    changeSequence := entry.changeSequence
    verifiedAtMs := entry.verifiedAtMs
    vote := if pendingVote then row.vote else entry.vote
    voteRevision := entry.voteRevision
    votesUp := entry.votesUp
    votesDown := entry.votesDown })

def restoreVote (id : Uuid) (current : StoredChargingSpot) (includeRevision : Bool) : ChargingStore :=
  store.updateSpot id fun row => { row with
    vote := current.vote
    voteRevision := if includeRevision then current.voteRevision else row.voteRevision }

end Entries

section Local
variable (store : ChargingStore)

def save (point fresh : Uuid) (input : NewChargingSpot) : Except StorageError (ChargingStore × ChargingWriteReceipt) := do
  let indexed ← store.updateSpatialIndex point input .queued
  ensure (indexed.spots.find point = none) .sqlite
  let inserted : ChargingStore := { indexed with
    spots := indexed.spots.put point
      { input := some input, owned := true, status := .queued, localRevision := .initial } }
  inserted.queue fresh point .initial (.create input)

/-- A spot takes changes while it is shown; its owner may also edit or withdraw a hidden one. -/
def admitsChange (current : StoredChargingSpot) (action : ChargingAction) : Bool :=
  current.status.visible || (current.owned && decide (current.status = .hidden) &&
    match action with
    | .edit _ | .withdraw => true
    | .create _ | .verify | .vote _ => false)

def checkOwner (current : StoredChargingSpot) : ChargingAction → Except StorageError Unit
  | .edit _ | .withdraw => ensure (current.owned = true) .chargingNotOwned
  | .create _ | .verify | .vote _ => .ok ()

def checkedChange (current : StoredChargingSpot) (expected : ChargingRevision) (action : ChargingAction) :
    Except StorageError ChargingRevision := do
  ensure (current.localRevision = expected) .chargingConflict
  ensure (admitsChange current action = true) .chargingConflict
  let revision ← expected.next
  ensure (action.isCreate = false) .chargingInvalidInput
  checkOwner current action
  .ok revision

def applyChange (current : StoredChargingSpot) (action : ChargingAction) : Except StorageError ChargingStore :=
  match action with
  | .edit input => do
    let indexed ← store.updateSpatialIndex current.pointId input current.status
    .ok (indexed.updateSpot current.pointId fun row => { row with input := some input, verifiedAtMs := none })
  | .withdraw => .ok ((store.removeSpatialIndex current.pointId).updateSpot current.pointId fun row =>
      { row with status := .withdrawn, input := none, verifiedAtMs := none })
  | .vote vote => .ok (store.updateSpot current.pointId fun row => { row with vote := vote })
  | .create _ | .verify => .ok store

def change (fresh id : Uuid) (expected : ChargingRevision) (action : ChargingAction) :
    Except StorageError (ChargingStore × ChargingWriteReceipt) := do
  let current ← orError (store.detail id) .notFound
  let revision ← checkedChange current expected action
  let applied ← store.applyChange current action
  (applied.updateLocalRevision id revision).queue fresh id revision action

end Local

section Receipts
variable (store : ChargingStore)

def cacheIsUnchanged (entry : ChargingDirectoryEntry) (current : StoredChargingSpot) : Except StorageError Bool := do
  ensure (current.remoteId = some entry.id ∧ store.hasPendingOperations current.pointId = false ∧
    current.changeSequence.value ≤ entry.changeSequence.value ∧ current.remoteRevision.value ≤ entry.revision.value ∧
    current.voteRevision.value ≤ entry.voteRevision.value) .chargingConflict
  .ok (decide (entry.changeSequence = current.changeSequence) && decide (entry.voteRevision = current.voteRevision))

/-- Takes an entry over the point it belongs to; a point known before counts the change. -/
def replaceCached (id : Uuid) (existing : Option Uuid) (checked : ValidatedDirectoryEntry) :
    Except StorageError (ChargingStore × Uuid) := do
  let applied ← store.applyEntry id checked .replaceBody
  if existing.isSome then
    let current ← orError (applied.detail id) .notFound
    let revision ← current.localRevision.next
    .ok (applied.updateLocalRevision id revision, id)
  else .ok (applied, id)

def cacheDirectoryEntry (entry : ChargingDirectoryEntry) : Except StorageError (ChargingStore × Uuid) := do
  let checked ← ValidatedDirectoryEntry.new entry
  let existing := store.findRemote entry.id
  let id := existing.getD entry.id
  match store.detail id with
  | some current =>
    let unchanged ← store.cacheIsUnchanged entry current
    if unchanged then .ok (store, id) else store.replaceCached id existing checked
  | none =>
    ensure (id ∉ store.mapPoints) .chargingConflict
    let inserted ← store.insertDirectory id checked
    inserted.replaceCached id existing checked

def cacheVote (remoteId : Uuid) (vote : Option ChargingVote) (voteRevision : ChargingRevision) (votesUp votesDown : Nat)
    (changeSequence : ChargingChangeCursor) : Except StorageError (ChargingStore × Uuid) := do
  ensure (votesUp ≤ i64Max ∧ votesDown ≤ i64Max) .chargingInvalidInput
  let id ← orError (store.findRemote remoteId) .notFound
  store.ensureActive
  let current ← orError (store.detail id) .notFound
  ensure (current.changeSequence.value ≤ changeSequence.value ∧ current.voteRevision.value ≤ voteRevision.value)
    .chargingConflict
  let revision ← current.localRevision.next
  .ok ((store.updateSpot id fun row => { row with
    vote := if store.hasPending id ChargingAction.isVote then row.vote else vote
    voteRevision := voteRevision
    votesUp := votesUp
    votesDown := votesDown
    changeSequence := changeSequence }).updateLocalRevision id revision, id)

def replayedAcknowledgment (id remoteId : Uuid) : Except StorageError (ChargingStore × Uuid) := do
  let point ← orError (store.spots.search fun _ row =>
    decide (row.lastAck = some id) && decide (row.remoteId = some remoteId)) .chargingConflict
  .ok (store, point)

/-- The revision an operation was sent against. -/
def expectedRevision (current : StoredChargingSpot) (action : ChargingAction) (target : ChargingTarget)
    (entry : ChargingDirectoryEntry) : Except StorageError ChargingRevision :=
  match target with
  | .create => do
    ensure (action.isCreate = true ∧ current.remoteId = none) .chargingConflict
    .ok .zero
  | .existing id expected => do
    ensure (id = entry.id ∧ current.remoteId = some id) .chargingConflict
    .ok expected

def validateAcknowledgment (current : StoredChargingSpot) (action : ChargingAction) (target : ChargingTarget)
    (applied : ChargingRevision) (entry : ChargingDirectoryEntry) : Except StorageError Unit := do
  let expected ← expectedRevision current action target entry
  let following ← expected.next
  ensure (applied = following ∧ current.remoteRevision.value ≤ entry.revision.value ∧
    current.changeSequence.value ≤ entry.changeSequence.value ∧
    (current.status.visible = true ∨ entry.status ≠ .published ∨
      current.changeSequence.value < entry.changeSequence.value) ∧
    current.voteRevision.value ≤ entry.voteRevision.value ∧
    (if action.isVote then applied.value ≤ entry.voteRevision.value else applied.value ≤ entry.revision.value))
    .chargingConflict

def removeOperation (id : Uuid) : ChargingStore := store.deleteOperations fun row => decide (row.operationId = id)

def rememberAcknowledgment (point id : Uuid) : ChargingStore :=
  store.updateSpot point fun row => { row with lastAck := some id }

/-- A spot still queued is published with the entry although other operations wait. -/
def preservePendingPublication (current : StoredChargingSpot) (entry : ChargingDirectoryEntry) (pending : Bool) :
    ChargingStore :=
  if pending = true ∧ current.status = .queued ∧ entry.status = .published then
    store.updateSpot current.pointId fun row => { row with status := .published }
  else store

def acknowledgeOperation (id : Uuid) (applied : ChargingRevision) (entry : ChargingDirectoryEntry) :
    Except StorageError (ChargingStore × Uuid) := do
  let checked ← ValidatedDirectoryEntry.new entry
  store.ensureActive
  match store.pendingOperationById id with
  | none => store.replayedAcknowledgment id entry.id
  | some row =>
    let current ← orError (store.detail row.pointId) .notFound
    let target ← orError row.target .chargingConflict
    validateAcknowledgment current row.action target applied entry
    let removed := store.removeOperation id
    let pending := removed.hasPendingOperations row.pointId
    let preserved := removed.preservePendingPublication current entry pending
    let taken ← preserved.applyEntry row.pointId checked (if pending then .preserveLocal else .replaceBody)
    .ok (taken.rememberAcknowledgment row.pointId id, row.pointId)

/-- The entry a vote receipt stands for: the stored body with the receipt's votes. -/
def voteEntry (current : StoredChargingSpot) (remoteId : Uuid) (receipt : ChargingVoteReceipt) : ChargingDirectoryEntry where
  id := remoteId
  input := current.input
  revision := current.remoteRevision
  changeSequence := current.changeSequence
  status := current.status
  verifiedAtMs := current.verifiedAtMs
  vote := receipt.vote
  voteRevision := receipt.voteRevision
  votesUp := receipt.votesUp
  votesDown := receipt.votesDown

def acknowledgeVoteOperation (id : Uuid) (receipt : ChargingVoteReceipt) :
    Except StorageError (ChargingStore × Uuid) := do
  ensure (receipt.votesUp ≤ i64Max ∧ receipt.votesDown ≤ i64Max) .chargingInvalidInput
  store.ensureActive
  match store.pendingOperationById id with
  | none =>
    let point ← orError (store.spots.search fun _ row => decide (row.lastAck = some id)) .chargingConflict
    let remoteId ← orError ((store.spots.find point).bind SpotRow.remoteId) .chargingConflict
    store.replayedAcknowledgment id remoteId
  | some row =>
    let current ← orError (store.detail row.pointId) .notFound
    ensure (row.action.isVote = true) .chargingConflict
    let target ← orError row.target .chargingConflict
    let remoteId ← orError current.remoteId .chargingConflict
    validateAcknowledgment current row.action target receipt.appliedRevision (voteEntry current remoteId receipt)
    ensure (current.changeSequence.value ≤ receipt.changeSequence.value) .chargingConflict
    let removed := store.removeOperation id
    .ok ((removed.updateSpot row.pointId fun spot => { spot with
      vote := if removed.hasPending row.pointId ChargingAction.isVote then spot.vote else receipt.vote
      voteRevision := receipt.voteRevision
      votesUp := receipt.votesUp
      votesDown := receipt.votesDown }).rememberAcknowledgment row.pointId id, row.pointId)

end Receipts

section Pages
variable (store : ChargingStore)

/-- Whether an entry takes an operation's base away from it. -/
def conflictsWith (current : StoredChargingSpot) (entry : ChargingDirectoryEntry) (row : OutboxRow) : Bool :=
  let expected := match row.target with
    | some (.existing _ expectedRevision) => some expectedRevision
    | some .create | none => none
  let (old, incoming) := if row.action.isVote then (current.voteRevision, entry.voteRevision)
    else (current.remoteRevision, entry.revision)
  !entry.status.visible || decide (current.status ≠ entry.status) || decide ((expected.getD old).value < incoming.value)

/-- Freezes the operations an entry conflicts with and names the first of them. -/
def reviewRows (current : StoredChargingSpot) (entry : ChargingDirectoryEntry) (store : ChargingStore) :
    List OutboxRow → Except StorageError (ChargingStore × Option Uuid)
  | [] => .ok (store, none)
  | row :: later =>
    if conflictsWith current entry row then do
      let (frozen, _) ← store.freezeTarget row.operationId row.action row.target current
      let (reviewed, _) ← reviewRows current entry frozen later
      .ok (reviewed, some row.operationId)
    else reviewRows current entry store later

/-- The body a blocked operation keeps for review. -/
def draftFor (current : StoredChargingSpot) (action : ChargingAction) : Option NewChargingSpot :=
  if action.carriesFields then current.input else none

def keepConflict (operationId : Uuid) (draft : Option NewChargingSpot) (remote : Option ChargingDirectoryEntry) :
    ChargingStore :=
  let kept := match store.conflicts.find operationId with
    | some row => { localDraft := row.localDraft.or draft, remoteEntry := remote.or row.remoteEntry }
    | none => { localDraft := draft, remoteEntry := remote }
  { store with conflicts := store.conflicts.put operationId kept }

def storeConflict (operationId : Uuid) (current : StoredChargingSpot) (remote : ChargingDirectoryEntry) :
    Except StorageError ChargingStore := do
  let row ← orError (store.findOperation operationId) .sqlite
  .ok ((store.updateOperation operationId fun row =>
    { row with blockedKind := row.blockedKind.or (some .conflict) }).keepConflict operationId
      (draftFor current row.action) (some remote))

/-- Reviews the operations that wait; the first conflict is kept, and counted if it is new. -/
def reviewPendingChanges (id : Uuid) (current : StoredChargingSpot) (entry : ChargingDirectoryEntry) :
    Except StorageError (ChargingStore × Nat) := do
  let (reviewed, conflict) ← reviewRows current entry store (store.operationsOf id)
  match conflict with
  | none => .ok (reviewed, 0)
  | some operationId =>
    let row ← orError (reviewed.findOperation operationId) .sqlite
    let kept ← reviewed.storeConflict operationId current entry
    .ok (kept, if row.blockedKind.isSome then 0 else 1)

/-- An entry for a point with pending operations. -/
def applyBesidePending (id : Uuid) (current : StoredChargingSpot) (checked : ValidatedDirectoryEntry)
    (hasPendingFields : Bool) : Except StorageError ChargingStore :=
  let entry := checked.entry
  if current.status = .withdrawn ∧ entry.status = .published then do
    let updated ← store.updateRemoteMetadata id entry current.pendingVote
    .ok ((updated.updateSpot id fun row => { row with status := .withdrawn }).removeSpatialIndex id)
  else do
    let applied ← store.applyEntry id checked
      (if hasPendingFields = true ∧ entry.status.visible = true then .preserveInput else .replaceBody)
    .ok (
      if current.pendingVote = true ∨ entry.voteRevision = .zero then
        applied.restoreVote id current (decide (entry.voteRevision = .zero))
      else if entry.input = none ∧ entry.status ≠ .published then
        (applied.restoreVote id current true).updateSpot id fun row =>
          { row with votesUp := current.votesUp, votesDown := current.votesDown }
      else applied)

/-- An entry for a point without pending operations. -/
def applyAlone (id : Uuid) (current : StoredChargingSpot) (checked : ValidatedDirectoryEntry) :
    Except StorageError ChargingStore :=
  let entry := checked.entry
  if current.status = .withdrawn ∧ entry.status = .published then do
    let updated ← store.updateRemoteMetadata id entry false
    .ok (updated.removeSpatialIndex id)
  else do
    let applied ← store.applyEntry id checked .replaceBody
    .ok (if entry.voteRevision = .zero then applied.restoreVote id current true else applied)

/-- An entry newer than what is stored of its point. -/
def applyNewer (id : Uuid) (current : StoredChargingSpot) (checked : ValidatedDirectoryEntry) :
    Except StorageError (ChargingStore × Nat) := do
  let entry := checked.entry
  ensure (current.remoteRevision.value ≤ entry.revision.value ∧
    (entry.voteRevision = .zero ∨ current.voteRevision.value ≤ entry.voteRevision.value)) .chargingConflict
  if 0 < current.pendingOperations then
    let (reviewed, blocked) ← store.reviewPendingChanges id current entry
    let applied ← reviewed.applyBesidePending id current checked (store.hasPending id ChargingAction.carriesFields)
    let revision ← current.localRevision.next
    .ok (applied.updateLocalRevision id revision, blocked)
  else
    let applied ← store.applyAlone id current checked
    let revision ← current.localRevision.next
    .ok (applied.updateLocalRevision id revision, 0)

def applyChangeEntry (entry : ChargingDirectoryEntry) : Except StorageError (ChargingStore × Nat) := do
  let checked ← ValidatedDirectoryEntry.new entry
  match store.findRemote entry.id with
  | none =>
    let inserted ← store.insertDirectory entry.id checked
    let applied ← inserted.applyEntry entry.id checked .replaceBody
    .ok (applied, 0)
  | some id =>
    let current ← orError (store.detail id) .notFound
    if entry.changeSequence.value ≤ current.changeSequence.value then .ok (store, 0)
    else store.applyNewer id current checked

/-- Every entry is valid, in the order of its sequence and not past the new cursor. -/
def checkPage (next : Nat) : Option Nat → List ChargingDirectoryEntry → Except StorageError Unit
  | _, [] => .ok ()
  | previous, entry :: later => do
    ensure entry.Valid .chargingInvalidInput
    ensure ((previous.all fun value => decide (value < entry.changeSequence.value)) = true ∧
      entry.changeSequence.value ≤ next) .chargingInvalidInput
    checkPage next (some entry.changeSequence.value) later

/-- Applies the entries past the cursor, with how many were applied and how many operations were blocked. -/
def applyEntries (cursor : Nat) (store : ChargingStore) :
    List ChargingDirectoryEntry → Except StorageError (ChargingStore × Nat × Nat)
  | [] => .ok (store, 0, 0)
  | entry :: later =>
    if entry.changeSequence.value ≤ cursor then applyEntries cursor store later
    else do
      let (applied, blocked) ← store.applyChangeEntry entry
      let (final, count, others) ← applyEntries cursor applied later
      .ok (final, count + 1, blocked + others)

def applyChangesPage (entries : List ChargingDirectoryEntry) (nextCursor : ChargingChangeCursor) (now : Nat) :
    Except StorageError (ChargingStore × ChargingPageApplyResult) := do
  ensure (entries.length ≤ chargingSyncPageLimit) .chargingInvalidInput
  checkPage nextCursor.value none entries
  ensure (store.cursor.value ≤ nextCursor.value) .chargingInvalidInput
  let (applied, count, blocked) ← applyEntries store.cursor.value store entries
  ensure (now ≤ i64Max) .chargingInvalidInput
  .ok ({ applied with cursor := nextCursor, lastRefreshedAtMs := some now }, ⟨nextCursor, count, blocked⟩)

end Pages

section Review
variable (store : ChargingStore)

def blockOperation (id : Uuid) (kind : ChargingOperationBlockKind) : Except StorageError ChargingStore := do
  let row ← orError (store.outbox.find? fun row => decide (row.operationId = id) && row.target.isSome) .chargingConflict
  let current ← orError (store.detail row.pointId) .notFound
  .ok ((store.updateOperation id fun row => { row with blockedKind := some kind }).keepConflict id
    (draftFor current row.action) none)

def retainedEntry (entry : Option ChargingDirectoryEntry) : Except StorageError (Option ValidatedDirectoryEntry) :=
  match entry with
  | none => .ok none
  | some entry => do
    let checked ← ValidatedDirectoryEntry.new entry
    .ok (some checked)

def removeSupersededFieldOperations (id selected : Uuid) (sequence : Nat) (supersedeFields : Bool) : ChargingStore :=
  store.deleteOperations fun row => decide (row.pointId = id) && (decide (row.operationId = selected) ||
    (supersedeFields && decide (sequence < row.sequence) && row.action.carriesFields))

/-- A pending body stands above an accepted one where the spot is shown. -/
def restoreFields (id : Uuid) (input : Option NewChargingSpot) (restores : Bool) (status : ChargingStatus) :
    Except StorageError ChargingStore :=
  match input with
  | some input =>
    if restores = true ∧ status.visible = true then do
      let indexed ← store.updateSpatialIndex id input status
      .ok (indexed.updateSpot id fun row => { row with input := some input })
    else .ok store
  | none => .ok store

/-- What operations still ask for stands above an accepted entry. -/
def restorePendingLocalState (current : StoredChargingSpot) (acceptedStatus : ChargingStatus) :
    Except StorageError ChargingStore := do
  let id := current.pointId
  let voted := if store.hasPending id ChargingAction.isVote then
    store.updateSpot id fun row => { row with vote := current.vote } else store
  let placed ← voted.restoreFields id current.input (store.hasPending id ChargingAction.carriesFields) acceptedStatus
  .ok (if store.hasPending id ChargingAction.isWithdraw then
    (placed.removeSpatialIndex id).updateSpot id fun row => { row with status := .withdrawn, input := none } else placed)

/-- A blocked operation, the point it belongs to and what was kept for review. -/
structure Reviewed where
  row : OutboxRow
  kind : ChargingOperationBlockKind
  current : StoredChargingSpot
  localDraft : Option NewChargingSpot
  remote : Option ValidatedDirectoryEntry

def reviewed (id : Uuid) (expectedLocalRevision : ChargingRevision) : Except StorageError Reviewed := do
  let row ← orError (store.findOperation id) .chargingConflict
  let kind ← orError row.blockedKind .sqlite
  let current ← orError (store.detail row.pointId) .notFound
  ensure (current.localRevision = expectedLocalRevision) .chargingConflict
  let conflict ← orError (store.conflicts.find id) .chargingConflict
  let remote ← retainedEntry conflict.remoteEntry
  .ok ⟨row, kind, current, conflict.localDraft, remote⟩

/-- An operation may be sent again: it was not refused for good and its spot is shown. -/
def retryable (review : Reviewed) : Bool :=
  (decide (review.kind ≠ .invalid) || review.row.action.isWithdraw) &&
    review.remote.all fun checked => checked.entry.status.visible

def retryOperation (review : Reviewed) (id : Uuid) : Except StorageError ChargingStore := do
  ensure (retryable review = true) .chargingConflict
  .ok ((store.updateOperation id fun row => { row with blockedKind := none }).deleteConflict id)

/-- The body a rebased operation keeps: the draft, else the stored one. -/
def rebasedDraft (review : Reviewed) : Option NewChargingSpot :=
  if review.row.action.carriesFields then review.localDraft.or review.current.input else none

def placeDraft (id : Uuid) (draft : Option NewChargingSpot) (status : ChargingStatus) : Except StorageError ChargingStore :=
  match draft with
  | some input => (store.updateSpot id fun row => { row with input := some input }).updateSpatialIndex id input status
  | none => .ok store

def rebaseOperation (fresh : Uuid) (review : Reviewed) (id : Uuid) : Except StorageError ChargingStore := do
  ensure (retryable review = true) .chargingConflict
  let point := review.row.pointId
  let drafted ← store.placeDraft point (rebasedDraft review) review.current.status
  ensure (fresh = id ∨ drafted.findOperation fresh = none) .sqlite
  let revision ← review.current.localRevision.next
  .ok (((drafted.deleteConflict id).updateOperation id fun row =>
    { row with operationId := fresh, blockedKind := none, target := none }).updateLocalRevision point revision)

/-- A create the server refused is given up with everything queued behind it. -/
def abandonCreate (review : Reviewed) (expectedLocalRevision : ChargingRevision) : Except StorageError ChargingStore := do
  ensure (review.kind = .invalid ∧ review.current.remoteId = none ∧ review.row.action.isCreate = true) .chargingConflict
  let point := review.row.pointId
  let revision ← review.current.localRevision.next
  let removed := store.deleteOperations fun row =>
    decide (row.pointId = point) && decide (row.localRevision.value ≤ expectedLocalRevision.value)
  .ok ((removed.updateSpot point fun row =>
    { row with status := .withdrawn, localRevision := revision }).removeSpatialIndex point)

def acceptEntry (review : Reviewed) (id : Uuid) (checked : ValidatedDirectoryEntry) :
    Except StorageError ChargingStore := do
  ensure (review.current.changeSequence.value ≤ checked.entry.changeSequence.value ∧
    review.current.remoteRevision.value ≤ checked.entry.revision.value) .chargingConflict
  let point := review.row.pointId
  let removed := store.removeSupersededFieldOperations point id review.row.sequence review.row.action.carriesFields
  let applied ← removed.applyEntry point checked .replaceBody
  let restored ← applied.restorePendingLocalState review.current checked.entry.status
  let revision ← review.current.localRevision.next
  .ok ((restored.updateLocalRevision point revision).deleteConflict id)

def resolveOperation (fresh id : Uuid) (expectedLocalRevision : ChargingRevision)
    (resolution : ChargingOperationResolution) : Except StorageError ChargingStore := do
  store.ensureActive
  let review ← store.reviewed id expectedLocalRevision
  match resolution with
  | .retry => store.retryOperation review id
  | .rebaseKeepingLocal => store.rebaseOperation fresh review id
  | .acceptServer =>
    match review.remote with
    | none => store.abandonCreate review expectedLocalRevision
    | some checked => store.acceptEntry review id checked

/-- What a replaced operation becomes: an edit of a published spot, else a new create. -/
def replacement (current : StoredChargingSpot) (input : NewChargingSpot) : Except StorageError ChargingAction :=
  if current.remoteId.isSome then do
    ensure (current.status = .published) .chargingConflict
    .ok (.edit input)
  else do
    ensure (current.status = .queued) .chargingConflict
    .ok (.create input)

def replaceBlockedOperation (fresh id : Uuid) (expectedLocalRevision : ChargingRevision) (input : NewChargingSpot) :
    Except StorageError (ChargingStore × ChargingWriteReceipt) := do
  store.ensureActive
  let row ← orError (store.findOperation id) .chargingConflict
  let _ ← orError row.blockedKind .sqlite
  let point := row.pointId
  let current ← orError (store.detail point) .notFound
  ensure (current.localRevision = expectedLocalRevision ∧ current.owned = true) .chargingConflict
  let remote ← retainedEntry ((store.conflicts.find id).bind ConflictRow.remoteEntry)
  ensure ((remote.all fun checked => checked.entry.status.visible) = true) .chargingConflict
  let action ← replacement current input
  let removed := store.removeSupersededFieldOperations point id row.sequence row.action.carriesFields
  let revision ← current.localRevision.next
  let indexed ← (removed.updateSpot point fun spot =>
    { spot with input := some input, localRevision := revision }).updateSpatialIndex point input current.status
  let target := current.remoteId.map fun remoteId =>
    ChargingTarget.existing remoteId ((remote.map fun checked => checked.entry.revision).getD current.remoteRevision)
  indexed.queueAtSequence fresh row.sequence point revision action target

end Review

/-- Deletion is begun from an active account and completed once; other events change nothing. -/
def applyAccount (store : ChargingStore) (event : AccountEvent) :
    Except StorageError (ChargingStore × CommunityAccountState) :=
  match store.account, event with
  | .active, .beginDeletion => .ok ({ store with account := .deleting }, .deleting)
  | .deleting, .completeDeletion atMs => do
    ensure (atMs ≤ i64Max) .chargingInvalidInput
    .ok ({ store.deleteOperations fun _ => true with
      spots := store.spots.mapValues fun row =>
        { row with owned := false, vote := none, voteRevision := .zero, lastAck := none }
      account := .deleted atMs
      cursor := .zero
      lastRefreshedAtMs := none }, .deleted atMs)
  | .active, .completeDeletion _ => .error .chargingConflict
  | state, _ => .ok (store, state)

end ChargingStore

/-- One call, with the identifiers and the time it draws. -/
inductive ChargingCall where
  | account (event : AccountEvent)
  | save (point fresh : Uuid) (input : NewChargingSpot)
  | change (fresh id : Uuid) (expected : ChargingRevision) (action : ChargingAction)
  | nextOperation
  | cacheDirectoryEntry (entry : ChargingDirectoryEntry)
  | acknowledgeOperation (id : Uuid) (applied : ChargingRevision) (entry : ChargingDirectoryEntry)
  | acknowledgeVoteOperation (id : Uuid) (receipt : ChargingVoteReceipt)
  | applyChangesPage (entries : List ChargingDirectoryEntry) (nextCursor : ChargingChangeCursor) (now : Nat)
  | cacheVote (remoteId : Uuid) (vote : Option ChargingVote) (voteRevision : ChargingRevision)
      (votesUp votesDown : Nat) (changeSequence : ChargingChangeCursor)
  | blockOperation (id : Uuid) (kind : ChargingOperationBlockKind)
  | resolveOperation (fresh id : Uuid) (expectedLocalRevision : ChargingRevision)
      (resolution : ChargingOperationResolution)
  | replaceBlockedOperation (fresh id : Uuid) (expectedLocalRevision : ChargingRevision) (input : NewChargingSpot)

inductive ChargingReply where
  | failed (error : StorageError)
  | done
  | account (state : CommunityAccountState)
  | written (receipt : ChargingWriteReceipt)
  | operation (operation : Option ChargingOperation)
  | point (id : Uuid)
  | page (result : ChargingPageApplyResult)
  deriving Repr, DecidableEq

namespace ChargingStore

/-- A call that fails is rolled back. -/
def commit {α : Type} (store : ChargingStore) (outcome : Except StorageError (ChargingStore × α))
    (reply : α → ChargingReply) : ChargingStore × ChargingReply :=
  match outcome with
  | .ok (after, value) => (after, reply value)
  | .error error => (store, .failed error)

def step (store : ChargingStore) : ChargingCall → ChargingStore × ChargingReply
  | .account event => store.commit (store.applyAccount event) .account
  | .save point fresh input => store.commit (store.save point fresh input) .written
  | .change fresh id expected action => store.commit (store.change fresh id expected action) .written
  | .nextOperation => store.commit store.nextOperation .operation
  | .cacheDirectoryEntry entry => store.commit (store.cacheDirectoryEntry entry) .point
  | .acknowledgeOperation id applied entry => store.commit (store.acknowledgeOperation id applied entry) .point
  | .acknowledgeVoteOperation id receipt => store.commit (store.acknowledgeVoteOperation id receipt) .point
  | .applyChangesPage entries nextCursor now => store.commit (store.applyChangesPage entries nextCursor now) .page
  | .cacheVote remoteId vote voteRevision votesUp votesDown changeSequence =>
    store.commit (store.cacheVote remoteId vote voteRevision votesUp votesDown changeSequence) .point
  | .blockOperation id kind => store.commit ((store.blockOperation id kind).map fun after => (after, ())) fun _ => .done
  | .resolveOperation fresh id expected resolution =>
    store.commit ((store.resolveOperation fresh id expected resolution).map fun after => (after, ())) fun _ => .done
  | .replaceBlockedOperation fresh id expected input =>
    store.commit (store.replaceBlockedOperation fresh id expected input) .written

end ChargingStore

end Cutout.Charging

import Mathlib.Data.List.Perm.Subperm
import Cutout.Proofs.ReviewRows

/-! What the user can do about a blocked operation. The operation is sent again, given up for
the server's version or made anew; a condition on its spot and on what was retained says when
one of these succeeds, and where it fails the operation holds up its point. -/

namespace Cutout.Charging
open Library
variable {revision : ChargingRevision}

section Checks
variable {α : Type}

theorem succeeds_ensure {condition : Prop} [Decidable condition] {error : StorageError} {rest : Unit → Except StorageError α} :
    Succeeds (ensure condition error >>= rest) ↔ condition ∧ Succeeds (rest ()) := by
  unfold ensure
  constructor
  · intro done
    obtain ⟨_, ensured, done⟩ := succeeds_bind.mp done
    exact ⟨ensure_ok ensured, done⟩
  · rintro ⟨holds, done⟩
    rw [if_pos holds]
    exact done

theorem ChargingRevision.next_less {following : ChargingRevision} (next : revision.next = .ok following) :
    revision.value < i64Max := by
  have bounded := following.bounded
  rw [ChargingRevision.next_ok next] at bounded
  exact bounded

theorem ChargingRevision.succeeds_next {rest : ChargingRevision → Except StorageError α}
    (goes : ∀ following, Succeeds (rest following)) : Succeeds (revision.next >>= rest) ↔ revision.value < i64Max := by
  constructor
  · intro done
    obtain ⟨following, next, -⟩ := succeeds_bind.mp done
    exact next_less next
  · intro less
    refine succeeds_bind.mpr ⟨⟨revision.value + 1, less⟩, ?_, goes _⟩
    unfold ChargingRevision.next ChargingRevision.new
    rw [dif_pos (show revision.value + 1 ≤ i64Max from less)]

end Checks

namespace ChargingStore
variable {before middle after store : ChargingStore} {fresh id point key : Uuid} {entry : ChargingDirectoryEntry}
variable {status : ChargingStatus} {input : NewChargingSpot}

  {spot : SpotRow} {operation : OutboxRow} {review : Reviewed} {checked : ValidatedDirectoryEntry}

def retained (store : ChargingStore) (operation : OutboxRow) : Option ChargingDirectoryEntry :=
  (store.conflicts.find operation.operationId).bind ConflictRow.remoteEntry

def HasRoom (store : ChargingStore) (point : Uuid) : Prop :=
  ∃ key, (store.index.addKey point).keys.find point = some key ∧ key ≤ SpatialIndex.largestSpatialRowId

theorem updateSpatialIndex_succeeds : Succeeds (before.updateSpatialIndex id input status) ↔ HasRoom before id := by
  unfold ChargingStore.updateSpatialIndex SpatialIndex.update
  constructor
  · intro done
    obtain ⟨index, updated, -⟩ := succeeds_bind.mp done
    dsimp only at updated
    split at updated
    · cases updated
    · next key known =>
      obtain ⟨_, small, -⟩ := ok_bind updated
      exact ⟨key, known, ensure_ok small⟩
  · rintro ⟨key, known, small⟩
    dsimp only
    rw [known]
    have fits : ensure (key ≤ SpatialIndex.largestSpatialRowId) .sqlite = .ok () := if_pos small
    simp only [fits]
    exact succeeds_ok _

private theorem updateSpatialIndex_room (done : before.updateSpatialIndex id input status = .ok after) : HasRoom after id := by
  obtain ⟨key, known, small⟩ := updateSpatialIndex_succeeds.mp ⟨after, done⟩
  unfold ChargingStore.updateSpatialIndex SpatialIndex.update at done
  obtain ⟨index, updated, done⟩ := ok_bind done
  cases done
  dsimp only at updated
  rw [known] at updated
  obtain ⟨_, -, updated⟩ := ok_bind updated
  have keys : index.keys = (before.index.addKey id).keys := by
    cases updated
    split
    · exact SpatialIndex.remove_keys
    · exact SpatialIndex.remove_keys
  have held : index.keys.find id = some key := by rw [keys, known]
  refine ⟨key, ?_, small⟩
  show (index.addKey id).keys.find id = some key
  unfold SpatialIndex.addKey
  rw [dif_neg (by rw [held]; exact Option.some_ne_none key)]
  exact held

/-- A point and what was retained of it let one decision succeed: the operation is sent again, its create
is given up, the retained version is taken, or the account's own published spot is edited anew. -/
inductive Resolvable (store : ChargingStore) (operation : OutboxRow) (spot : SpotRow) : Prop where
  | again (kind : operation.blockedKind = some .conflict ∨ operation.action.isWithdraw = true)
      (shown : ∀ entry, store.retained operation = some entry → entry.status.visible = true)
  | given (counts : spot.localRevision.value < i64Max) (unknown : spot.remoteId = none)
  | taken (counts : spot.localRevision.value < i64Max) (entry : ChargingDirectoryEntry)
      (kept : store.retained operation = some entry)
      (newest : spot.changeSequence.value ≤ entry.changeSequence.value ∧ spot.remoteRevision.value ≤ entry.revision.value)
      (room : entry.status.visible = true → HasRoom store operation.pointId)
  | edited (counts : spot.localRevision.value < i64Max) (owned : spot.owned = true) (published : spot.status = .published)
      (shown : ∀ entry, store.retained operation = some entry → entry.status.visible = true)
      (room : HasRoom store operation.pointId)

/-- Under a new identifier and with the revision the point has now, some decision about the operation
or its replacement by the input succeeds. -/
def Answerable (store : ChargingStore) (operation : OutboxRow) (spot : SpotRow) (input : NewChargingSpot) : Prop :=
  ∃ fresh, store.findOperation fresh = none ∧
    ((∃ resolution, Succeeds (store.resolveOperation fresh operation.operationId spot.localRevision resolution)) ∨
      Succeeds (store.replaceBlockedOperation fresh operation.operationId spot.localRevision input))

structure Reviews (store : ChargingStore) (operation : OutboxRow) (spot : SpotRow) (review : Reviewed) : Prop where
  ready : store.reviewed operation.operationId spot.localRevision = .ok review
  row : review.row = operation
  kind : operation.blockedKind = some review.kind
  current : review.current.toSpotRow = spot
  placed : review.current.pointId = operation.pointId
  detailed : store.detail operation.pointId = some review.current
  remote : review.remote.map ValidatedDirectoryEntry.entry = store.retained operation

theorem Rows.findOperation (rows : Rows store) (member : operation ∈ store.outbox) :
    store.findOperation operation.operationId = some operation := by
  cases found : store.findOperation operation.operationId with
  | none =>
    have absent := List.find?_eq_none.mp found operation member
    simp at absent
  | some other =>
    obtain ⟨inside, same⟩ := findOperation_some found
    rw [rows.only member inside same]

theorem retainedEntry_checked (remote : Option ValidatedDirectoryEntry) :
    retainedEntry (remote.map ValidatedDirectoryEntry.entry) = .ok remote := by
  cases remote with
  | none => rfl
  | some checked =>
    refine bind_eq_ok.mpr ⟨checked, ?_, rfl⟩
    unfold ValidatedDirectoryEntry.new
    rw [dif_pos checked.valid]

private theorem retainedEntry_valid {retained : Option ChargingDirectoryEntry} (valid : ∀ entry, retained = some entry → entry.Valid) :
    ∃ remote, retainedEntry retained = .ok remote := by
  cases retained with
  | none => exact ⟨none, rfl⟩
  | some entry => exact ⟨some ⟨entry, valid entry rfl⟩, retainedEntry_checked (some ⟨entry, valid entry rfl⟩)⟩

theorem Reviewing.reviews (reviewing : Reviewing store) (member : operation ∈ store.outbox)
    (blocked : operation.blockedKind.isSome = true) (known : store.spots.find operation.pointId = some spot) :
    ∃ review, Reviews store operation spot review := by
  obtain ⟨kind, kinds⟩ := Option.isSome_iff_exists.mp blocked
  obtain ⟨conflict, kept⟩ := reviewing.blocked operation member blocked
  obtain ⟨remote, reads⟩ := retainedEntry_valid (reviewing.valid _ conflict kept)
  have found := reviewing.toRows.findOperation member
  obtain ⟨current, detailed⟩ : ∃ current, store.detail operation.pointId = some current := ⟨_, by rw [detail, known]; rfl⟩
  obtain ⟨held, also, same⟩ := detail_some detailed
  cases known.symm.trans also
  have equal : current.toSpotRow = spot := by rw [same]
  have revised : current.localRevision = spot.localRevision := by rw [← equal]
  refine ⟨⟨operation, kind, current, conflict.localDraft, remote⟩, ?_, rfl, kinds, equal, by rw [same], detailed, ?_⟩
  · unfold reviewed
    refine bind_eq_ok.mpr ⟨operation, by rw [found]; rfl, ?_⟩
    refine bind_eq_ok.mpr ⟨kind, by rw [kinds]; rfl, ?_⟩
    refine bind_eq_ok.mpr ⟨current, by rw [detailed]; rfl, ?_⟩
    refine bind_eq_ok.mpr ⟨(), if_pos revised, ?_⟩
    refine bind_eq_ok.mpr ⟨conflict, by rw [kept]; rfl, ?_⟩
    exact bind_eq_ok.mpr ⟨remote, reads, rfl⟩
  · rw [retainedEntry_ok reads, retained, kept]
    rfl

theorem retry_succeeds : Succeeds (store.retryOperation review id) ↔ retryable review = true := by
  unfold retryOperation
  rw [succeeds_ensure]
  exact and_iff_left (succeeds_ok _)

private theorem rebase_retryable (rebases : Succeeds (store.rebaseOperation fresh review id)) : retryable review = true := by
  unfold rebaseOperation at rebases
  exact (succeeds_ensure.mp rebases).1

namespace Reviews

section Decisions
variable (reviews : Reviews store operation spot review) (active : store.account = .active)
include reviews active

theorem retries : store.resolveOperation fresh operation.operationId spot.localRevision .retry =
    store.retryOperation review operation.operationId := by
  have begins : store.ensureActive = .ok () := if_pos active
  unfold resolveOperation
  rw [begins, reviews.ready]
  rfl

theorem rebases : store.resolveOperation fresh operation.operationId spot.localRevision .rebaseKeepingLocal =
    store.rebaseOperation fresh review operation.operationId := by
  have begins : store.ensureActive = .ok () := if_pos active
  unfold resolveOperation
  rw [begins, reviews.ready]
  rfl

theorem abandons (unsent : review.remote = none) :
    store.resolveOperation fresh operation.operationId spot.localRevision .acceptServer =
      store.abandonCreate review spot.localRevision := by
  have begins : store.ensureActive = .ok () := if_pos active
  unfold resolveOperation
  simp only [begins, reviews.ready, bind, Except.bind, unsent]

theorem accepts (sent : review.remote = some checked) :
    store.resolveOperation fresh operation.operationId spot.localRevision .acceptServer =
      store.acceptEntry review operation.operationId checked := by
  have begins : store.ensureActive = .ok () := if_pos active
  unfold resolveOperation
  simp only [begins, reviews.ready, bind, Except.bind, sent]

end Decisions

theorem shown_iff (reviews : Reviews store operation spot review) :
    (review.remote.all fun checked => checked.entry.status.visible) = true ↔
      ∀ entry, store.retained operation = some entry → entry.status.visible = true := by
  rw [← reviews.remote]
  cases review.remote with
  | none | some => simp

theorem retryable_iff (reviews : Reviews store operation spot review) : retryable review = true ↔
    (operation.blockedKind = some .conflict ∨ operation.action.isWithdraw = true) ∧
      ∀ entry, store.retained operation = some entry → entry.status.visible = true := by
  have kinds : review.kind ≠ .invalid ↔ operation.blockedKind = some .conflict := by
    rw [reviews.kind, Option.some.injEq]
    cases review.kind with
    | conflict | invalid => simp
  unfold retryable
  rw [Bool.and_eq_true, Bool.or_eq_true, decide_eq_true_eq, kinds, reviews.shown_iff, reviews.row]

theorem abandon_succeeds (reviews : Reviews store operation spot review) :
    Succeeds (store.abandonCreate review spot.localRevision) ↔
      (review.kind = .invalid ∧ spot.remoteId = none ∧ operation.action.isCreate = true) ∧
        spot.localRevision.value < i64Max := by
  unfold abandonCreate
  rw [succeeds_ensure, ChargingRevision.succeeds_next fun _ => succeeds_ok _, reviews.row, reviews.current]

end Reviews

theorem applyEntry_room (body : checked.entry.input.isSome = true)
    (done : before.applyEntry id checked .replaceBody = .ok after) : HasRoom before id ∧ HasRoom after id := by
  unfold ChargingStore.applyEntry at done
  dsimp only at done
  obtain ⟨placed, applied, done⟩ := ok_bind done
  obtain ⟨_, -, done⟩ := ok_bind done
  unfold ChargingStore.applyBody at applied
  obtain ⟨indexed, places, applied⟩ := ok_bind applied
  cases applied
  cases done
  obtain ⟨input, same⟩ := Option.isSome_iff_exists.mp body
  rw [seenEntry_input, same] at places
  have room : HasRoom indexed id := updateSpatialIndex_room places
  exact ⟨updateSpatialIndex_succeeds.mp ⟨indexed, places⟩, room⟩

private theorem applyEntry_succeeds (known : before.spots.find id = some spot) (free : Free before id checked.entry.id)
    (room : checked.entry.input.isSome = true → HasRoom before id) :
    Succeeds (before.applyEntry id checked .replaceBody) := by
  unfold ChargingStore.applyEntry
  dsimp only
  have placed : Succeeds (before.placeBody id (before.seenEntry checked.entry).input (before.seenEntry checked.entry).status) := by
    rw [seenEntry_input]
    unfold placeBody
    cases body : checked.entry.input with
    | none => exact succeeds_ok _
    | some input => exact updateSpatialIndex_succeeds.mpr (room (by rw [body]; rfl))
  obtain ⟨indexed, places⟩ := placed
  have applied : before.applyBody id (before.seenEntry checked.entry) .replaceBody = .ok (indexed.updateSpot id fun row =>
      { row with
        input := (before.seenEntry checked.entry).input
        status := (before.seenEntry checked.entry).status
        vote := (before.seenEntry checked.entry).vote }) := bind_eq_ok.mpr ⟨indexed, places, rfl⟩
  refine succeeds_bind.mpr ⟨_, applied, succeeds_ensure.mpr ⟨?_, succeeds_ok _⟩⟩
  rw [seenEntry_id, remoteFree, Option.isNone_iff_eq_none]
  obtain ⟨moved, -⟩ := Became.applyBody known applied
  cases found : (indexed.updateSpot id fun row =>
      { row with
        input := (before.seenEntry checked.entry).input
        status := (before.seenEntry checked.entry).status
        vote := (before.seenEntry checked.entry).vote }).spots.search fun other row =>
          decide (other ≠ id) && decide (row.remoteId = some checked.entry.id) with
  | none => rfl
  | some other =>
    obtain ⟨row, there, same⟩ := Table.search_some found
    rw [Bool.and_eq_true, decide_eq_true_eq, decide_eq_true_eq] at same
    rw [moved.spots other same.1] at there
    exact absurd same.2 (free other row same.1 there)

/-- What the point already holds of the server is its own alone. -/
theorem DistinctRemotes.free {remoteId : Uuid} (distinct : DistinctRemotes store) (known : store.spots.find id = some spot)
    (held : spot.remoteId = some remoteId) : Free store id remoteId := by
  intro other row apart found same
  exact apart (distinct other id row spot remoteId found known same held)

theorem restoreFields_succeeds {input : Option NewChargingSpot} {restores : Bool}
    (room : status.visible = true → HasRoom store id) : Succeeds (store.restoreFields id input restores status) := by
  unfold restoreFields
  cases input with
  | none => exact succeeds_ok _
  | some input =>
    dsimp only
    split
    · next shows =>
      obtain ⟨indexed, places⟩ := updateSpatialIndex_succeeds.mpr (room shows.2)
      exact succeeds_bind.mpr ⟨indexed, places, succeeds_ok _⟩
    · exact succeeds_ok _

private theorem restorePendingLocalState_succeeds {current : StoredChargingSpot}
    (room : status.visible = true → HasRoom store current.pointId) :
    Succeeds (store.restorePendingLocalState current status) := by
  unfold restorePendingLocalState
  dsimp only
  split
  · have voted : status.visible = true → HasRoom (store.updateSpot current.pointId fun row =>
        { row with vote := current.vote }) current.pointId := room
    obtain ⟨placed, restores⟩ := restoreFields_succeeds voted
    exact succeeds_bind.mpr ⟨placed, restores, succeeds_ok _⟩
  · obtain ⟨placed, restores⟩ := restoreFields_succeeds room
    exact succeeds_bind.mpr ⟨placed, restores, succeeds_ok _⟩

/-- Taking the retained version succeeds where it is not behind the spot and its pin has a place. -/
theorem Reviews.accept_succeeds (reviews : Reviews store operation spot review) (reviewing : Reviewing store)
    (known : store.spots.find operation.pointId = some spot) (sent : review.remote = some checked) :
    Succeeds (store.acceptEntry review operation.operationId checked) ↔
      (spot.changeSequence.value ≤ checked.entry.changeSequence.value ∧
        spot.remoteRevision.value ≤ checked.entry.revision.value) ∧
      (checked.entry.status.visible = true → HasRoom store operation.pointId) ∧ spot.localRevision.value < i64Max := by
  obtain ⟨held, conflict, under, -⟩ := reviewed_ok reviews.ready
  obtain rfl : held = spot := by
    have also := under.known
    rw [reviews.row, known] at also
    exact (Option.some.inj also).symm
  have body : checked.entry.input.isSome = true ↔ checked.entry.status.visible = true := by
    rw [← checked.valid.body]
    constructor
    · intro published
      rw [published]
      rfl
    · exact ChargingDirectoryEntry.Valid.published checked.valid
  unfold acceptEntry
  rw [succeeds_ensure, reviews.row, reviews.current]
  apply and_congr Iff.rfl
  dsimp only
  constructor
  · intro done
    obtain ⟨applied, took, done⟩ := succeeds_bind.mp done
    obtain ⟨restored, -, done⟩ := succeeds_bind.mp done
    refine ⟨?_, (ChargingRevision.succeeds_next fun _ => succeeds_ok _).mp done⟩
    intro visible
    exact (applyEntry_room (body.mpr visible) took).1
  · rintro ⟨room, counts⟩
    have free : Free store operation.pointId checked.entry.id :=
      reviewing.remotes.free known (under.retained reviewing.toLines sent)
    obtain ⟨applied, took⟩ : Succeeds (ChargingStore.applyEntry
        (store.removeSupersededFieldOperations operation.pointId operation.operationId operation.sequence
          operation.action.carriesFields) operation.pointId checked .replaceBody) :=
      applyEntry_succeeds known free fun there => room (body.mp there)
    have restores : Succeeds (applied.restorePendingLocalState review.current checked.entry.status) := by
      apply restorePendingLocalState_succeeds
      intro visible
      rw [reviews.placed]
      exact (applyEntry_room (body.mpr visible) took).2
    obtain ⟨restored, restores⟩ := restores
    refine succeeds_bind.mpr ⟨applied, took, succeeds_bind.mpr ⟨restored, restores, ?_⟩⟩
    exact (ChargingRevision.succeeds_next fun _ => succeeds_ok _).mpr counts

/-- Without the selected operation the outbox has room for another. -/
theorem removeSuperseded_room {fields : Bool} (roomy : Roomy store) (member : operation ∈ store.outbox) :
    (store.removeSupersededFieldOperations operation.pointId operation.operationId operation.sequence
      fields).outbox.length < chargingOutboxCapacity := by
  refine Nat.lt_of_lt_of_le ?_ roomy
  apply List.length_filter_lt_length_iff_exists.mpr
  refine ⟨operation, member, ?_⟩
  simp

theorem updateSpatialIndex_keeps (done : before.updateSpatialIndex id input status = .ok after) :
    after.account = before.account ∧ after.outbox = before.outbox := by
  obtain ⟨index, -, done⟩ := ok_bind done
  cases done
  exact ⟨rfl, rfl⟩

theorem queueAtSequence_succeeds {sequence : Nat} {action : ChargingAction} {target : Option ChargingTarget} :
    Succeeds (store.queueAtSequence fresh sequence id revision action target) ↔
      store.account = .active ∧ store.outbox.length < chargingOutboxCapacity ∧ store.findOperation fresh = none := by
  unfold queueAtSequence insertRow ensureActive
  rw [succeeds_ensure, succeeds_ensure, succeeds_ensure]
  exact and_congr Iff.rfl (and_congr Iff.rfl (and_iff_left (succeeds_ok _)))

/-- A replacement succeeds on an own spot that is not retained as hidden, under an unused identifier. -/
theorem Reviews.replace_succeeds (reviews : Reviews store operation spot review) (active : store.account = .active)
    (reviewing : Reviewing store) (member : operation ∈ store.outbox) :
    Succeeds (store.replaceBlockedOperation fresh operation.operationId spot.localRevision input) ↔
      spot.owned = true ∧ (∀ entry, store.retained operation = some entry → entry.status.visible = true) ∧
      Succeeds (replacement review.current input) ∧ spot.localRevision.value < i64Max ∧ HasRoom store operation.pointId ∧
      (store.removeSupersededFieldOperations operation.pointId operation.operationId operation.sequence
        operation.action.carriesFields).findOperation fresh = none := by
  have begins : store.ensureActive = .ok () := if_pos active
  have found := reviewing.toRows.findOperation member
  have reads : retainedEntry ((store.conflicts.find operation.operationId).bind ConflictRow.remoteEntry) = .ok review.remote := by
    have checked := retainedEntry_checked review.remote
    rwa [reviews.remote] at checked
  have row : orError (store.findOperation operation.operationId) .chargingConflict = .ok operation := by
    rw [found]
    rfl
  have kind : orError operation.blockedKind .sqlite = .ok review.kind := by
    rw [reviews.kind]
    rfl
  have current : orError (store.detail operation.pointId) .notFound = .ok review.current := by
    rw [reviews.detailed]
    rfl
  unfold replaceBlockedOperation
  rw [succeeds_past begins, succeeds_past row, succeeds_past kind, succeeds_past current, succeeds_ensure,
    succeeds_past reads, succeeds_ensure, reviews.shown_iff, reviews.current, and_iff_right rfl]
  refine and_congr Iff.rfl (and_congr Iff.rfl ?_)
  dsimp only
  constructor
  · intro done
    obtain ⟨action, chosen, done⟩ := succeeds_bind.mp done
    obtain ⟨revision, next, done⟩ := succeeds_bind.mp done
    obtain ⟨indexed, places, done⟩ := succeeds_bind.mp done
    obtain ⟨-, same⟩ := updateSpatialIndex_keeps places
    have shifted := updateSpatialIndex_succeeds.mp ⟨indexed, places⟩
    have room : HasRoom store operation.pointId := shifted
    obtain ⟨-, -, unused⟩ := queueAtSequence_succeeds.mp done
    rw [findOperation, same] at unused
    exact ⟨⟨action, chosen⟩, ChargingRevision.next_less next, room, unused⟩
  · rintro ⟨⟨action, chosen⟩, counts, room, unused⟩
    refine succeeds_bind.mpr ⟨action, chosen, (ChargingRevision.succeeds_next ?_).mpr counts⟩
    intro revision
    have shifted : HasRoom ((store.removeSupersededFieldOperations operation.pointId operation.operationId
        operation.sequence operation.action.carriesFields).updateSpot operation.pointId fun spot =>
          { spot with input := some input, localRevision := revision }) operation.pointId := room
    obtain ⟨indexed, places⟩ := updateSpatialIndex_succeeds.mpr shifted
    obtain ⟨alive, same⟩ := updateSpatialIndex_keeps places
    refine succeeds_bind.mpr ⟨indexed, places, queueAtSequence_succeeds.mpr ⟨alive.trans active, ?_, ?_⟩⟩
    · rw [same]
      exact removeSuperseded_room reviewing.room member
    · rw [findOperation, same]
      exact unused

theorem Roomy.unused (roomy : Roomy store) : ∃ fresh, store.findOperation fresh = none := by
  by_contra used
  have every : ∀ fresh : Uuid, fresh ∈ store.outbox.map OutboxRow.operationId := by
    intro fresh
    cases found : store.findOperation fresh with
    | none => exact absurd ⟨fresh, found⟩ used
    | some operation =>
      obtain ⟨member, same⟩ := findOperation_some found
      exact List.mem_map.mpr ⟨operation, member, same⟩
  have apart : ((List.range (chargingOutboxCapacity + 1)).map (BitVec.ofNat 128)).Nodup := by
    refine List.Nodup.map_on ?_ List.nodup_range
    intro one less two also same
    rw [List.mem_range, chargingOutboxCapacity] at less also
    have values := congrArg BitVec.toNat same
    rw [BitVec.toNat_ofNat, BitVec.toNat_ofNat, Nat.mod_eq_of_lt (by omega), Nat.mod_eq_of_lt (by omega)] at values
    exact values
  have fits := (apart.subperm fun fresh _ => every fresh).length_le
  rw [List.length_map, List.length_range, List.length_map] at fits
  exact absurd (Nat.le_trans fits roomy) (Nat.not_succ_le_self _)

section Answers
variable {input : NewChargingSpot} (reviewing : Reviewing store) (active : store.account = .active)
  (member : operation ∈ store.outbox) (blocked : operation.blockedKind.isSome = true)
  (known : store.spots.find operation.pointId = some spot)
include reviewing active member blocked known

theorem resolve_resolvable {resolution : ChargingOperationResolution}
    (done : Succeeds (store.resolveOperation fresh operation.operationId spot.localRevision resolution)) :
    Resolvable store operation spot := by
  obtain ⟨review, reviews⟩ := reviewing.reviews member blocked known
  have again (retries : retryable review = true) : Resolvable store operation spot := by
    obtain ⟨kind, shown⟩ := reviews.retryable_iff.mp retries
    exact .again kind shown
  cases resolution with
  | retry =>
    rw [reviews.retries active] at done
    exact again (retry_succeeds.mp done)
  | rebaseKeepingLocal =>
    rw [reviews.rebases active] at done
    exact again (rebase_retryable done)
  | acceptServer =>
    cases sent : review.remote with
    | none =>
      rw [reviews.abandons active sent] at done
      obtain ⟨⟨-, unknown, -⟩, counts⟩ := reviews.abandon_succeeds.mp done
      exact .given counts unknown
    | some checked =>
      rw [reviews.accepts active sent] at done
      obtain ⟨newest, room, counts⟩ := (reviews.accept_succeeds reviewing known sent).mp done
      refine .taken counts checked.entry ?_ newest room
      rw [← reviews.remote, sent]
      rfl

theorem replace_resolvable
    (done : Succeeds (store.replaceBlockedOperation fresh operation.operationId spot.localRevision input)) :
    Resolvable store operation spot := by
  obtain ⟨review, reviews⟩ := reviewing.reviews member blocked known
  obtain ⟨owned, shown, ⟨action, chosen⟩, counts, room, -⟩ :=
    (reviews.replace_succeeds active reviewing member).mp done
  by_cases unknown : spot.remoteId = none
  · exact .given counts unknown
  · unfold replacement at chosen
    rw [reviews.current, if_pos (Option.isSome_iff_ne_none.mpr unknown)] at chosen
    obtain ⟨_, published, -⟩ := ok_bind chosen
    exact .edited counts owned (ensure_ok published) shown room

/-- Where the server does not know the point, its create can be given up or sent again. -/
theorem given_succeeds (counts : spot.localRevision.value < i64Max) (unknown : spot.remoteId = none) :
    ∃ resolution, Succeeds (store.resolveOperation fresh operation.operationId spot.localRevision resolution) := by
  obtain ⟨review, reviews⟩ := reviewing.reviews member blocked known
  have nothing : store.retained operation = none := by
    obtain ⟨conflict, kept⟩ := reviewing.blocked operation member blocked
    cases held : conflict.remoteEntry with
    | none => rw [retained, kept, Option.bind_some, held]
    | some entry =>
      have sent := (reviewing.lined _ spot known).remote operation member rfl conflict kept entry held
      rw [unknown] at sent
      cases sent
  cases kind : review.kind with
  | invalid =>
    have sent : review.remote = none := by
      have none := reviews.remote
      rw [nothing, Option.map_eq_none_iff] at none
      exact none
    refine ⟨.acceptServer, ?_⟩
    rw [reviews.abandons active sent]
    exact reviews.abandon_succeeds.mpr
      ⟨⟨kind, unknown, reviewing.toLines.blocked_create member blocked known unknown⟩, counts⟩
  | conflict =>
    refine ⟨.retry, ?_⟩
    rw [reviews.retries active]
    refine retry_succeeds.mpr (reviews.retryable_iff.mpr ⟨.inl (reviews.kind.trans (by rw [kind])), ?_⟩)
    intro entry held
    rw [nothing] at held
    cases held

/-- An operation can be answered exactly where its point allows it. -/
theorem answerable_iff_resolvable : Answerable store operation spot input ↔ Resolvable store operation spot := by
  obtain ⟨review, reviews⟩ := reviewing.reviews member blocked known
  constructor
  · rintro ⟨fresh, -, ⟨resolution, done⟩ | done⟩
    · exact resolve_resolvable reviewing active member blocked known done
    · exact replace_resolvable reviewing active member blocked known done
  · intro resolvable
    obtain ⟨fresh, unused⟩ := reviewing.room.unused
    refine ⟨fresh, unused, ?_⟩
    cases resolvable with
    | again kind shown =>
      refine .inl ⟨.retry, ?_⟩
      rw [reviews.retries active]
      exact retry_succeeds.mpr (reviews.retryable_iff.mpr ⟨kind, shown⟩)
    | given counts unknown => exact .inl (given_succeeds reviewing active member blocked known counts unknown)
    | taken counts entry kept newest room =>
      cases sent : review.remote with
      | none =>
        have nothing := reviews.remote
        rw [sent, kept] at nothing
        cases nothing
      | some checked =>
        have same := reviews.remote
        rw [sent, kept] at same
        cases same
        refine .inl ⟨.acceptServer, ?_⟩
        rw [reviews.accepts active sent]
        exact (reviews.accept_succeeds reviewing known sent).mpr ⟨newest, room, counts⟩
    | edited counts owned published shown room =>
      by_cases unknown : spot.remoteId = none
      · exact .inl (given_succeeds reviewing active member blocked known counts unknown)
      · refine .inr ((reviews.replace_succeeds active reviewing member).mpr
          ⟨owned, shown, ⟨.edit input, ?_⟩, counts, room, ?_⟩)
        · unfold replacement
          rw [reviews.current, if_pos (Option.isSome_iff_ne_none.mpr unknown)]
          exact bind_eq_ok.mpr ⟨(), if_pos published, rfl⟩
        · cases found : (store.removeSupersededFieldOperations operation.pointId operation.operationId
            operation.sequence operation.action.carriesFields).findOperation fresh with
          | none => rfl
          | some other =>
            obtain ⟨inside, same⟩ := findOperation_some found
            have absent := List.find?_eq_none.mp unused other (deleteOperations_mem inside).1
            simp [same] at absent

end Answers

/-- In every active store that calls reach, a blocked operation can be answered exactly where its point
and what was retained for it allow one of the decisions. -/
theorem blocked_operations_are_answered (points : List Uuid) (index : SpatialIndex) (calls : List ChargingCall)
    (active : (Runs.final step { mapPoints := points, index := index } calls).account = .active) :
    ∀ operation ∈ (Runs.final step { mapPoints := points, index := index } calls).outbox,
      operation.blockedKind.isSome = true →
      ∃ spot, (Runs.final step { mapPoints := points, index := index } calls).spots.find operation.pointId = some spot ∧
        ∀ input, (Answerable (Runs.final step { mapPoints := points, index := index } calls) operation spot input ↔
          Resolvable (Runs.final step { mapPoints := points, index := index } calls) operation spot) := by
  have reviewing := run_reviewing points index calls active
  intro operation member blocked
  obtain ⟨spot, known, -⟩ := reviewing.owned operation member
  refine ⟨spot, known, ?_⟩
  intro input
  exact answerable_iff_resolvable reviewing active member blocked known

def refusedEditRun : List ChargingCall := publishedRun ++
  [.change 101 samplePoint .initial (.edit sampleSpot), .nextOperation, .blockOperation 101 .invalid]

theorem blocked_operations_are_answered_edit :
    ((Runs.final step {} refusedEditRun).outbox.any fun operation => operation.blockedKind.isSome) = true ∧
      ∀ operation ∈ (Runs.final step {} refusedEditRun).outbox, operation.blockedKind.isSome = true →
      ∃ spot, (Runs.final step {} refusedEditRun).spots.find operation.pointId = some spot ∧
        ∀ input, (Answerable (Runs.final step {} refusedEditRun) operation spot input ↔
          Resolvable (Runs.final step {} refusedEditRun) operation spot) := by
  have active : (Runs.final step {} refusedEditRun).account = .active := by decide
  exact ⟨by decide, blocked_operations_are_answered [] {} refusedEditRun active⟩

def refusedVoteRun : List ChargingCall :=
  [.applyChangesPage [sampleEntry .published .initial .initial] .initial 5,
    .change 101 sampleRemote .initial (.vote (some .up)), .nextOperation, .blockOperation 101 .invalid]

def refusedVote : OutboxRow where
  sequence := 1
  operationId := 101
  pointId := sampleRemote
  action := .vote (some .up)
  localRevision := two
  blockedKind := some .invalid
  target := some (.existing sampleRemote .zero)

def refusedVoteSpot : SpotRow where
  input := some sampleSpot
  owned := false
  status := .published
  localRevision := two
  remoteId := some sampleRemote
  remoteRevision := .initial
  changeSequence := .initial
  vote := some .up

/-- The refused vote on another's spot stays: it is not sent again, nothing was retained that could be
taken, and only an owner makes an operation anew. -/
theorem refused_vote_is_a_dead_end :
    (Runs.final step {} refusedVoteRun).account = .active ∧ refusedVote ∈ (Runs.final step {} refusedVoteRun).outbox ∧
      refusedVote.blockedKind.isSome = true ∧
      (Runs.final step {} refusedVoteRun).spots.find refusedVote.pointId = some refusedVoteSpot ∧
      (∀ fresh resolution, ¬Succeeds ((Runs.final step {} refusedVoteRun).resolveOperation fresh refusedVote.operationId
        refusedVoteSpot.localRevision resolution)) ∧
      ∀ fresh input, ¬Succeeds ((Runs.final step {} refusedVoteRun).replaceBlockedOperation fresh refusedVote.operationId
        refusedVoteSpot.localRevision input) := by
  have active : (Runs.final step {} refusedVoteRun).account = .active := by decide
  have member : refusedVote ∈ (Runs.final step {} refusedVoteRun).outbox := by decide
  have known : (Runs.final step {} refusedVoteRun).spots.find refusedVote.pointId = some refusedVoteSpot := by
    decide
  have nothing : (Runs.final step {} refusedVoteRun).retained refusedVote = none := by decide
  have reviewing := run_reviewing [] {} refusedVoteRun active
  have unresolvable : ¬Resolvable (Runs.final step {} refusedVoteRun) refusedVote refusedVoteSpot := by
    intro resolvable
    cases resolvable with
    | again kind shown =>
      rcases kind with conflict | withdraws
      · cases conflict
      · cases withdraws
    | given counts unknown => cases unknown
    | taken counts entry kept newest room =>
      rw [nothing] at kept
      cases kept
    | edited counts owned published shown room => cases owned
  refine ⟨active, member, rfl, known, ?_, ?_⟩
  · intro fresh resolution done
    exact unresolvable (resolve_resolvable reviewing active member rfl known done)
  · intro fresh input done
    exact unresolvable (replace_resolvable reviewing active member rfl known done)

end ChargingStore

end Cutout.Charging

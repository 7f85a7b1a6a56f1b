import Cutout.Proofs.ChargingVisibility

/-! The outbox as a set of rows. Operations have their own identifiers and a spot; a point
the server does not know yet has one create at the head of its queue and nothing sent
behind it; what is kept for review of a server entry belongs to a point the server knows. -/

namespace Cutout.Charging
open Library

namespace ChargingStore
variable {before middle after : ChargingStore} {fresh id point key : Uuid} {entry : ChargingDirectoryEntry}
variable {receipt : ChargingWriteReceipt} {operation : OutboxRow} {change : OutboxRow → OutboxRow}
variable {meets : OutboxRow → Prop}

  {row later spot : SpotRow} {pin : Option Coordinate}

structure Rows (store : ChargingStore) : Prop where
  bounded : ∀ operation ∈ store.outbox, operation.sequence ≤ store.lastSequence
  distinct : (store.outbox.map OutboxRow.operationId).Nodup
  owned : ∀ operation ∈ store.outbox, ∃ spot, store.spots.find operation.pointId = some spot ∧
    operation.localRevision.value ≤ spot.localRevision.value
  frozen : ∀ operation ∈ store.outbox, operation.blockedKind.isSome = true → operation.target.isSome = true
  kept : ∀ key conflict, store.conflicts.find key = some conflict → ∃ operation ∈ store.outbox, operation.operationId = key

structure Plain (operation : OutboxRow) : Prop where
  action : operation.action.isCreate = false
  target : operation.target = none
  blocked : operation.blockedKind = none

def HasCreate (store : ChargingStore) (id : Uuid) (meets : OutboxRow → Prop) : Prop :=
  ∃ create ∈ store.outbox, create.pointId = id ∧ create.action.isCreate = true ∧ meets create

/-- The queue of a point: no create for a spot the server knows, else one create ahead of the rest. -/
structure Lined (store : ChargingStore) (id : Uuid) (spot : SpotRow) : Prop where
  sent : spot.remoteId.isSome = true → ∀ operation ∈ store.outbox, operation.pointId = id → operation.action.isCreate = false
  waits : spot.remoteId = none → ∀ operation ∈ store.outbox, operation.pointId = id → operation.action.isCreate = true ∨
    Plain operation ∧ HasCreate store id fun create => create.sequence < operation.sequence
  single : ∀ one ∈ store.outbox, ∀ two ∈ store.outbox, one.pointId = id → two.pointId = id →
    one.action.isCreate = true → two.action.isCreate = true → one = two
  pending : spot.remoteId = none → spot.status ≠ .withdrawn → HasCreate store id fun _ => True
  remote : ∀ operation ∈ store.outbox, operation.pointId = id → ∀ conflict,
    store.conflicts.find operation.operationId = some conflict → ∀ entry, conflict.remoteEntry = some entry →
    spot.remoteId = some entry.id

structure Lines (store : ChargingStore) : Prop extends Rows store where
  lined : ∀ id spot, store.spots.find id = some spot → Lined store id spot

structure Untouched (id : Uuid) (before after : ChargingStore) : Prop where
  spots : ∀ other, other ≠ id → after.spots.find other = before.spots.find other
  rows : ∀ operation, operation.pointId ≠ id → (operation ∈ after.outbox ↔ operation ∈ before.outbox)
  conflicts : ∀ operation ∈ before.outbox, operation.pointId ≠ id →
    after.conflicts.find operation.operationId = before.conflicts.find operation.operationId

namespace Untouched

theorem trans (first : Untouched id before middle) (second : Untouched id middle after) : Untouched id before after where
  spots other apart := (second.spots other apart).trans (first.spots other apart)
  rows operation apart := (second.rows operation apart).trans (first.rows operation apart)
  conflicts operation member apart :=
    (second.conflicts operation ((first.rows operation apart).mpr member) apart).trans
      (first.conflicts operation member apart)

theorem became (moved : Became id later pin before after) (same : SameQueue before after) : Untouched id before after where
  spots := moved.spots
  rows _ _ := by rw [same.outbox]
  conflicts _ _ _ := by rw [same.conflicts]

theorem queues (queues : Queues operation before after receipt) : Untouched operation.pointId before after where
  spots _ _ := by rw [queues.spots]
  rows other apart := by
    rw [queues.outbox, mem_insertOperation]
    constructor
    · rintro (rfl | there)
      · exact absurd rfl apart
      · exact there
    · exact .inr
  conflicts _ _ _ := by rw [queues.conflicts]

theorem updateOperation (place : ∀ operation ∈ before.outbox, operation.operationId = key →
      operation.pointId = id ∧ (change operation).pointId = id) :
    Untouched id before (before.updateOperation key change) where
  spots _ _ := rfl
  rows operation apart := by
    constructor
    · intro member
      obtain ⟨old, known, same⟩ := List.mem_map.mp member
      split at same
      · next here =>
        subst same
        exact absurd (place old known here).2 apart
      · exact same ▸ known
    · intro member
      refine List.mem_map.mpr ⟨operation, member, ?_⟩
      rw [if_neg]
      exact fun here => apart (place operation member here).1
  conflicts _ _ _ := rfl

theorem deleteOperations {leaves : OutboxRow → Bool}
    (place : ∀ operation ∈ before.outbox, leaves operation = true → operation.pointId = id) :
    Untouched id before (before.deleteOperations leaves) where
  spots _ _ := rfl
  rows operation apart := by
    constructor
    · exact fun member => (List.mem_filter.mp member).1
    · intro member
      refine List.mem_filter.mpr ⟨member, ?_⟩
      rw [Bool.not_eq_true', ← Bool.not_eq_true]
      exact fun gone => apart (place operation member gone)
  conflicts operation member apart := by
    have stays : leaves operation = false := by
      rw [← Bool.not_eq_true]
      exact fun gone => apart (place operation member gone)
    have there : ((before.outbox.filter fun row => !leaves row).any fun other =>
        decide (other.operationId = operation.operationId)) = true := by
      rw [List.any_eq_true]
      exact ⟨operation, List.mem_filter.mpr ⟨member, by simp [stays]⟩, by simp⟩
    simp only [ChargingStore.deleteOperations, Table.find_keep, there]
    cases before.conflicts.find operation.operationId <;> rfl

theorem deleteConflict (place : ∀ operation ∈ before.outbox, operation.operationId = key → operation.pointId = id) :
    Untouched id before (before.deleteConflict key) where
  spots _ _ := rfl
  rows _ _ := .rfl
  conflicts operation member apart := by
    have other : operation.operationId ≠ key := fun same => apart (place operation member same)
    simp only [ChargingStore.deleteConflict, Table.find_keep, decide_eq_true other]
    cases before.conflicts.find operation.operationId <;> rfl

end Untouched

theorem Lined.elsewhere {other : Uuid} (apart : other ≠ id) (still : Untouched id before after) (lined : Lined before other spot) :
    Lined after other spot := by
  have rows {operation : OutboxRow} (place : operation.pointId = other) :
      operation ∈ after.outbox ↔ operation ∈ before.outbox := still.rows operation (place ▸ apart)
  have create {meets : OutboxRow → Prop} (has : HasCreate before other meets) : HasCreate after other meets := by
    obtain ⟨create, member, place, kind, holds⟩ := has
    exact ⟨create, (rows place).mpr member, place, kind, holds⟩
  refine ⟨?_, ?_, ?_, ?_, ?_⟩
  · intro known operation member place
    exact lined.sent known operation ((rows place).mp member) place
  · intro unknown operation member place
    rcases lined.waits unknown operation ((rows place).mp member) place with kind | ⟨plain, has⟩
    · exact .inl kind
    · exact .inr ⟨plain, create has⟩
  · intro one first two second here there
    exact lined.single one ((rows here).mp first) two ((rows there).mp second) here there
  · intro unknown status
    exact create (lined.pending unknown status)
  · intro operation member place conflict found
    have known := (rows place).mp member
    rw [still.conflicts operation known (place ▸ apart)] at found
    exact lined.remote operation known place conflict found

/-- A change of one point keeps the outbox in order when its rows and its own queue are. -/
theorem Lines.changed (lines : Lines before) (rows : Rows after) (still : Untouched id before after)
    (lined : ∀ spot, after.spots.find id = some spot → Lined after id spot) : Lines after := by
  refine ⟨rows, ?_⟩
  intro other spot known
  by_cases here : other = id
  · subst here
    exact lined spot known
  · rw [still.spots other here] at known
    exact (lines.lined other spot known).elsewhere here still

theorem insertOperation_perm (row : OutboxRow) (rows : List OutboxRow) : (insertOperation row rows).Perm (row :: rows) := by
  induction rows with
  | nil => exact .refl _
  | cons first rows ih =>
    unfold insertOperation
    split
    · exact .refl _
    · exact (ih.cons first).trans (.swap row first rows)

namespace Rows

section Rows
variable (rows : Rows before)
include rows

theorem ids : ∀ one ∈ before.outbox, ∀ two ∈ before.outbox,
    one.operationId = two.operationId → one = two :=
  fun _ first _ second same => List.inj_on_of_nodup_map rows.distinct first second same

theorem became (moved : Became id later pin before after) (same : SameQueue before after)
    (grows : ∀ row, before.spots.find id = some row → row.localRevision.value ≤ later.localRevision.value) :
    Rows after := by
  refine ⟨?_, ?_, ?_, ?_, ?_⟩
  · rw [same.outbox, same.lastSequence]
    exact rows.bounded
  · rw [same.outbox]
    exact rows.distinct
  · intro operation member
    rw [same.outbox] at member
    obtain ⟨spot, known, bound⟩ := rows.owned operation member
    by_cases here : operation.pointId = id
    · rw [here] at known ⊢
      exact ⟨later, moved.spot, Nat.le_trans bound (grows spot known)⟩
    · exact ⟨spot, by rw [moved.spots _ here, known], bound⟩
  · rw [same.outbox]
    exact rows.frozen
  · rw [same.outbox, same.conflicts]
    exact rows.kept

theorem queues (queues : Queues operation before after receipt)
    (owned : ∃ spot, before.spots.find operation.pointId = some spot ∧
      operation.localRevision.value ≤ spot.localRevision.value)
    (unblocked : operation.blockedKind = none) : Rows after := by
  have members {other : OutboxRow} : other ∈ after.outbox ↔ other = operation ∨ other ∈ before.outbox := by
    rw [queues.outbox, mem_insertOperation]
  have foreign {other : OutboxRow} (member : other ∈ before.outbox) : other.operationId ≠ operation.operationId := by
    have absent := List.find?_eq_none.mp queues.unknown other member
    simpa using absent
  refine ⟨?_, ?_, ?_, ?_, ?_⟩
  · intro other member
    rw [queues.lastSequence]
    rcases members.mp member with rfl | there
    · exact Nat.le_max_right _ _
    · exact Nat.le_trans (rows.bounded other there) (Nat.le_max_left _ _)
  · rw [queues.outbox, ((insertOperation_perm operation before.outbox).map _).nodup_iff, List.map_cons, List.nodup_cons]
    refine ⟨?_, rows.distinct⟩
    intro there
    obtain ⟨other, member, same⟩ := List.mem_map.mp there
    exact foreign member same
  · intro other member
    rw [queues.spots]
    rcases members.mp member with rfl | there
    · exact owned
    · exact rows.owned other there
  · intro other member blocked
    rcases members.mp member with rfl | there
    · rw [unblocked] at blocked
      cases blocked
    · exact rows.frozen other there blocked
  · intro key conflict found
    rw [queues.conflicts] at found
    obtain ⟨other, there, same⟩ := rows.kept key conflict found
    exact ⟨other, members.mpr (.inr there), same⟩

theorem deleteOperations (leaves : OutboxRow → Bool) : Rows (before.deleteOperations leaves) := by
  have inside {operation : OutboxRow} (member : operation ∈ (before.deleteOperations leaves).outbox) :
      operation ∈ before.outbox := (List.mem_filter.mp member).1
  refine ⟨?_, ?_, ?_, ?_, ?_⟩
  · exact fun operation member => rows.bounded operation (inside member)
  · exact rows.distinct.sublist (List.filter_sublist.map _)
  · exact fun operation member => rows.owned operation (inside member)
  · exact fun operation member => rows.frozen operation (inside member)
  · intro key conflict found
    simp only [ChargingStore.deleteOperations, Table.find_keep, Option.filter_eq_some_iff, List.any_eq_true,
      decide_eq_true_eq] at found
    exact found.2

theorem deleteConflict (key : Uuid) : Rows (before.deleteConflict key) := by
  refine ⟨rows.bounded, rows.distinct, rows.owned, rows.frozen, ?_⟩
  intro other conflict found
  simp only [ChargingStore.deleteConflict, Table.find_keep, Option.filter_eq_some_iff] at found
  exact rows.kept other conflict found.1

theorem keepConflict {draft : Option NewChargingSpot} {remote : Option ChargingDirectoryEntry}
    (known : ∃ operation ∈ before.outbox, operation.operationId = key) :
    Rows (before.keepConflict key draft remote) := by
  refine ⟨rows.bounded, rows.distinct, rows.owned, rows.frozen, ?_⟩
  intro other conflict found
  simp only [ChargingStore.keepConflict, Table.find_put] at found
  split at found
  · next same => exact same ▸ known
  · exact rows.kept other conflict found

/-- Changing the operation under an identifier, which may get another one that is not in use. -/
theorem updateOperation {renamed : Uuid}
    (named : ∀ operation, (change operation).operationId = if operation.operationId = key then renamed else
      (change operation).operationId)
    (kept : ∀ operation, (change operation).sequence = operation.sequence ∧
      (change operation).pointId = operation.pointId ∧ (change operation).localRevision = operation.localRevision)
    (free : renamed = key ∨ (∀ operation ∈ before.outbox, operation.operationId ≠ renamed) ∧
      before.conflicts.find key = none)
    (frozen : ∀ operation ∈ before.outbox, operation.operationId = key → (change operation).blockedKind.isSome = true →
      (change operation).target.isSome = true) : Rows (before.updateOperation key change) := by
  have members {operation : OutboxRow} (member : operation ∈ (before.updateOperation key change).outbox) :
      ∃ old ∈ before.outbox, (old.operationId = key ∧ operation = change old ∧ operation.operationId = renamed) ∨
        old.operationId ≠ key ∧ operation = old := by
    obtain ⟨old, known, same⟩ := List.mem_map.mp member
    refine ⟨old, known, ?_⟩
    split at same
    · next here =>
      have name := named old
      rw [if_pos here] at name
      exact .inl ⟨here, same.symm, by rw [← same, name]⟩
    · next there => exact .inr ⟨there, same.symm⟩
  have renames : ((before.updateOperation key change).outbox.map OutboxRow.operationId) =
      (before.outbox.map OutboxRow.operationId).map fun id => if id = key then renamed else id := by
    simp only [ChargingStore.updateOperation, List.map_map]
    apply List.map_congr_left
    intro operation _
    have name := named operation
    by_cases here : operation.operationId = key
    · simpa [here] using name
    · simp [here]
  refine ⟨?_, ?_, ?_, ?_, ?_⟩
  · intro operation member
    obtain ⟨old, known, ⟨-, rfl, -⟩ | ⟨-, rfl⟩⟩ := members member
    · rw [(kept old).1]
      exact rows.bounded old known
    · exact rows.bounded operation known
  · rw [renames]
    refine rows.distinct.map_on ?_
    intro one first two second same
    rcases free with rfl | ⟨unused, -⟩
    · have self (id : Uuid) : (if id = renamed then renamed else id) = id := by
        split
        · next here => exact here.symm
        · rfl
      rwa [self, self] at same
    · have foreign {id : Uuid} (member : id ∈ before.outbox.map OutboxRow.operationId) : id ≠ renamed := by
        obtain ⟨operation, inside, rfl⟩ := List.mem_map.mp member
        exact unused operation inside
      split at same
      · next here =>
        split at same
        · next also => rw [here, also]
        · exact absurd same.symm (foreign second)
      · split at same
        · exact absurd same (foreign first)
        · exact same
  · intro operation member
    obtain ⟨old, known, ⟨-, rfl, -⟩ | ⟨-, rfl⟩⟩ := members member
    · rw [(kept old).2.1, (kept old).2.2]
      exact rows.owned old known
    · exact rows.owned operation known
  · intro operation member blocked
    obtain ⟨old, known, ⟨here, rfl, -⟩ | ⟨-, rfl⟩⟩ := members member
    · exact frozen old known here blocked
    · exact rows.frozen operation known blocked
  · intro name conflict found
    obtain ⟨old, known, same⟩ := rows.kept name conflict found
    refine ⟨_, List.mem_map_of_mem known, ?_⟩
    split
    · next here =>
      rcases free with rfl | ⟨-, unkept⟩
      · have kept := named old
        rw [if_pos here] at kept
        exact kept.trans (here.symm.trans same)
      · have held : before.conflicts.find name = some conflict := found
        rw [← same, here, unkept] at held
        cases held
    · exact same

end Rows

end Rows

/-- The queue of a spot the server knows: nothing in it is a create. -/
theorem Lined.known (remoteId : spot.remoteId.isSome = true)
    (sent : ∀ operation ∈ after.outbox, operation.pointId = id → operation.action.isCreate = false)
    (remote : ∀ operation ∈ after.outbox, operation.pointId = id → ∀ conflict,
      after.conflicts.find operation.operationId = some conflict → ∀ entry, conflict.remoteEntry = some entry →
      spot.remoteId = some entry.id) : Lined after id spot where
  sent _ := sent
  waits unknown := by
    rw [unknown] at remoteId
    cases remoteId
  single one first _ _ here _ kind := by
    rw [sent one first here] at kind
    cases kind
  pending unknown := by
    rw [unknown] at remoteId
    cases remoteId
  remote := remote

/-- Rows edited in place: what they ask for stays, and behind a create nothing is touched. -/
theorem Lined.edited (lined : Lined before id spot) (outbox : after.outbox = before.outbox.map change)
    (keeps : ∀ operation, (change operation).pointId = operation.pointId ∧
      (change operation).action = operation.action ∧ (change operation).sequence = operation.sequence)
    (plain : spot.remoteId = none → ∀ operation ∈ before.outbox, operation.pointId = id →
      operation.action.isCreate = false → change operation = operation)
    (remoteId : later.remoteId = spot.remoteId) (status : later.status ≠ .withdrawn → spot.status ≠ .withdrawn)
    (remote : ∀ operation ∈ after.outbox, operation.pointId = id → ∀ conflict,
      after.conflicts.find operation.operationId = some conflict → ∀ entry, conflict.remoteEntry = some entry →
      later.remoteId = some entry.id) : Lined after id later := by
  have old {operation : OutboxRow} (member : operation ∈ after.outbox) :
      ∃ row ∈ before.outbox, change row = operation := by
    rw [outbox] at member
    exact List.mem_map.mp member
  have create {meets : OutboxRow → Prop} (blind : ∀ operation, meets operation → meets (change operation))
      (has : HasCreate before id meets) : HasCreate after id meets := by
    obtain ⟨row, member, place, kind, holds⟩ := has
    refine ⟨change row, ?_, (keeps row).1.trans place, ?_, blind row holds⟩
    · rw [outbox]
      exact List.mem_map_of_mem member
    · rw [(keeps row).2.1]
      exact kind
  refine ⟨?_, ?_, ?_, ?_, remote⟩
  · intro known operation member place
    obtain ⟨row, there, rfl⟩ := old member
    rw [(keeps row).1] at place
    rw [(keeps row).2.1]
    rw [remoteId] at known
    exact lined.sent known row there place
  · intro unknown operation member place
    obtain ⟨row, there, rfl⟩ := old member
    rw [(keeps row).1] at place
    rw [remoteId] at unknown
    rcases lined.waits unknown row there place with kind | ⟨waits, has⟩
    · left
      rw [(keeps row).2.1]
      exact kind
    · right
      rw [plain unknown row there place waits.action]
      refine ⟨waits, create ?_ has⟩
      intro other ahead
      rw [(keeps other).2.2]
      exact ahead
  · intro one first two second here there kind other
    obtain ⟨row, inside, rfl⟩ := old first
    obtain ⟨next, within, rfl⟩ := old second
    rw [(keeps row).1] at here
    rw [(keeps next).1] at there
    rw [(keeps row).2.1] at kind
    rw [(keeps next).2.1] at other
    rw [lined.single row inside next within here there kind other]
  · intro unknown shown
    rw [remoteId] at unknown
    exact create (fun _ _ => trivial) (lined.pending unknown (status shown))

/-- A queue nobody touched, under a spot whose server identifier is the same. -/
theorem Lined.unedited (lined : Lined before id spot) (same : SameQueue before after) (remoteId : later.remoteId = spot.remoteId)
    (status : later.status ≠ .withdrawn → spot.status ≠ .withdrawn) : Lined after id later := by
  have unchanged : after.outbox = before.outbox.map fun operation => operation := by
    rw [same.outbox, List.map_id']
  apply lined.edited unchanged (fun _ => ⟨rfl, rfl, rfl⟩) (fun _ _ _ _ _ => rfl) remoteId status
  intro operation member place conflict found entry kept
  rw [same.outbox] at member
  rw [same.conflicts] at found
  rw [remoteId]
  exact lined.remote operation member place conflict found entry kept

/-- Where the spot has no operations its queue is in order, if it may be empty. -/
theorem Lined.empty (none_ : ∀ operation ∈ after.outbox, operation.pointId ≠ id)
    (status : spot.remoteId = none → spot.status = .withdrawn) : Lined after id spot where
  sent _ operation member place := absurd place (none_ operation member)
  waits _ operation member place := absurd place (none_ operation member)
  single one first _ _ here := absurd here (none_ one first)
  pending unknown shown := absurd (status unknown) shown
  remote operation member place := absurd place (none_ operation member)

theorem Rows.absent (rows : Rows before) (unknown : before.spots.find id = none) :
    ∀ operation ∈ before.outbox, operation.pointId ≠ id := by
  rintro operation member rfl
  obtain ⟨spot, known, -⟩ := rows.owned operation member
  cases unknown.symm.trans known

theorem Rows.unkept (rows : Rows before) (unknown : before.findOperation key = none) : before.conflicts.find key = none := by
  cases found : before.conflicts.find key with
  | none => rfl
  | some conflict =>
    obtain ⟨operation, member, same⟩ := rows.kept key conflict found
    have absent := List.find?_eq_none.mp unknown operation member
    simp [same] at absent

theorem Queues.member (queues : Queues operation before after receipt) : operation ∈ after.outbox := by
  rw [queues.outbox, mem_insertOperation]
  exact .inl rfl

theorem Queues.hasCreate (queues : Queues operation before after receipt) (kind : operation.action.isCreate = true)
    (holds : meets operation) :
    HasCreate after operation.pointId meets := ⟨operation, queues.member, rfl, kind, holds⟩

theorem HasCreate.queues (has : HasCreate before id meets) (queues : Queues operation before after receipt) :
    HasCreate after id meets := by
  obtain ⟨create, member, place, kind, holds⟩ := has
  refine ⟨create, ?_, place, kind, holds⟩
  rw [queues.outbox, mem_insertOperation]
  exact .inr member

/-- An operation joins behind all others of a point that may have one. -/
theorem Lined.joined (lined : Lined before operation.pointId spot) (queues : Queues operation before after receipt)
    (plain : Plain operation) (behind : ∀ other ∈ before.outbox, other.sequence < operation.sequence)
    (pending : spot.remoteId = none → HasCreate before operation.pointId fun _ => True)
    (unkept : before.conflicts.find operation.operationId = none) : Lined after operation.pointId spot := by
  have members {other : OutboxRow} (member : other ∈ after.outbox) : other = operation ∨ other ∈ before.outbox := by
    rw [queues.outbox] at member
    exact mem_insertOperation.mp member
  have old {other : OutboxRow} (member : other ∈ after.outbox) (kind : other.action.isCreate = true) :
      other ∈ before.outbox := by
    rcases members member with rfl | there
    · rw [plain.action] at kind
      cases kind
    · exact there
  refine ⟨?_, ?_, ?_, ?_, ?_⟩
  · intro known other member place
    rcases members member with rfl | there
    · exact plain.action
    · exact lined.sent known other there place
  · intro unknown other member place
    rcases members member with rfl | there
    · obtain ⟨create, known, here, kind, -⟩ := pending unknown
      exact .inr ⟨plain, .queues ⟨create, known, here, kind, behind create known⟩ queues⟩
    · rcases lined.waits unknown other there place with kind | ⟨waits, has⟩
      · exact .inl kind
      · exact .inr ⟨waits, has.queues queues⟩
  · intro one first two second here there kind other
    exact lined.single one (old first kind) two (old second other) here there kind other
  · intro unknown shown
    exact (lined.pending unknown shown).queues queues
  · intro other member place conflict found
    rw [queues.conflicts] at found
    rcases members member with rfl | there
    · cases unkept.symm.trans found
    · exact lined.remote other there place conflict found

end ChargingStore

end Cutout.Charging

import Cutout.Library.Table
import Mathlib.Data.Nat.Notation

/-! The charging store of the ride database: saved spots, the outbox of operations that
wait for the community server, the conflicts kept for review and the spatial index of
the map. Each call is one transaction, so a call that fails leaves every table as it was;
identifiers and times the program draws from the platform are arguments here. -/

namespace Cutout.Charging
open Library

abbrev Uuid := BitVec 128

inductive StorageError where
  | chargingConflict
  | chargingInvalidInput
  | chargingNotOwned
  | chargingOutboxFull
  | communityAccountUnavailable
  | notFound
  | sqlite
  deriving Repr, DecidableEq

/-- Goes on only where a condition holds. -/
def ensure (condition : Prop) [Decidable condition] (error : StorageError) : Except StorageError Unit :=
  if condition then .ok () else .error error

def orError {α : Type} (value : Option α) (error : StorageError) : Except StorageError α :=
  match value with
  | some value => .ok value
  | none => .error error

/-- The largest integer the database stores exactly. -/
def i64Max : Nat := 9223372036854775807

structure ChargingRevision where
  value : Nat
  bounded : value ≤ i64Max
  deriving Repr, DecidableEq

abbrev ChargingChangeCursor := ChargingRevision

namespace ChargingRevision

def new (value : Nat) : Except StorageError ChargingRevision :=
  if bounded : value ≤ i64Max then .ok ⟨value, bounded⟩ else .error .chargingInvalidInput

def zero : ChargingRevision := ⟨0, by decide⟩

def initial : ChargingRevision := ⟨1, by decide⟩

def next (revision : ChargingRevision) : Except StorageError ChargingRevision := new (revision.value + 1)

end ChargingRevision

structure Coordinate where
  latitudeE7 : Int
  longitudeE7 : Int
  deriving Repr, DecidableEq

/-- A submitted body: its pin, and the other public fields as they are stored. -/
structure NewChargingSpot where
  coordinate : Coordinate
  details : String
  deriving Repr, DecidableEq

inductive ChargingVote where
  | up | down
  deriving Repr, DecidableEq

inductive ChargingStatus where
  | queued | published | hidden | withdrawn | removed
  deriving Repr, DecidableEq

def ChargingStatus.visible : ChargingStatus → Bool
  | queued | published => true
  | hidden | withdrawn | removed => false

inductive ChargingAction where
  | create (input : NewChargingSpot)
  | edit (input : NewChargingSpot)
  | withdraw
  | verify
  | vote (vote : Option ChargingVote)
  deriving Repr, DecidableEq

namespace ChargingAction

def isCreate : ChargingAction → Bool
  | create _ => true
  | edit _ | withdraw | verify | vote _ => false

def isWithdraw : ChargingAction → Bool
  | withdraw => true
  | create _ | edit _ | verify | vote _ => false

def isVote : ChargingAction → Bool
  | vote _ => true
  | create _ | edit _ | withdraw | verify => false

def carriesFields : ChargingAction → Bool
  | create _ | edit _ => true
  | withdraw | verify | vote _ => false

end ChargingAction

inductive ChargingTarget where
  | create
  | existing (id : Uuid) (expectedRevision : ChargingRevision)
  deriving Repr, DecidableEq

inductive ChargingOperationBlockKind where
  | conflict | invalid
  deriving Repr, DecidableEq

inductive ChargingOperationResolution where
  | retry | rebaseKeepingLocal | acceptServer
  deriving Repr, DecidableEq

structure ChargingDirectoryEntry where
  id : Uuid
  input : Option NewChargingSpot
  revision : ChargingRevision
  changeSequence : ChargingRevision
  status : ChargingStatus
  verifiedAtMs : Option Nat
  vote : Option ChargingVote
  voteRevision : ChargingRevision
  votesUp : Nat
  votesDown : Nat
  deriving Repr, DecidableEq

/-- What the server promises of an entry. -/
structure ChargingDirectoryEntry.Valid (entry : ChargingDirectoryEntry) : Prop where
  status : entry.status ≠ .queued
  revision : entry.revision.value ≠ 0
  changeSequence : entry.changeSequence.value ≠ 0
  body : entry.status = .published ↔ entry.input.isSome = true
  votesUp : entry.votesUp ≤ i64Max
  votesDown : entry.votesDown ≤ i64Max
  verified : entry.verifiedAtMs.all (fun time => decide (time ≤ i64Max)) = true

instance (entry : ChargingDirectoryEntry) : Decidable entry.Valid :=
  decidable_of_iff (entry.status ≠ .queued ∧ entry.revision.value ≠ 0 ∧ entry.changeSequence.value ≠ 0 ∧
      (entry.status = .published ↔ entry.input.isSome = true) ∧ entry.votesUp ≤ i64Max ∧ entry.votesDown ≤ i64Max ∧
      entry.verifiedAtMs.all (fun time => decide (time ≤ i64Max)) = true)
    ⟨fun ⟨a, b, c, d, e, f, g⟩ => ⟨a, b, c, d, e, f, g⟩, fun ⟨a, b, c, d, e, f, g⟩ => ⟨a, b, c, d, e, f, g⟩⟩

structure ValidatedDirectoryEntry where
  entry : ChargingDirectoryEntry
  valid : entry.Valid

def ValidatedDirectoryEntry.new (entry : ChargingDirectoryEntry) : Except StorageError ValidatedDirectoryEntry :=
  if valid : entry.Valid then .ok ⟨entry, valid⟩ else .error .chargingInvalidInput

structure SpotRow where
  input : Option NewChargingSpot
  owned : Bool
  status : ChargingStatus
  localRevision : ChargingRevision
  remoteId : Option Uuid := none
  remoteRevision : ChargingRevision := .zero
  changeSequence : ChargingRevision := .zero
  verifiedAtMs : Option Nat := none
  vote : Option ChargingVote := none
  voteRevision : ChargingRevision := .zero
  votesUp : Nat := 0
  votesDown : Nat := 0
  lastAck : Option Uuid := none
  deriving Repr, DecidableEq

structure StoredChargingSpot extends SpotRow where
  pointId : Uuid
  pendingOperations : Nat
  pendingVote : Bool
  deriving Repr, DecidableEq

structure OutboxRow where
  sequence : Nat
  operationId : Uuid
  pointId : Uuid
  action : ChargingAction
  localRevision : ChargingRevision
  blockedKind : Option ChargingOperationBlockKind := none
  target : Option ChargingTarget := none
  deriving Repr, DecidableEq

structure ConflictRow where
  localDraft : Option NewChargingSpot
  remoteEntry : Option ChargingDirectoryEntry
  deriving Repr, DecidableEq

structure ChargingOperation where
  id : Uuid
  pointId : Uuid
  localRevision : ChargingRevision
  target : ChargingTarget
  action : ChargingAction
  deriving Repr, DecidableEq

structure ChargingWriteReceipt where
  pointId : Uuid
  revision : ChargingRevision
  operationId : Uuid
  deriving Repr, DecidableEq

structure ChargingVoteReceipt where
  appliedRevision : ChargingRevision
  voteRevision : ChargingRevision
  vote : Option ChargingVote
  votesUp : Nat
  votesDown : Nat
  changeSequence : ChargingChangeCursor
  deriving Repr, DecidableEq

structure ChargingPageApplyResult where
  cursor : ChargingChangeCursor
  appliedEntries : Nat
  blockedOperations : Nat
  deriving Repr, DecidableEq

inductive CommunityAccountState where
  | active
  | deleting
  | deleted (completedAtMilliseconds : Nat)
  deriving Repr, DecidableEq

inductive AccountEvent where
  | read
  | beginDeletion
  | completeDeletion (atMs : Nat)
  deriving Repr, DecidableEq

/-- The keys of the indexed points and the tree; no two points have one key. -/
structure SpatialIndex where
  keys : Table Uuid Nat := {}
  tree : Table Nat Coordinate := {}
  distinct : ∀ first second key, keys.find first = some key → keys.find second = some key → first = second := by simp

namespace SpatialIndex

def largestSpatialRowId : Nat := 2147483647

/-- The key an insertion takes: one above the largest. -/
def nextKey (index : SpatialIndex) : Nat := (index.keys.rows.map Prod.snd).foldr max 0 + 1

theorem lt_nextKey {index : SpatialIndex} {point : Uuid} {key : Nat} (known : index.keys.find point = some key) :
    key < index.nextKey := by
  have below (values : List Nat) (member : key ∈ values) : key ≤ values.foldr max 0 := by
    induction values with
    | nil => cases member
    | cons value values ih =>
      rw [List.foldr_cons]
      rcases List.mem_cons.mp member with rfl | later
      · exact Nat.le_max_left _ _
      · exact Nat.le_trans (ih later) (Nat.le_max_right _ _)
  have bound := below _ (List.mem_map_of_mem (f := Prod.snd) (Table.find_eq_some_iff.mp known))
  exact Nat.lt_succ_of_le bound

/-- Gives a point a key where it has none. -/
def addKey (index : SpatialIndex) (point : Uuid) : SpatialIndex :=
  if unknown : index.keys.find point = none then
    { index with
      keys := index.keys.put point index.nextKey
      distinct := by
        intro first second key one two
        rw [Table.find_put] at one two
        split at one
        · next same =>
          split at two
          · next equal => rw [same, equal]
          · cases one
            exact absurd (lt_nextKey two) (Nat.lt_irrefl _)
        · split at two
          · cases two
            exact absurd (lt_nextKey one) (Nat.lt_irrefl _)
          · exact index.distinct first second key one two }
  else index

def remove (index : SpatialIndex) (point : Uuid) : SpatialIndex :=
  match index.keys.find point with
  | none => index
  | some key => { index with tree := index.tree.keep fun other _ => decide (other ≠ key) }

/-- Replaces the entry of a point, which is left out where the point is not shown. -/
def update (index : SpatialIndex) (point : Uuid) (pin : Coordinate) (shown : Bool) : Except StorageError SpatialIndex :=
  let keyed := index.addKey point
  match keyed.keys.find point with
  | none => .error .sqlite
  | some key => do
    ensure (key ≤ largestSpatialRowId) .sqlite
    let cleared := keyed.remove point
    .ok (if shown then { cleared with tree := cleared.tree.put key pin } else cleared)

def entry (index : SpatialIndex) (point : Uuid) : Option Coordinate := (index.keys.find point).bind index.tree.find

end SpatialIndex

end Cutout.Charging

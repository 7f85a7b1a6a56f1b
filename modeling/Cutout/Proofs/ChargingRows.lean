import Cutout.ChargingSync
import Cutout.Library.Outcomes

/-! What each write of the charging store does to its tables. A spot and its pin are read
together: `Became` says which row and pin a point has after a write, and that every other
point is as it was. -/

namespace Cutout.Charging
open Library
variable {checked : ValidatedDirectoryEntry} {entry : ChargingDirectoryEntry}

section Outcomes
variable {α β : Type}

theorem ensure_ok {condition : Prop} [Decidable condition] {error : StorageError} {done : Unit}
    (ensured : ensure condition error = .ok done) : condition := by
  unfold ensure at ensured
  split at ensured
  · next holds => exact holds
  · cases ensured

theorem orError_ok {value : Option α} {error : StorageError} {found : α} (done : orError value error = .ok found) :
    value = some found := by
  cases value with
  | none => cases done
  | some value =>
    cases done
    rfl

theorem ChargingRevision.next_ok {revision following : ChargingRevision} (done : revision.next = .ok following) :
    following.value = revision.value + 1 := by
  unfold ChargingRevision.next ChargingRevision.new at done
  split at done
  · cases done
    rfl
  · cases done

theorem ValidatedDirectoryEntry.new_ok (done : ValidatedDirectoryEntry.new entry = .ok checked) :
    checked.entry = entry := by
  unfold ValidatedDirectoryEntry.new at done
  split at done
  · cases done
    rfl
  · cases done

end Outcomes

namespace SpatialIndex
variable {index after : SpatialIndex} {point : Uuid}
variable (other : Uuid)

@[simp] theorem entry_empty : ({} : SpatialIndex).entry point = none := rfl

private theorem find_addKey (apart : other ≠ point) : (index.addKey point).keys.find other = index.keys.find other := by
  unfold addKey
  split
  · simp [apart]
  · rfl

@[simp] theorem addKey_tree : (index.addKey point).tree = index.tree := by
  unfold addKey
  split <;> rfl

private theorem find_remove (key : Nat) (other : Uuid) (known : index.keys.find other = some key) :
    (index.remove point).tree.find key = if other = point then none else index.tree.find key := by
  unfold remove
  split
  · next unknown =>
    have apart : other ≠ point := by
      rintro rfl
      cases known.symm.trans unknown
    rw [if_neg apart]
  · next taken found =>
    rw [Table.find_keep]
    by_cases same : other = point
    · subst same
      cases found.symm.trans known
      simp
    · have differ : key ≠ taken := by
        rintro rfl
        exact same (index.distinct other point key known found)
      rw [if_neg same, decide_eq_true differ]
      cases index.tree.find key <;> rfl

@[simp] theorem remove_keys : (index.remove point).keys = index.keys := by
  unfold remove
  split <;> rfl

@[simp] theorem entry_remove :
    (index.remove point).entry other = if other = point then none else index.entry other := by
  unfold entry
  rw [remove_keys]
  cases known : index.keys.find other with
  | none => simp
  | some key => exact find_remove key other known

theorem entry_addKey (apart : other ≠ point) : (index.addKey point).entry other = index.entry other := by
  unfold entry
  rw [find_addKey other apart, addKey_tree]

/-- An update sets the entry of its point and keeps the others. -/
theorem entry_update {pin : Coordinate} {shown : Bool} (done : index.update point pin shown = .ok after) (other : Uuid) :
    after.entry other = if other = point then (if shown then some pin else none) else index.entry other := by
  unfold update at done
  dsimp only at done
  split at done
  · cases done
  · next key known =>
    obtain ⟨_, -, done⟩ := ok_bind done
    cases done
    have cleared : ((index.addKey point).remove point).entry other =
        if other = point then none else (index.addKey point).entry other := entry_remove other
    cases shown with
    | false =>
      by_cases same : other = point
      · simp [same]
      · simp [same, entry_addKey other same]
    | true =>
      by_cases same : other = point
      · subst same
        simp [entry, known]
      · rw [if_neg same] at cleared
        have added : (index.addKey point).entry other = index.entry other := entry_addKey other same
        rw [if_neg same, ← added, ← cleared]
        simp only [entry, remove_keys, if_true]
        cases found : (index.addKey point).keys.find other with
        | none => rfl
        | some taken =>
          have differ : taken ≠ key := by
            rintro rfl
            exact same ((index.addKey point).distinct other point taken found known)
          simp [differ]

end SpatialIndex

def shownPin (input : Option NewChargingSpot) (status : ChargingStatus) : Option Coordinate :=
  if status.visible then input.map NewChargingSpot.coordinate else none

namespace ChargingStore
variable {before middle after : ChargingStore} {id : Uuid} {row first second : SpotRow}
variable {status : ChargingStatus}
variable {input : NewChargingSpot}

  {pin early late : Option Coordinate}

structure SameQueue (before after : ChargingStore) : Prop where
  outbox : after.outbox = before.outbox
  lastSequence : after.lastSequence = before.lastSequence
  conflicts : after.conflicts = before.conflicts

/-- A point has this row and this pin now; every other point is as it was. -/
structure Became (id : Uuid) (row : SpotRow) (pin : Option Coordinate) (before after : ChargingStore) : Prop where
  spot : after.spots.find id = some row
  pinned : after.index.entry id = pin
  spots : ∀ other, other ≠ id → after.spots.find other = before.spots.find other
  pins : ∀ other, other ≠ id → after.index.entry other = before.index.entry other
  account : after.account = before.account
  cursor : after.cursor = before.cursor

theorem updateSpatialIndex_ok (done : before.updateSpatialIndex id input status = .ok after) :
    after.spots = before.spots ∧ (∀ other, after.index.entry other =
      if other = id then shownPin (some input) status else before.index.entry other) ∧
    after.account = before.account ∧ after.cursor = before.cursor ∧ SameQueue before after := by
  unfold ChargingStore.updateSpatialIndex at done
  obtain ⟨index, updated, done⟩ := ok_bind done
  cases done
  exact ⟨rfl, SpatialIndex.entry_update updated, rfl, rfl, rfl, rfl, rfl⟩

namespace Became

theorem trans (begun : Became id first early before middle) (done : Became id second late middle after) :
    Became id second late before after where
  spot := done.spot
  pinned := done.pinned
  spots other apart := (done.spots other apart).trans (begun.spots other apart)
  pins other apart := (done.pins other apart).trans (begun.pins other apart)
  account := done.account.trans begun.account
  cursor := done.cursor.trans begun.cursor

section Known
variable (known : before.spots.find id = some row)
include known

private theorem of_eq (spots : after.spots = before.spots) (index : after.index = before.index)
    (account : after.account = before.account) (cursor : after.cursor = before.cursor) :
    Became id row (before.index.entry id) before after where
  spot := by rw [spots, known]
  pinned := by rw [index]
  spots _ _ := by rw [spots]
  pins _ _ := by rw [index]
  account := account
  cursor := cursor

theorem refl : Became id row (before.index.entry id) before before :=
  of_eq known rfl rfl rfl rfl

theorem updateSpot (change : SpotRow → SpotRow) :
    Became id (change row) (before.index.entry id) before (before.updateSpot id change) where
  spot := by simp [ChargingStore.updateSpot, known]
  pinned := rfl
  spots other apart := by simp [ChargingStore.updateSpot, apart]
  pins _ _ := rfl
  account := rfl
  cursor := rfl

theorem removeSpatialIndex : Became id row none before (before.removeSpatialIndex id) where
  spot := known
  pinned := by simp [ChargingStore.removeSpatialIndex]
  spots _ _ := rfl
  pins other apart := by simp [ChargingStore.removeSpatialIndex, apart]
  account := rfl
  cursor := rfl

theorem updateSpatialIndex (done : before.updateSpatialIndex id input status = .ok after) :
    Became id row (shownPin (some input) status) before after ∧ SameQueue before after := by
  obtain ⟨spots, entries, account, cursor, same⟩ := updateSpatialIndex_ok done
  refine ⟨⟨spots ▸ known, ?_, fun _ _ => by rw [spots], ?_, account, cursor⟩, same⟩
  · rw [entries, if_pos rfl]
  · intro other apart
    rw [entries, if_neg apart]

theorem placeBody {input : Option NewChargingSpot} (done : before.placeBody id input status = .ok after) :
    Became id row (shownPin input status) before after ∧ SameQueue before after := by
  cases input with
  | some input => exact updateSpatialIndex known done
  | none =>
    cases done
    have none : shownPin none status = none := by
      unfold shownPin
      split <;> rfl
    rw [none]
    exact ⟨removeSpatialIndex known, rfl, rfl, rfl⟩

end Known

end Became

namespace SameQueue

theorem refl (store : ChargingStore) : SameQueue store store := ⟨rfl, rfl, rfl⟩

theorem trans (begun : SameQueue before middle) (done : SameQueue middle after) : SameQueue before after :=
  ⟨done.outbox.trans begun.outbox, done.lastSequence.trans begun.lastSequence, done.conflicts.trans begun.conflicts⟩

end SameQueue

def EntryUpdate.body (update : EntryUpdate) (entry : ChargingDirectoryEntry) (spot : SpotRow) : SpotRow :=
  match update with
  | .replaceBody => { spot with input := entry.input, status := entry.status, vote := entry.vote }
  | .preserveInput => { spot with status := entry.status, vote := entry.vote }
  | .preserveLocal => spot

def EntryUpdate.noted (update : EntryUpdate) (entry : ChargingDirectoryEntry) (spot : SpotRow) : SpotRow :=
  { spot with
    remoteId := some entry.id
    remoteRevision := entry.revision
    changeSequence := entry.changeSequence
    verifiedAtMs := if update = .replaceBody then entry.verifiedAtMs else spot.verifiedAtMs
    voteRevision := entry.voteRevision
    votesUp := entry.votesUp
    votesDown := entry.votesDown }

def EntryUpdate.takes (update : EntryUpdate) (entry : ChargingDirectoryEntry) (spot : SpotRow) : SpotRow :=
  update.noted entry (update.body entry spot)

def EntryUpdate.puts (update : EntryUpdate) (entry : ChargingDirectoryEntry) (spot : SpotRow) (old : Option Coordinate) :
    Option Coordinate :=
  match update with
  | .replaceBody => shownPin entry.input entry.status
  | .preserveInput => shownPin spot.input entry.status
  | .preserveLocal => old

theorem Became.applyBody {update : EntryUpdate} (known : before.spots.find id = some row)
    (done : before.applyBody id entry update = .ok after) :
    Became id (update.body entry row) (update.puts entry row (before.index.entry id)) before after ∧
      SameQueue before after := by
  unfold ChargingStore.applyBody at done
  cases update with
  | replaceBody =>
    obtain ⟨middle, placed, done⟩ := ok_bind done
    cases done
    obtain ⟨moved, same⟩ := Became.placeBody known placed
    have updated := Became.updateSpot moved.spot fun row =>
      { row with input := entry.input, status := entry.status, vote := entry.vote }
    rw [moved.pinned] at updated
    exact ⟨moved.trans updated, same.trans ⟨rfl, rfl, rfl⟩⟩
  | preserveInput =>
    obtain ⟨found, held, done⟩ := ok_bind done
    cases known.symm.trans (orError_ok held)
    obtain ⟨middle, placed, done⟩ := ok_bind done
    cases done
    obtain ⟨moved, same⟩ := Became.placeBody known placed
    have updated := Became.updateSpot moved.spot fun row => { row with status := entry.status, vote := entry.vote }
    rw [moved.pinned] at updated
    exact ⟨moved.trans updated, same.trans ⟨rfl, rfl, rfl⟩⟩
  | preserveLocal =>
    cases done
    exact ⟨.refl known, .refl _⟩

/-- Applying an entry makes the row and the pin the update asks for. -/
theorem Became.applyEntry {update : EntryUpdate} (known : before.spots.find id = some row)
    (done : before.applyEntry id checked update = .ok after) : let entry := before.seenEntry checked.entry
    Became id (update.takes entry row) (update.puts entry row (before.index.entry id)) before after ∧
      SameQueue before after := by
  intro entry
  unfold ChargingStore.applyEntry at done
  dsimp only at done
  obtain ⟨middle, applied, done⟩ := ok_bind done
  obtain ⟨_, -, done⟩ := ok_bind done
  cases done
  obtain ⟨moved, same⟩ := Became.applyBody known applied
  have updated := Became.updateSpot moved.spot (update.noted entry)
  rw [moved.pinned] at updated
  exact ⟨moved.trans updated, same.trans ⟨rfl, rfl, rfl⟩⟩

end ChargingStore

end Cutout.Charging

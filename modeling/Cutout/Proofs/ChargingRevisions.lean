import Cutout.Library.Runs
import Cutout.Proofs.ChargingCalls

/-! Revisions the server confirmed. Every call but two keeps or raises what is stored of a
spot: a page may drop the vote of a withdrawn spot, and accepting a retained entry may
bring back an older vote. Runs without these go forward only. -/

namespace Cutout.Charging
open Library

namespace ChargingStore
variable {before middle after : ChargingStore} {fresh id point : Uuid} {entry : ChargingDirectoryEntry}
variable {receipt : ChargingWriteReceipt} {expected : ChargingRevision}
variable {voteRevision revision : ChargingRevision} {input : NewChargingSpot}

  {row later : SpotRow}

structure RowForward (row later : SpotRow) : Prop where
  remoteRevision : row.remoteRevision.value ≤ later.remoteRevision.value
  changeSequence : row.changeSequence.value ≤ later.changeSequence.value
  voteRevision : row.voteRevision.value ≤ later.voteRevision.value

structure Forward (before after : ChargingStore) : Prop where
  rows : ∀ id row, before.spots.find id = some row → ∃ later, after.spots.find id = some later ∧ RowForward row later
  cursor : before.cursor.value ≤ after.cursor.value

theorem RowForward.same (remoteRevision : later.remoteRevision = row.remoteRevision)
    (changeSequence : later.changeSequence = row.changeSequence) (voteRevision : later.voteRevision = row.voteRevision) :
    RowForward row later :=
  ⟨Nat.le_of_eq (by rw [remoteRevision]), Nat.le_of_eq (by rw [changeSequence]), Nat.le_of_eq (by rw [voteRevision])⟩

theorem RowForward.refl (row : SpotRow) : RowForward row row := .same rfl rfl rfl

namespace Forward
variable {pin : Option Coordinate}

theorem same (spots : SameSpots before after) : Forward before after := by
  refine ⟨?_, Nat.le_of_eq (by rw [spots.cursor])⟩
  intro id row known
  exact ⟨row, by rw [spots.spots, known], .refl row⟩

theorem refl (store : ChargingStore) : Forward store store := same (.refl store)

theorem trans (first : Forward before middle) (second : Forward middle after) : Forward before after := by
  refine ⟨?_, Nat.le_trans first.cursor second.cursor⟩
  intro id row known
  obtain ⟨next, stored, one⟩ := first.rows id row known
  obtain ⟨later, found, two⟩ := second.rows id next stored
  exact ⟨later, found, Nat.le_trans one.remoteRevision two.remoteRevision,
    Nat.le_trans one.changeSequence two.changeSequence, Nat.le_trans one.voteRevision two.voteRevision⟩

theorem became (became : Became id later pin before after)
    (forward : ∀ row, before.spots.find id = some row → RowForward row later) : Forward before after := by
  refine ⟨?_, Nat.le_of_eq (by rw [became.cursor])⟩
  intro other row known
  by_cases here : other = id
  · subst here
    exact ⟨later, became.spot, forward row known⟩
  · exact ⟨row, by rw [became.spots other here, known], .refl row⟩

theorem known (held : before.spots.find id = some row) (moved : Became id later pin before after)
    (forward : RowForward row later) : Forward before after := by
  apply became moved
  intro other found
  cases held.symm.trans found
  exact forward

theorem unknown (none : before.spots.find id = none) (moved : Became id later pin before after) :
    Forward before after := by
  apply became moved
  intro other found
  cases none.symm.trans found

end Forward

private theorem save_forward (done : before.save point fresh input = .ok (after, receipt)) : Forward before after := by
  obtain ⟨unknown, middle, moved, -, queues⟩ := save_ok done
  exact .unknown unknown (queues.became moved)

private theorem change_forward {action : ChargingAction}
    (done : before.change fresh id expected action = .ok (after, receipt)) : Forward before after := by
  obtain ⟨row, revision, middle, known, -, moved, -, queues⟩ := change_ok done
  refine .known known (queues.became moved) ?_
  cases action <;> exact .same rfl rfl rfl

private theorem nextOperation_forward {operation : Option ChargingOperation}
    (done : before.nextOperation = .ok (after, operation)) : Forward before after := by
  obtain ⟨-, ⟨-, -, rfl⟩ | ⟨row, target, -, -, ⟨-, rfl⟩ | ⟨-, rfl⟩⟩⟩ := nextOperation_ok done
  · exact .refl _
  · exact .refl _
  · exact .same ⟨rfl, rfl, rfl, rfl⟩

private theorem cacheDirectoryEntry_forward (active : before.account = .active)
    (done : before.cacheDirectoryEntry entry = .ok (after, point)) : Forward before after := by
  obtain ⟨-, rfl | ⟨row, revision, known, -, -, sequence, remote, votes, -, moved, -⟩ | ⟨revision, unknown, moved, -⟩⟩ :=
    cacheDirectoryEntry_ok done
  · exact .refl _
  · rw [seenEntry_active active] at moved
    exact .known known moved ⟨remote, sequence, votes⟩
  · exact .unknown unknown moved

private theorem cacheVote_forward {remoteId : Uuid} {vote : Option ChargingVote} {votesUp votesDown : Nat}
    {changeSequence : ChargingChangeCursor}
    (done : before.cacheVote remoteId vote voteRevision votesUp votesDown changeSequence = .ok (after, point)) :
    Forward before after := by
  obtain ⟨-, row, revision, shown, known, -, sequence, votes, moved, -⟩ := cacheVote_ok done
  exact .known known moved ⟨Nat.le_refl _, sequence, votes⟩

private theorem acknowledgeOperation_forward {applied : ChargingRevision}
    (done : before.acknowledgeOperation id applied entry = .ok (after, point)) : Forward before after := by
  obtain ⟨-, ⟨-, rfl⟩ | ⟨row, target, spot, -, -, known, receipted, -, moved⟩⟩ := acknowledgeOperation_ok done
  · exact .refl _
  · refine .known known moved ?_
    unfold acknowledgedRow
    split <;> exact ⟨receipted.revision, receipted.changeSequence, receipted.voteRevision⟩

private theorem acknowledgeVoteOperation_forward {receipt : ChargingVoteReceipt}
    (done : before.acknowledgeVoteOperation id receipt = .ok (after, point)) : Forward before after := by
  obtain ⟨-, rfl⟩ | ⟨row, target, spot, shown, -, -, -, known, -, votes, -, moved⟩ := acknowledgeVoteOperation_ok done
  · exact .refl _
  · exact .known known moved ⟨Nat.le_refl _, Nat.le_refl _, votes⟩

private theorem blockOperation_forward {kind : ChargingOperationBlockKind} (done : before.blockOperation id kind = .ok after) :
    Forward before after := by
  obtain ⟨row, draft, -, rfl⟩ := blockOperation_ok done
  exact .same ⟨rfl, rfl, rfl, rfl⟩

private theorem replaceBlockedOperation_forward
    (done : before.replaceBlockedOperation fresh id expected input = .ok (after, receipt)) :
    Forward before after := by
  obtain ⟨row, spot, revision, action, target, middle, -, -, known, -, -, moved, -, queues⟩ :=
    replaceBlockedOperation_ok done
  exact .known known (queues.became moved) (.same rfl rfl rfl)

/-- A published entry without vote data reaches a withdrawn spot that has a confirmed vote. -/
def DropsVote (store : ChargingStore) (entry : ChargingDirectoryEntry) : Prop :=
  ∃ id row, store.findRemote entry.id = some id ∧ store.spots.find id = some row ∧
    row.changeSequence.value < entry.changeSequence.value ∧ row.status = .withdrawn ∧ entry.status = .published ∧
    entry.voteRevision = .zero ∧ 0 < row.voteRevision.value

/-- Accepting an entry that knows less of the vote than the spot does. -/
def BringsOldVote (store : ChargingStore) (id : Uuid) : Prop :=
  ∃ row conflict entry spot, store.findOperation id = some row ∧ store.conflicts.find id = some conflict ∧
    conflict.remoteEntry = some entry ∧ store.spots.find row.pointId = some spot ∧
    entry.voteRevision.value < spot.voteRevision.value

/-- A call that, where the store takes it, can neither drop a vote nor bring back an older one. -/
def KeepsVotes (store : ChargingStore) : ChargingCall → Prop
  | .applyChangesPage entries nextCursor now =>
    store.Accepts (.applyChangesPage entries nextCursor now) → PageAvoids DropsVote store.cursor.value store entries
  | .resolveOperation fresh id expected .acceptServer =>
    store.Accepts (.resolveOperation fresh id expected .acceptServer) → ¬BringsOldVote store id
  | _ => True

theorem PageVote.forward (active : before.account = .active) (newer : Newer before entry id row revision)
    (vote : PageVote before entry row voteRevision) : row.voteRevision.value ≤ voteRevision.value := by
  rcases vote with rfl | ⟨votes, rfl⟩
  · exact Nat.le_refl _
  · rw [seenEntry_active active]
    rcases newer.voteRevision with zero | less
    · exact absurd zero votes
    · exact less

/-- The metadata of a tombstone goes back only where it drops a vote. -/
theorem metadataRow_forward (pendingVote : Bool) (newer : Newer before entry id row revision)
    (withdrawn : row.status = .withdrawn) (published : entry.status = .published) (keeps : ¬DropsVote before entry) :
    RowForward row (metadataRow entry pendingVote row) := by
  refine ⟨newer.remoteRevision, Nat.le_of_lt newer.changeSequence, ?_⟩
  show row.voteRevision.value ≤ entry.voteRevision.value
  rcases newer.voteRevision with zero | less
  · by_contra dropped
    refine keeps ⟨id, row, newer.found, newer.known, newer.changeSequence, withdrawn, published, zero, ?_⟩
    omega
  · exact less

private theorem applyChangeEntry_forward {blocked : Nat} (active : before.account = .active) (keeps : ¬DropsVote before entry)
    (done : before.applyChangeEntry entry = .ok (after, blocked)) : Forward before after := by
  obtain ⟨-, outcome⟩ := applyChangeEntry_ok done
  cases outcome with
  | inserted unknown _ moved => exact .unknown unknown moved
  | old same => exact same ▸ .refl _
  | tombstone id row revision reviewed current blocked newer _ _ _ _ withdrawn published moved =>
    obtain ⟨remote, sequence, votes⟩ := metadataRow_forward current.pendingVote newer withdrawn published keeps
    exact .known newer.known moved ⟨remote, sequence, votes⟩
  | beside _ _ _ _ _ _ _ _ newer _ _ _ _ _ vote revoted moved | alone _ _ _ _ _ newer _ _ _ vote revoted moved =>
    have votes := vote.forward active newer
    rw [seenEntry_active active] at revoted
    refine .known newer.known moved ⟨?_, ?_, ?_⟩
    · exact revoted.remoteRevision ▸ newer.remoteRevision
    · exact revoted.changeSequence ▸ Nat.le_of_lt newer.changeSequence
    · exact revoted.voteRevision ▸ votes
  | revived id row revision newer _ _ withdrawn published moved =>
    obtain ⟨remote, sequence, votes⟩ := metadataRow_forward false newer withdrawn published keeps
    exact .known newer.known moved ⟨remote, sequence, votes⟩

private theorem applyChangesPage_forward {entries : List ChargingDirectoryEntry} {nextCursor : ChargingChangeCursor} {now : Nat}
    {result : ChargingPageApplyResult} (active : before.account = .active)
    (keeps : PageAvoids DropsVote before.cursor.value before entries)
    (done : before.applyChangesPage entries nextCursor now = .ok (after, result)) : Forward before after := by
  obtain ⟨applied, count, blocked, took, grows, rfl⟩ := applyChangesPage_ok done
  have page : Forward before applied ∧ applied.account = .active := by
    refine PageAvoids.invariant (P := fun store => Forward before store ∧ store.account = .active) ?_
      ⟨.refl _, active⟩ keeps took
    intro store applied entry blocked holds keeps took
    refine ⟨holds.1.trans (applyChangeEntry_forward holds.2 keeps took), ?_⟩
    exact (applyChangeEntry_ok took).2.account.trans holds.2
  exact ⟨page.1.rows, grows⟩

private theorem resolveOperation_forward {resolution : ChargingOperationResolution}
    (keeps : before.KeepsVotes (.resolveOperation fresh id expected resolution))
    (done : before.resolveOperation fresh id expected resolution = .ok after) : Forward before after := by
  obtain ⟨-, review, spot, conflict, under, outcome⟩ := resolveOperation_ok done
  cases outcome with
  | retried same => exact .same (same ▸ ⟨rfl, rfl, rfl, rfl⟩)
  | rebased _ _ _ _ _ _ _ moved | abandoned _ _ _ _ _ moved => exact .known under.known moved (.same rfl rfl rfl)
  | accepted checked final pin revision remote _ sequence revisions takes _ _ _ _ _ moved =>
    have retained := under.remote
    rw [remote] at retained
    refine .known under.known moved ⟨?_, ?_, ?_⟩
    · exact takes.remoteRevision ▸ revisions
    · exact takes.changeSequence ▸ sequence
    · show spot.voteRevision.value ≤ final.voteRevision.value
      rw [takes.voteRevision]
      by_contra older
      refine keeps (.resolution done) ⟨review.row, conflict, checked.entry, spot, under.operation, under.kept, retained.symm, under.known, ?_⟩
      omega

/-- From a step that keeps votes no confirmed revision goes back. -/
theorem step_forward (store : ChargingStore) (call : ChargingCall) (active : store.account = .active)
    (keeps : store.KeepsVotes call) : Forward store (store.step call).1 := by
  cases call with
  | account event =>
    refine commit_of (.refl store) ?_
    intro after value done
    unfold applyAccount at done
    rw [active] at done
    cases event with
    | read =>
      cases done
      exact .refl store
    | beginDeletion =>
      cases done
      exact ⟨(Forward.refl store).rows, Nat.le_refl _⟩
    | completeDeletion atMs => cases done
  | save point fresh input => exact commit_of (.refl store) fun _ _ done => save_forward done
  | change fresh id expected action => exact commit_of (.refl store) fun _ _ done => change_forward done
  | nextOperation => exact commit_of (.refl store) fun _ _ done => nextOperation_forward done
  | cacheDirectoryEntry entry => exact commit_of (.refl store) fun _ _ done => cacheDirectoryEntry_forward active done
  | acknowledgeOperation id applied entry => exact commit_of (.refl store) fun _ _ done => acknowledgeOperation_forward done
  | acknowledgeVoteOperation id receipt => exact commit_of (.refl store) fun _ _ done => acknowledgeVoteOperation_forward done
  | applyChangesPage entries nextCursor now =>
    exact commit_of (.refl store) fun _ _ done => applyChangesPage_forward active (keeps (.page done)) done
  | cacheVote remoteId vote voteRevision votesUp votesDown changeSequence =>
    exact commit_of (.refl store) fun _ _ done => cacheVote_forward done
  | blockOperation id kind => exact commit_done_of (.refl store) fun _ done => blockOperation_forward done
  | resolveOperation fresh id expected resolution => exact commit_done_of (.refl store) fun _ done => resolveOperation_forward keeps done
  | replaceBlockedOperation fresh id expected input => exact commit_of (.refl store) fun _ _ done => replaceBlockedOperation_forward done

/-- Along every run of an active account whose calls keep votes, from any store to any
later one, no confirmed revision and no cursor goes back. -/
theorem revisions_go_forward (start : ChargingStore) (calls : List ChargingCall)
    (active : ∀ here ∈ Runs.history step start calls, here.before.account = .active)
    (keeps : ∀ here ∈ Runs.history step start calls, here.before.KeepsVotes here.input) :
    Forward start (Runs.final step start calls) := by
  induction calls generalizing start with
  | nil => exact .refl start
  | cons call calls ih =>
    have first : Forward start (start.step call).1 :=
      step_forward start call (active _ List.mem_cons_self) (keeps _ List.mem_cons_self)
    refine first.trans (ih _ ?_ ?_)
    · exact fun here member => active here (List.mem_cons_of_mem _ member)
    · exact fun here member => keeps here (List.mem_cons_of_mem _ member)

end ChargingStore

section Samples
open ChargingStore

/-- The spot of the runs below, under its local and its server identifier. -/
def samplePoint : Uuid := 1
def sampleRemote : Uuid := 2
def sampleSpot : NewChargingSpot := ⟨⟨377749000, -1224194000⟩, "outlet beside the entrance"⟩

def sampleEntry (status : ChargingStatus) (revision sequence : ChargingRevision) : ChargingDirectoryEntry where
  id := sampleRemote
  input := if status = .published then some sampleSpot else none
  revision := revision
  changeSequence := sequence
  status := status
  verifiedAtMs := none
  vote := none
  voteRevision := .zero
  votesUp := 0
  votesDown := 0

def two : ChargingRevision := ⟨2, by decide⟩
def three : ChargingRevision := ⟨3, by decide⟩
def four : ChargingRevision := ⟨4, by decide⟩

def publishedRun : List ChargingCall :=
  [.save samplePoint 100 sampleSpot, .nextOperation,
    .acknowledgeOperation 100 .initial (sampleEntry .published .initial .initial)]

def votedRun : List ChargingCall := publishedRun ++
  [.change 101 samplePoint .initial (.vote (some .up)), .nextOperation,
    .acknowledgeVoteOperation 101 ⟨.initial, .initial, some .up, 1, 0, .initial⟩]

def votedEntry (revision sequence : ChargingRevision) : ChargingDirectoryEntry :=
  { sampleEntry .published revision sequence with vote := some .up, voteRevision := .initial, votesUp := 1 }

/-- A page without vote data brings a newer body, the next one blocks an edit of it, and the server's entry is
accepted. -/
def reviewedCalls : List ChargingCall :=
  [.applyChangesPage [sampleEntry .published two two] two 5, .change 102 samplePoint three (.edit sampleSpot),
    .applyChangesPage [votedEntry three three] three 6, .resolveOperation 103 102 ⟨5, by decide⟩ .acceptServer]

/-- The confirmed revisions and the vote revision of the sample spot, with the cursor. -/
def sampleRevisions (store : ChargingStore) : Option (Nat × Nat × Nat × Nat) :=
  (store.spots.find samplePoint).map fun row =>
    (row.remoteRevision.value, row.changeSequence.value, row.voteRevision.value, store.cursor.value)

private theorem published_vote_kept {store : ChargingStore} {entry : ChargingDirectoryEntry} (id : Uuid)
    (found : store.findRemote entry.id = some id)
    (shown : (store.spots.find id).map SpotRow.status = some .published) : ¬DropsVote store entry := by
  rintro ⟨other, row, same, known, -, withdrawn, -⟩
  rw [found] at same
  cases same
  rw [known, Option.map_some, withdrawn] at shown
  cases shown

private theorem retained_vote_kept {store : ChargingStore} (entry : ChargingDirectoryEntry) (id point : Uuid)
    (placed : (store.findOperation id).map OutboxRow.pointId = some point)
    (retained : (store.conflicts.find id).bind ConflictRow.remoteEntry = some entry)
    (vote : (store.spots.find point).map SpotRow.voteRevision = some entry.voteRevision) : ¬BringsOldVote store id := by
  rintro ⟨row, conflict, other, spot, operation, kept, same, known, older⟩
  rw [operation, Option.map_some, Option.some.injEq] at placed
  rw [kept, Option.bind_some, same, Option.some.injEq] at retained
  rw [← placed, known, Option.map_some, Option.some.injEq] at vote
  rw [retained, vote] at older
  exact Nat.lt_irrefl _ older

theorem reviewed_revisions_go_forward :
    let voted := Runs.final step {} votedRun
    Forward voted (Runs.final step voted reviewedCalls) ∧
      sampleRevisions voted = some (1, 1, 1, 0) ∧
      (Runs.history step voted reviewedCalls).map (fun here => sampleRevisions here.after) =
        [some (2, 2, 1, 2), some (2, 2, 1, 2), some (3, 3, 1, 3), some (3, 3, 1, 3)] := by
  intro voted
  refine ⟨revisions_go_forward voted reviewedCalls (by decide) ?_, by decide, by decide⟩
  intro here member
  simp only [reviewedCalls, Runs.history, List.mem_cons, List.not_mem_nil, or_false] at member
  rcases member with rfl | rfl | rfl | rfl
  · exact fun _ => ⟨published_vote_kept samplePoint rfl rfl, fun _ _ _ => trivial⟩
  · trivial
  · exact fun _ => ⟨published_vote_kept samplePoint rfl rfl, fun _ _ _ => trivial⟩
  · intro _
    exact retained_vote_kept (votedEntry three three) 102 samplePoint (by decide) (by decide) (by decide)

/-- A page without vote data reaches the withdrawn spot, and an accepted entry without
vote data replaces the voted one: both times a confirmed vote revision goes back to zero. -/
theorem confirmed_vote_goes_back :
    let withdrawn : List ChargingCall := [.change 102 samplePoint two .withdraw,
      .applyChangesPage [sampleEntry .published two two] two 5]
    let accepted : List ChargingCall := [.change 102 samplePoint two (.edit sampleSpot),
      .applyChangesPage [sampleEntry .published two two] two 5, .resolveOperation 103 102 four .acceptServer]
    (∀ here ∈ Runs.history step {} (votedRun ++ withdrawn) ++ Runs.history step {} (votedRun ++ accepted),
      here.before.account = .active ∧ here.after.account = .active) ∧
    ((Runs.final step {} votedRun).spots.find samplePoint).map SpotRow.voteRevision = some .initial ∧
    ((Runs.final step {} (votedRun ++ withdrawn)).spots.find samplePoint).map SpotRow.voteRevision = some .zero ∧
    ((Runs.final step {} (votedRun ++ accepted)).spots.find samplePoint).map SpotRow.voteRevision = some .zero := by
  decide

end Samples

end Cutout.Charging

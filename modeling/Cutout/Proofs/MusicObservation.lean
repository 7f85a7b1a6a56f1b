import Cutout.MusicObservation
import Cutout.Library.Positions
import Cutout.Library.Runs

/-! The correlation of skip commands and history entries. Finishing a skip settles
the one entry that awaits it, so that the entries that await a skip are those of the
matched skips, whatever order commands, outcomes and observations come in. -/

namespace Cutout.Music
open Library
open Protocols (u64Max)

abbrev TrackerStep := Step MusicObservationTracker TrackerCall TrackerReply

def PendingHistoryKind.awaited : PendingHistoryKind → Option Nat
  | confirmed _ => none
  | awaitingSkip transportId _ => some transportId

private theorem PendingHistoryKind.awaits_iff {kind : PendingHistoryKind} {transportId : Nat} :
    kind.awaits transportId = true ↔ kind.awaited = some transportId := by
  cases kind <;> simp [awaits, awaited]

def PendingHistoryTransition.settle (finished : Nat → Bool) (accepted : Bool) (entry : PendingHistoryTransition) :
    Option PendingHistoryTransition :=
  match entry.kind with
  | .confirmed _ => some entry
  | .awaitingSkip transportId rejectedKind =>
    if finished transportId then
      (if accepted then some .skip else rejectedKind).map fun kind => { entry with kind := .confirmed kind }
    else some entry

namespace PendingHistoryTransition
variable {finished : Nat → Bool} {accepted : Bool} {entry settled : PendingHistoryTransition}

private theorem settle_other (other : ∀ transportId, entry.kind.awaited = some transportId → finished transportId = false) :
    entry.settle finished accepted = some entry := by
  obtain ⟨id, snapshot, kind, timing⟩ := entry
  cases kind with
  | confirmed => rfl
  | awaitingSkip transportId => simp [settle, other transportId rfl]

theorem settle_some (found : entry.settle finished accepted = some settled) :
    settled.id = entry.id ∧ settled.snapshot = entry.snapshot ∧ settled.timing = entry.timing ∧
      (settled = entry ∨ ∃ transportId, entry.kind.awaited = some transportId ∧ finished transportId = true) := by
  obtain ⟨id, snapshot, kind, timing⟩ := entry
  cases kind with
  | confirmed =>
    cases found
    exact ⟨rfl, rfl, rfl, .inl rfl⟩
  | awaitingSkip transportId rejectedKind =>
    simp only [settle] at found
    by_cases named : finished transportId = true
    · rw [if_pos named] at found
      obtain ⟨kind, -, rfl⟩ := Option.map_eq_some_iff.mp found
      exact ⟨rfl, rfl, rfl, .inr ⟨transportId, rfl, named⟩⟩
    · rw [if_neg named] at found
      cases found
      exact ⟨rfl, rfl, rfl, .inl rfl⟩

private theorem settle_awaited (found : entry.settle finished accepted = some settled) :
    settled.kind.awaited = entry.kind.awaited.filter fun transportId => !finished transportId := by
  obtain ⟨id, snapshot, kind, timing⟩ := entry
  cases kind with
  | confirmed =>
    cases found
    rfl
  | awaitingSkip transportId rejectedKind =>
    simp only [settle] at found
    by_cases named : finished transportId = true
    · rw [if_pos named] at found
      obtain ⟨kind, -, rfl⟩ := Option.map_eq_some_iff.mp found
      simp [PendingHistoryKind.awaited, Option.filter_some, named]
    · rw [if_neg named] at found
      cases found
      simp [PendingHistoryKind.awaited, Option.filter_some, named]

/-- Only a rejected skip without another classification removes its entry. -/
theorem settle_none (gone : entry.settle finished accepted = none) :
    accepted = false ∧ ∃ transportId, entry.kind = .awaitingSkip transportId none ∧ finished transportId = true := by
  obtain ⟨id, snapshot, kind, timing⟩ := entry
  cases kind with
  | confirmed => cases gone
  | awaitingSkip transportId rejectedKind =>
    simp only [settle] at gone
    by_cases named : finished transportId = true
    · rw [if_pos named] at gone
      cases accepted with
      | true => cases gone
      | false =>
        cases rejectedKind with
        | none => exact ⟨rfl, transportId, rfl, named⟩
        | some kind => cases gone
    · rw [if_neg named] at gone
      cases gone

private theorem settle_comp (first second : Nat → Bool) (entry : PendingHistoryTransition) :
    (entry.settle first false).bind (settle second false) =
      entry.settle (fun transportId => first transportId || second transportId) false := by
  obtain ⟨id, snapshot, kind, timing⟩ := entry
  cases kind with
  | confirmed => rfl
  | awaitingSkip transportId rejectedKind =>
    simp only [settle]
    by_cases named : first transportId = true
    · rw [if_pos named]
      cases rejectedKind <;> simp [named, settle]
    · simp only [named, Bool.false_eq_true, if_false, Option.bind_some, Bool.false_or, settle]

end PendingHistoryTransition

def awaitedSkips (entries : List PendingHistoryTransition) : List Nat :=
  entries.filterMap fun entry => entry.kind.awaited

def matchedSkips (skips : List PendingSkip) : List Nat :=
  (skips.filter PendingSkip.matchedObservation).map PendingSkip.transportId

section Settling
variable {entries : List PendingHistoryTransition} {finished : Nat → Bool} {accepted : Bool}

private theorem awaitedSkips_settle :
    awaitedSkips (entries.filterMap (PendingHistoryTransition.settle finished accepted)) =
      (awaitedSkips entries).filter fun transportId => !finished transportId := by
  induction entries with
  | nil => rfl
  | cons entry entries ih =>
    cases settled : entry.settle finished accepted with
    | some result =>
      have awaited := PendingHistoryTransition.settle_awaited settled
      cases known : entry.kind.awaited with
      | none =>
        rw [known] at awaited
        simpa [awaitedSkips, settled, known, awaited] using ih
      | some transportId =>
        rw [known] at awaited
        cases named : finished transportId with
        | true => simpa [awaitedSkips, settled, known, awaited, named] using ih
        | false => simpa [awaitedSkips, settled, known, awaited, named, Option.filter] using ih
    | none =>
      obtain ⟨-, transportId, kind, named⟩ := PendingHistoryTransition.settle_none settled
      simpa [awaitedSkips, settled, kind, PendingHistoryKind.awaited, named] using ih

theorem settle_others (others : ∀ transportId ∈ awaitedSkips entries, finished transportId = false) :
    entries.filterMap (PendingHistoryTransition.settle finished accepted) = entries := by
  rw [List.filterMap_congr (g := some)]
  · exact List.filterMap_some
  · intro entry member
    apply PendingHistoryTransition.settle_other
    intro transportId awaited
    exact others transportId (List.mem_filterMap.mpr ⟨entry, member, awaited⟩)

theorem settle_ids_sublist :
    ((entries.filterMap (PendingHistoryTransition.settle finished accepted)).map PendingHistoryTransition.id).Sublist
      (entries.map PendingHistoryTransition.id) := by
  induction entries with
  | nil => exact List.Sublist.refl _
  | cons entry entries ih =>
    cases settled : entry.settle finished accepted with
    | some result =>
      rw [List.filterMap_cons_some settled, List.map_cons, List.map_cons,
        (PendingHistoryTransition.settle_some settled).1]
      exact ih.cons_cons _
    | none =>
      rw [List.filterMap_cons_none settled]
      exact ih.cons _

end Settling

namespace MusicObservationTracker
variable {tracker : MusicObservationTracker}
variable (skips : List PendingSkip)

/-- Entries wait exactly for the matched skips, whose outcomes are not known yet. -/
structure Correlated (tracker : MusicObservationTracker) : Prop where
  distinct : (tracker.pendingSkips.map PendingSkip.transportId).Nodup
  paired : (awaitedSkips tracker.pendingHistory).Perm (matchedSkips tracker.pendingSkips)
  open_ : ∀ pending ∈ tracker.pendingSkips, pending.outcome ≠ .rejected ∧
    (pending.matchedObservation = true → pending.outcome = .pending)
  ascending : (tracker.pendingHistory.map PendingHistoryTransition.id).Pairwise (· < ·)
  below : ∀ entry ∈ tracker.pendingHistory, entry.id ≤ tracker.lastHistoryId

theorem matchedSkips_sublist :
    (matchedSkips skips).Sublist (skips.map PendingSkip.transportId) := List.filter_sublist.map _

theorem Correlated.matched_nodup (correlated : Correlated tracker) : (matchedSkips tracker.pendingSkips).Nodup :=
  correlated.distinct.sublist (matchedSkips_sublist _)

private theorem Correlated.awaited_nodup (correlated : Correlated tracker) : (awaitedSkips tracker.pendingHistory).Nodup :=
  correlated.paired.nodup_iff.mpr correlated.matched_nodup

private theorem resolveHistorySkip_eq (distinct : (awaitedSkips tracker.pendingHistory).Nodup) (transportId : Nat)
    (accepted : Bool) :
    tracker.resolveHistorySkip transportId (if accepted then .accepted else .rejected) = { tracker with
      pendingHistory := tracker.pendingHistory.filterMap
        (PendingHistoryTransition.settle (fun named => decide (named = transportId)) accepted) } := by
  unfold resolveHistorySkip
  cases found : tracker.pendingHistory.findIdx? fun pending => pending.kind.awaits transportId with
  | none =>
    rw [settle_others]
    intro named member
    obtain ⟨entry, queued, awaited⟩ := List.mem_filterMap.mp member
    have other := findIdx?_none found entry queued
    simp only [decide_eq_false_iff_not]
    rintro rfl
    rw [PendingHistoryKind.awaits_iff.mpr awaited] at other
    cases other
  | some index =>
    obtain ⟨early, entry, late, split, rfl, awaits, before⟩ := findIdx?_split found
    obtain ⟨id, snapshot, kind, timing⟩ := entry
    cases kind with
    | confirmed => cases awaits
    | awaitingSkip current rejectedKind =>
      obtain rfl : current = transportId := by simpa [PendingHistoryKind.awaits] using awaits
      rw [split] at distinct
      have apart : (awaitedSkips early ++ current :: awaitedSkips late).Nodup := by
        simpa [awaitedSkips, PendingHistoryKind.awaited] using distinct
      have earlier : ∀ named ∈ awaitedSkips early, decide (named = current) = false := by
        intro named member
        simp only [decide_eq_false_iff_not]
        rintro rfl
        exact (List.nodup_append.mp apart).2.2 named member named (List.mem_cons_self ..) rfl
      have later : ∀ named ∈ awaitedSkips late, decide (named = current) = false := by
        intro named member
        simp only [decide_eq_false_iff_not]
        rintro rfl
        exact (List.nodup_cons.mp (List.nodup_append.mp apart).2.1).1 member
      have moved : (if accepted then SkipCommandOutcome.accepted else .rejected) ≠ .pending := by
        cases accepted <;> decide
      rw [split]
      simp only [getElem?_middle, modify_middle, eraseIdx_middle, moved, if_false, List.filterMap_append,
        List.filterMap_cons, settle_others earlier, settle_others later, PendingHistoryTransition.settle,
        decide_true, if_true]
      cases accepted with
      | true => simp
      | false => cases rejectedKind <;> simp

/-- Skips are finished: they leave the queue, and the entries that await them are settled. -/
def settled (tracker : MusicObservationTracker) (finished : Nat → Bool) (accepted : Bool) : MusicObservationTracker :=
  { tracker with
    pendingHistory := tracker.pendingHistory.filterMap (PendingHistoryTransition.settle finished accepted)
    pendingSkips := tracker.pendingSkips.filter fun pending => !finished pending.transportId }

private theorem matchedSkips_filter (finished : Nat → Bool) :
    matchedSkips (skips.filter fun pending => !finished pending.transportId) =
      (matchedSkips skips).filter fun transportId => !finished transportId := by
  simp only [matchedSkips, List.filter_map, List.filter_filter]
  congr 1
  apply List.filter_congr
  intro pending _
  exact Bool.and_comm _ _

theorem Correlated.settled (correlated : Correlated tracker) (finished : Nat → Bool) (accepted : Bool) :
    Correlated (tracker.settled finished accepted) := by
  refine ⟨correlated.distinct.sublist (List.filter_sublist.map _), ?_, ?_,
    correlated.ascending.sublist settle_ids_sublist, ?_⟩
  · simp only [MusicObservationTracker.settled, awaitedSkips_settle, matchedSkips_filter]
    exact correlated.paired.filter _
  · intro pending member
    exact correlated.open_ pending (List.mem_of_mem_filter member)
  · intro entry member
    obtain ⟨earlier, queued, found⟩ := List.mem_filterMap.mp member
    rw [(PendingHistoryTransition.settle_some found).1]
    exact correlated.below earlier queued

theorem settled_none (correlated : Correlated tracker) {finished : Nat → Bool} (accepted : Bool)
    (none_ : ∀ pending ∈ tracker.pendingSkips, finished pending.transportId = false) :
    tracker.settled finished accepted = tracker := by
  have history : tracker.pendingHistory.filterMap (PendingHistoryTransition.settle finished accepted) =
      tracker.pendingHistory := by
    apply settle_others
    intro transportId awaited
    have matched := (correlated.paired.mem_iff).mp awaited
    obtain ⟨pending, member, rfl⟩ := List.mem_map.mp ((matchedSkips_sublist _).subset matched)
    exact none_ pending member
  have skips : tracker.pendingSkips.filter (fun pending => !finished pending.transportId) = tracker.pendingSkips := by
    apply List.filter_eq_self.mpr
    intro pending member
    simp [none_ pending member]
  rw [MusicObservationTracker.settled, history, skips]

/-- Where the skip with an identity stands, the rest of the queue has other identities. -/
theorem filter_middle {early late : List PendingSkip} {pending : PendingSkip}
    (distinct : ((early ++ pending :: late).map PendingSkip.transportId).Nodup) :
    (early ++ pending :: late).filter (fun other => !decide (other.transportId = pending.transportId)) = early ++ late := by
  rw [List.map_append, List.map_cons] at distinct
  obtain ⟨-, tail, apart⟩ := List.nodup_append.mp distinct
  have before : ∀ other ∈ early, (!decide (other.transportId = pending.transportId)) = true := by
    intro other member
    have := apart _ (List.mem_map_of_mem member) pending.transportId (List.mem_cons_self ..)
    simpa using this
  have behind : ∀ other ∈ late, (!decide (other.transportId = pending.transportId)) = true := by
    intro other member
    have := (List.nodup_cons.mp tail).1
    simp only [Bool.not_eq_true', decide_eq_false_iff_not]
    intro same
    exact this (same ▸ List.mem_map_of_mem member)
  simp [List.filter_append, List.filter_eq_self.mpr before, List.filter_eq_self.mpr behind]

/-- What the end of a command does: an early acceptance is noted, any other end settles. -/
inductive Finishes (tracker : MusicObservationTracker) (transportId : Nat) (accepted : Bool) :
    MusicObservationTracker → Prop where
  | notes (early pending late) (queue : tracker.pendingSkips = early ++ pending :: late) (accepts : accepted = true)
      (unmatched : pending.matchedObservation = false) :
      Finishes tracker transportId accepted
        { tracker with pendingSkips := early ++ { pending with outcome := .accepted } :: late }
  | settles : Finishes tracker transportId accepted
      (tracker.settled (fun named => decide (named = transportId)) accepted)

theorem finishSkip_finishes (correlated : Correlated tracker) (transportId : Nat) (accepted : Bool) :
    Finishes tracker transportId accepted
      (tracker.finishSkip transportId (if accepted then .accepted else .rejected)) := by
  unfold finishSkip
  cases found : tracker.pendingSkips.findIdx? fun pending => decide (pending.transportId = transportId) with
  | none =>
    have same : tracker.settled (fun named => decide (named = transportId)) accepted = tracker :=
      settled_none correlated accepted (findIdx?_none found)
    have done : Finishes tracker transportId accepted (tracker.settled _ accepted) := .settles
    rw [same] at done
    exact done
  | some index =>
    obtain ⟨early, pending, late, queue, rfl, own, -⟩ := findIdx?_split found
    obtain rfl : pending.transportId = transportId := by simpa using own
    dsimp only
    by_cases noted : (if accepted then SkipCommandOutcome.accepted else .rejected) = .accepted ∧
        tracker.pendingSkips[early.length]?.any (fun pending => !pending.matchedObservation) = true
    · rw [if_pos noted]
      rw [queue, getElem?_middle] at noted
      rw [queue, modify_middle]
      refine .notes early pending late queue ?_ (by simpa using noted.2)
      cases accepted with
      | true => rfl
      | false => cases noted.1
    · rw [if_neg noted, resolveHistorySkip_eq correlated.awaited_nodup]
      have distinct := correlated.distinct
      rw [queue] at distinct
      have done : Finishes tracker pending.transportId accepted (tracker.settled _ accepted) := .settles
      rw [MusicObservationTracker.settled, queue, filter_middle distinct] at done
      simpa only [queue, eraseIdx_middle] using done

theorem finishSkip_rejected (correlated : Correlated tracker) (transportId : Nat) :
    tracker.finishSkip transportId .rejected = tracker.settled (fun named => decide (named = transportId)) false := by
  have finishes := finishSkip_finishes correlated transportId false
  simp only [Bool.false_eq_true, if_false] at finishes
  generalize tracker.finishSkip transportId .rejected = after at finishes
  cases finishes with
  | notes early pending late queue accepts => cases accepts
  | settles => rfl

theorem settled_settled (tracker : MusicObservationTracker) (first second : Nat → Bool) :
    (tracker.settled first false).settled second false =
      tracker.settled (fun transportId => first transportId || second transportId) false := by
  simp only [MusicObservationTracker.settled, List.filterMap_filterMap, List.filter_filter]
  congr 1
  · apply List.filter_congr
    intro pending _
    cases first pending.transportId <;> cases second pending.transportId <;> rfl
  · apply List.filterMap_congr
    intro entry _
    exact PendingHistoryTransition.settle_comp first second entry

theorem rejectSkips_eq (correlated : Correlated tracker) (requestIds : List Nat) :
    tracker.rejectSkips requestIds = tracker.settled (fun named => decide (named ∈ requestIds)) false := by
  induction requestIds generalizing tracker with
  | nil =>
    refine (settled_none correlated false ?_).symm
    simp
  | cons requestId requestIds ih =>
    have next := correlated.settled (fun named => decide (named = requestId)) false
    calc tracker.rejectSkips (requestId :: requestIds)
        = (tracker.settled (fun named => decide (named = requestId)) false).rejectSkips requestIds := by
          rw [← finishSkip_rejected correlated]
          rfl
      _ = (tracker.settled (fun named => decide (named = requestId)) false).settled
            (fun named => decide (named ∈ requestIds)) false := ih next
      _ = tracker.settled (fun named => decide (named ∈ requestId :: requestIds)) false := by
          rw [settled_settled]
          congr 1
          funext named
          simp

structure KeepsHistory (before after : MusicObservationTracker) : Prop where
  history : after.pendingHistory = before.pendingHistory
  lastId : after.lastHistoryId = before.lastHistoryId
  latest : after.latest = before.latest
  skips : after.pendingSkips.map PendingSkip.transportId ⊆ before.pendingSkips.map PendingSkip.transportId

theorem KeepsHistory.refl (tracker : MusicObservationTracker) : KeepsHistory tracker tracker :=
  ⟨rfl, rfl, rfl, List.Subset.refl _⟩

theorem KeepsHistory.trans {before middle after : MusicObservationTracker} (first : KeepsHistory before middle)
    (second : KeepsHistory middle after) : KeepsHistory before after :=
  ⟨second.history.trans first.history, second.lastId.trans first.lastId, second.latest.trans first.latest,
    List.Subset.trans second.skips first.skips⟩

theorem settled_latest (tracker : MusicObservationTracker) (finished : Nat → Bool) (accepted : Bool) :
    (tracker.settled finished accepted).latest = tracker.latest := by
  funext provider
  cases provider <;> rfl

/-- A skip changed in place keeps the correlation where its identity and its match stay. -/
theorem Correlated.replace (correlated : Correlated tracker) {early late : List PendingSkip} {pending : PendingSkip}
    (changed : PendingSkip) (queue : tracker.pendingSkips = early ++ pending :: late) (own : changed.transportId = pending.transportId)
    (matched : changed.matchedObservation = pending.matchedObservation)
    (open_ : changed.outcome ≠ .rejected ∧ (changed.matchedObservation = true → changed.outcome = .pending)) :
    Correlated { tracker with pendingSkips := early ++ changed :: late } ∧
      KeepsHistory tracker { tracker with pendingSkips := early ++ changed :: late } := by
  have ids : (early ++ changed :: late).map PendingSkip.transportId = tracker.pendingSkips.map PendingSkip.transportId := by
    simp [queue, own]
  refine ⟨⟨ids ▸ correlated.distinct, ?_, ?_, correlated.ascending, correlated.below⟩, rfl, rfl, ?_, ?_⟩
  · have same : matchedSkips (early ++ changed :: late) = matchedSkips tracker.pendingSkips := by
      cases held : pending.matchedObservation <;> simp [matchedSkips, queue, own, matched, held]
    simpa only [same] using correlated.paired
  · intro other member
    rcases List.mem_append.mp member with before | member
    · exact correlated.open_ other (queue ▸ List.mem_append_left _ before)
    · rcases List.mem_cons.mp member with rfl | behind
      · exact open_
      · exact correlated.open_ other (queue ▸ List.mem_append_right _ (List.mem_cons_of_mem _ behind))
  · funext provider
    cases provider <;> rfl
  · exact ids ▸ List.Subset.refl _

private theorem Correlated.not_awaited (correlated : Correlated tracker) {early late : List PendingSkip} {pending : PendingSkip}
    (queue : tracker.pendingSkips = early ++ pending :: late) (unmatched : pending.matchedObservation = false) :
    pending.transportId ∉ awaitedSkips tracker.pendingHistory := by
  intro awaited
  have distinct := correlated.distinct
  rw [queue, List.map_append, List.map_cons] at distinct
  obtain ⟨-, tail, apart⟩ := List.nodup_append.mp distinct
  have matched := (correlated.paired.mem_iff).mp awaited
  obtain ⟨other, member, same⟩ := List.mem_map.mp matched
  obtain ⟨member, marked⟩ := List.mem_filter.mp member
  rw [queue] at member
  rcases List.mem_append.mp member with before | member
  · exact apart _ (List.mem_map_of_mem before) _ (List.mem_cons_self ..) same
  · rcases List.mem_cons.mp member with rfl | behind
    · rw [unmatched] at marked
      cases marked
    · exact (List.nodup_cons.mp tail).1 (same ▸ List.mem_map_of_mem behind)

/-- Giving up a skip that is not matched leaves the history alone. -/
theorem Correlated.give_up (correlated : Correlated tracker) {early late : List PendingSkip} {pending : PendingSkip}
    (queue : tracker.pendingSkips = early ++ pending :: late) (unmatched : pending.matchedObservation = false) :
    Correlated (tracker.finishSkip pending.transportId .rejected) ∧
      KeepsHistory tracker (tracker.finishSkip pending.transportId .rejected) := by
  rw [finishSkip_rejected correlated]
  refine ⟨correlated.settled _ _, ?_, rfl, settled_latest _ _ _, ?_⟩
  · apply settle_others
    intro named awaited
    simp only [decide_eq_false_iff_not]
    rintro rfl
    exact correlated.not_awaited queue unmatched awaited
  · exact (List.filter_sublist.map _).subset

theorem resolveUnchangedSkip_keeps (correlated : Correlated tracker) (snapshot : MusicSnapshot)
    (transition : Option MusicRideEventKind) :
    Correlated (tracker.resolveUnchangedSkip snapshot (tracker.skipIndexAt snapshot.observedAt) transition) ∧
      KeepsHistory tracker
        (tracker.resolveUnchangedSkip snapshot (tracker.skipIndexAt snapshot.observedAt) transition) := by
  unfold resolveUnchangedSkip
  cases found : tracker.skipIndexAt snapshot.observedAt with
  | none => exact ⟨correlated, .refl tracker⟩
  | some index =>
    obtain ⟨early, pending, late, queue, rfl, explains, -⟩ := findIdx?_split found
    have unmatched : pending.matchedObservation = false := by
      simp only [PendingSkip.explains, Bool.and_eq_true, Bool.not_eq_true'] at explains
      exact explains.1
    dsimp only
    split
    · exact ⟨correlated, .refl tracker⟩
    · rw [queue, getElem?_middle]
      dsimp only
      split
      · exact correlated.give_up queue unmatched
      · rw [modify_middle]
        have counted := correlated.replace { pending with
            remainingUnchangedObservations := pending.remainingUnchangedObservations - 1 } queue rfl rfl
          (correlated.open_ pending (queue ▸ List.mem_append_right _ (List.mem_cons_self ..)))
        split
        · have ended := counted.1.give_up rfl unmatched
          exact ⟨ended.1, counted.2.trans ended.2⟩
        · exact counted

structure Records (snapshot : MusicSnapshot) (timing : MusicObservationTiming) (kind : MusicRideEventKind)
    (before after : MusicObservationTracker) (entry : PendingHistoryTransition) : Prop where
  history : after.pendingHistory = before.pendingHistory ++ [entry]
  id : entry.id = before.lastHistoryId + 1
  snapshot : entry.snapshot = snapshot
  timing : entry.timing = timing
  kind : entry.kind = .confirmed kind ∨ kind = .skip ∧ ∃ transportId rejectedKind, entry.kind = .awaitingSkip transportId rejectedKind
  lastId : after.lastHistoryId = before.lastHistoryId + 1
  latest : after.latest = before.latest
  skips : after.pendingSkips.map PendingSkip.transportId ⊆ before.pendingSkips.map PendingSkip.transportId

theorem Records.keeps {snapshot : MusicSnapshot} {timing : MusicObservationTiming} {kind : MusicRideEventKind}
    {before middle after : MusicObservationTracker} {entry : PendingHistoryTransition}
    (records : Records snapshot timing kind before middle entry) (keeps : KeepsHistory middle after) :
    Records snapshot timing kind before after entry :=
  ⟨keeps.history.trans records.history, records.id, records.snapshot, records.timing, records.kind,
    keeps.lastId.trans records.lastId, keeps.latest.trans records.latest, List.Subset.trans keeps.skips records.skips⟩

/-- A confirmed entry joins the queue, whatever becomes of skips that no entry awaits. -/
theorem Correlated.push_confirmed (correlated : Correlated tracker) (snapshot : MusicSnapshot)
    (timing : MusicObservationTiming) (kind : MusicRideEventKind) :
    Correlated { tracker with
      lastHistoryId := tracker.lastHistoryId + 1
      pendingHistory := tracker.pendingHistory ++ [⟨tracker.lastHistoryId + 1, snapshot, .confirmed kind, timing⟩] } := by
  refine ⟨correlated.distinct, ?_, correlated.open_, ?_, ?_⟩
  · simpa [awaitedSkips, PendingHistoryKind.awaited] using correlated.paired
  · rw [List.map_append]
    refine List.pairwise_append.mpr ⟨correlated.ascending, List.pairwise_singleton _ _, ?_⟩
    intro earlier member later final
    obtain ⟨entry, queued, rfl⟩ := List.mem_map.mp member
    rw [List.mem_singleton.mp final]
    exact Nat.lt_succ_of_le (correlated.below entry queued)
  · intro entry member
    rcases List.mem_append.mp member with queued | final
    · exact Nat.le_succ_of_le (correlated.below entry queued)
    · rw [List.mem_singleton.mp final]

/-- An entry that awaits a skip joins the queue as that skip is matched. -/
theorem Correlated.push_awaiting (correlated : Correlated tracker) {early late : List PendingSkip} {pending : PendingSkip}
    (queue : tracker.pendingSkips = early ++ pending :: late) (unmatched : pending.matchedObservation = false)
    (waiting : pending.outcome = .pending) (snapshot : MusicSnapshot) (timing : MusicObservationTiming)
    (rejectedKind : Option MusicRideEventKind) :
    Correlated { tracker with
      pendingSkips := early ++ { pending with matchedObservation := true } :: late
      lastHistoryId := tracker.lastHistoryId + 1
      pendingHistory := tracker.pendingHistory ++
        [⟨tracker.lastHistoryId + 1, snapshot, .awaitingSkip pending.transportId rejectedKind, timing⟩] } := by
  have pushed := correlated.push_confirmed snapshot timing .skip
  refine ⟨?_, ?_, ?_, ?_, ?_⟩
  · simpa [queue] using correlated.distinct
  · have paired := correlated.paired
    rw [queue] at paired
    have before : matchedSkips (early ++ pending :: late) = matchedSkips early ++ matchedSkips late := by
      simp [matchedSkips, unmatched]
    have after : matchedSkips (early ++ { pending with matchedObservation := true } :: late) =
        matchedSkips early ++ pending.transportId :: matchedSkips late := by
      simp [matchedSkips]
    rw [before] at paired
    rw [after]
    have awaited : awaitedSkips (tracker.pendingHistory ++
        [⟨tracker.lastHistoryId + 1, snapshot, .awaitingSkip pending.transportId rejectedKind, timing⟩]) =
        awaitedSkips tracker.pendingHistory ++ [pending.transportId] := by
      simp [awaitedSkips, PendingHistoryKind.awaited]
    rw [awaited]
    calc (awaitedSkips tracker.pendingHistory ++ [pending.transportId]).Perm
          (pending.transportId :: awaitedSkips tracker.pendingHistory) := List.perm_append_singleton _ _
      _ |>.Perm (pending.transportId :: (matchedSkips early ++ matchedSkips late)) := paired.cons _
      _ |>.Perm (matchedSkips early ++ pending.transportId :: matchedSkips late) := List.perm_middle.symm
  · intro other member
    rcases List.mem_append.mp member with before | member
    · exact correlated.open_ other (queue ▸ List.mem_append_left _ before)
    · rcases List.mem_cons.mp member with rfl | behind
      · exact ⟨by simp [waiting], fun _ => waiting⟩
      · exact correlated.open_ other (queue ▸ List.mem_append_right _ (List.mem_cons_of_mem _ behind))
  · simpa using pushed.ascending
  · intro entry member
    rcases List.mem_append.mp member with queued | final
    · exact Nat.le_succ_of_le (correlated.below entry queued)
    · rw [List.mem_singleton.mp final]

theorem Correlated.drop (correlated : Correlated tracker) {early late : List PendingSkip} {pending : PendingSkip}
    (queue : tracker.pendingSkips = early ++ pending :: late) (unmatched : pending.matchedObservation = false) :
    Correlated { tracker with pendingSkips := early ++ late } := by
  refine ⟨?_, ?_, ?_, correlated.ascending, correlated.below⟩
  · have distinct := correlated.distinct
    rw [queue] at distinct
    refine distinct.sublist (List.Sublist.map _ ?_)
    exact (List.Sublist.refl early).append (List.sublist_cons_self pending late)
  · have paired := correlated.paired
    rw [queue] at paired
    simpa [matchedSkips, unmatched] using paired
  · intro other member
    apply correlated.open_ other
    rw [queue]
    rcases List.mem_append.mp member with before | behind
    · exact List.mem_append_left _ before
    · exact List.mem_append_right _ (List.mem_cons_of_mem _ behind)

private theorem enqueueObservationTransition_records (correlated : Correlated tracker) (room : tracker.lastHistoryId < u64Max)
    (snapshot : MusicSnapshot) (timing : MusicObservationTiming) (kind : MusicRideEventKind)
    (rejectedTransition : Option MusicRideEventKind)
    (explained : kind = .skip → (tracker.skipIndexAt snapshot.observedAt).isSome = true) :
    ∃ entry, Correlated (tracker.enqueueObservationTransition snapshot timing (some kind) rejectedTransition
        (tracker.skipIndexAt snapshot.observedAt)) ∧
      Records snapshot timing kind tracker (tracker.enqueueObservationTransition snapshot timing (some kind)
        rejectedTransition (tracker.skipIndexAt snapshot.observedAt)) entry := by
  have fits : tracker.lastHistoryId + 1 ≤ u64Max := room
  unfold enqueueObservationTransition matchSkip
  by_cases skip : kind = .skip
  · obtain rfl := skip
    cases found : tracker.skipIndexAt snapshot.observedAt with
    | none => simp [found] at explained
    | some index =>
      obtain ⟨early, pending, late, queue, rfl, explains, -⟩ := findIdx?_split found
      have unmatched : pending.matchedObservation = false := by
        simp only [PendingSkip.explains, Bool.and_eq_true, Bool.not_eq_true'] at explains
        exact explains.1
      have open_ := correlated.open_ pending (queue ▸ List.mem_append_right _ (List.mem_cons_self ..))
      simp only [if_true, queue, getElem?_middle, modify_middle, Option.bind_some]
      cases outcome : pending.outcome with
      | rejected => exact absurd outcome open_.1
      | accepted =>
        simp only [fits, if_true, dropAcceptedSkip, getElem?_middle, Option.any_some, decide_true, and_self,
          eraseIdx_middle]
        refine ⟨_, (correlated.push_confirmed snapshot timing .skip).drop queue unmatched, rfl, rfl, rfl, rfl,
          .inl rfl, rfl, ?_, ?_⟩
        · funext provider
          cases provider <;> rfl
        · simp only [queue]
          exact ((List.Sublist.refl early).append (List.sublist_cons_self pending late)).map _ |>.subset
      | pending =>
        simp only [fits, if_true, dropAcceptedSkip, getElem?_middle, Option.any_some, reduceCtorEq, decide_false,
          Bool.false_eq_true, and_false, if_false]
        have pushed := correlated.push_awaiting queue unmatched outcome snapshot timing rejectedTransition
        rw [outcome] at pushed
        refine ⟨_, pushed, rfl, rfl, rfl, rfl, .inr ⟨rfl, _, _, rfl⟩, rfl, ?_, ?_⟩
        · funext provider
          cases provider <;> rfl
        · simp [queue]
  · simp only [if_neg skip, fits, if_true]
    have same : ∀ pushed : MusicObservationTracker,
        pushed.dropAcceptedSkip kind (tracker.skipIndexAt snapshot.observedAt) = pushed := by
      intro pushed
      unfold dropAcceptedSkip
      cases tracker.skipIndexAt snapshot.observedAt with
      | none => rfl
      | some index => simp [skip]
    simp only [same]
    refine ⟨_, correlated.push_confirmed snapshot timing kind, rfl, rfl, rfl, rfl, .inl rfl, rfl, ?_, ?_⟩
    · funext provider
      cases provider <;> rfl
    · exact List.Subset.refl _

/-- How the tracker classifies an observation, once the skips that are too old are given up. -/
def classification (tracker : MusicObservationTracker) (snapshot : MusicSnapshot) : Option MusicRideEventKind :=
  classifyTransition (tracker.latest snapshot.provider) snapshot
    ((tracker.expireSkips snapshot.observedAt).skipIndexAt snapshot.observedAt).isSome

private theorem classifyTransition_skip {previous : Option MusicSnapshot} {current : MusicSnapshot} {skipApplies : Bool}
    (skip : classifyTransition previous current skipApplies = some .skip) : skipApplies = true := by
  by_contra applies
  simp only [Bool.not_eq_true] at applies
  subst applies
  unfold classifyTransition at skip
  split at skip
  · split at skip <;> cases skip
  · split at skip
    · cases skip
    · cases previous with
      | none =>
        obtain ⟨item, -, other⟩ := Option.map_eq_some_iff.mp skip
        cases other
      | some previous =>
        simp only [Bool.false_eq_true, false_and, if_false] at skip
        repeat' split at skip
        all_goals cases skip

private theorem enqueueObservationTransition_skips (tracker : MusicObservationTracker) (snapshot : MusicSnapshot)
    (timing : MusicObservationTiming) {transition : Option MusicRideEventKind}
    (rejectedTransition : Option MusicRideEventKind) (skipIndex : Option Nat) (other : transition ≠ some .skip) :
    (tracker.enqueueObservationTransition snapshot timing transition rejectedTransition skipIndex).pendingSkips =
      tracker.pendingSkips := by
  unfold enqueueObservationTransition
  cases transition with
  | none => rfl
  | some kind =>
    have different : kind ≠ .skip := fun same => other (same ▸ rfl)
    simp only [matchSkip, if_neg different]
    split
    · unfold dropAcceptedSkip
      cases skipIndex with
      | none => rfl
      | some index => simp [different]
    · rfl

theorem Correlated.replaceLatest (correlated : Correlated tracker) (snapshot : MusicSnapshot) :
    Correlated (tracker.replaceLatest snapshot) := by
  unfold MusicObservationTracker.replaceLatest
  cases snapshot.provider
  all_goals exact ⟨correlated.distinct, correlated.paired, correlated.open_, correlated.ascending, correlated.below⟩

section Tracker
variable (tracker : MusicObservationTracker) (snapshot : MusicSnapshot)

@[simp] theorem replaceLatest_pendingHistory :
    (tracker.replaceLatest snapshot).pendingHistory = tracker.pendingHistory := by
  unfold MusicObservationTracker.replaceLatest
  cases snapshot.provider <;> rfl

@[simp] theorem replaceLatest_pendingSkips :
    (tracker.replaceLatest snapshot).pendingSkips = tracker.pendingSkips := by
  unfold MusicObservationTracker.replaceLatest
  cases snapshot.provider <;> rfl

@[simp] theorem replaceLatest_lastHistoryId :
    (tracker.replaceLatest snapshot).lastHistoryId = tracker.lastHistoryId := by
  unfold MusicObservationTracker.replaceLatest
  cases snapshot.provider <;> rfl

private theorem latest_replaceLatest (provider : MusicProvider) : (tracker.replaceLatest snapshot).latest provider =
      if provider = snapshot.provider then some snapshot else tracker.latest provider := by
  unfold MusicObservationTracker.replaceLatest
  cases snapshot.provider <;> cases provider <;> rfl

end Tracker

inductive Observes (tracker : MusicObservationTracker) (snapshot : MusicSnapshot) (timing : MusicObservationTiming) :
    MusicObservationTracker → MusicObservationOutcome → Prop where
  | late : Observes tracker snapshot timing tracker .outOfOrder
  | full : Observes tracker snapshot timing (tracker.expireSkips snapshot.observedAt) .full
  | quiet (middle next)
      (newer : ∀ previous, tracker.latest snapshot.provider = some previous → previous.observedAt < snapshot.observedAt)
      (unclassified : tracker.classification snapshot = none)
      (keeps : KeepsHistory (tracker.expireSkips snapshot.observedAt) middle) :
      Observes tracker snapshot timing (middle.replaceLatest snapshot) (.accepted snapshot next)
  | adds (middle next kind entry)
      (newer : ∀ previous, tracker.latest snapshot.provider = some previous → previous.observedAt < snapshot.observedAt)
      (classified : tracker.classification snapshot = some kind)
      (records : Records snapshot timing kind (tracker.expireSkips snapshot.observedAt) middle entry) :
      Observes tracker snapshot timing (middle.replaceLatest snapshot) (.accepted snapshot next)

section Correlated
variable (correlated : Correlated tracker)
include correlated

theorem expireSkips_eq (observedAt : Nat) :
    tracker.expireSkips observedAt = tracker.settled (fun named => decide (named ∈
      (tracker.pendingSkips.filter fun pending => pending.isExpiredAt observedAt).map PendingSkip.transportId)) false :=
  rejectSkips_eq correlated _

theorem Correlated.expireSkips (observedAt : Nat) : Correlated (tracker.expireSkips observedAt) := by
  rw [expireSkips_eq correlated]
  exact correlated.settled _ _

theorem expireSkips_lastHistoryId (observedAt : Nat) :
    (tracker.expireSkips observedAt).lastHistoryId = tracker.lastHistoryId := by
  rw [expireSkips_eq correlated]
  rfl

theorem observe_observes (room : tracker.lastHistoryId < u64Max) (snapshot : MusicSnapshot)
    (timing : MusicObservationTiming) :
    Observes tracker snapshot timing (tracker.observe snapshot timing).1 (tracker.observe snapshot timing).2 ∧
      Correlated (tracker.observe snapshot timing).1 := by
  unfold observe
  by_cases late : (tracker.latest snapshot.provider).any
      (fun previous => decide (snapshot.observedAt ≤ previous.observedAt)) = true
  · simp only [if_pos late]
    exact ⟨.late, correlated⟩
  · have newer : ∀ previous, tracker.latest snapshot.provider = some previous →
        previous.observedAt < snapshot.observedAt := by
      intro previous known
      simpa [known] using late
    simp only [if_neg late]
    have expired := correlated.expireSkips snapshot.observedAt
    have fits : (tracker.expireSkips snapshot.observedAt).lastHistoryId < u64Max := by
      rw [expireSkips_lastHistoryId correlated]
      exact room
    split
    · exact ⟨.full, expired⟩
    · generalize classified : classifyTransition (tracker.latest snapshot.provider) snapshot
        ((tracker.expireSkips snapshot.observedAt).skipIndexAt snapshot.observedAt).isSome = transition
      generalize (if ((tracker.expireSkips snapshot.observedAt).skipIndexAt snapshot.observedAt).isSome = true then
        classifyTransition (tracker.latest snapshot.provider) snapshot false else none) = rejectedTransition
      cases transition with
      | none =>
        have kept := resolveUnchangedSkip_keeps expired snapshot none
        exact ⟨.quiet _ _ newer classified kept.2, kept.1.replaceLatest snapshot⟩
      | some kind =>
        obtain ⟨entry, pushed, records⟩ := enqueueObservationTransition_records expired fits snapshot timing kind
          rejectedTransition (by rintro rfl; exact classifyTransition_skip classified)
        by_cases skip : kind = .skip
        · subst skip
          have same : ∀ enqueued : MusicObservationTracker, enqueued.resolveUnchangedSkip snapshot
              ((tracker.expireSkips snapshot.observedAt).skipIndexAt snapshot.observedAt) (some .skip) = enqueued := by
            intro enqueued
            unfold resolveUnchangedSkip
            split <;> simp
          simp only [same]
          exact ⟨.adds _ _ .skip entry newer classified records, pushed.replaceLatest snapshot⟩
        · have index : ((tracker.expireSkips snapshot.observedAt).enqueueObservationTransition snapshot timing (some kind)
              rejectedTransition ((tracker.expireSkips snapshot.observedAt).skipIndexAt snapshot.observedAt)).skipIndexAt
              snapshot.observedAt = (tracker.expireSkips snapshot.observedAt).skipIndexAt snapshot.observedAt := by
            rw [skipIndexAt, enqueueObservationTransition_skips _ _ _ _ _ (by simpa using skip)]
            rfl
          have kept := resolveUnchangedSkip_keeps pushed snapshot (some kind)
          rw [index] at kept
          exact ⟨.adds _ _ kind entry newer classified (records.keeps kept.2), kept.1.replaceLatest snapshot⟩

inductive Moves (tracker : MusicObservationTracker) : TrackerCall → TrackerReply → MusicObservationTracker → Prop where
  | observes {snapshot timing outcome after} (observes : Observes tracker snapshot timing after outcome) :
      Moves tracker (.observe snapshot timing) (.observed outcome) after
  | issues (transportId issuedAt) :
      Moves tracker (.issueSkip transportId issuedAt) .done (tracker.issueSkip transportId issuedAt)
  | finishes {transportId accepted after} (finishes : Finishes tracker transportId accepted after) :
      Moves tracker (.finishSkip transportId accepted) .done after
  | acknowledges (entry later kind) (queue : tracker.pendingHistory = entry :: later) (confirmed : entry.kind = .confirmed kind) :
      Moves tracker (.acknowledge entry.id) (.acknowledgement .acknowledged) { tracker with pendingHistory := later }
  | refuses (id) : Moves tracker (.acknowledge id) (.acknowledgement .stale) tracker
  | clears (finished) (all : ∀ pending ∈ tracker.pendingSkips, finished pending.transportId = true) :
      Moves tracker .clearPendingSkips .done (tracker.settled finished false)
  | forgets : Moves tracker .resetObservations .done tracker.resetObservations
  | resets {call reply} (ends : call = .reset ∨ call = .retireHistoryAssociation)
      (silent : ∀ outcome, reply ≠ .observed outcome) (unacknowledged : reply ≠ .acknowledgement .acknowledged) :
      Moves tracker call reply { lastHistoryId := tracker.lastHistoryId }

theorem clearPendingSkips_eq : tracker.clearPendingSkips =
      tracker.settled (fun named => decide (named ∈ tracker.pendingSkips.map PendingSkip.transportId)) false :=
  rejectSkips_eq correlated _

end Correlated

theorem resolveHistorySkip_rest (tracker : MusicObservationTracker) (transportId : Nat) (outcome : SkipCommandOutcome) :
    ∃ history, tracker.resolveHistorySkip transportId outcome = { tracker with pendingHistory := history } := by
  unfold resolveHistorySkip
  repeat' split
  all_goals exact ⟨_, rfl⟩

/-- Rejecting every skip in turn empties the queue, whatever waits in the history. -/
theorem rejectSkips_all (tracker : MusicObservationTracker) (queue : tracker.pendingSkips = skips) :
    ∃ history, tracker.rejectSkips (skips.map PendingSkip.transportId) =
      { tracker with pendingHistory := history, pendingSkips := [] } := by
  induction skips generalizing tracker with
  | nil =>
    refine ⟨tracker.pendingHistory, ?_⟩
    simp only [List.map_nil, rejectSkips, List.foldl_nil]
    rw [← queue]
  | cons pending late ih =>
    obtain ⟨history, resolved⟩ := resolveHistorySkip_rest tracker pending.transportId .rejected
    have first : tracker.finishSkip pending.transportId .rejected =
        { tracker with pendingHistory := history, pendingSkips := late } := by
      simp [finishSkip, queue, List.findIdx?_cons, resolved]
    obtain ⟨rest, rejected⟩ := ih { tracker with pendingHistory := history, pendingSkips := late } rfl
    refine ⟨rest, ?_⟩
    rw [← rejected, ← first]
    rfl

theorem reset_eq (tracker : MusicObservationTracker) : tracker.reset = { lastHistoryId := tracker.lastHistoryId } := by
  obtain ⟨history, cleared⟩ := rejectSkips_all _ tracker.resetObservations rfl
  rw [reset, clearPendingSkips, cleared]
  rfl

theorem step_moves (correlated : Correlated tracker) (room : tracker.lastHistoryId < u64Max) (call : TrackerCall) :
    Moves tracker call (tracker.step call).2 (tracker.step call).1 := by
  cases call with
  | observe snapshot timing => exact .observes (observe_observes correlated room snapshot timing).1
  | issueSkip transportId issuedAt => exact .issues transportId issuedAt
  | finishSkip transportId accepted => exact .finishes (finishSkip_finishes correlated transportId accepted)
  | acknowledge id =>
    simp only [step, acknowledgeHistoryTransition]
    split
    · next current snapshot kind timing later queue =>
      by_cases own : current = id
      · subst own
        simp only [if_true]
        exact .acknowledges _ later kind queue rfl
      · simp only [if_neg own]
        exact .refuses id
    · exact .refuses id
    · exact .refuses id
  | clearPendingSkips =>
    simp only [step, clearPendingSkips_eq correlated]
    refine .clears _ ?_
    intro pending member
    simpa using ⟨pending, member, rfl⟩
  | resetObservations => exact .forgets
  | reset =>
    simp only [step, reset_eq]
    exact .resets (.inl rfl) (by simp) (by simp)
  | retireHistoryAssociation =>
    simp only [step, retireHistoryAssociation, reset_eq]
    exact .resets (.inr rfl) (by simp) (by simp)

theorem Correlated.step (correlated : Correlated tracker) (room : tracker.lastHistoryId < u64Max) (call : TrackerCall)
    (fresh : ∀ transportId issuedAt, call = .issueSkip transportId issuedAt →
      transportId ∉ tracker.pendingSkips.map PendingSkip.transportId) : Correlated (tracker.step call).1 := by
  have moves := step_moves correlated room call
  cases call with
  | observe snapshot timing => exact (observe_observes correlated room snapshot timing).2
  | issueSkip transportId issuedAt =>
    refine ⟨?_, ?_, ?_, correlated.ascending, correlated.below⟩
    · simp only [MusicObservationTracker.step, issueSkip, List.map_append]
      refine List.nodup_append.mpr ⟨correlated.distinct, List.nodup_singleton _, ?_⟩
      intro other member new final same
      obtain rfl : new = transportId := List.mem_singleton.mp final
      exact fresh new issuedAt rfl (same ▸ member)
    · simpa [MusicObservationTracker.step, issueSkip, matchedSkips] using correlated.paired
    · intro pending member
      rcases List.mem_append.mp member with queued | final
      · exact correlated.open_ pending queued
      · rw [List.mem_singleton.mp final]
        exact ⟨nofun, nofun⟩
  | finishSkip transportId accepted =>
    have finishes := finishSkip_finishes correlated transportId accepted
    simp only [MusicObservationTracker.step]
    generalize tracker.finishSkip transportId (if accepted then .accepted else .rejected) = after at finishes
    cases finishes with
    | notes early pending late queue accepts unmatched =>
      exact (correlated.replace { pending with outcome := .accepted } queue rfl rfl
        ⟨nofun, fun matched => absurd (unmatched.symm.trans matched) nofun⟩).1
    | settles => exact correlated.settled _ _
  | acknowledge id =>
    generalize (tracker.step (.acknowledge id)).2 = reply, (tracker.step (.acknowledge id)).1 = after at moves
    cases moves with
    | acknowledges entry later kind queue confirmed =>
      refine ⟨correlated.distinct, ?_, correlated.open_, ?_, ?_⟩
      · have paired := correlated.paired
        simpa [queue, awaitedSkips, confirmed, PendingHistoryKind.awaited] using paired
      · have ascending := correlated.ascending
        rw [queue, List.map_cons] at ascending
        exact (List.pairwise_cons.mp ascending).2
      · intro other member
        exact correlated.below other (queue ▸ List.mem_cons_of_mem _ member)
    | refuses => exact correlated
    | resets ends => rcases ends with other | other <;> cases other
  | clearPendingSkips =>
    simp only [MusicObservationTracker.step, clearPendingSkips_eq correlated]
    exact correlated.settled _ _
  | resetObservations =>
    exact ⟨correlated.distinct, correlated.paired, correlated.open_, correlated.ascending, correlated.below⟩
  | reset =>
    simp only [MusicObservationTracker.step, reset_eq]
    exact ⟨List.nodup_nil, List.Perm.refl _, by simp, List.Pairwise.nil, by simp⟩
  | retireHistoryAssociation =>
    simp only [MusicObservationTracker.step, retireHistoryAssociation, reset_eq]
    exact ⟨List.nodup_nil, List.Perm.refl _, by simp, List.Pairwise.nil, by simp⟩

end MusicObservationTracker

namespace TrackerStep

def added (here : TrackerStep) : List PendingHistoryTransition :=
  here.after.pendingHistory.filter fun entry =>
    decide (entry.id ∉ here.before.pendingHistory.map PendingHistoryTransition.id)

def removed (here : TrackerStep) : List PendingHistoryTransition :=
  here.before.pendingHistory.filter fun entry =>
    decide (entry.id ∉ here.after.pendingHistory.map PendingHistoryTransition.id)

def Rejects (here : TrackerStep) (transportId : Nat) : Prop :=
  transportId ∈ here.before.pendingSkips.map PendingSkip.transportId ∧
    transportId ∉ here.after.pendingSkips.map PendingSkip.transportId ∧ here.input ≠ .finishSkip transportId true

structure Accounts (here : TrackerStep) : Prop where
  classified : ∀ snapshot timing next kind, here.input = .observe snapshot timing →
    here.output = .observed (.accepted snapshot next) → here.before.classification snapshot = some kind →
    ∃ entry, here.added = [entry] ∧ here.after.pendingHistory.getLast? = some entry ∧ entry.snapshot = snapshot ∧
      entry.timing = timing ∧ (entry.kind = .confirmed kind ∨
        kind = .skip ∧ ∃ transportId rejectedKind, entry.kind = .awaitingSkip transportId rejectedKind)
  unclassified : ∀ snapshot timing, here.input = .observe snapshot timing →
    here.before.classification snapshot = none → here.added = []
  refused : here.output = .observed .outOfOrder ∨ here.output = .observed .full →
    here.after.latest = here.before.latest ∧ here.added = []
  unobserved : (∀ snapshot timing, here.input ≠ .observe snapshot timing) → here.added = []
  removed : ∀ entry ∈ here.removed, here.output = .acknowledgement .acknowledged ∧ here.input = .acknowledge entry.id ∨
    here.input = .reset ∨ here.input = .retireHistoryAssociation ∨
    ∃ transportId, entry.kind = .awaitingSkip transportId none ∧ here.Rejects transportId
  acknowledged : here.output = .acknowledgement .acknowledged → ∃ entry kind,
    here.input = .acknowledge entry.id ∧ entry.kind = .confirmed kind ∧
      here.before.pendingHistory = entry :: here.after.pendingHistory

variable (here : TrackerStep)

theorem added_nil (subset : here.after.pendingHistory.map PendingHistoryTransition.id ⊆
    here.before.pendingHistory.map PendingHistoryTransition.id) : here.added = [] := by
  apply List.filter_eq_nil_iff.mpr
  intro entry member
  have old := subset (List.mem_map_of_mem member)
  simpa using old

theorem removed_nil (subset : here.before.pendingHistory.map PendingHistoryTransition.id ⊆
    here.after.pendingHistory.map PendingHistoryTransition.id) : here.removed = [] := by
  apply List.filter_eq_nil_iff.mpr
  intro entry member
  have kept := subset (List.mem_map_of_mem member)
  simpa using kept

/-- A call that queues nothing accounts for itself by what it removed. -/
theorem accounts_of_added_nil {here : TrackerStep} (added : here.added = [])
    (unclassified : ∀ snapshot timing next kind, here.input = .observe snapshot timing →
      here.output = .observed (.accepted snapshot next) → here.before.classification snapshot ≠ some kind)
    (refused : here.output = .observed .outOfOrder ∨ here.output = .observed .full →
      here.after.latest = here.before.latest)
    (removed : ∀ entry ∈ here.removed, here.input = .reset ∨ here.input = .retireHistoryAssociation ∨
      ∃ transportId, entry.kind = .awaitingSkip transportId none ∧ here.Rejects transportId)
    (unacknowledged : here.output ≠ .acknowledgement .acknowledged) : here.Accounts where
  classified := fun snapshot timing next kind call reply classified =>
    absurd classified (unclassified snapshot timing next kind call reply)
  unclassified := fun _ _ _ _ => added
  refused := fun output => ⟨refused output, added⟩
  unobserved := fun _ => added
  removed := fun entry member => .inr (removed entry member)
  acknowledged := fun output => absurd output unacknowledged

end TrackerStep

namespace MusicObservationTracker
variable {tracker : MusicObservationTracker} {call : TrackerCall} {reply : TrackerReply} {after : MusicObservationTracker}

theorem settled_added (finished : Nat → Bool) (accepted : Bool) (tracker : MusicObservationTracker) :
    (tracker.settled finished accepted).pendingHistory.map PendingHistoryTransition.id ⊆
      tracker.pendingHistory.map PendingHistoryTransition.id := settle_ids_sublist.subset

/-- An entry that settling removed waited for a rejected skip and had no other classification. -/
theorem Correlated.settled_removed (correlated : Correlated tracker) {finished : Nat → Bool} {accepted : Bool}
    {entry : PendingHistoryTransition} (member : entry ∈ tracker.pendingHistory)
    (gone : entry.id ∉ (tracker.settled finished accepted).pendingHistory.map PendingHistoryTransition.id) :
    accepted = false ∧ ∃ transportId, entry.kind = .awaitingSkip transportId none ∧ finished transportId = true ∧
      transportId ∈ tracker.pendingSkips.map PendingSkip.transportId ∧
      transportId ∉ (tracker.settled finished accepted).pendingSkips.map PendingSkip.transportId := by
  cases result : entry.settle finished accepted with
  | some kept =>
    refine absurd ?_ gone
    refine List.mem_map.mpr ⟨kept, List.mem_filterMap.mpr ⟨entry, member, result⟩, ?_⟩
    exact (PendingHistoryTransition.settle_some result).1
  | none =>
    obtain ⟨rejected, transportId, kind, named⟩ := PendingHistoryTransition.settle_none result
    refine ⟨rejected, transportId, kind, named, ?_, ?_⟩
    · have awaited : transportId ∈ awaitedSkips tracker.pendingHistory :=
        List.mem_filterMap.mpr ⟨entry, member, by rw [kind]; rfl⟩
      exact (matchedSkips_sublist _).subset (correlated.paired.mem_iff.mp awaited)
    · intro present
      obtain ⟨pending, left, rfl⟩ := List.mem_map.mp present
      have kept := (List.mem_filter.mp left).2
      simp [named] at kept

/-- What a removal owes is the same for a full queue and for an accepted observation. -/
theorem Correlated.removed_rejects (correlated : Correlated tracker) {finished : Nat → Bool} {accepted : Bool}
    (unaccepted : ∀ transportId, accepted = false → finished transportId = true → call ≠ .finishSkip transportId true)
    (grows : (tracker.settled finished accepted).pendingHistory.map PendingHistoryTransition.id ⊆
      after.pendingHistory.map PendingHistoryTransition.id)
    (skips : after.pendingSkips.map PendingSkip.transportId ⊆
      (tracker.settled finished accepted).pendingSkips.map PendingSkip.transportId)
    (entry) (member : entry ∈ TrackerStep.removed ⟨tracker, call, reply, after⟩) :
    ∃ transportId, entry.kind = .awaitingSkip transportId none ∧
      TrackerStep.Rejects ⟨tracker, call, reply, after⟩ transportId := by
  obtain ⟨queued, gone⟩ := List.mem_filter.mp member
  have absent := fun present => (of_decide_eq_true gone) (grows present)
  obtain ⟨rejected, transportId, kind, named, before, now⟩ := correlated.settled_removed queued absent
  exact ⟨transportId, kind, before, fun present => now (skips present), unaccepted transportId rejected named⟩

/-- A new entry is the only one that the call queued. -/
theorem Correlated.added_one (correlated : Correlated tracker) {finished : Nat → Bool} {accepted : Bool}
    {entry : PendingHistoryTransition} (fresh : entry.id = tracker.lastHistoryId + 1)
    (history : after.pendingHistory = (tracker.settled finished accepted).pendingHistory ++ [entry]) :
    TrackerStep.added ⟨tracker, call, reply, after⟩ = [entry] := by
  have absent : entry.id ∉ tracker.pendingHistory.map PendingHistoryTransition.id := by
    intro old
    obtain ⟨earlier, queued, same⟩ := List.mem_map.mp old
    have below := correlated.below earlier queued
    omega
  have earlier : (tracker.settled finished accepted).pendingHistory.filter (fun entry =>
      decide (entry.id ∉ tracker.pendingHistory.map PendingHistoryTransition.id)) = [] :=
    TrackerStep.added_nil ⟨tracker, .reset, .done, tracker.settled finished accepted⟩ (settled_added finished accepted tracker)
  rw [TrackerStep.added, history, List.filter_append, earlier, List.nil_append]
  exact List.filter_eq_self.mpr (by simpa using absent)

theorem Observes.accounts {snapshot : MusicSnapshot} {timing : MusicObservationTiming} {outcome : MusicObservationOutcome}
    (observes : Observes tracker snapshot timing after outcome) (correlated : Correlated tracker) :
    TrackerStep.Accounts ⟨tracker, .observe snapshot timing, .observed outcome, after⟩ := by
  have expired := expireSkips_eq correlated snapshot.observedAt
  generalize (fun named => decide (named ∈ (tracker.pendingSkips.filter fun pending =>
    pending.isExpiredAt snapshot.observedAt).map PendingSkip.transportId)) = finished at expired
  have shrinks := settled_added finished false tracker
  cases observes with
  | late =>
    have kept : TrackerStep.removed ⟨tracker, .observe snapshot timing, .observed .outOfOrder, tracker⟩ = [] :=
      TrackerStep.removed_nil _ (List.Subset.refl _)
    refine TrackerStep.accounts_of_added_nil (TrackerStep.added_nil _ (List.Subset.refl _)) ?_ (fun _ => rfl) ?_ (by simp)
    · rintro _ _ _ _ _ ⟨⟩
    · intro entry member
      rw [kept] at member
      cases member
  | full =>
    rw [expired]
    refine TrackerStep.accounts_of_added_nil (TrackerStep.added_nil _ shrinks) ?_ (fun _ => settled_latest _ _ _) ?_ (by simp)
    · rintro _ _ _ _ _ ⟨⟩
    · intro entry member
      exact .inr (.inr (correlated.removed_rejects (by simp) (List.Subset.refl _) (List.Subset.refl _) entry member))
  | quiet middle next newer unclassified keeps =>
    rw [expired] at keeps
    have history : (middle.replaceLatest snapshot).pendingHistory = (tracker.settled finished false).pendingHistory := by
      rw [replaceLatest_pendingHistory, keeps.history]
    refine TrackerStep.accounts_of_added_nil (TrackerStep.added_nil _ (by rw [history]; exact shrinks)) ?_ ?_ ?_ (by simp)
    · rintro _ _ _ kind ⟨⟩ _ classified
      rw [show tracker.classification snapshot = none from unclassified] at classified
      cases classified
    · rintro (other | other) <;> cases other
    · intro entry member
      refine .inr (.inr (@Correlated.removed_rejects _ _ _ _ correlated finished false (by simp) ?_ ?_ entry member))
      · rw [history]
        exact List.Subset.refl _
      · rw [replaceLatest_pendingSkips]
        exact keeps.skips
  | adds middle next kind entry newer classified records =>
    rw [expired] at records
    have history : (middle.replaceLatest snapshot).pendingHistory =
        (tracker.settled finished false).pendingHistory ++ [entry] := by
      rw [replaceLatest_pendingHistory, records.history]
    have one : TrackerStep.added ⟨tracker, .observe snapshot timing, .observed (.accepted snapshot next),
        middle.replaceLatest snapshot⟩ = [entry] := correlated.added_one records.id history
    refine ⟨?_, ?_, ?_, ?_, ?_, by rintro ⟨⟩⟩
    · rintro _ _ _ found ⟨⟩ _ same
      rw [show tracker.classification snapshot = some kind from classified] at same
      cases same
      refine ⟨entry, one, ?_, records.snapshot, records.timing, records.kind⟩
      dsimp only
      rw [history, List.getLast?_concat]
    · rintro _ _ ⟨⟩ unclassified
      rw [show tracker.classification snapshot = some kind from classified] at unclassified
      cases unclassified
    · rintro (other | other) <;> cases other
    · intro other
      exact absurd rfl (other snapshot timing)
    · intro gone member
      refine .inr (.inr (.inr (@Correlated.removed_rejects _ _ _ _ correlated finished false (by simp) ?_ ?_ gone member)))
      · rw [history, List.map_append]
        exact List.subset_append_left _ _
      · rw [replaceLatest_pendingSkips]
        exact records.skips

/-- A call that keeps the identities in the queue accounts for them. -/
theorem accounts_of_same (unacknowledged : reply ≠ .acknowledgement .acknowledged)
    (silent : ∀ outcome, reply ≠ .observed outcome) (same : after.pendingHistory = tracker.pendingHistory) :
    TrackerStep.Accounts ⟨tracker, call, reply, after⟩ := by
  have ids : after.pendingHistory.map PendingHistoryTransition.id = tracker.pendingHistory.map PendingHistoryTransition.id := by
    rw [same]
  refine TrackerStep.accounts_of_added_nil (TrackerStep.added_nil _ (by rw [ids]; exact List.Subset.refl _)) ?_ ?_ ?_
    unacknowledged
  · intro _ _ _ _ _ observed
    exact absurd observed (silent _)
  · rintro (observed | observed)
    · exact absurd observed (silent _)
    · exact absurd observed (silent _)
  · intro entry member
    rw [TrackerStep.removed_nil _ (by rw [ids]; exact List.Subset.refl _)] at member
    cases member

theorem Correlated.settled_accounts (correlated : Correlated tracker) {finished : Nat → Bool} {accepted : Bool}
    (unaccepted : ∀ transportId, accepted = false → finished transportId = true →
      call ≠ .finishSkip transportId true) :
    TrackerStep.Accounts ⟨tracker, call, .done, tracker.settled finished accepted⟩ := by
  refine TrackerStep.accounts_of_added_nil (TrackerStep.added_nil _ (settled_added finished accepted tracker)) ?_ ?_ ?_
    (by simp)
  · rintro _ _ _ _ _ ⟨⟩
  · rintro (other | other) <;> cases other
  · intro entry member
    exact .inr (.inr (correlated.removed_rejects unaccepted (List.Subset.refl _) (List.Subset.refl _) entry member))

theorem Moves.accounts (moves : Moves tracker call reply after) (correlated : Correlated tracker) :
    TrackerStep.Accounts ⟨tracker, call, reply, after⟩ := by
  cases moves with
  | observes observes => exact observes.accounts correlated
  | issues | refuses | forgets => exact accounts_of_same (by simp) (by simp) rfl
  | finishes finishes =>
    cases finishes with
    | notes => exact accounts_of_same (by simp) (by simp) rfl
    | settles =>
      refine correlated.settled_accounts ?_
      rintro transportId rfl named
      simp
  | acknowledges entry later kind queue confirmed =>
    have ascending := correlated.ascending
    rw [queue, List.map_cons, List.pairwise_cons] at ascending
    have added : TrackerStep.added ⟨tracker, .acknowledge entry.id, .acknowledgement .acknowledged,
        { tracker with pendingHistory := later }⟩ = [] := by
      apply TrackerStep.added_nil
      simp only [queue, List.map_cons]
      exact List.subset_cons_self _ _
    refine ⟨?_, fun _ _ _ _ => added, ?_, fun _ => added, ?_, ?_⟩
    · rintro _ _ _ _ _ ⟨⟩
    · rintro (other | other) <;> cases other
    · intro gone member
      obtain ⟨queued, absent⟩ := List.mem_filter.mp member
      simp only [queue] at queued
      rcases List.mem_cons.mp queued with rfl | kept
      · exact .inl ⟨rfl, rfl⟩
      · exact absurd (List.mem_map_of_mem kept) (of_decide_eq_true absent)
    · intro _
      exact ⟨entry, kind, rfl, confirmed, queue⟩
  | clears finished all =>
    refine correlated.settled_accounts ?_
    intro _ _ _
    simp
  | resets ends silent unacknowledged =>
    refine TrackerStep.accounts_of_added_nil rfl ?_ ?_ ?_ unacknowledged
    · intro _ _ _ _ _ observed
      exact absurd observed (silent _)
    · rintro (observed | observed)
      · exact absurd observed (silent _)
      · exact absurd observed (silent _)
    · intro entry _
      exact ends.imp_right .inl

theorem Moves.numbers (moves : Moves tracker call reply after) (correlated : Correlated tracker) :
    (TrackerStep.added ⟨tracker, call, reply, after⟩ = [] ∧ after.lastHistoryId = tracker.lastHistoryId) ∨
      ∃ entry, TrackerStep.added ⟨tracker, call, reply, after⟩ = [entry] ∧ entry.id = tracker.lastHistoryId + 1 ∧
        after.lastHistoryId = tracker.lastHistoryId + 1 := by
  have accounts := moves.accounts correlated
  cases moves with
  | @observes snapshot timing outcome after observes =>
    have expired := expireSkips_lastHistoryId correlated snapshot.observedAt
    cases observes with
    | late => exact .inl ⟨(accounts.refused (.inl rfl)).2, rfl⟩
    | full => exact .inl ⟨(accounts.refused (.inr rfl)).2, expired⟩
    | quiet middle next newer unclassified keeps =>
      refine .inl ⟨accounts.unclassified snapshot timing rfl unclassified, ?_⟩
      rw [replaceLatest_lastHistoryId, keeps.lastId, expired]
    | adds middle next kind entry newer classified records =>
      obtain ⟨found, one, final, -⟩ := accounts.classified snapshot timing next kind rfl rfl classified
      refine .inr ⟨found, one, ?_, ?_⟩
      · dsimp only at final
        rw [replaceLatest_pendingHistory, records.history, List.getLast?_concat, Option.some.injEq] at final
        rw [← final, records.id, expired]
      · rw [replaceLatest_lastHistoryId, records.lastId, expired]
  | issues => exact .inl ⟨accounts.unobserved (by simp), rfl⟩
  | finishes finishes =>
    refine .inl ⟨accounts.unobserved (by simp), ?_⟩
    cases finishes <;> rfl
  | acknowledges | refuses | clears | forgets => exact .inl ⟨accounts.unobserved (by simp), rfl⟩
  | resets ends =>
    refine .inl ⟨accounts.unobserved ?_, rfl⟩
    rcases ends with rfl | rfl <;> simp

end MusicObservationTracker

namespace TrackerCall

def issuedSkip : TrackerCall → Option Nat
  | issueSkip transportId _ => some transportId
  | _ => none

def clearsBaselines : TrackerCall → Bool
  | resetObservations | reset | retireHistoryAssociation => true
  | _ => false

end TrackerCall

namespace TrackerStep

def acceptedTime (provider : MusicProvider) (here : TrackerStep) : Option Nat :=
  match here.input, here.output with
  | .observe snapshot _, .observed (.accepted _ _) =>
    if snapshot.provider = provider then some snapshot.observedAt else none
  | _, _ => none

def acknowledgedId (here : TrackerStep) : Option Nat :=
  match here.input, here.output with
  | .acknowledge id, .acknowledgement .acknowledged => some id
  | _, _ => none

end TrackerStep

def issuedIds (past : List TrackerStep) : List Nat := past.flatMap fun here => here.added.map PendingHistoryTransition.id

def acknowledgedIds (past : List TrackerStep) : List Nat := past.filterMap TrackerStep.acknowledgedId

/-- The times of the accepted observations of a provider since its baseline was last cleared. -/
def acceptedTimes (provider : MusicProvider) (past : List TrackerStep) : List Nat :=
  past.foldl (fun times here =>
    if here.input.clearsBaselines then [] else times ++ (here.acceptedTime provider).toList) []

namespace MusicObservationTracker
variable {tracker : MusicObservationTracker} {call : TrackerCall} {reply : TrackerReply} {after : MusicObservationTracker}
  {past : List TrackerStep}

theorem Finishes.latest {transportId : Nat} {accepted : Bool} (finishes : Finishes tracker transportId accepted after) :
    after.latest = tracker.latest := by
  funext provider
  cases finishes <;> cases provider <;> rfl

/-- The baseline of a provider is its last accepted observation, until it is cleared. -/
theorem Moves.baseline (moves : Moves tracker call reply after) (correlated : Correlated tracker) (provider : MusicProvider)
    (kept : call.clearsBaselines = false) :
    (TrackerStep.acceptedTime provider ⟨tracker, call, reply, after⟩ = none ∧
        after.latest provider = tracker.latest provider) ∨
      ∃ snapshot, TrackerStep.acceptedTime provider ⟨tracker, call, reply, after⟩ = some snapshot.observedAt ∧
        after.latest provider = some snapshot ∧
        ∀ previous, tracker.latest provider = some previous → previous.observedAt < snapshot.observedAt := by
  cases moves with
  | @observes snapshot timing outcome after observes =>
    have expired : (tracker.expireSkips snapshot.observedAt).latest = tracker.latest := by
      rw [expireSkips_eq correlated]
      exact settled_latest _ _ _
    have accepts : ∀ (middle : MusicObservationTracker) (next : Option MusicHistoryTransition), middle.latest = tracker.latest →
        (∀ previous, tracker.latest snapshot.provider = some previous → previous.observedAt < snapshot.observedAt) →
        (TrackerStep.acceptedTime provider ⟨tracker, .observe snapshot timing, .observed (.accepted snapshot next),
          middle.replaceLatest snapshot⟩ = none ∧ (middle.replaceLatest snapshot).latest provider = tracker.latest provider) ∨
        ∃ current : MusicSnapshot, TrackerStep.acceptedTime provider ⟨tracker, .observe snapshot timing,
          .observed (.accepted snapshot next), middle.replaceLatest snapshot⟩ = some current.observedAt ∧
          (middle.replaceLatest snapshot).latest provider = some current ∧
          ∀ previous, tracker.latest provider = some previous → previous.observedAt < current.observedAt := by
      intro middle next same newer
      rw [latest_replaceLatest]
      by_cases own : provider = snapshot.provider
      · refine .inr ⟨snapshot, ?_, if_pos own, own ▸ newer⟩
        simp [TrackerStep.acceptedTime, own]
      · refine .inl ⟨?_, ?_⟩
        · simp [TrackerStep.acceptedTime, Ne.symm own]
        · rw [if_neg own, same]
    cases observes with
    | late => exact .inl ⟨rfl, rfl⟩
    | full => exact .inl ⟨rfl, congrFun expired provider⟩
    | quiet middle next newer unclassified keeps => exact accepts middle next (keeps.latest.trans expired) newer
    | adds middle next kind entry newer classified records => exact accepts middle next (records.latest.trans expired) newer
  | issues | acknowledges => exact .inl ⟨rfl, by cases provider <;> rfl⟩
  | finishes finishes => exact .inl ⟨rfl, congrFun finishes.latest provider⟩
  | refuses => exact .inl ⟨rfl, rfl⟩
  | clears => exact .inl ⟨rfl, congrFun (settled_latest _ _ _) provider⟩
  | forgets => cases kept
  | resets ends => rcases ends with rfl | rfl <;> cases kept

theorem Moves.requested (moves : Moves tracker call reply after) (correlated : Correlated tracker) :
    after.pendingSkips.map PendingSkip.transportId ⊆
      tracker.pendingSkips.map PendingSkip.transportId ++ call.issuedSkip.toList := by
  have settled : ∀ finished accepted, (tracker.settled finished accepted).pendingSkips.map PendingSkip.transportId ⊆
      tracker.pendingSkips.map PendingSkip.transportId :=
    fun finished accepted => (List.filter_sublist.map _).subset
  cases moves with
  | @observes snapshot timing outcome after observes =>
    have expired : (tracker.expireSkips snapshot.observedAt).pendingSkips.map PendingSkip.transportId ⊆
        tracker.pendingSkips.map PendingSkip.transportId := by
      rw [expireSkips_eq correlated]
      exact settled _ _
    simp only [TrackerCall.issuedSkip, Option.toList_none, List.append_nil]
    cases observes with
    | late => exact List.Subset.refl _
    | full => exact expired
    | quiet middle next newer unclassified keeps =>
      rw [replaceLatest_pendingSkips]
      exact List.Subset.trans keeps.skips expired
    | adds middle next kind entry newer classified records =>
      rw [replaceLatest_pendingSkips]
      exact List.Subset.trans records.skips expired
  | issues => simp [issueSkip, TrackerCall.issuedSkip]
  | finishes finishes =>
    simp only [TrackerCall.issuedSkip, Option.toList_none, List.append_nil]
    cases finishes with
    | notes early pending late queue => simp [queue]
    | settles => exact settled _ _
  | acknowledges | refuses => simp
  | clears finished =>
    simp only [TrackerCall.issuedSkip, Option.toList_none, List.append_nil]
    exact settled _ _
  | forgets => simp [resetObservations]
  | resets => simp

/-- What a history of calls and the tracker it ended in say of each other. -/
structure Kept (past : List TrackerStep) (tracker : MusicObservationTracker) : Prop where
  correlated : Correlated tracker
  requested : tracker.pendingSkips.map PendingSkip.transportId ⊆ past.filterMap fun here => here.input.issuedSkip
  accounts : ∀ here ∈ past, here.Accounts
  issued : (issuedIds past).Pairwise (· < ·)
  issuedBelow : ∀ id ∈ issuedIds past, id ≤ tracker.lastHistoryId
  queued : ∀ entry ∈ tracker.pendingHistory, entry.id ∈ issuedIds past
  acknowledged : (acknowledgedIds past).Pairwise (· < ·)
  handled : ∀ id ∈ acknowledgedIds past, id ≤ tracker.lastHistoryId ∧ ∀ entry ∈ tracker.pendingHistory, id < entry.id
  times : ∀ provider, (acceptedTimes provider past).Pairwise (· < ·)
  latest : ∀ provider, ∀ time ∈ acceptedTimes provider past,
    ∃ snapshot, tracker.latest provider = some snapshot ∧ time ≤ snapshot.observedAt

theorem mem_of_not_added (here : TrackerStep) {entry : PendingHistoryTransition} (member : entry ∈ here.after.pendingHistory) :
    entry ∈ here.added ∨ entry.id ∈ here.before.pendingHistory.map PendingHistoryTransition.id := by
  by_cases old : entry.id ∈ here.before.pendingHistory.map PendingHistoryTransition.id
  · exact .inr old
  · exact .inl (List.mem_filter.mpr ⟨member, by simpa using old⟩)

theorem issuedIds_snoc (past : List TrackerStep) (here : TrackerStep) :
    issuedIds (past ++ [here]) = issuedIds past ++ here.added.map PendingHistoryTransition.id := by
  simp [issuedIds]

private theorem acknowledgedIds_snoc (past : List TrackerStep) (here : TrackerStep) :
    acknowledgedIds (past ++ [here]) = acknowledgedIds past ++ here.acknowledgedId.toList := by
  simp only [acknowledgedIds, List.filterMap_append, List.filterMap_cons, List.filterMap_nil]
  cases here.acknowledgedId <;> rfl

private theorem acceptedTimes_snoc (provider : MusicProvider) (past : List TrackerStep) (here : TrackerStep) :
    acceptedTimes provider (past ++ [here]) = if here.input.clearsBaselines then []
      else acceptedTimes provider past ++ (here.acceptedTime provider).toList := by
  simp [acceptedTimes]

/-- The step's part of the identities: new ones are ahead of all others. -/
theorem Kept.numbers (kept : Kept past tracker) (moves : Moves tracker call reply after) :
    (issuedIds (past ++ [⟨tracker, call, reply, after⟩])).Pairwise (· < ·) ∧
      (∀ id ∈ issuedIds (past ++ [⟨tracker, call, reply, after⟩]), id ≤ after.lastHistoryId) ∧
      tracker.lastHistoryId ≤ after.lastHistoryId ∧
      ∀ entry ∈ after.pendingHistory, entry.id ∈ tracker.pendingHistory.map PendingHistoryTransition.id ∨
        tracker.lastHistoryId < entry.id := by
  rw [issuedIds_snoc]
  rcases moves.numbers kept.correlated with ⟨none_, same⟩ | ⟨entry, one, number, next⟩
  · rw [none_, List.map_nil, List.append_nil, same]
    refine ⟨kept.issued, kept.issuedBelow, Nat.le_refl _, ?_⟩
    intro entry member
    rcases mem_of_not_added ⟨tracker, call, reply, after⟩ member with added | old
    · rw [none_] at added
      cases added
    · exact .inl old
  · rw [one, List.map_singleton, number, next]
    refine ⟨List.pairwise_append.mpr ⟨kept.issued, List.pairwise_singleton _ _, ?_⟩, ?_, Nat.le_succ _, ?_⟩
    · intro earlier member later final
      rw [List.mem_singleton.mp final]
      exact Nat.lt_succ_of_le (kept.issuedBelow earlier member)
    · intro id member
      rcases List.mem_append.mp member with before | final
      · exact Nat.le_succ_of_le (kept.issuedBelow id before)
      · rw [List.mem_singleton.mp final]
    · intro other member
      rcases mem_of_not_added ⟨tracker, call, reply, after⟩ member with added | old
      · rw [one, List.mem_singleton] at added
        rw [added, number]
        exact .inr (Nat.lt_succ_self _)
      · exact .inl old

private theorem acknowledgedId_some {here : TrackerStep} {id : Nat} (handled : here.acknowledgedId = some id) :
    here.input = .acknowledge id ∧ here.output = .acknowledgement .acknowledged := by
  obtain ⟨before, input, output, after⟩ := here
  simp only [TrackerStep.acknowledgedId] at handled
  split at handled
  · cases handled
    exact ⟨rfl, rfl⟩
  · cases handled

/-- The step's part of the acknowledgements: they follow the queue. -/
theorem Kept.handles (kept : Kept past tracker) (moves : Moves tracker call reply after) :
    (acknowledgedIds (past ++ [⟨tracker, call, reply, after⟩])).Pairwise (· < ·) ∧
      ∀ id ∈ acknowledgedIds (past ++ [⟨tracker, call, reply, after⟩]),
        id ≤ after.lastHistoryId ∧ ∀ entry ∈ after.pendingHistory, id < entry.id := by
  obtain ⟨-, -, grows, entries⟩ := kept.numbers moves
  have earlier : ∀ id ∈ acknowledgedIds past,
      id ≤ after.lastHistoryId ∧ ∀ entry ∈ after.pendingHistory, id < entry.id := by
    intro id member
    obtain ⟨below, before⟩ := kept.handled id member
    refine ⟨Nat.le_trans below grows, ?_⟩
    intro entry queued
    rcases entries entry queued with old | new
    · obtain ⟨same, present, equal⟩ := List.mem_map.mp old
      rw [← equal]
      exact before same present
    · exact Nat.lt_of_le_of_lt below new
  rw [acknowledgedIds_snoc]
  cases handled : TrackerStep.acknowledgedId ⟨tracker, call, reply, after⟩ with
  | none =>
    rw [Option.toList_none, List.append_nil]
    exact ⟨kept.acknowledged, earlier⟩
  | some id =>
    obtain ⟨called, answered⟩ := acknowledgedId_some handled
    obtain ⟨entry, kind, own, -, queue⟩ := (moves.accounts kept.correlated).acknowledged answered
    rw [called] at own
    cases own
    dsimp only at queue
    have ascending := kept.correlated.ascending
    rw [queue, List.map_cons, List.pairwise_cons] at ascending
    rw [Option.toList_some]
    refine ⟨List.pairwise_append.mpr ⟨kept.acknowledged, List.pairwise_singleton _ _, ?_⟩, ?_⟩
    · intro former member later final
      rw [List.mem_singleton.mp final]
      exact (kept.handled former member).2 entry (queue ▸ List.mem_cons_self ..)
    · intro id member
      rcases List.mem_append.mp member with before | final
      · exact earlier id before
      · rw [List.mem_singleton.mp final]
        refine ⟨Nat.le_trans (kept.correlated.below entry (queue ▸ List.mem_cons_self ..)) grows, ?_⟩
        intro other queued
        exact ascending.1 _ (List.mem_map_of_mem queued)

/-- The step's part of the accepted times: each is later than the baseline it replaces. -/
theorem Kept.orders (kept : Kept past tracker) (moves : Moves tracker call reply after) (provider : MusicProvider) :
    (acceptedTimes provider (past ++ [⟨tracker, call, reply, after⟩])).Pairwise (· < ·) ∧
      ∀ time ∈ acceptedTimes provider (past ++ [⟨tracker, call, reply, after⟩]),
        ∃ snapshot, after.latest provider = some snapshot ∧ time ≤ snapshot.observedAt := by
  rw [acceptedTimes_snoc]
  dsimp only
  by_cases clears : call.clearsBaselines = true
  · rw [if_pos clears]
    exact ⟨List.Pairwise.nil, nofun⟩
  · rw [if_neg clears]
    rcases moves.baseline kept.correlated provider (by simpa using clears) with
      ⟨none_, same⟩ | ⟨snapshot, accepted, current, newer⟩
    · rw [none_, Option.toList_none, List.append_nil, same]
      exact ⟨kept.times provider, kept.latest provider⟩
    · rw [accepted, Option.toList_some]
      have before : ∀ time ∈ acceptedTimes provider past, time < snapshot.observedAt := by
        intro time member
        obtain ⟨previous, known, within⟩ := kept.latest provider time member
        exact Nat.lt_of_le_of_lt within (newer previous known)
      refine ⟨List.pairwise_append.mpr ⟨kept.times provider, List.pairwise_singleton _ _, ?_⟩, ?_⟩
      · intro time member later final
        rw [List.mem_singleton.mp final]
        exact before time member
      · intro time member
        refine ⟨snapshot, current, ?_⟩
        rcases List.mem_append.mp member with earlier | final
        · exact Nat.le_of_lt (before time earlier)
        · exact Nat.le_of_eq (List.mem_singleton.mp final)

theorem Kept.step (kept : Kept past tracker) (room : tracker.lastHistoryId < u64Max) (call : TrackerCall)
    (fresh : ((past.filterMap fun here => here.input.issuedSkip) ++ call.issuedSkip.toList).Nodup) :
    Kept (past ++ [Runs.take MusicObservationTracker.step tracker call]) (tracker.step call).1 := by
  have moves := step_moves kept.correlated room call
  obtain ⟨issued, below, -, entries⟩ := kept.numbers moves
  obtain ⟨acknowledged, handled⟩ := kept.handles moves
  refine ⟨?_, ?_, ?_, issued, below, ?_, acknowledged, handled, fun provider => (kept.orders moves provider).1,
    fun provider => (kept.orders moves provider).2⟩
  · apply kept.correlated.step room call
    rintro transportId issuedAt rfl pending
    exact (List.nodup_append.mp fresh).2.2 transportId (kept.requested pending) transportId (by simp [TrackerCall.issuedSkip]) rfl
  · intro transportId member
    rw [List.filterMap_append]
    rcases List.mem_append.mp (moves.requested kept.correlated member) with before | now
    · exact List.mem_append_left _ (kept.requested before)
    · refine List.mem_append_right _ (List.mem_filterMap.mpr ⟨_, List.mem_singleton_self _, ?_⟩)
      exact Option.mem_toList.mp now
  · intro here member
    rcases List.mem_append.mp member with before | now
    · exact kept.accounts here before
    · rw [List.mem_singleton.mp now]
      exact moves.accounts kept.correlated
  · intro entry member
    rw [issuedIds_snoc]
    rcases mem_of_not_added (Runs.take MusicObservationTracker.step tracker call) member with added | old
    · exact List.mem_append_right _ (List.mem_map_of_mem added)
    · obtain ⟨earlier, queued, same⟩ := List.mem_map.mp old
      exact List.mem_append_left _ (same ▸ kept.queued earlier queued)

theorem Kept.initial : Kept [] {} := by
  refine ⟨⟨List.nodup_nil, List.Perm.refl _, by simp, List.Pairwise.nil, by simp⟩, by simp, by simp, List.Pairwise.nil,
    by simp [issuedIds], by simp, List.Pairwise.nil, by simp [acknowledgedIds], ?_, ?_⟩
  · intro provider
    exact List.Pairwise.nil
  · intro provider time member
    cases member

theorem kept (calls : List TrackerCall) (fresh : (calls.filterMap TrackerCall.issuedSkip).Nodup)
    (room : ∀ here ∈ Runs.history MusicObservationTracker.step {} calls, here.before.lastHistoryId < u64Max) :
    Kept (Runs.history MusicObservationTracker.step {} calls) (Runs.final MusicObservationTracker.step {} calls) := by
  induction calls using List.reverseRecOn with
  | nil => exact .initial
  | append_singleton calls call ih =>
    rw [Runs.history_snoc] at room ⊢
    rw [Runs.final_append]
    rw [List.filterMap_append] at fresh
    have before := ih (List.nodup_append.mp fresh).1 fun here member => room here (List.mem_append_left _ member)
    apply before.step (room _ (List.mem_append_right _ (List.mem_singleton_self _)))
    have inputs : ((Runs.history MusicObservationTracker.step {} calls).filterMap fun here => here.input.issuedSkip) =
        calls.filterMap TrackerCall.issuedSkip := by
      conv_rhs => rw [← Runs.history_inputs MusicObservationTracker.step {} calls]
      rw [List.filterMap_map]
      rfl
    rw [inputs]
    have last : [call].filterMap TrackerCall.issuedSkip = call.issuedSkip.toList := by
      simp only [List.filterMap_cons, List.filterMap_nil]
      cases call.issuedSkip <;> rfl
    rw [← last]
    exact fresh

/-- The correspondence of commands and entries, the order of identities and of
observations, and what each call did to the queue. -/
structure Exact (past : List TrackerStep) (tracker : MusicObservationTracker) : Prop where
  paired : (awaitedSkips tracker.pendingHistory).Perm (matchedSkips tracker.pendingSkips)
  once : (matchedSkips tracker.pendingSkips).Nodup
  undecided : ∀ pending ∈ tracker.pendingSkips, pending.matchedObservation = true → pending.outcome = .pending
  queue : (tracker.pendingHistory.map PendingHistoryTransition.id).Pairwise (· < ·)
  issued : (issuedIds past).Pairwise (· < ·)
  acknowledged : (acknowledgedIds past).Pairwise (· < ·)
  accounts : ∀ here ∈ past, here.Accounts
  times : ∀ provider, (acceptedTimes provider past).Pairwise (· < ·)

/-- Music history correlation is exact over every run with fresh command identities
and history identities left: observation times ascend for as long as the baselines stand. -/
theorem history_correlation_exact (calls : List TrackerCall) (fresh : (calls.filterMap TrackerCall.issuedSkip).Nodup)
    (room : ∀ here ∈ Runs.history MusicObservationTracker.step {} calls, here.before.lastHistoryId < u64Max) :
    Exact (Runs.history MusicObservationTracker.step {} calls) (Runs.final MusicObservationTracker.step {} calls) := by
  have ledger := kept calls fresh room
  exact ⟨ledger.correlated.paired, ledger.correlated.matched_nodup,
    fun pending member => (ledger.correlated.open_ pending member).2, ledger.correlated.ascending, ledger.issued,
    ledger.acknowledged, ledger.accounts, ledger.times⟩

def playing (item : String) (observedAt : Nat) : MusicSnapshot := ⟨.spotify, .playing, some item, none, observedAt⟩

/-- A track, a skip command, the next track before the outcome, and the late acceptance. -/
def skippedTrack : List TrackerCall :=
  [.observe (playing "first" 100) ⟨1000, 5⟩, .issueSkip 1 150, .observe (playing "second" 200) ⟨2000, 5⟩,
    .finishSkip 1 true, .acknowledge 1, .acknowledge 2]

theorem skipped_track_correlated :
    (skippedTrack.filterMap TrackerCall.issuedSkip).Nodup ∧
      (∀ here ∈ Runs.history MusicObservationTracker.step {} skippedTrack, here.before.lastHistoryId < u64Max) ∧
      Exact (Runs.history MusicObservationTracker.step {} skippedTrack)
        (Runs.final MusicObservationTracker.step {} skippedTrack) := by
  have fresh : (skippedTrack.filterMap TrackerCall.issuedSkip).Nodup := by decide
  have room : ∀ here ∈ Runs.history MusicObservationTracker.step {} skippedTrack,
      here.before.lastHistoryId < u64Max := by
    decide
  exact ⟨fresh, room, history_correlation_exact skippedTrack fresh room⟩

example : acknowledgedIds (Runs.history MusicObservationTracker.step {} skippedTrack) = [1, 2] := by decide

/-- Clearing the baselines lets an older observation be accepted again. -/
theorem cleared_baseline_accepts_older : ¬∀ calls : List TrackerCall, (calls.filterMap TrackerCall.issuedSkip).Nodup →
    (∀ here ∈ Runs.history MusicObservationTracker.step {} calls, here.before.lastHistoryId < u64Max) →
    ∀ provider, ((Runs.history MusicObservationTracker.step {} calls).filterMap
      (TrackerStep.acceptedTime provider)).Pairwise (· < ·) := by
  intro ascending
  have times := ascending [.observe (playing "first" 200) ⟨2000, 5⟩, .reset, .observe (playing "second" 100) ⟨1000, 5⟩]
    (by decide) (by decide) .spotify
  exact absurd times (by decide)

end MusicObservationTracker

end Cutout.Music

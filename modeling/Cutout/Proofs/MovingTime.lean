import Cutout.MovingTime
import Cutout.Library.Runs
import Cutout.Library.Outcomes

/-! Which moving-time states can be stored and read back. Every operation keeps what the
reader checks, with one exception: an observation that reopens a closed continuation
of complete coverage. -/

namespace Cutout.Rides
open Library
open Protocols (u64Max)
variable {cursor : Nat}

namespace MovingTimeStateParts
variable {source : Option MovingTimeSourceStateParts} {latest : Option Nat}

structure Covered (parts : MovingTimeStateParts) : Prop where
  moving : parts.moving ≤ parts.observed
  total : parts.observed + parts.unknown ≤ u64Max
  speed : ∀ source, parts.phoneGps = some source → 0 ≤ source.speed
  unavailable : parts.availability = .unavailable → parts.observed = 0 ∧ parts.unknown = 0 ∧
    parts.phoneGps = none ∧ parts.vehicle = none
  partially : parts.availability = .partially → 0 < parts.unknown ∨ parts.incompleteHistory = true

/-- A source lies behind the cursor, and its latest callback between them. -/
structure Ordered (cursor : Option Nat) (source : Option MovingTimeSourceStateParts) (latest : Option Nat) : Prop where
  source : ∀ value, source = some value → ∃ last, latest = some last ∧ value.sourceAt ≤ last
  latest : ∀ last, latest = some last → ∃ now, cursor = some now ∧ last ≤ now

structure Regular (parts : MovingTimeStateParts) : Prop where
  covered : Covered parts
  phoneGps : Ordered parts.cursor parts.phoneGps parts.latestPhoneGpsSource
  vehicle : Ordered parts.cursor parts.vehicle parts.latestVehicleSource

/-- Complete coverage has neither unknown time nor an incomplete history. -/
def Closed (parts : MovingTimeStateParts) : Prop :=
  parts.availability = .complete → parts.unknown = 0 ∧ parts.incompleteHistory = false

variable {parts : MovingTimeStateParts}

theorem Ordered.absent (cursor : Option Nat) : Ordered cursor none none := ⟨nofun, nofun⟩

theorem ordered_some_iff :
    Ordered (some cursor) source latest ↔ ¬ source.any (sourceOutOfOrder cursor latest) = true ∧
      ¬ (latest.any fun latest => decide (cursor < latest)) = true := by
  constructor
  · intro ordered
    constructor
    · cases source with
      | none => simp
      | some value =>
        obtain ⟨last, rfl, behind⟩ := ordered.source value rfl
        obtain ⟨now, same, below⟩ := ordered.latest last rfl
        cases same
        simp only [Option.any_some, sourceOutOfOrder, Option.all_some, Bool.or_eq_true, decide_eq_true_iff]
        omega
    · cases latest with
      | none => simp
      | some last =>
        obtain ⟨now, same, below⟩ := ordered.latest last rfl
        cases same
        simpa using below
  · rintro ⟨inOrder, behind⟩
    constructor
    · rintro value rfl
      cases latest with
      | none => simp [sourceOutOfOrder] at inOrder
      | some last =>
        simp only [Option.any_some, sourceOutOfOrder, Option.all_some, Bool.or_eq_true, decide_eq_true_iff] at inOrder
        exact ⟨last, rfl, by omega⟩
    · rintro last rfl
      exact ⟨cursor, rfl, by simpa using behind⟩

theorem ordered_none_iff : Ordered none source latest ↔ source = none ∧ latest = none := by
  constructor
  · intro ordered
    have absent : latest = none := by
      by_contra present
      obtain ⟨last, rfl⟩ := Option.ne_none_iff_exists'.mp present
      obtain ⟨now, same, -⟩ := ordered.latest last rfl
      cases same
    refine ⟨?_, absent⟩
    by_contra present
    obtain ⟨value, rfl⟩ := Option.ne_none_iff_exists'.mp present
    obtain ⟨last, same, -⟩ := ordered.source value rfl
    cases absent.symm.trans same
  · rintro ⟨rfl, rfl⟩
    exact .absent none

theorem Ordered.later {now : Nat} (ordered : Ordered (some cursor) source latest) (later : cursor ≤ now) :
    Ordered (some now) source latest := by
  refine ⟨ordered.source, ?_⟩
  intro last known
  obtain ⟨past, same, below⟩ := ordered.latest last known
  cases same
  exact ⟨now, rfl, below.trans later⟩

end MovingTimeStateParts

namespace MovingTimeContinuation
open MovingTimeStateParts

variable {parts : MovingTimeStateParts} {state : MovingTimeContinuation}

theorem covered_iff : Covered parts ∧ Closed parts ↔
    ¬ (parts.observed < parts.moving ∨ u64Max < parts.observed + parts.unknown ∨
      (parts.phoneGps.any fun source => decide (source.speed < 0)) = true ∨
      (parts.availability = .complete ∧ (0 < parts.unknown ∨ parts.incompleteHistory = true)) ∨
      (parts.availability = .unavailable ∧ (0 < parts.observed ∨ 0 < parts.unknown ∨ parts.phoneGps.isSome = true ∨
        parts.vehicle.isSome = true)) ∨
      (parts.availability = .partially ∧ parts.unknown = 0 ∧ parts.incompleteHistory = false)) := by
  constructor
  · rintro ⟨covered, closed⟩ (moves | overflow | negative | ⟨complete, broken⟩ | ⟨absent, present⟩ | ⟨partly, known, full⟩)
    · exact absurd covered.moving (by omega)
    · exact absurd covered.total (by omega)
    · obtain ⟨source, found, below⟩ := (Option.any_eq_true _ _).mp negative
      have := covered.speed source found
      simp only [decide_eq_true_iff] at below
      omega
    · obtain ⟨known, full⟩ := closed complete
      rcases broken with unknown | history
      · omega
      · cases full.symm.trans history
    · obtain ⟨observed, unknown, phone, vehicle⟩ := covered.unavailable absent
      simp [observed, unknown, phone, vehicle] at present
    · rcases covered.partially partly with unknown | history
      · omega
      · cases full.symm.trans history
  · intro accepted
    simp only [not_or, not_and, Nat.not_lt, Option.any_eq_true, decide_eq_true_iff, not_exists, Nat.le_zero,
      Bool.not_eq_true, Option.isSome_eq_false_iff, Option.isNone_iff_eq_none] at accepted
    obtain ⟨moving, total, speed, closed, unavailable, partially⟩ := accepted
    refine ⟨⟨moving, total, ?_, unavailable, ?_⟩, closed⟩
    · intro source found
      exact Int.not_lt.mp (speed source found)
    · intro partly
      rcases Nat.eq_zero_or_pos parts.unknown with known | unknown
      · exact .inr (by simpa using partially partly known)
      · exact .inl unknown

theorem fromStateParts_iff : fromStateParts parts = .ok ⟨parts⟩ ↔ Regular parts ∧ Closed parts := by
  unfold fromStateParts
  split
  · next refused =>
    have broken : ¬ (Covered parts ∧ Closed parts) := fun fine => covered_iff.mp fine refused
    refine ⟨nofun, ?_⟩
    rintro ⟨regular, closed⟩
    exact absurd ⟨regular.covered, closed⟩ broken
  · next accepted =>
    obtain ⟨covered, closed⟩ := covered_iff.mpr accepted
    have ordered : Regular parts ∧ Closed parts ↔ Ordered parts.cursor parts.phoneGps parts.latestPhoneGpsSource ∧
        Ordered parts.cursor parts.vehicle parts.latestVehicleSource := by
      constructor
      · rintro ⟨regular, -⟩
        exact ⟨regular.phoneGps, regular.vehicle⟩
      · rintro ⟨phone, vehicle⟩
        exact ⟨⟨covered, phone, vehicle⟩, closed⟩
    rw [ordered]
    split
    · next cursor known =>
      rw [known, ordered_some_iff, ordered_some_iff]
      split
      · next refused => exact ⟨nofun, fun ordered => by tauto⟩
      · next accepted => exact ⟨fun _ => by tauto, fun _ => rfl⟩
    · next known =>
      rw [known, ordered_none_iff, ordered_none_iff]
      split
      · next refused =>
        refine ⟨nofun, ?_⟩
        rintro ⟨⟨phone, latestPhone⟩, vehicle, latestVehicle⟩
        simp [phone, latestPhone, vehicle, latestVehicle] at refused
      · next accepted =>
        refine ⟨fun _ => ?_, fun _ => rfl⟩
        simp only [not_or, Bool.not_eq_true, Option.isSome_eq_false_iff, Option.isNone_iff_eq_none] at accepted
        exact ⟨⟨accepted.1, accepted.2.2.1⟩, accepted.2.1, accepted.2.2.2⟩

theorem fromStateParts_ok {restored : MovingTimeContinuation} (result : fromStateParts parts = .ok restored) :
    restored = ⟨parts⟩ := by
  unfold fromStateParts at result
  split at result
  · cases result
  · split at result <;> split at result <;> cases result <;> rfl

end MovingTimeContinuation

namespace MovingTimeStateParts
variable {incompleteHistory : Bool}

/-- What accounting for a stretch of time does: the evidence stays, and a stretch without any source
in it is unknown. -/
structure Advanced (parts counted : MovingTimeStateParts) : Prop where
  cursor : counted.cursor = parts.cursor
  phoneGps : counted.phoneGps = parts.phoneGps
  vehicle : counted.vehicle = parts.vehicle
  latestPhoneGpsSource : counted.latestPhoneGpsSource = parts.latestPhoneGpsSource
  latestVehicleSource : counted.latestVehicleSource = parts.latestVehicleSource
  incompleteHistory : counted.incompleteHistory = parts.incompleteHistory
  moving : parts.moving ≤ parts.observed → counted.moving ≤ counted.observed
  total : parts.observed + parts.unknown ≤ u64Max → counted.observed + counted.unknown ≤ u64Max
  coverage : (counted.unknown = parts.unknown ∧ counted.availability = parts.availability ∧
      (parts.phoneGps = none → parts.vehicle = none → counted.observed = parts.observed)) ∨
    0 < counted.unknown ∧ counted.availability = .partially

variable {parts counted last : MovingTimeStateParts}

theorem Advanced.refl (parts : MovingTimeStateParts) : Advanced parts parts :=
  ⟨rfl, rfl, rfl, rfl, rfl, rfl, id, id, .inl ⟨rfl, rfl, fun _ _ => rfl⟩⟩

theorem Advanced.trans (first : Advanced parts counted) (second : Advanced counted last) : Advanced parts last := by
  refine ⟨second.cursor.trans first.cursor, second.phoneGps.trans first.phoneGps, second.vehicle.trans first.vehicle,
    second.latestPhoneGpsSource.trans first.latestPhoneGpsSource,
    second.latestVehicleSource.trans first.latestVehicleSource,
    second.incompleteHistory.trans first.incompleteHistory, second.moving ∘ first.moving,
    second.total ∘ first.total, ?_⟩
  rcases second.coverage with ⟨unknown, availability, observed⟩ | partly
  · rw [unknown, availability]
    refine first.coverage.imp_left ?_
    rintro ⟨known, same, seen⟩
    refine ⟨known, same, ?_⟩
    intro phone vehicle
    exact (observed (first.phoneGps.trans phone) (first.vehicle.trans vehicle)).trans (seen phone vehicle)
  · exact .inr partly

private theorem addObservedInterval_advanced {duration : Nat} {moving : Bool}
    (sourced : parts.phoneGps = none → parts.vehicle ≠ none)
    (added : parts.addObservedInterval duration moving = .ok counted) : Advanced parts counted := by
  unfold addObservedInterval at added
  split at added
  · cases added
  · split at added
    · cases added
    · next bounded =>
      split at added
      · split at added
        · cases added
        · cases added
          refine ⟨rfl, rfl, rfl, rfl, rfl, rfl, ?_, ?_, .inl ⟨rfl, rfl, fun phone vehicle => absurd vehicle (sourced phone)⟩⟩
          · intro below
            exact Nat.add_le_add_right below duration
          · intro
            exact Nat.not_lt.mp bounded
      · cases added
        refine ⟨rfl, rfl, rfl, rfl, rfl, rfl, ?_, ?_, .inl ⟨rfl, rfl, fun phone vehicle => absurd vehicle (sourced phone)⟩⟩
        · intro below
          exact below.trans (Nat.le_add_right _ _)
        · intro
          exact Nat.not_lt.mp bounded

theorem addUnknownInterval_advanced {duration : Nat} (positive : 0 < duration)
    (added : parts.addUnknownInterval duration = .ok counted) : Advanced parts counted := by
  unfold addUnknownInterval at added
  split at added
  · cases added
  · split at added
    · cases added
    · next bounded =>
      cases added
      exact ⟨rfl, rfl, rfl, rfl, rfl, rfl, id, fun _ => Nat.not_lt.mp bounded,
        .inr ⟨Nat.add_pos_right _ positive, rfl⟩⟩

private theorem selectedSourceAt_sourced {at_ : Nat} {source : MovingTimeSourceStateParts}
    (selected : parts.selectedSourceAt at_ = some source) : parts.phoneGps = none → parts.vehicle ≠ none := by
  intro phone vehicle
  simp [selectedSourceAt, phone, vehicle] at selected

theorem account_advanced {at_ : Nat} (accounted : parts.account cursor at_ = .ok counted) :
    Advanced parts counted := by
  induction parts, cursor using account.induct at_ generalizing counted with
  | case1 parts cursor before source selected fresh ih =>
    rw [account, if_pos before, selected] at accounted
    dsimp only at accounted
    rw [if_pos fresh] at accounted
    obtain ⟨added, observed, rest⟩ := ok_bind accounted
    exact (addObservedInterval_advanced (selectedSourceAt_sourced selected) observed).trans (ih added rest)
  | case2 parts cursor before source selected stale ih =>
    rw [account, if_pos before, selected] at accounted
    dsimp only at accounted
    rw [if_neg stale] at accounted
    obtain ⟨added, unknown, rest⟩ := ok_bind accounted
    exact (addUnknownInterval_advanced (by omega) unknown).trans (ih added rest)
  | case3 parts cursor before unselected expiry next ih =>
    rw [account, if_pos before, unselected] at accounted
    dsimp only at accounted
    split at accounted
    · next found =>
      cases next.symm.trans found
      obtain ⟨added, unknown, rest⟩ := ok_bind accounted
      have later := nextExpiration_lt next
      exact (addUnknownInterval_advanced (by omega) unknown).trans (ih added rest)
    · next missing => cases next.symm.trans missing
  | case4 parts cursor before unselected next ih =>
    rw [account, if_pos before, unselected] at accounted
    dsimp only at accounted
    split at accounted
    · next found => cases next.symm.trans found
    · obtain ⟨added, unknown, rest⟩ := ok_bind accounted
      exact (addUnknownInterval_advanced (by omega) unknown).trans (ih added rest)
  | case5 parts cursor done =>
    rw [account, if_neg done] at accounted
    cases accounted
    exact .refl parts

theorem Advanced.covered (advanced : Advanced parts counted) (covered : Covered parts) : Covered counted := by
  refine ⟨advanced.moving covered.moving, advanced.total covered.total, ?_, ?_, ?_⟩
  · rw [advanced.phoneGps]
    exact covered.speed
  · intro absent
    rcases advanced.coverage with ⟨unknown, availability, observed⟩ | ⟨-, partly⟩
    · obtain ⟨none, known, phone, vehicle⟩ := covered.unavailable (availability.symm.trans absent)
      exact ⟨(observed phone vehicle).trans none, unknown.trans known, advanced.phoneGps.trans phone,
        advanced.vehicle.trans vehicle⟩
    · cases partly.symm.trans absent
  · intro partly
    rcases advanced.coverage with ⟨unknown, availability, -⟩ | ⟨some, -⟩
    · rw [unknown, advanced.incompleteHistory]
      exact covered.partially (availability.symm.trans partly)
    · exact .inl some

theorem Advanced.closed (advanced : Advanced parts counted) (closed : Closed parts) : Closed counted := by
  intro complete
  rcases advanced.coverage with ⟨unknown, availability, -⟩ | ⟨-, partly⟩
  · rw [unknown, advanced.incompleteHistory]
    exact closed (availability.symm.trans complete)
  · cases partly.symm.trans complete

theorem Covered.closed_off (covered : Covered parts) {cursor : Option Nat}
    (history : parts.incompleteHistory = true → incompleteHistory = true) : Covered { parts with
      cursor, incompleteHistory, phoneGps := none, vehicle := none, latestPhoneGpsSource := none, latestVehicleSource := none } := by
  refine ⟨covered.moving, covered.total, nofun, ?_, ?_⟩
  · intro absent
    obtain ⟨observed, unknown, -, -⟩ := covered.unavailable absent
    exact ⟨observed, unknown, rfl, rfl⟩
  · intro partly
    exact (covered.partially partly).imp_right history

theorem Regular.closed_off (covered : Covered parts) {cursor : Option Nat}
    (history : parts.incompleteHistory = true → incompleteHistory = true) : Regular { parts with
      cursor, incompleteHistory, phoneGps := none, vehicle := none, latestPhoneGpsSource := none, latestVehicleSource := none } :=
  ⟨covered.closed_off history, .absent cursor, .absent cursor⟩

end MovingTimeStateParts

namespace MovingTimeContinuation
open MovingTimeStateParts
variable {observation : MovingTimeObservation} {parts : MovingTimeStateParts} {at_ : Nat}

variable {state next : MovingTimeContinuation}

/-- The continuation has reached `at_` with the evidence it had. -/
structure Reached (parts : MovingTimeStateParts) (at_ : Nat) (next : MovingTimeStateParts) : Prop where
  regular : Regular next
  cursor : next.cursor = some at_
  latestPhoneGpsSource : next.latestPhoneGpsSource = parts.latestPhoneGpsSource
  latestVehicleSource : next.latestVehicleSource = parts.latestVehicleSource
  open_ : parts.cursor ≠ none → Closed parts → Closed next
  reopened : parts.cursor = none → next.availability = parts.availability ∧ next.incompleteHistory = true

theorem advanceTo_reached (regular : Regular state.parts) (advanced : state.advanceTo at_ = .ok next) :
    Reached state.parts at_ next.parts := by
  unfold advanceTo at advanced
  split at advanced
  · next closed =>
    cases advanced
    have phone := regular.phoneGps
    have vehicle := regular.vehicle
    rw [closed, ordered_none_iff] at phone vehicle
    refine ⟨⟨?_, ?_, ?_⟩, rfl, rfl, rfl, fun some => absurd closed some, fun _ => ⟨rfl, rfl⟩⟩
    · obtain ⟨moving, total, speed, unavailable, partially⟩ := regular.covered
      exact ⟨moving, total, speed, unavailable, fun _ => .inr rfl⟩
    · dsimp only
      rw [phone.1, phone.2]
      exact .absent _
    · dsimp only
      rw [vehicle.1, vehicle.2]
      exact .absent _
  · next cursor known =>
    split at advanced
    · cases advanced
    · next later =>
      obtain ⟨counted, accounted, moved⟩ := ok_bind advanced
      cases moved
      have kept := account_advanced accounted
      have phone := regular.phoneGps
      have vehicle := regular.vehicle
      rw [known] at phone vehicle
      refine ⟨⟨?_, ?_, ?_⟩, rfl, kept.latestPhoneGpsSource, kept.latestVehicleSource, fun _ => kept.closed, ?_⟩
      · obtain ⟨moving, total, speed, unavailable, partially⟩ := kept.covered regular.covered
        exact ⟨moving, total, speed, unavailable, partially⟩
      · dsimp only
        rw [kept.phoneGps, kept.latestPhoneGpsSource]
        exact phone.later (Nat.not_lt.mp later)
      · dsimp only
        rw [kept.vehicle, kept.latestVehicleSource]
        exact vehicle.later (Nat.not_lt.mp later)
      · intro closed
        cases known.symm.trans closed

def Acceptable (observation : MovingTimeObservation) : Prop :=
  observation.sourceAt ≤ observation.receiptAt ∧
    (observation.speed ≠ none → observation.receiptAt - observation.sourceAt ≤ telemetryFreshnessMilliseconds) ∧
    (observation.source = .vehicle → observation.speed ≠ none) ∧
    (observation.source = .phoneGps → ∀ speed, observation.speed = some speed → 0 ≤ speed)

/-- Whether the recorded parts are complete only if their coverage is. -/
theorem closed_markEvidenceAvailable :
    Closed (markEvidenceAvailable parts) ↔ parts.availability = .unavailable ∨ Closed parts := by
  unfold markEvidenceAvailable
  split
  · next absent =>
    refine ⟨fun _ => .inl absent, fun _ => ?_⟩
    intro complete
    dsimp only at complete ⊢
    split at complete
    · cases complete
    · next full =>
      simp only [not_or, Nat.not_lt, Nat.le_zero, Bool.not_eq_true] at full
      exact ⟨full.2, full.1⟩
  · next present => exact ⟨.inr, fun either => either.resolve_left present⟩

theorem covered_markEvidenceAvailable (moving : parts.moving ≤ parts.observed)
    (total : parts.observed + parts.unknown ≤ u64Max)
    (speed : ∀ source, parts.phoneGps = some source → 0 ≤ source.speed)
    (partially : parts.availability = .partially → 0 < parts.unknown ∨ parts.incompleteHistory = true) :
    Covered (markEvidenceAvailable parts) := by
  unfold markEvidenceAvailable
  split
  · refine ⟨moving, total, speed, ?_, ?_⟩
    · intro absent
      dsimp only at absent
      split at absent <;> cases absent
    · intro partly
      dsimp only at partly ⊢
      split at partly
      · next either => exact either.symm
      · cases partly
  · next present => exact ⟨moving, total, speed, fun absent => absurd absent present, partially⟩

theorem markEvidenceAvailable_evidence (parts : MovingTimeStateParts) :
    (markEvidenceAvailable parts).cursor = parts.cursor ∧ (markEvidenceAvailable parts).phoneGps = parts.phoneGps ∧
    (markEvidenceAvailable parts).vehicle = parts.vehicle ∧
    (markEvidenceAvailable parts).latestPhoneGpsSource = parts.latestPhoneGpsSource ∧
    (markEvidenceAvailable parts).latestVehicleSource = parts.latestVehicleSource := by
  unfold markEvidenceAvailable
  split <;> exact ⟨rfl, rfl, rfl, rfl, rfl⟩

theorem regular_mark (covered : Covered (markEvidenceAvailable parts))
    (phone : Ordered parts.cursor parts.phoneGps parts.latestPhoneGpsSource)
    (vehicle : Ordered parts.cursor parts.vehicle parts.latestVehicleSource) :
    Regular (markEvidenceAvailable parts) := by
  obtain ⟨cursor, first, second, latestFirst, latestSecond⟩ := markEvidenceAvailable_evidence parts
  refine ⟨covered, ?_, ?_⟩
  · rw [cursor, first, latestFirst]
    exact phone
  · rw [cursor, second, latestSecond]
    exact vehicle

/-- Recorded evidence keeps what the reader checks; complete coverage stays as it was. -/
structure Recorded (parts recorded : MovingTimeStateParts) : Prop where
  regular : Regular recorded
  closed : Closed parts → Closed recorded
  complete : parts.availability = .complete →
    recorded.availability = .complete ∧ recorded.incompleteHistory = parts.incompleteHistory

theorem Recorded.mark {marked : MovingTimeStateParts} (regular : Regular (markEvidenceAvailable marked))
    (availability : marked.availability = parts.availability) (unknown : marked.unknown = parts.unknown)
    (history : marked.incompleteHistory = parts.incompleteHistory) : Recorded parts (markEvidenceAvailable marked) := by
  refine ⟨regular, ?_, ?_⟩
  · intro closed
    refine closed_markEvidenceAvailable.mpr (.inr ?_)
    rw [Closed, availability, unknown, history]
    exact closed
  · intro complete
    have same := availability.trans complete
    rw [markEvidenceAvailable, if_neg (by rw [same]; nofun)]
    exact ⟨same, history⟩

theorem record_recorded {recorded : MovingTimeStateParts} (regular : Regular parts)
    (acceptable : Acceptable observation) (cursor : parts.cursor = some observation.receiptAt)
    (newer : ∀ last, latestSourceAt ⟨parts⟩ observation.source = some last → last < observation.sourceAt)
    (result : record parts observation = .ok recorded) : Recorded parts recorded := by
  obtain ⟨moving, total, speed, unavailable, partially⟩ := regular.covered
  have reached : ∃ now, parts.cursor = some now ∧ observation.sourceAt ≤ now := ⟨_, cursor, acceptable.1⟩
  unfold record at result
  split at result
  · next phone =>
    dsimp only at result
    split at result
    · next value known =>
      cases result
      refine .mark (regular_mark (covered_markEvidenceAvailable moving total ?_ partially) ?_ regular.vehicle) rfl rfl rfl
      · intro source same
        cases same
        exact acceptable.2.2.2 phone value known
      · exact ⟨fun source same => ⟨_, rfl, by cases same; exact le_refl _⟩, fun last same => by cases same; exact reached⟩
    · cases result
      refine ⟨⟨⟨moving, total, speed, unavailable, partially⟩, ⟨?_, ?_⟩, regular.vehicle⟩, id, fun complete => ⟨complete, rfl⟩⟩
      · intro source same
        obtain ⟨last, known, behind⟩ := regular.phoneGps.source source same
        have := newer last (by rw [phone]; exact known)
        exact ⟨_, rfl, by omega⟩
      · intro last same
        cases same
        exact reached
  · dsimp only at result
    split at result
    · cases result
      refine .mark (regular_mark (covered_markEvidenceAvailable moving total speed partially) regular.phoneGps ?_) rfl rfl rfl
      exact ⟨fun source same => ⟨_, rfl, by cases same; exact le_refl _⟩, fun last same => by cases same; exact reached⟩
    · cases result

private theorem observe_cases (observed : state.observe observation = .ok next) :
    Acceptable observation ∧ (∀ last, state.latestSourceAt observation.source = some last → last < observation.sourceAt) ∧
      ∃ moved, state.advanceTo observation.receiptAt = .ok moved ∧
        record (if state.parts.cursor.isSome then moved.parts else { moved.parts with incompleteHistory := true })
          observation = .ok next.parts := by
  unfold observe at observed
  split at observed
  · cases observed
  · next causal =>
    split at observed
    · cases observed
    · next fresh =>
      split at observed
      · cases observed
      · next spoken =>
        split at observed
        · cases observed
        · next forwards =>
          split at observed
          · cases observed
          · next ordered =>
            obtain ⟨moved, advanced, recorded⟩ := ok_bind observed
            obtain ⟨parts, result, same⟩ := ok_bind recorded
            cases same
            refine ⟨⟨Nat.not_lt.mp causal, ?_, ?_, ?_⟩, ?_, moved, advanced, result⟩
            · intro present
              rw [not_and, Nat.not_lt] at fresh
              exact fresh (Option.isSome_iff_ne_none.mpr present)
            · intro vehicle absent
              exact spoken ⟨vehicle, absent⟩
            · intro phone speed known
              rw [not_and, known] at forwards
              simpa using forwards phone
            · intro last known
              rw [known] at ordered
              simpa using ordered

/-- An acceptable observation of a closed continuation whose coverage is complete. -/
def Reopens (state : MovingTimeContinuation) (call : MovingTimeCall) : Prop :=
  state.parts.cursor = none ∧ state.parts.availability = .complete ∧
    ∃ observation, call = .observe observation ∧ Acceptable observation

private theorem observe_regular (regular : Regular state.parts) (observed : state.observe observation = .ok next) :
    Regular next.parts ∧
      (Closed state.parts → ¬ Reopens state (.observe observation) → Closed next.parts) ∧
      (Reopens state (.observe observation) → ¬ Closed next.parts) := by
  obtain ⟨acceptable, newer, moved, advanced, result⟩ := observe_cases observed
  have reached := advanceTo_reached regular advanced
  have earlier (last : Nat) (known : latestSourceAt moved observation.source = some last) :
      last < observation.sourceAt := by
    apply newer last
    cases source : observation.source with
    | phoneGps =>
      rw [source] at known
      exact reached.latestPhoneGpsSource.symm.trans known
    | vehicle =>
      rw [source] at known
      exact reached.latestVehicleSource.symm.trans known
  cases cursor : state.parts.cursor with
  | some now =>
    rw [cursor, Option.isSome_some, if_pos rfl] at result
    have recorded := record_recorded reached.regular acceptable reached.cursor earlier result
    refine ⟨recorded.regular, ?_, ?_⟩
    · intro closed _
      exact recorded.closed (reached.open_ (by rw [cursor]; nofun) closed)
    · intro reopens
      cases cursor.symm.trans reopens.1
  | none =>
    rw [cursor, Option.isSome_none, if_neg nofun] at result
    obtain ⟨availability, history⟩ := reached.reopened cursor
    have same : ({ moved.parts with incompleteHistory := true } : MovingTimeStateParts) = moved.parts := by
      rw [← history]
    rw [same] at result
    have recorded := record_recorded reached.regular acceptable reached.cursor earlier result
    refine ⟨recorded.regular, ?_, ?_⟩
    · intro _ kept
      apply recorded.closed
      intro complete
      exact absurd ⟨cursor, availability.symm.trans complete, observation, rfl, acceptable⟩ kept
    · intro reopens closed
      obtain ⟨complete, incomplete⟩ := recorded.complete (availability.trans reopens.2.1)
      cases (closed complete).2.symm.trans (incomplete.trans history)

/-- At a closed continuation every acceptable observation is taken. -/
theorem observe_reopens (regular : Regular state.parts) (closed : state.parts.cursor = none)
    (acceptable : Acceptable observation) : ∃ next, state.observe observation = .ok next := by
  obtain ⟨causal, fresh, spoken, forwards⟩ := acceptable
  have phone := regular.phoneGps
  have vehicle := regular.vehicle
  rw [closed, ordered_none_iff] at phone vehicle
  have unseen : state.latestSourceAt observation.source = none := by
    cases source : observation.source with
    | phoneGps => exact phone.2
    | vehicle => exact vehicle.2
  unfold observe
  rw [if_neg (Nat.not_lt.mpr causal), if_neg, if_neg, if_neg, if_neg (by rw [unseen]; nofun)]
  · rw [advanceTo, closed]
    unfold record
    cases source : observation.source with
    | phoneGps =>
      cases observation.speed with
      | none | some => exact ⟨_, rfl⟩
    | vehicle =>
      obtain ⟨speed, known⟩ := Option.ne_none_iff_exists'.mp (spoken source)
      rw [known]
      exact ⟨_, rfl⟩
  · rintro ⟨phone, negative⟩
    obtain ⟨speed, known, below⟩ := (Option.any_eq_true _ _).mp negative
    have := forwards phone speed known
    simp only [decide_eq_true_iff] at below
    omega
  · rintro ⟨vehicle, absent⟩
    exact spoken vehicle absent
  · rintro ⟨present, stale⟩
    have := fresh (Option.isSome_iff_ne_none.mp present)
    omega

private theorem closeAt_regular (regular : Regular state.parts) (result : state.closeAt at_ = .ok next) :
    Regular next.parts ∧ (Closed state.parts → Closed next.parts) := by
  unfold closeAt at result
  split at result
  · cases result
    exact ⟨regular, id⟩
  · next open_ =>
    obtain ⟨moved, advanced, same⟩ := ok_bind result
    cases same
    have reached := advanceTo_reached regular advanced
    exact ⟨.closed_off reached.regular.covered id, reached.open_ open_⟩

private theorem resumeAt_regular (regular : Regular state.parts) (result : state.resumeAt at_ = .ok next) :
    Regular next.parts ∧ (Closed state.parts → Closed next.parts) := by
  unfold resumeAt at result
  split at result
  · cases result
  · cases result
    refine ⟨.closed_off regular.covered ?_, ?_⟩
    · intro history
      split
      · rfl
      · exact history
    · intro closed complete
      have complete : state.parts.availability = .complete := complete
      dsimp only
      rw [if_neg (by rw [complete]; nofun)]
      exact closed complete

private theorem restoredAfterRestart_regular (at_ : Nat) (result : restoredAfterRestart state.stateParts at_ = .ok next) :
    Regular next.parts ∧ Closed next.parts := by
  obtain ⟨restored, -, again⟩ := ok_bind result
  have same := fromStateParts_ok again
  rw [same] at again ⊢
  exact fromStateParts_iff.mp again

theorem step_regular (regular : Regular state.parts) (call : MovingTimeCall) :
    Regular (state.step call).1.parts ∧
      (Closed state.parts → ¬ Reopens state call → Closed (state.step call).1.parts) ∧
      (Reopens state call → ¬ Closed (state.step call).1.parts) := by
  have other (different : ∀ observation, call ≠ .observe observation) : ¬ Reopens state call := by
    rintro ⟨-, -, observation, same, -⟩
    exact different observation same
  unfold step
  split
  · next result =>
    cases call with
    | observe observation => exact observe_regular regular result
    | closeAt at_ =>
      obtain ⟨kept, closed⟩ := closeAt_regular regular result
      exact ⟨kept, fun before _ => closed before, fun reopens => absurd reopens (other nofun)⟩
    | resumeAt at_ =>
      obtain ⟨kept, closed⟩ := resumeAt_regular regular result
      exact ⟨kept, fun before _ => closed before, fun reopens => absurd reopens (other nofun)⟩
    | restoredAfterRestart at_ =>
      obtain ⟨kept, closed⟩ := restoredAfterRestart_regular at_ result
      exact ⟨kept, fun _ _ => closed, fun reopens => absurd reopens (other nofun)⟩
  · next error failed =>
    refine ⟨regular, fun closed _ => closed, ?_⟩
    rintro ⟨closed, -, observation, rfl, acceptable⟩
    obtain ⟨next, taken⟩ := observe_reopens regular closed acceptable
    cases taken.symm.trans failed

abbrev run (state : MovingTimeContinuation) (calls : List MovingTimeCall) : MovingTimeContinuation :=
  Runs.final step state calls

inductive Origin : MovingTimeContinuation → Prop where
  | live (startAt) : Origin (newLive startAt)
  | imported : Origin unavailable

theorem Origin.regular (origin : Origin state) : Regular state.parts ∧ Closed state.parts := by
  cases origin with
  | live | imported =>
    exact ⟨⟨⟨le_refl _, Nat.zero_le _, nofun, fun _ => ⟨rfl, rfl, rfl, rfl⟩, nofun⟩, .absent _, .absent _⟩, nofun⟩

theorem regular_run (regular : Regular state.parts) (calls : List MovingTimeCall) : Regular (state.run calls).parts :=
  Runs.invariant (P := fun state : MovingTimeContinuation => Regular state.parts) (fun _ call kept => (step_regular kept call).1) regular calls

theorem closed_run (regular : Regular state.parts) (closed : Closed state.parts) (calls : List MovingTimeCall)
    (kept : ∀ here ∈ Runs.history step state calls, ¬ Reopens here.before here.input) :
    Closed (state.run calls).parts := by
  induction calls generalizing state with
  | nil => exact closed
  | cons call calls ih =>
    obtain ⟨next, keeps, -⟩ := step_regular regular call
    have first : ¬ Reopens state call := kept (Runs.take step state call) List.mem_cons_self
    exact ih next (keeps closed first) fun here member => kept here (List.mem_cons_of_mem _ member)

/-- Every state of a run reads back as it was stored exactly when no observation reopens a closed
continuation of complete coverage. -/
theorem stored_moving_time_reads_back_iff {start : MovingTimeContinuation} (origin : Origin start)
    (calls : List MovingTimeCall) :
    (∀ first last, calls = first ++ last → fromStateParts (start.run first).stateParts = .ok (start.run first)) ↔
      ∀ here ∈ Runs.history step start calls, ¬ Reopens here.before here.input := by
  obtain ⟨regular, closed⟩ := origin.regular
  constructor
  · intro reads here member reopens
    obtain ⟨past, later, split⟩ := List.append_of_mem member
    obtain ⟨first, last, rfl, -, same, -⟩ := Runs.history_split split
    have kept := (fromStateParts_iff.mp (reads (first ++ [here.input]) last (by simp))).2
    rw [run, Runs.final_append] at kept
    rw [same] at reopens
    exact (step_regular (regular_run regular first) here.input).2.2 reopens kept
  · rintro kept first last rfl
    refine fromStateParts_iff.mpr ⟨regular_run regular first, closed_run regular closed first ?_⟩
    intro here member
    apply kept here
    rw [Runs.history_append]
    exact List.mem_append_left _ member

theorem account_self (parts : MovingTimeStateParts) (at_ : Nat) : parts.account at_ at_ = .ok parts := by
  rw [account, if_neg (Nat.lt_irrefl at_)]

private theorem standstill_closed : (newLive 0).run [.observe ⟨.vehicle, some 0, 0, 0⟩, .closeAt 0] =
    ⟨{ cursor := none, availability := .complete, incompleteHistory := false }⟩ := by
  simp [run, Runs.final, step, call, observe, closeAt, advanceTo, newLive, account_self, record,
    markEvidenceAvailable, latestSourceAt, bind, Except.bind]

/-- The same ride, paused and resumed. -/
theorem paused_ride_reads_back :
    fromStateParts ((newLive 0).run [.observe ⟨.vehicle, some 0, 0, 0⟩, .closeAt 0, .resumeAt 5]).stateParts =
      .ok ((newLive 0).run [.observe ⟨.vehicle, some 0, 0, 0⟩, .closeAt 0, .resumeAt 5]) := by
  refine (stored_moving_time_reads_back_iff (.live 0) _).mpr ?_ _ [] (List.append_nil _).symm
  intro here member reopens
  obtain ⟨-, complete, observation, observed, -⟩ := reopens
  simp only [Runs.history, Runs.take, List.mem_cons, List.not_mem_nil, or_false] at member
  rcases member with rfl | rfl | rfl
  · cases complete
  · cases observed
  · cases observed

/-- An observation behind the close leaves complete coverage with an incomplete history, which the
reader refuses. -/
theorem reopened_ride_is_unreadable :
    fromStateParts ((newLive 0).run
        [.observe ⟨.vehicle, some 0, 0, 0⟩, .closeAt 0, .observe ⟨.vehicle, some 0, 1, 1⟩]).stateParts =
      .error .invalidState := by
  have split : ([.observe ⟨.vehicle, some 0, 0, 0⟩, .closeAt 0, .observe ⟨.vehicle, some 0, 1, 1⟩] : List MovingTimeCall) =
      [.observe ⟨.vehicle, some 0, 0, 0⟩, .closeAt 0] ++ [.observe ⟨.vehicle, some 0, 1, 1⟩] := rfl
  rw [split, run, Runs.final_append]
  have closed := standstill_closed
  rw [run] at closed
  rw [closed]
  decide

end MovingTimeContinuation

end Cutout.Rides

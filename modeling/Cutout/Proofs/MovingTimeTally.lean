import Cutout.Proofs.MovingTime
import Cutout.Library.Tally

/-! The intervals of moving time against single milliseconds. The loop of `advance_to` cuts the
time at the expiry of the sources; each interval counts what every millisecond in it would. -/

namespace Cutout.Rides
open Library
open Protocols (saturatingAdd u64Max isMoving)

namespace MovingTimeStateParts
variable {time : Nat}
variable {stored : Option MovingTimeSourceStateParts}

def movingAt (parts : MovingTimeStateParts) (time : Nat) : Bool :=
  (parts.selectedSourceAt time).any fun source => isMoving source.speed

def observedAt (parts : MovingTimeStateParts) (time : Nat) : Bool := (parts.selectedSourceAt time).isSome

def unknownAt (parts : MovingTimeStateParts) (time : Nat) : Bool := !parts.observedAt time

/-- The totals with every millisecond from `cursor` on and before `at_` added. -/
def counted (parts : MovingTimeStateParts) (cursor at_ : Nat) : MovingTimeStateParts :=
  { parts with
    moving := parts.moving + tally parts.movingAt cursor at_
    observed := parts.observed + tally parts.observedAt cursor at_
    unknown := parts.unknown + tally parts.unknownAt cursor at_
    availability := if 0 < tally parts.unknownAt cursor at_ then .partially else parts.availability }

def Behind (parts : MovingTimeStateParts) (cursor : Nat) : Prop :=
  ∀ source, parts.phoneGps = some source ∨ parts.vehicle = some source → source.sourceAt ≤ cursor

variable {parts : MovingTimeStateParts} {cursor middle at_ : Nat} {source : MovingTimeSourceStateParts}

@[simp] theorem counted_self (parts : MovingTimeStateParts) (cursor : Nat) : parts.counted cursor cursor = parts := by
  simp [counted]

private theorem counted_movingAt : (parts.counted cursor middle).movingAt = parts.movingAt := rfl

private theorem counted_observedAt : (parts.counted cursor middle).observedAt = parts.observedAt := rfl

private theorem counted_unknownAt : (parts.counted cursor middle).unknownAt = parts.unknownAt := rfl

theorem counted_counted (early : cursor ≤ middle) (late : middle ≤ at_) :
    (parts.counted cursor middle).counted middle at_ = parts.counted cursor at_ := by
  have moving := tally_split parts.movingAt early late
  have observed := tally_split parts.observedAt early late
  have unknown := tally_split parts.unknownAt early late
  rw [counted, counted_movingAt, counted_observedAt, counted_unknownAt]
  unfold counted
  rw [moving, observed, unknown]
  simp only [Nat.add_assoc, MovingTimeStateParts.mk.injEq, true_and, and_true]
  by_cases gap : 0 < tally parts.unknownAt middle at_
  · rw [if_pos gap, if_pos (by omega)]
  · rw [if_neg gap]
    have same : tally parts.unknownAt cursor middle + tally parts.unknownAt middle at_ =
        tally parts.unknownAt cursor middle := by omega
    rw [same]

theorem counted_total : (parts.counted cursor at_).observed + (parts.counted cursor at_).unknown =
    parts.observed + parts.unknown + (at_ - cursor) := by
  have every := tally_add_not parts.observedAt cursor at_
  have unknown : (parts.counted cursor at_).unknown =
    parts.unknown + tally (fun time => !parts.observedAt time) cursor at_ := rfl
  have observed : (parts.counted cursor at_).observed = parts.observed + tally parts.observedAt cursor at_ := rfl
  omega

private theorem movingAt_observedAt (time : Nat) (moving : parts.movingAt time = true) : parts.observedAt time = true := by
  obtain ⟨source, selected, -⟩ := (Option.any_eq_true _ _).mp moving
  rw [observedAt, selected, Option.isSome_some]

theorem counted_moving (below : parts.moving ≤ parts.observed) :
    (parts.counted cursor at_).moving ≤ (parts.counted cursor at_).observed := by
  have fewer : tally parts.movingAt cursor at_ ≤ tally parts.observedAt cursor at_ := tally_le movingAt_observedAt
  have moving : (parts.counted cursor at_).moving = parts.moving + tally parts.movingAt cursor at_ := rfl
  have observed : (parts.counted cursor at_).observed = parts.observed + tally parts.observedAt cursor at_ := rfl
  omega

theorem freshAt_iff : source.freshAt time = true ↔
    source.sourceAt ≤ time ∧ time < source.sourceAt + telemetryFreshnessMilliseconds := by
  rw [MovingTimeSourceStateParts.freshAt, decide_eq_true_iff]
  omega

/-- A source behind the cursor that is not fresh there never is again. -/
theorem stale_later (behind : source.sourceAt ≤ cursor) (later : cursor ≤ time)
    (stale : source.freshAt cursor = false) : source.freshAt time = false := by
  rw [Bool.eq_false_iff, ne_eq, freshAt_iff] at stale ⊢
  omega

theorem filter_stale_later (behind : ∀ source, stored = some source → source.sourceAt ≤ cursor)
    (later : cursor ≤ time) (stale : (stored.filter fun source => source.freshAt cursor) = none) :
    (stored.filter fun source => source.freshAt time) = none := by
  cases stored with
  | none => rfl
  | some source =>
    rw [Option.filter_some] at stale ⊢
    split at stale
    · cases stale
    · next expired => rw [stale_later (behind source rfl) later (Bool.eq_false_iff.mpr expired), if_neg nofun]

theorem filter_fresh (selected : (stored.filter fun source => source.freshAt time) = some source) :
    stored = some source ∧ source.freshAt time = true := Option.filter_eq_some_iff.mp selected

private theorem selectedSourceAt_until (behind : parts.Behind cursor) (selected : parts.selectedSourceAt cursor = some source)
    (later : cursor ≤ time) (fresh : time < source.expiresAt) : parts.selectedSourceAt time = some source := by
  have still (here : source.freshAt cursor = true) : source.freshAt time = true := by
    rw [freshAt_iff] at here ⊢
    rw [MovingTimeSourceStateParts.expiresAt, saturatingAdd] at fresh
    omega
  cases wheel : parts.vehicle.filter fun source => source.freshAt cursor with
  | some vehicle =>
    rw [selectedSourceAt, wheel] at selected
    cases selected
    obtain ⟨stored, here⟩ := filter_fresh wheel
    have kept : (parts.vehicle.filter fun source => source.freshAt time) = some source :=
      Option.filter_eq_some_iff.mpr ⟨stored, still here⟩
    rw [selectedSourceAt, kept]
    rfl
  | none =>
    rw [selectedSourceAt, wheel] at selected
    obtain ⟨stored, here⟩ := filter_fresh selected
    have gone := filter_stale_later (fun source known => behind source (.inr known)) later wheel
    have kept : (parts.phoneGps.filter fun source => source.freshAt time) = some source :=
      Option.filter_eq_some_iff.mpr ⟨stored, still here⟩
    rw [selectedSourceAt, gone, kept]
    rfl

private theorem selectedSourceAt_none_later (behind : parts.Behind cursor) (selected : parts.selectedSourceAt cursor = none)
    (later : cursor ≤ time) : parts.selectedSourceAt time = none := by
  cases wheel : parts.vehicle.filter fun source => source.freshAt cursor with
  | some vehicle =>
    rw [selectedSourceAt, wheel] at selected
    cases selected
  | none =>
    rw [selectedSourceAt, wheel] at selected
    have gone := filter_stale_later (fun source known => behind source (.inr known)) later wheel
    have lost := filter_stale_later (fun source known => behind source (.inl known)) later selected
    rw [selectedSourceAt, gone, lost]
    rfl

/-- A selected source expires behind the cursor, also near the end of the clock. -/
theorem expiresAt_later (selected : parts.selectedSourceAt cursor = some source) (before : cursor < at_)
    (bounded : at_ ≤ u64Max) : cursor < source.expiresAt := by
  have fresh : source.freshAt cursor = true := by
    cases wheel : parts.vehicle.filter fun source => source.freshAt cursor with
    | some vehicle =>
      rw [selectedSourceAt, wheel] at selected
      cases selected
      exact (filter_fresh wheel).2
    | none =>
      rw [selectedSourceAt, wheel] at selected
      exact (filter_fresh selected).2
  rw [freshAt_iff] at fresh
  rw [MovingTimeSourceStateParts.expiresAt, saturatingAdd]
  omega

/-- Where no source is selected at the cursor, none is about to expire. -/
theorem nextExpiration_eq_none (behind : parts.Behind cursor) (selected : parts.selectedSourceAt cursor = none) :
    parts.nextExpiration cursor = none := by
  cases next : parts.nextExpiration cursor with
  | none => rfl
  | some expiry =>
    have member := List.mem_filter.mp (List.min?_mem next)
    obtain ⟨source, stored, rfl⟩ := List.mem_map.mp member.1
    have later : cursor < source.expiresAt := by simpa using member.2
    have known : parts.phoneGps = some source ∨ parts.vehicle = some source := by simpa using stored
    have fresh : source.freshAt cursor = true := by
      rw [freshAt_iff]
      rw [MovingTimeSourceStateParts.expiresAt, saturatingAdd] at later
      have := behind source known
      omega
    rcases known with phone | vehicle
    · simp [selectedSourceAt, phone, fresh] at selected
    · simp [selectedSourceAt, vehicle, fresh] at selected

def total (parts : MovingTimeStateParts) (cursor at_ : Nat) : Except MovingTimeError MovingTimeStateParts :=
  if u64Max < parts.observed + parts.unknown + (at_ - cursor) then .error .durationOverflow
  else .ok (parts.counted cursor at_)

private theorem addObservedInterval_eq (below : parts.moving ≤ parts.observed)
    (selected : ∀ time, cursor ≤ time → time < middle → parts.selectedSourceAt time = some source) :
    parts.addObservedInterval (middle - cursor) (isMoving source.speed) = parts.total cursor middle := by
  have observed : tally parts.observedAt cursor middle = middle - cursor := by
    apply tally_all
    intro time from_ before
    rw [observedAt, selected time from_ before, Option.isSome_some]
  have unknown : tally parts.unknownAt cursor middle = 0 := by
    apply tally_none
    intro time from_ before
    rw [unknownAt, observedAt, selected time from_ before, Option.isSome_some, Bool.not_true]
  have moving : tally parts.movingAt cursor middle = if isMoving source.speed then middle - cursor else 0 := by
    split
    · next moves =>
      apply tally_all
      intro time from_ before
      rw [movingAt, selected time from_ before, Option.any_some, moves]
    · next stands =>
      apply tally_none
      intro time from_ before
      rw [movingAt, selected time from_ before, Option.any_some, Bool.eq_false_iff.mpr stands]
  rw [total, counted, observed, unknown, moving, addObservedInterval]
  by_cases overflow : u64Max < parts.observed + parts.unknown + (middle - cursor)
  · rw [if_pos overflow, if_pos (show u64Max < parts.observed + (middle - cursor) + parts.unknown by omega), ite_self]
  · rw [if_neg overflow, if_neg (by omega), if_neg (by omega)]
    cases isMoving source.speed with
    | true =>
      rw [if_pos rfl, if_neg (by omega)]
      simp
    | false => simp

private theorem addUnknownInterval_eq (early : cursor < middle)
    (selected : ∀ time, cursor ≤ time → time < middle → parts.selectedSourceAt time = none) :
    parts.addUnknownInterval (middle - cursor) = parts.total cursor middle := by
  have observed : tally parts.observedAt cursor middle = 0 := by
    apply tally_none
    intro time from_ before
    rw [observedAt, selected time from_ before, Option.isSome_none]
  have unknown : tally parts.unknownAt cursor middle = middle - cursor := by
    apply tally_all
    intro time from_ before
    rw [unknownAt, observedAt, selected time from_ before, Option.isSome_none, Bool.not_false]
  have moving : tally parts.movingAt cursor middle = 0 := by
    apply tally_none
    intro time from_ before
    rw [movingAt, selected time from_ before, Option.any_none]
  rw [total, counted, observed, unknown, moving, addUnknownInterval]
  by_cases overflow : u64Max < parts.observed + parts.unknown + (middle - cursor)
  · rw [if_pos overflow, if_pos (show u64Max < parts.observed + (parts.unknown + (middle - cursor)) by omega), ite_self]
  · rw [if_neg overflow, if_neg (by omega), if_neg (by omega), if_pos (by omega)]
    rfl

/-- Counting to `middle` and on from there. -/
theorem total_bind (early : cursor ≤ middle) (late : middle ≤ at_) :
    (parts.total cursor middle >>= fun counted => counted.total middle at_) = parts.total cursor at_ := by
  have sum := @counted_total parts cursor middle
  unfold total
  by_cases overflow : u64Max < parts.observed + parts.unknown + (middle - cursor)
  · rw [if_pos overflow, if_pos (by omega)]
    rfl
  · rw [if_neg overflow]
    show (if u64Max < (parts.counted cursor middle).observed + (parts.counted cursor middle).unknown + (at_ - middle)
      then _ else _) = _
    rw [sum, counted_counted early late, Nat.add_assoc, Nat.add_comm (middle - cursor),
      Nat.sub_add_sub_cancel late early]

theorem total_ok {answer : MovingTimeStateParts} (behind : parts.Behind cursor) (below : parts.moving ≤ parts.observed)
    (early : cursor ≤ middle) (answered : parts.total cursor middle = .ok answer) :
    answer.Behind middle ∧ answer.moving ≤ answer.observed ∧ answer.observed + answer.unknown ≤ u64Max := by
  unfold total at answered
  split at answered
  · cases answered
  · next fits =>
    cases answered
    refine ⟨fun source known => (behind source known).trans early, counted_moving below, ?_⟩
    rw [counted_total]
    exact Nat.not_lt.mp fits

/-- The rest of the loop, where it answers for the rest of the time. -/
theorem total_account (early : cursor ≤ middle) (late : middle ≤ at_)
    (rest : ∀ answer, parts.total cursor middle = .ok answer → answer.account middle at_ = answer.total middle at_) :
    (parts.total cursor middle >>= fun answer => answer.account middle at_) = parts.total cursor at_ := by
  rw [← total_bind early late]
  cases answered : parts.total cursor middle with
  | error => rfl
  | ok answer => exact rest answer answered

/-- The loop answers for every millisecond of the time it covers. -/
theorem account_eq_total (behind : parts.Behind cursor) (below : parts.moving ≤ parts.observed)
    (sum : parts.observed + parts.unknown ≤ u64Max) (later : cursor ≤ at_) (bounded : at_ ≤ u64Max) :
    parts.account cursor at_ = parts.total cursor at_ := by
  induction parts, cursor using account.induct at_ with
  | case1 parts cursor before source selected fresh ih =>
    rw [account, if_pos before, selected]
    dsimp only
    rw [if_pos fresh, addObservedInterval_eq below
      fun time from_ before => selectedSourceAt_until behind selected from_ (lt_min_iff.mp before).2]
    apply total_account fresh.le (Nat.min_le_left _ _)
    intro counted answered
    obtain ⟨kept, fewer, fits⟩ := total_ok behind below fresh.le answered
    exact ih counted kept fewer fits (Nat.min_le_left _ _)
  | case2 parts cursor before source selected stale ih =>
    have := expiresAt_later selected before bounded
    omega
  | case3 parts cursor before unselected expiry next ih =>
    cases next.symm.trans (nextExpiration_eq_none behind unselected)
  | case4 parts cursor before unselected next ih =>
    rw [account, if_pos before, unselected]
    dsimp only
    split
    · next found => cases next.symm.trans found
    · rw [addUnknownInterval_eq before fun time from_ _ => selectedSourceAt_none_later behind unselected from_]
      apply total_account before.le le_rfl
      intro counted answered
      obtain ⟨kept, fewer, fits⟩ := total_ok behind below before.le answered
      exact ih counted kept fewer fits le_rfl
  | case5 parts cursor done =>
    have same : cursor = at_ := by omega
    rw [account, if_neg done, total, same, Nat.sub_self, Nat.add_zero, if_neg (Nat.not_lt.mpr sum), counted_self]

theorem Regular.behind (regular : Regular parts) (known : parts.cursor = some cursor) :
    parts.Behind cursor := by
  intro source stored
  have ordered : ∃ latest, Ordered parts.cursor (some source) latest := by
    rcases stored with phone | vehicle
    · exact ⟨_, phone ▸ regular.phoneGps⟩
    · exact ⟨_, vehicle ▸ regular.vehicle⟩
  obtain ⟨latest, ordered⟩ := ordered
  obtain ⟨last, seen, before⟩ := ordered.source source rfl
  obtain ⟨now, same, reached⟩ := ordered.latest last seen
  cases known.symm.trans same
  exact before.trans reached

end MovingTimeStateParts

namespace MovingTimeContinuation
open MovingTimeStateParts
variable {error : MovingTimeError}
variable (parts : MovingTimeStateParts)

variable {state moved : MovingTimeContinuation} {observation one two : MovingTimeObservation} {cursor middle at_ : Nat}

/-- Advancing answers for every millisecond it passes, or overflows. -/
theorem advanceTo_eq (regular : Regular state.parts) (known : state.parts.cursor = some cursor)
    (later : cursor ≤ at_) (bounded : at_ ≤ u64Max) : state.advanceTo at_ =
      if u64Max < state.parts.observed + state.parts.unknown + (at_ - cursor) then .error .durationOverflow
      else .ok ⟨{ state.parts.counted cursor at_ with cursor := some at_ }⟩ := by
  rw [advanceTo, known]
  dsimp only
  rw [if_neg (Nat.not_lt.mpr later), account_eq_total (regular.behind known) regular.covered.moving
    regular.covered.total later bounded, total]
  split <;> rfl

private theorem advanceTo_twice (regular : Regular state.parts) (known : state.parts.cursor = some cursor)
    (early : cursor ≤ middle) (late : middle ≤ at_) (bounded : at_ ≤ u64Max) :
    (state.advanceTo middle >>= fun moved => moved.advanceTo at_) = state.advanceTo at_ := by
  rw [advanceTo_eq regular known (early.trans late) bounded]
  cases first : state.advanceTo middle with
  | error error =>
    rw [advanceTo_eq regular known early (late.trans bounded)] at first
    split at first
    · next overflow =>
      cases first
      rw [if_pos (by omega)]
      rfl
    · cases first
  | ok moved =>
    have kept := (advanceTo_reached regular first).regular
    have reached := (advanceTo_reached regular first).cursor
    show moved.advanceTo at_ = _
    rw [advanceTo_eq kept reached late bounded]
    rw [advanceTo_eq regular known early (late.trans bounded)] at first
    split at first
    · cases first
    · cases first
      have sum := @counted_total state.parts cursor middle
      have whole : (state.parts.counted cursor middle).observed + (state.parts.counted cursor middle).unknown +
          (at_ - middle) = state.parts.observed + state.parts.unknown + (at_ - cursor) := by omega
      dsimp only
      rw [whole, ← counted_counted early late]
      rfl

def refusal (latest : Option Nat) (observation : MovingTimeObservation) : Option MovingTimeError :=
  if observation.receiptAt < observation.sourceAt then some .receiptBeforeSource
  else if observation.speed.isSome = true ∧
      telemetryFreshnessMilliseconds < observation.receiptAt - observation.sourceAt then some .staleAtReceipt
  else if observation.source = .vehicle ∧ observation.speed = none then some .missingVehicleSpeed
  else if observation.source = .phoneGps ∧ (observation.speed.any fun speed => decide (speed < 0)) = true then
    some .invalidPhoneGpsSpeed
  else if (latest.any fun latest => decide (observation.sourceAt ≤ latest)) = true then some .sourceTimestampNotNewer
  else none

def evidence (parts : MovingTimeStateParts) (observation : MovingTimeObservation) : MovingTimeStateParts :=
  match observation.source, observation.speed with
  | .phoneGps, some speed => markEvidenceAvailable
      { parts with latestPhoneGpsSource := some observation.sourceAt, phoneGps := some ⟨speed, observation.sourceAt⟩ }
  | .phoneGps, none => { parts with latestPhoneGpsSource := some observation.sourceAt }
  | .vehicle, some speed => markEvidenceAvailable
      { parts with latestVehicleSource := some observation.sourceAt, vehicle := some ⟨speed, observation.sourceAt⟩ }
  | .vehicle, none => parts

/-- An observation that is not refused advances to its receipt and records its evidence. -/
theorem observe_eq : state.observe observation =
    match refusal (state.latestSourceAt observation.source) observation with
    | some error => .error error
    | none => (state.advanceTo observation.receiptAt).map fun moved => ⟨evidence moved.parts observation⟩ := by
  unfold observe refusal
  split_ifs with causal stale silent negative repeated
  · rfl
  · rfl
  · rfl
  · rfl
  · rfl
  · cases advanced : state.advanceTo observation.receiptAt with
    | error => rfl
    | ok moved =>
      have history : (if state.parts.cursor.isSome then moved.parts else { moved.parts with incompleteHistory := true }) =
          moved.parts := by
        cases known : state.parts.cursor with
        | some cursor => rfl
        | none =>
          rw [advanceTo, known] at advanced
          cases advanced
          rfl
      show (record (if state.parts.cursor.isSome then moved.parts else { moved.parts with incompleteHistory := true })
        observation >>= fun parts => Except.ok (MovingTimeContinuation.mk parts)) = _
      rw [history]
      unfold record
      dsimp only [Except.map, evidence]
      cases source : observation.source with
      | phoneGps =>
        cases observation.speed with
        | none | some => rfl
      | vehicle =>
        cases spoken : observation.speed with
        | none => exact absurd ⟨source, spoken⟩ silent
        | some speed => rfl

theorem step_refused (refused : refusal (state.latestSourceAt observation.source) observation = some error) :
    state.step (.observe observation) = (state, some error) := by
  rw [step, call, observe_eq, refused]

private theorem step_stuck (fine : refusal (state.latestSourceAt observation.source) observation = none)
    (stuck : state.advanceTo observation.receiptAt = .error error) :
    state.step (.observe observation) = (state, some error) := by
  rw [step, call, observe_eq, fine, stuck]
  rfl

theorem step_taken (fine : refusal (state.latestSourceAt observation.source) observation = none)
    (advanced : state.advanceTo observation.receiptAt = .ok moved) :
    state.step (.observe observation) = (⟨evidence moved.parts observation⟩, none) := by
  rw [step, call, observe_eq, fine, advanced]
  rfl

private theorem advanceTo_self (known : state.parts.cursor = some cursor) : state.advanceTo cursor = .ok state := by
  rw [advanceTo, known]
  dsimp only
  rw [if_neg (Nat.lt_irrefl cursor), account_self]
  show Except.ok (MovingTimeContinuation.mk { state.parts with cursor := some cursor }) = _
  rw [← known]

/-- Advancing moves the cursor and leaves the order of the callbacks alone. -/
theorem advanceTo_kept (advanced : state.advanceTo at_ = .ok moved) :
    moved.parts.cursor = some at_ ∧ ∀ source, moved.latestSourceAt source = state.latestSourceAt source := by
  unfold advanceTo at advanced
  split at advanced
  · cases advanced
    refine ⟨rfl, ?_⟩
    intro source
    cases source <;> rfl
  · split at advanced
    · cases advanced
    · obtain ⟨counted, accounted, same⟩ := ok_bind advanced
      cases same
      have kept := account_advanced accounted
      refine ⟨rfl, ?_⟩
      intro source
      cases source with
      | phoneGps => exact kept.latestPhoneGpsSource
      | vehicle => exact kept.latestVehicleSource

private theorem evidence_cursor (observation : MovingTimeObservation) :
    (evidence parts observation).cursor = parts.cursor := by
  unfold evidence
  split
  · exact (markEvidenceAvailable_evidence _).1
  · rfl
  · exact (markEvidenceAvailable_evidence _).1
  · rfl

private theorem evidence_latest {source : MovingTimeSource} (other : observation.source ≠ source) :
    latestSourceAt ⟨evidence parts observation⟩ source = latestSourceAt ⟨parts⟩ source := by
  unfold evidence
  cases from_ : observation.source with
  | phoneGps =>
    cases source with
    | phoneGps => exact absurd from_ other
    | vehicle =>
      cases observation.speed with
      | none => rfl
      | some speed => exact (markEvidenceAvailable_evidence _).2.2.2.2
  | vehicle =>
    cases source with
    | vehicle => exact absurd from_ other
    | phoneGps =>
      cases observation.speed with
      | none => rfl
      | some speed => exact (markEvidenceAvailable_evidence _).2.2.2.1

theorem evidence_comm_of (phone : one.source = .phoneGps) (vehicle : two.source = .vehicle) :
    evidence (evidence parts one) two = evidence (evidence parts two) one := by
  unfold evidence
  rw [phone, vehicle]
  cases one.speed with
  | none =>
    cases two.speed with
    | none => rfl
    | some speed =>
      unfold markEvidenceAvailable
      dsimp only
      split <;> rfl
  | some reported =>
    cases two.speed with
    | none => rfl
    | some speed =>
      unfold markEvidenceAvailable
      by_cases absent : parts.availability = .unavailable
      · by_cases gap : parts.incompleteHistory = true ∨ 0 < parts.unknown
        · simp [absent, gap]
        · simp [absent, gap]
      · simp [absent]

private theorem evidence_comm (different : one.source ≠ two.source) :
    evidence (evidence parts one) two = evidence (evidence parts two) one := by
  cases first : one.source with
  | phoneGps =>
    cases second : two.source with
    | phoneGps => exact absurd (first.trans second.symm) different
    | vehicle => exact evidence_comm_of parts first second
  | vehicle =>
    cases second : two.source with
    | phoneGps => exact (evidence_comm_of parts second first).symm
    | vehicle => exact absurd (first.trans second.symm) different

def observedInTurn (state : MovingTimeContinuation) (one two : MovingTimeObservation) :
    MovingTimeContinuation × Option MovingTimeError × Option MovingTimeError :=
  let first := state.step (.observe one)
  let second := first.1.step (.observe two)
  (second.1, first.2, second.2)

theorem observedInTurn_stuck (receipt : one.receiptAt = two.receiptAt)
    (stuck : state.advanceTo one.receiptAt = .error error) :
    state.observedInTurn one two = (state, some ((refusal (state.latestSourceAt one.source) one).getD error),
      some ((refusal (state.latestSourceAt two.source) two).getD error)) := by
  have left (observation : MovingTimeObservation) (same : observation.receiptAt = one.receiptAt) :
      state.step (.observe observation) =
        (state, some ((refusal (state.latestSourceAt observation.source) observation).getD error)) := by
    cases answer : refusal (state.latestSourceAt observation.source) observation with
    | some reason => exact step_refused answer
    | none => exact step_stuck answer (same ▸ stuck)
  rw [observedInTurn, left one rfl]
  dsimp only
  rw [left two receipt.symm]

/-- An observation of one source leaves the other source's callbacks as they were. -/
theorem taken_latest (different : one.source ≠ two.source) (advanced : state.advanceTo at_ = .ok moved) :
    latestSourceAt ⟨evidence moved.parts one⟩ two.source = state.latestSourceAt two.source :=
  (evidence_latest moved.parts different).trans ((advanceTo_kept advanced).2 two.source)

theorem observedInTurn_first (different : one.source ≠ two.source)
    (advanced : state.advanceTo one.receiptAt = .ok moved)
    (fine : refusal (state.latestSourceAt one.source) one = none)
    (refused : refusal (state.latestSourceAt two.source) two = some error) :
    state.observedInTurn one two = (⟨evidence moved.parts one⟩, none, some error) := by
  have again : refusal (latestSourceAt ⟨evidence moved.parts one⟩ two.source) two = some error := by
    rw [taken_latest different advanced, refused]
  rw [observedInTurn, step_taken fine advanced]
  dsimp only
  rw [step_refused again]

theorem observedInTurn_second (receipt : one.receiptAt = two.receiptAt)
    (advanced : state.advanceTo one.receiptAt = .ok moved)
    (refused : refusal (state.latestSourceAt one.source) one = some error)
    (fine : refusal (state.latestSourceAt two.source) two = none) :
    state.observedInTurn one two = (⟨evidence moved.parts two⟩, some error, none) := by
  rw [observedInTurn, step_refused refused]
  dsimp only
  rw [step_taken fine (receipt ▸ advanced)]

theorem observedInTurn_both (receipt : one.receiptAt = two.receiptAt) (different : one.source ≠ two.source)
    (advanced : state.advanceTo one.receiptAt = .ok moved) (first : refusal (state.latestSourceAt one.source) one = none)
    (second : refusal (state.latestSourceAt two.source) two = none) :
    state.observedInTurn one two = (⟨evidence (evidence moved.parts one) two⟩, none, none) := by
  have there : (evidence moved.parts one).cursor = some two.receiptAt := by
    rw [evidence_cursor, (advanceTo_kept advanced).1, receipt]
  have again : refusal (latestSourceAt ⟨evidence moved.parts one⟩ two.source) two = none := by
    rw [taken_latest different advanced, second]
  rw [observedInTurn, step_taken first advanced]
  dsimp only
  rw [step_taken again (advanceTo_self there)]

/-- Observations of different sources with one receipt may come in either order. -/
theorem observedInTurn_swap (receipt : one.receiptAt = two.receiptAt) (different : one.source ≠ two.source) :
    (state.observedInTurn one two).1 = (state.observedInTurn two one).1 ∧
      (state.observedInTurn one two).2 = (state.observedInTurn two one).2.swap := by
  cases advanced : state.advanceTo one.receiptAt with
  | error error =>
    rw [observedInTurn_stuck receipt advanced, observedInTurn_stuck receipt.symm (receipt ▸ advanced)]
    exact ⟨rfl, rfl⟩
  | ok moved =>
    have swapped : state.advanceTo two.receiptAt = .ok moved := receipt ▸ advanced
    cases first : refusal (state.latestSourceAt one.source) one with
    | some error =>
      cases second : refusal (state.latestSourceAt two.source) two with
      | some other =>
        simp [observedInTurn, step_refused first, step_refused second]
      | none =>
        rw [observedInTurn_second receipt advanced first second,
          observedInTurn_first different.symm swapped second first]
        exact ⟨rfl, rfl⟩
    | none =>
      cases second : refusal (state.latestSourceAt two.source) two with
      | some error =>
        rw [observedInTurn_first different advanced first second,
          observedInTurn_second receipt.symm swapped second first]
        exact ⟨rfl, rfl⟩
      | none =>
        rw [observedInTurn_both receipt different advanced first second,
          observedInTurn_both receipt.symm different.symm swapped second first, evidence_comm moved.parts different]
        exact ⟨rfl, rfl⟩

/-- The totals have grown by what the milliseconds from `cursor` to `at_` were. -/
structure Exact (before : MovingTimeStateParts) (cursor at_ : Nat) (after : MovingTimeSummary) : Prop where
  moving : after.moving = before.moving + tally before.movingAt cursor at_
  observed : after.observed = before.observed + tally before.observedAt cursor at_
  unknown : after.unknown = before.unknown + tally before.unknownAt cursor at_
  grown : after.observed + after.unknown = before.observed + before.unknown + (at_ - cursor)
  below : after.moving ≤ after.observed

theorem counted_exact {parts : MovingTimeStateParts} (below : parts.moving ≤ parts.observed) {after : MovingTimeSummary}
    (moving : after.moving = (parts.counted cursor at_).moving)
    (observed : after.observed = (parts.counted cursor at_).observed)
    (unknown : after.unknown = (parts.counted cursor at_).unknown) : Exact parts cursor at_ after := by
  refine ⟨moving, observed, unknown, ?_, ?_⟩
  · rw [observed, unknown, counted_total]
  · rw [moving, observed]
    exact counted_moving below

private theorem evidence_totals (observation : MovingTimeObservation) :
    (evidence parts observation).moving = parts.moving ∧ (evidence parts observation).observed = parts.observed ∧
      (evidence parts observation).unknown = parts.unknown := by
  unfold evidence markEvidenceAvailable
  repeat' split
  all_goals exact ⟨rfl, rfl, rfl⟩

section Advancing
variable (regular : Regular state.parts) (known : state.parts.cursor = some cursor) (later : cursor ≤ at_)
  (bounded : at_ ≤ u64Max) (fits : state.parts.observed + state.parts.unknown + (at_ - cursor) ≤ u64Max)
include regular known later bounded fits

theorem advanceTo_ok : state.advanceTo at_ = .ok ⟨{ state.parts.counted cursor at_ with cursor := some at_ }⟩ := by
  rw [advanceTo_eq regular known later bounded, if_neg (Nat.not_lt.mpr fits)]

private theorem advanceTo_exact : ∃ next, state.advanceTo at_ = .ok next ∧ Exact state.parts cursor at_ next.summary :=
  ⟨_, advanceTo_ok regular known later bounded fits, counted_exact regular.covered.moving rfl rfl rfl⟩

private theorem closeAt_exact : ∃ next, state.closeAt at_ = .ok next ∧ Exact state.parts cursor at_ next.summary := by
  rw [closeAt, if_neg (by simp [known]), advanceTo_ok regular known later bounded fits]
  exact ⟨_, rfl, counted_exact regular.covered.moving rfl rfl rfl⟩

private theorem projectedAt_exact : Exact state.parts cursor at_ (state.projectedAt at_) := by
  have reached : ¬ (state.parts.cursor.any fun cursor => decide (at_ < cursor)) = true := by
    rw [known, Option.any_some, decide_eq_true_iff]
    exact Nat.not_lt.mpr later
  rw [projectedAt, if_neg reached, advanceTo_ok regular known later bounded fits]
  exact counted_exact regular.covered.moving rfl rfl rfl

/-- Only an observation that is refused whatever the cursor is fails. -/
theorem observe_exact (receipt : observation.receiptAt = at_) :
    (∃ error, refusal (state.latestSourceAt observation.source) observation = some error ∧
      state.observe observation = .error error) ∨
    ∃ next, state.observe observation = .ok next ∧ Exact state.parts cursor at_ next.summary := by
  rw [observe_eq]
  cases answer : refusal (state.latestSourceAt observation.source) observation with
  | some error => exact .inl ⟨error, rfl, rfl⟩
  | none =>
    rw [receipt, advanceTo_ok regular known later bounded fits]
    refine .inr ⟨_, rfl, ?_⟩
    obtain ⟨moving, observed, unknown⟩ :=
      evidence_totals { state.parts.counted cursor at_ with cursor := some at_ } observation
    exact counted_exact regular.covered.moving moving observed unknown

end Advancing

/-- Moving time is exact to the millisecond: what is advanced over is counted as the selected source
says, however the way there is cut; observations of different sources commute, and a failing call
changes nothing. -/
theorem moving_time_is_exact :
    (∀ (state : MovingTimeContinuation) (cursor at_ : Nat), fromStateParts state.stateParts = .ok state →
      state.parts.cursor = some cursor → cursor ≤ at_ → at_ ≤ u64Max →
      (state.parts.observed + state.parts.unknown + (at_ - cursor) ≤ u64Max →
        (∃ next, state.advanceTo at_ = .ok next ∧ Exact state.parts cursor at_ next.summary) ∧
        (∃ next, state.closeAt at_ = .ok next ∧ Exact state.parts cursor at_ next.summary) ∧
        Exact state.parts cursor at_ (state.projectedAt at_) ∧
        ∀ observation, observation.receiptAt = at_ →
          (∃ error, refusal (state.latestSourceAt observation.source) observation = some error ∧
            state.observe observation = .error error) ∨
          ∃ next, state.observe observation = .ok next ∧ Exact state.parts cursor at_ next.summary) ∧
      (u64Max < state.parts.observed + state.parts.unknown + (at_ - cursor) →
        state.advanceTo at_ = .error .durationOverflow) ∧
      ∀ middle, cursor ≤ middle → middle ≤ at_ →
        (state.advanceTo middle >>= fun moved => moved.advanceTo at_) = state.advanceTo at_) ∧
    (∀ (state : MovingTimeContinuation) (calls : List MovingTimeCall), fromStateParts state.stateParts = .ok state →
      (state.run calls).parts.moving ≤ (state.run calls).parts.observed) ∧
    (∀ (state : MovingTimeContinuation) (one two : MovingTimeObservation), one.receiptAt = two.receiptAt →
      one.source ≠ two.source → (state.observedInTurn one two).1 = (state.observedInTurn two one).1 ∧
        (state.observedInTurn one two).2 = (state.observedInTurn two one).2.swap) ∧
    ∀ (state : MovingTimeContinuation) (call : MovingTimeCall) (error : MovingTimeError),
      (state.step call).2 = some error → (state.step call).1 = state := by
  refine ⟨?_, ?_, ?_, ?_⟩
  · intro state cursor at_ valid known later bounded
    obtain ⟨regular, -⟩ := fromStateParts_iff.mp valid
    refine ⟨?_, ?_, ?_⟩
    · intro fits
      refine ⟨advanceTo_exact regular known later bounded fits, closeAt_exact regular known later bounded fits,
        projectedAt_exact regular known later bounded fits, ?_⟩
      intro observation receipt
      exact observe_exact regular known later bounded fits receipt
    · intro overflow
      rw [advanceTo_eq regular known later bounded, if_pos overflow]
    · intro middle early late
      exact advanceTo_twice regular known early late bounded
  · intro state calls valid
    obtain ⟨regular, -⟩ := fromStateParts_iff.mp valid
    exact (regular_run regular calls).covered.moving
  · intro state one two receipt different
    exact observedInTurn_swap receipt different
  · intro state call error failed
    unfold step at failed ⊢
    split at failed
    · cases failed
    · rfl

/-- A standing wheel outranks a moving phone until its evidence expires. -/
def wheelThenPhone : MovingTimeContinuation := ⟨{
  cursor := some 1000
  phoneGps := some ⟨2000, 900⟩
  vehicle := some ⟨0, 500⟩
  latestPhoneGpsSource := some 900
  latestVehicleSource := some 500
  availability := .complete
  incompleteHistory := false }⟩

/-- 2500 to 2900 is moving, 1000 to 2900 observed and the rest unknown. -/
theorem wheel_then_phone_closes : ∃ next, wheelThenPhone.closeAt 5000 = .ok next ∧
    Exact wheelThenPhone.parts 1000 5000 next.summary ∧ tally wheelThenPhone.parts.movingAt 2500 2900 = 400 := by
  obtain ⟨next, closed, counts⟩ :=
    ((moving_time_is_exact.1 wheelThenPhone 1000 5000 (by decide) rfl (by decide) (by decide)).1 (by decide)).2.1
  refine ⟨next, closed, counts, ?_⟩
  apply tally_all
  intro time early late
  have gone : wheelThenPhone.parts.selectedSourceAt time = some ⟨2000, 900⟩ := by
    have stale : (MovingTimeSourceStateParts.mk 0 500).freshAt time = false := by
      rw [Bool.eq_false_iff, ne_eq, freshAt_iff, telemetryFreshnessMilliseconds]
      dsimp only
      omega
    have fresh : (MovingTimeSourceStateParts.mk 2000 900).freshAt time = true := by
      rw [freshAt_iff, telemetryFreshnessMilliseconds]
      dsimp only
      omega
    simp [selectedSourceAt, wheelThenPhone, stale, fresh]
  rw [movingAt, gone]
  decide

end MovingTimeContinuation
end Cutout.Rides

import Cutout.Proofs.RouteTrack
import Cutout.Library.Runs
import Mathlib.Data.List.Chain
import Mathlib.Data.Finset.Card

/-! The segments of a recorded route. The effects of a run alone determine its track, and
so where each point went: the route is compared with the points, observations, resumes and
boundaries in the log of effects. -/

namespace Cutout.Rides
open Library
open Protocols (saturatingAdd u64Max)
variable {time : Nat}
variable {effect : RouteEffect} {candidate : Option VehicleIdentity} {generation : Option Nat}

namespace RouteEffect

def point : RouteEffect → Option RideMapPoint
  | recorded point => some point
  | _ => none

def observation : RouteEffect → Option LocationSample
  | recorded point => some point.sample
  | observed sample | parked sample => some sample
  | _ => none

def boundary : RouteEffect → Option Nat
  | parked sample => some sample.monotonic
  | marked time => some time
  | _ => none

end RouteEffect

def route (log : List RouteEffect) : List RideMapPoint := log.filterMap RouteEffect.point

def lastObservation (log : List RouteEffect) : Option LocationSample := (log.filterMap RouteEffect.observation).getLast?

def marks (log : List RouteEffect) : List Nat := log.filterMap RouteEffect.boundary

def routeDistance (distance : Distance) : List RideMapPoint → Nat
  | first :: second :: later =>
    (if first.segmentId = second.segmentId then distance first.sample.coordinate second.sample.coordinate else 0) +
      routeDistance distance (second :: later)
  | _ => 0

def gapSegments (points : List RideMapPoint) : Finset Nat :=
  ((points.filter fun point => point.segmentStartReason = .backgroundGap).map RideMapPoint.segmentId).toFinset

section Log
variable (log : List RouteEffect) (effect : RouteEffect)

theorem route_snoc : route (log ++ [effect]) = route log ++ effect.point.toList := by
  unfold route
  rw [List.filterMap_append]
  cases same : effect.point <;> simp [same]

theorem marks_snoc : marks (log ++ [effect]) = marks log ++ effect.boundary.toList := by
  unfold marks
  rw [List.filterMap_append]
  cases same : effect.boundary <;> simp [same]

theorem lastObservation_snoc : lastObservation (log ++ [effect]) = effect.observation.or (lastObservation log) := by
  unfold lastObservation
  rw [List.filterMap_append]
  cases same : effect.observation <;> simp [same]

end Log

private theorem routeDistance_snoc (distance : Distance) (points : List RideMapPoint) (point : RideMapPoint) :
    routeDistance distance (points ++ [point]) = routeDistance distance points + match points.getLast? with
      | some last => if last.segmentId = point.segmentId then distance last.sample.coordinate point.sample.coordinate else 0
      | none => 0 := by
  induction points with
  | nil => rfl
  | cons first points ih =>
    cases points with
    | nil => simp [routeDistance]
    | cons second later =>
      simp only [List.cons_append, routeDistance] at ih ⊢
      rw [ih, List.getLast?_cons_cons]
      omega

theorem mem_gapSegments {points : List RideMapPoint} {segmentId : Nat} :
    segmentId ∈ gapSegments points ↔
      ∃ point ∈ points, point.segmentStartReason = .backgroundGap ∧ point.segmentId = segmentId := by
  simp [gapSegments, and_assoc]

theorem gapSegments_snoc (points : List RideMapPoint) (point : RideMapPoint) :
    gapSegments (points ++ [point]) = if point.segmentStartReason = .backgroundGap then
      insert point.segmentId (gapSegments points) else gapSegments points := by
  ext segmentId
  rw [mem_gapSegments]
  split
  · next gap =>
    rw [Finset.mem_insert, mem_gapSegments]
    constructor
    · rintro ⟨other, member, reason, rfl⟩
      rcases List.mem_append.mp member with old | new
      · exact .inr ⟨other, old, reason, rfl⟩
      · exact .inl (by rw [List.mem_singleton.mp new])
    · rintro (rfl | ⟨other, old, reason, same⟩)
      · exact ⟨point, List.mem_append_right _ (List.mem_singleton.mpr rfl), gap, rfl⟩
      · exact ⟨other, List.mem_append_left _ old, reason, same⟩
  · next other =>
    rw [mem_gapSegments]
    constructor
    · rintro ⟨found, member, reason, same⟩
      rcases List.mem_append.mp member with old | new
      · exact ⟨found, old, reason, same⟩
      · rw [List.mem_singleton.mp new] at reason
        exact absurd reason other
    · rintro ⟨found, old, reason, same⟩
      exact ⟨found, List.mem_append_left _ old, reason, same⟩

structure Covers (distance : Distance) (points : List RideMapPoint) (track : Track) : Prop where
  retained : track.points = points.drop (points.length - maxLiveRoutePoints)
  first : track.firstPointSequence = track.summary.pointCount - track.points.length
  count : track.summary.pointCount = min points.length u64Max
  length : track.summary.distance = min (routeDistance distance points) u64Max
  ordered : points.Pairwise fun earlier later => earlier.time < later.time
  origin : ∀ point, points.head? = some point → point.segmentId = 0
  chained : points.IsChain fun earlier later =>
    later.segmentId = earlier.segmentId ∨ later.segmentId = earlier.segmentId + 1
  below : ∀ last, points.getLast? = some last → last.segmentId ≤ last.time ∧ ∀ point ∈ points, point.segmentId ≤ last.segmentId
  reasons : ∀ earlier ∈ points, ∀ later ∈ points, earlier.segmentId = later.segmentId →
    earlier.segmentStartReason = later.segmentStartReason
  gaps : track.backgroundGapCount = (gapSegments points).card
  inner : 0 ∉ gapSegments points
  idle : points = [] → track.segmentId = 0 ∧ track.segmentStarted = true
  current : ∀ last, points.getLast? = some last →
    track.segmentId = if track.segmentStarted then nextSegment last.segmentId else last.segmentId

namespace Covers
variable {distance : Distance} {points : List RideMapPoint} {track : Track} {point : RideMapPoint}
variable {last : RideMapPoint}

section Covers
variable (covers : Covers distance points track)
include covers

theorem getLast : track.points.getLast? = points.getLast? := by
  rw [covers.retained, List.getLast?_drop]
  split
  · next short =>
    have empty : points = [] := by
      have positive : 0 < maxLiveRoutePoints := by decide
      apply List.eq_nil_of_length_eq_zero
      omega
    rw [empty]
    rfl
  · rfl

/-- A later point in the range of the clock leaves room for the next segment. -/
theorem nextSegment_eq (known : points.getLast? = some last) (later : last.time < point.time)
    (range : point.time ≤ u64Max) : nextSegment last.segmentId = last.segmentId + 1 := by
  have below := (covers.below last known).1
  exact if_pos (by omega)

/-- A point starts a new segment exactly behind a resume, a stationary boundary or a gap. -/
theorem parts (known : points.getLast? = some last) (later : last.time < point.time) (range : point.time ≤ u64Max)
    (places : track.Places point) : (point.segmentId = last.segmentId ∨ point.segmentId = last.segmentId + 1) ∧
      (last.segmentId ≠ point.segmentId ↔
        track.segmentStarted = true ∨ track.behind point.time ∨ track.gap point.time) ∧
      (point.segmentId = last.segmentId → point.segmentStartReason = last.segmentStartReason) ∧
      (point.segmentId = 0 → point.segmentStartReason ≠ .backgroundGap ∨ last.segmentId = 0) := by
  have next := covers.nextSegment_eq known later range
  have same := covers.getLast
  have current := covers.current last known
  cases places with
  | initial empty =>
    rw [empty, known] at same
    cases same
  | resumed other found started segment reason =>
    rw [started, if_pos rfl, next] at current
    rw [segment, current]
    refine ⟨.inr rfl, ⟨fun _ => .inl started, fun _ => by omega⟩, fun absurd => by omega, fun absurd => by omega⟩
  | stationary other found open_ parted segment reason =>
    rw [open_] at current
    have current : track.segmentId = last.segmentId := current
    rw [segment, current, next]
    refine ⟨.inr rfl, ⟨fun _ => .inr (.inl parted), fun _ => by omega⟩, fun absurd => by omega, fun absurd => by omega⟩
  | gap other found open_ parted segment changed reason =>
    rw [open_] at current
    have current : track.segmentId = last.segmentId := current
    rw [segment, current, next]
    refine ⟨.inr rfl, ⟨fun _ => .inr (.inr parted), fun _ => by omega⟩, fun absurd => by omega, fun absurd => by omega⟩
  | continues other found open_ together near segment reason =>
    rw [open_] at current
    have current : track.segmentId = last.segmentId := current
    rw [found, known] at same
    cases same
    rw [segment, current]
    refine ⟨.inl rfl, ⟨fun absurd => (absurd rfl).elim, ?_⟩, fun _ => reason, fun zero => .inr zero⟩
    rintro (started | behind | gap)
    · rw [open_] at started
      cases started
    · exact absurd behind together
    · rcases near with near | stuck
      · exact absurd gap near
      · rw [current, next] at stuck
        omega

theorem pushPoint_eq : RideMapRecorder.pushPoint track.points point =
    (points ++ [point]).drop ((points ++ [point]).length - maxLiveRoutePoints) := by
  have retained := covers.retained
  have size : track.points.length = min points.length maxLiveRoutePoints := by
    rw [retained, List.length_drop]
    omega
  have small : points.length - maxLiveRoutePoints ≤ points.length := Nat.sub_le _ _
  unfold RideMapRecorder.pushPoint
  rw [size, retained, ← List.drop_append_of_le_length small, List.drop_drop, List.length_append, List.length_singleton]
  have same : points.length - maxLiveRoutePoints + (min points.length maxLiveRoutePoints + 1 - maxLiveRoutePoints) =
    points.length + 1 - maxLiveRoutePoints := by omega
  rw [same]

theorem ahead (known : points.getLast? = some last) (later : last.time < point.time) :
    ∀ other ∈ points, other.time < point.time := by
  intro other member
  obtain ⟨front, rfl⟩ := List.getLast?_eq_some_iff.mp known
  rcases List.mem_append.mp member with old | new
  · exact Nat.lt_trans ((List.pairwise_append.mp covers.ordered).2.2 other old last (List.mem_singleton.mpr rfl)) later
  · rw [List.mem_singleton.mp new]
    exact later

/-- The first segment is behind no gap, so there are no more gaps than segments behind it. -/
theorem gaps_le (known : points.getLast? = some last) : (gapSegments points).card ≤ last.segmentId := by
  have inside : gapSegments points ⊆ Finset.Icc 1 last.segmentId := by
    intro segmentId member
    have positive : segmentId ≠ 0 := fun zero => covers.inner (zero ▸ member)
    obtain ⟨other, old, -, same⟩ := mem_gapSegments.mp member
    have := (covers.below last known).2 other old
    exact Finset.mem_Icc.mpr ⟨by omega, by omega⟩
  have bound := Finset.card_le_card inside
  rwa [Nat.card_Icc, Nat.add_sub_cancel] at bound

section Record
variable (known : points.getLast? = some last) (later : last.time < point.time) (range : point.time ≤ u64Max)
variable (places : track.Places point)
include known later range places

/-- The new point shares its segment with the last point or with none. -/
theorem reasons_record : ∀ earlier ∈ points ++ [point], ∀ other ∈ points ++ [point],
    earlier.segmentId = other.segmentId → earlier.segmentStartReason = other.segmentStartReason := by
  obtain ⟨adjacent, -, reason, -⟩ := covers.parts known later range places
  have fresh : ∀ other ∈ points, other.segmentId = point.segmentId → other.segmentStartReason = point.segmentStartReason := by
    intro other member same
    have := (covers.below last known).2 other member
    have equal : point.segmentId = last.segmentId := by omega
    rw [reason equal]
    exact covers.reasons other member last (List.mem_of_getLast? known) (same.trans equal)
  intro earlier member other member' same
  rcases List.mem_append.mp member with old | new
  · rcases List.mem_append.mp member' with old' | new'
    · exact covers.reasons earlier old other old' same
    · rw [List.mem_singleton.mp new'] at same ⊢
      exact fresh earlier old same
  · rw [List.mem_singleton.mp new] at same ⊢
    rcases List.mem_append.mp member' with old' | new'
    · exact (fresh other old' same.symm).symm
    · rw [List.mem_singleton.mp new']

private theorem gapCount_record : (track.record distance point).backgroundGapCount = (gapSegments (points ++ [point])).card := by
  obtain ⟨adjacent, -, reason, -⟩ := covers.parts known later range places
  obtain ⟨early, below⟩ := covers.below last known
  have card := covers.gaps_le known
  change (if (!track.points.getLast?.any fun previous => decide (previous.segmentId = point.segmentId)) = true ∧
    point.segmentStartReason = .backgroundGap then saturatingAdd track.backgroundGapCount 1
    else track.backgroundGapCount) = _
  rw [gapSegments_snoc, covers.getLast.trans known, Option.any_some, covers.gaps]
  by_cases gap : point.segmentStartReason = .backgroundGap
  · rw [if_pos gap]
    by_cases same : last.segmentId = point.segmentId
    · have member : point.segmentId ∈ gapSegments points :=
        mem_gapSegments.mpr ⟨last, List.mem_of_getLast? known, (reason same.symm).symm.trans gap, same⟩
      rw [if_neg (by simp [same]), Finset.insert_eq_of_mem member]
    · have absent : point.segmentId ∉ gapSegments points := by
        intro member
        obtain ⟨other, old, -, equal⟩ := mem_gapSegments.mp member
        have := below other old
        omega
      rw [if_pos ⟨by simp [same], gap⟩, Finset.card_insert_of_notMem absent, saturatingAdd]
      omega
  · rw [if_neg gap, if_neg fun both => gap both.2]

private theorem inner_record : 0 ∉ gapSegments (points ++ [point]) := by
  obtain ⟨adjacent, -, reason, gapless⟩ := covers.parts known later range places
  rw [gapSegments_snoc]
  split
  · next gap =>
    intro member
    rcases Finset.mem_insert.mp member with zero | old
    · rcases gapless zero.symm with other | lastZero
      · exact other gap
      · have equal : point.segmentId = last.segmentId := by omega
        exact covers.inner (mem_gapSegments.mpr
          ⟨last, List.mem_of_getLast? known, (reason equal).symm.trans gap, lastZero⟩)
    · exact covers.inner old
  · exact covers.inner

end Record

end Covers

theorem record_first (covers : Covers distance [] track) (places : track.Places point) :
    Covers distance [point] (track.record distance point) := by
  obtain ⟨segment, started⟩ := covers.idle rfl
  have empty : track.points = [] := covers.retained
  have zero : point.segmentId = 0 ∧ point.segmentStartReason ≠ .backgroundGap := by
    cases places with
    | initial _ same reason => exact ⟨same.trans segment, reason⟩
    | resumed last known | stationary last known | gap last known | continues last known =>
      rw [empty] at known
      cases known
  have count := covers.count
  have length := covers.length
  have gaps := covers.gaps
  have none : gapSegments [point] = ∅ := by simp [gapSegments, zero.2]
  refine
    { retained := by rw [track.record_points, covers.pushPoint_eq, List.nil_append]
      first := track.record_first
      count := ?_
      length := ?_
      ordered := List.pairwise_singleton _ _
      origin := ?_
      chained := List.IsChain.singleton _
      below := ?_
      reasons := ?_
      gaps := ?_
      inner := by rw [none]; exact Finset.notMem_empty 0
      idle := nofun
      current := ?_ }
  · have zero : track.summary.pointCount = 0 := count
    change saturatingAdd track.summary.pointCount 1 = min 1 u64Max
    rw [zero]
    rfl
  · have zero : track.summary.distance = 0 := length
    change saturatingAdd track.summary.distance _ = min 0 u64Max
    rw [zero, empty]
    rfl
  · intro first same
    cases same
    exact zero.1
  · intro last same
    obtain rfl : point = last := Option.some.inj same
    refine ⟨by rw [zero.1]; exact Nat.zero_le _, ?_⟩
    intro other member
    rw [List.mem_singleton.mp member]
  · intro earlier member later member' _
    rw [List.mem_singleton.mp member, List.mem_singleton.mp member']
  · change (if _ ∧ point.segmentStartReason = .backgroundGap then _ else track.backgroundGapCount) = _
    rw [if_neg fun both => zero.2 both.2, gaps, none]
    rfl
  · intro last same
    obtain rfl : point = last := Option.some.inj same
    change max track.segmentId point.segmentId = point.segmentId
    rw [segment, Nat.zero_max]

theorem record (covers : Covers distance points track) (known : points.getLast? = some last)
    (later : last.time < point.time) (range : point.time ≤ u64Max) (places : track.Places point) :
    Covers distance (points ++ [point]) (track.record distance point) := by
  have adjacent := (covers.parts known later range places).1
  obtain ⟨early, below⟩ := covers.below last known
  refine
    { retained := by rw [track.record_points, covers.pushPoint_eq]
      first := track.record_first
      count := ?_
      length := ?_
      ordered := ?_
      origin := ?_
      chained := ?_
      below := ?_
      reasons := covers.reasons_record known later range places
      gaps := covers.gapCount_record known later range places
      inner := covers.inner_record known later range places
      idle := fun absurd => (List.append_ne_nil_of_right_ne_nil _ (List.cons_ne_nil _ _) absurd).elim
      current := ?_ }
  · change saturatingAdd track.summary.pointCount 1 = _
    rw [covers.count, List.length_append, List.length_singleton, saturatingAdd]
    omega
  · change saturatingAdd track.summary.distance _ = _
    rw [covers.length, routeDistance_snoc, covers.getLast.trans known, known, saturatingAdd]
    dsimp only
    omega
  · refine List.pairwise_append.mpr ⟨covers.ordered, List.pairwise_singleton _ _, ?_⟩
    intro other member new same
    rw [List.mem_singleton.mp same]
    exact covers.ahead known later other member
  · intro first same
    rw [List.head?_append_of_ne_nil _ (List.ne_nil_of_mem (List.mem_of_getLast? known))] at same
    exact covers.origin first same
  · rw [List.isChain_append]
    refine ⟨covers.chained, List.IsChain.singleton _, ?_⟩
    intro earlier same new opened
    rw [known] at same
    cases same
    cases opened
    exact adjacent
  · intro final same
    rw [List.getLast?_concat] at same
    cases same
    refine ⟨by omega, ?_⟩
    intro other member
    rcases List.mem_append.mp member with old | new
    · have := below other old
      omega
    · rw [List.mem_singleton.mp new]
  · intro final same
    rw [List.getLast?_concat] at same
    cases same
    exact Nat.max_eq_right places.segmentId_le

end Covers

structure LastPoint (log early : List RouteEffect) (point : RideMapPoint) (between : List RouteEffect) : Prop where
  split : log = early ++ .recorded point :: between
  quiet : ∀ effect ∈ between, effect.point = none

namespace LastPoint
variable {log early between : List RouteEffect} {point : RideMapPoint} {effect : RouteEffect}

theorem snoc (last : LastPoint log early point between) (silent : effect.point = none) :
    LastPoint (log ++ [effect]) early point (between ++ [effect]) := by
  refine ⟨by rw [last.split, List.append_assoc, List.cons_append], ?_⟩
  intro other member
  rcases List.mem_append.mp member with old | new
  · exact last.quiet other old
  · rw [List.mem_singleton.mp new]
    exact silent

theorem of_snoc (last : LastPoint (log ++ [effect]) early point between) (silent : effect.point = none) :
    ∃ before, between = before ++ [effect] ∧ LastPoint log early point before := by
  rcases snoc_split last.split with ⟨-, rfl, -⟩ | ⟨before, rfl, split⟩
  · cases silent
  · exact ⟨before, rfl, split, fun other member => last.quiet other (List.mem_append_left _ member)⟩

theorem recorded (log : List RouteEffect) (point : RideMapPoint) : LastPoint (log ++ [.recorded point]) log point [] :=
  ⟨rfl, fun _ member => absurd member List.not_mem_nil⟩

theorem of_recorded {recorded : RideMapPoint} (last : LastPoint (log ++ [.recorded recorded]) early point between) :
    early = log ∧ point = recorded ∧ between = [] := by
  rcases snoc_split last.split with ⟨rfl, same, rfl⟩ | ⟨before, rfl, split⟩
  · cases same
    exact ⟨rfl, rfl, rfl⟩
  · cases last.quiet (.recorded recorded) (List.mem_append_right _ (List.mem_singleton.mpr rfl))

theorem unique {early' between' : List RouteEffect} {point' : RideMapPoint} (last : LastPoint log early point between)
    (other : LastPoint log early' point' between') : early' = early ∧ point' = point ∧ between' = between := by
  induction between using List.reverseRecOn generalizing log between' with
  | nil =>
    rw [last.split] at other
    exact other.of_recorded
  | append_singleton between effect ih =>
    have silent := last.quiet effect (List.mem_append_right _ (List.mem_singleton.mpr rfl))
    have split := last.split
    rw [← List.cons_append, ← List.append_assoc] at split
    rw [split] at other
    obtain ⟨before, rfl, rest⟩ := other.of_snoc silent
    have shorter : LastPoint (early ++ .recorded point :: between) early point between :=
      ⟨rfl, fun effect member => last.quiet effect (List.mem_append_left _ member)⟩
    obtain ⟨rfl, rfl, rfl⟩ := ih shorter rest
    exact ⟨rfl, rfl, rfl⟩

theorem getLast (last : LastPoint log early point between) : (route log).getLast? = some point := by
  have silent : between.filterMap RouteEffect.point = [] := by
    rw [List.filterMap_eq_nil_iff]
    exact last.quiet
  have final : (RouteEffect.recorded point :: between).filterMap RouteEffect.point = [point] := by
    simp only [List.filterMap_cons, RouteEffect.point, silent]
  rw [last.split, route, List.filterMap_append, final, List.getLast?_concat]

private theorem of_getLast (known : (route log).getLast? = some point) : ∃ early between, LastPoint log early point between := by
  rcases exists_last (fun effect : RouteEffect => effect.point ≠ none) log with none | ⟨early, effect, between, split, found, others⟩
  · have empty : route log = [] := by
      rw [route, List.filterMap_eq_nil_iff]
      exact fun effect member => not_not.mp (none effect member)
    rw [empty] at known
    cases known
  · cases effect with
    | recorded other =>
      have last : LastPoint log early other between := ⟨split, fun effect member => not_not.mp (others effect member)⟩
      have same := last.getLast
      rw [known] at same
      cases same
      exact ⟨early, between, last⟩
    | _ => exact absurd rfl found

end LastPoint

/-- The newest boundary marked so far, unless a later point was recorded behind it. -/
structure Boundary (log : List RouteEffect) (boundary : Nat) : Prop where
  marked : boundary ∈ marks log
  newest : ∀ mark ∈ marks log, mark ≤ boundary
  ahead : ∀ early point between, LastPoint log early point between →
    point.time < boundary ∨ point.time = boundary ∧ boundary ∈ marks early

private theorem exists_newest {log : List RouteEffect} {mark : Nat} (member : mark ∈ marks log) :
    ∃ newest ∈ marks log, ∀ other ∈ marks log, other ≤ newest := by
  obtain ⟨newest, inside, top⟩ := Finset.exists_max_image (marks log).toFinset id ⟨mark, List.mem_toFinset.mpr member⟩
  exact ⟨newest, List.mem_toFinset.mp inside, fun other present => top other (List.mem_toFinset.mpr present)⟩

/-- An effect that neither marks nor records keeps the boundary. -/
theorem boundary_quiet {log : List RouteEffect} {boundary : Nat} (silent : effect.point = none)
    (unmarked : effect.boundary = none) : Boundary (log ++ [effect]) boundary ↔ Boundary log boundary := by
  have same : marks (log ++ [effect]) = marks log := by
    rw [marks_snoc, unmarked, Option.toList_none, List.append_nil]
  constructor
  · intro known
    refine ⟨same ▸ known.marked, same ▸ known.newest, ?_⟩
    intro early point between last
    exact known.ahead _ _ _ (last.snoc silent)
  · intro known
    refine ⟨same.symm ▸ known.marked, same.symm ▸ known.newest, ?_⟩
    intro early point between last
    obtain ⟨before, -, last⟩ := last.of_snoc silent
    exact known.ahead _ _ _ last

private theorem boundary_recorded {log : List RouteEffect} {point : RideMapPoint} {boundary : Nat}
    (later : ∀ last, (route log).getLast? = some last → last.time < point.time) :
    Boundary (log ++ [.recorded point]) boundary ↔ Boundary log boundary ∧ point.time ≤ boundary := by
  have same : marks (log ++ [.recorded point]) = marks log := by
    rw [marks_snoc]
    exact List.append_nil _
  constructor
  · intro known
    have reached : point.time ≤ boundary := by
      rcases known.ahead _ _ _ (.recorded log point) with before | ⟨equal, -⟩
      · exact Nat.le_of_lt before
      · exact le_of_eq equal
    refine ⟨⟨same ▸ known.marked, same ▸ known.newest, ?_⟩, reached⟩
    intro early last between found
    exact .inl ((later last found.getLast).trans_le reached)
  · rintro ⟨known, reached⟩
    refine ⟨same.symm ▸ known.marked, same.symm ▸ known.newest, ?_⟩
    intro early last between found
    obtain ⟨rfl, rfl, rfl⟩ := found.of_recorded
    rcases Nat.lt_or_eq_of_le reached with before | equal
    · exact .inl before
    · exact .inr ⟨equal, known.marked⟩

/-- A new mark counts like the others; the last point stays the same. -/
theorem boundary_appended {log : List RouteEffect} (silent : effect.point = none) (mark : effect.boundary = some time)
    (boundary : Nat) : Boundary (log ++ [effect]) boundary ↔ (boundary ∈ marks log ∨ boundary = time) ∧
      (∀ other ∈ marks log, other ≤ boundary) ∧ time ≤ boundary ∧
      ∀ early point between, LastPoint log early point between →
        point.time < boundary ∨ point.time = boundary ∧ boundary ∈ marks early := by
  have more : marks (log ++ [effect]) = marks log ++ [time] := by
    rw [marks_snoc, mark, Option.toList_some]
  constructor
  · rintro ⟨marked, newest, ahead⟩
    rw [more] at marked newest
    refine ⟨by simpa using marked, fun other member => newest other (List.mem_append_left _ member),
      newest time (List.mem_append_right _ (List.mem_singleton.mpr rfl)), ?_⟩
    intro early point between last
    exact ahead _ _ _ (last.snoc silent)
  · rintro ⟨marked, newest, reached, ahead⟩
    refine ⟨?_, ?_, ?_⟩
    · rw [more]
      simpa using marked
    · rw [more]
      intro other member
      rcases List.mem_append.mp member with old | new
      · exact newest other old
      · rw [List.mem_singleton.mp new]
        exact reached
    · intro early point between last
      obtain ⟨before, -, last⟩ := last.of_snoc silent
      exact ahead _ _ _ last

/-- A mark that the last point has passed changes nothing. -/
theorem boundary_passed {log : List RouteEffect} {final : RideMapPoint} (silent : effect.point = none)
    (mark : effect.boundary = some time) (known : (route log).getLast? = some final) (reached : time ≤ final.time)
    (boundary : Nat) : Boundary (log ++ [effect]) boundary ↔ Boundary log boundary := by
  obtain ⟨early, between, found⟩ := LastPoint.of_getLast known
  rw [boundary_appended silent mark]
  constructor
  · rintro ⟨marked, newest, above, ahead⟩
    refine ⟨?_, newest, ahead⟩
    rcases marked with marked | same
    · exact marked
    · rcases ahead _ _ _ found with before | ⟨-, member⟩
      · omega
      · rw [found.split, marks, List.filterMap_append]
        exact List.mem_append_left _ member
  · intro known
    have behind := known.ahead _ _ _ found
    exact ⟨.inl known.marked, known.newest, by omega, known.ahead⟩

theorem boundary_marked {log : List RouteEffect} {track : Track} (silent : effect.point = none)
    (mark : effect.boundary = some time) (last : track.lastPointAt = (route log).getLast?.map RideMapPoint.time)
    (held : ∀ boundary, track.boundary = some boundary ↔ Boundary log boundary) (boundary : Nat) :
    (track.mark time).boundary = some boundary ↔ Boundary (log ++ [effect]) boundary := by
  unfold Track.mark
  split
  · next passed =>
    obtain ⟨final, known, reached⟩ : ∃ final, (route log).getLast? = some final ∧ time ≤ final.time := by
      rw [last] at passed
      cases known : (route log).getLast? with
      | none => simp [known] at passed
      | some final => exact ⟨final, rfl, by simpa [known] using passed⟩
    rw [held, boundary_passed silent mark known reached]
  · next open_ =>
    have ahead : ∀ early point between, LastPoint log early point between → point.time < time := by
      intro early point between found
      rw [last, found.getLast] at open_
      simpa using open_
    rw [boundary_appended silent mark]
    split
    · next fresh =>
      have lower : ∀ other, track.boundary = some other → other < time := by
        intro other known
        rw [known] at fresh
        simpa using fresh
      constructor
      · intro same
        cases same
        refine ⟨.inr rfl, ?_, le_refl _, fun early point between found => .inl (ahead _ _ _ found)⟩
        intro other member
        by_contra above
        obtain ⟨newest, inside, top⟩ := exists_newest member
        have big := top other member
        have known : track.boundary = some newest := by
          rw [held]
          refine ⟨inside, top, fun early point between found => .inl ?_⟩
          have := ahead _ _ _ found
          omega
        have := lower newest known
        omega
      · rintro ⟨marked | rfl, newest, above, front⟩
        · have known : track.boundary = some boundary := (held boundary).mpr ⟨marked, newest, front⟩
          have := lower boundary known
          omega
        · rfl
    · next stale =>
      obtain ⟨previous, known, above⟩ : ∃ previous, track.boundary = some previous ∧ time ≤ previous := by
        cases known : track.boundary with
        | none =>
          rw [known] at stale
          exact absurd rfl stale
        | some previous =>
          rw [known] at stale
          exact ⟨previous, rfl, by simpa using stale⟩
      have before := (held previous).mp known
      rw [known]
      constructor
      · intro same
        cases same
        exact ⟨.inl before.marked, before.newest, above, before.ahead⟩
      · rintro ⟨marked, newest, reached, -⟩
        have low := newest previous before.marked
        have high : boundary ≤ previous := by
          rcases marked with marked | rfl
          · exact before.newest boundary marked
          · exact above
        rw [Nat.le_antisymm high low]

/-- What separates two consecutive points: a resume, the newest boundary marked so far, or a gap
behind the latest accepted observation. -/
def Parted (early between : List RouteEffect) (first second : RideMapPoint) : Prop :=
  .resumed ∈ between ∨
    (∃ boundary ∈ marks (early ++ between), (∀ mark ∈ marks (early ++ between), mark ≤ boundary) ∧
      (first.time < boundary ∨ first.time = boundary ∧ boundary ∈ marks early) ∧ boundary < second.time) ∨
    ∃ latest, lastObservation (early ++ .recorded first :: between) = some latest ∧
      maxGapMilliseconds < second.time - latest.monotonic

structure Tracks (distance : Distance) (log : List RouteEffect) (track : Track) : Prop where
  covers : Covers distance (route log) track
  latest : track.latest = lastObservation log
  resumed : ∀ early point between, LastPoint log early point between → (track.segmentStarted = true ↔ .resumed ∈ between)
  boundary : ∀ boundary, track.boundary = some boundary ↔ Boundary log boundary
  parted : ∀ early first between second later, log = early ++ .recorded first :: (between ++ .recorded second :: later) →
    (∀ effect ∈ between, effect.point = none) → (first.segmentId ≠ second.segmentId ↔ Parted early between first second)

namespace Covers
variable {distance : Distance} {points : List RideMapPoint} {track : Track}

section Covers
variable (covers : Covers distance points track)
include covers

theorem observe (sample : LocationSample) : Covers distance points (track.observe sample) where
  retained := covers.retained
  first := covers.first
  count := covers.count
  length := covers.length
  ordered := covers.ordered
  origin := covers.origin
  chained := covers.chained
  below := covers.below
  reasons := covers.reasons
  gaps := covers.gaps
  inner := covers.inner
  idle := covers.idle
  current := covers.current

theorem bound (boundary : Option Nat) : Covers distance points { track with boundary } where
  retained := covers.retained
  first := covers.first
  count := covers.count
  length := covers.length
  ordered := covers.ordered
  origin := covers.origin
  chained := covers.chained
  below := covers.below
  reasons := covers.reasons
  gaps := covers.gaps
  inner := covers.inner
  idle := covers.idle
  current := covers.current

theorem mark (time : Nat) : Covers distance points (track.mark time) := by
  unfold Track.mark
  split
  · exact covers
  · split
    · exact covers.bound _
    · exact covers

theorem resume : Covers distance points track.resume := by
  unfold Track.resume
  split
  · next open_ =>
    refine
      { retained := covers.retained
        first := covers.first
        count := covers.count
        length := covers.length
        ordered := covers.ordered
        origin := covers.origin
        chained := covers.chained
        below := covers.below
        reasons := covers.reasons
        gaps := covers.gaps
        inner := covers.inner
        idle := ?_
        current := ?_ }
    · intro empty
      have started := (covers.idle empty).2
      rw [open_.1] at started
      cases started
    · intro last known
      have current := covers.current last known
      rw [open_.1] at current
      have current : track.segmentId = last.segmentId := current
      change nextSegment track.segmentId = nextSegment last.segmentId
      rw [current]
  · exact covers

end Covers

end Covers

namespace Tracks
variable {distance : Distance} {log : List RouteEffect} {track next : Track} {effect : RouteEffect}

section Tracks
variable (tracks : Tracks distance log track)
include tracks

private theorem points_ne_nil {early between : List RouteEffect} {point : RideMapPoint}
    (last : LastPoint log early point between) : track.points ≠ [] := by
  intro empty
  have same := tracks.covers.getLast
  rw [empty, last.getLast] at same
  cases same

/-- An effect that records nothing leaves the points and what separates them. -/
theorem quiet (silent : effect.point = none) (covers : Covers distance (route log) next)
    (latest : next.latest = effect.observation.or track.latest)
    (resumed : track.points ≠ [] → (next.segmentStarted = true ↔ track.segmentStarted = true ∨ effect = .resumed))
    (boundary : ∀ boundary, next.boundary = some boundary ↔ Boundary (log ++ [effect]) boundary) :
    Tracks distance (log ++ [effect]) next := by
  refine ⟨?_, ?_, ?_, boundary, ?_⟩
  · rw [route_snoc, silent, Option.toList_none, List.append_nil]
    exact covers
  · rw [latest, lastObservation_snoc, tracks.latest]
  · intro early point between last
    obtain ⟨before, rfl, rest⟩ := last.of_snoc silent
    rw [resumed (tracks.points_ne_nil rest), tracks.resumed _ _ _ rest, List.mem_append, List.mem_singleton, eq_comm]
  · intro early first between second later split
    rw [← List.cons_append, ← List.append_assoc] at split
    rcases snoc_split split with ⟨-, rfl, -⟩ | ⟨front, rfl, rest⟩
    · cases silent
    · rw [List.append_assoc, List.cons_append] at rest
      exact tracks.parted _ _ _ _ _ rest

/-- A recorded point is separated from the last one as the log says. -/
theorem parts {early between : List RouteEffect} {first second : RideMapPoint}
    (last : LastPoint log early first between) (later : first.time < second.time) (range : second.time ≤ u64Max)
    (places : track.Places second) : first.segmentId ≠ second.segmentId ↔ Parted early between first second := by
  rw [(tracks.covers.parts last.getLast later range places).2.1, tracks.resumed _ _ _ last]
  have same : marks log = marks (early ++ between) := by
    rw [last.split, marks, marks, List.filterMap_append, List.filterMap_append]
    rfl
  have behind : track.behind second.time ↔ ∃ boundary ∈ marks (early ++ between),
      (∀ mark ∈ marks (early ++ between), mark ≤ boundary) ∧
      (first.time < boundary ∨ first.time = boundary ∧ boundary ∈ marks early) ∧ boundary < second.time := by
    constructor
    · rintro ⟨boundary, known, before⟩
      have held := (tracks.boundary boundary).mp known
      exact ⟨boundary, same ▸ held.marked, same ▸ held.newest, held.ahead _ _ _ last, before⟩
    · rintro ⟨boundary, marked, newest, ahead, before⟩
      refine ⟨boundary, (tracks.boundary boundary).mpr ⟨same.symm ▸ marked, same.symm ▸ newest, ?_⟩, before⟩
      intro other point rest found
      obtain ⟨rfl, rfl, rfl⟩ := last.unique found
      exact ahead
  have gap : track.gap second.time ↔ ∃ latest, lastObservation (early ++ .recorded first :: between) = some latest ∧
      maxGapMilliseconds < second.time - latest.monotonic := by
    rw [Track.gap, tracks.latest, last.split]
  rw [behind, gap, Parted]

theorem record {point : RideMapPoint} (later : ∀ last, track.points.getLast? = some last → last.time < point.time)
    (range : point.time ≤ u64Max) (places : track.Places point) :
    Tracks distance (log ++ [.recorded point]) (track.record distance point) := by
  rw [tracks.covers.getLast] at later
  refine ⟨?_, ?_, ?_, ?_, ?_⟩
  · rw [route_snoc]
    change Covers distance (route log ++ [point]) _
    cases known : (route log).getLast? with
    | none =>
      have empty := List.getLast?_eq_none_iff.mp known
      have covers := tracks.covers
      rw [empty] at covers ⊢
      exact covers.record_first places
    | some last => exact tracks.covers.record known (later last known) range places
  · rw [lastObservation_snoc]
    rfl
  · intro early other between last
    obtain ⟨rfl, rfl, rfl⟩ := last.of_recorded
    exact iff_of_false Bool.false_ne_true List.not_mem_nil
  · intro boundary
    rw [boundary_recorded later, ← tracks.boundary]
    change (if track.boundary.any fun time => time < point.time then none else track.boundary) = some boundary ↔ _
    split
    · next passed =>
      refine iff_of_false nofun ?_
      rintro ⟨known, reached⟩
      rw [known] at passed
      have before : boundary < point.time := by simpa using passed
      omega
    · next ahead =>
      refine ⟨fun known => ⟨known, ?_⟩, fun both => both.1⟩
      rw [known] at ahead
      simpa using ahead
  · intro early first between second rest split quiet
    rw [← List.cons_append, ← List.append_assoc] at split
    rcases snoc_split split with ⟨same, final, rfl⟩ | ⟨front, rfl, before⟩
    · cases final
      have last : LastPoint log early first between := ⟨same, quiet⟩
      exact tracks.parts last (later first last.getLast) range places
    · rw [List.append_assoc, List.cons_append] at before
      exact tracks.parted _ _ _ _ _ before quiet

theorem extend (moves : track.Moves distance next effect)
    (range : ∀ point, effect = .recorded point → point.time ≤ u64Max) : Tracks distance (log ++ [effect]) next := by
  have last : track.lastPointAt = (route log).getLast?.map RideMapPoint.time := by
    rw [Track.lastPointAt, tracks.covers.getLast]
  cases moves with
  | still =>
    apply tracks.quiet rfl tracks.covers rfl
    · intro _
      simp
    · intro boundary
      rw [tracks.boundary, boundary_quiet rfl rfl]
  | resumed =>
    apply tracks.quiet rfl tracks.covers.resume
    · unfold Track.resume
      split <;> rfl
    · intro points
      unfold Track.resume
      cases started : track.segmentStarted <;> simp [points, started]
    · intro boundary
      rw [boundary_quiet rfl rfl, ← tracks.boundary]
      unfold Track.resume
      split <;> exact Iff.rfl
  | observed sample =>
    apply tracks.quiet rfl (tracks.covers.observe sample) rfl
    · intro _
      simp [Track.observe]
    · intro boundary
      rw [boundary_quiet rfl rfl, ← tracks.boundary]
      exact Iff.rfl
  | parked sample =>
    apply tracks.quiet rfl ((tracks.covers.observe sample).mark _)
    · exact Track.mark_latest _ _
    · intro _
      simp [Track.mark_segmentStarted, Track.observe]
    · have held : ∀ boundary, (track.observe sample).boundary = some boundary ↔ Boundary log boundary := tracks.boundary
      exact boundary_marked rfl rfl last held
  | marked time =>
    apply tracks.quiet rfl (tracks.covers.mark _)
    · exact Track.mark_latest _ _
    · intro _
      simp [Track.mark_segmentStarted]
    · exact boundary_marked rfl rfl last tracks.boundary
  | recorded point later places => exact tracks.record later (range point rfl) places

end Tracks

end Tracks

def RecorderCall.sample : RecorderCall → Option LocationSample
  | recordAdmitted sample | recordSample sample => some sample
  | _ => none

def RecorderCall.Clocked (call : RecorderCall) : Prop := ∀ sample, call.sample = some sample → sample.monotonic ≤ u64Max

namespace RideMapRecorder
variable {distance : Distance} {recorder : RideMapRecorder}

theorem settle_recorded {sample : LocationSample} {admitted : AdmittedLocationSample} {point : RideMapPoint}
    (taken : recorder.admitSample distance sample = .ok admitted)
    (done : (recorder.settle distance admitted).2 = .recorded point) : point.sample = sample := by
  have made := (admitSample_eq taken).2.2
  unfold settle at done
  split at done
  · cases done
    rw [made]
  · cases done

theorem observeRepeat_silent {d : Distance} (recorder : RideMapRecorder) (observation : LocationObservation) :
    (recorder.observeRepeat d observation).2.point = none := by
  unfold observeRepeat
  split <;> rfl

private theorem step_recorded {call : RecorderCall} {point : RideMapPoint}
    (done : (recorder.step distance call).2 = .recorded point) : call.sample = some point.sample := by
  cases call with
  | recordAdmitted sample =>
    simp only [step] at done
    split at done
    · next admitted taken => rw [settle_recorded taken done, RecorderCall.sample]
    · cases done
  | recordSample sample =>
    simp only [step, recordSample] at done
    split at done
    · cases done
    · split at done
      · next admitted decided =>
        unfold classifySample at decided
        split at decided
        · cases decided
        · next taken =>
          dsimp only at decided
          split at decided
          · cases decided
          · cases decided
            rw [settle_recorded taken done, RecorderCall.sample]
      · have silent := recorder.observeRepeat_silent (d := distance) ‹_›
        rw [done] at silent
        cases silent
      · cases done
  | observeClockOnly observation =>
    have silent := recorder.observeRepeat_silent (d := distance) observation
    have done : (recorder.observeRepeat distance observation).2 = .recorded point := done
    rw [done] at silent
    cases silent
  | observeStationary observation =>
    simp only [step] at done
    split at done <;> cases done
  | applyTransition transition time =>
    simp only [step] at done
    split at done
    · dsimp only at done
      split at done <;> cases done
    · cases done
  | markStationaryBoundary | saveInterrupted | observeVehicle | observeTelemetry => cases done

end RideMapRecorder

def RideMapRecorder.log (distance : Distance) (recorder : RideMapRecorder) (calls : List RecorderCall) : List RouteEffect :=
  (Runs.history (RideMapRecorder.step distance) recorder calls).map Step.output

theorem Tracks.started {distance : Distance} {before recorder : RideMapRecorder}
    (started : before.start time candidate generation = some recorder) : Tracks distance [] recorder.track := by
  unfold RideMapRecorder.start at started
  simp only at started
  split at started
  · cases started
    refine
      { covers := ?_
        latest := rfl
        resumed := ?_
        boundary := ?_
        parted := ?_ }
    · refine
        { retained := rfl
          first := rfl
          count := rfl
          length := rfl
          ordered := List.Pairwise.nil
          origin := nofun
          chained := List.IsChain.nil
          below := nofun
          reasons := nofun
          gaps := rfl
          inner := Finset.notMem_empty 0
          idle := fun _ => ⟨rfl, rfl⟩
          current := nofun }
    · intro early point between last
      exact absurd last.split.symm (List.append_ne_nil_of_right_ne_nil _ (List.cons_ne_nil _ _))
    · intro boundary
      refine iff_of_false nofun ?_
      rintro ⟨marked, -, -⟩
      exact List.not_mem_nil marked
    · intro early first between second later split
      exact absurd split.symm (List.append_ne_nil_of_right_ne_nil _ (List.cons_ne_nil _ _))
  · cases started

private theorem tracks_run (distance : Distance) {before recorder : RideMapRecorder}
    (started : before.start time candidate generation = some recorder) (calls : List RecorderCall)
    (clocked : ∀ call ∈ calls, call.Clocked) :
    Tracks distance (recorder.log distance calls) (Runs.final (RideMapRecorder.step distance) recorder calls).track := by
  induction calls using List.reverseRecOn with
  | nil => exact Tracks.started started
  | append_singleton calls call ih =>
    have tracks := ih fun other member => clocked other (List.mem_append_left _ member)
    unfold RideMapRecorder.log at tracks ⊢
    rw [Runs.history_snoc, Runs.final_append, List.map_append]
    generalize Runs.final (RideMapRecorder.step distance) recorder calls = state at tracks ⊢
    refine tracks.extend (RideMapRecorder.step_moves ?_ call) ?_
    · intro empty
      have same := tracks.covers.getLast
      have nothing : state.track.points = [] := empty
      rw [nothing] at same
      exact (tracks.covers.idle (List.getLast?_eq_none_iff.mp same.symm)).2
    · intro point done
      exact clocked call (List.mem_append_right _ (List.mem_singleton.mpr rfl)) _ (RideMapRecorder.step_recorded done)

/-- The recorded route: its order and window, its segments and what separates them. -/
structure Segmented (distance : Distance) (log : List RouteEffect) (recorder : RideMapRecorder) : Prop where
  ordered : (route log).Pairwise fun earlier later => earlier.time < later.time
  retained : recorder.points <:+ route log
  window : recorder.points.length ≤ maxLiveRoutePoints
  counted : recorder.firstPointSequence + recorder.points.length = recorder.summary.pointCount
  origin : ∀ point, (route log).head? = some point → point.segmentId = 0
  chained : (route log).IsChain fun earlier later =>
    later.segmentId = earlier.segmentId ∨ later.segmentId = earlier.segmentId + 1
  parted : ∀ early first between second later, log = early ++ .recorded first :: (between ++ .recorded second :: later) →
    (∀ effect ∈ between, effect.point = none) → (first.segmentId ≠ second.segmentId ↔ Parted early between first second)
  reasons : ∀ earlier ∈ route log, ∀ later ∈ route log, earlier.segmentId = later.segmentId →
    earlier.segmentStartReason = later.segmentStartReason
  gaps : recorder.backgroundGapCount = (gapSegments (route log)).card
  distance : recorder.summary.distance = min (routeDistance distance (route log)) u64Max

/-- Every run of a started ride is segmented by its resumes, its newest boundary and its gaps. -/
theorem recorded_route_is_segmented {distance : Distance} {before recorder : RideMapRecorder} {time : Nat}
    {candidate : Option VehicleIdentity} {generation : Option Nat}
    (started : before.start time candidate generation = some recorder) (calls : List RecorderCall)
    (clocked : ∀ call ∈ calls, call.Clocked) :
    Segmented distance (recorder.log distance calls) (Runs.final (RideMapRecorder.step distance) recorder calls) := by
  have tracks := tracks_run distance started calls clocked
  generalize recorder.log distance calls = log at tracks ⊢
  generalize Runs.final (RideMapRecorder.step distance) recorder calls = final at tracks ⊢
  have covers := tracks.covers
  have size : final.points.length = min (route log).length maxLiveRoutePoints := by
    have retained : final.points = _ := covers.retained
    rw [retained, List.length_drop]
    omega
  refine
    { ordered := covers.ordered
      retained := ?_
      window := by rw [size]; exact Nat.min_le_right _ _
      counted := ?_
      origin := covers.origin
      chained := covers.chained
      parted := tracks.parted
      reasons := covers.reasons
      gaps := covers.gaps
      distance := covers.length }
  · have retained : final.points = _ := covers.retained
    rw [retained]
    exact List.drop_suffix _ _
  · have first : final.firstPointSequence = final.summary.pointCount - final.points.length := covers.first
    have count : final.summary.pointCount = min (route log).length u64Max := covers.count
    have inside : maxLiveRoutePoints ≤ u64Max := by decide
    omega

def fixAt (time : Nat) : LocationSample := ⟨⟨0, 0⟩, time, time, none, .live⟩

/-- A ride that was paused and resumed once and lost its background location once. -/
def reopenedRide : List RecorderCall :=
  [.recordAdmitted (fixAt 1000), .applyTransition ⟨.active, .pause, .paused, rfl⟩ 1500,
    .applyTransition ⟨.paused, .resume, .active, rfl⟩ 1800, .recordAdmitted (fixAt 2000), .recordAdmitted (fixAt 40000)]

theorem interrupted_ride_is_segmented : ∃ recorder, RideMapRecorder.start {} 0 none (some 1) = some recorder ∧
    Segmented (fun _ _ => 7) (recorder.log (fun _ _ => 7) reopenedRide)
      (Runs.final (RideMapRecorder.step fun _ _ => 7) recorder reopenedRide) ∧
    (route (recorder.log (fun _ _ => 7) reopenedRide)).map RideMapPoint.segmentId = [0, 1, 2] := by
  have started : RideMapRecorder.start {} 0 none (some 1) = some
    { state := some .active, recordingGeneration := some 1, segmentStarted := true, activeStartedAt := some 0 } := rfl
  refine ⟨_, started, recorded_route_is_segmented started reopenedRide ?_, by decide⟩
  intro call member sample known
  have fixes : ∀ call ∈ reopenedRide, call.sample.all fun sample => sample.monotonic ≤ u64Max := by decide
  have range := fixes call member
  rw [known] at range
  simpa using range

/-- A newer boundary replaces one that lies between two points, so the points stay together; a boundary
at the time of a point that was recorded behind the mark separates it from the next one. -/
theorem replaced_boundary_separates_nothing : ∃ recorder, RideMapRecorder.start {} 0 none (some 1) = some recorder ∧
    (∃ first second, recorder.log (fun _ _ => 0) [.recordAdmitted (fixAt 1000), .markStationaryBoundary 1500,
        .markStationaryBoundary 5000, .recordAdmitted (fixAt 2000)] =
          [.recorded first, .marked 1500, .marked 5000, .recorded second] ∧
      first.time < 1500 ∧ 1500 < second.time ∧ first.segmentId = second.segmentId) ∧
    ∃ first second, recorder.log (fun _ _ => 0) [.markStationaryBoundary 1000, .recordAdmitted (fixAt 1000),
        .recordAdmitted (fixAt 2000)] = [.marked 1000, .recorded first, .recorded second] ∧
      second.time - first.time ≤ maxGapMilliseconds ∧ first.segmentId ≠ second.segmentId := by
  refine ⟨_, rfl, ⟨⟨fixAt 1000, 0, .gpsOnly, .initial⟩, ⟨fixAt 2000, 0, .gpsOnly, .initial⟩, ?_⟩,
    ⟨fixAt 1000, 0, .gpsOnly, .initial⟩, ⟨fixAt 2000, 1, .gpsOnly, .stationary⟩, ?_⟩
  · decide
  · decide

end Cutout.Rides

import Cutout.RideRecorder

/-! Moving time of a ride: how much of the recorded time is covered by fresh speed
evidence, and how much of that is moving. The continuation is stored as integer
columns between runs of the writer. Times are milliseconds. -/

namespace Cutout.Rides
open Protocols (saturatingAdd u64Max isMoving)

inductive MovingTimeSource where
  | vehicle | phoneGps
  deriving Repr, DecidableEq

structure MovingTimeObservation where
  source : MovingTimeSource
  /-- `none` is a phone callback without a valid speed. -/
  speed : Option Int
  sourceAt : Nat
  receiptAt : Nat
  deriving Repr, DecidableEq

structure MovingTimeSourceStateParts where
  speed : Int
  sourceAt : Nat
  deriving Repr, DecidableEq

inductive MovingTimeAvailability where
  | unavailable | partially | complete
  deriving Repr, DecidableEq

structure MovingTimeStateParts where
  moving : Nat := 0
  observed : Nat := 0
  unknown : Nat := 0
  cursor : Option Nat
  phoneGps : Option MovingTimeSourceStateParts := none
  vehicle : Option MovingTimeSourceStateParts := none
  latestPhoneGpsSource : Option Nat := none
  latestVehicleSource : Option Nat := none
  availability : MovingTimeAvailability := .unavailable
  incompleteHistory : Bool
  deriving Repr, DecidableEq

inductive MovingTimeError where
  | receiptBeforeSource | receiptBeforeCursor | staleAtReceipt | missingVehicleSpeed | invalidPhoneGpsSpeed
  | sourceTimestampNotNewer | invalidState | durationOverflow
  deriving Repr, DecidableEq

structure MovingTimeContinuation where
  parts : MovingTimeStateParts
  deriving Repr, DecidableEq

/-- The totals projected to one instant. -/
structure MovingTimeSummary where
  moving : Nat
  observed : Nat
  unknown : Nat
  availability : MovingTimeAvailability
  deriving Repr, DecidableEq

namespace MovingTimeSourceStateParts

/-- The end of the source's freshness. -/
def expiresAt (source : MovingTimeSourceStateParts) : Nat := saturatingAdd source.sourceAt telemetryFreshnessMilliseconds

def freshAt (source : MovingTimeSourceStateParts) (at_ : Nat) : Bool :=
  decide (source.sourceAt ≤ at_ ∧ at_ - source.sourceAt < telemetryFreshnessMilliseconds)

end MovingTimeSourceStateParts

namespace MovingTimeStateParts

/-- The stored source lies behind the cursor and is not newer than the latest callback. -/
def sourceOutOfOrder (cursor : Nat) (latest : Option Nat) (source : MovingTimeSourceStateParts) : Bool :=
  decide (cursor < source.sourceAt) || latest.all fun latest => latest < source.sourceAt

def selectedSourceAt (parts : MovingTimeStateParts) (at_ : Nat) : Option MovingTimeSourceStateParts :=
  (parts.vehicle.filter fun source => source.freshAt at_) <|> parts.phoneGps.filter fun source => source.freshAt at_

def addObservedInterval (parts : MovingTimeStateParts) (duration : Nat) (moving : Bool) :
    Except MovingTimeError MovingTimeStateParts :=
  if u64Max < parts.observed + duration then .error .durationOverflow
  else if u64Max < parts.observed + duration + parts.unknown then .error .durationOverflow
  else if moving then
    if u64Max < parts.moving + duration then .error .durationOverflow
    else .ok { parts with moving := parts.moving + duration, observed := parts.observed + duration }
  else .ok { parts with observed := parts.observed + duration }

def addUnknownInterval (parts : MovingTimeStateParts) (duration : Nat) : Except MovingTimeError MovingTimeStateParts :=
  if u64Max < parts.unknown + duration then .error .durationOverflow
  else if u64Max < parts.observed + (parts.unknown + duration) then .error .durationOverflow
  else .ok { parts with unknown := parts.unknown + duration, availability := .partially }

/-- The next time behind `cursor` at which a stored source expires. -/
def nextExpiration (parts : MovingTimeStateParts) (cursor : Nat) : Option Nat :=
  (((parts.phoneGps.toList ++ parts.vehicle.toList).map MovingTimeSourceStateParts.expiresAt).filter
    fun expiresAt => decide (cursor < expiresAt)).min?

theorem nextExpiration_lt {parts : MovingTimeStateParts} {cursor expiry : Nat}
    (next : parts.nextExpiration cursor = some expiry) : cursor < expiry := by
  have member := List.min?_mem next
  simpa using (List.mem_filter.mp member).2

/-- The loop of `advance_to`: the time from `cursor` to `at_` is cut where sources expire. -/
def account (parts : MovingTimeStateParts) (cursor at_ : Nat) : Except MovingTimeError MovingTimeStateParts :=
  if cursor < at_ then
    match parts.selectedSourceAt cursor with
    | some source =>
      if cursor < min at_ source.expiresAt then do
        let parts ← parts.addObservedInterval (min at_ source.expiresAt - cursor) (isMoving source.speed)
        parts.account (min at_ source.expiresAt) at_
      else do
        let parts ← parts.addUnknownInterval (at_ - cursor)
        parts.account at_ at_
    | none =>
      match expires : parts.nextExpiration cursor with
      | some expiry => do
        let counted ← parts.addUnknownInterval (min at_ expiry - cursor)
        counted.account (min at_ expiry) at_
      | none => do
        let counted ← parts.addUnknownInterval (at_ - cursor)
        counted.account at_ at_
  else .ok parts
  termination_by at_ - cursor
  decreasing_by
    · omega
    · omega
    · have := nextExpiration_lt expires
      omega
    · omega

/-- What the loop of `advance_to` has counted when it ends, also where a counter overflows. -/
def countedUpTo (parts : MovingTimeStateParts) (cursor at_ : Nat) : MovingTimeStateParts :=
  if cursor < at_ then
    match parts.selectedSourceAt cursor with
    | some source =>
      if cursor < min at_ source.expiresAt then
        match parts.addObservedInterval (min at_ source.expiresAt - cursor) (isMoving source.speed) with
        | .ok counted => counted.countedUpTo (min at_ source.expiresAt) at_
        | .error _ => parts
      else match parts.addUnknownInterval (at_ - cursor) with
        | .ok counted => counted.countedUpTo at_ at_
        | .error _ => parts
    | none =>
      match expires : parts.nextExpiration cursor with
      | some expiry => match parts.addUnknownInterval (min at_ expiry - cursor) with
        | .ok counted => counted.countedUpTo (min at_ expiry) at_
        | .error _ => parts
      | none => match parts.addUnknownInterval (at_ - cursor) with
        | .ok counted => counted.countedUpTo at_ at_
        | .error _ => parts
  else parts
  termination_by at_ - cursor
  decreasing_by
    · omega
    · omega
    · have := nextExpiration_lt expires
      omega
    · omega

end MovingTimeStateParts

namespace MovingTimeContinuation

/-- Starts a live ride at its active monotonic start time. -/
def newLive (startAt : Nat) : MovingTimeContinuation := ⟨{ cursor := some startAt, incompleteHistory := false }⟩

/-- An imported or historical ride with no interval evidence. -/
def unavailable : MovingTimeContinuation := ⟨{ cursor := none, incompleteHistory := true }⟩

def fromStateParts (parts : MovingTimeStateParts) : Except MovingTimeError MovingTimeContinuation :=
  if parts.observed < parts.moving ∨ u64Max < parts.observed + parts.unknown ∨
      (parts.phoneGps.any fun source => decide (source.speed < 0)) = true ∨
      (parts.availability = .complete ∧ (0 < parts.unknown ∨ parts.incompleteHistory = true)) ∨
      (parts.availability = .unavailable ∧ (0 < parts.observed ∨ 0 < parts.unknown ∨ parts.phoneGps.isSome = true ∨
        parts.vehicle.isSome = true)) ∨
      (parts.availability = .partially ∧ parts.unknown = 0 ∧ parts.incompleteHistory = false) then
    .error .invalidState
  else match parts.cursor with
    | some cursor =>
      if (parts.phoneGps.any (MovingTimeStateParts.sourceOutOfOrder cursor parts.latestPhoneGpsSource)) = true ∨
          (parts.vehicle.any (MovingTimeStateParts.sourceOutOfOrder cursor parts.latestVehicleSource)) = true ∨
          (parts.latestPhoneGpsSource.any fun latest => decide (cursor < latest)) = true ∨
          (parts.latestVehicleSource.any fun latest => decide (cursor < latest)) = true then
        .error .invalidState
      else .ok ⟨parts⟩
    | none =>
      if parts.phoneGps.isSome = true ∨ parts.vehicle.isSome = true ∨ parts.latestPhoneGpsSource.isSome = true ∨
          parts.latestVehicleSource.isSome = true then
        .error .invalidState
      else .ok ⟨parts⟩

def restoredAfterRestart (parts : MovingTimeStateParts) (_at : Nat) : Except MovingTimeError MovingTimeContinuation := do
  let restored := (← fromStateParts parts).parts
  fromStateParts { restored with
    cursor := none
    phoneGps := none
    vehicle := none
    latestPhoneGpsSource := none
    latestVehicleSource := none
    incompleteHistory := true
    availability := if restored.availability ≠ .unavailable then .partially else restored.availability }

def stateParts (state : MovingTimeContinuation) : MovingTimeStateParts := state.parts

def latestSourceAt (state : MovingTimeContinuation) : MovingTimeSource → Option Nat
  | .phoneGps => state.parts.latestPhoneGpsSource
  | .vehicle => state.parts.latestVehicleSource

def markEvidenceAvailable (parts : MovingTimeStateParts) : MovingTimeStateParts :=
  if parts.availability = .unavailable then
    { parts with
      availability := if parts.incompleteHistory = true ∨ 0 < parts.unknown then .partially else .complete }
  else parts

def advanceTo (state : MovingTimeContinuation) (at_ : Nat) : Except MovingTimeError MovingTimeContinuation :=
  match state.parts.cursor with
  | none => .ok ⟨{ state.parts with cursor := some at_, incompleteHistory := true }⟩
  | some cursor =>
    if at_ < cursor then .error .receiptBeforeCursor
    else do
      let parts ← state.parts.account cursor at_
      .ok ⟨{ parts with cursor := some at_ }⟩

def summary (state : MovingTimeContinuation) : MovingTimeSummary :=
  ⟨state.parts.moving, state.parts.observed, state.parts.unknown, state.parts.availability⟩

/-- Projects a read-only summary through `asOf`. Where a counter overflows, the intervals counted so
far stay in the summary. -/
def projectedAt (state : MovingTimeContinuation) (asOf : Nat) : MovingTimeSummary :=
  if (state.parts.cursor.any fun cursor => decide (asOf < cursor)) = true then state.summary
  else match state.advanceTo asOf with
    | .ok projected => projected.summary
    | .error _ =>
      let counted := state.parts.cursor.elim state.parts fun cursor => state.parts.countedUpTo cursor asOf
      summary ⟨{ counted with availability := .partially }⟩

/-- The evidence of an observation, at its original source time. -/
def record (parts : MovingTimeStateParts) (observation : MovingTimeObservation) :
    Except MovingTimeError MovingTimeStateParts :=
  match observation.source with
  | .phoneGps =>
    let parts := { parts with latestPhoneGpsSource := some observation.sourceAt }
    match observation.speed with
    | some speed => .ok (markEvidenceAvailable { parts with phoneGps := some ⟨speed, observation.sourceAt⟩ })
    | none => .ok parts
  | .vehicle =>
    let parts := { parts with latestVehicleSource := some observation.sourceAt }
    match observation.speed with
    | some speed => .ok (markEvidenceAvailable { parts with vehicle := some ⟨speed, observation.sourceAt⟩ })
    | none => .error .missingVehicleSpeed

def observe (state : MovingTimeContinuation) (observation : MovingTimeObservation) :
    Except MovingTimeError MovingTimeContinuation :=
  if observation.receiptAt < observation.sourceAt then .error .receiptBeforeSource
  else if observation.speed.isSome = true ∧
      telemetryFreshnessMilliseconds < observation.receiptAt - observation.sourceAt then .error .staleAtReceipt
  else if observation.source = .vehicle ∧ observation.speed = none then .error .missingVehicleSpeed
  else if observation.source = .phoneGps ∧ (observation.speed.any fun speed => decide (speed < 0)) = true then
    .error .invalidPhoneGpsSpeed
  else if ((state.latestSourceAt observation.source).any fun latest => decide (observation.sourceAt ≤ latest)) = true then
    .error .sourceTimestampNotNewer
  else do
    let hadCursor := state.parts.cursor.isSome
    let next ← state.advanceTo observation.receiptAt
    let parts := if hadCursor then next.parts else { next.parts with incompleteHistory := true }
    let parts ← record parts observation
    .ok ⟨parts⟩

def closeAt (state : MovingTimeContinuation) (at_ : Nat) : Except MovingTimeError MovingTimeContinuation :=
  if state.parts.cursor = none then .ok state
  else do
    let next ← state.advanceTo at_
    .ok ⟨{ next.parts with
      phoneGps := none
      vehicle := none
      latestPhoneGpsSource := none
      latestVehicleSource := none
      cursor := none }⟩

def resumeAt (state : MovingTimeContinuation) (at_ : Nat) : Except MovingTimeError MovingTimeContinuation :=
  if (state.parts.cursor.any fun cursor => decide (at_ < cursor)) = true then .error .receiptBeforeCursor
  else .ok ⟨{ state.parts with
    cursor := some at_
    phoneGps := none
    vehicle := none
    latestPhoneGpsSource := none
    latestVehicleSource := none
    incompleteHistory := if state.parts.availability = .unavailable then true else state.parts.incompleteHistory }⟩

end MovingTimeContinuation

inductive MovingTimeCall where
  | observe (observation : MovingTimeObservation)
  | closeAt (at_ : Nat)
  | resumeAt (at_ : Nat)
  | restoredAfterRestart (at_ : Nat)
  deriving Repr, DecidableEq

namespace MovingTimeContinuation

def call (state : MovingTimeContinuation) : MovingTimeCall → Except MovingTimeError MovingTimeContinuation
  | .observe observation => state.observe observation
  | .closeAt at_ => state.closeAt at_
  | .resumeAt at_ => state.resumeAt at_
  | .restoredAfterRestart at_ => restoredAfterRestart state.stateParts at_

/-- A failing call leaves the continuation as it was. -/
def step (state : MovingTimeContinuation) (call : MovingTimeCall) : MovingTimeContinuation × Option MovingTimeError :=
  match state.call call with
  | .ok next => (next, none)
  | .error error => (state, some error)

end MovingTimeContinuation

end Cutout.Rides

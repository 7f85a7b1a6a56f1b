import Cutout.Wire

/-! Alarms the phone raises for the connected wheel. Three independent channels each
reserve at most one native delivery at a time; what leaves a channel is completed by the
platform or handed back to it for cancellation. Times are milliseconds. -/

namespace Cutout.Core
open Protocols (u64Max)

def pwmRearmHysteresisPercent : Nat := 5
def failedDeliveryRetryAfter : Nat := 1000
def phoneAlarmRepeatAfter : Nat := 30000
def maxPhoneAlarmDevices : Nat := 256
def maxDeviceIdentityBytes : Nat := 1024

@[ext] structure PwmDutyAlarmThreshold where
  dutyPercent : Nat
  positive : 1 ≤ dutyPercent
  bounded : dutyPercent ≤ 100
  deriving Repr

instance : DecidableEq PwmDutyAlarmThreshold := fun first second =>
  decidable_of_iff (first.dutyPercent = second.dutyPercent) PwmDutyAlarmThreshold.ext_iff.symm

namespace PwmDutyAlarmThreshold

def new (dutyPercent : Nat) : Option PwmDutyAlarmThreshold :=
  if valid : 1 ≤ dutyPercent ∧ dutyPercent ≤ 100 then some ⟨dutyPercent, valid.1, valid.2⟩ else none

def permille (threshold : PwmDutyAlarmThreshold) : Nat := threshold.dutyPercent * 10

def rearmPermille (threshold : PwmDutyAlarmThreshold) : Nat :=
  (threshold.dutyPercent - pwmRearmHysteresisPercent) * 10

end PwmDutyAlarmThreshold

structure PhoneAlarmPreferences where
  enabled : Bool := false
  pwmDutyThreshold : PwmDutyAlarmThreshold := ⟨80, by decide, by decide⟩
  deriving Repr, DecidableEq

inductive PhoneAlarmManagerError where
  | noActiveDevice
  | invalidDeviceIdentity
  | invalidPwmDutyThreshold (value : Nat)
  | invalidPwmHeadroomThreshold (value : Nat)
  | tooManyDevices
  deriving Repr, DecidableEq

inductive PhoneAlarmEvidenceFreshness where
  | fresh | stale | unavailable
  deriving Repr, DecidableEq

inductive RideWarning where
  | none | lowVoltage | highVoltage | mosfetTemperature | motorTemperature | current | dutyPushback | speedPushback
  | temperaturePushback | wheelslip | sensors | lowBattery | error | bmsConnection | unknown
  deriving Repr, DecidableEq

inductive RideStopReason where
  | none | pitch | roll | switchHalf | switchFull | reverse | quickStop
  deriving Repr, DecidableEq

structure PhoneAlarmEvidence where
  freshness : PhoneAlarmEvidenceFreshness
  /-- Signed duty in permille. -/
  pwmDuty : Option Int := none
  controllerWarning : Option RideWarning := none
  controllerStop : Option RideStopReason := none
  deriving Repr, DecidableEq

inductive PhoneAlarmEvent where
  | pwmDuty (dutyPercent headroomPercent : Nat)
  | controllerWarning (warning : RideWarning)
  | controllerStop (reason : RideStopReason)
  deriving Repr, DecidableEq

inductive ActivePhoneAlarmCondition where
  | pwmDuty
  | controllerWarning (warning : RideWarning)
  | controllerStop (reason : RideStopReason)
  deriving Repr, DecidableEq

def PhoneAlarmEvent.condition : PhoneAlarmEvent → ActivePhoneAlarmCondition
  | pwmDuty _ _ => .pwmDuty
  | controllerWarning warning => .controllerWarning warning
  | controllerStop reason => .controllerStop reason

structure PhoneAlarmDeliveryRequest where
  id : Nat
  event : PhoneAlarmEvent
  deriving Repr, DecidableEq

/-- Native effects of one alarm transition. -/
structure PhoneAlarmActions where
  scheduled : List PhoneAlarmDeliveryRequest := []
  cancelledRequestIds : List Nat := []
  deriving Repr, DecidableEq

structure PhoneAlarmPolicy where
  enabled : Bool
  pwmDutyThreshold : PwmDutyAlarmThreshold
  repeatAfter : Nat
  deriving Repr, DecidableEq

structure PhoneAlarmChannelState where
  active : Option ActivePhoneAlarmCondition := none
  deliveredAt : Option Nat := none
  failedAt : Option Nat := none
  pendingRequestId : Option Nat := none
  waitingForRearm : Bool := false
  deriving Repr, DecidableEq

structure PhoneAlarmEvaluator where
  pwm : PhoneAlarmChannelState := {}
  warning : PhoneAlarmChannelState := {}
  stop : PhoneAlarmChannelState := {}
  deriving Repr, DecidableEq

namespace PhoneAlarmEvaluator

def pwmEvent (threshold : PwmDutyAlarmThreshold) (duty : Int) : Option PhoneAlarmEvent :=
  let dutyPermille := min duty.natAbs 1000
  if threshold.permille ≤ dutyPermille then some (.pwmDuty (dutyPermille / 10) (100 - dutyPermille / 10)) else none

def warningEvent : RideWarning → Option PhoneAlarmEvent
  | .none | .unknown => none
  | warning => some (.controllerWarning warning)

def stopEvent : RideStopReason → Option PhoneAlarmEvent
  | .none => none
  | reason => some (.controllerStop reason)

/-- `reserve_if_due` with the next request id, which all evaluators of the process share. -/
def reserveIfDue (state : PhoneAlarmChannelState) (event : Option PhoneAlarmEvent) (repeatAfter now nextRequestId : Nat)
    (actions : PhoneAlarmActions) : PhoneAlarmChannelState × Nat × PhoneAlarmActions :=
  match event with
  | none => (state, nextRequestId, actions)
  | some event =>
    let changed := state.active ≠ some event.condition
    let actions :=
      if changed then
        { actions with cancelledRequestIds := actions.cancelledRequestIds ++ state.pendingRequestId.toList }
      else actions
    let state :=
      if changed then
        { state with active := some event.condition, deliveredAt := none, failedAt := none, pendingRequestId := none }
      else state
    if state.pendingRequestId.isSome then (state, nextRequestId, actions)
    else if state.waitingForRearm then (state, nextRequestId, actions)
    else if (state.deliveredAt.all fun deliveredAt => decide (repeatAfter ≤ now - deliveredAt)) = false ∨
        (state.failedAt.all fun failedAt => decide (failedDeliveryRetryAfter ≤ now - failedAt)) = false then
      (state, nextRequestId, actions)
    -- the shared counter is never wrapped
    else if u64Max ≤ nextRequestId then (state, nextRequestId, actions)
    else
      ({ state with pendingRequestId := some nextRequestId }, nextRequestId + 1,
        { actions with scheduled := actions.scheduled ++ [⟨nextRequestId, event⟩] })

def updatePwmRearm (state : PhoneAlarmChannelState) (threshold : PwmDutyAlarmThreshold) (duty : Option Int)
    (event : Option PhoneAlarmEvent) (actions : PhoneAlarmActions) : PhoneAlarmChannelState × PhoneAlarmActions :=
  if event.isSome then (state, actions)
  else
    let actions := { actions with cancelledRequestIds := actions.cancelledRequestIds ++ state.pendingRequestId.toList }
    if duty.all fun duty => decide (duty.natAbs ≤ threshold.rearmPermille) then ({}, actions)
    else if state.pendingRequestId.isSome then
      ({ state with pendingRequestId := none, waitingForRearm := true }, actions)
    else (state, actions)

def clearIfAbsent (state : PhoneAlarmChannelState) (event : Option PhoneAlarmEvent) (actions : PhoneAlarmActions) :
    PhoneAlarmChannelState × PhoneAlarmActions :=
  if event.isNone then
    ({}, { actions with cancelledRequestIds := actions.cancelledRequestIds ++ state.pendingRequestId.toList })
  else (state, actions)

def pendingIds (evaluator : PhoneAlarmEvaluator) : List Nat :=
  evaluator.pwm.pendingRequestId.toList ++ (evaluator.warning.pendingRequestId.toList ++
    evaluator.stop.pendingRequestId.toList)

/-- The source's `clear`: every channel starts over, and its requests are handed back. -/
def clear (evaluator : PhoneAlarmEvaluator) : PhoneAlarmEvaluator × List Nat := ({}, evaluator.pendingIds)

def evaluate (evaluator : PhoneAlarmEvaluator) (policy : PhoneAlarmPolicy) (evidence : PhoneAlarmEvidence)
    (now nextRequestId : Nat) : PhoneAlarmEvaluator × Nat × PhoneAlarmActions :=
  if policy.enabled = false ∨ evidence.freshness ≠ .fresh then
    (evaluator.clear.1, nextRequestId, { cancelledRequestIds := evaluator.clear.2 })
  else
    let pwmEvent := evidence.pwmDuty.bind (pwmEvent policy.pwmDutyThreshold)
    let rearmed := updatePwmRearm evaluator.pwm policy.pwmDutyThreshold evidence.pwmDuty pwmEvent {}
    let pwm := reserveIfDue rearmed.1 pwmEvent policy.repeatAfter now nextRequestId rearmed.2
    let warningEvent := evidence.controllerWarning.bind warningEvent
    let cleared := clearIfAbsent evaluator.warning warningEvent pwm.2.2
    let warning := reserveIfDue cleared.1 warningEvent policy.repeatAfter now pwm.2.1 cleared.2
    let stopEvent := evidence.controllerStop.bind stopEvent
    let idle := clearIfAbsent evaluator.stop stopEvent warning.2.2
    let stop := reserveIfDue idle.1 stopEvent policy.repeatAfter now warning.2.1 idle.2
    (⟨pwm.1, warning.1, stop.1⟩, stop.2.1, stop.2.2)

/-- The outcome of a delivery in the channel that waits for it. -/
def completed (state : PhoneAlarmChannelState) (delivered : Bool) (now : Nat) : PhoneAlarmChannelState :=
  if delivered then { state with pendingRequestId := none, deliveredAt := some now, failedAt := none }
  else { state with pendingRequestId := none, failedAt := some now }

def completeDelivery (evaluator : PhoneAlarmEvaluator) (requestId : Nat) (delivered : Bool) (now : Nat) :
    PhoneAlarmEvaluator × Bool :=
  if evaluator.pwm.pendingRequestId = some requestId then
    ({ evaluator with pwm := completed evaluator.pwm delivered now }, true)
  else if evaluator.warning.pendingRequestId = some requestId then
    ({ evaluator with warning := completed evaluator.warning delivered now }, true)
  else if evaluator.stop.pendingRequestId = some requestId then
    ({ evaluator with stop := completed evaluator.stop delivered now }, true)
  else (evaluator, false)

end PhoneAlarmEvaluator

/-- The preference store, one entry for each device. -/
abbrev PhoneAlarmStore := List (String × PhoneAlarmPreferences)

namespace PhoneAlarmStore

def insert : PhoneAlarmStore → String → PhoneAlarmPreferences → PhoneAlarmStore
  | [], identity, preferences => [(identity, preferences)]
  | entry :: later, identity, preferences =>
    if entry.1 = identity then (identity, preferences) :: later else entry :: insert later identity preferences

end PhoneAlarmStore

structure PhoneAlarmManager where
  activeIdentity : Option String := none
  preferences : PhoneAlarmStore := []
  evaluator : PhoneAlarmEvaluator := {}
  cancelledRequestIds : List Nat := []
  deriving Repr, DecidableEq

namespace PhoneAlarmManager

/-- Characters with the Unicode property White_Space. -/
def isWhitespace (char : Char) : Bool :=
  let code := char.toNat
  decide (9 ≤ code ∧ code ≤ 13 ∨ code = 32 ∨ code = 0x85 ∨ code = 0xA0 ∨ code = 0x1680 ∨ 0x2000 ≤ code ∧ code ≤ 0x200A ∨
    code = 0x2028 ∨ code = 0x2029 ∨ code = 0x202F ∨ code = 0x205F ∨ code = 0x3000)

def validIdentity (identity : String) : Bool :=
  !identity.toList.all isWhitespace && decide (identity.utf8ByteSize ≤ maxDeviceIdentityBytes)

def invalidate (manager : PhoneAlarmManager) : PhoneAlarmManager :=
  { manager with
    evaluator := manager.evaluator.clear.1
    cancelledRequestIds := manager.cancelledRequestIds ++ manager.evaluator.clear.2 }

/-- Whether the store has no room for another device. -/
def full (manager : PhoneAlarmManager) (identity : String) : Bool :=
  (manager.preferences.lookup identity).isNone && decide (maxPhoneAlarmDevices ≤ manager.preferences.length)

def activateDevice (manager : PhoneAlarmManager) (identity : String) :
    PhoneAlarmManager × Except PhoneAlarmManagerError PhoneAlarmPreferences :=
  if validIdentity identity = false then (manager, .error .invalidDeviceIdentity)
  else if manager.full identity then (manager, .error .tooManyDevices)
  else
    let preferences := (manager.preferences.lookup identity).getD {}
    let active := { manager with
      activeIdentity := some identity
      preferences := manager.preferences.insert identity preferences }
    (if manager.activeIdentity ≠ some identity then active.invalidate else active, .ok preferences)

def clearActiveDevice (manager : PhoneAlarmManager) : PhoneAlarmManager :=
  { manager with activeIdentity := none }.invalidate

def activePreferences (manager : PhoneAlarmManager) : Option PhoneAlarmPreferences :=
  manager.activeIdentity.bind fun identity => manager.preferences.lookup identity

def updateActivePreferences (manager : PhoneAlarmManager) (update : PhoneAlarmPreferences → PhoneAlarmPreferences) :
    PhoneAlarmManager × Except PhoneAlarmManagerError Unit :=
  match manager.activeIdentity with
  | none => (manager, .error .noActiveDevice)
  | some identity =>
    match manager.preferences.lookup identity with
    | none => (manager, .error .noActiveDevice)
    | some previous =>
      let updated := { manager with preferences := manager.preferences.insert identity (update previous) }
      (if update previous ≠ previous then updated.invalidate else updated, .ok ())

def setEnabled (manager : PhoneAlarmManager) (enabled : Bool) : PhoneAlarmManager × Except PhoneAlarmManagerError Unit :=
  manager.updateActivePreferences fun preferences => { preferences with enabled }

def setDutyPercent (manager : PhoneAlarmManager) (dutyPercent : Nat) :
    PhoneAlarmManager × Except PhoneAlarmManagerError Unit :=
  match PwmDutyAlarmThreshold.new dutyPercent with
  | none => (manager, .error (.invalidPwmDutyThreshold dutyPercent))
  | some threshold => manager.updateActivePreferences fun preferences => { preferences with pwmDutyThreshold := threshold }

def setHeadroomPercent (manager : PhoneAlarmManager) (headroomPercent : Nat) :
    PhoneAlarmManager × Except PhoneAlarmManagerError Unit :=
  if 100 ≤ headroomPercent then (manager, .error (.invalidPwmHeadroomThreshold headroomPercent))
  else manager.setDutyPercent (100 - headroomPercent)

def withPendingCancellations (manager : PhoneAlarmManager) (actions : PhoneAlarmActions) :
    PhoneAlarmManager × PhoneAlarmActions :=
  if manager.cancelledRequestIds ≠ [] then
    ({ manager with cancelledRequestIds := [] },
      { actions with cancelledRequestIds := manager.cancelledRequestIds ++ actions.cancelledRequestIds })
  else (manager, actions)

def evaluate (manager : PhoneAlarmManager) (evidence : PhoneAlarmEvidence) (now nextRequestId : Nat) :
    PhoneAlarmManager × Nat × PhoneAlarmActions :=
  match manager.activePreferences with
  | none =>
    let flushed := manager.invalidate.withPendingCancellations {}
    (flushed.1, nextRequestId, flushed.2)
  | some preferences =>
    if preferences.enabled = false ∨ evidence.freshness ≠ .fresh then
      let flushed := manager.invalidate.withPendingCancellations {}
      (flushed.1, nextRequestId, flushed.2)
    else
      let policy : PhoneAlarmPolicy := ⟨true, preferences.pwmDutyThreshold, phoneAlarmRepeatAfter⟩
      let evaluated := manager.evaluator.evaluate policy evidence now nextRequestId
      let flushed := { manager with evaluator := evaluated.1 }.withPendingCancellations evaluated.2.2
      (flushed.1, evaluated.2.1, flushed.2)

def completeDelivery (manager : PhoneAlarmManager) (requestId : Nat) (delivered : Bool) (now : Nat) :
    PhoneAlarmManager × Bool :=
  if manager.activeIdentity.isSome then
    let completed := manager.evaluator.completeDelivery requestId delivered now
    ({ manager with evaluator := completed.1 }, completed.2)
  else (manager, false)

def invalidateDeliveries (manager : PhoneAlarmManager) : PhoneAlarmManager × List Nat :=
  ({ manager with evaluator := manager.evaluator.clear.1, cancelledRequestIds := [] },
    manager.cancelledRequestIds ++ manager.evaluator.clear.2)

def takeCancelledRequestIds (manager : PhoneAlarmManager) : PhoneAlarmManager × List Nat :=
  ({ manager with cancelledRequestIds := [] }, manager.cancelledRequestIds)

def restorePreferences (manager : PhoneAlarmManager) (identity : String) (preferences : PhoneAlarmPreferences) :
    PhoneAlarmManager × Except PhoneAlarmManagerError Unit :=
  if validIdentity identity = false then (manager, .error .invalidDeviceIdentity)
  else if manager.full identity then (manager, .error .tooManyDevices)
  else
    let restored := { manager with preferences := manager.preferences.insert identity preferences }
    (if manager.activeIdentity = some identity ∧ manager.preferences.lookup identity ≠ some preferences then
      restored.invalidate
    else restored, .ok ())

end PhoneAlarmManager

/-- A manager with the process-wide counter it takes request ids from. -/
structure PhoneAlarms where
  manager : PhoneAlarmManager := {}
  nextRequestId : Nat := 1
  deriving Repr, DecidableEq

inductive PhoneAlarmCall where
  | activateDevice (identity : String)
  | clearActiveDevice
  | setEnabled (enabled : Bool)
  | setDutyPercent (dutyPercent : Nat)
  | setHeadroomPercent (headroomPercent : Nat)
  | restorePreferences (identity : String) (preferences : PhoneAlarmPreferences)
  | evaluate (evidence : PhoneAlarmEvidence) (now : Nat)
  | completeDelivery (requestId : Nat) (delivered : Bool) (now : Nat)
  | invalidateDeliveries
  | takeCancelledRequestIds
  /-- Another evaluator of the process takes ids from the shared counter. -/
  | takenElsewhere (count : Nat)
  deriving Repr, DecidableEq

inductive PhoneAlarmReply where
  | preferences (result : Except PhoneAlarmManagerError PhoneAlarmPreferences)
  | updated (result : Except PhoneAlarmManagerError Unit)
  | actions (actions : PhoneAlarmActions)
  | completed (accepted : Bool)
  | cancelled (requestIds : List Nat)
  | done

def PhoneAlarms.step (alarms : PhoneAlarms) : PhoneAlarmCall → PhoneAlarms × PhoneAlarmReply
  | .activateDevice identity =>
    let result := alarms.manager.activateDevice identity
    ({ alarms with manager := result.1 }, .preferences result.2)
  | .clearActiveDevice => ({ alarms with manager := alarms.manager.clearActiveDevice }, .done)
  | .setEnabled enabled =>
    let result := alarms.manager.setEnabled enabled
    ({ alarms with manager := result.1 }, .updated result.2)
  | .setDutyPercent dutyPercent =>
    let result := alarms.manager.setDutyPercent dutyPercent
    ({ alarms with manager := result.1 }, .updated result.2)
  | .setHeadroomPercent headroomPercent =>
    let result := alarms.manager.setHeadroomPercent headroomPercent
    ({ alarms with manager := result.1 }, .updated result.2)
  | .restorePreferences identity preferences =>
    let result := alarms.manager.restorePreferences identity preferences
    ({ alarms with manager := result.1 }, .updated result.2)
  | .evaluate evidence now =>
    let result := alarms.manager.evaluate evidence now alarms.nextRequestId
    (⟨result.1, result.2.1⟩, .actions result.2.2)
  | .completeDelivery requestId delivered now =>
    let result := alarms.manager.completeDelivery requestId delivered now
    ({ alarms with manager := result.1 }, .completed result.2)
  | .invalidateDeliveries =>
    let result := alarms.manager.invalidateDeliveries
    ({ alarms with manager := result.1 }, .cancelled result.2)
  | .takeCancelledRequestIds =>
    let result := alarms.manager.takeCancelledRequestIds
    ({ alarms with manager := result.1 }, .cancelled result.2)
  | .takenElsewhere count => ({ alarms with nextRequestId := alarms.nextRequestId + count }, .done)

end Cutout.Core

import Cutout.PhoneAlarm
import Cutout.Library.Runs

/-! Conservation of alarm requests. A request leaves its channel only into the hands of
the platform: completed, or named for cancellation. The identities a run schedules
are therefore always those pending, completed, queued for cancellation and handed
out, each of them once. -/

namespace Cutout.Core
open Library
open Protocols (u64Max)
variable (evaluator : PhoneAlarmEvaluator)

namespace PhoneAlarmEvaluator
variable (state : PhoneAlarmChannelState)

def ids (requests : List PhoneAlarmDeliveryRequest) : List Nat := requests.map PhoneAlarmDeliveryRequest.id

/-- Requests held by channels and actions collected so far, before and after a channel was looked at:
what is newly scheduled has the next identities, and no request is lost or doubled. -/
structure Flows (held : List Nat) (next : Nat) (actions : PhoneAlarmActions) (held' : List Nat) (next' : Nat)
    (actions' : PhoneAlarmActions) : Prop where
  scheduled : ids actions'.scheduled = ids actions.scheduled ++ List.range' next (next' - next)
  counted : next ≤ next'
  conserved : ∀ id, held'.count id + actions'.cancelledRequestIds.count id + (ids actions.scheduled).count id =
    held.count id + actions.cancelledRequestIds.count id + (ids actions'.scheduled).count id

variable {held held' held'' : List Nat} {next next' next'' : Nat} {actions actions' actions'' : PhoneAlarmActions}

theorem Flows.same (held : List Nat) (next : Nat) (actions : PhoneAlarmActions) :
    Flows held next actions held next actions := ⟨by simp, le_refl _, fun _ => rfl⟩

theorem Flows.both {others others' : List Nat} (first : Flows held next actions held' next' actions')
    (second : Flows others next' actions' others' next'' actions'') :
    Flows (held ++ others) next actions (held' ++ others') next'' actions'' := by
  have below := first.counted
  have below' := second.counted
  refine ⟨?_, below.trans below', ?_⟩
  · rw [second.scheduled, first.scheduled, List.append_assoc]
    have joined := List.range'_append_1 (s := next) (m := next' - next) (n := next'' - next')
    rw [Nat.add_sub_cancel' below] at joined
    rw [joined]
    congr 2
    omega
  · intro id
    have := first.conserved id
    have := second.conserved id
    simp only [List.count_append]
    omega

theorem Flows.trans (first : Flows held next actions held' next' actions')
    (second : Flows held' next' actions' held'' next'' actions'') : Flows held next actions held'' next'' actions'' := by
  obtain ⟨scheduled, counted, conserved⟩ := first.both second
  refine ⟨scheduled, counted, ?_⟩
  intro id
  have := conserved id
  simp only [List.count_append] at this
  omega

theorem Flows.cancel (held : List Nat) (next : Nat) (actions : PhoneAlarmActions) : Flows held next actions [] next
    { actions with cancelledRequestIds := actions.cancelledRequestIds ++ held } := by
  refine ⟨by simp, le_refl _, ?_⟩
  intro id
  simp only [List.count_append, List.count_nil]
  omega

private theorem Flows.reserve (next : Nat) (actions : PhoneAlarmActions) (event : PhoneAlarmEvent) :
    Flows [] next actions [next] (next + 1) { actions with scheduled := actions.scheduled ++ [⟨next, event⟩] } := by
  refine ⟨?_, Nat.le_succ next, ?_⟩
  · simp [ids]
  · intro id
    simp only [ids, List.map_append, List.map_cons, List.map_nil, List.count_append, List.count_nil]
    omega

private theorem updatePwmRearm_flows (threshold : PwmDutyAlarmThreshold) (duty : Option Int) (event : Option PhoneAlarmEvent)
    (next : Nat) (actions : PhoneAlarmActions) : Flows state.pendingRequestId.toList next actions
      (updatePwmRearm state threshold duty event actions).1.pendingRequestId.toList next
      (updatePwmRearm state threshold duty event actions).2 := by
  unfold updatePwmRearm
  split
  · exact .same _ _ _
  · dsimp only
    split
    · exact .cancel _ _ _
    · split
      · exact .cancel _ _ _
      · next idle =>
        have idle : state.pendingRequestId = none := by simpa using idle
        rw [idle]
        exact .cancel _ _ _

theorem clearIfAbsent_flows (event : Option PhoneAlarmEvent) (next : Nat) (actions : PhoneAlarmActions) :
    Flows state.pendingRequestId.toList next actions
      (clearIfAbsent state event actions).1.pendingRequestId.toList next (clearIfAbsent state event actions).2 := by
  unfold clearIfAbsent
  split
  · exact .cancel _ _ _
  · exact .same _ _ _

/-- The channel of an event that is present: a new condition starts the channel over. -/
def opened (state : PhoneAlarmChannelState) (event : PhoneAlarmEvent) : PhoneAlarmChannelState :=
  if state.active ≠ some event.condition then
    { state with active := some event.condition, deliveredAt := none, failedAt := none, pendingRequestId := none }
  else state

def returned (state : PhoneAlarmChannelState) (event : PhoneAlarmEvent) (actions : PhoneAlarmActions) :
    PhoneAlarmActions :=
  if state.active ≠ some event.condition then
    { actions with cancelledRequestIds := actions.cancelledRequestIds ++ state.pendingRequestId.toList }
  else actions

def Rested (state : PhoneAlarmChannelState) (repeatAfter now : Nat) : Prop :=
  (∀ deliveredAt, state.deliveredAt = some deliveredAt → repeatAfter ≤ now - deliveredAt) ∧
    ∀ failedAt, state.failedAt = some failedAt → failedDeliveryRetryAfter ≤ now - failedAt

theorem reserveIfDue_cases (event : PhoneAlarmEvent) (repeatAfter now next : Nat) (actions : PhoneAlarmActions) :
    reserveIfDue state (some event) repeatAfter now next actions =
      (opened state event, next, returned state event actions) ∨
    (opened state event).pendingRequestId = none ∧ Rested (opened state event) repeatAfter now ∧
      reserveIfDue state (some event) repeatAfter now next actions =
        ({ opened state event with pendingRequestId := some next }, next + 1,
          { returned state event actions with
            scheduled := (returned state event actions).scheduled ++ [⟨next, event⟩] }) := by
  have shape : reserveIfDue state (some event) repeatAfter now next actions =
      if (opened state event).pendingRequestId.isSome then (opened state event, next, returned state event actions)
      else if (opened state event).waitingForRearm then (opened state event, next, returned state event actions)
      else if ((opened state event).deliveredAt.all fun deliveredAt => decide (repeatAfter ≤ now - deliveredAt)) = false ∨
          ((opened state event).failedAt.all fun failedAt => decide (failedDeliveryRetryAfter ≤ now - failedAt)) = false
        then (opened state event, next, returned state event actions)
      else if u64Max ≤ next then (opened state event, next, returned state event actions)
      else ({ opened state event with pendingRequestId := some next }, next + 1,
          { returned state event actions with
            scheduled := (returned state event actions).scheduled ++ [⟨next, event⟩] }) := rfl
  rw [shape]
  split
  · exact .inl rfl
  · next idle =>
    split
    · exact .inl rfl
    · split
      · exact .inl rfl
      · next due =>
        split
        · exact .inl rfl
        · refine .inr ⟨by simpa using idle, ⟨?_, ?_⟩, rfl⟩
          · intro deliveredAt known
            simp only [known, not_or, Bool.not_eq_false, Option.all_some, decide_eq_true_iff] at due
            exact due.1
          · intro failedAt known
            simp only [known, not_or, Bool.not_eq_false, Option.all_some, decide_eq_true_iff] at due
            exact due.2

private theorem opened_flows (event : PhoneAlarmEvent) (next : Nat) (actions : PhoneAlarmActions) :
    Flows state.pendingRequestId.toList next actions (opened state event).pendingRequestId.toList next
      (returned state event actions) := by
  unfold opened returned
  split
  · exact .cancel _ _ _
  · exact .same _ _ _

theorem reserveIfDue_flows (event : Option PhoneAlarmEvent) (repeatAfter now next : Nat) (actions : PhoneAlarmActions) :
    Flows state.pendingRequestId.toList next actions
      (reserveIfDue state event repeatAfter now next actions).1.pendingRequestId.toList
      (reserveIfDue state event repeatAfter now next actions).2.1
      (reserveIfDue state event repeatAfter now next actions).2.2 := by
  cases event with
  | none => exact .same _ _ _
  | some event =>
    have first := opened_flows state event next actions
    rcases reserveIfDue_cases state event repeatAfter now next actions with quiet | ⟨idle, -, reserved⟩
    · rw [quiet]
      exact first
    · rw [reserved]
      rw [idle] at first
      exact first.trans (.reserve _ _ _)

private theorem evaluate_flows (policy : PhoneAlarmPolicy) (evidence : PhoneAlarmEvidence) (now next : Nat) :
    Flows evaluator.pendingIds next {} (evaluator.evaluate policy evidence now next).1.pendingIds
      (evaluator.evaluate policy evidence now next).2.1 (evaluator.evaluate policy evidence now next).2.2 := by
  unfold evaluate
  split
  · exact .cancel _ _ _
  · exact ((updatePwmRearm_flows ..).trans (reserveIfDue_flows ..)).both
      (((clearIfAbsent_flows ..).trans (reserveIfDue_flows ..)).both
        ((clearIfAbsent_flows ..).trans (reserveIfDue_flows ..)))

end PhoneAlarmEvaluator

namespace PhoneAlarms
open PhoneAlarmEvaluator (ids Flows)
variable (manager : PhoneAlarmManager)

abbrev AlarmStep := Step PhoneAlarms PhoneAlarmCall PhoneAlarmReply

def scheduledIds : PhoneAlarmReply → List Nat
  | .actions actions => ids actions.scheduled
  | _ => []

def handedIds : PhoneAlarmReply → List Nat
  | .actions actions => actions.cancelledRequestIds
  | .cancelled requestIds => requestIds
  | _ => []

def completedIds : PhoneAlarmCall → PhoneAlarmReply → List Nat
  | .completeDelivery requestId _ _, .completed true => [requestId]
  | _, _ => []

def pending (alarms : PhoneAlarms) : List Nat := alarms.manager.evaluator.pendingIds

def queued (alarms : PhoneAlarms) : List Nat := alarms.manager.cancelledRequestIds

structure Balanced (alarms : PhoneAlarms) (call : PhoneAlarmCall) (result : PhoneAlarms × PhoneAlarmReply) : Prop where
  counted : alarms.nextRequestId ≤ result.1.nextRequestId
  scheduled : scheduledIds result.2 = [] ∨ scheduledIds result.2 =
    List.range' alarms.nextRequestId (result.1.nextRequestId - alarms.nextRequestId)
  conserved : ∀ id, result.1.pending.count id + result.1.queued.count id + (completedIds call result.2).count id +
      (handedIds result.2).count id =
    alarms.pending.count id + alarms.queued.count id + (scheduledIds result.2).count id

variable {alarms : PhoneAlarms} {call : PhoneAlarmCall}

/-- The channels are as they were, or all cleared with their requests queued for cancellation. -/
inductive Reconfigures (before after : PhoneAlarmManager) : Prop where
  | keeps (evaluator : after.evaluator = before.evaluator)
      (queue : after.cancelledRequestIds = before.cancelledRequestIds)
  | clears (evaluator : after.evaluator = {})
      (queue : after.cancelledRequestIds = before.cancelledRequestIds ++ before.evaluator.pendingIds)

private theorem activateDevice_reconfigures (identity : String) :
    Reconfigures manager (manager.activateDevice identity).1 := by
  unfold PhoneAlarmManager.activateDevice
  split
  · exact .keeps rfl rfl
  · split
    · exact .keeps rfl rfl
    · dsimp only
      split
      · exact .clears rfl rfl
      · exact .keeps rfl rfl

theorem updateActivePreferences_reconfigures (update : PhoneAlarmPreferences → PhoneAlarmPreferences) :
    Reconfigures manager (manager.updateActivePreferences update).1 := by
  unfold PhoneAlarmManager.updateActivePreferences
  split
  · exact .keeps rfl rfl
  · split
    · exact .keeps rfl rfl
    · dsimp only
      split
      · exact .clears rfl rfl
      · exact .keeps rfl rfl

theorem setDutyPercent_reconfigures (dutyPercent : Nat) :
    Reconfigures manager (manager.setDutyPercent dutyPercent).1 := by
  unfold PhoneAlarmManager.setDutyPercent
  split
  · exact .keeps rfl rfl
  · exact updateActivePreferences_reconfigures manager _

private theorem setHeadroomPercent_reconfigures (headroomPercent : Nat) :
    Reconfigures manager (manager.setHeadroomPercent headroomPercent).1 := by
  unfold PhoneAlarmManager.setHeadroomPercent
  split
  · exact .keeps rfl rfl
  · exact setDutyPercent_reconfigures manager _

private theorem restorePreferences_reconfigures (identity : String) (preferences : PhoneAlarmPreferences) :
    Reconfigures manager (manager.restorePreferences identity preferences).1 := by
  unfold PhoneAlarmManager.restorePreferences
  split
  · exact .keeps rfl rfl
  · split
    · exact .keeps rfl rfl
    · dsimp only
      split
      · exact .clears rfl rfl
      · exact .keeps rfl rfl

def configures : PhoneAlarmCall → Bool
  | .evaluate _ _ | .completeDelivery _ _ _ | .invalidateDeliveries | .takeCancelledRequestIds => false
  | _ => true

theorem step_reconfigures (alarms : PhoneAlarms) (kind : configures call = true) :
    Reconfigures alarms.manager (alarms.step call).1.manager ∧ scheduledIds (alarms.step call).2 = [] ∧
      handedIds (alarms.step call).2 = [] ∧ completedIds call (alarms.step call).2 = [] ∧
      alarms.nextRequestId ≤ (alarms.step call).1.nextRequestId := by
  cases call with
  | activateDevice identity => exact ⟨activateDevice_reconfigures _ identity, rfl, rfl, rfl, le_refl _⟩
  | clearActiveDevice => exact ⟨.clears rfl rfl, rfl, rfl, rfl, le_refl _⟩
  | setEnabled enabled => exact ⟨updateActivePreferences_reconfigures _ _, rfl, rfl, rfl, le_refl _⟩
  | setDutyPercent dutyPercent => exact ⟨setDutyPercent_reconfigures _ dutyPercent, rfl, rfl, rfl, le_refl _⟩
  | setHeadroomPercent headroom => exact ⟨setHeadroomPercent_reconfigures _ headroom, rfl, rfl, rfl, le_refl _⟩
  | restorePreferences identity preferences =>
    exact ⟨restorePreferences_reconfigures _ identity preferences, rfl, rfl, rfl, le_refl _⟩
  | takenElsewhere count => exact ⟨.keeps rfl rfl, rfl, rfl, rfl, Nat.le_add_right _ _⟩
  | evaluate | completeDelivery | invalidateDeliveries | takeCancelledRequestIds => cases kind

theorem Reconfigures.conserved {before after : PhoneAlarmManager} (moved : Reconfigures before after) (id : Nat) :
    after.evaluator.pendingIds.count id + after.cancelledRequestIds.count id =
      before.evaluator.pendingIds.count id + before.cancelledRequestIds.count id := by
  cases moved with
  | keeps evaluator queue => rw [evaluator, queue]
  | clears evaluator queue =>
    rw [evaluator, queue, List.count_append]
    simp only [PhoneAlarmEvaluator.pendingIds, Option.toList_none, List.append_nil, List.count_nil]
    omega

private theorem invalidate_conserved (id : Nat) :
    manager.invalidate.evaluator.pendingIds.count id + manager.invalidate.cancelledRequestIds.count id =
      manager.evaluator.pendingIds.count id + manager.cancelledRequestIds.count id :=
  Reconfigures.conserved (.clears rfl rfl) id

theorem withPendingCancellations_moves (actions : PhoneAlarmActions) :
    (manager.withPendingCancellations actions).1.evaluator = manager.evaluator ∧
    (manager.withPendingCancellations actions).2.scheduled = actions.scheduled ∧
    ∀ id, (manager.withPendingCancellations actions).1.cancelledRequestIds.count id +
        (manager.withPendingCancellations actions).2.cancelledRequestIds.count id =
      manager.cancelledRequestIds.count id + actions.cancelledRequestIds.count id := by
  unfold PhoneAlarmManager.withPendingCancellations
  split
  · refine ⟨rfl, rfl, ?_⟩
    intro id
    simp only [List.count_append, List.count_nil]
    omega
  · exact ⟨rfl, rfl, fun _ => rfl⟩

theorem Balanced.evaluate (alarms : PhoneAlarms) (evidence : PhoneAlarmEvidence) (now : Nat) :
    Balanced alarms (.evaluate evidence now) (alarms.step (.evaluate evidence now)) := by
  have idle (flushed : PhoneAlarmManager × PhoneAlarmActions)
      (same : flushed = alarms.manager.invalidate.withPendingCancellations {}) :
      Balanced alarms (.evaluate evidence now) (⟨flushed.1, alarms.nextRequestId⟩, .actions flushed.2) := by
    obtain ⟨evaluator, scheduled, handed⟩ := withPendingCancellations_moves alarms.manager.invalidate {}
    rw [← same] at evaluator scheduled handed
    refine ⟨le_refl _, .inl (by rw [scheduledIds, scheduled]; rfl), ?_⟩
    intro id
    have := handed id
    have := invalidate_conserved alarms.manager id
    simp only [pending, queued, completedIds, handedIds, scheduledIds, evaluator, scheduled, ids, List.map_nil,
      List.count_nil] at *
    omega
  rw [step, PhoneAlarmManager.evaluate]
  split
  · exact idle _ rfl
  · next preferences known =>
    split
    · exact idle _ rfl
    · dsimp only
      generalize evaluated : alarms.manager.evaluator.evaluate _ evidence now alarms.nextRequestId = result
      have flows := PhoneAlarmEvaluator.evaluate_flows alarms.manager.evaluator
        ⟨true, preferences.pwmDutyThreshold, phoneAlarmRepeatAfter⟩ evidence now alarms.nextRequestId
      rw [evaluated] at flows
      obtain ⟨evaluator, scheduled, handed⟩ :=
        withPendingCancellations_moves { alarms.manager with evaluator := result.1 } result.2.2
      refine ⟨flows.counted, .inr ?_, ?_⟩
      · rw [scheduledIds, scheduled]
        exact flows.scheduled
      · intro id
        have := handed id
        have := flows.conserved id
        simp only [pending, queued, completedIds, handedIds, scheduledIds, evaluator, scheduled, ids, List.map_nil,
          List.count_nil] at *
        omega

private theorem completeDelivery_moves (requestId : Nat) (delivered : Bool) (now id : Nat) :
    (evaluator.completeDelivery requestId delivered now).1.pendingIds.count id +
        (if (evaluator.completeDelivery requestId delivered now).2 then [requestId] else []).count id =
      evaluator.pendingIds.count id := by
  have released (state : PhoneAlarmChannelState) :
      (PhoneAlarmEvaluator.completed state delivered now).pendingRequestId = none := by
    unfold PhoneAlarmEvaluator.completed
    split <;> rfl
  unfold PhoneAlarmEvaluator.completeDelivery
  split
  · next known =>
    simp only [PhoneAlarmEvaluator.pendingIds, released, known, Option.toList_none, Option.toList_some, if_true,
      List.count_append, List.count_nil]
    omega
  · split
    · next known =>
      simp only [PhoneAlarmEvaluator.pendingIds, released, known, Option.toList_none, Option.toList_some, if_true,
        List.count_append, List.count_nil]
      omega
    · split
      · next known =>
        simp only [PhoneAlarmEvaluator.pendingIds, released, known, Option.toList_none, Option.toList_some, if_true,
          List.count_append, List.count_nil]
        omega
      · simp

theorem Balanced.completeDelivery (alarms : PhoneAlarms) (requestId : Nat) (delivered : Bool) (now : Nat) :
    Balanced alarms (.completeDelivery requestId delivered now)
      (alarms.step (.completeDelivery requestId delivered now)) := by
  rw [step, PhoneAlarmManager.completeDelivery]
  split
  · refine ⟨le_refl _, .inl rfl, ?_⟩
    intro id
    have moves := completeDelivery_moves alarms.manager.evaluator requestId delivered now id
    dsimp only
    cases accepted : (alarms.manager.evaluator.completeDelivery requestId delivered now).2 <;>
      simp only [accepted, pending, queued, completedIds, handedIds, scheduledIds, List.count_nil, if_true,
        Bool.false_eq_true, if_false] at moves ⊢ <;>
      omega
  · exact ⟨le_refl _, .inl rfl, fun _ => rfl⟩

private theorem Balanced.configure (alarms : PhoneAlarms) (kind : configures call = true) :
    Balanced alarms call (alarms.step call) := by
  obtain ⟨moved, silent, kept, open_, counted⟩ := step_reconfigures alarms kind
  refine ⟨counted, .inl silent, ?_⟩
  intro id
  have := moved.conserved id
  rw [silent, kept, open_]
  simp only [pending, queued, List.count_nil]
  omega

private theorem step_balanced (alarms : PhoneAlarms) (call : PhoneAlarmCall) : Balanced alarms call (alarms.step call) := by
  cases call with
  | evaluate evidence now => exact .evaluate alarms evidence now
  | completeDelivery requestId delivered now => exact .completeDelivery alarms requestId delivered now
  | invalidateDeliveries =>
    refine ⟨le_refl _, .inl rfl, ?_⟩
    intro id
    simp only [step, PhoneAlarmManager.invalidateDeliveries, PhoneAlarmEvaluator.clear, pending, queued, completedIds,
      handedIds, scheduledIds, PhoneAlarmEvaluator.pendingIds, Option.toList_none, List.count_append, List.count_nil]
    omega
  | takeCancelledRequestIds =>
    refine ⟨le_refl _, .inl rfl, ?_⟩
    intro id
    simp only [step, PhoneAlarmManager.takeCancelledRequestIds, pending, queued, completedIds, handedIds, scheduledIds,
      List.count_nil]
    omega
  | activateDevice | clearActiveDevice | setEnabled | setDutyPercent | setHeadroomPercent | restorePreferences
  | takenElsewhere => exact .configure alarms rfl

/-- All identities scheduled, completed and handed out in a history. -/
def scheduled (past : List AlarmStep) : List Nat := past.flatMap fun here => scheduledIds here.output

def completed (past : List AlarmStep) : List Nat := past.flatMap fun here => completedIds here.input here.output

def handed (past : List AlarmStep) : List Nat := past.flatMap fun here => handedIds here.output

/-- The books of a run: every scheduled identity is new, and is in one place. -/
structure Ledger (past : List AlarmStep) (alarms : PhoneAlarms) : Prop where
  bounded : ∀ id ∈ scheduled past, id < alarms.nextRequestId
  unique : (scheduled past).Nodup
  balance : ∀ id, (scheduled past).count id = alarms.pending.count id + alarms.queued.count id +
    (completed past).count id + (handed past).count id

variable {past : List AlarmStep}

theorem Ledger.extend (ledger : Ledger past alarms) (call : PhoneAlarmCall) :
    Ledger (past ++ [Runs.take step alarms call]) (alarms.step call).1 := by
  have balanced := step_balanced alarms call
  have grows : scheduled (past ++ [Runs.take step alarms call]) = scheduled past ++ scheduledIds (alarms.step call).2 := by
    simp [scheduled, Runs.take]
  have fresh : ∀ id ∈ scheduledIds (alarms.step call).2,
      alarms.nextRequestId ≤ id ∧ id < (alarms.step call).1.nextRequestId := by
    intro id member
    have below := balanced.counted
    rcases balanced.scheduled with silent | counted
    · rw [silent] at member
      cases member
    · rw [counted, List.mem_range'_1] at member
      omega
  refine ⟨?_, ?_, ?_⟩
  · intro id member
    rw [grows, List.mem_append] at member
    rcases member with old | new
    · exact (ledger.bounded id old).trans_le balanced.counted
    · exact (fresh id new).2
  · rw [grows, List.nodup_append]
    refine ⟨ledger.unique, ?_, ?_⟩
    · rcases balanced.scheduled with silent | counted
      · rw [silent]
        exact List.nodup_nil
      · rw [counted]
        exact List.nodup_range'
    · intro old inside new added same
      have := ledger.bounded old inside
      have := (fresh new added).1
      omega
  · intro id
    have := ledger.balance id
    have := balanced.conserved id
    rw [grows]
    simp only [completed, handed, List.flatMap_append, List.flatMap_singleton, List.count_append, Runs.take] at *
    omega

theorem Ledger.run (alarms : PhoneAlarms) (fresh : alarms.manager.evaluator = {} ∧ alarms.manager.cancelledRequestIds = [])
    (calls : List PhoneAlarmCall) : Ledger (Runs.history step alarms calls) (Runs.final step alarms calls) := by
  refine Runs.induction_on (P := Ledger) ⟨nofun, List.nodup_nil, ?_⟩ (fun _ _ call ledger => ledger.extend call) calls
  intro id
  simp [pending, queued, fresh, scheduled, completed, handed, PhoneAlarmEvaluator.pendingIds]

theorem Ledger.places (ledger : Ledger past alarms) :
    (scheduled past).Perm (alarms.pending ++ alarms.queued ++ completed past ++ handed past) ∧
      (alarms.pending ++ alarms.queued ++ completed past ++ handed past).Nodup := by
  have same : (scheduled past).Perm (alarms.pending ++ alarms.queued ++ completed past ++ handed past) := by
    rw [List.perm_iff_count]
    intro id
    simp only [List.count_append]
    exact ledger.balance id
  exact ⟨same, same.nodup_iff.mp ledger.unique⟩

theorem Ledger.distinct (ledger : Ledger past alarms) : alarms.pending.Nodup :=
  (List.nodup_append.mp (List.nodup_append.mp (List.nodup_append.mp ledger.places.2).1).1).1

end PhoneAlarms

inductive PhoneAlarmChannel where
  | pwm | warning | stop
  deriving Repr, DecidableEq

namespace PhoneAlarmEvaluator

def channel (evaluator : PhoneAlarmEvaluator) : PhoneAlarmChannel → PhoneAlarmChannelState
  | .pwm => evaluator.pwm
  | .warning => evaluator.warning
  | .stop => evaluator.stop

end PhoneAlarmEvaluator

def PhoneAlarmEvent.channel : PhoneAlarmEvent → PhoneAlarmChannel
  | pwmDuty _ _ => .pwm
  | controllerWarning _ => .warning
  | controllerStop _ => .stop

namespace PhoneAlarmEvaluator
variable {request : PhoneAlarmDeliveryRequest} {event : PhoneAlarmEvent}

def Remembers (before after : PhoneAlarmChannelState) : Prop :=
  ∀ condition, before.active = some condition → after.active = some condition →
    after.deliveredAt = before.deliveredAt ∧ after.failedAt = before.failedAt

variable {state : PhoneAlarmChannelState}

section State
variable (state : PhoneAlarmChannelState)

theorem Remembers.refl : Remembers state state := fun _ _ _ => ⟨rfl, rfl⟩

theorem Remembers.cleared : Remembers state {} := nofun

theorem updatePwmRearm_remembers (threshold : PwmDutyAlarmThreshold) (duty : Option Int)
    (event : Option PhoneAlarmEvent) (actions : PhoneAlarmActions) :
    (updatePwmRearm state threshold duty event actions).2.scheduled = actions.scheduled ∧
    (event.isSome = true → (updatePwmRearm state threshold duty event actions).1 = state) ∧
    Remembers state (updatePwmRearm state threshold duty event actions).1 := by
  unfold updatePwmRearm
  split
  · exact ⟨rfl, fun _ => rfl, .refl state⟩
  · next absent =>
    dsimp only
    split
    · exact ⟨rfl, fun present => absurd present absent, .cleared state⟩
    · split
      · exact ⟨rfl, fun present => absurd present absent, fun _ _ _ => ⟨rfl, rfl⟩⟩
      · exact ⟨rfl, fun _ => rfl, .refl state⟩

theorem clearIfAbsent_remembers (event : Option PhoneAlarmEvent) (actions : PhoneAlarmActions) :
    (clearIfAbsent state event actions).2.scheduled = actions.scheduled ∧
    (event.isSome = true → (clearIfAbsent state event actions).1 = state) ∧
    Remembers state (clearIfAbsent state event actions).1 := by
  unfold clearIfAbsent
  split
  · next absent => exact ⟨rfl, fun present => by simp_all, .cleared state⟩
  · exact ⟨rfl, fun _ => rfl, .refl state⟩

theorem opened_remembers (event : PhoneAlarmEvent) : Remembers state (opened state event) := by
  unfold opened
  split
  · next changed =>
    intro condition before after
    exact absurd (before.trans after.symm) changed
  · exact .refl state

private theorem reserveIfDue_remembers (event : Option PhoneAlarmEvent) (repeatAfter now next : Nat)
    (actions : PhoneAlarmActions) : Remembers state (reserveIfDue state event repeatAfter now next actions).1 := by
  cases event with
  | none => exact .refl state
  | some event =>
    rcases reserveIfDue_cases state event repeatAfter now next actions with quiet | ⟨-, -, reserved⟩
    · rw [quiet]
      exact opened_remembers state event
    · rw [reserved]
      exact opened_remembers state event

/-- A request is scheduled for the event that is present, and under an unchanged condition only when
the channel has rested. -/
theorem reserveIfDue_scheduled (event : Option PhoneAlarmEvent) (repeatAfter now next : Nat)
    (actions : PhoneAlarmActions)
    (member : request ∈ (reserveIfDue state event repeatAfter now next actions).2.2.scheduled) :
    request ∈ actions.scheduled ∨ event = some request.event ∧
      (state.active = some request.event.condition → Rested state repeatAfter now) := by
  cases event with
  | none => exact .inl member
  | some event =>
    have kept : (returned state event actions).scheduled = actions.scheduled := by
      unfold returned
      split <;> rfl
    rcases reserveIfDue_cases state event repeatAfter now next actions with quiet | ⟨-, rested, reserved⟩
    · rw [quiet, kept] at member
      exact .inl member
    · rw [reserved, kept] at member
      rcases List.mem_append.mp member with old | new
      · exact .inl old
      · rw [List.mem_singleton.mp new]
        refine .inr ⟨rfl, ?_⟩
        intro same
        rw [opened, if_neg (not_not.mpr same)] at rested
        exact rested

end State

/-- A channel looked at in full: what to do without an event, then the reservation. -/
theorem channel_remembers (prepared : PhoneAlarmChannelState) (event : Option PhoneAlarmEvent)
    (repeatAfter now next : Nat) (actions : PhoneAlarmActions) (present : event.isSome = true → prepared = state)
    (kept : Remembers state prepared) : Remembers state (reserveIfDue prepared event repeatAfter now next actions).1 := by
  cases event with
  | none => exact kept
  | some event =>
    rw [present rfl]
    exact reserveIfDue_remembers _ _ _ _ _ _

theorem channel_scheduled (prepared : PhoneAlarmChannelState) (event : Option PhoneAlarmEvent)
    (repeatAfter now next : Nat) (actions : PhoneAlarmActions) (present : event.isSome = true → prepared = state)
    (member : request ∈ (reserveIfDue prepared event repeatAfter now next actions).2.2.scheduled) :
    request ∈ actions.scheduled ∨ event = some request.event ∧
      (state.active = some request.event.condition → Rested state repeatAfter now) := by
  refine (reserveIfDue_scheduled prepared event repeatAfter now next actions member).imp_right ?_
  rintro ⟨rfl, rested⟩
  rw [present rfl] at rested
  exact ⟨rfl, rested⟩

private theorem pwmEvent_channel {threshold : PwmDutyAlarmThreshold} {duty : Option Int}
    (found : duty.bind (pwmEvent threshold) = some event) : event.channel = .pwm := by
  obtain ⟨value, -, found⟩ := Option.bind_eq_some_iff.mp found
  unfold pwmEvent at found
  dsimp only at found
  split at found
  · cases found
    rfl
  · cases found

private theorem warningEvent_channel {warning : Option RideWarning} (found : warning.bind warningEvent = some event) :
    event.channel = .warning := by
  obtain ⟨value, -, found⟩ := Option.bind_eq_some_iff.mp found
  unfold warningEvent at found
  split at found <;> cases found
  rfl

private theorem stopEvent_channel {reason : Option RideStopReason} (found : reason.bind stopEvent = some event) :
    event.channel = .stop := by
  obtain ⟨value, -, found⟩ := Option.bind_eq_some_iff.mp found
  unfold stopEvent at found
  split at found <;> cases found
  rfl

private theorem evaluate_remembers (policy : PhoneAlarmPolicy) (evidence : PhoneAlarmEvidence) (now next : Nat)
    (which : PhoneAlarmChannel) :
    Remembers (evaluator.channel which) ((evaluator.evaluate policy evidence now next).1.channel which) := by
  unfold evaluate
  split
  · cases which <;> exact .cleared _
  · cases which with
    | pwm =>
      obtain ⟨-, present, kept⟩ := updatePwmRearm_remembers evaluator.pwm policy.pwmDutyThreshold evidence.pwmDuty
        (evidence.pwmDuty.bind (pwmEvent policy.pwmDutyThreshold)) {}
      exact channel_remembers _ _ _ _ _ _ present kept
    | warning | stop =>
      obtain ⟨-, present, kept⟩ := clearIfAbsent_remembers _ _ _
      exact channel_remembers _ _ _ _ _ _ present kept

private theorem evaluate_scheduled (policy : PhoneAlarmPolicy) (evidence : PhoneAlarmEvidence) (now next : Nat)
    (member : request ∈ (evaluator.evaluate policy evidence now next).2.2.scheduled) :
    (evaluator.channel request.event.channel).active = some request.event.condition →
      Rested (evaluator.channel request.event.channel) policy.repeatAfter now := by
  unfold evaluate at member
  split at member
  · cases member
  · dsimp only at member
    have rearm := updatePwmRearm_remembers evaluator.pwm policy.pwmDutyThreshold evidence.pwmDuty
      (evidence.pwmDuty.bind (pwmEvent policy.pwmDutyThreshold)) {}
    rcases channel_scheduled _ _ _ _ _ _ (clearIfAbsent_remembers _ _ _).2.1 member with member | ⟨found, rested⟩
    · rw [(clearIfAbsent_remembers _ _ _).1] at member
      rcases channel_scheduled _ _ _ _ _ _ (clearIfAbsent_remembers _ _ _).2.1 member with member | ⟨found, rested⟩
      · rw [(clearIfAbsent_remembers _ _ _).1] at member
        rcases channel_scheduled _ _ _ _ _ _ rearm.2.1 member with member | ⟨found, rested⟩
        · rw [rearm.1] at member
          cases member
        · rw [pwmEvent_channel found]
          exact rested
      · rw [warningEvent_channel found]
        exact rested
    · rw [stopEvent_channel found]
      exact rested

end PhoneAlarmEvaluator

namespace PhoneAlarms
open PhoneAlarmEvaluator (Remembers Rested)
variable {condition : ActivePhoneAlarmCondition}

def channel (alarms : PhoneAlarms) (which : PhoneAlarmChannel) : PhoneAlarmChannelState :=
  alarms.manager.evaluator.channel which

/-- The outcome a call reported for the request of a channel, and its time. -/
def outcome (which : PhoneAlarmChannel) (here : AlarmStep) : Option (Bool × Nat) :=
  match here.input, here.output with
  | .completeDelivery requestId delivered now, .completed true =>
    if (here.before.channel which).pendingRequestId = some requestId then some (delivered, now) else none
  | _, _ => none

variable {alarms : PhoneAlarms}

theorem Reconfigures.remembers {before after : PhoneAlarmManager} (moved : Reconfigures before after)
    (which : PhoneAlarmChannel) : Remembers (before.evaluator.channel which) (after.evaluator.channel which) := by
  cases moved with
  | keeps evaluator =>
    rw [evaluator]
    exact .refl _
  | clears evaluator =>
    rw [evaluator]
    cases which <;> exact .cleared _

theorem evaluate_cases (alarms : PhoneAlarms) (evidence : PhoneAlarmEvidence) (now : Nat) :
    (alarms.step (.evaluate evidence now)).1.manager.evaluator = {} ∧
      scheduledIds (alarms.step (.evaluate evidence now)).2 = [] ∨
    ∃ preferences, alarms.manager.activePreferences = some preferences ∧ preferences.enabled = true ∧
      evidence.freshness = .fresh ∧
      (alarms.step (.evaluate evidence now)).1.manager.evaluator = (alarms.manager.evaluator.evaluate
        ⟨true, preferences.pwmDutyThreshold, phoneAlarmRepeatAfter⟩ evidence now alarms.nextRequestId).1 ∧
      ∃ actions, (alarms.step (.evaluate evidence now)).2 = .actions actions ∧
        actions.scheduled = (alarms.manager.evaluator.evaluate
          ⟨true, preferences.pwmDutyThreshold, phoneAlarmRepeatAfter⟩ evidence now alarms.nextRequestId).2.2.scheduled := by
  obtain ⟨cleared, silent, -⟩ := withPendingCancellations_moves alarms.manager.invalidate {}
  rw [step, PhoneAlarmManager.evaluate]
  split
  · exact .inl ⟨cleared, congrArg PhoneAlarmEvaluator.ids silent⟩
  · next preferences known =>
    split
    · exact .inl ⟨cleared, congrArg PhoneAlarmEvaluator.ids silent⟩
    · next ready =>
      simp only [not_or, Bool.not_eq_false, not_not] at ready
      obtain ⟨evaluator, scheduled, -⟩ := withPendingCancellations_moves
        { alarms.manager with evaluator := (alarms.manager.evaluator.evaluate
          ⟨true, preferences.pwmDutyThreshold, phoneAlarmRepeatAfter⟩ evidence now alarms.nextRequestId).1 }
        (alarms.manager.evaluator.evaluate
          ⟨true, preferences.pwmDutyThreshold, phoneAlarmRepeatAfter⟩ evidence now alarms.nextRequestId).2.2
      exact .inr ⟨preferences, known, ready.1, ready.2, evaluator, _, rfl, scheduled⟩

variable {which : PhoneAlarmChannel}

private theorem completeDelivery_other {evaluator : PhoneAlarmEvaluator} {requestId : Nat}
    (other : (evaluator.channel which).pendingRequestId ≠ some requestId) (delivered : Bool) (now : Nat) :
    (evaluator.completeDelivery requestId delivered now).1.channel which = evaluator.channel which := by
  unfold PhoneAlarmEvaluator.completeDelivery
  cases which with
  | pwm =>
    have other : evaluator.pwm.pendingRequestId ≠ some requestId := other
    rw [if_neg other]
    split
    · rfl
    · split <;> rfl
  | warning =>
    have other : evaluator.warning.pendingRequestId ≠ some requestId := other
    rw [if_neg other]
    split
    · rfl
    · split <;> rfl
  | stop =>
    have other : evaluator.stop.pendingRequestId ≠ some requestId := other
    rw [if_neg other]
    split
    · rfl
    · split <;> rfl

/-- With distinct requests the outcome reaches the channel that waits for it. -/
theorem completeDelivery_owner {evaluator : PhoneAlarmEvaluator} {requestId : Nat}
    (owner : (evaluator.channel which).pendingRequestId = some requestId) (delivered : Bool) (now : Nat) :
    (evaluator.completeDelivery requestId delivered now).2 = true ∧ (evaluator.pendingIds.Nodup →
      (evaluator.completeDelivery requestId delivered now).1.channel which =
        PhoneAlarmEvaluator.completed (evaluator.channel which) delivered now) := by
  unfold PhoneAlarmEvaluator.completeDelivery PhoneAlarmEvaluator.pendingIds
  cases which with
  | pwm =>
    have owner : evaluator.pwm.pendingRequestId = some requestId := owner
    rw [if_pos owner]
    exact ⟨rfl, fun _ => rfl⟩
  | warning =>
    have owner : evaluator.warning.pendingRequestId = some requestId := owner
    split
    · next first => exact ⟨rfl, fun distinct => by simp [first, owner] at distinct⟩
    · exact ⟨rfl, fun _ => rfl⟩
  | stop =>
    have owner : evaluator.stop.pendingRequestId = some requestId := owner
    split
    · next first => exact ⟨rfl, fun distinct => by simp [first, owner] at distinct⟩
    · split
      · next second => exact ⟨rfl, fun distinct => by simp [second, owner, List.nodup_append] at distinct⟩
      · exact ⟨rfl, fun _ => rfl⟩

/-- What a completed delivery leaves in the channel that waited for it. -/
theorem outcome_completed {call : PhoneAlarmCall} {delivered : Bool} {now : Nat} (distinct : alarms.pending.Nodup)
    (reported : outcome which (Runs.take step alarms call) = some (delivered, now)) :
    (alarms.step call).1.channel which = PhoneAlarmEvaluator.completed (alarms.channel which) delivered now := by
  unfold outcome at reported
  split at reported
  · next requestId delivered' now' input output =>
    split at reported
    · next owner =>
      cases reported
      have input : call = .completeDelivery requestId delivered now := input
      have output : (alarms.step call).2 = .completed true := output
      rw [input, step, PhoneAlarmManager.completeDelivery] at output ⊢
      split at output
      · next active =>
        rw [if_pos active]
        exact (completeDelivery_owner owner delivered now).2 distinct
      · cases output
    · cases reported
  · cases reported

private theorem completeDelivery_remembers (alarms : PhoneAlarms) (requestId : Nat) (delivered : Bool) (now : Nat)
    (which : PhoneAlarmChannel)
    (open_ : outcome which (Runs.take step alarms (.completeDelivery requestId delivered now)) = none) :
    (alarms.step (.completeDelivery requestId delivered now)).1.channel which = alarms.channel which := by
  rw [channel, step, PhoneAlarmManager.completeDelivery]
  split
  · next active =>
    by_cases owner : (alarms.channel which).pendingRequestId = some requestId
    · have accepted := (completeDelivery_owner owner delivered now).1
      simp [outcome, Runs.take, step, PhoneAlarmManager.completeDelivery, active, accepted, owner] at open_
    · exact completeDelivery_other owner delivered now
  · rfl

theorem step_remembers (alarms : PhoneAlarms) (call : PhoneAlarmCall) (which : PhoneAlarmChannel)
    (open_ : outcome which (Runs.take step alarms call) = none) :
    Remembers (alarms.channel which) ((alarms.step call).1.channel which) := by
  cases call with
  | evaluate evidence now =>
    rcases evaluate_cases alarms evidence now with ⟨cleared, -⟩ | ⟨preferences, -, -, -, evaluated, -⟩
    · rw [channel, channel, cleared]
      cases which <;> exact .cleared _
    · rw [channel, channel, evaluated]
      exact PhoneAlarmEvaluator.evaluate_remembers _ _ _ _ _ which
  | completeDelivery requestId delivered now =>
    rw [completeDelivery_remembers alarms requestId delivered now which open_]
    exact .refl _
  | invalidateDeliveries => cases which <;> exact .cleared _
  | takeCancelledRequestIds => exact .refl _
  | activateDevice | clearActiveDevice | setEnabled | setDutyPercent | setHeadroomPercent | restorePreferences
  | takenElsewhere => exact (step_reconfigures alarms rfl).1.remembers which

/-- A delivery is remembered as long as its condition stays and no later delivery replaces it. -/
theorem deliveredAt_step (distinct : alarms.pending.Nodup) (call : PhoneAlarmCall)
    (before : (alarms.channel which).active = some condition)
    (after : ((alarms.step call).1.channel which).active = some condition)
    (open_ : ∀ now, outcome which (Runs.take step alarms call) ≠ some (true, now)) :
    ((alarms.step call).1.channel which).deliveredAt = (alarms.channel which).deliveredAt := by
  cases reported : outcome which (Runs.take step alarms call) with
  | none => exact (step_remembers alarms call which reported condition before after).1
  | some result =>
    obtain ⟨delivered, now⟩ := result
    cases delivered with
    | true => exact absurd reported (open_ now)
    | false =>
      rw [outcome_completed distinct reported]
      rfl

/-- The channel's condition stays `condition` behind every step. -/
def Stays (which : PhoneAlarmChannel) (condition : ActivePhoneAlarmCondition) (steps : List AlarmStep) : Prop :=
  ∀ here ∈ steps, (here.after.channel which).active = some condition

theorem Stays.final (calls : List PhoneAlarmCall) (active : (alarms.channel which).active = some condition)
    (stays : Stays which condition (Runs.history step alarms calls)) :
    ((Runs.final step alarms calls).channel which).active = some condition := by
  induction calls generalizing alarms with
  | nil => exact active
  | cons call calls ih =>
    exact ih (stays _ List.mem_cons_self) fun here member => stays here (List.mem_cons_of_mem _ member)

private theorem deliveredAt_run {past : List AlarmStep} (ledger : Ledger past alarms) (calls : List PhoneAlarmCall)
    (active : (alarms.channel which).active = some condition)
    (stays : Stays which condition (Runs.history step alarms calls))
    (open_ : ∀ here ∈ Runs.history step alarms calls, ∀ now, outcome which here ≠ some (true, now)) :
    ((Runs.final step alarms calls).channel which).deliveredAt = (alarms.channel which).deliveredAt := by
  induction calls generalizing alarms past with
  | nil => rfl
  | cons call calls ih =>
    have next := stays (Runs.take step alarms call) List.mem_cons_self
    have distinct := ledger.distinct
    refine (ih (ledger.extend call) next ?_ ?_).trans (deliveredAt_step distinct call active next ?_)
    · exact fun here member => stays here (List.mem_cons_of_mem _ member)
    · exact fun here member => open_ here (List.mem_cons_of_mem _ member)
    · exact open_ _ List.mem_cons_self

private theorem failedAt_run (calls : List PhoneAlarmCall) (active : (alarms.channel which).active = some condition)
    (stays : Stays which condition (Runs.history step alarms calls))
    (open_ : ∀ here ∈ Runs.history step alarms calls, outcome which here = none) :
    ((Runs.final step alarms calls).channel which).failedAt = (alarms.channel which).failedAt := by
  induction calls generalizing alarms with
  | nil => rfl
  | cons call calls ih =>
    have next := stays (Runs.take step alarms call) List.mem_cons_self
    have first := step_remembers alarms call which (open_ _ List.mem_cons_self) condition active next
    refine (ih next ?_ ?_).trans first.2
    · exact fun here member => stays here (List.mem_cons_of_mem _ member)
    · exact fun here member => open_ here (List.mem_cons_of_mem _ member)

/-- A scheduled request has an active device with alarms enabled, fresh evidence, and under an unchanged
condition a channel that has rested. -/
theorem scheduled_cases {evidence : PhoneAlarmEvidence} {now : Nat} {actions : PhoneAlarmActions}
    {request : PhoneAlarmDeliveryRequest} (reply : (alarms.step (.evaluate evidence now)).2 = .actions actions)
    (member : request ∈ actions.scheduled) :
    (∃ preferences, alarms.manager.activePreferences = some preferences ∧ preferences.enabled = true) ∧
    evidence.freshness = .fresh ∧
    ((alarms.channel request.event.channel).active = some request.event.condition →
      Rested (alarms.channel request.event.channel) phoneAlarmRepeatAfter now) := by
  rcases evaluate_cases alarms evidence now with ⟨-, silent⟩ | ⟨preferences, known, enabled, fresh, -, found, same, scheduled⟩
  · rw [reply, scheduledIds, PhoneAlarmEvaluator.ids, List.map_eq_nil_iff] at silent
    rw [silent] at member
    cases member
  · cases reply.symm.trans same
    rw [scheduled] at member
    exact ⟨⟨preferences, known, enabled⟩, fresh, PhoneAlarmEvaluator.evaluate_scheduled _ _ _ _ _ member⟩

/-- Requests are conserved: in every run each scheduled identity is unique and is, at each moment, in
exactly one place. Requests are scheduled only for an active device with alarms enabled on fresh
evidence; while a channel's condition stays, not before the repeat interval behind its last delivery,
nor before the retry delay behind a failure that no later outcome has replaced. -/
theorem alarm_requests_are_conserved (calls : List PhoneAlarmCall) :
    let past := Runs.history step {} calls
    let alarms := Runs.final step ({} : PhoneAlarms) calls
    (scheduled past).Nodup ∧
    (scheduled past).Perm (alarms.pending ++ alarms.queued ++ completed past ++ handed past) ∧
    (alarms.pending ++ alarms.queued ++ completed past ++ handed past).Nodup ∧
    ∀ evidence now actions request, (alarms.step (.evaluate evidence now)).2 = .actions actions →
      request ∈ actions.scheduled →
      (∃ preferences, alarms.manager.activePreferences = some preferences ∧ preferences.enabled = true) ∧
      evidence.freshness = .fresh ∧
      ∀ early here late at_, past = early ++ here :: late →
        Stays request.event.channel request.event.condition (here :: late) →
        (outcome request.event.channel here = some (true, at_) →
          (∀ later ∈ late, ∀ at_, outcome request.event.channel later ≠ some (true, at_)) →
          at_ + phoneAlarmRepeatAfter ≤ now) ∧
        (outcome request.event.channel here = some (false, at_) →
          (∀ later ∈ late, outcome request.event.channel later = none) →
          at_ + failedDeliveryRetryAfter ≤ now) := by
  have ledger := Ledger.run {} ⟨rfl, rfl⟩ calls
  refine ⟨ledger.unique, ledger.places.1, ledger.places.2, ?_⟩
  intro evidence now actions request reply member
  obtain ⟨active, fresh, rested⟩ := scheduled_cases reply member
  refine ⟨active, fresh, ?_⟩
  intro early here late at_ split stays
  obtain ⟨first, last, rfl, -, same, rfl⟩ := Runs.history_split split
  have before := Ledger.run {} ⟨rfl, rfl⟩ first
  have after := before.extend here.input
  have active := stays here List.mem_cons_self
  have later : Stays _ _ (Runs.history step here.after last) := fun step member => stays step (List.mem_cons_of_mem _ member)
  have final : Runs.final step ({} : PhoneAlarms) (first ++ here.input :: last) = Runs.final step here.after last := by
    rw [Runs.final_append, same]
    rfl
  rw [final] at rested
  obtain ⟨repeats, retries⟩ := rested (later.final last active)
  rw [same] at active later after
  constructor
  · intro delivered unreplaced
    rw [same] at delivered unreplaced
    have kept := deliveredAt_run after last active later unreplaced
    have known := outcome_completed before.distinct delivered
    have := repeats at_ (by rw [same]; exact kept.trans (by rw [Runs.take, known]; rfl))
    unfold phoneAlarmRepeatAfter at *
    omega
  · intro failed unreplaced
    rw [same] at failed unreplaced
    have kept := failedAt_run last active later unreplaced
    have known := outcome_completed before.distinct failed
    have := retries at_ (by rw [same]; exact kept.trans (by rw [Runs.take, known]; rfl))
    unfold failedDeliveryRetryAfter at *
    omega

/-- A failure reported in the future of a later delivery: the next request comes before the retry
delay behind it has passed. -/
theorem delivery_replaces_failure :
    let evidence : PhoneAlarmEvidence := { freshness := .fresh, pwmDuty := some 850 }
    let calls : List PhoneAlarmCall := [.activateDevice "wheel", .setEnabled true, .evaluate evidence 0,
      .completeDelivery 1 false 1000000, .evaluate evidence 1001000, .completeDelivery 2 true 0]
    let past := Runs.history step {} calls
    (past.map (outcome .pwm)).filterMap id = [(false, 1000000), (true, 0)] ∧
    (∀ here ∈ past.drop 2, (here.after.channel .pwm).active = some .pwmDuty) ∧
    scheduledIds ((Runs.final step {} calls).step (.evaluate evidence 30000)).2 = [3] ∧
    ¬ 1000000 + failedDeliveryRetryAfter ≤ 30000 := by
  decide

end PhoneAlarms

end Cutout.Core

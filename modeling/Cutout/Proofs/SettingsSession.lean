import Cutout.VescSettingsSession
import Cutout.Proofs.NotificationEffects
import Cutout.Library.Runs

/-! The settings session step by step: what the session below it can put out, what
each phase of an input does to the procedure and to the read slot, and the
invariants that hold in every reachable state. -/

namespace Cutout.Protocols
open VescReadOnlySession (handle handleCommand ingestTyped ingestTimestamped)
variable {input : SessionInput} {bytes : List Byte}

def isSetCommand (bytes : List Byte) : Bool :=
  commandByte bytes == some 13 || commandByte bytes == some 16 || commandByte bytes == some 95

namespace DeviceOutput

def isConfigurationSet : DeviceOutput → Bool
  | .session (.write bytes _) | .write bytes _ => isSetCommand bytes
  | _ => false

def answers (kind : ConfigurationKind) : DeviceOutput → Bool
  | .session (.reply reply) => reply.answers kind
  | _ => false

end DeviceOutput

/-- The requests of the `vesc` dependency read; none of them is a set command. -/
def VescCrate.OnlyReads (vesc : VescCrate) : Prop :=
  ∀ command bytes, vesc.encode command = some bytes → isSetCommand bytes = false

theorem commandByte_encodeSettingsPayload {payload : List Byte} (encoded : encodeSettingsPayload payload = some bytes) :
    commandByte bytes = payload.head? := by
  unfold encodeSettingsPayload at encoded
  split at encoded
  · cases encoded
  · next fits =>
    cases payload with
    | nil => exact absurd (.inl rfl) fits
    | cons command rest =>
      cases encoded
      by_cases short : (command :: rest).length < 256
      · rw [if_pos short]
        rfl
      · rw [if_neg short]
        rfl

theorem isSetCommand_readCommand {kind : ConfigurationKind}
    (encoded : encodeSettingsPayload kind.readCommand = some bytes) : isSetCommand bytes = false := by
  have command := commandByte_encodeSettingsPayload encoded
  unfold isSetCommand
  rw [command]
  cases kind <;> decide

section Reading
variable {vesc : VescCrate} (reads : vesc.OnlyReads)
include reads

private theorem encodeRequest_reads {request : VescReadOnlyRequest} (encoded : vesc.encodeRequest request = some bytes) :
    isSetCommand bytes = false := by
  cases request with
  | motorConfig | motorSetupConfig => cases encoded; decide
  | refloat request =>
    cases request <;> simp only [VescCrate.encodeRequest] at encoded
    all_goals
      rw [← Option.some.inj encoded]
      decide
  | _ => exact reads _ _ encoded

theorem readRequest_reads (request : VescReadOnlyRequest) (query : Option ApplicationQueryWrite) :
    ∀ output ∈ vesc.readRequest request query, (DeviceOutput.session output).isConfigurationSet = false := by
  intro output member
  unfold VescCrate.readRequest at member
  split at member
  · next bytes encoded =>
    split at member
    · rw [List.mem_singleton.mp member]
      exact encodeRequest_reads reads encoded
    · cases member
  · cases member

theorem pollIfDue_reads (decoder : VescNotificationDecoder) :
    ∀ output ∈ (decoder.pollIfDue vesc).2, (DeviceOutput.session output).isConfigurationSet = false := by
  intro output member
  unfold VescNotificationDecoder.pollIfDue at member
  have quiet := fun request query => readRequest_reads reads request query output
  split at member
  · cases member
  · simp only at member
    split at member
    · rw [List.mem_append, List.mem_append] at member
      rcases member with (early | middle) | late
      · exact quiet _ _ early
      · split at middle
        · cases middle
        · exact quiet _ _ middle
      · exact quiet _ _ late
    · split at member
      · split at member
        · cases member
        · rcases List.mem_append.mp member with early | late
          · exact quiet _ _ early
          · exact quiet _ _ late
      · exact quiet _ _ member

theorem onTick_reads (decoder : VescNotificationDecoder) (time : Nat) :
    ∀ output ∈ (decoder.onTick vesc time).2, (DeviceOutput.session output).isConfigurationSet = false := by
  intro output member
  unfold VescNotificationDecoder.onTick at member
  simp only at member
  split at member
  · exact pollIfDue_reads reads _ output member
  · cases member

end Reading

/-- What the session below does with an input other than a link edge. -/
theorem readOnly_evidence (vesc : VescCrate) (session : VescReadOnlySession) (inside : input.isConnectionEdge = false) :
    let result := session.ingestTyped vesc input
    result.1.settingsEvidence = session.settingsEvidence ∨ ∃ subscribed bytes time outputs,
      input = .notification subscribed bytes time ∧ result.2.outputs = outputs.map .session ∧
        ∀ kind, Rereads time kind outputs session.settingsEvidence result.1.settingsEvidence := by
  have polled (decoder : VescNotificationDecoder) :
      (decoder.pollIfDue vesc).1.settingsEvidence = decoder.settingsEvidence := by
    unfold VescNotificationDecoder.pollIfDue
    split
    · rfl
    · simp only
      split
      · rfl
      · split
        · split <;> rfl
        · rfl
  have ticked (session : VescReadOnlySession) (time : Nat) :
      (session.handle vesc (.tick time)).1.settingsEvidence = session.settingsEvidence := by
    simp only [handle]
    split
    · show (session.decoder.onTick vesc time).1.settingsEvidence = _
      unfold VescNotificationDecoder.onTick
      simp only
      split
      · exact polled _
      · rfl
    · rfl
  have commanded (session : VescReadOnlySession) (command : DeviceCommand) :
      (session.handleCommand vesc command).1.settingsEvidence = session.settingsEvidence := by
    unfold handleCommand
    cases command.kind with
    | requestTelemetry =>
      simp only
      split
      · exact polled _
      · rfl
    | requestFirmwareInfo | requestDiagnostics => simp only; split <;> rfl
    | _ => rfl
  cases input with
  | linkUp | linkDown => cases inside
  | tick time => exact .inl (ticked session time)
  | command command => exact .inl (commanded session command)
  | commandAt command time =>
    exact .inl ((commanded _ command).trans (ticked session time))
  | notification subscribed bytes time =>
    simp only [ingestTyped, ingestTimestamped, handle]
    split
    · split
      · obtain ⟨-, -, -, reread⟩ := @handleNotification_effect vesc time session.decoder bytes
        exact .inr ⟨subscribed, bytes, time, _, rfl, rfl, reread⟩
      · exact .inl rfl
    · exact .inl rfl

theorem readOnly_edge (vesc : VescCrate) (session : VescReadOnlySession) (edge : input.isConnectionEdge = true)
    (kind : ConfigurationKind) : (session.ingestTyped vesc input).1.settingsEvidence.generation kind = 0 := by
  cases input with
  | linkUp time =>
    -- A reset decoder does not poll.
    cases kind <;> rfl
  | linkDown => cases kind <;> rfl
  | _ => cases edge

theorem readOnly_reads {vesc : VescCrate} (reads : vesc.OnlyReads) (session : VescReadOnlySession)
    (input : SessionInput) :
    ∀ output ∈ (session.ingestTyped vesc input).2.outputs, output.isConfigurationSet = false := by
  have lifted {outputs : List SessionOutput}
      (quiet : ∀ output ∈ outputs, (DeviceOutput.session output).isConfigurationSet = false) :
      ∀ output ∈ outputs.map DeviceOutput.session, output.isConfigurationSet = false := by
    intro output member
    obtain ⟨inner, listed, rfl⟩ := List.mem_map.mp member
    exact quiet inner listed
  have ticked (session : VescReadOnlySession) (time : Nat) :
      ∀ output ∈ (session.handle vesc (.tick time)).2, output.isConfigurationSet = false := by
    intro output member
    simp only [handle] at member
    split at member
    · rcases List.mem_append.mp member with early | late
      · exact lifted (onTick_reads reads session.decoder time) output early
      · rw [List.mem_singleton.mp late]
        rfl
    · rw [List.mem_singleton.mp member]
      rfl
  have commanded (session : VescReadOnlySession) (command : DeviceCommand) :
      ∀ output ∈ (session.handleCommand vesc command).2, output.isConfigurationSet = false := by
    intro output member
    have requested (request : VescReadOnlyRequest) := lifted (readRequest_reads reads request none) output
    unfold handleCommand at member
    cases kind : command.kind <;> simp only [kind] at member
    case requestTelemetry =>
      split at member
      · exact lifted (pollIfDue_reads reads _) output member
      · cases member
    case requestFirmwareInfo =>
      split at member
      · exact requested .firmwareInfo member
      · cases member
    case requestDiagnostics =>
      split at member
      · exact requested _ member
      · cases member
    all_goals
      first
      | (rw [List.mem_singleton.mp member]; rfl)
      | cases member
  intro output member
  cases input with
  | linkUp time =>
    rcases List.mem_append.mp member with early | late
    · exact lifted (onTick_reads reads session.decoder.reset time) output early
    · rcases List.mem_pair.mp late with rfl | rfl <;> rfl
  | linkDown => rw [List.mem_singleton.mp member]; rfl
  | tick time => exact ticked session time output member
  | command command => exact commanded session command output member
  | commandAt command time =>
    rcases List.mem_append.mp member with early | late
    · exact ticked session time output early
    · exact commanded _ command output late
  | notification subscribed bytes time =>
    simp only [ingestTyped, ingestTimestamped, handle] at member
    split at member
    · split at member
      · refine lifted ?_ output member
        intro output listed
        have silent := (@handleNotification_effect vesc time session.decoder bytes).1 output listed
        cases output with
        | write bytes query => cases silent
        | _ => rfl
      · rw [List.mem_singleton.mp member]
        rfl
    · cases member

namespace VescSettingsSession
variable {session : VescSettingsSession} {kind : ConfigurationKind} {more : List DeviceOutput}
variable (vesc : VescCrate)
variable {after : VescSettingsSession} {value : DeviceSettingValue} {step : DeviceSessionStep}
variable {pending : PendingSetting}

def slotAfterCancel (session : VescSettingsSession) : ConfigurationKind × StandaloneConfigRead :=
  match session.pending with
  | some pending =>
    if pending.stage.readSubmitted then (pending.baseline.kind, .awaitingProcedureReply)
    else (session.standaloneKind, session.standaloneConfigRead)
  | none => (session.standaloneKind, session.standaloneConfigRead)

structure Untouched (before after : VescSettingsSession) : Prop where
  pending : after.pending = before.pending
  arm : after.arm = before.arm
  cancellationGeneration : after.cancellationGeneration = before.cancellationGeneration
  standaloneKind : after.standaloneKind = before.standaloneKind
  standaloneConfigRead : after.standaloneConfigRead = before.standaloneConfigRead
  lastConfigGeneration : after.lastConfigGeneration = before.lastConfigGeneration

/-- The procedure was cancelled; a read already submitted keeps the slot. -/
structure Cancelled (before after : VescSettingsSession) : Prop where
  pending : after.pending = none
  arm : after.arm = before.arm ∨ after.arm = none
  slot : (after.standaloneKind, after.standaloneConfigRead) = before.slotAfterCancel
  lastConfigGeneration : after.lastConfigGeneration = before.lastConfigGeneration

def Lapses (before after : VescSettingsSession) : Prop := Untouched before after ∨ Cancelled before after

namespace Untouched
variable {first second third : VescSettingsSession}

theorem refl (session : VescSettingsSession) : Untouched session session := ⟨rfl, rfl, rfl, rfl, rfl, rfl⟩

theorem trans (early : Untouched first second) (late : Untouched second third) : Untouched first third :=
  ⟨late.pending.trans early.pending, late.arm.trans early.arm,
    late.cancellationGeneration.trans early.cancellationGeneration, late.standaloneKind.trans early.standaloneKind,
    late.standaloneConfigRead.trans early.standaloneConfigRead,
    late.lastConfigGeneration.trans early.lastConfigGeneration⟩

theorem slotAfterCancel (same : Untouched first second) : second.slotAfterCancel = first.slotAfterCancel := by
  unfold VescSettingsSession.slotAfterCancel
  rw [same.pending, same.standaloneKind, same.standaloneConfigRead]

end Untouched

theorem Cancelled.slotAfterCancel {first second : VescSettingsSession} (cancelled : Cancelled first second) :
    second.slotAfterCancel = first.slotAfterCancel := by
  rw [← cancelled.slot]
  simp [VescSettingsSession.slotAfterCancel, cancelled.pending]

namespace Lapses
variable {first second third : VescSettingsSession}

theorem trans (early : Lapses first second) (late : Lapses second third) : Lapses first third := by
  rcases early with early | early <;> rcases late with late | late
  · exact .inl (early.trans late)
  · exact .inr ⟨late.pending, early.arm ▸ late.arm, late.slot.trans early.slotAfterCancel,
      late.lastConfigGeneration.trans early.lastConfigGeneration⟩
  · exact .inr ⟨late.pending.trans early.pending, late.arm ▸ early.arm, by
      rw [late.standaloneKind, late.standaloneConfigRead, early.slot],
      late.lastConfigGeneration.trans early.lastConfigGeneration⟩
  · refine .inr ⟨late.pending, ?_, late.slot.trans early.slotAfterCancel,
      late.lastConfigGeneration.trans early.lastConfigGeneration⟩
    rcases late.arm with same | gone
    · exact same ▸ early.arm
    · exact .inr gone

theorem lastConfigGeneration (lapses : Lapses first second) :
    second.lastConfigGeneration = first.lastConfigGeneration := by
  rcases lapses with same | cancelled
  · exact same.lastConfigGeneration
  · exact cancelled.lastConfigGeneration

theorem of_none (lapses : Lapses first second) (none : first.pending = .none) :
    second.pending = .none ∧ (second.arm = first.arm ∨ second.arm = .none) ∧
      second.standaloneKind = first.standaloneKind ∧ second.standaloneConfigRead = first.standaloneConfigRead := by
  rcases lapses with same | cancelled
  · exact ⟨same.pending.trans none, .inl same.arm, same.standaloneKind, same.standaloneConfigRead⟩
  · have slot := cancelled.slot
    simp only [VescSettingsSession.slotAfterCancel, none, Prod.mk.injEq] at slot
    exact ⟨cancelled.pending, cancelled.arm, slot.1, slot.2⟩

end Lapses

section Cancelling
variable (session : VescSettingsSession) (retainRead : Bool)

@[simp]
theorem cancel_pending : (session.cancelPendingRetainingSubmittedRead retainRead).pending = none := by
  unfold cancelPendingRetainingSubmittedRead
  cases pending : session.pending <;> simp [pending]

/-- Cancelling leaves everything alone but the procedure, the slot and the failed operation. -/
theorem cancel_frame :
    let cancelled := session.cancelPendingRetainingSubmittedRead retainRead
    cancelled.arm = session.arm ∧ cancelled.readOnly = session.readOnly ∧
      cancelled.lastConfigGeneration = session.lastConfigGeneration ∧
      cancelled.nextConfigReadId = session.nextConfigReadId := by
  unfold cancelPendingRetainingSubmittedRead
  cases session.pending with
  | none => exact ⟨rfl, rfl, rfl, rfl⟩
  | some pending => simp only; split <;> exact ⟨rfl, rfl, rfl, rfl⟩

@[simp]
theorem cancel_arm : (session.cancelPendingRetainingSubmittedRead retainRead).arm = session.arm :=
  (cancel_frame session retainRead).1

@[simp]
theorem cancel_readOnly : (session.cancelPendingRetainingSubmittedRead retainRead).readOnly = session.readOnly :=
  (cancel_frame session retainRead).2.1

@[simp]
theorem cancel_lastConfigGeneration :
    (session.cancelPendingRetainingSubmittedRead retainRead).lastConfigGeneration = session.lastConfigGeneration :=
  (cancel_frame session retainRead).2.2.1

theorem cancel_nextConfigReadId :
    (session.cancelPendingRetainingSubmittedRead retainRead).nextConfigReadId = session.nextConfigReadId :=
  (cancel_frame session retainRead).2.2.2

private theorem cancelPending_slot : (session.cancelPending.standaloneKind, session.cancelPending.standaloneConfigRead) =
    session.slotAfterCancel := by
  unfold cancelPending cancelPendingRetainingSubmittedRead slotAfterCancel
  cases session.pending with
  | none => rfl
  | some pending => cases submitted : pending.stage.readSubmitted <;> simp [submitted]

/-- The reply that a procedure waited for is not waited for again. -/
theorem cancelAfterRead_slot : session.cancelPendingAfterReadResponse.standaloneKind = session.standaloneKind ∧
    session.cancelPendingAfterReadResponse.standaloneConfigRead = session.standaloneConfigRead := by
  unfold cancelPendingAfterReadResponse cancelPendingRetainingSubmittedRead
  cases session.pending with
  | none | some => exact ⟨rfl, rfl⟩

theorem cancelPending_cancelled : Cancelled session session.cancelPending :=
  ⟨cancel_pending session true, .inl (cancel_arm session true), cancelPending_slot session,
    cancel_lastConfigGeneration session true⟩

end Cancelling

section Session
variable (session : VescSettingsSession)

theorem clearArmAndCancel_cancelled : Cancelled session session.clearArmAndCancel := by
  have cancelled := cancelPending_cancelled { session with arm := none }
  refine ⟨cancelled.pending, .inr ?_, cancelled.slot, cancelled.lastConfigGeneration⟩
  rcases cancelled.arm with same | gone
  · exact same
  · exact gone

theorem observeTelemetry_untouched (outputs : List DeviceOutput) :
    Untouched session (session.observeTelemetry outputs) := by
  unfold observeTelemetry
  induction outputs generalizing session with
  | nil => exact .refl session
  | cons output outputs ih =>
    rw [List.foldl_cons]
    refine .trans ?_ (ih _)
    split <;> exact ⟨rfl, rfl, rfl, rfl, rfl, rfl⟩

theorem expirePending_lapses : Lapses session session.expirePending := by
  unfold expirePending
  split
  · exact .inr (cancelPending_cancelled session)
  · exact .inl (.refl session)

/-- Up to the expiry of the procedure, an input inside a link can only let it lapse. -/
theorem receive_lapses (inside : input.isConnectionEdge = false) :
    Lapses session (session.receive vesc input).1 := by
  unfold receive begin
  simp only [inside, Bool.false_eq_true, if_false, Bool.not_false, Bool.true_and]
  refine .trans ?_ (expirePending_lapses _)
  refine .trans ?_ (.inl (observeTelemetry_untouched _ _))
  split
  · have cancelled := fun session => clearArmAndCancel_cancelled session
    exact .inr ⟨(cancelled _).pending, (cancelled _).arm, (cancelled _).slot, (cancelled _).lastConfigGeneration⟩
  · exact .inl ⟨rfl, rfl, rfl, rfl, rfl, rfl⟩

private theorem observeTelemetry_readOnly (outputs : List DeviceOutput) :
    (session.observeTelemetry outputs).readOnly = session.readOnly := by
  unfold observeTelemetry
  induction outputs generalizing session with
  | nil => rfl
  | cons output outputs ih =>
    rw [List.foldl_cons, ih]
    split <;> rfl

theorem receive_readOnly (input : SessionInput) :
    (session.receive vesc input).1.readOnly = (session.readOnly.ingestTyped vesc input.protocolInput).1 := by
  have expired (session : VescSettingsSession) : session.expirePending.readOnly = session.readOnly := by
    unfold expirePending
    split
    · exact cancel_readOnly session true
    · rfl
  have cleared (session : VescSettingsSession) : session.clearArmAndCancel.readOnly = session.readOnly :=
    cancel_readOnly _ true
  have begun : (session.begin input).readOnly = session.readOnly := by
    unfold begin
    cases input.isConnectionEdge with
    | false => rfl
    | true => exact cleared session
  unfold receive
  simp only
  rw [expired, observeTelemetry_readOnly]
  split
  · exact (cleared _).trans (by simp only [begun])
  · simp only [begun]

end Session

theorem receive_edge (vesc : VescCrate) (session : VescSettingsSession) (edge : input.isConnectionEdge = true) :
    let admitted := (session.receive vesc input).1
    admitted.pending = none ∧ admitted.arm = none ∧ admitted.standaloneConfigRead = .idle := by
  unfold receive begin
  simp only [edge, if_true, Bool.not_true, Bool.false_and, Bool.false_eq_true, if_false]
  have ended (reset : VescSettingsSession) (outputs : List DeviceOutput) (gone : reset.pending = none)
      (unarmed : reset.arm = none) (idle : reset.standaloneConfigRead = .idle) :
      let later := (reset.observeTelemetry outputs).expirePending
      later.pending = none ∧ later.arm = none ∧ later.standaloneConfigRead = .idle := by
    have lapses : Lapses reset (reset.observeTelemetry outputs).expirePending :=
      Lapses.trans (.inl (observeTelemetry_untouched reset outputs)) (expirePending_lapses _)
    obtain ⟨still, arm, -, slot⟩ := lapses.of_none gone
    refine ⟨still, ?_, slot.trans idle⟩
    rcases arm with same | none
    · exact same.trans unarmed
    · exact none
  exact ended _ _ (cancel_pending { session with arm := none } true) (cancel_arm { session with arm := none } true) rfl

structure SameProcedure (before after : VescSettingsSession) : Prop where
  pending : after.pending = before.pending
  arm : after.arm = before.arm
  cancellationGeneration : after.cancellationGeneration = before.cancellationGeneration
  readOnly : after.readOnly = before.readOnly
  lastConfigGeneration : after.lastConfigGeneration = before.lastConfigGeneration

/-- What starting a configuration read can do: nothing while the session is busy. -/
structure Asks (session : VescSettingsSession) (step : DeviceSessionStep)
    (result : VescSettingsSession × DeviceSessionStep) : Prop where
  same : SameProcedure session result.1
  busy : session.settingsBusy → result.1 = session ∧ ∀ bytes operationId,
    .write bytes operationId ∈ result.2.outputs → .write bytes operationId ∈ step.outputs
  outputs : ∀ output ∈ result.2.outputs, output ∈ step.outputs ∨ output.isConfigurationSet = false

theorem Asks.refl (session : VescSettingsSession) (step : DeviceSessionStep) : Asks session step (session, step) :=
  ⟨⟨rfl, rfl, rfl, rfl, rfl⟩, fun _ => ⟨rfl, fun _ _ member => member⟩, fun _ member => .inl member⟩

theorem pushConfigRead_spec (session : VescSettingsSession) (kind : ConfigurationKind) (step : DeviceSessionStep) :
    SameProcedure session (session.pushConfigRead kind step).1 ∧ ∃ more,
      (session.pushConfigRead kind step).2 = step.push more ∧ ∀ output ∈ more, output.isConfigurationSet = false := by
  unfold pushConfigRead
  split
  · exact ⟨⟨rfl, rfl, rfl, rfl, rfl⟩, [], by simp [DeviceSessionStep.push], by simp⟩
  · next bytes encoded =>
    simp only
    split
    · exact ⟨⟨rfl, rfl, rfl, rfl, rfl⟩, [], by simp [DeviceSessionStep.push], by simp⟩
    · refine ⟨⟨rfl, rfl, rfl, rfl, rfl⟩, _, rfl, ?_⟩
      intro output member
      rw [List.mem_singleton.mp member]
      exact isSetCommand_readCommand encoded

theorem pushConfigRead_asks {prepared : VescSettingsSession} (kind : ConfigurationKind) (step : DeviceSessionStep)
    (idle : session.settingsBusy = false) (same : SameProcedure session prepared) :
    Asks session step (prepared.pushConfigRead kind step) := by
  obtain ⟨pushed, more, outputs, quiet⟩ := pushConfigRead_spec prepared kind step
  refine ⟨⟨pushed.pending.trans same.pending, pushed.arm.trans same.arm,
    pushed.cancellationGeneration.trans same.cancellationGeneration, pushed.readOnly.trans same.readOnly,
    pushed.lastConfigGeneration.trans same.lastConfigGeneration⟩, fun busy => by simp [idle] at busy, ?_⟩
  intro output member
  rw [outputs] at member
  rcases List.mem_append.mp member with early | late
  · exact .inl early
  · exact .inr (quiet output late)

theorem maybeRequestInitialConfig_asks (session : VescSettingsSession) (step : DeviceSessionStep) :
    Asks session step (session.maybeRequestInitialConfig step) := by
  unfold maybeRequestInitialConfig
  split
  · exact .refl session step
  · next free =>
    simp only [Bool.or_eq_true, not_or, Bool.not_eq_true] at free
    split
    · exact .refl session step
    · exact pushConfigRead_asks _ step free.2 ⟨rfl, rfl, rfl, rfl, rfl⟩

theorem maybeRequestTelemetryMotorConfig_asks (session : VescSettingsSession) (step : DeviceSessionStep) :
    Asks session step (session.maybeRequestTelemetryMotorConfig step) := by
  unfold maybeRequestTelemetryMotorConfig
  split
  · exact .refl session step
  · next free =>
    simp only [Bool.or_eq_true, not_or, Bool.not_eq_true] at free
    exact pushConfigRead_asks _ step free.1.1.2 ⟨rfl, rfl, rfl, rfl, rfl⟩

theorem mem_of_removed {command : CommandKind} {output : DeviceOutput}
    (member : output ∈ (step.removeRefusal command).outputs) : output ∈ step.outputs :=
  List.mem_of_mem_filter member

theorem handleSettingsReadRequest_asks (session : VescSettingsSession) (step : DeviceSessionStep) :
    Asks session step (session.handleSettingsReadRequest step) := by
  have cleared {output : DeviceOutput}
      (member : output ∈ (step.removeSettingsResponse.removeRefusal .requestSettings).outputs) :
      output ∈ step.outputs := List.mem_of_mem_filter (mem_of_removed member)
  have refused (reason : ControlRefusalReason) : Asks session step (session,
      (step.removeSettingsResponse.removeRefusal .requestSettings).appendRefusal .requestSettings reason) := by
    refine ⟨⟨rfl, rfl, rfl, rfl, rfl⟩, fun _ => ⟨rfl, ?_⟩, ?_⟩
    · intro bytes operationId member
      rcases List.mem_append.mp member with early | late
      · exact cleared early
      · simp at late
    · intro output member
      rcases List.mem_append.mp member with early | late
      · exact .inl (cleared early)
      · rw [List.mem_singleton.mp late]
        exact .inr rfl
  unfold handleSettingsReadRequest
  simp only
  split
  · exact refused .busy
  · next free =>
    split
    · have asked := @pushConfigRead_asks session { session with
          firmwareInventoryRequested := true
          initialConfigRequested := ConfigurationKindValues.set ⟨false, false, false⟩
            (if session.evidence.supportedPackage then .refloat else .motor) true }
        (if session.evidence.supportedPackage then .refloat else .motor)
        (step.removeSettingsResponse.removeRefusal .requestSettings) (by simpa using free) ⟨rfl, rfl, rfl, rfl, rfl⟩
      refine ⟨asked.same, fun busy => absurd busy free, ?_⟩
      intro output member
      rcases asked.outputs output member with early | quiet
      · exact .inl (cleared early)
      · exact .inr quiet
    · exact refused .unsupportedCommand

/-- A procedure starts only in a session that is idle, supported, armed and stationary. -/
structure Admissible (session : VescSettingsSession) (id : SettingId) (value : DeviceSettingValue) : Prop where
  idle : session.settingsBusy = false
  supported : session.profileIsSupported = true
  command : session.commandIsOk id value = true
  armed : ∃ arm, session.arm = some arm ∧ arm.isValidFor vescSettingsModel session.now = true

private theorem settingRefusal_none {id : SettingId} (accepted : session.settingRefusal id value = none) :
    Admissible session id value := by
  unfold settingRefusal at accepted
  split at accepted
  · cases accepted
  · next idle =>
    split at accepted
    · cases accepted
    · next profile =>
      simp only [Bool.or_eq_true, Bool.not_eq_true', not_or, Bool.not_eq_false] at profile
      cases armed : session.arm with
      | none => simp [armed] at accepted
      | some arm =>
        simp only [armed] at accepted
        split at accepted
        · cases accepted
        · next valid => exact ⟨by simpa using idle, profile.1, profile.2, arm, armed, by simpa using valid⟩

structure Starts (session : VescSettingsSession) (id : SettingId) (value : DeviceSettingValue)
    (pending : PendingSetting) : Prop where
  admissible : Admissible session id value
  id : pending.id = id
  value : pending.value = value
  controller : session.evidence.controllerId = some pending.controllerId
  unbound : pending.authorization = none
  stage : pending.stage = .preflightQueued

/-- A settings command is refused without a trace, or starts a procedure. -/
theorem handleSettingCommand_cases (session : VescSettingsSession) (id : SettingId) (value : DeviceSettingValue)
    (step : DeviceSessionStep) :
    let result := session.handleSettingCommand id value step
    (result.1 = session ∧ ∃ reason, result.2 = (step.removeRefusal .setSetting).appendRefusal .setSetting reason) ∨
      ∃ pending bytes, Starts session id value pending ∧ result.1 = { session with pending := some pending } ∧
        result.2.outputs = (step.removeRefusal .setSetting).outputs ++ [.write bytes none] ∧
        isSetCommand bytes = false := by
  unfold handleSettingCommand
  simp only
  cases refusal : session.settingRefusal id value with
  | some reason => exact .inl ⟨rfl, reason, rfl⟩
  | none =>
    simp only
    split
    · next baseline observed controllerId image controller =>
      split
      · exact .inl ⟨rfl, _, rfl⟩
      · next bytes encoded =>
        exact .inr ⟨_, bytes, ⟨settingRefusal_none refusal, rfl, rfl, controller, rfl, rfl⟩, rfl, rfl,
          isSetCommand_readCommand encoded⟩
    · exact .inl ⟨rfl, _, rfl⟩

theorem handleSettingCommand_busy (busy : session.settingsBusy = true) (id : SettingId) (value : DeviceSettingValue)
    (step : DeviceSessionStep) : session.handleSettingCommand id value step =
      (session, (step.removeRefusal .setSetting).appendRefusal .setSetting .busy) := by
  simp [handleSettingCommand, settingRefusal, busy]

/-- The session as a reply of a kind finds it: the generation noted, the slot of the kind freed. -/
def answered (session : VescSettingsSession) (kind : ConfigurationKind) : VescSettingsSession :=
  let session := { session with
    lastConfigGeneration := session.lastConfigGeneration.set kind (session.evidence.generation kind) }
  if session.standaloneKind = kind then { session with standaloneConfigRead := .idle } else session

structure Writes (session : VescSettingsSession) (kind : ConfigurationKind) (pending : PendingSetting)
    (more : List DeviceOutput) (after : VescSettingsSession) : Prop where
  own : pending.baseline.kind = kind
  controller : session.evidence.controllerId = some pending.controllerId
  write : ∃ submittedAt config time authorization expected operationId write read,
    pending.stage = .awaitingPreflight submittedAt ∧ session.evidence.image kind = some (config, time) ∧
    submittedAt ≤ time ∧ pending.authorization = some authorization ∧
    session.settingWriteIsCurrent authorization time = true ∧ config.changed pending.id pending.value = some expected ∧
    encodeSettingsPayload expected.writeCommandPayload = some write ∧
    encodeSettingsPayload config.readCommandPayload = some read ∧
    more = [.write write (some operationId), .write read (some operationId)] ∧
    after = { session with pending := some { pending with expected := some expected, stage := .mutationQueued } }

inductive Settles (session : VescSettingsSession) (kind : ConfigurationKind) (more : List DeviceOutput) :
    VescSettingsSession → Prop where
  | passed (quiet : ∀ output ∈ more, output.isConfigurationSet = false) : Settles session kind more session
  | dropped {pending : PendingSetting} (known : session.pending = some pending) (own : pending.baseline.kind = kind)
      (quiet : ∀ output ∈ more, output.isConfigurationSet = false) :
      Settles session kind more session.cancelPendingAfterReadResponse
  | finished {pending : PendingSetting} (known : session.pending = some pending) (own : pending.baseline.kind = kind)
      (quiet : ∀ output ∈ more, output.isConfigurationSet = false) : Settles session kind more session.finishPending
  | written {pending : PendingSetting} {after : VescSettingsSession} (known : session.pending = some pending)
      (writes : Writes session kind pending more after) : Settles session kind more after

theorem readback_quiet (image : SettingsImage) :
    ∀ output ∈ image.readback.map DeviceOutput.settingsReadback, output.isConfigurationSet = false := by
  intro output member
  obtain ⟨entries, -, rfl⟩ := List.mem_map.mp member
  rfl

section Replies
variable {session : VescSettingsSession} {kind : ConfigurationKind} {pending : PendingSetting}
  (known : session.pending = some pending) (own : pending.baseline.kind = kind)
  (controller : session.evidence.controllerId = some pending.controllerId) {config : SettingsImage} {time : Nat}
  (image : session.evidence.image kind = some (config, time)) (step : DeviceSessionStep)
include known own controller image

private theorem applyPreflight_settles {submittedAt : Nat} (stage : pending.stage = .awaitingPreflight submittedAt)
    (ordered : submittedAt ≤ time) : ∃ more, (session.applyPreflight pending config time step).2 = step.push more ∧
      Settles session kind more (session.applyPreflight pending config time step).1 := by
  have refused : ∃ more, step.pushReadback config = step.push more ∧
      Settles session kind more session.cancelPendingAfterReadResponse :=
    ⟨_, rfl, .dropped known own (readback_quiet config)⟩
  unfold applyPreflight
  simp only
  split
  · exact refused
  · next current =>
    simp only [Bool.not_eq_true', Bool.not_eq_false, Option.any_eq_true] at current
    obtain ⟨authorization, bound, current⟩ := current
    split
    · exact refused
    · split
      · exact refused
      · next expected changed =>
        split
        · next operationId write read operation encoded encodedRead =>
          refine ⟨_, rfl, .written known ⟨own, controller, submittedAt, config, time, authorization, expected, operationId,
            write, read, stage, image, ordered, bound, current, changed, encoded, encodedRead, rfl, ?_⟩⟩
          rw [known]
          rfl
        · exact ⟨[], by simp [DeviceSessionStep.push], .dropped known own (by simp)⟩

private theorem settleReply_settles : ∃ more, (session.settleReply pending config time step).2 = step.push more ∧
    Settles session kind more (session.settleReply pending config time step).1 := by
  have ignored : ∃ more, step = step.push more ∧ Settles session kind more session :=
    ⟨[], by simp [DeviceSessionStep.push], .passed (by simp)⟩
  unfold settleReply
  split
  · exact ignored
  · exact ignored
  · exact ignored
  · next submittedAt stage =>
    split
    · exact ignored
    · next late => exact applyPreflight_settles known own controller image step stage (by omega)
  · split
    · exact ignored
    · split
      · exact ⟨_, rfl, .finished known own (readback_quiet config)⟩
      · exact ⟨_, rfl, .dropped known own (readback_quiet config)⟩

end Replies

theorem observeConfigKind_cases (session : VescSettingsSession) (step : DeviceSessionStep) (kind : ConfigurationKind) :
    (session.evidence.generation kind ≤ session.lastConfigGeneration.get kind ∧
      observeConfigKind (session, step) kind = (session, step)) ∨
    (session.lastConfigGeneration.get kind < session.evidence.generation kind ∧ ∃ more,
      (observeConfigKind (session, step) kind).2 = step.push more ∧
        Settles (session.answered kind) kind more (observeConfigKind (session, step) kind).1) := by
  unfold observeConfigKind
  simp only
  split
  · next newer =>
    refine .inr ⟨newer, ?_⟩
    have freed : (let session := { session with
        lastConfigGeneration := session.lastConfigGeneration.set kind (session.evidence.generation kind) }
      if session.standaloneKind = kind then { session with standaloneConfigRead := .idle } else session) =
        session.answered kind := rfl
    unfold observeConfigImage
    simp only at freed ⊢
    rw [freed]
    generalize session.answered kind = session
    split
    · next pending image known =>
      split
      · next own => exact ⟨[], by simp [DeviceSessionStep.push], .dropped known own (by simp)⟩
      · exact ⟨[], by simp [DeviceSessionStep.push], .passed (by simp)⟩
    · exact ⟨[], by simp [DeviceSessionStep.push], .passed (by simp)⟩
    · exact ⟨_, rfl, .passed (readback_quiet _)⟩
    · next config time pending image known =>
      split
      · exact ⟨_, rfl, .passed (readback_quiet _)⟩
      · next own =>
        split
        · exact ⟨_, rfl, .dropped known (by simpa using own) (readback_quiet _)⟩
        · next controller =>
          exact settleReply_settles known (by simpa using own) (by simpa using controller) image step
  · next seen => exact .inl ⟨by omega, rfl⟩

theorem Settles.frame (settles : Settles session kind more after) : after.readOnly = session.readOnly ∧
      after.lastConfigGeneration = session.lastConfigGeneration ∧ after.standaloneKind = session.standaloneKind ∧
      after.standaloneConfigRead = session.standaloneConfigRead ∧ (after.pending ≠ none → session.pending ≠ none) ∧
      after.nextConfigReadId = session.nextConfigReadId := by
  cases settles with
  | passed => exact ⟨rfl, rfl, rfl, rfl, id, rfl⟩
  | dropped known =>
    obtain ⟨kind, slot⟩ := cancelAfterRead_slot session
    exact ⟨cancel_readOnly session false, cancel_lastConfigGeneration session false, kind, slot, by simp [known],
      cancel_nextConfigReadId session false⟩
  | finished known => exact ⟨rfl, rfl, rfl, rfl, by simp [known], rfl⟩
  | written known writes =>
    obtain ⟨_, _, _, _, _, _, _, _, -, -, -, -, -, -, -, -, -, rfl⟩ := writes.write
    exact ⟨rfl, rfl, rfl, rfl, by simp [known], rfl⟩

theorem Settles.carries (settles : Settles session kind more after) (known : session.pending = some pending) :
    after.pending = some pending ∨ pending.baseline.kind = kind := by
  cases settles with
  | passed => exact .inl known
  | dropped there own | finished there own =>
    rw [known] at there
    cases there
    exact .inr own
  | written there writes =>
    rw [known] at there
    cases there
    exact .inr writes.own

theorem answered_pending (session : VescSettingsSession) (kind : ConfigurationKind) :
    (session.answered kind).pending = session.pending := by
  unfold answered
  simp only
  split <;> rfl

theorem answered_slot (session : VescSettingsSession) (kind : ConfigurationKind) :
    (session.answered kind).standaloneKind = session.standaloneKind ∧
      (session.standaloneKind ≠ kind →
        (session.answered kind).standaloneConfigRead = session.standaloneConfigRead) := by
  unfold answered
  simp only
  split
  · next own => exact ⟨rfl, fun other => absurd own other⟩
  · exact ⟨rfl, fun _ => rfl⟩

structure Valid (session : VescSettingsSession) : Prop where
  slot : session.pending ≠ none → session.standaloneConfigRead = .idle
  armed : session.pending ≠ none → session.arm ≠ none
  bound : ∀ pending authorization, session.pending = some pending → pending.authorization = some authorization →
    authorization.cancellationGeneration = session.cancellationGeneration
  deadline : ∀ arm, session.arm = some arm → arm.expiresAt ≤ u64Max

namespace Valid
variable {session after : VescSettingsSession}

theorem of_none (gone : after.pending = none) (deadline : ∀ arm, after.arm = some arm → arm.expiresAt ≤ u64Max) :
    Valid after :=
  ⟨fun known => absurd gone known, fun known => absurd gone known, fun _ _ known => by simp [gone] at known, deadline⟩

section Valid
variable (valid : Valid session)
include valid

theorem lapses (lapses : Lapses session after) : Valid after := by
  rcases lapses with same | cancelled
  · refine ⟨?_, ?_, ?_, ?_⟩
    · rw [same.pending, same.standaloneConfigRead]
      exact valid.slot
    · rw [same.pending, same.arm]
      exact valid.armed
    · rw [same.pending, same.cancellationGeneration]
      exact valid.bound
    · rw [same.arm]
      exact valid.deadline
  · refine of_none cancelled.pending ?_
    intro arm known
    rcases cancelled.arm with same | gone
    · exact valid.deadline arm (same ▸ known)
    · simp [gone] at known

theorem asks {result : VescSettingsSession × DeviceSessionStep} (asks : Asks session step result) : Valid result.1 := by
  by_cases busy : session.settingsBusy = true
  · rw [(asks.busy busy).1]
    exact valid
  · have gone : session.pending = none := by
      simp only [settingsBusy, Bool.or_eq_true, not_or, Bool.not_eq_true, Option.isSome_eq_false_iff,
        Option.isNone_iff_eq_none] at busy
      exact busy.1
    exact of_none (asks.same.pending.trans gone) (by rw [asks.same.arm]; exact valid.deadline)

theorem starts {id : SettingId} (starts : Starts session id value pending) :
    Valid { session with pending := some pending } := by
  obtain ⟨arm, armed, -⟩ := starts.admissible.armed
  have idle := starts.admissible.idle
  simp only [settingsBusy, Bool.or_eq_false_iff, decide_eq_false_iff_not, not_not] at idle
  refine ⟨fun _ => idle.2, fun _ => by simp [armed], ?_, valid.deadline⟩
  intro procedure authorization known bound
  cases known
  simp [starts.unbound] at bound

theorem answered (kind : ConfigurationKind) : Valid (session.answered kind) := by
  unfold VescSettingsSession.answered
  simp only
  split
  · exact ⟨fun _ => rfl, valid.armed, valid.bound, valid.deadline⟩
  · exact ⟨valid.slot, valid.armed, valid.bound, valid.deadline⟩

theorem settles (settles : Settles session kind more after) : Valid after := by
  cases settles with
  | passed => exact valid
  | dropped => exact of_none (cancel_pending session false) (by
      rw [cancelPendingAfterReadResponse, cancel_arm]; exact valid.deadline)
  | finished => exact of_none rfl valid.deadline
  | @written pending after known writes =>
    obtain ⟨_, _, _, _, _, _, _, _, -, -, -, -, -, -, -, -, -, rfl⟩ := writes.write
    have some : session.pending ≠ none := by simp [known]
    refine ⟨fun _ => valid.slot some, fun _ => valid.armed some, ?_, valid.deadline⟩
    intro procedure authorization carried bound
    cases carried
    exact valid.bound pending authorization known bound

theorem observeConfig (step : DeviceSessionStep) : Valid (session.observeConfig step).1 := by
  have round (work : VescSettingsSession × DeviceSessionStep) (kind : ConfigurationKind) (valid : Valid work.1) :
      Valid (observeConfigKind work kind).1 := by
    rcases observeConfigKind_cases work.1 work.2 kind with ⟨-, same⟩ | ⟨-, more, -, settles⟩
    · exact same ▸ valid
    · exact (valid.answered kind).settles settles
  exact round _ _ (round _ _ (round (session, step) _ valid))

theorem respond (input : SessionInput) (step : DeviceSessionStep) : Valid (session.respond input step).1 := by
  have command (id : SettingId) (value : DeviceSettingValue) : Valid (session.handleSettingCommand id value step).1 := by
    rcases handleSettingCommand_cases session id value step with ⟨same, -⟩ | ⟨pending, _, starts, started, -⟩
    · rw [same]
      exact valid
    · rw [started]
      exact valid.starts starts
  have read := valid.asks (handleSettingsReadRequest_asks session step)
  unfold VescSettingsSession.respond
  split
  · exact command _ _
  · exact command _ _
  · exact read
  · exact read
  · exact valid.observeConfig step
  · exact valid

end Valid

theorem request {work : VescSettingsSession × DeviceSessionStep} (valid : Valid work.1) (requestedMotorConfig : Bool) :
    Valid (request requestedMotorConfig work).1 := by
  unfold VescSettingsSession.request
  simp only
  split
  · exact (valid.asks (maybeRequestTelemetryMotorConfig_asks work.1 work.2)).asks (maybeRequestInitialConfig_asks _ _)
  · exact valid.asks (maybeRequestInitialConfig_asks work.1 work.2)

/-- The procedure changes in ways that keep its bound generation. -/
theorem mapPending (valid : Valid session) (change : PendingSetting → PendingSetting)
    (bound : ∀ pending authorization, session.pending = some pending →
      (change pending).authorization = some authorization →
        pending.authorization = some authorization ∨
          authorization.cancellationGeneration = session.cancellationGeneration) :
    Valid { session with pending := session.pending.map change } := by
  have known (some : session.pending.map change ≠ none) : session.pending ≠ none := by simpa using some
  refine ⟨fun some => valid.slot (known some), fun some => valid.armed (known some), ?_, valid.deadline⟩
  intro procedure authorization carried binding
  obtain ⟨pending, there, rfl⟩ := Option.map_eq_some_iff.mp carried
  rcases bound pending authorization there binding with old | new
  · exact valid.bound pending authorization there old
  · exact new

end Valid

/-- A receipt of a read outside a procedure concerns the slot alone. -/
theorem readTransport_frame (session : VescSettingsSession) (operationId : Nat) (status : SettingTransportStatus)
    (time : Nat) :
    let after := session.recordSettingReadTransport operationId status time
    after.pending = session.pending ∧ after.nextConfigReadId = session.nextConfigReadId ∧
      after.readOnly = session.readOnly ∧ after.lastConfigGeneration = session.lastConfigGeneration ∧
      after.arm = session.arm := by
  unfold recordSettingReadTransport
  split
  · simp only
    split
    · exact ⟨rfl, rfl, rfl, rfl, rfl⟩
    · cases status with
      | rejected | cancelled => simp only; split <;> exact ⟨rfl, rfl, rfl, rfl, rfl⟩
      | _ => exact ⟨rfl, rfl, rfl, rfl, rfl⟩
  · exact ⟨rfl, rfl, rfl, rfl, rfl⟩

theorem step_ingest (session : VescSettingsSession) (input : SessionInput) : session.step vesc (.ingest input) =
      ((request (session.receive vesc input).2.2
          ((session.receive vesc input).1.respond input (session.receive vesc input).2.1)).1,
        (request (session.receive vesc input).2.2
          ((session.receive vesc input).1.respond input (session.receive vesc input).2.1)).2.outputs) := rfl

theorem step_valid (session : VescSettingsSession) (call : SettingsCall) (valid : Valid session) :
    Valid (session.step vesc call).1 := by
  have cancelled (operationId : Nat) : Valid (session.cancelSettingOperation operationId) := by
    unfold cancelSettingOperation
    split
    · exact valid.lapses (.inr (cancelPending_cancelled session))
    · exact valid
  cases call with
  | ingest input =>
    have admitted : Valid (session.receive vesc input).1 := by
      cases edge : input.isConnectionEdge with
      | false => exact valid.lapses (receive_lapses vesc session edge)
      | true =>
        obtain ⟨gone, unarmed, -⟩ := receive_edge vesc session edge
        exact .of_none gone (by simp [unarmed])
    rw [step_ingest]
    exact (admitted.respond input _).request _
  | armSettingsWrites state speed time =>
    simp only [step, armSettingsWrites]
    split
    · refine ⟨valid.slot, fun _ => by simp, valid.bound, ?_⟩
      intro arm known
      cases known
      exact Nat.min_le_right _ _
    · exact valid.lapses (.inr (clearArmAndCancel_cancelled session))
  | bindSettingOperation operationId =>
    refine valid.mapPending _ ?_
    intro pending authorization known binding
    simp only at binding
    split at binding
    · exact .inr (by rw [← Option.some.inj binding])
    · exact .inl binding
  | recordSettingTransport operationId status time =>
    simp only [step, recordSettingTransport]
    split
    · cases status with
      | submitted => exact valid.mapPending _ fun _ _ _ binding => .inl binding
      | rejected | cancelled => exact cancelled operationId
      | _ => exact valid
    · exact valid
  | recordSettingReadTransport operationId status time =>
    cases pending : session.pending with
    | none =>
      obtain ⟨same, -, -, -, arm⟩ := readTransport_frame session operationId status time
      exact .of_none (same.trans pending) (by rw [step, arm]; exact valid.deadline)
    | some procedure =>
      have idle := valid.slot (by simp [pending])
      simp only [step, recordSettingReadTransport, idle]
      exact valid
  | cancelSettingOperation operationId => exact cancelled operationId
  | _ => exact ⟨valid.slot, valid.armed, valid.bound, valid.deadline⟩

theorem new_valid (boardProfile : Option VescBoardProfile) : Valid (new boardProfile) :=
  .of_none rfl (by simp [new])

end VescSettingsSession

end Cutout.Protocols

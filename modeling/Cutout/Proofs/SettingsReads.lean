import Cutout.Proofs.SettingsSession

/-! The one read slot of a settings session. A procedure and a read outside it never
coexist, nothing new is accepted while either is there, and a procedure cancelled
with its read on the wire keeps the slot until a reply of its kind or a link edge. -/

namespace Cutout.Protocols
open Library
variable {kind : ConfigurationKind} {vesc : VescCrate}
variable {session : VescSettingsSession}

namespace VescSettingsSession
variable {session : VescSettingsSession} {work : VescSettingsSession × DeviceSessionStep} {pending : PendingSetting}
variable {input : SessionInput}
variable (requestedMotorConfig : Bool)
variable {result : VescSettingsSession × DeviceSessionStep} {step : DeviceSessionStep}

def Seen (session : VescSettingsSession) : Prop :=
  ∀ kind, session.evidence.generation kind ≤ session.lastConfigGeneration.get kind

/-- A reply of a kind read from the wire, with the image it carries. -/
structure Answered (kind : ConfigurationKind) (input : SessionInput) (outputs : List DeviceOutput)
    (evidence : VescSettingsEvidence) : Prop where
  listed : ∃ output ∈ outputs, output.answers kind
  notified : ∃ subscribed bytes time, input = .notification subscribed bytes time ∧
    ∀ config observed, evidence.image kind = some (config, observed) → observed = time ∧
      ∃ reply, .session (.reply reply) ∈ outputs ∧ reply.image kind = some config

theorem protocolInput_edge (input : SessionInput) : input.protocolInput.isConnectionEdge = input.isConnectionEdge := by
  cases input with
  | commandAt command time => cases command <;> rfl
  | _ => rfl

private theorem protocolInput_notification {subscribed : Bool} {bytes : List Byte} {time : Nat}
    (below : input.protocolInput = .notification subscribed bytes time) :
    input = .notification subscribed bytes time := by
  cases input with
  | commandAt command time => cases command <;> cases below
  | _ => exact below

theorem receive_outputs (vesc : VescCrate) (session : VescSettingsSession) (input : SessionInput) :
    (session.receive vesc input).2.1.outputs =
      (session.readOnly.ingestTyped vesc input.protocolInput).2.outputs.filter
        fun output => !output.isAutomaticMotorConfigRead := by
  have begun : (session.begin input).readOnly = session.readOnly := by
    unfold begin
    cases input.isConnectionEdge with
    | false => rfl
    | true => exact cancel_readOnly _ true
  unfold receive
  simp only [begun]

/-- A generation that a session has not seen is a reply in this very input. -/
theorem receive_answered (seen : Seen session) (inside : input.isConnectionEdge = false)
    (newer : (session.receive vesc input).1.lastConfigGeneration.get kind <
      (session.receive vesc input).1.evidence.generation kind) :
    Answered kind input (session.receive vesc input).2.1.outputs (session.receive vesc input).1.evidence := by
  have below : (session.receive vesc input).1.evidence =
      (session.readOnly.ingestTyped vesc input.protocolInput).1.settingsEvidence := by
    unfold evidence
    rw [receive_readOnly]
  rw [(receive_lapses vesc session inside).lastConfigGeneration, below] at newer
  have grew := Nat.lt_of_le_of_lt (seen kind) newer
  have protocol : input.protocolInput.isConnectionEdge = false := by rw [protocolInput_edge]; exact inside
  rcases readOnly_evidence vesc session.readOnly protocol with
    same | ⟨subscribed, bytes, time, outputs, notified, listed, reread⟩
  · rw [same] at grew
    exact absurd grew (Nat.lt_irrefl _)
  · rw [receive_outputs, listed, below]
    have shown {reply : VescReadOnlyReply} (member : .reply reply ∈ outputs) : .session (.reply reply) ∈
        (outputs.map DeviceOutput.session).filter fun output => !output.isAutomaticMotorConfigRead :=
      List.mem_filter.mpr ⟨List.mem_map_of_mem member, rfl⟩
    obtain ⟨⟨reply, member, answer⟩, read⟩ := (reread kind).answered grew
    refine ⟨⟨_, shown member, answer⟩, subscribed, bytes, time, protocolInput_notification notified, ?_⟩
    intro config observed found
    obtain ⟨now, reply, member, carried⟩ := read config observed found
    exact ⟨now, reply, shown member, carried⟩

structure Later (session : VescSettingsSession) (work : VescSettingsSession × DeviceSessionStep) : Prop where
  readOnly : work.1.readOnly = session.readOnly
  noted : ∀ kind, session.lastConfigGeneration.get kind ≤ work.1.lastConfigGeneration.get kind

theorem Later.refl (session : VescSettingsSession) (step : DeviceSessionStep) : Later session (session, step) :=
  ⟨rfl, fun _ => le_rfl⟩

private theorem answered_readOnly (session : VescSettingsSession) (kind : ConfigurationKind) :
    (session.answered kind).readOnly = session.readOnly := by
  unfold answered
  simp only
  split <;> rfl

theorem answered_noted (session : VescSettingsSession) (kind other : ConfigurationKind) :
    (session.answered kind).lastConfigGeneration.get other =
      if other = kind then session.evidence.generation kind else session.lastConfigGeneration.get other := by
  unfold answered
  simp only
  split <;> exact ConfigurationKindValues.get_set _ _ _ _

theorem Later.round (later : Later session work) (kind : ConfigurationKind) :
    Later session (observeConfigKind work kind) ∧
      session.evidence.generation kind ≤ (observeConfigKind work kind).1.lastConfigGeneration.get kind := by
  have evidence : work.1.evidence = session.evidence := by
    unfold VescSettingsSession.evidence
    rw [later.readOnly]
  rcases observeConfigKind_cases work.1 work.2 kind with ⟨seen, same⟩ | ⟨newer, more, -, settles⟩
  · rw [evidence] at seen
    rw [same]
    exact ⟨later, seen⟩
  · obtain ⟨readOnly, noted, -⟩ := settles.frame
    refine ⟨⟨(readOnly.trans (answered_readOnly work.1 kind)).trans later.readOnly, ?_⟩, ?_⟩
    · intro other
      rw [noted, answered_noted]
      split
      · next same =>
        rw [same]
        exact (later.noted kind).trans newer.le
      · exact later.noted other
    · rw [noted, answered_noted, if_pos rfl, evidence]

theorem observeConfig_induction {session : VescSettingsSession}
    {P : VescSettingsSession × DeviceSessionStep → Prop} {step : DeviceSessionStep} (initial : P (session, step))
    (round : ∀ work kind, Later session work → P work → P (observeConfigKind work kind)) :
    P (session.observeConfig step) := by
  have start := Later.refl session step
  have first := start.round .refloat
  have second := first.1.round .motor
  exact round _ .app second.1 (round _ .motor first.1 (round _ .refloat start initial))

theorem observeConfig_seen (session : VescSettingsSession) (step : DeviceSessionStep) :
    Seen (session.observeConfig step).1 := by
  have first := (Later.refl session step).round .refloat
  have second := first.1.round .motor
  have third := second.1.round .app
  have evidence : (session.observeConfig step).1.evidence = session.evidence := by
    unfold VescSettingsSession.evidence
    rw [← third.1.readOnly]
    rfl
  have above (start : VescSettingsSession × DeviceSessionStep) (kind other : ConfigurationKind) :
      start.1.lastConfigGeneration.get other ≤ (observeConfigKind start kind).1.lastConfigGeneration.get other :=
    ((Later.refl start.1 start.2).round kind).1.noted other
  intro kind
  rw [evidence]
  cases kind with
  | refloat => exact first.2.trans ((above _ .motor _).trans (above _ .app _))
  | motor => exact second.2.trans (above _ .app _)
  | app => exact third.2

theorem Asks.seen (asks : Asks session step result) (seen : Seen session) : Seen result.1 := by
  intro kind
  rw [evidence, asks.same.readOnly, asks.same.lastConfigGeneration]
  exact seen kind

private theorem request_seen (seen : Seen work.1) : Seen (request requestedMotorConfig work).1 := by
  unfold request
  simp only
  split
  · exact (maybeRequestInitialConfig_asks _ _).seen ((maybeRequestTelemetryMotorConfig_asks work.1 work.2).seen seen)
  · exact (maybeRequestInitialConfig_asks work.1 work.2).seen seen

private theorem respond_seen (step : DeviceSessionStep)
    (seen : Seen session ∨ ∃ subscribed bytes time, input = .notification subscribed bytes time) :
    Seen (session.respond input step).1 := by
  rcases seen with seen | ⟨subscribed, bytes, time, rfl⟩
  · have command (id : SettingId) (value : DeviceSettingValue) : Seen (session.handleSettingCommand id value step).1 := by
      rcases handleSettingCommand_cases session id value step with ⟨same, -⟩ | ⟨pending, _, -, started, -⟩
      · rw [same]
        exact seen
      · rw [started]
        exact seen
    have read := (handleSettingsReadRequest_asks session step).seen seen
    unfold respond
    split
    · exact command _ _
    · exact command _ _
    · exact read
    · exact read
    · exact observeConfig_seen session step
    · exact seen
  · exact observeConfig_seen session step

theorem step_seen (vesc : VescCrate) (session : VescSettingsSession) (call : SettingsCall) (seen : Seen session) :
    Seen (session.step vesc call).1 := by
  have cancelled (session : VescSettingsSession) (seen : Seen session) : Seen session.cancelPending := by
    intro kind
    unfold cancelPending evidence
    rw [cancel_readOnly, cancel_lastConfigGeneration]
    exact seen kind
  have cancelledOperation (operationId : Nat) : Seen (session.cancelSettingOperation operationId) := by
    unfold cancelSettingOperation
    split
    · exact cancelled session seen
    · exact seen
  cases call with
  | ingest input =>
    rw [step_ingest]
    apply request_seen
    apply respond_seen
    cases edge : input.isConnectionEdge with
    | true =>
      refine .inl fun kind => ?_
      unfold evidence
      rw [receive_readOnly, readOnly_edge vesc session.readOnly (by rw [protocolInput_edge]; exact edge)]
      exact Nat.zero_le _
    | false =>
      by_cases notified : ∃ subscribed bytes time, input = .notification subscribed bytes time
      · exact .inr notified
      · refine .inl fun kind => ?_
        by_contra newer
        obtain ⟨subscribed, bytes, time, same, -⟩ := (receive_answered seen edge (Nat.lt_of_not_le newer)).notified
        exact notified ⟨subscribed, bytes, time, same⟩
  | armSettingsWrites state speed time =>
    simp only [step, armSettingsWrites]
    split
    · exact seen
    · exact cancelled { session with arm := none } seen
  | recordSettingTransport operationId status time =>
    simp only [step, recordSettingTransport]
    split
    · cases status with
      | rejected | cancelled => exact cancelledOperation operationId
      | _ => exact seen
    · exact seen
  | recordSettingReadTransport operationId status time =>
    obtain ⟨-, -, readOnly, noted, -⟩ := readTransport_frame session operationId status time
    intro kind
    rw [step, evidence, readOnly, noted]
    exact seen kind
  | cancelSettingOperation operationId => exact cancelledOperation operationId
  | _ => exact seen

structure Retained (kind : ConfigurationKind) (session : VescSettingsSession) : Prop where
  pending : session.pending = none
  kind : session.standaloneKind = kind
  slot : session.standaloneConfigRead = .awaitingProcedureReply

namespace Retained
variable {kind : ConfigurationKind} {session after : VescSettingsSession}

theorem busy (retained : Retained kind session) : session.settingsBusy = true := by
  simp [settingsBusy, retained.slot]

theorem of_cancelled (cancelled : Cancelled session after) (known : session.pending = some pending)
    (submitted : pending.stage.readSubmitted = true) : Retained pending.baseline.kind after := by
  have slot := cancelled.slot
  simp only [slotAfterCancel, known, submitted, if_true, Prod.mk.injEq] at slot
  exact ⟨cancelled.pending, slot.1, slot.2⟩

theorem lapses (retained : Retained kind session) (lapses : Lapses session after) : Retained kind after := by
  obtain ⟨gone, -, sameKind, slot⟩ := lapses.of_none retained.pending
  exact ⟨gone, sameKind.trans retained.kind, slot.trans retained.slot⟩

theorem asks (retained : Retained kind session) (asks : Asks session step result) : Retained kind result.1 := by
  rw [(asks.busy retained.busy).1]
  exact retained

theorem request (retained : Retained kind work.1) (requestedMotorConfig : Bool) :
    Retained kind (request requestedMotorConfig work).1 := by
  unfold VescSettingsSession.request
  simp only
  split
  · exact (retained.asks (maybeRequestTelemetryMotorConfig_asks _ _)).asks (maybeRequestInitialConfig_asks _ _)
  · exact retained.asks (maybeRequestInitialConfig_asks _ _)

end Retained

theorem request_pending (work : VescSettingsSession × DeviceSessionStep) :
    (request requestedMotorConfig work).1.pending = work.1.pending := by
  unfold request
  simp only
  split
  · exact (maybeRequestInitialConfig_asks _ _).same.pending.trans (maybeRequestTelemetryMotorConfig_asks _ _).same.pending
  · exact (maybeRequestInitialConfig_asks _ _).same.pending

section Looping
variable {session : VescSettingsSession} {work : VescSettingsSession × DeviceSessionStep}
variable {other : ConfigurationKind}

  (later : Later session work) (kind : ConfigurationKind)
include later

theorem Later.newer (newer : work.1.lastConfigGeneration.get other < work.1.evidence.generation other) :
    session.lastConfigGeneration.get other < session.evidence.generation other := by
  rw [evidence, later.readOnly] at newer
  exact (later.noted other).trans_lt newer

/-- Without a procedure a round can only free the slot of its kind. -/
theorem round_retained (retained : Retained other work.1) : Retained other (observeConfigKind work kind).1 ∨
      (session.lastConfigGeneration.get other < session.evidence.generation other ∧
        (observeConfigKind work kind).1.pending = none) := by
  rcases observeConfigKind_cases work.1 work.2 kind with ⟨-, same⟩ | ⟨newer, more, -, settles⟩
  · rw [same]
    exact .inl retained
  · obtain ⟨-, -, sameKind, slot, procedure, -⟩ := settles.frame
    have gone : (observeConfigKind work kind).1.pending = none := by
      by_contra known
      exact procedure known ((answered_pending work.1 kind).trans retained.pending)
    by_cases own : kind = other
    · subst own
      exact .inr ⟨later.newer newer, gone⟩
    · obtain ⟨keptKind, keptSlot⟩ := answered_slot work.1 kind
      have other : work.1.standaloneKind ≠ kind := by
        rw [retained.kind]
        exact fun same => own same.symm
      exact .inl ⟨gone, (sameKind.trans keptKind).trans retained.kind,
        (slot.trans (keptSlot other)).trans retained.slot⟩

omit later in
private theorem round_none (gone : work.1.pending = none) : (observeConfigKind work kind).1.pending = none := by
  rcases observeConfigKind_cases work.1 work.2 kind with ⟨-, same⟩ | ⟨newer, more, -, settles⟩
  · rw [same]
    exact gone
  · obtain ⟨-, -, -, -, procedure, -⟩ := settles.frame
    by_contra known
    exact procedure known ((answered_pending work.1 kind).trans gone)

private theorem round_carries (known : work.1.pending = some pending) :
    (observeConfigKind work kind).1.pending = some pending ∨
      session.lastConfigGeneration.get pending.baseline.kind < session.evidence.generation pending.baseline.kind := by
  rcases observeConfigKind_cases work.1 work.2 kind with ⟨-, same⟩ | ⟨newer, more, -, settles⟩
  · rw [same]
    exact .inl known
  · rcases settles.carries ((answered_pending work.1 kind).trans known) with carried | own
    · exact .inl carried
    · exact .inr (own ▸ later.newer newer)

end Looping

/-- A retained read outlives an input unless its reply is there. -/
theorem respond_retained (retained : Retained kind session) (input : SessionInput) (step : DeviceSessionStep) :
    Retained kind (session.respond input step).1 ∨
      (session.lastConfigGeneration.get kind < session.evidence.generation kind ∧
        (session.respond input step).1.pending = none) := by
  have command (id : SettingId) (value : DeviceSettingValue) :
      Retained kind (session.handleSettingCommand id value step).1 := by
    rw [handleSettingCommand_busy retained.busy]
    exact retained
  have read := retained.asks (handleSettingsReadRequest_asks session step)
  unfold respond
  split
  · exact .inl (command _ _)
  · exact .inl (command _ _)
  · exact .inl read
  · exact .inl read
  · refine @observeConfig_induction session (fun work => Retained kind work.1 ∨
      (session.lastConfigGeneration.get kind < session.evidence.generation kind ∧ work.1.pending = none)) step
      (.inl retained) ?_
    intro work other later held
    rcases held with held | ⟨newer, gone⟩
    · exact round_retained later other held
    · exact .inr ⟨newer, round_none other gone⟩
  · exact .inl retained

private theorem respond_carries (known : session.pending = some pending) (input : SessionInput) (step : DeviceSessionStep) :
    (session.respond input step).1.pending = some pending ∨
      session.lastConfigGeneration.get pending.baseline.kind < session.evidence.generation pending.baseline.kind := by
  have busy : session.settingsBusy = true := by simp [settingsBusy, known]
  have command (id : SettingId) (value : DeviceSettingValue) :
      (session.handleSettingCommand id value step).1.pending = some pending := by
    rw [handleSettingCommand_busy busy]
    exact known
  have read := (handleSettingsReadRequest_asks session step).same.pending.trans known
  unfold respond
  split
  · exact .inl (command _ _)
  · exact .inl (command _ _)
  · exact .inl read
  · exact .inl read
  · refine @observeConfig_induction session (fun work => work.1.pending = some pending ∨
      session.lastConfigGeneration.get pending.baseline.kind < session.evidence.generation pending.baseline.kind) step
      (.inl known) ?_
    intro work other later held
    rcases held with held | newer
    · exact round_carries later other held
    · exact .inr newer
  · exact .inl known

theorem pushConfigRead_keeps (session : VescSettingsSession) (kind : ConfigurationKind) (step : DeviceSessionStep) :
    step.outputs ⊆ (session.pushConfigRead kind step).2.outputs := by
  obtain ⟨-, more, pushed, -⟩ := pushConfigRead_spec session kind step
  rw [pushed]
  exact List.subset_append_left _ _

theorem request_keeps (work : VescSettingsSession × DeviceSessionStep) :
    work.2.outputs ⊆ (request requestedMotorConfig work).2.outputs := by
  have initial (session : VescSettingsSession) (step : DeviceSessionStep) :
      step.outputs ⊆ (session.maybeRequestInitialConfig step).2.outputs := by
    unfold maybeRequestInitialConfig
    split
    · exact List.Subset.refl _
    · split
      · exact List.Subset.refl _
      · exact pushConfigRead_keeps _ _ _
  have motor : work.2.outputs ⊆ (work.1.maybeRequestTelemetryMotorConfig work.2).2.outputs := by
    unfold maybeRequestTelemetryMotorConfig
    split
    · exact List.Subset.refl _
    · exact pushConfigRead_keeps _ _ _
  unfold request
  simp only
  split
  · exact List.Subset.trans motor (initial _ _)
  · exact initial _ _

theorem observeConfig_keeps (session : VescSettingsSession) (step : DeviceSessionStep) :
    step.outputs ⊆ (session.observeConfig step).2.outputs := by
  refine @observeConfig_induction session (fun work => step.outputs ⊆ work.2.outputs) step (List.Subset.refl _) ?_
  intro work kind _ kept
  rcases observeConfigKind_cases work.1 work.2 kind with ⟨-, same⟩ | ⟨-, more, pushed, -⟩
  · rw [same]
    exact kept
  · rw [pushed]
    exact List.Subset.trans kept (List.subset_append_left _ _)

end VescSettingsSession

def SettingsCall.isConnectionEdge : SettingsCall → Bool
  | .ingest input => input.isConnectionEdge
  | _ => false

namespace VescSettingsSession

def Replied (kind : ConfigurationKind) (outputs : List DeviceOutput) : Prop := ∃ output ∈ outputs, output.answers kind

theorem ingest_replied {input : SessionInput} (seen : Seen session) (inside : input.isConnectionEdge = false)
    (newer : (session.receive vesc input).1.lastConfigGeneration.get kind <
      (session.receive vesc input).1.evidence.generation kind)
    :
    Replied kind (session.step vesc (.ingest input)).2 := by
  obtain ⟨⟨output, listed, answer⟩, subscribed, bytes, time, rfl, -⟩ := receive_answered seen inside newer
  exact ⟨output, request_keeps _ _ (observeConfig_keeps _ _ listed), answer⟩

section Steps
variable {vesc : VescCrate} {session : VescSettingsSession} (seen : Seen session) {call : SettingsCall}
  (inside : call.isConnectionEdge = false)
include seen inside

/-- The slot of a cancelled procedure's read is kept until its reply. -/
theorem step_retained (retained : Retained kind session) : (session.step vesc call).1.pending = none ∧
      (Retained kind (session.step vesc call).1 ∨ Replied kind (session.step vesc call).2) := by
  have kept {after : VescSettingsSession} {outputs : List DeviceOutput} (still : Retained kind after) :
      after.pending = none ∧ (Retained kind after ∨ Replied kind outputs) := ⟨still.pending, .inl still⟩
  have unowned (operationId : Nat) : session.ownsOperation operationId = false := by
    simp [ownsOperation, retained.pending]
  cases call with
  | ingest input =>
    rcases respond_retained (retained.lapses (receive_lapses vesc session inside)) input (session.receive vesc input).2.1
      with still | ⟨newer, gone⟩
    · exact kept (still.request _)
    · refine ⟨?_, .inr (ingest_replied seen inside newer)⟩
      rw [step_ingest, request_pending]
      exact gone
  | armSettingsWrites state speed time =>
    simp only [step, armSettingsWrites]
    split
    · exact kept ⟨retained.pending, retained.kind, retained.slot⟩
    · exact kept (retained.lapses (.inr (clearArmAndCancel_cancelled session)))
  | bindSettingOperation operationId =>
    exact kept ⟨by simp [step, bindSettingOperation, retained.pending], retained.kind, retained.slot⟩
  | recordSettingTransport operationId status time =>
    simp only [step, recordSettingTransport, unowned, Bool.false_eq_true, if_false]
    exact kept retained
  | recordSettingReadTransport operationId status time =>
    simp only [step, recordSettingReadTransport, retained.slot]
    exact kept retained
  | cancelSettingOperation operationId =>
    simp only [step, cancelSettingOperation, unowned, Bool.false_eq_true, if_false]
    exact kept retained
  | _ => exact kept ⟨retained.pending, retained.kind, retained.slot⟩

/-- A procedure that ends without its reply while its read is on the wire keeps the slot. -/
theorem step_cancelled {pending : PendingSetting} (known : session.pending = some pending)
    (submitted : pending.stage.readSubmitted = true) (gone : (session.step vesc call).1.pending = none)
    (silent : ¬Replied pending.baseline.kind (session.step vesc call).2) :
    Retained pending.baseline.kind (session.step vesc call).1 := by
  have cancelled (operationId : Nat) (gone : (session.cancelSettingOperation operationId).pending = none) :
      Retained pending.baseline.kind (session.cancelSettingOperation operationId) := by
    unfold cancelSettingOperation at gone ⊢
    split at gone
    · next own =>
      rw [if_pos own]
      exact .of_cancelled (cancelPending_cancelled session) known submitted
    · rw [known] at gone
      cases gone
  cases call with
  | ingest input =>
    rcases receive_lapses vesc session inside with same | lapsed
    · rcases respond_carries (same.pending.trans known) input (session.receive vesc input).2.1 with carried | newer
      · rw [step_ingest, request_pending, carried] at gone
        cases gone
      · exact absurd (ingest_replied seen inside newer) silent
    · rcases respond_retained (.of_cancelled lapsed known submitted) input (session.receive vesc input).2.1 with
        still | ⟨newer, -⟩
      · exact still.request _
      · exact absurd (ingest_replied seen inside newer) silent
  | armSettingsWrites state speed time =>
    simp only [step, armSettingsWrites] at gone ⊢
    split at gone
    · rw [known] at gone
      cases gone
    · next refused =>
      rw [if_neg refused]
      exact .of_cancelled (clearArmAndCancel_cancelled session) known submitted
  | bindSettingOperation operationId => simp [step, bindSettingOperation, known] at gone
  | recordSettingTransport operationId status time =>
    simp only [step, recordSettingTransport] at gone ⊢
    split at gone
    · next own =>
      rw [if_pos own]
      cases status with
      | submitted => simp [known] at gone
      | rejected | cancelled => exact cancelled operationId gone
      | _ => rw [known] at gone; cases gone
    · rw [known] at gone
      cases gone
  | recordSettingReadTransport operationId status time =>
    rw [step, (readTransport_frame session operationId status time).1, known] at gone
    cases gone
  | cancelSettingOperation operationId => exact cancelled operationId gone
  | _ => rw [step] at gone; simp [withDecoder, known] at gone

end Steps

private theorem receive_nextConfigReadId (vesc : VescCrate) (session : VescSettingsSession) (input : SessionInput) :
    (session.receive vesc input).1.nextConfigReadId = session.nextConfigReadId := by
  have observed (session : VescSettingsSession) (outputs : List DeviceOutput) :
      (session.observeTelemetry outputs).nextConfigReadId = session.nextConfigReadId := by
    unfold observeTelemetry
    induction outputs generalizing session with
    | nil => rfl
    | cons output outputs ih =>
      rw [List.foldl_cons, ih]
      split <;> rfl
  have expired (session : VescSettingsSession) : session.expirePending.nextConfigReadId = session.nextConfigReadId := by
    unfold expirePending
    split
    · exact cancel_nextConfigReadId session true
    · rfl
  have cleared (session : VescSettingsSession) : session.clearArmAndCancel.nextConfigReadId = session.nextConfigReadId :=
    cancel_nextConfigReadId _ true
  have begun : (session.begin input).nextConfigReadId = session.nextConfigReadId := by
    unfold begin
    cases input.isConnectionEdge with
    | false => rfl
    | true => exact cleared session
  unfold receive
  simp only
  rw [expired, observed]
  split
  · exact (cleared _).trans begun
  · exact begun

private theorem observeConfig_nextConfigReadId (session : VescSettingsSession) (step : DeviceSessionStep) :
    (session.observeConfig step).1.nextConfigReadId = session.nextConfigReadId := by
  refine @observeConfig_induction session (fun work => work.1.nextConfigReadId = session.nextConfigReadId) step rfl ?_
  intro work kind _ kept
  rcases observeConfigKind_cases work.1 work.2 kind with ⟨-, same⟩ | ⟨-, more, -, settles⟩
  · rw [same]
    exact kept
  · obtain ⟨-, -, -, -, -, next⟩ := settles.frame
    refine (next.trans ?_).trans kept
    unfold answered
    simp only
    split <;> rfl

theorem request_busy (requestedMotorConfig : Bool) {work : VescSettingsSession × DeviceSessionStep}
    (busy : work.1.settingsBusy = true) : request requestedMotorConfig work = work := by
  have initial : work.1.maybeRequestInitialConfig work.2 = work := by simp [maybeRequestInitialConfig, busy]
  have motor : work.1.maybeRequestTelemetryMotorConfig work.2 = work := by
    simp [maybeRequestTelemetryMotorConfig, busy]
  unfold request
  simp only [motor, ite_self, initial]

end VescSettingsSession

namespace SessionInput

def settingCommand : SessionInput → Option (SettingId × DeviceSettingValue)
  | .command (.setSetting id value) | .commandAt (.setSetting id value) _ => some (id, value)
  | _ => none

def requestsSettings : SessionInput → Bool
  | .command .requestSettings | .commandAt .requestSettings _ => true
  | _ => false

end SessionInput

def AcceptsSetting (outputs : List DeviceOutput) : Prop := ∀ reason, .refusal ⟨.setSetting, reason⟩ ∉ outputs

namespace VescSettingsSession

/-- A write is accepted only by a session that is not busy when the command is handled. -/
theorem accepts_idle (vesc : VescCrate) (session : VescSettingsSession) {input : SessionInput}
    {id : SettingId} {value : DeviceSettingValue} (command : input.settingCommand = some (id, value))
    (accepted : AcceptsSetting (session.step vesc (.ingest input)).2) :
    (session.receive vesc input).1.settingsBusy = false := by
  by_contra idle
  have busy : (session.receive vesc input).1.settingsBusy = true := by simpa using idle
  have handled : (session.receive vesc input).1.respond input (session.receive vesc input).2.1 =
      (session.receive vesc input).1.handleSettingCommand id value (session.receive vesc input).2.1 := by
    unfold SessionInput.settingCommand at command
    split at command
    · cases command; rfl
    · cases command; rfl
    · cases command
  refine accepted .busy ?_
  rw [step_ingest]
  apply request_keeps
  rw [handled, handleSettingCommand_busy busy]
  exact List.mem_append_right _ (List.mem_singleton_self _)

/-- Handling an input takes a read number only for a settings request of a session that is not busy. -/
theorem respond_nextConfigReadId (session : VescSettingsSession) (input : SessionInput) (step : DeviceSessionStep)
    (busy : input.requestsSettings = true → session.settingsBusy = true) :
    (session.respond input step).1.nextConfigReadId = session.nextConfigReadId := by
  have command (id : SettingId) (value : DeviceSettingValue) :
      (session.handleSettingCommand id value step).1.nextConfigReadId = session.nextConfigReadId := by
    rcases handleSettingCommand_cases session id value step with ⟨same, -⟩ | ⟨pending, _, -, started, -⟩
    · rw [same]
    · rw [started]
  have read (asked : input.requestsSettings = true) :
      (session.handleSettingsReadRequest step).1.nextConfigReadId = session.nextConfigReadId := by
    rw [((handleSettingsReadRequest_asks session step).busy (busy asked)).1]
  unfold respond
  split
  · exact command _ _
  · exact command _ _
  · exact read rfl
  · exact read rfl
  · exact observeConfig_nextConfigReadId session step
  · rfl

/-- A configuration read is accepted only by a session that is not busy at that point of the input. -/
theorem reads_idle (vesc : VescCrate) (session : VescSettingsSession) (input : SessionInput)
    (accepted : (session.step vesc (.ingest input)).1.nextConfigReadId ≠ session.nextConfigReadId) :
    (input.requestsSettings = true ∧ (session.receive vesc input).1.settingsBusy = false) ∨
      ((session.receive vesc input).1.respond input (session.receive vesc input).2.1).1.settingsBusy = false := by
  by_contra busy
  rw [not_or, not_and, Bool.not_eq_false, Bool.not_eq_false] at busy
  refine accepted ?_
  rw [step_ingest]
  simp only
  rw [request_busy _ busy.2, respond_nextConfigReadId _ _ _ busy.1]
  exact receive_nextConfigReadId vesc session input

private theorem calls_accept_nothing (vesc : VescCrate) (session : VescSettingsSession) (call : SettingsCall)
    (other : ∀ input, call ≠ .ingest input) :
    (session.step vesc call).1.nextConfigReadId = session.nextConfigReadId ∧
      (session.pending = none → (session.step vesc call).1.pending = none) := by
  have cancelled (operationId : Nat) :
      (session.cancelSettingOperation operationId).nextConfigReadId = session.nextConfigReadId ∧
        (session.pending = none → (session.cancelSettingOperation operationId).pending = none) := by
    unfold cancelSettingOperation
    split
    · exact ⟨cancel_nextConfigReadId session true, fun _ => cancel_pending session true⟩
    · exact ⟨rfl, id⟩
  cases call with
  | ingest input => exact absurd rfl (other input)
  | armSettingsWrites state speed time =>
    simp only [step, armSettingsWrites]
    split
    · exact ⟨rfl, id⟩
    · exact ⟨cancel_nextConfigReadId _ true, fun _ => cancel_pending _ true⟩
  | bindSettingOperation operationId =>
    exact ⟨rfl, fun gone => by simp [step, bindSettingOperation, gone]⟩
  | recordSettingTransport operationId status time =>
    simp only [step, recordSettingTransport]
    split
    · cases status with
      | submitted => exact ⟨rfl, fun gone => by simp [gone]⟩
      | rejected | cancelled => exact cancelled operationId
      | _ => exact ⟨rfl, id⟩
    · exact ⟨rfl, id⟩
  | recordSettingReadTransport operationId status time =>
    obtain ⟨same, next, -⟩ := readTransport_frame session operationId status time
    exact ⟨next, fun gone => same.trans gone⟩
  | cancelSettingOperation operationId => exact cancelled operationId
  | _ => exact ⟨rfl, id⟩

/-- Between a cancellation and the reply or the next edge, the slot stays taken. -/
theorem run_retained (seen : Seen session) (retained : Retained kind session) {calls : List SettingsCall}
    (silent : ∀ here ∈ Runs.history (step vesc) session calls,
      here.input.isConnectionEdge = false ∧ ¬Replied kind here.output)
    :
    Seen (Runs.final (step vesc) session calls) ∧ Retained kind (Runs.final (step vesc) session calls) := by
  induction calls generalizing session with
  | nil => exact ⟨seen, retained⟩
  | cons call calls ih =>
    obtain ⟨inside, quiet⟩ := silent _ List.mem_cons_self
    have kept : Retained kind (session.step vesc call).1 ∨ Replied kind (session.step vesc call).2 :=
      (step_retained seen inside retained).2
    rcases kept with still | replied
    · exact ih (step_seen vesc session call seen) still fun here member => silent here (List.mem_cons_of_mem _ member)
    · exact absurd replied quiet

end VescSettingsSession

open VescSettingsSession in
/-- In every reachable state a procedure and a read outside it exclude each other; writes and reads are accepted only
while the session is not busy; and a procedure cancelled with its read on the wire leaves the session busy until a reply
of the same kind or a link edge, so that the reply meets no procedure. -/
theorem configuration_reads_never_ambiguous (vesc : VescCrate) (boardProfile : Option VescBoardProfile)
    (calls : List SettingsCall) :
    let session := Runs.final (step vesc) (new boardProfile) calls
    (session.pending ≠ none → session.standaloneConfigRead = .idle) ∧
    (∀ input id value, input.settingCommand = some (id, value) →
      AcceptsSetting (session.step vesc (.ingest input)).2 → (session.receive vesc input).1.settingsBusy = false) ∧
    (∀ input, (session.step vesc (.ingest input)).1.nextConfigReadId ≠ session.nextConfigReadId →
      (input.requestsSettings = true ∧ (session.receive vesc input).1.settingsBusy = false) ∨
        ((session.receive vesc input).1.respond input (session.receive vesc input).2.1).1.settingsBusy = false) ∧
    (∀ call, (∀ input, call ≠ .ingest input) →
      (session.step vesc call).1.nextConfigReadId = session.nextConfigReadId ∧
        (session.pending = none → (session.step vesc call).1.pending = none)) ∧
    ∀ call pending, session.pending = some pending → pending.stage.readSubmitted = true →
      call.isConnectionEdge = false → (session.step vesc call).1.pending = none →
      ¬Replied pending.baseline.kind (session.step vesc call).2 →
      ∀ waiting, (∀ here ∈ Runs.history (step vesc) (session.step vesc call).1 waiting,
        here.input.isConnectionEdge = false ∧ ¬Replied pending.baseline.kind here.output) →
      let busy := Runs.final (step vesc) (session.step vesc call).1 waiting
      busy.pending = none ∧ busy.standaloneConfigRead = .awaitingProcedureReply ∧
        busy.standaloneKind = pending.baseline.kind ∧ busy.settingsBusy = true ∧
        ∀ reply : SettingsCall, reply.isConnectionEdge = false → (busy.step vesc reply).1.pending = none := by
  intro session
  have valid : Valid session := Runs.invariant (step_valid vesc) (new_valid boardProfile) calls
  have seen : Seen session :=
    Runs.invariant (step_seen vesc) (fun kind => by cases kind <;> exact Nat.le_refl 0) calls
  refine ⟨valid.slot, fun _ _ _ => accepts_idle vesc session, reads_idle vesc session,
    calls_accept_nothing vesc session, ?_⟩
  intro call pending known submitted inside gone silent waiting quiet busy
  have retained := step_cancelled seen inside known submitted gone silent
  obtain ⟨seenBusy, still⟩ := run_retained (step_seen vesc session call seen) retained quiet
  exact ⟨still.pending, still.slot, still.kind, still.busy,
    fun reply insideReply => (step_retained seenBusy insideReply still).1⟩

end Cutout.Protocols

import Cutout.Proofs.SettingsReads
import Cutout.Proofs.SettingsAuthorization
import Cutout.Proofs.SettingsChange

/-! Configuration writes. A set frame leaves a session only when the preflight reply
of a bound, unexpired, stationary procedure arrives, it carries the image of that
reply with one field replaced, and it is the only one of its command. -/

namespace Cutout.Protocols
open Library

namespace VescSettingsSession
variable {session : VescSettingsSession} {input : SessionInput} {vesc : VescCrate} {time : Nat}

structure SameAuthority (before after : VescSettingsSession) : Prop where
  arm : after.arm = before.arm
  cancellationGeneration : after.cancellationGeneration = before.cancellationGeneration
  lastSpeed : after.lastSpeed = before.lastSpeed
  lastOperatingState : after.lastOperatingState = before.lastOperatingState
  lastOperatingMode : after.lastOperatingMode = before.lastOperatingMode
  readOnly : after.readOnly = before.readOnly

theorem SameAuthority.trans {first second third : VescSettingsSession} (early : SameAuthority first second)
    (late : SameAuthority second third) : SameAuthority first third :=
  ⟨late.arm.trans early.arm, late.cancellationGeneration.trans early.cancellationGeneration,
    late.lastSpeed.trans early.lastSpeed, late.lastOperatingState.trans early.lastOperatingState,
    late.lastOperatingMode.trans early.lastOperatingMode, late.readOnly.trans early.readOnly⟩

theorem answered_sameAuthority (session : VescSettingsSession) (kind : ConfigurationKind) :
    SameAuthority session (session.answered kind) := by
  unfold answered
  simp only
  split <;> exact ⟨rfl, rfl, rfl, rfl, rfl, rfl⟩

/-- The live authority of a write: the bound authorization is that of the current arm and generation, the arm is
unexpired, the vehicle stands still in normal mode by observations at most two seconds old, and the controller is
the one the command was accepted for. -/
structure Authority (session : VescSettingsSession) (pending : PendingSetting) (time : Nat) : Prop where
  bound : ∃ arm, session.arm = some arm ∧ pending.authorization = some ⟨arm, session.cancellationGeneration⟩ ∧
    time ≤ arm.expiresAt
  speed : ∃ speed observed, session.lastSpeed = some (speed, observed) ∧ isMoving speed = false ∧
    observed ≤ time ∧ time - observed ≤ 2000
  state : ∃ state observed, session.lastOperatingState = some (state, observed) ∧
    (state = .parked ∨ state = .standing) ∧ (pending.baseline.kind ≠ .refloat → state = .parked) ∧
    observed ≤ time ∧ time - observed ≤ 2000
  mode : ∃ observed, session.lastOperatingMode = some (.normal, observed) ∧ observed ≤ time ∧ time - observed ≤ 2000
  controller : session.evidence.controllerId = some pending.controllerId

namespace Authority
variable {session after : VescSettingsSession} {pending : PendingSetting} {time : Nat}

private theorem of_admitted {authorization : SettingWriteAuthorization}
    (admitted : Admitted session pending authorization time) : Authority session pending time := by
  have aged {observed : Nat} (recent : fresh time observed = true) : observed ≤ time ∧ time - observed ≤ 2000 := by
    simpa [fresh, settingsEvidenceMaxAgeMs] using recent
  have stationary := admitted.stationary
  simp only [freshStationaryEvidenceFor, Bool.and_eq_true] at stationary
  obtain ⟨⟨speed, speedAt, lastSpeed, still, speedFresh⟩, ⟨state, stateAt, lastState, stands, stateFresh⟩,
    modeAt, lastMode, modeFresh⟩ := freshStationaryEvidence_observed stationary.1
  refine ⟨⟨authorization.arm, admitted.arm, ?_, admitted.unexpired⟩, ⟨speed, speedAt, lastSpeed, still, aged speedFresh⟩,
    ⟨state, stateAt, lastState, stands, ?_, aged stateFresh⟩, ⟨modeAt, lastMode, aged modeFresh⟩, admitted.controller⟩
  · rw [admitted.bound, ← admitted.generation]
  · intro firmware
    have parked := stationary.2
    simp only [freshOperatingState, lastState, Option.bind_some, stateFresh, if_true] at parked
    cases kind : pending.baseline.kind with
    | refloat => exact absurd kind firmware
    | motor | app => simpa [kind] using parked

theorem sameAuthority (authority : Authority session pending time) (same : SameAuthority session after) :
    Authority after pending time := by
  obtain ⟨bound, speed, state, mode, controller⟩ := authority
  refine ⟨?_, ?_, ?_, ?_, ?_⟩
  · rw [same.arm, same.cancellationGeneration]
    exact bound
  · rw [same.lastSpeed]
    exact speed
  · rw [same.lastOperatingState]
    exact state
  · rw [same.lastOperatingMode]
    exact mode
  · rw [evidence, same.readOnly]
    exact controller

end Authority

structure Wrote (session : VescSettingsSession) (pending carried : PendingSetting) (time : Nat) (outputs : List DeviceOutput) :
    Prop where
  newer : session.lastConfigGeneration.get pending.baseline.kind < session.evidence.generation pending.baseline.kind
  stage : ∃ submittedAt, pending.stage = .awaitingPreflight submittedAt ∧ submittedAt ≤ time
  authority : Authority session pending time
  frame : ∃ config expected write operationId, session.evidence.image pending.baseline.kind = some (config, time) ∧
    config.changed pending.id pending.value = some expected ∧
    encodeSettingsPayload expected.writeCommandPayload = some write ∧
    carried = { pending with expected := some expected, stage := .mutationQueued } ∧
    outputs.filter DeviceOutput.isConfigurationSet = [.write write (some operationId)]

inductive Progress (session : VescSettingsSession) (step : DeviceSessionStep)
    (work : VescSettingsSession × DeviceSessionStep) : Prop where
  | carried (pending : work.1.pending = session.pending) (same : SameAuthority session work.1)
      (more : List DeviceOutput) (outputs : work.2 = step.push more)
      (quiet : ∀ output ∈ more, output.isConfigurationSet = false)
  | ended (pending : work.1.pending = none) (more : List DeviceOutput) (outputs : work.2 = step.push more)
      (quiet : ∀ output ∈ more, output.isConfigurationSet = false)
  | wrote {pending carried : PendingSetting} {time : Nat} (known : session.pending = some pending)
      (after : work.1.pending = some carried) (same : SameAuthority session work.1)
      (noted : session.evidence.generation pending.baseline.kind ≤ work.1.lastConfigGeneration.get pending.baseline.kind)
      (more : List DeviceOutput) (outputs : work.2 = step.push more) (wrote : Wrote session pending carried time more)

theorem push_push (step : DeviceSessionStep) (first second : List DeviceOutput) :
    (step.push first).push second = step.push (first ++ second) := by
  simp [DeviceSessionStep.push]

section Rounds
variable {session : VescSettingsSession} {step : DeviceSessionStep} {work : VescSettingsSession × DeviceSessionStep}
variable {before : List DeviceOutput}

  {kind : ConfigurationKind} {more : List DeviceOutput} {after : VescSettingsSession} {final : DeviceSessionStep}

theorem quiet_append {first second : List DeviceOutput} (early : ∀ output ∈ first, output.isConfigurationSet = false)
    (late : ∀ output ∈ second, output.isConfigurationSet = false) :
    ∀ output ∈ first ++ second, output.isConfigurationSet = false := by
  intro output member
  rcases List.mem_append.mp member with there | there
  · exact early output there
  · exact late output there

private theorem carried_settles (later : Later session work) (pending : work.1.pending = session.pending)
    (same : SameAuthority session work.1) (outputs : work.2 = step.push before)
    (quiet : ∀ output ∈ before, output.isConfigurationSet = false)
    (newer : work.1.lastConfigGeneration.get kind < work.1.evidence.generation kind)
    (pushed : final = work.2.push more) (settles : Settles (work.1.answered kind) kind more after) :
    Progress session step (after, final) := by
  have authority := same.trans (answered_sameAuthority work.1 kind)
  have procedure := (answered_pending work.1 kind).trans pending
  have all : final = step.push (before ++ more) := by rw [pushed, outputs, push_push]
  cases settles with
  | passed still => exact .carried procedure authority _ all (quiet_append quiet still)
  | dropped known own still => exact .ended (cancel_pending _ false) _ all (quiet_append quiet still)
  | finished known own still => exact .ended rfl _ all (quiet_append quiet still)
  | @written setting after known writes =>
    obtain ⟨submittedAt, config, time, authorization, expected, operationId, write, read, stage, image, ordered, bound,
      current, changed, encoded, encodedRead, rfl, rfl⟩ := writes.write
    have evidenceSame : (work.1.answered kind).evidence = session.evidence := by
      unfold evidence
      rw [authority.readOnly]
    have admitted := settingWriteIsCurrent_admitted known (by simp [stage]) current
    have held : Authority session setting time :=
      (Authority.of_admitted admitted).sameAuthority ⟨authority.arm.symm, authority.cancellationGeneration.symm,
        authority.lastSpeed.symm, authority.lastOperatingState.symm, authority.lastOperatingMode.symm,
        authority.readOnly.symm⟩
    have set : isSetCommand write = true := by
      unfold isSetCommand
      rw [commandByte_encodeSettingsPayload encoded]
      cases expected with
      | refloat image => rfl
      | firmware image =>
        simp only [SettingsImage.writeCommandPayload, VescConfiguration.writeCommandPayload]
        cases image.kind <;> rfl
    have filtered : (before ++ [DeviceOutput.write write (some operationId), .write read (some operationId)]).filter
        DeviceOutput.isConfigurationSet = [.write write (some operationId)] := by
      rw [List.filter_append, List.filter_eq_nil_iff.mpr (fun output member => by simp [quiet output member])]
      simp [DeviceOutput.isConfigurationSet, set, isSetCommand_readCommand encodedRead]
    rw [evidenceSame] at image
    have own := writes.own
    subst own
    refine .wrote (procedure.symm.trans known) rfl ⟨authority.arm, authority.cancellationGeneration, authority.lastSpeed,
      authority.lastOperatingState, authority.lastOperatingMode, authority.readOnly⟩ ?_ _ all
      ⟨later.newer newer, ⟨submittedAt, stage, ordered⟩, held, config, expected, write, operationId, image, changed,
        encoded, rfl, filtered⟩
    show session.evidence.generation _ ≤ (work.1.answered _).lastConfigGeneration.get _
    rw [answered_noted, if_pos rfl]
    unfold evidence
    rw [later.readOnly]

private theorem ended_settles (gone : work.1.pending = none) (outputs : work.2 = step.push before)
    (quiet : ∀ output ∈ before, output.isConfigurationSet = false) (pushed : final = work.2.push more)
    (settles : Settles (work.1.answered kind) kind more after) : Progress session step (after, final) := by
  have none := (answered_pending work.1 kind).trans gone
  cases settles with
  | passed still => exact .ended none _ (by rw [pushed, outputs, push_push]) (quiet_append quiet still)
  | dropped known | finished known | written known => simp [none] at known

private theorem wrote_settles (later : Later session work) {pending carried : PendingSetting}
    (known : session.pending = some pending) (there : work.1.pending = some carried)
    (same : SameAuthority session work.1)
    (noted : session.evidence.generation pending.baseline.kind ≤ work.1.lastConfigGeneration.get pending.baseline.kind)
    (outputs : work.2 = step.push before) (wrote : Wrote session pending carried time before)
    (newer : work.1.lastConfigGeneration.get kind < work.1.evidence.generation kind)
    (pushed : final = work.2.push more) (settles : Settles (work.1.answered kind) kind more after) :
    Progress session step (after, final) := by
  have evidenceSame : work.1.evidence = session.evidence := by
    unfold evidence
    rw [later.readOnly]
  obtain ⟨config, expected, write, operationId, image, changed, encoded, rfl, filtered⟩ := wrote.frame
  have foreign : pending.baseline.kind ≠ kind := by
    rintro rfl
    rw [evidenceSame] at newer
    omega
  have procedure := (answered_pending work.1 kind).trans there
  have other {setting : PendingSetting} (found : (work.1.answered kind).pending = some setting)
      (own : setting.baseline.kind = kind) : False := by
    rw [procedure] at found
    cases found
    exact foreign own
  cases settles with
  | passed still =>
    have authority := same.trans (answered_sameAuthority work.1 kind)
    refine .wrote known procedure authority ?_ (before ++ more) (by rw [pushed, outputs, push_push])
      ⟨wrote.newer, wrote.stage, wrote.authority, config, expected, write, operationId, image, changed, encoded, rfl, ?_⟩
    · rw [answered_noted, if_neg foreign]
      exact noted
    · rw [List.filter_append, filtered,
        List.filter_eq_nil_iff.mpr (fun output member => by simp [still output member]), List.append_nil]
  | dropped found own | finished found own => exact (other found own).elim
  | written found writes => exact (other found writes.own).elim

theorem Progress.round (later : Later session work) (progress : Progress session step work) :
    Progress session step (observeConfigKind work kind) := by
  have round := observeConfigKind_cases work.1 work.2 kind
  change _ ∨ (_ ∧ ∃ more, (observeConfigKind work kind).2 = _ ∧ Settles _ _ more (observeConfigKind work kind).1) at round
  rcases round with ⟨-, same⟩ | ⟨newer, more, pushed, settles⟩
  · exact same ▸ progress
  · cases progress with
    | carried pending same before outputs quiet =>
      exact carried_settles later pending same outputs quiet newer pushed settles
    | ended gone before outputs quiet =>
      exact ended_settles gone outputs quiet pushed settles
    | wrote known after same noted before outputs wrote =>
      exact wrote_settles later known after same noted outputs wrote newer pushed settles

end Rounds

theorem observeConfig_progress (session : VescSettingsSession) (step : DeviceSessionStep) :
    Progress session step (session.observeConfig step) :=
  observeConfig_induction (.carried rfl ⟨rfl, rfl, rfl, rfl, rfl, rfl⟩ [] (by simp [DeviceSessionStep.push]) (by simp))
    fun _ _ later progress => progress.round later

def Accepts (call : SettingsCall) (outputs : List DeviceOutput) : Prop :=
  ∃ input setting, call = .ingest input ∧ input.settingCommand = some setting ∧ AcceptsSetting outputs

structure SameCommand (before after : PendingSetting) : Prop where
  id : after.id = before.id
  value : after.value = before.value
  controllerId : after.controllerId = before.controllerId

/-- A procedure that a call leaves behind was started by it or was there before; the mutation is behind it once a set
frame is out. -/
inductive Follows (before : VescSettingsSession) (call : SettingsCall) (outputs : List DeviceOutput)
    (after : VescSettingsSession) (carried : PendingSetting) : Prop where
  | started {input : SessionInput} (ingested : call = .ingest input)
      (command : input.settingCommand = some (carried.id, carried.value)) (accepted : AcceptsSetting outputs)
      (controller : after.evidence.controllerId = some carried.controllerId)
  | carried {pending : PendingSetting} (known : before.pending = some pending) (same : SameCommand pending carried)
      (refused : ¬Accepts call outputs)
      (unwritten : carried.stage.beforeMutation = true → pending.stage.beforeMutation = true ∧
        ∀ output ∈ outputs, output.isConfigurationSet = false)

theorem receive_reads (reads : vesc.OnlyReads) (session : VescSettingsSession) (input : SessionInput) :
    ∀ output ∈ (session.receive vesc input).2.1.outputs, output.isConfigurationSet = false := by
  intro output member
  rw [receive_outputs] at member
  exact readOnly_reads reads _ _ output (List.mem_of_mem_filter member)

theorem respond_setting {id : SettingId} {value : DeviceSettingValue}
    (command : input.settingCommand = some (id, value)) (step : DeviceSessionStep) :
    session.respond input step = session.handleSettingCommand id value step := by
  unfold SessionInput.settingCommand at command
  split at command
  · cases command; rfl
  · cases command; rfl
  · cases command

/-- Inputs that neither write a setting nor bring a reply leave the procedure alone. -/
theorem respond_other (command : input.settingCommand = none) (step : DeviceSessionStep) :
    (∃ subscribed bytes time, input = .notification subscribed bytes time) ∨
      ((session.respond input step).1.pending = session.pending ∧
        ((∀ output ∈ step.outputs, output.isConfigurationSet = false) →
          ∀ output ∈ (session.respond input step).2.outputs, output.isConfigurationSet = false)) := by
  have asked := handleSettingsReadRequest_asks session step
  have read : (session.handleSettingsReadRequest step).1.pending = session.pending ∧
      ((∀ output ∈ step.outputs, output.isConfigurationSet = false) →
        ∀ output ∈ (session.handleSettingsReadRequest step).2.outputs, output.isConfigurationSet = false) := by
    refine ⟨asked.same.pending, ?_⟩
    intro quiet output member
    rcases asked.outputs output member with early | silent
    · exact quiet output early
    · exact silent
  unfold respond
  split
  · cases command
  · cases command
  · exact .inr read
  · exact .inr read
  · exact .inl ⟨_, _, _, rfl⟩
  · exact .inr ⟨rfl, id⟩

section Ingesting
variable {vesc : VescCrate} (reads : vesc.OnlyReads) {session : VescSettingsSession} {input : SessionInput}
  {carried : PendingSetting}
include reads

private theorem ingest_follows (inside : input.isConnectionEdge = false)
    (there : (session.step vesc (.ingest input)).1.pending = some carried) :
    Follows session (.ingest input) (session.step vesc (.ingest input)).2 (session.step vesc (.ingest input)).1 carried := by
  have lapses := receive_lapses vesc session inside
  have quiet := receive_reads reads session input
  rw [step_ingest, request_pending] at there
  rw [step_ingest, request_busy _ (by simp only [settingsBusy, there]; rfl)]
  generalize (session.receive vesc input).2.1 = step at there quiet ⊢
  generalize (session.receive vesc input).1 = admitted at lapses there ⊢
  -- A procedure that is there after the admission was there before it.
  have before {pending : PendingSetting} (known : admitted.pending = some pending) : session.pending = some pending := by
    rcases lapses with same | cancelled
    · exact same.pending.symm.trans known
    · simp [cancelled.pending] at known
  cases command : input.settingCommand with
  | some setting =>
    obtain ⟨id, value⟩ := setting
    rw [respond_setting command step] at there ⊢
    rcases handleSettingCommand_cases admitted id value step with
      ⟨same, reason, outputs⟩ | ⟨pending, bytes, starts, after, outputs, read⟩
    · rw [same] at there
      refine .carried (before there) ⟨rfl, rfl, rfl⟩ ?_ fun early => ⟨early, ?_⟩
      · rintro ⟨_, _, ingested, -, accepted⟩
        refine accepted reason ?_
        rw [outputs]
        exact List.mem_append_right _ (List.mem_singleton_self _)
      · rw [outputs]
        refine quiet_append (fun output member => quiet output (mem_of_removed member)) ?_
        intro output member
        rw [List.mem_singleton.mp member]
        rfl
    · rw [after] at there
      cases there
      refine .started rfl (by rw [command, starts.id, starts.value]) ?_ (by rw [after]; exact starts.controller)
      intro reason member
      rw [outputs] at member
      rcases List.mem_append.mp member with early | late
      · have kept := (List.mem_filter.mp early).2
        simp at kept
      · simp at late
  | none =>
    have refused {outputs : List DeviceOutput} : ¬Accepts (.ingest input) outputs := by
      rintro ⟨_, _, ingested, other, -⟩
      cases ingested
      simp [command] at other
    rcases @respond_other admitted input command step with ⟨subscribed, bytes, time, rfl⟩ | ⟨same, silent⟩
    · have progress := observeConfig_progress admitted step
      change (admitted.observeConfig step).1.pending = some carried at there
      show Follows session _ (admitted.observeConfig step).2.outputs (admitted.observeConfig step).1 carried
      cases progress with
      | carried pending same more outputs still =>
        refine .carried (before (pending.symm.trans there)) ⟨rfl, rfl, rfl⟩ refused fun early => ⟨early, ?_⟩
        rw [outputs]
        exact quiet_append quiet still
      | ended gone => simp [gone] at there
      | wrote known after same noted more outputs wrote =>
        rw [after] at there
        cases there
        obtain ⟨_, _, _, _, -, -, -, rfl, -⟩ := wrote.frame
        exact .carried (before known) ⟨rfl, rfl, rfl⟩ refused fun early => by cases early
    · rw [same] at there
      exact .carried (before there) ⟨rfl, rfl, rfl⟩ refused fun early => ⟨early, silent quiet⟩

end Ingesting

private theorem beforeMutation_of_submitted {stage : PendingStage} (early : (stage.submitted time).beforeMutation = true) :
    stage.beforeMutation = true := by
  cases stage with
  | preflightQueued | awaitingPreflight => rfl
  | _ => cases early

theorem step_follows (reads : vesc.OnlyReads) {call : SettingsCall} {carried : PendingSetting}
    (there : (session.step vesc call).1.pending = some carried) :
    Follows session call (session.step vesc call).2 (session.step vesc call).1 carried := by
  have other (outputs : List DeviceOutput) (call : SettingsCall) (notIngest : ∀ input, call ≠ .ingest input) :
      ¬Accepts call outputs := by
    rintro ⟨input, _, ingested, -⟩
    exact notIngest input ingested
  have kept {call : SettingsCall} {after : VescSettingsSession} (notIngest : ∀ input, call ≠ .ingest input)
      (known : session.pending = some carried) : Follows session call [] after carried :=
    .carried known ⟨rfl, rfl, rfl⟩ (other _ _ notIngest) fun early => ⟨early, by simp⟩
  have cancelled {call : SettingsCall} {operationId : Nat} (notIngest : ∀ input, call ≠ .ingest input)
      (there : (session.cancelSettingOperation operationId).pending = some carried) :
      Follows session call [] (session.cancelSettingOperation operationId) carried := by
    unfold cancelSettingOperation at there
    split at there
    · simp [cancelPending] at there
    · exact kept notIngest there
  cases call with
  | ingest input =>
    cases edge : input.isConnectionEdge with
    | false => exact ingest_follows reads edge there
    | true =>
      obtain ⟨gone, -⟩ := receive_edge vesc session edge
      have still : ((session.receive vesc input).1.respond input (session.receive vesc input).2.1).1.pending = none := by
        cases input with
        | linkUp | linkDown => exact gone
        | _ => cases edge
      rw [step_ingest, request_pending, still] at there
      cases there
  | armSettingsWrites state speed time =>
    simp only [step, armSettingsWrites] at there
    split at there
    · exact kept (by simp) there
    · simp [clearArmAndCancel, cancelPending] at there
  | bindSettingOperation operationId =>
    obtain ⟨pending, known, rfl⟩ := Option.map_eq_some_iff.mp there
    exact .carried known ⟨rfl, rfl, rfl⟩ (other _ _ (by simp)) fun early => ⟨early, by simp [step]⟩
  | recordSettingTransport operationId status time =>
    simp only [step, recordSettingTransport] at there
    split at there
    · next own =>
      cases status with
      | submitted =>
        obtain ⟨pending, known, rfl⟩ := Option.map_eq_some_iff.mp there
        exact .carried known ⟨rfl, rfl, rfl⟩ (other _ _ (by simp)) fun early =>
          ⟨beforeMutation_of_submitted early, by simp [step]⟩
      | rejected =>
        have follows := @cancelled (.recordSettingTransport operationId .rejected time) _ (by simp) there
        simpa [step, recordSettingTransport, own] using follows
      | cancelled =>
        have follows := @cancelled (.recordSettingTransport operationId .cancelled time) _ (by simp) there
        simpa [step, recordSettingTransport, own] using follows
      | _ => exact kept (by simp) there
    · exact kept (by simp) there
  | recordSettingReadTransport operationId status time =>
    rw [step, (readTransport_frame session operationId status time).1] at there
    exact kept (by simp) there
  | cancelSettingOperation operationId => exact cancelled (by simp) there
  | _ => exact kept (by simp) there

/-- A set frame among the outputs of a call: the preflight reply of the pending procedure has just arrived, and the
image it brought goes back with one field replaced. -/
structure Sets (before : VescSettingsSession) (call : SettingsCall) (outputs : List DeviceOutput)
    (after : VescSettingsSession) (pending : PendingSetting) : Prop where
  known : before.pending = some pending
  kept : after.arm = before.arm ∧ after.cancellationGeneration = before.cancellationGeneration
  refused : ¬Accepts call outputs
  written : ∃ time config expected write operationId,
    (∃ subscribed bytes, call = .ingest (.notification subscribed bytes time)) ∧
    (∃ submittedAt, pending.stage = .awaitingPreflight submittedAt ∧ submittedAt ≤ time) ∧
    Authority after pending time ∧
    (∃ reply, .session (.reply reply) ∈ outputs ∧ reply.image pending.baseline.kind = some config) ∧
    config.changed pending.id pending.value = some expected ∧
    encodeSettingsPayload expected.writeCommandPayload = some write ∧
    outputs.filter DeviceOutput.isConfigurationSet = [.write write (some operationId)]

theorem request_quiet (requestedMotorConfig : Bool) (work : VescSettingsSession × DeviceSessionStep) :
    ∀ output ∈ (request requestedMotorConfig work).2.outputs,
      output ∈ work.2.outputs ∨ output.isConfigurationSet = false := by
  intro output member
  unfold request at member
  simp only at member
  split at member
  · rcases (maybeRequestInitialConfig_asks _ _).outputs output member with early | quiet
    · exact (maybeRequestTelemetryMotorConfig_asks work.1 work.2).outputs output early
    · exact .inr quiet
  · exact (maybeRequestInitialConfig_asks work.1 work.2).outputs output member

private theorem respond_quiet {step : DeviceSessionStep}
    (silent : ∀ subscribed bytes time, input ≠ .notification subscribed bytes time)
    (quiet : ∀ output ∈ step.outputs, output.isConfigurationSet = false) :
    ∀ output ∈ (session.respond input step).2.outputs, output.isConfigurationSet = false := by
  cases command : input.settingCommand with
  | some setting =>
    obtain ⟨id, value⟩ := setting
    rw [respond_setting command step]
    have removed := fun output (member : output ∈ (step.removeRefusal .setSetting).outputs) =>
      quiet output (mem_of_removed member)
    rcases handleSettingCommand_cases session id value step with ⟨-, reason, outputs⟩ | ⟨_, bytes, -, -, outputs, read⟩
    · rw [outputs]
      refine quiet_append removed ?_
      intro output member
      rw [List.mem_singleton.mp member]
      rfl
    · rw [outputs]
      refine quiet_append removed ?_
      intro output member
      rw [List.mem_singleton.mp member]
      exact read
  | none =>
    rcases @respond_other session input command step with ⟨subscribed, bytes, time, same⟩ | ⟨-, kept⟩
    · exact absurd same (silent subscribed bytes time)
    · exact kept quiet

section Setting
variable {vesc : VescCrate} (reads : vesc.OnlyReads) {session : VescSettingsSession} (seen : Seen session)
include reads seen

private theorem notification_sets {subscribed : Bool} {bytes : List Byte} {output : DeviceOutput}
    (member : output ∈ (session.step vesc (.ingest (.notification subscribed bytes time))).2)
    (set : output.isConfigurationSet = true) :
    ∃ pending, Sets session (.ingest (.notification subscribed bytes time))
      (session.step vesc (.ingest (.notification subscribed bytes time))).2
      (session.step vesc (.ingest (.notification subscribed bytes time))).1 pending := by
  let input : SessionInput := .notification subscribed bytes time
  have quiet := receive_reads reads session input
  have silent {more : List DeviceOutput} (still : ∀ output ∈ more, output.isConfigurationSet = false)
      (outputs : ((session.receive vesc input).1.observeConfig (session.receive vesc input).2.1).2 =
        (session.receive vesc input).2.1.push more) : False := by
    rw [step_ingest] at member
    rcases request_quiet _ _ output member with early | later
    · change output ∈ ((session.receive vesc input).1.observeConfig (session.receive vesc input).2.1).2.outputs at early
      rw [outputs] at early
      simp [quiet_append quiet still output early] at set
    · simp [later] at set
  cases observeConfig_progress (session.receive vesc input).1 (session.receive vesc input).2.1 with
  | carried _ _ _ outputs still | ended _ _ outputs still => exact (silent still outputs).elim
  | @wrote pending carried observed known after same noted more outputs wrote =>
    have busy : ((session.receive vesc input).1.respond input (session.receive vesc input).2.1).1.settingsBusy = true := by
      show ((session.receive vesc input).1.observeConfig (session.receive vesc input).2.1).1.settingsBusy = true
      simp [settingsBusy, after]
    rw [step_ingest, request_busy _ busy]
    show ∃ pending, Sets session (.ingest input)
      ((session.receive vesc input).1.observeConfig (session.receive vesc input).2.1).2.outputs
      ((session.receive vesc input).1.observeConfig (session.receive vesc input).2.1).1 pending
    have untouched : Untouched session (session.receive vesc input).1 := by
      have lapses : Lapses session (session.receive vesc input).1 := receive_lapses vesc session rfl
      rcases lapses with untouched | cancelled
      · exact untouched
      · simp [cancelled.pending] at known
    obtain ⟨config, expected, write, operationId, image, changed, encoded, -, filtered⟩ := wrote.frame
    have inside : input.isConnectionEdge = false := rfl
    obtain ⟨-, _, _, _, notified, read⟩ := receive_answered seen inside wrote.newer
    have sameTime := SessionInput.notification.inj notified
    obtain ⟨now, reply, listed, carries⟩ := read config observed image
    obtain rfl : time = observed := sameTime.2.2.trans now.symm
    refine ⟨pending, untouched.pending.symm.trans known, ⟨same.arm.trans untouched.arm,
      same.cancellationGeneration.trans untouched.cancellationGeneration⟩, ?_, time, config, expected, write,
      operationId, ⟨subscribed, bytes, rfl⟩, wrote.stage, wrote.authority.sameAuthority same,
      ⟨reply, observeConfig_keeps _ _ listed, carries⟩, changed, encoded, ?_⟩
    · rintro ⟨_, _, ingested, command, -⟩
      cases ingested
      cases command
    · rw [outputs]
      show ((session.receive vesc input).2.1.outputs ++ more).filter _ = _
      rw [List.filter_append, filtered,
        List.filter_eq_nil_iff.mpr (fun output member => by simp [quiet output member]), List.nil_append]

private theorem step_sets {call : SettingsCall} {output : DeviceOutput} (member : output ∈ (session.step vesc call).2)
    (set : output.isConfigurationSet = true) :
    ∃ pending, Sets session call (session.step vesc call).2 (session.step vesc call).1 pending := by
  cases call with
  | ingest input =>
    by_cases notified : ∃ subscribed bytes time, input = .notification subscribed bytes time
    · obtain ⟨subscribed, bytes, time, rfl⟩ := notified
      exact notification_sets reads seen member set
    · have silent : ∀ subscribed bytes time, input ≠ .notification subscribed bytes time :=
        fun subscribed bytes time same => notified ⟨subscribed, bytes, time, same⟩
      rw [step_ingest] at member
      rcases request_quiet _ _ output member with early | quiet
      · simp [respond_quiet silent (receive_reads reads session input) output early] at set
      · simp [quiet] at set
  | _ => simp [step] at member

end Setting

/-- The accepted command behind a procedure: the last one accepted, and no set frame since then while the mutation is
still ahead. -/
structure Origin (past : List (Step VescSettingsSession SettingsCall (List DeviceOutput))) (pending : PendingSetting) :
    Prop where
  command : ∃ earlier accepted between input, past = earlier ++ accepted :: between ∧ accepted.input = .ingest input ∧
    input.settingCommand = some (pending.id, pending.value) ∧ AcceptsSetting accepted.output ∧
    accepted.after.evidence.controllerId = some pending.controllerId ∧
    (∀ here ∈ between, ¬Accepts here.input here.output) ∧
    (pending.stage.beforeMutation = true →
      ∀ here ∈ between, ∀ output ∈ here.output, output.isConfigurationSet = false)

private theorem run_origin (reads : vesc.OnlyReads) (boardProfile : Option VescBoardProfile) (calls : List SettingsCall) :
    ∀ pending,
      (Runs.final (step vesc) (new boardProfile) calls).pending = some pending →
        Origin (Runs.history (step vesc) (new boardProfile) calls) pending := by
  refine Runs.induction_on (P := fun past (session : VescSettingsSession) =>
    ∀ pending, session.pending = some pending → Origin past pending) (by simp [new]) ?_ calls
  intro past session call origin carried there
  cases step_follows reads there with
  | started ingested command accepted controller =>
    exact ⟨past, Runs.take (step vesc) session call, [], _, rfl, ingested, command, accepted, controller, by simp, by simp⟩
  | carried known same refused unwritten =>
    obtain ⟨earlier, start, between, input, rfl, ingested, command, accepted, controller, single, silent⟩ :=
      (origin _ known).command
    refine ⟨earlier, start, between ++ [Runs.take (step vesc) session call], input, by simp, ingested,
      by rw [command, same.id, same.value], accepted, by rw [controller, same.controllerId], ?_, ?_⟩
    · intro here member
      rcases List.mem_append.mp member with early | last
      · exact single here early
      · rw [List.mem_singleton.mp last]
        exact refused
    · intro early here member
      obtain ⟨before, quiet⟩ := unwritten early
      rcases List.mem_append.mp member with sooner | last
      · exact silent before here sooner
      · rw [List.mem_singleton.mp last]
        exact quiet

end VescSettingsSession

open VescSettingsSession in
/-- Whenever a call of a run puts out a set frame, the procedure pending before it awaited its preflight, live authority
stands at the time of the reply, the frame carries the image read in this very call with the one requested field replaced,
it is the only set frame of the call, and the command behind it was accepted earlier for the same controller, with neither
another accepted command nor another set frame since. -/
theorem set_frames_only_under_live_authority (vesc : VescCrate) (reads : vesc.OnlyReads)
    (boardProfile : Option VescBoardProfile) (calls : List SettingsCall)
    (past later : List (Step VescSettingsSession SettingsCall (List DeviceOutput)))
    (here : Step VescSettingsSession SettingsCall (List DeviceOutput))
    (split : Runs.history (step vesc) (new boardProfile) calls = past ++ here :: later)
    (set : ∃ output ∈ here.output, output.isConfigurationSet = true) :
    ∃ pending time config expected write operationId range,
      here.before.pending = some pending ∧
      (∃ subscribed bytes, here.input = .ingest (.notification subscribed bytes time)) ∧
      (∃ submittedAt, pending.stage = .awaitingPreflight submittedAt ∧ submittedAt ≤ time) ∧
      here.after.arm = here.before.arm ∧ here.after.cancellationGeneration = here.before.cancellationGeneration ∧
      Authority here.after pending time ∧
      (∃ reply, .session (.reply reply) ∈ here.output ∧ reply.image pending.baseline.kind = some config) ∧
      config.changed pending.id pending.value = some expected ∧ expected.kind = config.kind ∧
      config.fieldRange pending.id = some range ∧ PatchedField range.1 range.2 config.bytes expected.bytes ∧
      encodeSettingsPayload expected.writeCommandPayload = some write ∧
      here.output.filter DeviceOutput.isConfigurationSet = [.write write (some operationId)] ∧
      ∃ earlier accepted between input, past = earlier ++ accepted :: between ∧ accepted.input = .ingest input ∧
        input.settingCommand = some (pending.id, pending.value) ∧ AcceptsSetting accepted.output ∧
        accepted.after.evidence.controllerId = some pending.controllerId ∧
        ∀ step ∈ between, ¬Accepts step.input step.output ∧
          ∀ output ∈ step.output, output.isConfigurationSet = false := by
  obtain ⟨first, last, -, rfl, same, -⟩ := Runs.history_split split
  have seen : Seen (Runs.final (step vesc) (new boardProfile) first) :=
    Runs.invariant (step_seen vesc) (fun kind => by cases kind <;> exact Nat.le_refl 0) first
  obtain ⟨output, member, isSet⟩ := set
  rw [same] at member
  obtain ⟨pending, known, ⟨arm, generation⟩, -, time, config, expected, write, operationId, notified,
    ⟨submittedAt, stage, ordered⟩, authority, read, changed, encoded, filtered⟩ := step_sets reads seen member isSet
  obtain ⟨kind, range, found, patched⟩ := changed_patchedField changed
  obtain ⟨earlier, accepted, between, input, before, ingested, command, started, controller, single, silent⟩ :=
    (run_origin reads boardProfile first pending known).command
  rw [same]
  refine ⟨pending, time, config, expected, write, operationId, range, known, notified, ⟨submittedAt, stage, ordered⟩, arm,
    generation, authority, read, changed, kind, found, patched, encoded, filtered, earlier, accepted, between, input, before,
    ingested, command, started, controller, ?_⟩
  intro step inside
  exact ⟨single step inside, silent (by rw [stage]; rfl) step inside⟩

private theorem VescCrate.versioned_onlyReads : VescCrate.versioned.OnlyReads := by
  intro command bytes encoded
  unfold isSetCommand
  cases command <;> simp only [versioned] at encoded <;> rw [commandByte_encodeSettingsPayload encoded] <;> rfl

open VescSettingsSession in
set_option maxRecDepth 20000 in
/-- The reply to the preflight read of the beeper run leads to a set frame. -/
theorem beeperCalls_set :
    ((Runs.final (step .versioned) (new none) beeperCalls).step .versioned
      (.ingest (.notification true storedConfiguration 6))).2.any DeviceOutput.isConfigurationSet = true := by
  decide +kernel

open VescSettingsSession in
/-- The beeper is switched on under live authority. -/
theorem beeper_set_frame_under_live_authority :
    let session := Runs.final (step .versioned) (new none) beeperCalls
    let reply : SettingsCall := .ingest (.notification true storedConfiguration 6)
    ∃ pending time, session.pending = some pending ∧ Authority (session.step .versioned reply).1 pending time ∧
      ∃ write operationId, (session.step .versioned reply).2.filter DeviceOutput.isConfigurationSet =
        [.write write (some operationId)] := by
  -- The calls stay a variable here, so that nothing unfolds the run.
  have witnessed (calls : List SettingsCall) (reply : SettingsCall)
      (set : ((Runs.final (step .versioned) (new none) calls).step .versioned reply).2.any
        DeviceOutput.isConfigurationSet = true) :
      let session := Runs.final (step .versioned) (new none) calls
      ∃ pending time, session.pending = some pending ∧ Authority (session.step .versioned reply).1 pending time ∧
        ∃ write operationId, (session.step .versioned reply).2.filter DeviceOutput.isConfigurationSet =
          [.write write (some operationId)] := by
    obtain ⟨pending, time, _, _, write, operationId, _, known, -, -, -, -, authority, -, -, -, -, -, -, single, -⟩ :=
      set_frames_only_under_live_authority .versioned VescCrate.versioned_onlyReads none (calls ++ [reply]) _ [] _
        (Runs.history_snoc _ _ calls reply) (List.any_eq_true.mp set)
    exact ⟨pending, time, known, authority, write, operationId, single⟩
  exact witnessed beeperCalls _ beeperCalls_set

end Cutout.Protocols

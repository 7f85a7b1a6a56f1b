import Cutout.Proofs.SettingsSession

/-! Write admission against write authorization. Outside the verification read an
admitted write carries the authorization bound to the pending procedure and is
admitted before that authorization expires; the verification read is admitted to
anyone. -/

namespace Cutout.Protocols
open Library

namespace VescSettingsSession
variable {session : VescSettingsSession} {pending : PendingSetting} {time : Nat}
variable {authorization : SettingWriteAuthorization}

/-- An admitted authorization is the bound one, matches arm and generation, and has not expired. -/
def AdmissionSound (session : VescSettingsSession) (authorization : SettingWriteAuthorization) (time : Nat) : Prop :=
  session.settingWriteIsCurrent authorization time = true →
    (∃ pending, session.pending = some pending ∧ pending.authorization = some authorization) ∧
    session.arm = some authorization.arm ∧
    authorization.cancellationGeneration = session.cancellationGeneration ∧
    ∃ expiry, session.settingAuthorizationExpiresAt authorization = some expiry ∧ time ≤ expiry

/-- The procedure waits to submit its verification read, and time, profile and controller allow it. -/
def AtVerificationRead (session : VescSettingsSession) (time : Nat) : Prop :=
  ∃ pending submittedAt, session.pending = some pending ∧ pending.stage = .verificationReadQueued submittedAt ∧
    time < pending.expiresAt ∧ session.profileIsSupported = true ∧
    session.evidence.controllerId = some pending.controllerId

private theorem le_foldl_min {bound : Nat} {deadlines : List Nat} :
    time ≤ deadlines.foldl min bound ↔ time ≤ bound ∧ ∀ deadline ∈ deadlines, time ≤ deadline := by
  induction deadlines generalizing bound with
  | nil => simp
  | cons deadline deadlines ih =>
    rw [List.foldl_cons, ih, le_min_iff, List.forall_mem_cons, and_assoc]

theorem fresh_deadline {observed : Nat} (recent : fresh time observed = true) (representable : time ≤ u64Max) :
    time ≤ saturatingAdd observed (settingsEvidenceMaxAgeMs + 1) := by
  simp only [fresh, decide_eq_true_eq] at recent
  unfold saturatingAdd
  omega

theorem freshStationaryEvidence_observed (stationary : session.freshStationaryEvidence time = true) :
    (∃ speed observed, session.lastSpeed = some (speed, observed) ∧ isMoving speed = false ∧ fresh time observed = true) ∧
    (∃ state observed, session.lastOperatingState = some (state, observed) ∧ (state = .parked ∨ state = .standing) ∧
      fresh time observed = true) ∧
    ∃ observed, session.lastOperatingMode = some (.normal, observed) ∧ fresh time observed = true := by
  simp only [freshStationaryEvidence, Bool.and_eq_true, Bool.or_eq_true, beq_iff_eq, Option.any_eq_true, freshSpeed,
    freshOperatingState, freshNormalMode, Option.bind_eq_some_iff, Option.ite_none_right_eq_some,
    Option.some.injEq, decide_eq_true_eq, Bool.not_eq_true', Prod.exists] at stationary
  obtain ⟨⟨⟨_, ⟨speed, observed, known, recent, rfl⟩, still⟩, state⟩, mode, seen, normal, rfl, fresh⟩ := stationary
  refine ⟨⟨speed, observed, known, still, recent⟩, ?_, seen, normal, fresh⟩
  rcases state with ⟨state, at', known, recent, rfl⟩ | ⟨state, at', known, recent, rfl⟩
  · exact ⟨_, at', known, .inl rfl, recent⟩
  · exact ⟨_, at', known, .inr rfl, recent⟩

structure Admitted (session : VescSettingsSession) (pending : PendingSetting) (authorization : SettingWriteAuthorization)
    (time : Nat) : Prop where
  bound : pending.authorization = some authorization
  generation : authorization.cancellationGeneration = session.cancellationGeneration
  arm : session.arm = some authorization.arm
  unexpired : time ≤ authorization.arm.expiresAt
  controller : session.evidence.controllerId = some pending.controllerId
  stationary : session.freshStationaryEvidenceFor pending.baseline.kind time = true

theorem settingWriteIsCurrent_admitted (known : session.pending = some pending)
    (elsewhere : ∀ submittedAt, pending.stage ≠ .verificationReadQueued submittedAt)
    (current : session.settingWriteIsCurrent authorization time = true) :
    Admitted session pending authorization time := by
  unfold settingWriteIsCurrent at current
  cases armed : session.arm with
  | none =>
    simp only [known, armed] at current
    cases current
  | some arm =>
    simp only [known, armed, Bool.and_eq_true, decide_eq_true_eq, StationarySettingsArm.isValidFor] at current
    obtain ⟨⟨⟨⟨⟨⟨⟨⟨⟨bound, generation⟩, rfl⟩, -, unexpired⟩, -⟩, -⟩, -⟩, -⟩, controller⟩, stationary⟩ := current
    exact ⟨bound, generation, armed, unexpired, controller, stationary⟩

private theorem settingWriteIsCurrent_verification {submittedAt : Nat} (known : session.pending = some pending)
    (stage : pending.stage = .verificationReadQueued submittedAt) (authorization : SettingWriteAuthorization) :
    session.settingWriteIsCurrent authorization time = true ↔ session.AtVerificationRead time := by
  unfold settingWriteIsCurrent
  simp only [known, stage, Bool.and_eq_true, decide_eq_true_eq]
  constructor
  · rintro ⟨⟨early, supported⟩, controller⟩
    exact ⟨pending, submittedAt, known, stage, early, supported, controller⟩
  · rintro ⟨other, _, there, -, early, supported, controller⟩
    rw [known] at there
    cases there
    exact ⟨⟨early, supported⟩, controller⟩

/-- An authorization of arm and generation, outside the verification read, expires with its arm or its evidence. -/
theorem expiresAt_elsewhere (valid : Valid session) (known : session.pending = some pending)
    (elsewhere : ∀ submittedAt, pending.stage ≠ .verificationReadQueued submittedAt)
    (admitted : Admitted session pending authorization time) :
    ∃ expiry, session.settingAuthorizationExpiresAt authorization = some expiry ∧ time ≤ expiry := by
  have representable := admitted.unexpired.trans (valid.deadline _ admitted.arm)
  have stationary : session.freshStationaryEvidence time = true := by
    have kind := admitted.stationary
    simp only [freshStationaryEvidenceFor, Bool.and_eq_true] at kind
    exact kind.1
  obtain ⟨⟨speed, speedAt, lastSpeed, -, speedFresh⟩, ⟨state, stateAt, lastState, -, stateFresh⟩,
    modeAt, lastMode, modeFresh⟩ := freshStationaryEvidence_observed stationary
  have expiry : session.settingAuthorizationExpiresAt authorization =
      some ([saturatingAdd speedAt (settingsEvidenceMaxAgeMs + 1), saturatingAdd stateAt (settingsEvidenceMaxAgeMs + 1),
        saturatingAdd modeAt (settingsEvidenceMaxAgeMs + 1)].foldl min authorization.arm.expiresAt) := by
    cases stage : pending.stage with
    | verificationReadQueued submittedAt => exact absurd stage (elsewhere submittedAt)
    | _ => simp [settingAuthorizationExpiresAt, admitted.generation, admitted.arm, known, Option.filter, stage, lastSpeed,
        lastState, lastMode]
  refine ⟨_, expiry, le_foldl_min.mpr ⟨admitted.unexpired, ?_⟩⟩
  simp only [List.forall_mem_cons, List.not_mem_nil, false_imp_iff, implies_true, and_true]
  exact ⟨fresh_deadline speedFresh representable, fresh_deadline stateFresh representable,
    fresh_deadline modeFresh representable⟩

theorem admissionSound_iff (valid : Valid session) (authorization : SettingWriteAuthorization) (time : Nat) :
    session.AdmissionSound authorization time ↔ ¬session.AtVerificationRead time ∨
      (∃ pending, session.pending = some pending ∧ pending.authorization = some authorization) ∧
        session.arm = some authorization.arm := by
  cases known : session.pending with
  | none =>
    have refused : session.settingWriteIsCurrent authorization time = false := by simp [settingWriteIsCurrent, known]
    refine ⟨fun _ => .inl ?_, fun _ admitted => by simp [refused] at admitted⟩
    rintro ⟨_, _, there, -⟩
    simp [known] at there
  | some pending =>
    by_cases verifying : ∃ submittedAt, pending.stage = .verificationReadQueued submittedAt
    · obtain ⟨submittedAt, stage⟩ := verifying
      have anyone : session.settingWriteIsCurrent authorization time = true ↔ session.AtVerificationRead time :=
        settingWriteIsCurrent_verification known stage authorization
      constructor
      · intro sound
        by_cases reading : session.AtVerificationRead time
        · obtain ⟨bound, arm, -⟩ := sound (anyone.mpr reading)
          rw [known] at bound
          exact .inr ⟨bound, arm⟩
        · exact .inl reading
      · rintro (elsewhere | ⟨⟨_, same, bound⟩, arm⟩) current
        · exact absurd (anyone.mp current) elsewhere
        · cases same
          have generation := valid.bound pending authorization known bound
          refine ⟨⟨pending, known, bound⟩, arm, generation, pending.expiresAt, ?_, ?_⟩
          · simp [settingAuthorizationExpiresAt, generation, arm, known, Option.filter, bound, stage]
          · obtain ⟨_, _, there, -, early, -⟩ := anyone.mp current
            rw [known] at there
            cases there
            exact early.le
    · rw [not_exists] at verifying
      refine ⟨fun _ => .inl ?_, fun _ current => ?_⟩
      · rintro ⟨_, submittedAt, there, stage, -⟩
        rw [known] at there
        cases there
        exact verifying submittedAt stage
      · have admitted := settingWriteIsCurrent_admitted known verifying current
        exact ⟨⟨pending, known, admitted.bound⟩, admitted.arm, admitted.generation,
          expiresAt_elsewhere valid known verifying admitted⟩

end VescSettingsSession

open VescSettingsSession in
/-- In every reachable state and at every time, admission is sound for all authorizations exactly when the session is
not at its verification read; there it is sound for one authorization exactly when that is the bound one and its arm
still stands. -/
theorem admission_sound_iff_not_at_verification_read (vesc : VescCrate) (boardProfile : Option VescBoardProfile)
    (calls : List SettingsCall) (time : Nat) :
    let session := Runs.final (step vesc) (new boardProfile) calls
    ((∀ authorization, session.AdmissionSound authorization time) ↔ ¬session.AtVerificationRead time) ∧
      ∀ authorization, session.AdmissionSound authorization time ↔ ¬session.AtVerificationRead time ∨
        (∃ pending, session.pending = some pending ∧ pending.authorization = some authorization) ∧
          session.arm = some authorization.arm := by
  intro session
  have valid : Valid session := Runs.invariant (step_valid vesc) (new_valid boardProfile) calls
  refine ⟨⟨?_, fun elsewhere authorization => (admissionSound_iff valid authorization time).mpr (.inl elsewhere)⟩,
    fun authorization => admissionSound_iff valid authorization time⟩
  intro sound reading
  -- An authorization with a foreign generation is not the bound one.
  let foreign : SettingWriteAuthorization := ⟨⟨vescSettingsModel, 0, 0⟩, session.cancellationGeneration + 1⟩
  rcases (admissionSound_iff valid foreign time).mp (sound foreign) with elsewhere | ⟨⟨pending, known, bound⟩, -⟩
  · exact elsewhere reading
  · have generation := valid.bound pending foreign known bound
    simp [foreign] at generation

/-- A controller that answers the version request; version replies hold the hardware name, twelve identity bytes and a
pairing flag before the test number. -/
def VescCrate.versioned : VescCrate where
  decode frame :=
    match frameParts frame with
    | .ok (some (start, length, total)) =>
      match (frame.drop start).take length with
      | 0 :: major :: minor :: rest =>
        some (total, .fwVersion major minor (((rest.dropWhile (· ≠ 0)).drop 14).headD 0))
      | _ => none
    | _ => none
  encode
    | .fwVersion => encodeSettingsPayload [0]
    | .fwInfo => encodeSettingsPayload [157]
    | .getValues => encodeSettingsPayload [4]
    | .getValuesSelective mask => encodeSettingsPayload (50 :: toBe 4 mask)
    | .getStats mask => encodeSettingsPayload (128 :: toBe 4 mask)
    | .forwardCan controllerId _ => encodeSettingsPayload [34, controllerId, 4]

/-- A stored package configuration: signature, zeros, and cell thresholds of 2800 and 4200 millivolts. -/
def storedConfiguration : List Byte :=
  [3, 1, 28, 93, 0, 25, 26, 108, 27] ++ List.replicate 268 0 ++ [10, 240, 16, 104, 0, 0, 0, 0, 0, 0, 226, 236, 3]

/-- Firmware 7.0, package Refloat 1.3.0 standing parked; the firmware images are never read. The rider switches the
beeper on and the preflight read goes out. -/
def beeperCalls : List SettingsCall :=
  [.ingest (.linkUp 0),
    .ingest (.notification true [2, 19, 0, 7, 0, 54, 0, 0, 0, 0, 0, 0, 0, 0, 0, 0, 0, 0, 0, 0, 0, 85, 112, 3] 1),
    .ingest (.notification true ([2, 61, 36, 101, 0, 2, 0, 82, 101, 102, 108, 111, 97, 116] ++ List.replicate 13 0 ++
      [1, 3, 0] ++ List.replicate 33 0 ++ [7, 146, 3]) 1),
    .ingest (.notification true [2, 11, 36, 101, 32, 1, 5, 115, 112, 101, 101, 100, 0, 47, 202, 3] 1),
    .ingest (.notification true [2, 6, 50, 0, 2, 0, 0, 1, 89, 133, 3] 2),
    .ingest (.notification true storedConfiguration 3),
    .recordSettingReadTransport (2 ^ 63 + 1) .rejected 3,
    .ingest (.notification true [2, 15, 36, 101, 31, 0, 0, 0, 0, 0, 0, 2, 0, 0, 0, 0, 0, 106, 180, 3] 4),
    .recordSettingReadTransport (2 ^ 63 + 2) .rejected 4,
    .ingest (.tick 4),
    .recordSettingReadTransport (2 ^ 63 + 3) .rejected 4,
    .ingest (.tick 4),
    .recordSettingReadTransport (2 ^ 63 + 4) .rejected 4,
    .armSettingsWrites .parked (some 0) 5,
    .ingest (.commandAt (.setSetting .hardwareBeeperEnabled (.boolean true)) 5),
    .bindSettingOperation 1,
    .recordSettingTransport 1 .submitted 5]

open VescSettingsSession in
set_option maxRecDepth 20000 in
/-- While the verification read waits, an authorization with a foreign arm and generation is admitted. -/
theorem foreign_authorization_admitted_at_verification_read :
    let session := Runs.final (step .versioned) (new none)
      (beeperCalls ++ [.ingest (.notification true storedConfiguration 6), .recordSettingTransport 1 .submitted 6])
    let foreign : SettingWriteAuthorization := ⟨⟨vescSettingsModel, 0, 0⟩, 77⟩
    session.settingWriteIsCurrent foreign 7 = true ∧
      session.pending.map (·.authorization) ≠ some (some foreign) ∧ session.arm ≠ some foreign.arm ∧
      foreign.cancellationGeneration ≠ session.cancellationGeneration ∧
      session.settingAuthorizationExpiresAt foreign = none := by
  decide +kernel

end Cutout.Protocols

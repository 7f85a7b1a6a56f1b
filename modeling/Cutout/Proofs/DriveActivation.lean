import Cutout.ConnectionSession
import Cutout.Proofs.PhoneDrive
import Cutout.Library.Runs

/-! What blocks the activation of phone control. The session keeps the last setting
request of every setting of an attempt, and drops none of them when they finish; an
activation only asks whether there is one. -/

namespace Cutout.Connections
open Cutout.Core Library
open Protocols (SettingId DeviceSettingValue ApplicationQueryTransportStatus)

namespace DeviceConnectionSession
variable {session : DeviceConnectionSession}
variable {next : DeviceConnectionSession}
variable {token : ConnectionAttemptToken}

section Session
variable (session : DeviceConnectionSession)

theorem emitPhoneDrive_operations (token : ConnectionAttemptToken) (at_ : Nat) (canSubmit : Bool) :
    (session.emitPhoneDrive token at_ canSubmit).1.settingOperations = session.settingOperations := by
  have finishes := session.emitPhoneDrive_finishes token at_ canSubmit
  generalize (session.emitPhoneDrive token at_ canSubmit).1 = next at finishes ⊢
  generalize (session.emitPhoneDrive token at_ canSubmit).2.join = write at finishes
  cases finishes with
  | silent _ same only clock => exact only.settingOperations
  | refused => rfl
  | unencoded _ _ _ _ _ _ only | emitted _ _ _ _ only => exact only.settingOperations

theorem tickPhoneDrive_operations (token : ConnectionAttemptToken) (at_ : Nat) (canSubmit : Bool) :
    (session.tickPhoneDrive token at_ canSubmit).1.settingOperations = session.settingOperations := by
  rcases session.tickPhoneDrive_cases token at_ canSubmit with idle | ⟨middle, ticks, same, -⟩
  · rw [idle]
  · rw [same, middle.emitPhoneDrive_operations]
    exact ticks.only.settingOperations

theorem cancelPhoneDrive_operations (reason : PhoneDriveCancelReason) :
    (session.cancelPhoneDrive reason).settingOperations = session.settingOperations :=
  (session.cancelPhoneDrive_only reason).1.settingOperations

theorem preparePhoneDriveWrite_operations (action : Option PhoneDriveAction) (milliamps at_ : Nat) :
    (session.preparePhoneDriveWrite action milliamps at_).settingOperations = session.settingOperations :=
  (session.preparePhoneDriveWrite_only action milliamps at_).1.settingOperations

private theorem observeGesture_operations (generation : Nat) (contacts : PhoneDriveContacts) :
    (session.observeGesture generation contacts).settingOperations = session.settingOperations := by
  unfold observeGesture
  dsimp only
  split
  · split
    · split <;> rfl
    · split <;> rfl
  · split <;> rfl

private theorem followGesture_operations (before : PhoneDriveInputPhase) (observedAt at_ : Nat) :
    (session.followGesture before observedAt at_).settingOperations = session.settingOperations := by
  unfold followGesture
  split
  · rfl
  · dsimp only
    split
    · split
      · exact preparePhoneDriveWrite_operations _ _ _ _
      · rfl
    · split
      · exact preparePhoneDriveWrite_operations _ _ _ _
      · rfl
    · split
      · rfl
      · split
        · split
          · rfl
          · exact preparePhoneDriveWrite_operations _ _ _ _
        · exact cancelPhoneDrive_operations _ _

private theorem observePhoneDriveContactsAt_operations (token : ConnectionAttemptToken) (generation : Nat)
    (contacts : PhoneDriveContacts) (observedAt at_ : Nat) :
    (session.observePhoneDriveContactsAt token generation contacts observedAt at_).1.settingOperations =
      session.settingOperations := by
  unfold observePhoneDriveContactsAt
  split
  · rfl
  · split
    · rfl
    · split
      · unfold phoneDriveStep
        dsimp only
        split <;> rfl
      · split
        · rw [tickPhoneDrive_operations, cancelPhoneDrive_operations]
        · rw [emitPhoneDrive_operations, followGesture_operations, observeGesture_operations]

private theorem markPhoneDriveTransport_operations (token : ConnectionAttemptToken) (write : PhoneDriveWrite)
    (status : ApplicationQueryTransportStatus) (at_ : Nat) :
    (session.markPhoneDriveTransport token write status at_).1.settingOperations = session.settingOperations := by
  unfold markPhoneDriveTransport
  dsimp only
  split
  · rfl
  · split
    · rfl
    · rfl
    all_goals
      split
      · exact cancelPhoneDrive_operations _ _
      · rfl

private theorem applyPhoneDrivePreferences_operations (token : ConnectionAttemptToken) (mode : PhoneControlMode)
    (limits : PhoneDriveLimits) :
    (session.applyPhoneDrivePreferences token mode limits).1.settingOperations = session.settingOperations := by
  unfold applyPhoneDrivePreferences
  split
  · rfl
  · dsimp only
    split
    · exact cancelPhoneDrive_operations _ _
    · split
      · exact cancelPhoneDrive_operations _ _
      · rfl

private theorem setPhoneDriveSettingsPresented_operations (token : ConnectionAttemptToken) (presented : Bool) :
    (session.setPhoneDriveSettingsPresented token presented).1.settingOperations = session.settingOperations := by
  unfold setPhoneDriveSettingsPresented
  split
  · rfl
  · split
    · dsimp only
      split
      · exact cancelPhoneDrive_operations _ _
      · rfl
    · split <;> rfl

def dropUnsentRelease (session : DeviceConnectionSession) : DeviceConnectionSession :=
  if session.hasPendingRelease then
    { session with
      phoneDriveControl := { session.phoneDriveControl with pending := none, activation := none }
      phoneDriveInput := session.phoneDriveInput.cancel .transportUnavailable }
  else session

/-- What an activation still asks after its checks of the connection and the clock. -/
def openActivation (session : DeviceConnectionSession) (limits : PhoneDriveLimits) (at_ : Nat) :
    DeviceConnectionSession × Except PhoneDriveActivationError Nat :=
  if session.phoneDriveInput.phase ≠ .idle then (session, .error .inputHeld)
  else if (session.device.any DecoderView.settingsBusy) = true ∨ session.settingOperations.items ≠ [] then
    (session, .error .busy)
  else match checkedAdd session.phoneDriveControl.nextActivation 1 with
    | none => (session, .error .identifierExhausted)
    | some next =>
      let session := { session with phoneDriveInput := session.phoneDriveInput.cancel .activationChanged }
      if session.phoneDriveInput.generation.isNone then (session, .error .identifierExhausted)
      else
        ({ session with
            phoneDriveControl := { session.phoneDriveControl with
              nextActivation := next
              pending := none
              activation := some ⟨next, limits, none, none⟩ }
            lastInputAt := at_ }, .ok next)

def releaseOwns (session : DeviceConnectionSession) (at_ : Nat) : Bool :=
  session.phoneDriveControl.pending.any fun pending => pending.isRelease && decide (at_ < pending.admission.submitBefore)

theorem activatePhoneDrive_eq (token : ConnectionAttemptToken) (generation : Nat) (limits : PhoneDriveLimits)
    (at_ : Nat) : session.activatePhoneDrive token generation limits at_ =
      if session.connection.isVerified token = false then (session, .error .connectionUnavailable)
      else if session.phoneDriveInput.generation ≠ some generation then (session, .error .inputGenerationChanged)
      else if session.phoneDrivePreferencesToken ≠ some token then (session, .error .settingsNotLoaded)
      else if session.phoneDriveSettingsPresentedFor = some token then (session, .error .busy)
      else if session.phoneDriveAvailable = false then (session, .error .vehicleUnsupported)
      else if session.phoneDriveInput.mode = .disabled then (session, .error .modeDisabled)
      else if at_ < session.lastInputAt then (session, .error .clockRegression)
      else if session.phoneDriveControl.controllerFault then (session, .error .controllerFault)
      else if session.releaseOwns at_ then (session, .error .busy)
      else session.dropUnsentRelease.openActivation limits at_ := rfl

private theorem openActivation_operations (limits : PhoneDriveLimits) (at_ : Nat) :
    (session.openActivation limits at_).1.settingOperations = session.settingOperations := by
  unfold openActivation
  split
  · rfl
  · split
    · rfl
    · split
      · rfl
      · dsimp only
        split <;> rfl

private theorem activatePhoneDrive_operations (token : ConnectionAttemptToken) (generation : Nat) (limits : PhoneDriveLimits)
    (at_ : Nat) :
    (session.activatePhoneDrive token generation limits at_).1.settingOperations = session.settingOperations := by
  rw [activatePhoneDrive_eq]
  iterate 9
    split
    · rfl
  rw [openActivation_operations]
  unfold dropUnsentRelease
  split <;> rfl

theorem observePhoneDriveFault_operations (faults : List Int) :
    (session.observePhoneDriveFault faults).settingOperations = session.settingOperations := by
  unfold observePhoneDriveFault
  induction faults generalizing session with
  | nil => rfl
  | cons fault faults ih =>
    rw [List.foldl_cons, ih]
    dsimp only
    split
    · exact cancelPhoneDrive_operations _ _
    · rfl

theorem advanceTo_operations (time : Option Nat) :
    (session.advanceTo time).settingOperations = session.settingOperations := by
  cases time <;> rfl

theorem ingestValidated_operations (token : ConnectionAttemptToken) (input : SessionInput) (answer : DecoderAnswer) :
    (session.ingestValidated token input answer).1.settingOperations = session.settingOperations := by
  unfold ingestValidated
  split
  · rfl
  · dsimp only
    split
    · exact advanceTo_operations _ _
    · split
      · rw [cancelPhoneDrive_operations, observePhoneDriveFault_operations]
        exact advanceTo_operations _ _
      · split
        · rw [cancelPhoneDrive_operations, observePhoneDriveFault_operations]
          exact advanceTo_operations _ _
        · rw [observePhoneDriveFault_operations]
          exact advanceTo_operations _ _

private theorem ingest_operations (token : ConnectionAttemptToken) (input : SessionInput) (answer : DecoderAnswer) :
    (session.ingest token input answer).1.settingOperations = session.settingOperations := by
  unfold ingest
  split
  · rfl
  · rfl
  · exact ingestValidated_operations _ _ _ _

private theorem submitAction_operations (token : ConnectionAttemptToken) (at_ : Nat) (answer : DecoderAnswer) :
    (session.submitAction token at_ answer).1.settingOperations = session.settingOperations := by
  unfold submitAction
  split
  · rfl
  · split
    · rfl
    · exact ingestValidated_operations _ _ _ _

private theorem clearFailedDevice_operations : session.clearFailedDevice.settingOperations = session.settingOperations := by
  unfold clearFailedDevice
  split <;> rfl

private theorem retireCurrent_operations (token : ConnectionAttemptToken) :
    (session.retireCurrent token).settingOperations = session.settingOperations := by
  unfold retireCurrent
  split
  · exact cancelPhoneDrive_operations _ _
  · rfl

private theorem protocolConflict_operations (token : ConnectionAttemptToken) :
    (session.protocolConflict token).1.settingOperations = session.settingOperations := by
  unfold protocolConflict
  dsimp only
  split
  · rfl
  · exact cancelPhoneDrive_operations _ _

private theorem resolve_operations (token : ConnectionAttemptToken) (at_ : Nat) (resolution : Resolution) :
    (session.resolve token at_ resolution).settingOperations = session.settingOperations := by
  unfold resolve
  split
  · rfl
  · dsimp only
    split
    · rfl
    · split
      · rfl
      · split <;> rfl
      · rfl

private theorem configureVehicleKind_operations (token : ConnectionAttemptToken) (kind : VehicleKind) (view : DecoderView)
    (taken : Bool) :
    (session.configureVehicleKind token kind view taken).1.settingOperations = session.settingOperations := by
  unfold configureVehicleKind
  split
  · rfl
  · split
    · rfl
    · split
      · rfl
      · dsimp only
        split
        · exact cancelPhoneDrive_operations _ _
        · rfl

private theorem tickSettingTransport_operations (token : ConnectionAttemptToken) (at_ : Nat) (record : RecordTransport) :
    (session.tickSettingTransport token at_ record).1.settingOperations = session.settingOperations := by
  have kept (expired : List (SettingId × Nat)) (session : DeviceConnectionSession) :
      (expired.foldl (expireOperation record) session).settingOperations = session.settingOperations := by
    induction expired generalizing session with
    | nil => rfl
    | cons first expired ih =>
      rw [List.foldl_cons, ih]
      rfl
  unfold tickSettingTransport
  split
  · rfl
  · dsimp only
    rw [kept, advanceTo_operations]

end Session

def requests (session : DeviceConnectionSession) (id : SettingId) : Option Nat :=
  (session.settingOperations.get id).map SettingTransportOperation.requestId

theorem requests_of_operations (same : next.settingOperations = session.settingOperations) :
    next.requests = session.requests := by
  funext id
  rw [requests, requests, same]

theorem requests_put {id : SettingId} {operation : SettingTransportOperation} {request : Nat}
    (same : next.settingOperations = session.settingOperations.entry id fun _ => operation)
    (named : operation.requestId = request) :
    next.requests = fun other => if other = id then some request else session.requests other := by
  funext other
  rw [requests, same, OrderedMap.get_put, ← named]
  split
  · rfl
  · rfl

/-- A receipt changes how a request stands, never which request it is. -/
theorem requests_update {id : SettingId} {operation changed : SettingTransportOperation}
    (known : session.settingOperations.get id = some operation)
    (same : next.settingOperations = session.settingOperations.entry id fun _ => changed)
    (keeps : changed.requestId = operation.requestId) : next.requests = session.requests := by
  rw [requests_put same rfl]
  funext other
  split
  · next here =>
    rw [here, requests, known, keeps]
    rfl
  · rfl

private theorem markSettingTransport_requests (session : DeviceConnectionSession) (token : ConnectionAttemptToken)
    (id : SettingId) (requestId : Nat) (status : SettingTransportStatus) (at_ : Nat) (record : RecordTransport) :
    (session.markSettingTransport token id requestId status at_ record).1.requests = session.requests := by
  unfold markSettingTransport
  split
  · rfl
  · split
    · next device operation setting found known listed =>
      dsimp only
      split
      · rfl
      · split
        · split
          · exact requests_update known rfl rfl
          · split
            · exact requests_update known rfl rfl
            · split
              · split
                · exact requests_update known rfl rfl
                · rfl
              · rfl
        · split
          · rfl
          · split
            · split
              · exact requests_update known rfl rfl
              · split
                · exact requests_update known rfl rfl
                · exact requests_update known rfl rfl
            · split
              · exact requests_update known rfl rfl
              · rfl
    · rfl

/-- A setting request that is taken replaces the one kept for its setting, also when the device refuses it. -/
theorem submitSetting_requests (session : DeviceConnectionSession) (token : ConnectionAttemptToken) (id : SettingId)
    (value : DeviceSettingValue) (at_ : Nat) (answer : DecoderAnswer) (bound : Option Nat × Nat) (boundView : DecoderView) :
    (∃ error, (session.submitSetting token id value at_ answer bound boundView).2 = .error error ∧
      (session.submitSetting token id value at_ answer bound boundView).1.requests = session.requests) ∨
    ∃ request, (session.submitSetting token id value at_ answer bound boundView).2 = .ok request ∧
      (session.submitSetting token id value at_ answer bound boundView).1.requests =
        fun other => if other = id then some request else session.requests other := by
  unfold submitSetting
  split
  · exact .inl ⟨_, rfl, rfl⟩
  · split
    · exact .inl ⟨_, rfl, rfl⟩
    · split
      · exact .inl ⟨_, rfl, rfl⟩
      · split
        · exact .inl ⟨_, rfl, rfl⟩
        · split
          · exact .inl ⟨_, rfl, rfl⟩
          · split
            · exact .inl ⟨_, rfl, rfl⟩
            · dsimp only
              have kept := requests_of_operations
                (ingestValidated_operations session token (.commandAt false at_) answer)
              split
              · exact .inl ⟨_, rfl, kept⟩
              · refine .inr ⟨_, rfl, ?_⟩
                rw [← kept]
                exact requests_put rfl rfl

/-- The last request taken for each setting, after one more call: an attempt begins and ends with none. -/
def takenAfter (current : SettingId → Option Nat) : SessionCall → SessionReply → SettingId → Option Nat
  | .beginAttempt _ _, _ => fun _ => none
  | .disconnect, _ => fun _ => none
  | .admitRetry _ _, .admitted (some _) => fun _ => none
  | .submitSetting _ id _ _ _ _ _, .requested (.ok request) => fun other => if other = id then some request else current other
  | _, _ => current

def taken (past : List (Step DeviceConnectionSession SessionCall SessionReply)) : SettingId → Option Nat :=
  past.foldl (fun current step => takenAfter current step.input step.output) fun _ => none

theorem requests_empty (same : next.settingOperations = .empty) : next.requests = fun _ => none := by
  funext id
  rw [requests, same]
  rfl

private theorem submitSetting_taken (session : DeviceConnectionSession) (token : ConnectionAttemptToken) (id : SettingId)
    (value : DeviceSettingValue) (at_ : Nat) (answer : DecoderAnswer) (bound : Option Nat × Nat) (boundView : DecoderView) :
    (session.submitSetting token id value at_ answer bound boundView).1.requests =
      takenAfter session.requests (.submitSetting token id value at_ answer bound boundView)
        (.requested (session.submitSetting token id value at_ answer bound boundView).2) := by
  rcases session.submitSetting_requests token id value at_ answer bound boundView with
    ⟨error, replied, same⟩ | ⟨request, replied, same⟩
  · rw [replied, same]
    rfl
  · rw [replied, same]
    rfl

private theorem admitRetry_taken (session : DeviceConnectionSession) (retry at_ : Nat) :
    (session.admitRetry retry at_).1.requests =
      takenAfter session.requests (.admitRetry retry at_) (.admitted (session.admitRetry retry at_).2) := by
  unfold admitRetry
  dsimp only
  split
  · rfl
  · exact requests_empty rfl

/-- The session keeps exactly the requests of its attempt, however they ended. -/
theorem step_requests (session : DeviceConnectionSession) (call : SessionCall) :
    (session.step call).1.requests = takenAfter session.requests call (session.step call).2 := by
  cases call with
  | beginAttempt platformIdentifier at_ => exact requests_empty rfl
  | admitRetry retry at_ => exact session.admitRetry_taken retry at_
  | requestRetry | cancelRetry | connected | expire => rfl
  | resolve token at_ resolution => exact requests_of_operations (resolve_operations _ _ _ _)
  | disconnect => exact requests_empty rfl
  | linkDown | transportFailed =>
    exact requests_of_operations ((clearFailedDevice_operations _).trans (retireCurrent_operations _ _))
  | protocolConflict token => exact requests_of_operations (protocolConflict_operations _ _)
  | configureVehicleKind token kind view taken =>
    exact requests_of_operations (configureVehicleKind_operations _ _ _ _ _)
  | authorizeValidation token =>
    refine requests_of_operations ?_
    show (session.authorizeValidation token).1.settingOperations = _
    unfold authorizeValidation
    split <;> rfl
  | revokeValidation token =>
    refine requests_of_operations ?_
    show (session.revokeValidation token).1.settingOperations = _
    unfold revokeValidation
    split <;> rfl
  | decoder | requireManagedTransport | submissionElsewhere => rfl
  | ingest token input answer => exact requests_of_operations (ingest_operations _ _ _ _)
  | submitAction token at_ answer => exact requests_of_operations (submitAction_operations _ _ _ _)
  | submitSetting token id value at_ answer bound boundView =>
    exact session.submitSetting_taken token id value at_ answer bound boundView
  | tickSettingTransport token at_ record => exact requests_of_operations (tickSettingTransport_operations _ _ _ _)
  | markSettingTransport token id requestId status at_ record =>
    exact session.markSettingTransport_requests token id requestId status at_ record
  | markSettingReadTransport token at_ view accepted =>
    refine requests_of_operations ?_
    show (session.markSettingReadTransport token at_ view accepted).1.settingOperations = _
    unfold markSettingReadTransport
    split
    · rfl
    · dsimp only
      split <;> rfl
  | activatePhoneDrive token generation limits at_ => exact requests_of_operations (activatePhoneDrive_operations _ _ _ _ _)
  | observePhoneDriveContactsAt token generation contacts observedAt at_ =>
    exact requests_of_operations (observePhoneDriveContactsAt_operations _ _ _ _ _ _)
  | tickPhoneDrive token at_ canSubmit => exact requests_of_operations (tickPhoneDrive_operations _ _ _ _)
  | markPhoneDriveTransport token write status at_ =>
    exact requests_of_operations (markPhoneDriveTransport_operations _ _ _ _ _)
  | cancelPhoneDrive | cancelPhoneDriveAt => exact requests_of_operations (cancelPhoneDrive_operations _ _)
  | applyPhoneDrivePreferences token mode limits =>
    exact requests_of_operations (applyPhoneDrivePreferences_operations _ _ _ _)
  | setPhoneDriveSettingsPresented token presented =>
    exact requests_of_operations (setPhoneDriveSettingsPresented_operations _ _ _)

private theorem run_requests (calls : List SessionCall) :
    (Runs.final step {} calls).requests = taken (Runs.history step {} calls) := by
  refine Runs.induction_on (P := fun past session => session.requests = taken past) ?_ ?_ calls
  · exact requests_empty rfl
  · intro past session call known
    rw [step_requests, known, taken, taken, List.foldl_append]
    rfl

/-- Every check an activation makes before it asks for the settings passes. -/
structure ReachesSettings (session : DeviceConnectionSession) (token : ConnectionAttemptToken) (generation at_ : Nat) :
    Prop where
  verified : session.connection.isVerified token = true
  current : session.phoneDriveInput.generation = some generation
  loaded : session.phoneDrivePreferencesToken = some token
  hidden : session.phoneDriveSettingsPresentedFor ≠ some token
  available : session.phoneDriveAvailable = true
  enabled : session.phoneDriveInput.mode ≠ .disabled
  clock : session.lastInputAt ≤ at_
  healthy : session.phoneDriveControl.controllerFault = false
  released : session.hasPendingRelease = false
  idle : session.phoneDriveInput.phase = .idle

/-- The request of a setting is still outstanding: the transport has not answered for it, or owes receipts. -/
def Outstanding (session : DeviceConnectionSession) (id : SettingId) (request : Nat) : Prop :=
  (∃ record, session.settings.records.get id = some record ∧ record.requestId = some request ∧
    (record.transport = some .accepted ∨ record.transport = some .queued)) ∨
  ∃ operation, session.settingOperations.get id = some operation ∧ operation.requestId = request ∧
    0 < operation.remainingReceipts

/-- A cancelled gesture is not idle, whatever the generations left. -/
theorem cancel_phase (input : PhoneDriveInputState) (reason : PhoneDriveCancelReason) :
    (input.cancel reason).phase ≠ .idle := by
  unfold PhoneDriveInputState.cancel PhoneDriveInputState.phase
  cases input.epoch with
  | exhausted =>
    intro idle
    cases idle
  | current generation gesture =>
    dsimp only
    by_cases below : generation < Protocols.u64Max
    · rw [if_pos below]
      intro idle
      cases idle
    · rw [if_neg below]
      intro idle
      cases idle

theorem openActivation_busy (session : DeviceConnectionSession) (limits : PhoneDriveLimits) (at_ : Nat) :
    (session.openActivation limits at_).2 = .error .busy ↔ session.phoneDriveInput.phase = .idle ∧
      ((session.device.any DecoderView.settingsBusy) = true ∨ session.settingOperations.items ≠ []) := by
  unfold openActivation
  by_cases held : session.phoneDriveInput.phase = .idle
  · rw [if_neg (not_not.mpr held)]
    by_cases busy : (session.device.any DecoderView.settingsBusy) = true ∨ session.settingOperations.items ≠ []
    · rw [if_pos busy]
      exact ⟨fun _ => ⟨held, busy⟩, fun _ => rfl⟩
    · rw [if_neg busy]
      refine ⟨fun replied => ?_, fun blocked => absurd blocked.2 busy⟩
      split at replied
      · cases replied
      · dsimp only at replied
        split at replied <;> cases replied
  · rw [if_pos held]
    refine ⟨fun replied => ?_, fun blocked => absurd blocked.1 held⟩
    cases replied

private theorem dropUnsentRelease_idle (idle : session.dropUnsentRelease.phoneDriveInput.phase = .idle) :
    session.hasPendingRelease = false ∧ session.dropUnsentRelease = session := by
  unfold dropUnsentRelease at idle ⊢
  by_cases pending : session.hasPendingRelease = true
  · rw [if_pos pending] at idle
    exact absurd idle (cancel_phase _ _)
  · exact ⟨Bool.eq_false_of_not_eq_true pending, if_neg pending⟩

theorem releaseOwns_of_none (released : session.hasPendingRelease = false) (at_ : Nat) : session.releaseOwns at_ = false := by
  unfold hasPendingRelease at released
  unfold releaseOwns
  cases held : session.phoneDriveControl.pending with
  | none => rfl
  | some pending =>
    rw [held, Option.any_some] at released
    rw [Option.any_some, released, Bool.false_and]

private theorem activatePhoneDrive_busy {generation at_ : Nat} {limits : PhoneDriveLimits}
    (busy : (session.activatePhoneDrive token generation limits at_).2 = .error .busy) :
    session.phoneDriveSettingsPresentedFor = some token ∨ session.releaseOwns at_ = true ∨
      (session.device.any DecoderView.settingsBusy) = true ∨
      (session.ReachesSettings token generation at_ ∧ session.settingOperations.items ≠ []) := by
  rw [activatePhoneDrive_eq] at busy
  by_cases verified : session.connection.isVerified token = false
  · rw [if_pos verified] at busy
    cases busy
  rw [if_neg verified] at busy
  by_cases current : session.phoneDriveInput.generation = some generation
  case neg =>
    rw [if_pos current] at busy
    cases busy
  rw [if_neg (not_not.mpr current)] at busy
  by_cases loaded : session.phoneDrivePreferencesToken = some token
  case neg =>
    rw [if_pos loaded] at busy
    cases busy
  rw [if_neg (not_not.mpr loaded)] at busy
  by_cases presented : session.phoneDriveSettingsPresentedFor = some token
  · exact .inl presented
  rw [if_neg presented] at busy
  by_cases unsupported : session.phoneDriveAvailable = false
  · rw [if_pos unsupported] at busy
    cases busy
  rw [if_neg unsupported] at busy
  by_cases disabled : session.phoneDriveInput.mode = .disabled
  · rw [if_pos disabled] at busy
    cases busy
  rw [if_neg disabled] at busy
  by_cases early : at_ < session.lastInputAt
  · rw [if_pos early] at busy
    cases busy
  rw [if_neg early] at busy
  by_cases fault : session.phoneDriveControl.controllerFault = true
  · rw [if_pos fault] at busy
    cases busy
  rw [if_neg fault] at busy
  by_cases owned : session.releaseOwns at_ = true
  · exact .inr (.inl owned)
  rw [if_neg owned, openActivation_busy] at busy
  obtain ⟨idle, held⟩ := busy
  obtain ⟨released, same⟩ := dropUnsentRelease_idle idle
  rw [same] at idle held
  rcases held with device | kept
  · exact .inr (.inr (.inl device))
  · exact .inr (.inr (.inr ⟨⟨Bool.eq_true_of_not_eq_false verified, current, loaded, presented,
      Bool.eq_true_of_not_eq_false unsupported, disabled, Nat.le_of_not_lt early, Bool.eq_false_of_not_eq_true fault,
      released, idle⟩, kept⟩))

theorem ReachesSettings.busy {generation at_ : Nat} (reaches : session.ReachesSettings token generation at_)
    (limits : PhoneDriveLimits) (kept : session.settingOperations.items ≠ []) :
    (session.activatePhoneDrive token generation limits at_).2 = .error .busy := by
  have unowned := releaseOwns_of_none reaches.released at_
  have same : session.dropUnsentRelease = session := by
    rw [dropUnsentRelease, reaches.released]
    rfl
  rw [activatePhoneDrive_eq, if_neg (by rw [reaches.verified]; decide), if_neg (not_not.mpr reaches.current),
    if_neg (not_not.mpr reaches.loaded), if_neg reaches.hidden, if_neg (by rw [reaches.available]; decide),
    if_neg reaches.enabled, if_neg (Nat.not_lt_of_le reaches.clock), if_neg (by rw [reaches.healthy]; decide),
    if_neg (by rw [unowned]; decide), same]
  exact (openActivation_busy session limits at_).mpr ⟨reaches.idle, .inr kept⟩

/-- What the refusal of an activation as busy stands for: the settings are in front, a release or the
decoder is at work, or a request of this attempt is still outstanding. -/
def TransportOwned (past : List (Step DeviceConnectionSession SessionCall SessionReply)) (session : DeviceConnectionSession)
    (token : ConnectionAttemptToken) (at_ : Nat) : Prop :=
  session.phoneDriveSettingsPresentedFor = some token ∨ session.releaseOwns at_ = true ∨
    (session.device.any DecoderView.settingsBusy) = true ∨
    ∃ id request, taken past id = some request ∧ session.Outstanding id request

/-- After every run, an activation is refused as busy for good reason exactly unless it passes every other
check, a setting request was taken in the attempt, and no request of the attempt is outstanding. -/
theorem activation_busy_is_justified (calls : List SessionCall) (token : ConnectionAttemptToken) (generation : Nat)
    (limits : PhoneDriveLimits) (at_ : Nat) :
    (((Runs.final step {} calls).activatePhoneDrive token generation limits at_).2 = .error .busy →
      TransportOwned (Runs.history step {} calls) (Runs.final step {} calls) token at_) ↔
    (¬(Runs.final step {} calls).ReachesSettings token generation at_ ∨
      ((Runs.final step {} calls).device.any DecoderView.settingsBusy) = true ∨
      (∀ id, taken (Runs.history step {} calls) id = none) ∨
      ∃ id request, taken (Runs.history step {} calls) id = some request ∧
        (Runs.final step {} calls).Outstanding id request) := by
  have known := run_requests calls
  generalize Runs.final step {} calls = session at known ⊢
  generalize Runs.history step {} calls = past at known ⊢
  rw [← known]
  constructor
  · intro justified
    by_cases reaches : session.ReachesSettings token generation at_
    case neg => exact .inl reaches
    refine .inr ?_
    by_cases nothing : session.settingOperations.items = []
    · refine .inr (.inl ?_)
      intro id
      rw [requests, OrderedMap.items_eq_nil_iff.mp nothing id]
      rfl
    · rcases justified (reaches.busy limits nothing) with presented | owned | device | outstanding
      · exact absurd presented reaches.hidden
      · rw [releaseOwns_of_none reaches.released] at owned
        cases owned
      · exact .inl device
      · rw [← known] at outstanding
        exact .inr (.inr outstanding)
  · intro condition busy
    rcases activatePhoneDrive_busy busy with presented | owned | device | ⟨reaches, kept⟩
    · exact .inl presented
    · exact .inr (.inl owned)
    · exact .inr (.inr (.inl device))
    · rcases condition with unreached | device | nothing | outstanding
      · exact absurd reaches unreached
      · exact .inr (.inr (.inl device))
      · refine absurd (OrderedMap.items_eq_nil_iff.mpr ?_) kept
        intro id
        exact Option.map_eq_none_iff.mp (nothing id)
      · refine .inr (.inr (.inr ?_))
        rw [← known]
        exact outstanding

/-- A skateboard controller without the package, with a motor setting that needs a stationary board. -/
def skateboardView : DecoderView where
  identity := ⟨.vesc, ⟨.eskate, .userProvided⟩, some .absent⟩
  command := fun _ _ _ => some .stationaryOnly

/-- A motor setting is refused for stale evidence, and phone control is activated afterwards. -/
def refusedSettingCalls : List SessionCall :=
  [.beginAttempt "board" 0, .connected ⟨1, "board"⟩, .resolve ⟨1, "board"⟩ 100 (.decoder skateboardView),
    .applyPhoneDrivePreferences ⟨1, "board"⟩ .buttons default,
    .observePhoneDriveContactsAt ⟨1, "board"⟩ 4 .released 200 200,
    .submitSetting ⟨1, "board"⟩ .motorDriveCurrentLimit (.number 40) 3000
      { view := skateboardView, refusal := some .expiredArm } (none, 0) skateboardView]

/-- A setting that was refused, with no write and no receipt to come, keeps phone control from being activated. -/
theorem refused_setting_keeps_activation_busy :
    ((Runs.final step {} refusedSettingCalls).activatePhoneDrive ⟨1, "board"⟩ 4 default 3000).2 = .error .busy ∧
    ((Runs.final step {} refusedSettingCalls).settings.records.get .motorDriveCurrentLimit).map SettingRecord.transport =
      some (some .rejected) ∧
    ¬TransportOwned (Runs.history step {} refusedSettingCalls) (Runs.final step {} refusedSettingCalls)
      ⟨1, "board"⟩ 3000 := by
  have listed : (Runs.final step {} refusedSettingCalls).settings.records.items.map
      (fun item => item.2.transport) = [some .rejected] := by rfl
  have kept : (Runs.final step {} refusedSettingCalls).settingOperations.items.map
      (fun item => item.2.remainingReceipts) = [0] := by rfl
  have presented : (Runs.final step {} refusedSettingCalls).phoneDriveSettingsPresentedFor = none := by rfl
  have pending : (Runs.final step {} refusedSettingCalls).phoneDriveControl.pending = none := by rfl
  have device : ((Runs.final step {} refusedSettingCalls).device.any DecoderView.settingsBusy) = false := by rfl
  refine ⟨by rfl, by rfl, ?_⟩
  intro owned
  rcases owned with front | release | busy | ⟨id, request, -, outstanding⟩
  · rw [presented] at front
    cases front
  · rw [releaseOwns, pending] at release
    cases release
  · rw [device] at busy
    cases busy
  · rcases outstanding with ⟨record, found, -, waits⟩ | ⟨operation, found, -, owed⟩
    · have member := List.mem_map_of_mem (f := fun item => item.2.transport) (OrderedMap.get_mem found)
      rw [listed, List.mem_singleton] at member
      rcases waits with accepted | queued
      · rw [accepted] at member
        cases member
      · rw [queued] at member
        cases member
    · have member := List.mem_map_of_mem (f := fun item => item.2.remainingReceipts) (OrderedMap.get_mem found)
      rw [kept, List.mem_singleton] at member
      exact absurd member (Nat.ne_of_gt owed)

end DeviceConnectionSession

end Cutout.Connections

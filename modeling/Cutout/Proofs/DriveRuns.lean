import Cutout.Proofs.DriveActivation

/-! The dead-man switch over whole runs. A setpoint goes out only while its contact is held
under a live activation, and only after the surface was seen released under it. A contact
that ends leaves a newer neutral write, unless the connection changes or a refused
observation is so late that the write is past its deadline at once. -/

namespace Cutout.Core
variable {reason : PhoneDriveCancelReason}
variable {contacts : PhoneDriveContacts}

theorem Gesture.observe_cancels {gesture : Gesture} (cancelled : (gesture.observe contacts).phase = .cancelled reason) :
    gesture.phase = .cancelled reason ∨ Connections.gestureLocalCancel reason = true := by
  cases gesture with
  | suppressed before =>
    cases contacts with
    | released => cases cancelled
    | invalid | single | multiple => exact .inl cancelled
  | idle =>
    refine .inr ?_
    cases contacts with
    | released => cases cancelled
    | invalid | multiple =>
      cases cancelled
      rfl
    | single contact region =>
      cases region with
      | none =>
        cases cancelled
        rfl
      | some action => cases cancelled
  | pressed contact action =>
    refine .inr ?_
    cases contacts with
    | released => cases cancelled
    | invalid | multiple =>
      cases cancelled
      rfl
    | single observed region =>
      unfold observe at cancelled
      dsimp only at cancelled
      split at cancelled
      · cases cancelled
        rfl
      · split at cancelled
        · cases cancelled
          rfl
        · cases cancelled

theorem Gesture.observe_rearms {gesture : Gesture} (cancelled : gesture.phase = .cancelled reason) :
    (gesture.observe contacts).phase = .cancelled reason ∨ contacts = .released := by
  cases gesture with
  | idle | pressed => cases cancelled
  | suppressed before =>
    cases contacts with
    | released => exact .inr rfl
    | invalid | single | multiple => exact .inl cancelled

namespace PhoneDriveInputState
variable {input : PhoneDriveInputState} {generation : Nat} {contacts : PhoneDriveContacts}

/-- An observation of the current generation moves the gesture, or finds the surface disabled. -/
theorem observe_moves (current : input.generation = some generation) (contacts : PhoneDriveContacts) :
    (input.mode = .disabled ∧ input.observe generation contacts = input) ∨
      ∃ gesture : Gesture, input.phase = gesture.phase ∧ (input.observe generation contacts).phase = (gesture.observe contacts).phase := by
  obtain ⟨mode, epoch⟩ := input
  cases epoch with
  | exhausted => cases current
  | current counted gesture =>
    cases current
    by_cases disabled : mode = .disabled
    · exact .inl ⟨disabled, if_pos disabled⟩
    · refine .inr ⟨gesture, rfl, ?_⟩
      simp only [observe, if_neg disabled, if_pos, phase]

theorem observe_cancels (current : input.generation = some generation)
    (cancelled : (input.observe generation contacts).phase = .cancelled reason) :
    input.phase = .cancelled reason ∨ Connections.gestureLocalCancel reason = true := by
  rcases observe_moves current contacts with ⟨-, same⟩ | ⟨gesture, before, after⟩
  · rw [same] at cancelled
    exact .inl cancelled
  · rw [before]
    exact Gesture.observe_cancels (after.symm.trans cancelled)

theorem observe_rearms (current : input.generation = some generation) (cancelled : input.phase = .cancelled reason) :
    (input.observe generation contacts).phase = .cancelled reason ∨ contacts = .released := by
  rcases observe_moves current contacts with ⟨-, same⟩ | ⟨gesture, before, after⟩
  · rw [same]
    exact .inl cancelled
  · rw [after]
    exact Gesture.observe_rearms (before.symm.trans cancelled)

structure Follows (contacts : PhoneDriveContacts) (before after : PhoneDriveInputState) : Prop where
  mode : after.mode = before.mode
  generation : after.generation = before.generation
  disabled : before.mode = .disabled → after = before
  cancels : ∀ reason, after.phase = .cancelled reason →
    before.phase = .cancelled reason ∨ Connections.gestureLocalCancel reason = true
  rearms : (∃ reason, before.phase = .cancelled reason) → (∃ reason, after.phase = .cancelled reason) ∨ contacts = .released

theorem Follows.refl (contacts : PhoneDriveContacts) (input : PhoneDriveInputState) : Follows contacts input input :=
  ⟨rfl, rfl, fun _ => rfl, fun _ => .inl, .inl⟩

theorem Follows.trans {before middle after : PhoneDriveInputState} {later : PhoneDriveContacts}
    (first : Follows contacts before middle) (last : Follows later middle after) (touched : later ≠ .released) :
    Follows contacts before after := by
  refine ⟨last.mode.trans first.mode, last.generation.trans first.generation, ?_, ?_, ?_⟩
  · intro disabled
    rw [last.disabled (first.mode.trans disabled), first.disabled disabled]
  · intro reason cancelled
    rcases last.cancels reason cancelled with middle | gestural
    · exact first.cancels reason middle
    · exact .inr gestural
  · intro cancelled
    rcases first.rearms cancelled with middle | lifted
    · exact .inl ((last.rearms middle).resolve_right touched)
    · exact .inr lifted

theorem follows_observe (current : input.generation = some generation) (contacts : PhoneDriveContacts) :
    Follows contacts input (input.observe generation contacts) := by
  refine ⟨observe_mode _ _ _, observe_generation _ _ _, fun disabled => if_pos disabled, fun reason => observe_cancels current, ?_⟩
  rintro ⟨reason, cancelled⟩
  exact (observe_rearms current cancelled).imp_left fun kept => ⟨reason, kept⟩

/-- An invalid contact ends a held gesture, where the surface is enabled. -/
theorem observe_invalid (current : input.generation = some generation) (enabled : input.mode ≠ .disabled) :
    ∃ reason, (input.observe generation .invalid).phase = .cancelled reason := by
  rcases observe_moves current .invalid with ⟨disabled, -⟩ | ⟨gesture, -, after⟩
  · exact absurd disabled enabled
  · rw [after]
    cases gesture with
    | idle | pressed | suppressed => exact ⟨_, rfl⟩

end PhoneDriveInputState

end Cutout.Core

namespace Cutout.Connections
open Cutout.Core Library
open Protocols (SettingId DeviceSettingValue ApplicationQueryTransportStatus u64Max)

namespace DeviceConnectionSession
variable {session : DeviceConnectionSession}
variable {token : ConnectionAttemptToken} {at_ generation : Nat}
variable (calls : List SessionCall)
variable {reason : PhoneDriveCancelReason} {next : DeviceConnectionSession} {write : Option EmittedWrite}

theorem observeGesture_only (session : DeviceConnectionSession) (generation : Nat) (contacts : PhoneDriveContacts) :
    DriveOnly session (session.observeGesture generation contacts) ∧
      (session.observeGesture generation contacts).lastInputAt = session.lastInputAt := by
  have seen : DriveOnly session (if session.phoneDriveAvailable then
      { session with phoneDriveInput := session.phoneDriveInput.observe generation contacts }
    else session) ∧ (if session.phoneDriveAvailable then
      { session with phoneDriveInput := session.phoneDriveInput.observe generation contacts }
    else session).lastInputAt = session.lastInputAt := by
    split
    · exact ⟨⟨rfl, rfl, rfl, rfl, rfl⟩, rfl⟩
    · exact ⟨.refl _, rfl⟩
  unfold observeGesture
  dsimp only
  generalize (if session.phoneDriveAvailable then
      { session with phoneDriveInput := session.phoneDriveInput.observe generation contacts }
    else session) = next at seen ⊢
  split
  · split
    · exact ⟨seen.1.trans ⟨rfl, rfl, rfl, rfl, rfl⟩, seen.2⟩
    · exact seen
  · exact seen

theorem followGesture_only (session : DeviceConnectionSession) (was : PhoneDriveInputPhase) (observedAt at_ : Nat) :
    DriveOnly session (session.followGesture was observedAt at_) ∧
      (session.followGesture was observedAt at_).lastInputAt = session.lastInputAt := by
  have prepared (control : PhoneDriveControl) (action : Option PhoneDriveAction) (milliamps : Nat) :
      DriveOnly session ({ session with phoneDriveControl := control }.preparePhoneDriveWrite action milliamps at_) ∧
        ({ session with phoneDriveControl := control }.preparePhoneDriveWrite action milliamps at_).lastInputAt =
          session.lastInputAt := by
    obtain ⟨only, clock⟩ := preparePhoneDriveWrite_only { session with phoneDriveControl := control } action milliamps at_
    exact ⟨⟨only.connection, only.device, only.settings, only.nextRequestId, only.settingOperations⟩, clock⟩
  unfold followGesture
  split
  · exact ⟨.refl _, rfl⟩
  · dsimp only
    split
    · split
      · exact prepared _ _ _
      · exact ⟨⟨rfl, rfl, rfl, rfl, rfl⟩, rfl⟩
    · split
      · exact prepared _ _ _
      · exact ⟨⟨rfl, rfl, rfl, rfl, rfl⟩, rfl⟩
    · split
      · exact ⟨⟨rfl, rfl, rfl, rfl, rfl⟩, rfl⟩
      · split
        · split
          · exact ⟨⟨rfl, rfl, rfl, rfl, rfl⟩, rfl⟩
          · exact prepared _ _ _
        · obtain ⟨only, clock⟩ := cancelPhoneDrive_only { session with phoneDriveControl := _ } _
          exact ⟨⟨only.connection, only.device, only.settings, only.nextRequestId, only.settingOperations⟩, clock⟩

/-- The settings behind a decoded input: an operation that failed, then the readbacks of a notification. -/
def settle (settings : DeviceSettingsState) (input : SessionInput) (answer : DecoderAnswer) (now : Nat) :
    DeviceSettingsState :=
  let settings := match answer.failedOperation with
    | some operation => (settings.failOperation operation now).1
    | none => settings
  match input with
  | .notification receivedAt => answer.readbacks.foldl (observeReadback receivedAt) settings
  | _ => settings

/-- A session whose clock has reached the input takes in what the decoder made of it. -/
def absorb (session : DeviceConnectionSession) (device : DecoderView) (input : SessionInput) (answer : DecoderAnswer) :
    DeviceConnectionSession :=
  let session := { session with
    device := some answer.view
    settings := settle session.settings input answer session.lastInputAt }.observePhoneDriveFault answer.faults
  if input = .linkDown then session.cancelPhoneDrive .connectionChanged
  else if device.identity.classification ≠ answer.view.identity.classification ∨
      device.identity.vescApplication ≠ answer.view.identity.vescApplication then
    session.cancelPhoneDrive .configurationChanged
  else session

theorem ingestValidated_eq (session : DeviceConnectionSession) (token : ConnectionAttemptToken) (input : SessionInput)
    (answer : DecoderAnswer) : session.ingestValidated token input answer =
      if session.connection.isVerified token = false then (session, false)
      else match (session.advanceTo input.time).device with
        | none => (session.advanceTo input.time, false)
        | some device => ((session.advanceTo input.time).absorb device input answer, true) := rfl

/-- The gesture follows the contacts, and never past a neutral write that still waits. -/
theorem observeGesture_follows (current : session.drive.input.generation = some generation)
    (contacts : PhoneDriveContacts) : ∃ input, PhoneDriveInputState.Follows contacts session.drive.input input ∧
      (session.observeGesture generation contacts).drive = { session.drive with input } ∧
      (session.drive.Guarded → session.hasPendingRelease = true → ∀ action, input.phase ≠ .pressed action) := by
  have seen : PhoneDriveInputState.Follows contacts session.drive.input (if session.phoneDriveAvailable then
      { session with phoneDriveInput := session.phoneDriveInput.observe generation contacts }
    else session).drive.input ∧ (if session.phoneDriveAvailable then
      { session with phoneDriveInput := session.phoneDriveInput.observe generation contacts }
    else session).phoneDriveControl = session.phoneDriveControl := by
    split
    · exact ⟨PhoneDriveInputState.follows_observe current contacts, rfl⟩
    · exact ⟨.refl _ _, rfl⟩
  unfold observeGesture
  dsimp only
  generalize (if session.phoneDriveAvailable then
      { session with phoneDriveInput := session.phoneDriveInput.observe generation contacts }
    else session) = next at seen ⊢
  obtain ⟨follows, control⟩ := seen
  have same : next.drive = { session.drive with input := next.drive.input } := by
    unfold drive
    rw [control]
  have waiting : next.hasPendingRelease = session.hasPendingRelease := by
    unfold hasPendingRelease
    rw [control]
  have counted : next.drive.input.generation = some generation := follows.generation.trans current
  split
  · next action pressed =>
    rw [waiting]
    split
    · refine ⟨_, follows.trans (PhoneDriveInputState.follows_observe counted .invalid) nofun, ?_, ?_⟩
      · exact congrArg (fun drive : Drive => { drive with input := next.phoneDriveInput.observe generation .invalid }) same
      · intro guarded _ again held
        have enabled : next.drive.input.mode ≠ .disabled := by
          intro disabled
          have off := follows.mode.symm.trans disabled
          refine guarded.surface off ⟨action, ?_⟩
          rw [← follows.disabled off]
          exact pressed
        obtain ⟨reason, cancelled⟩ := PhoneDriveInputState.observe_invalid counted enabled
        rw [held] at cancelled
        cases cancelled
    · next free => exact ⟨_, follows, same, fun _ waits => absurd waits free⟩
  · next lifted => exact ⟨_, follows, same, fun _ _ action => lifted action⟩

/-- What a live activation makes of a gesture that followed its contacts. -/
inductive Answers (drive : Drive) (input : PhoneDriveInputState) (at_ : Nat) : Drive → Prop where
  | inactive (absent : drive.activation = none) : Answers drive input at_ { drive with input }
  | steady (held next : Activation) (active : drive.activation = some held) (id : next.id = held.id)
      (limits : next.limits = held.limits)
      (calm : (∃ action, input.phase = .pressed action ∧ drive.input.phase = .pressed action) ∨
        (∀ action, input.phase ≠ .pressed action) ∧
          (¬drive.Pressed ∨ ∃ write, drive.pending = some write ∧ write.admission.kind = .release)) :
      Answers drive input at_ { drive with input, activation := some next }
  | pressed (held next : Activation) (action : PhoneDriveAction) (after : Drive) (active : drive.activation = some held)
      (limits : next.limits = held.limits) (phase : input.phase = .pressed action)
      (prepares : Prepares { drive with input, activation := some next } (some action) (next.limits.of action) at_ after) :
      Answers drive input at_ after
  | lifted (held next : Activation) (after : Drive) (active : drive.activation = some held)
      (lifted : ∀ action, input.phase ≠ .pressed action)
      (prepares : Prepares { drive with input, activation := some next } none 0 at_ after) : Answers drive input at_ after

theorem followGesture_answers {drive : Drive} {input : PhoneDriveInputState} {contacts : PhoneDriveContacts}
    (same : session.drive = { drive with input }) (follows : PhoneDriveInputState.Follows contacts drive.input input)
    (observedAt at_ : Nat) : Answers drive input at_ (session.followGesture drive.input.phase observedAt at_).drive := by
  have phase : session.phoneDriveInput.phase = input.phase := congrArg (fun drive : Drive => drive.input.phase) same
  have activation : session.phoneDriveControl.activation = drive.activation := congrArg Drive.activation same
  have pending : session.phoneDriveControl.pending = drive.pending := congrArg Drive.pending same
  have updated (next : Activation) : { session with phoneDriveControl :=
      { session.phoneDriveControl with activation := some next } }.drive = { drive with input, activation := some next } :=
    congrArg (fun drive : Drive => { drive with activation := some next }) same
  unfold followGesture
  split
  · next absent =>
    rw [same]
    exact .inactive (activation.symm.trans absent)
  · next held active =>
    have active := activation.symm.trans active
    dsimp only
    split
    · next action pressed =>
      have pressed := phase.symm.trans pressed
      split
      · have prepares := preparePhoneDriveWrite_prepares { session with phoneDriveControl := { session.phoneDriveControl with
          activation := some { held with observedAt := some observedAt } } } (some action) (held.limits.of action) at_
        rw [updated] at prepares
        exact .pressed held { held with observedAt := some observedAt } action _ active rfl pressed prepares
      · next kept =>
        rw [updated]
        exact .steady held _ active rfl rfl (.inl ⟨action, pressed, not_not.mp kept⟩)
    · next idle =>
      have lifted (action : PhoneDriveAction) : input.phase ≠ .pressed action := by
        rw [← phase, idle]
        nofun
      split
      · have prepares := preparePhoneDriveWrite_prepares { session with phoneDriveControl := { session.phoneDriveControl with
          activation := some { held with observedAt := some observedAt, nextSetpointAt := none } } } none 0 at_
        rw [updated] at prepares
        exact .lifted held _ _ active lifted prepares
      · next before =>
        rw [updated]
        exact .steady held _ active rfl rfl (.inr ⟨lifted, .inl fun ⟨action, pressed⟩ => before action pressed⟩)
    · next reason cancelled =>
      have lifted (action : PhoneDriveAction) : input.phase ≠ .pressed action := by
        rw [← phase, cancelled]
        nofun
      split
      · next before =>
        rw [updated]
        exact .steady held _ active rfl rfl (.inr ⟨lifted, .inl (Drive.not_pressed_of_cancelled before)⟩)
      · next before =>
        split
        · split
          · next waiting =>
            obtain ⟨write, known, release⟩ := hasPendingRelease_iff.mp waiting
            rw [updated]
            exact .steady held _ active rfl rfl (.inr ⟨lifted, .inr ⟨write, pending.symm.trans known, release⟩⟩)
          · have prepares := preparePhoneDriveWrite_prepares { session with phoneDriveControl :=
              { session.phoneDriveControl with
                activation := some { held with observedAt := some observedAt, nextSetpointAt := none } } } none 0 at_
            rw [updated] at prepares
            exact .lifted held _ _ active lifted prepares
        · next foreign =>
          rcases follows.cancels reason (phase.symm.trans cancelled) with kept | gestural
          · exact absurd kept before
          · exact absurd gestural foreign

section Answering
variable {drive after : Drive} {input : PhoneDriveInputState} {contacts : PhoneDriveContacts} {at_ : Nat}

section Answers
variable (answers : Answers drive input at_ after) (follows : PhoneDriveInputState.Follows contacts drive.input input)
include answers follows

theorem Answers.carries
    (waits : drive.Guarded → (∃ write, drive.pending = some write ∧ write.admission.kind = .release) →
      ∀ action, input.phase ≠ .pressed action) :
    drive.Carries after := by
  have counts : input.generation.isSome = true → drive.input.generation.isSome = true := by
    rw [follows.generation]
    exact id
  have surface (guarded : drive.Guarded) (disabled : input.mode = .disabled) :
      ¬∃ action, input.phase = .pressed action := by
    have off := follows.mode.symm.trans disabled
    rw [follows.disabled off]
    exact guarded.surface off
  cases answers with
  | inactive absent =>
    refine ⟨?_, le_refl _, counts, fun _ known => .inl known⟩
    intro _ guarded
    have neutral (write : PendingWrite) (known : drive.pending = some write) : write.action = none :=
      guarded.of_inactive_action absent known
    refine ⟨?_, ?_, guarded.kind, guarded.sequence, surface guarded⟩
    · intro write action known same
      rw [neutral write known] at same
      cases same
    · intro write known same
      refine ⟨(guarded.release write known same).1, ?_⟩
      rintro ⟨action, pressed⟩
      exact waits guarded ⟨write, known, (guarded.kind_release known).mpr same⟩ action pressed
  | steady held next active id limits calm =>
    refine ⟨?_, le_refl _, counts, fun _ known => .inl known⟩
    intro _ guarded
    refine ⟨?_, ?_, guarded.kind, guarded.sequence, surface guarded⟩
    · intro write action known same
      obtain ⟨before, generation, activation, current, identity, amount⟩ := guarded.setpoint write action known same
      obtain rfl := Option.some.inj (active.symm.trans current)
      refine ⟨?_, follows.generation.trans generation, next, rfl, id.trans identity, by rw [limits]; exact amount⟩
      rcases calm with ⟨other, pressed, was⟩ | ⟨-, lifted | ⟨release, other, kind⟩⟩
      · rw [was] at before
        cases before
        exact pressed
      · exact absurd ⟨action, before⟩ lifted
      · obtain rfl := Option.some.inj (known.symm.trans other)
        rw [(guarded.kind_release known).mp kind] at same
        cases same
    · intro write known same
      refine ⟨(guarded.release write known same).1, ?_⟩
      rintro ⟨action, pressed⟩
      exact waits guarded ⟨write, known, (guarded.kind_release known).mpr same⟩ action pressed
  | pressed held next action after active limits phase prepares =>
    obtain ⟨sequence, counted, pending⟩ := prepares.carries
    refine ⟨?_, sequence, fun known => counts (counted known), pending⟩
    intro known guarded
    exact prepares.setpoint_guarded (counted known) rfl phase (surface guarded)
  | lifted held next after active lifted prepares =>
    obtain ⟨sequence, counted, pending⟩ := prepares.carries
    refine ⟨?_, sequence, fun known => counts (counted known), pending⟩
    intro known guarded
    exact prepares.guarded (counted known) nofun (surface guarded) ⟨rfl, fun ⟨action, contact⟩ => lifted action contact⟩

/-- An observation leaves an activation held only where it was held, or where every contact has just lifted under it. -/
theorem Answers.rearms (held : after.Held) :
    after.input.generation = drive.input.generation ∧ drive.activation.isSome = true ∧
      (drive.Held ∨ contacts = .released) := by
  have active : drive.activation.isSome = true := by
    cases answers with
    | inactive absent => exact held.1
    | steady before next active | pressed before next action after active | lifted before next after active =>
      rw [active]
      rfl
  have reached : after.input.generation = input.generation ∧ ∀ reason, input.phase ≠ .cancelled reason := by
    cases answers with
    | inactive | steady => exact ⟨rfl, held.2⟩
    | pressed _ _ _ _ _ _ _ prepares | lifted _ _ _ _ _ prepares =>
      obtain ⟨former, same⟩ := prepares.holds held
      exact ⟨same, former.2⟩
  refine ⟨reached.1.trans follows.generation, active, ?_⟩
  by_cases cancelled : ∃ reason, drive.input.phase = .cancelled reason
  · rcases follows.rearms cancelled with ⟨reason, still⟩ | lifted
    · exact absurd still (reached.2 reason)
    · exact .inr lifted
  · exact .inl ⟨active, fun reason same => cancelled ⟨reason, same⟩⟩

/-- A held contact that an observation ends leaves a neutral write. -/
theorem Answers.releases (guarded : drive.Guarded) (pressed : drive.Pressed) (active : drive.activation.isSome = true)
    (sequence : drive.nextSequence < u64Max) (counted : drive.input.generation.isSome = true)
    (clock : at_ + submissionWindow ≤ u64Max) : after.Pressed ∨ after.Neutral drive.nextSequence := by
  obtain ⟨generation, current⟩ := Option.isSome_iff_exists.mp counted
  have current : input.generation = some generation := follows.generation.trans current
  cases answers with
  | inactive absent =>
    rw [absent] at active
    cases active
  | steady held next active id limits calm =>
    rcases calm with ⟨action, still, -⟩ | ⟨-, lifted | ⟨write, known, kind⟩⟩
    · exact .inl ⟨action, still⟩
    · exact absurd pressed lifted
    · exact absurd pressed (guarded.release write known ((guarded.kind_release known).mp kind)).2
  | pressed held next action after active limits phase prepares =>
    left
    cases prepares with
    | exhausted full =>
      have : drive.nextSequence < u64Max := sequence
      rcases full with full | full
      · exact absurd (show u64Max ≤ drive.nextSequence from full) (Nat.not_le.mpr sequence)
      · exact absurd clock (Nat.not_le.mpr full)
    | inactive absent => cases absent
    | unidentified absent => cases current.symm.trans absent
    | prepared => exact ⟨action, phase⟩
  | lifted held next after active lifted prepares =>
    obtain ⟨-, write, known, kind, newer, -⟩ := prepares.neutral rfl sequence current clock
    exact .inr ⟨write, known, kind, newer⟩

end Answers

end Answering

structure Keeps (before after : DeviceConnectionSession) : Prop where
  carries : before.drive.Carries after.drive
  holds : before.drive.Holds after.drive

section Keeping
variable {before middle after : DeviceConnectionSession}

theorem Keeps.of_same (same : after.drive = before.drive) : Keeps before after := by
  refine ⟨?_, ?_⟩
  · rw [same]
    exact .refl _
  · rw [same]
    exact .refl _

theorem Keeps.trans (first : Keeps before middle) (last : Keeps middle after) : Keeps before after :=
  ⟨first.carries.trans last.carries, first.holds.trans last.holds⟩

end Keeping

theorem cancelPhoneDrive_leads (session : DeviceConnectionSession) (reason : PhoneDriveCancelReason) :
    Keeps session (session.cancelPhoneDrive reason) :=
  ⟨session.cancelPhoneDrive_carries reason, session.cancelPhoneDrive_holds reason⟩

theorem retired_keeps (reason : PhoneDriveCancelReason) (same : next.drive = { session.drive with
      pending := none, activation := none, input := session.drive.input.cancel reason })
    : Keeps session next := by
  refine ⟨?_, .of_inactive ?_⟩
  · rw [same]
    exact .retired _ _
  · rw [same]

section Session
variable (session : DeviceConnectionSession)

theorem dropUnsentRelease_keeps : Keeps session session.dropUnsentRelease := by
  unfold dropUnsentRelease
  split
  · exact retired_keeps .transportUnavailable rfl
  · exact .of_same rfl

theorem openActivation_keeps (limits : PhoneDriveLimits) (at_ : Nat) :
    Keeps session (session.openActivation limits at_).1 := by
  obtain ⟨reason, cancelled⟩ := session.drive.input.cancel_phase .activationChanged
  unfold openActivation
  split
  · exact .of_same rfl
  split
  · exact .of_same rfl
  split
  · exact .of_same rfl
  dsimp only
  split
  · next exhausted =>
    refine ⟨⟨?_, le_refl _, PhoneDriveInputState.cancel_counted, fun _ known => .inl known⟩, .of_cancelled cancelled⟩
    intro counted
    rw [Option.isNone_iff_eq_none] at exhausted
    have known : (session.phoneDriveInput.cancel .activationChanged).generation.isSome = true := counted
    rw [exhausted] at known
    cases known
  · refine ⟨⟨?_, le_refl _, PhoneDriveInputState.cancel_counted, nofun⟩, .of_cancelled cancelled⟩
    intro _ _
    exact (Drive.Idles.of_empty rfl).guarded (Drive.not_pressed_of_cancelled cancelled)

theorem activatePhoneDrive_keeps (token : ConnectionAttemptToken) (generation : Nat) (limits : PhoneDriveLimits)
    (at_ : Nat) : Keeps session (session.activatePhoneDrive token generation limits at_).1 := by
  rw [activatePhoneDrive_eq]
  iterate 9
    split
    · exact .of_same rfl
  exact session.dropUnsentRelease_keeps.trans (openActivation_keeps _ _ _)

theorem markPhoneDriveTransport_keeps (token : ConnectionAttemptToken) (write : PhoneDriveWrite)
    (status : ApplicationQueryTransportStatus) (at_ : Nat) :
    Keeps session (session.markPhoneDriveTransport token write status at_).1 := by
  have dropped (next : DeviceConnectionSession) (same : next.drive = { session.drive with pending := none }) :
      Keeps session next := by
    refine ⟨?_, ?_⟩
    · rw [same]
      exact .dropped _
    · rw [same]
      exact fun held => ⟨held, rfl⟩
  have cancelled := Keeps.trans (dropped { session with
      phoneDriveControl := { session.phoneDriveControl with pending := none }
      lastInputAt := max session.lastInputAt at_ } rfl) (cancelPhoneDrive_leads _ .transportUnavailable)
  unfold markPhoneDriveTransport
  dsimp only
  split
  · exact .of_same rfl
  split
  · exact .of_same rfl
  · exact dropped _ rfl
  all_goals
    split
    · exact cancelled
    · exact retired_keeps .transportUnavailable rfl

end Session

theorem setMode_keeps (mode : PhoneControlMode) (calm : session.phoneDriveInput.mode = mode ∨ ¬session.drive.Pressed)
    (same : next.drive = { session.drive with input := session.phoneDriveInput.setMode mode }) :
    Keeps session next := by
  rcases session.phoneDriveInput.setMode_eq mode with ⟨kept, -⟩ | ⟨changed, ⟨reason, cancelled⟩, counted⟩
  · refine .of_same ?_
    rw [same, kept]
    rfl
  by_cases unchanged : session.phoneDriveInput.mode = mode
  · refine .of_same ?_
    rw [same, PhoneDriveInputState.setMode, if_neg (not_not.mpr unchanged)]
    rfl
  have fresh : next.drive.input = session.phoneDriveInput.setMode mode := congrArg Drive.input same
  rw [← fresh] at cancelled counted
  refine ⟨⟨?_, ?_, counted, ?_⟩, .of_cancelled cancelled⟩
  · intro _ guarded
    refine Drive.Idles.guarded ⟨?_⟩ (Drive.not_pressed_of_cancelled cancelled)
    rw [same]
    exact (guarded.idles (.inl (calm.resolve_left unchanged))).neutral
  · rw [same]
  · rw [same]
    exact fun _ known => .inl known

section Session
variable (session : DeviceConnectionSession)

theorem cancelPhoneDrive_lifts (reason : PhoneDriveCancelReason) :
    ¬(session.cancelPhoneDrive reason).drive.Pressed := by
  obtain ⟨reason', cancelled⟩ := (session.cancelPhoneDrive_cancels reason).cancelled
  exact Drive.not_pressed_of_cancelled cancelled

theorem applyPhoneDrivePreferences_keeps (token : ConnectionAttemptToken) (mode : PhoneControlMode)
    (limits : PhoneDriveLimits) : Keeps session (session.applyPhoneDrivePreferences token mode limits).1 := by
  unfold applyPhoneDrivePreferences
  split
  · exact .of_same rfl
  dsimp only
  split
  · exact (session.cancelPhoneDrive_leads .modeChanged).trans
      (setMode_keeps mode (.inr (session.cancelPhoneDrive_lifts _)) rfl)
  next same =>
    split
    · exact (session.cancelPhoneDrive_leads .activationChanged).trans
        (setMode_keeps mode (.inr (session.cancelPhoneDrive_lifts _)) rfl)
    · exact setMode_keeps mode (.inl (not_not.mp same)) rfl

theorem setPhoneDriveSettingsPresented_keeps (token : ConnectionAttemptToken) (presented : Bool) :
    Keeps session (session.setPhoneDriveSettingsPresented token presented).1 := by
  unfold setPhoneDriveSettingsPresented
  split
  · exact .of_same rfl
  split
  · dsimp only
    split
    · obtain ⟨carries, holds⟩ := session.cancelPhoneDrive_leads .navigation
      exact ⟨carries, holds⟩
    · exact .of_same rfl
  split
  · exact .of_same rfl
  · exact .of_same rfl

theorem observePhoneDriveFault_keeps (faults : List Int) :
    Keeps session (session.observePhoneDriveFault faults) := by
  unfold observePhoneDriveFault
  induction faults generalizing session with
  | nil => exact .of_same rfl
  | cons fault faults ih =>
    refine .trans ?_ (ih _)
    have noted : Keeps session { session with phoneDriveControl :=
        { session.phoneDriveControl with controllerFault := decide (fault ≠ 0) } } := .of_same rfl
    have cancelled := noted.trans (cancelPhoneDrive_leads _ .controllerFault)
    dsimp only
    split
    · exact cancelled
    · exact noted

theorem absorb_keeps (device : DecoderView) (input : SessionInput) (answer : DecoderAnswer) :
    Keeps session (session.absorb device input answer) := by
  have taken : Keeps session { session with
    device := some answer.view
    settings := settle session.settings input answer session.lastInputAt } := .of_same rfl
  have noted := taken.trans (observePhoneDriveFault_keeps _ answer.faults)
  unfold absorb
  dsimp only
  split
  · exact noted.trans (cancelPhoneDrive_leads _ _)
  split
  · exact noted.trans (cancelPhoneDrive_leads _ _)
  · exact noted

theorem advanceTo_drive (time : Option Nat) : (session.advanceTo time).drive = session.drive := by
  cases time <;> rfl

theorem ingestValidated_keeps (token : ConnectionAttemptToken) (input : SessionInput) (answer : DecoderAnswer) :
    Keeps session (session.ingestValidated token input answer).1 := by
  rw [ingestValidated_eq]
  split
  · exact .of_same rfl
  have advanced : Keeps session (session.advanceTo input.time) := .of_same (session.advanceTo_drive _)
  split
  · exact advanced
  · exact advanced.trans (absorb_keeps _ _ _ _)

theorem ingest_keeps (token : ConnectionAttemptToken) (input : SessionInput) (answer : DecoderAnswer) :
    Keeps session (session.ingest token input answer).1 := by
  unfold ingest
  split
  · exact .of_same rfl
  · exact .of_same rfl
  · exact ingestValidated_keeps _ _ _ _

theorem submitAction_keeps (token : ConnectionAttemptToken) (at_ : Nat) (answer : DecoderAnswer) :
    Keeps session (session.submitAction token at_ answer).1 := by
  unfold submitAction
  split
  · exact .of_same rfl
  split
  · exact .of_same rfl
  · exact ingestValidated_keeps _ _ _ _

theorem submitSetting_keeps (token : ConnectionAttemptToken) (id : SettingId) (value : DeviceSettingValue) (at_ : Nat)
    (answer : DecoderAnswer) (bound : Option Nat × Nat) (boundView : DecoderView) :
    Keeps session (session.submitSetting token id value at_ answer bound boundView).1 := by
  have decoded := session.ingestValidated_keeps token (.commandAt false at_) answer
  unfold submitSetting
  split
  · exact .of_same rfl
  split
  · exact .of_same rfl
  split
  · exact .of_same rfl
  split
  · exact .of_same rfl
  split
  · exact .of_same rfl
  split
  · exact .of_same rfl
  dsimp only
  split
  · exact decoded
  · exact ⟨decoded.carries, decoded.holds⟩

theorem tickSettingTransport_drive (token : ConnectionAttemptToken) (at_ : Nat) (record : RecordTransport) :
    (session.tickSettingTransport token at_ record).1.drive = session.drive := by
  have all (expired : List (SettingId × Nat)) (session : DeviceConnectionSession) :
      (expired.foldl (expireOperation record) session).drive = session.drive := by
    induction expired generalizing session with
    | nil => rfl
    | cons first expired ih => exact ih _
  unfold tickSettingTransport
  split
  · rfl
  · exact all _ _

theorem markSettingTransport_drive (token : ConnectionAttemptToken) (id : SettingId) (requestId : Nat)
    (status : SettingTransportStatus) (at_ : Nat) (record : RecordTransport) :
    (session.markSettingTransport token id requestId status at_ record).1.drive = session.drive := by
  unfold markSettingTransport
  split
  · rfl
  split
  · dsimp only
    split
    · rfl
    split
    · split
      · rfl
      split
      · rfl
      split
      · split <;> rfl
      · rfl
    split
    · rfl
    split
    · split
      · rfl
      · split <;> rfl
    · split <;> rfl
  · rfl

theorem configureVehicleKind_keeps (token : ConnectionAttemptToken) (kind : VehicleKind) (view : DecoderView)
    (taken : Bool) : Keeps session (session.configureVehicleKind token kind view taken).1 := by
  have viewed : Keeps session { session with device := session.device.map fun _ => view } := .of_same rfl
  obtain ⟨carries, holds⟩ := viewed.trans (cancelPhoneDrive_leads _ .configurationChanged)
  unfold configureVehicleKind
  split
  · exact .of_same rfl
  split
  · exact .of_same rfl
  split
  · exact .of_same rfl
  dsimp only
  split
  · exact ⟨carries, holds⟩
  · exact .of_same rfl

theorem resolve_drive (token : ConnectionAttemptToken) (at_ : Nat) (resolution : Resolution) :
    (session.resolve token at_ resolution).drive = session.drive := by
  unfold resolve
  split
  · rfl
  dsimp only
  split
  · rfl
  split
  · rfl
  · split <;> rfl
  · rfl

theorem clearFailedDevice_drive : session.clearFailedDevice.drive = session.drive := by
  unfold clearFailedDevice
  split <;> rfl

theorem retireCurrent_keeps (token : ConnectionAttemptToken) : Keeps session (session.retireCurrent token) := by
  unfold retireCurrent
  split
  · exact session.cancelPhoneDrive_leads _
  · exact .of_same rfl

theorem protocolConflict_keeps (token : ConnectionAttemptToken) :
    Keeps session (session.protocolConflict token).1 := by
  have cancelled := cancelPhoneDrive_leads { session with connection := (session.connection.conflict token).1 }
    .connectionChanged
  unfold protocolConflict
  dsimp only
  split
  · exact .of_same rfl
  · exact ⟨cancelled.carries, cancelled.holds⟩

theorem admitRetry_keeps (retry at_ : Nat) : Keeps session (session.admitRetry retry at_).1 := by
  have cancelled := cancelPhoneDrive_leads { session with connection := (session.connection.admitRetry retry at_).1 }
    .connectionChanged
  unfold admitRetry
  dsimp only
  split
  · exact .of_same rfl
  · exact ⟨cancelled.carries, cancelled.holds⟩

end Session

def emitted : SessionReply → Option EmittedWrite
  | .drive (some write) => write
  | _ => none

theorem emitted_join (reply : Option (Option EmittedWrite)) : emitted (.drive reply) = reply.join := by
  cases reply <;> rfl

/-- The bytes of a write are those of the pending write it stands for. -/
def Carried (drive : Drive) (write : EmittedWrite) : Prop :=
  ∃ pending, drive.pending = some pending ∧ pending.admission = write.admission ∧
    encodePhoneDriveCurrent pending.action pending.milliamps = some write.bytes

def Lifts : SessionCall → Prop
  | .observePhoneDriveContactsAt _ _ .released _ _ => True
  | _ => False

structure Turns (before : DeviceConnectionSession) (call : SessionCall) (after : DeviceConnectionSession)
    (write : Option EmittedWrite) : Prop where
  drives : Drives before after write
  carried : ∀ sent, write = some sent → Carried after.drive sent
  rearms : after.drive.Held → after.drive.input.generation = before.drive.input.generation ∧
    before.drive.activation.isSome = true ∧ (before.drive.Held ∨ Lifts call)

theorem Keeps.turns {before after : DeviceConnectionSession} (keeps : Keeps before after) (call : SessionCall) :
    Turns before call after none := by
  refine ⟨⟨_, keeps.carries, rfl⟩, nofun, ?_⟩
  intro held
  obtain ⟨former, same⟩ := keeps.holds held
  exact ⟨same, former.1, .inl former⟩

theorem emitPhoneDrive_carried (session : DeviceConnectionSession) (token : ConnectionAttemptToken) (at_ : Nat)
    (canSubmit : Bool) (write : EmittedWrite) (sent : (session.emitPhoneDrive token at_ canSubmit).2.join = some write) :
    Carried (session.emitPhoneDrive token at_ canSubmit).1.drive write := by
  unfold emitPhoneDrive appendPhoneDriveWrite at *
  dsimp only at *
  split at sent
  · next ready =>
    rw [if_pos ready]
    split at sent
    · cases sent
    · next pending known =>
      split at sent
      · cases sent
      · next fresh =>
        split at sent
        · cases sent
        · next bytes encoded =>
          cases sent
          simp only [if_neg fresh]
          exact ⟨_, rfl, rfl, encoded⟩
  · cases sent

theorem tickPhoneDrive_turns (session : DeviceConnectionSession) (token : ConnectionAttemptToken) (at_ : Nat)
    (canSubmit : Bool) (call : SessionCall) :
    Turns session call (session.tickPhoneDrive token at_ canSubmit).1
      (emitted (.drive (session.tickPhoneDrive token at_ canSubmit).2)) := by
  rcases session.tickPhoneDrive_cases token at_ canSubmit with same | ⟨middle, ticks, same, -⟩
  · rw [same]
    exact (Keeps.of_same rfl).turns call
  · have finishes := middle.emitPhoneDrive_finishes token (max at_ session.lastInputAt) canSubmit
    have carried := middle.emitPhoneDrive_carried token (max at_ session.lastInputAt) canSubmit
    rw [same]
    rw [emitted_join]
    refine ⟨finishes.drives ticks.carries ticks.clock, carried, ?_⟩
    intro held
    obtain ⟨former, same⟩ := ticks.holds.trans finishes.holds held
    exact ⟨same, former.1, .inl former⟩

/-- The drive behind contacts that are taken, before the write goes out. -/
theorem takenContacts (current : session.drive.input.generation = some generation) (contacts : PhoneDriveContacts)
    (observedAt at_ : Nat) : ∃ input, PhoneDriveInputState.Follows contacts session.drive.input input ∧
      Answers session.drive input at_ ((({ session with lastInputAt := at_ }.observeGesture generation contacts
        ).followGesture session.phoneDriveInput.phase observedAt at_).drive) ∧
      (session.drive.Guarded → (∃ write, session.drive.pending = some write ∧ write.admission.kind = .release) →
        ∀ action, input.phase ≠ .pressed action) := by
  obtain ⟨input, follows, same, waits⟩ := @observeGesture_follows { session with lastInputAt := at_ } _ current contacts
  refine ⟨input, follows, @followGesture_answers _ session.drive _ _ same follows observedAt at_, ?_⟩
  intro guarded waiting
  exact waits guarded (hasPendingRelease_iff.mpr waiting)

theorem observePhoneDriveContactsAt_turns (session : DeviceConnectionSession) (token : ConnectionAttemptToken)
    (generation : Nat) (contacts : PhoneDriveContacts) (observedAt at_ : Nat) :
    Turns session (.observePhoneDriveContactsAt token generation contacts observedAt at_)
      (session.observePhoneDriveContactsAt token generation contacts observedAt at_).1
      (emitted (.drive (session.observePhoneDriveContactsAt token generation contacts observedAt at_).2)) := by
  unfold observePhoneDriveContactsAt
  split
  · exact (Keeps.of_same rfl).turns _
  split
  · exact (Keeps.of_same rfl).turns _
  split
  · have stepped : Keeps session (session.phoneDriveStep token (max at_ session.lastInputAt)).1 := by
      refine .of_same ?_
      unfold phoneDriveStep
      split <;> rfl
    dsimp only
    split
    · exact stepped.turns _
    · exact stepped.turns _
  next same =>
    split
    · have cancelled := session.cancelPhoneDrive_leads .inputExpired
      obtain ⟨⟨middle, carries, sent⟩, carried, rearms⟩ := (session.cancelPhoneDrive .inputExpired).tickPhoneDrive_turns
        token (max session.lastInputAt at_) true (.tickPhoneDrive token (max session.lastInputAt at_) true)
      refine ⟨⟨middle, cancelled.carries.trans carries, sent⟩, carried, ?_⟩
      intro held
      obtain ⟨same, -, former | lifted⟩ := rearms held
      · obtain ⟨former, same'⟩ := cancelled.holds former
        exact ⟨same.trans same', former.1, .inl former⟩
      · exact lifted.elim
    · have current : session.drive.input.generation = some generation := not_not.mp same
      obtain ⟨input, follows, answers, waits⟩ := takenContacts current contacts observedAt at_
      have clock : ({ session with lastInputAt := at_ }.observeGesture generation contacts
          |>.followGesture session.phoneDriveInput.phase observedAt at_).lastInputAt ≤ at_ :=
        Nat.le_of_eq ((followGesture_only _ _ _ _).2.trans (observeGesture_only _ _ _).2)
      dsimp only
      generalize ({ session with lastInputAt := at_ }.observeGesture generation contacts
        |>.followGesture session.phoneDriveInput.phase observedAt at_) = next at answers clock ⊢
      have finishes := next.emitPhoneDrive_finishes token at_ true
      have carried := next.emitPhoneDrive_carried token at_ true
      rw [emitted_join]
      refine ⟨finishes.drives (answers.carries follows waits) clock, carried, ?_⟩
      intro held
      obtain ⟨former, same⟩ := finishes.holds held
      obtain ⟨same', active, before | lifted⟩ := answers.rearms follows former
      · exact ⟨same.trans same', active, .inl before⟩
      · subst lifted
        exact ⟨same.trans same', active, .inr trivial⟩

/-- Every call but contacts and ticks leaves the drive to cancellations and receipts. -/
theorem step_keeps (session : DeviceConnectionSession) (call : SessionCall) :
    (Keeps session (session.step call).1 ∧ emitted (session.step call).2 = none) ∨
      Turns session call (session.step call).1 (emitted (session.step call).2) := by
  cases call with
  | beginAttempt platformIdentifier at_ =>
    obtain ⟨carries, holds⟩ := session.cancelPhoneDrive_leads .connectionChanged
    exact .inl ⟨⟨carries, holds⟩, rfl⟩
  | admitRetry retry at_ => exact .inl ⟨session.admitRetry_keeps retry at_, rfl⟩
  | requestRetry | cancelRetry | connected | expire => exact .inl ⟨.of_same rfl, rfl⟩
  | resolve token at_ resolution => exact .inl ⟨.of_same (session.resolve_drive token at_ resolution), rfl⟩
  | disconnect =>
    obtain ⟨carries, holds⟩ := session.cancelPhoneDrive_leads .connectionChanged
    exact .inl ⟨⟨carries, holds⟩, rfl⟩
  | linkDown token | transportFailed token =>
    obtain ⟨carries, holds⟩ := session.retireCurrent_keeps token
    refine .inl ⟨.trans ⟨carries, holds⟩ (.of_same ?_), rfl⟩
    exact clearFailedDevice_drive _
  | protocolConflict token => exact .inl ⟨session.protocolConflict_keeps token, rfl⟩
  | configureVehicleKind token kind view taken => exact .inl ⟨session.configureVehicleKind_keeps token kind view taken, rfl⟩
  | authorizeValidation token =>
    refine .inl ⟨.of_same ?_, rfl⟩
    show (session.authorizeValidation token).1.drive = session.drive
    unfold authorizeValidation
    split <;> rfl
  | revokeValidation token =>
    refine .inl ⟨.of_same ?_, rfl⟩
    show (session.revokeValidation token).1.drive = session.drive
    unfold revokeValidation
    split <;> rfl
  | decoder | requireManagedTransport | submissionElsewhere => exact .inl ⟨.of_same rfl, rfl⟩
  | ingest token input answer => exact .inl ⟨session.ingest_keeps token input answer, rfl⟩
  | submitAction token at_ answer => exact .inl ⟨session.submitAction_keeps token at_ answer, rfl⟩
  | submitSetting token id value at_ answer bound boundView =>
    exact .inl ⟨session.submitSetting_keeps token id value at_ answer bound boundView, rfl⟩
  | tickSettingTransport token at_ record =>
    exact .inl ⟨.of_same (session.tickSettingTransport_drive token at_ record), rfl⟩
  | markSettingTransport token id requestId status at_ record =>
    exact .inl ⟨.of_same (session.markSettingTransport_drive token id requestId status at_ record), rfl⟩
  | markSettingReadTransport token at_ view accepted =>
    refine .inl ⟨.of_same ?_, rfl⟩
    show (session.markSettingReadTransport token at_ view accepted).1.drive = session.drive
    unfold markSettingReadTransport
    split
    · rfl
    · dsimp only
      split <;> rfl
  | activatePhoneDrive token generation limits at_ =>
    exact .inl ⟨session.activatePhoneDrive_keeps token generation limits at_, rfl⟩
  | observePhoneDriveContactsAt token generation contacts observedAt at_ =>
    exact .inr (session.observePhoneDriveContactsAt_turns token generation contacts observedAt at_)
  | tickPhoneDrive token at_ canSubmit => exact .inr (session.tickPhoneDrive_turns token at_ canSubmit _)
  | markPhoneDriveTransport token write status at_ =>
    exact .inl ⟨session.markPhoneDriveTransport_keeps token write status at_, rfl⟩
  | cancelPhoneDrive reason => exact .inl ⟨session.cancelPhoneDrive_leads reason, rfl⟩
  | cancelPhoneDriveAt reason at_ =>
    obtain ⟨carries, holds⟩ := cancelPhoneDrive_leads { session with lastInputAt := max session.lastInputAt at_ } reason
    exact .inl ⟨⟨carries, holds⟩, rfl⟩
  | applyPhoneDrivePreferences token mode limits =>
    exact .inl ⟨session.applyPhoneDrivePreferences_keeps token mode limits, rfl⟩
  | setPhoneDriveSettingsPresented token presented =>
    exact .inl ⟨session.setPhoneDriveSettingsPresented_keeps token presented, rfl⟩

theorem step_turns (session : DeviceConnectionSession) (call : SessionCall) :
    Turns session call (session.step call).1 (emitted (session.step call).2) := by
  rcases session.step_keeps call with ⟨keeps, silent⟩ | turns
  · rw [silent]
    exact keeps.turns call
  · exact turns

theorem Drives.counted {before after : DeviceConnectionSession} (drives : Drives before after write)
    (counted : after.drive.input.generation.isSome = true) : before.drive.input.generation.isSome = true := by
  obtain ⟨middle, carries, sent⟩ := drives
  refine carries.counted ?_
  cases write with
  | none => rwa [← sent]
  | some write =>
    obtain ⟨⟨pending, -, -, -, same⟩, -⟩ := sent
    rwa [same] at counted

theorem Drives.guarded {before after : DeviceConnectionSession} (drives : Drives before after write)
    (counted : after.drive.input.generation.isSome = true) (guarded : before.drive.Guarded) : after.drive.Guarded := by
  obtain ⟨middle, carries, sent⟩ := drives
  cases write with
  | none =>
    rw [sent] at counted ⊢
    exact carries.guarded counted guarded
  | some write =>
    obtain ⟨emits, -⟩ := sent
    refine emits.guarded (carries.guarded ?_ guarded)
    obtain ⟨pending, -, -, -, same⟩ := emits
    rwa [same] at counted

theorem initial_guarded : (DeviceConnectionSession.drive {}).Guarded :=
  (Drive.Idles.of_empty rfl).guarded fun ⟨_, pressed⟩ => nomatch pressed

abbrev Past := List (Step DeviceConnectionSession SessionCall SessionReply)

def writes (past : Past) : List EmittedWrite := past.filterMap fun here => emitted here.output

theorem writes_snoc (past : Past) (here : Step DeviceConnectionSession SessionCall SessionReply) :
    writes (past ++ [here]) = writes past ++ (emitted here.output).toList := by
  cases known : emitted here.output <;> simp [writes, known]

/-- The motor command of a write fits the gesture and the activation it is sent under. -/
def Commands (drive : Drive) (write : EmittedWrite) : Prop :=
  match write.admission.kind with
  | .setpoint => ∃ action activation, drive.input.phase = .pressed action ∧
      drive.input.generation = some write.admission.generation ∧ drive.activation = some activation ∧
      activation.id = write.admission.activationId ∧
      encodePhoneDriveCurrent (some action) (activation.limits.of action) = some write.bytes
  | .release => ¬drive.Pressed ∧ encodePhoneDriveCurrent none 0 = some write.bytes

theorem Carried.commands {drive : Drive} {write : EmittedWrite} (carried : Carried drive write) (guarded : drive.Guarded) :
    Commands drive write := by
  obtain ⟨pending, known, same, encoded⟩ := carried
  have kind := guarded.kind pending known
  unfold Commands
  rw [← same, kind]
  cases action : pending.action with
  | none =>
    rw [action] at encoded
    obtain ⟨silent, lifted⟩ := guarded.release pending known action
    rw [silent] at encoded
    exact ⟨lifted, encoded⟩
  | some action' =>
    rw [action] at encoded
    obtain ⟨pressed, generation, activation, active, identity, amount⟩ := guarded.setpoint pending action' known action
    rw [amount] at encoded
    exact ⟨action', activation, pressed, generation, active, identity, encoded⟩

/-- The writes of a run went out in order, and a pending write that did not go out is newer than all of them. -/
structure Ordered (past : Past) (session : DeviceConnectionSession) : Prop where
  ascending : (writes past).Pairwise fun first second => first.admission.sequence < second.admission.sequence
  issued : ∀ write ∈ writes past, write.admission.sequence ≤ session.drive.nextSequence
  fresh : ∀ write ∈ writes past, ∀ pending, session.drive.pending = some pending → pending.emitted = false →
    write.admission.sequence < pending.admission.sequence

theorem Ordered.extend {past : Past} (ordered : Ordered past session) (guarded : session.drive.Guarded) (call : SessionCall)
    (counted : (session.step call).1.drive.input.generation.isSome = true) :
    Ordered (past ++ [Runs.take step session call]) (session.step call).1 := by
  obtain ⟨middle, carries, sent⟩ := (session.step_turns call).drives
  have fresh : ∀ write ∈ writes past, ∀ pending, middle.pending = some pending → pending.emitted = false →
      write.admission.sequence < pending.admission.sequence := by
    intro write member pending known unsent
    rcases carries.pending pending known with old | ⟨newer, -⟩
    · exact ordered.fresh write member pending old unsent
    · exact (ordered.issued write member).trans_lt newer
  have issued : ∀ write ∈ writes past, write.admission.sequence ≤ middle.nextSequence :=
    fun write member => (ordered.issued write member).trans carries.sequence
  cases output : emitted (session.step call).2 with
  | none =>
    rw [output] at sent
    have silent : emitted (Runs.take step session call).output = none := output
    have kept : writes (past ++ [Runs.take step session call]) = writes past := by
      rw [writes_snoc, silent, Option.toList_none, List.append_nil]
    refine ⟨kept ▸ ordered.ascending, ?_, ?_⟩
    · rw [kept, sent]
      exact issued
    · rw [kept, sent]
      exact fresh
  | some write =>
    rw [output] at sent
    obtain ⟨⟨pending, known, unsent, same, after⟩, -⟩ := sent
    have said : emitted (Runs.take step session call).output = some write := output
    have fits : middle.Guarded := by
      refine carries.guarded ?_ guarded
      rwa [after] at counted
    have grown : writes (past ++ [Runs.take step session call]) = writes past ++ [write] := by
      rw [writes_snoc, said, Option.toList_some]
    refine ⟨?_, ?_, ?_⟩
    · rw [grown]
      refine List.pairwise_append.mpr ⟨ordered.ascending, List.pairwise_singleton _ _, ?_⟩
      intro earlier member last here
      rw [List.mem_singleton.mp here, ← same]
      exact fresh earlier member pending known unsent
    · rw [grown, after]
      intro other member
      rcases List.mem_append.mp member with before | last
      · exact issued other before
      · rw [List.mem_singleton.mp last, ← same]
        exact fits.sequence pending known
    · rw [after]
      intro other _ again held unmarked
      cases held
      cases unmarked

theorem initial_ordered : Ordered [] {} :=
  ⟨.nil, fun _ member => absurd member List.not_mem_nil, fun _ member => absurd member List.not_mem_nil⟩

def Fitting (past : Past) : Prop :=
  ∀ here ∈ past, ∀ write, emitted here.output = some write →
    here.after.lastInputAt < write.admission.submitBefore ∧ Commands here.after.drive write

theorem Fitting.extend {past : Past} (fitting : Fitting past) (guarded : session.drive.Guarded) (call : SessionCall)
    (counted : (session.step call).1.drive.input.generation.isSome = true) :
    Fitting (past ++ [Runs.take step session call]) := by
  intro here member write said
  rcases List.mem_append.mp member with before | last
  · exact fitting here before write said
  · obtain rfl := List.mem_singleton.mp last
    have turns := session.step_turns call
    have sent : emitted (session.step call).2 = some write := said
    rw [sent] at turns
    refine ⟨?_, (turns.carried write rfl).commands (turns.drives.guarded counted guarded)⟩
    obtain ⟨middle, -, -, early⟩ := turns.drives
    exact early

theorem run_commands (counted : (Runs.final step {} calls).drive.input.generation.isSome = true) :
    (Runs.final step {} calls).drive.Guarded ∧ Ordered (Runs.history step {} calls) (Runs.final step {} calls) ∧
      Fitting (Runs.history step {} calls) := by
  revert counted
  refine Runs.induction_on (P := fun past session => session.drive.input.generation.isSome = true →
    session.drive.Guarded ∧ Ordered past session ∧ Fitting past) ?_ ?_ calls
  · exact fun _ => ⟨initial_guarded, initial_ordered, fun _ member => absurd member List.not_mem_nil⟩
  · intro past session call known counted
    have drives := (session.step_turns call).drives
    obtain ⟨guarded, ordered, fitting⟩ := known (drives.counted counted)
    exact ⟨drives.guarded counted guarded, ordered.extend guarded call counted, fitting.extend guarded call counted⟩

/-- The motor commands of a run: while the generations of input last, the writes go out in strictly
increasing order, each before its deadline; a setpoint goes out for the pressed action, at the limit of the
activation it names, and any other write asks for no current while nothing is pressed. -/
theorem motor_commands_fit_the_gesture (calls : List SessionCall)
    (counted : (Runs.final step {} calls).drive.input.generation.isSome = true) :
    ((writes (Runs.history step {} calls)).Pairwise fun first second =>
        first.admission.sequence < second.admission.sequence) ∧
      Fitting (Runs.history step {} calls) := by
  obtain ⟨-, ordered, fitting⟩ := run_commands calls counted
  exact ⟨ordered.ascending, fitting⟩

/-- A board is ready, its phone control is activated, and every contact has lifted. -/
def readyBoardCalls : List SessionCall :=
  [.beginAttempt "board" 0, .connected ⟨1, "board"⟩, .resolve ⟨1, "board"⟩ 100 (.decoder skateboardView),
    .applyPhoneDrivePreferences ⟨1, "board"⟩ .buttons default,
    .observePhoneDriveContactsAt ⟨1, "board"⟩ 4 .released 200 200, .activatePhoneDrive ⟨1, "board"⟩ 4 default 300,
    .observePhoneDriveContactsAt ⟨1, "board"⟩ 5 .released 350 350]

def throttleContact : SessionCall := .observePhoneDriveContactsAt ⟨1, "board"⟩ 5 (.single 1 (some .throttle)) 400 400

theorem throttle_command_fits : Fitting (Runs.history step {} (readyBoardCalls ++ [throttleContact])) :=
  (motor_commands_fit_the_gesture (readyBoardCalls ++ [throttleContact]) rfl).2

def HeldUnder (generation : Option Nat) (here : Step DeviceConnectionSession SessionCall SessionReply) : Prop :=
  here.after.drive.Held ∧ here.after.drive.input.generation = generation

/-- Every contact of the surface lifted under a live activation, and the gesture was ready behind it. -/
def Rearmed (generation : Option Nat) (here : Step DeviceConnectionSession SessionCall SessionReply) : Prop :=
  Lifts here.input ∧ here.before.drive.activation.isSome = true ∧ HeldUnder generation here

theorem run_rearmed (held : (Runs.final step {} calls).drive.Held) :
    Since (HeldUnder (Runs.final step {} calls).drive.input.generation)
      (Rearmed (Runs.final step {} calls).drive.input.generation) (Runs.history step {} calls) := by
  revert held
  refine Runs.induction_on (P := fun past session => session.drive.Held →
    Since (HeldUnder session.drive.input.generation) (Rearmed session.drive.input.generation) past) ?_ ?_ calls
  · rintro ⟨active, -⟩
    cases active
  · intro past session call known held
    obtain ⟨same, active, before | lifts⟩ := (session.step_turns call).rearms held
    · have since := known before
      rw [← same] at since
      exact since.later ⟨held, rfl⟩
    · exact .now ⟨lifts, active, held, rfl⟩

/-- A setpoint goes out only while its contact has stayed held, under one generation of input, since every
contact of the surface had lifted under the live activation: a cancelled gesture moves the motor again only
after the surface was seen released. -/
theorem setpoints_follow_a_released_surface (calls : List SessionCall)
    (counted : (Runs.final step {} calls).drive.input.generation.isSome = true)
    {past later : Past} {here : Step DeviceConnectionSession SessionCall SessionReply}
    (split : Runs.history step {} calls = past ++ here :: later) {write : EmittedWrite}
    (sent : emitted here.output = some write) (setpoint : write.admission.kind = .setpoint) :
    Since (HeldUnder (some write.admission.generation)) (Rearmed (some write.admission.generation)) (past ++ [here]) := by
  have member : here ∈ Runs.history step {} calls := by
    rw [split]
    exact List.mem_append_right _ List.mem_cons_self
  have commands := ((run_commands calls counted).2.2 here member write sent).2
  unfold Commands at commands
  rw [setpoint] at commands
  obtain ⟨action, activation, pressed, generation, active, -⟩ := commands
  obtain ⟨first, last, rfl, rfl, same, -⟩ := Runs.history_split split
  have reached : Runs.final step {} (first ++ [here.input]) = here.after := by
    rw [Runs.final_append, same]
    rfl
  have whole : Runs.history step {} (first ++ [here.input]) = Runs.history step {} first ++ [here] := by
    rw [Runs.history_snoc, ← same]
  have held : here.after.drive.Held := by
    refine ⟨by rw [active]; rfl, ?_⟩
    intro reason cancelled
    rw [pressed] at cancelled
    cases cancelled
  rw [← reached] at held generation
  have rearmed := run_rearmed (first ++ [here.input]) held
  rwa [generation, whole] at rearmed

theorem throttle_follows_a_released_surface :
    Since (HeldUnder (some 5)) (Rearmed (some 5)) (Runs.history step {} readyBoardCalls ++
      [Runs.take step (Runs.final step {} readyBoardCalls) throttleContact]) :=
  @setpoints_follow_a_released_surface (readyBoardCalls ++ [throttleContact]) rfl _ [] _
    (Runs.history_snoc step {} readyBoardCalls throttleContact) ⟨⟨1, 1, 5, 450, .setpoint⟩, _⟩ rfl rfl

def ChangesConnection : SessionCall → Prop
  | .beginAttempt _ _ | .admitRetry _ _ | .disconnect | .linkDown _ | .transportFailed _ | .protocolConflict _
  | .cancelPhoneDrive .connectionChanged | .cancelPhoneDriveAt .connectionChanged _ | .ingest _ .linkDown _ => True
  | _ => False

/-- Refused contacts that arrive when a neutral write of the latest input would be past its deadline. -/
def Stale (session : DeviceConnectionSession) : SessionCall → Prop
  | .observePhoneDriveContactsAt _ _ _ observedAt at_ =>
    session.refusesContacts observedAt at_ = true ∧ session.lastInputAt + submissionWindow ≤ at_
  | _ => False

def callTime : SessionCall → Option Nat
  | .ingest _ input _ => input.time
  | .submitAction _ at_ _ | .submitSetting _ _ _ at_ _ _ _ | .observePhoneDriveContactsAt _ _ _ _ at_
  | .tickPhoneDrive _ at_ _ | .markPhoneDriveTransport _ _ _ at_ | .cancelPhoneDriveAt _ at_ => some at_
  | _ => none

/-- A contact is held under a live activation, with room to end it, or its neutral write is already pending. -/
def Safe (base : Nat) (session : DeviceConnectionSession) : Prop :=
  (session.drive.Pressed ∧ session.drive.activation.isSome = true ∧ session.drive.Guarded ∧ session.Room ∧
    session.drive.nextSequence = base) ∨ session.drive.Neutral base

section Releasing
variable {base : Nat} {before after : DeviceConnectionSession}

theorem Safe.released (safe : Safe base after) : after.drive.Pressed ∨ after.drive.Neutral base :=
  safe.imp_left fun held => held.1

/-- The clock of a safe session may move on, as long as it leaves room. -/
theorem Safe.timed (safe : Safe base before) (same : after.drive = before.drive)
    (clock : before.lastInputAt + submissionWindow ≤ u64Max → after.lastInputAt + submissionWindow ≤ u64Max) :
    Safe base after := by
  rcases safe with ⟨pressed, active, guarded, room, counter⟩ | neutral
  · refine .inl ?_
    rw [same]
    refine ⟨pressed, active, guarded, ⟨?_, ?_, clock room.clock⟩, counter⟩
    · rw [same]
      exact room.sequence
    · rw [same]
      exact room.generation
  · refine .inr ?_
    rw [same]
    exact neutral

theorem Safe.cancel (safe : Safe base session) (reason : PhoneDriveCancelReason) (lasting : reason ≠ .connectionChanged) :
    Safe base (session.cancelPhoneDrive reason) := by
  rcases safe with ⟨pressed, active, guarded, room, rfl⟩ | ⟨write, known, release, newer⟩
  · obtain ⟨write, known, release, newer, -⟩ := session.cancelPhoneDrive_neutral reason lasting room guarded pressed active
    exact .inr ⟨write, known, release, newer⟩
  · exact .inr ⟨write, cancelPhoneDrive_keeps lasting known release, release, newer⟩

/-- Nothing but the gesture of a session with a pending neutral write changes. -/
theorem Safe.of_neutral (neutral : before.drive.Neutral base) (same : after.drive.pending = before.drive.pending) :
    Safe base after := by
  obtain ⟨write, known, release, newer⟩ := neutral
  exact .inr ⟨write, same.trans known, release, newer⟩

section Safe
variable (safe : Safe base session)
include safe

theorem Safe.observePhoneDriveFault (faults : List Int) : Safe base (session.observePhoneDriveFault faults) := by
  unfold DeviceConnectionSession.observePhoneDriveFault
  induction faults generalizing session with
  | nil => exact safe
  | cons fault faults ih =>
    refine ih ?_
    have noted : Safe base { session with phoneDriveControl :=
        { session.phoneDriveControl with controllerFault := decide (fault ≠ 0) } } := safe.timed rfl id
    dsimp only
    split
    · exact noted.cancel _ nofun
    · exact noted

theorem Safe.absorb (device : DecoderView) {input : SessionInput} (answer : DecoderAnswer)
    (connected : input ≠ .linkDown) : Safe base (session.absorb device input answer) := by
  have taken : Safe base { session with
    device := some answer.view
    settings := settle session.settings input answer session.lastInputAt } := safe.timed rfl id
  have noted := taken.observePhoneDriveFault answer.faults
  unfold DeviceConnectionSession.absorb
  dsimp only
  rw [if_neg connected]
  split
  · exact noted.cancel _ nofun
  · exact noted

theorem Safe.ingestValidated (token : ConnectionAttemptToken) (input : SessionInput) (answer : DecoderAnswer)
    (connected : input ≠ .linkDown) (clock : ∀ time ∈ input.time, time + submissionWindow ≤ u64Max) :
    Safe base (session.ingestValidated token input answer).1 := by
  rw [ingestValidated_eq]
  split
  · exact safe
  have advanced : Safe base (session.advanceTo input.time) := by
    refine safe.timed (session.advanceTo_drive _) ?_
    cases known : input.time with
    | none => exact id
    | some time =>
      have := clock time known
      intro room
      show max session.lastInputAt time + submissionWindow ≤ u64Max
      omega
  split
  · exact advanced
  · exact advanced.absorb _ _ connected

theorem Safe.ingest (token : ConnectionAttemptToken) {input : SessionInput} (answer : DecoderAnswer)
    (connected : input ≠ .linkDown) (clock : ∀ time ∈ input.time, time + submissionWindow ≤ u64Max) :
    Safe base (session.ingest token input answer).1 := by
  unfold DeviceConnectionSession.ingest
  split
  · exact safe
  · exact safe
  · exact safe.ingestValidated token _ answer connected clock

theorem Safe.submitAction (token : ConnectionAttemptToken) (answer : DecoderAnswer)
    (clock : at_ + submissionWindow ≤ u64Max) : Safe base (session.submitAction token at_ answer).1 := by
  unfold DeviceConnectionSession.submitAction
  split
  · exact safe
  split
  · exact safe
  · exact safe.ingestValidated token _ answer nofun fun _ known => Option.some.inj known ▸ clock

theorem Safe.submitSetting (token : ConnectionAttemptToken) (id : SettingId) (value : DeviceSettingValue)
    (answer : DecoderAnswer) (bound : Option Nat × Nat) (boundView : DecoderView)
    (clock : at_ + submissionWindow ≤ u64Max) :
    Safe base (session.submitSetting token id value at_ answer bound boundView).1 := by
  have decoded := safe.ingestValidated token (.commandAt false at_) answer nofun
    fun _ known => Option.some.inj known ▸ clock
  unfold DeviceConnectionSession.submitSetting
  split
  · exact safe
  split
  · exact safe
  split
  · exact safe
  split
  · exact safe
  split
  · exact safe
  split
  · exact safe
  dsimp only
  split
  · exact decoded
  · exact decoded.timed rfl fun room => room

theorem Safe.configureVehicleKind (token : ConnectionAttemptToken) (kind : VehicleKind) (view : DecoderView)
    (taken : Bool) : Safe base (session.configureVehicleKind token kind view taken).1 := by
  have viewed : Safe base { session with device := session.device.map fun _ => view } := safe.timed rfl id
  have cancelled := viewed.cancel .configurationChanged nofun
  unfold DeviceConnectionSession.configureVehicleKind
  split
  · exact safe
  split
  · exact safe
  split
  · exact safe
  dsimp only
  split
  · exact cancelled.timed rfl id
  · exact safe.timed rfl id

theorem Safe.applyPhoneDrivePreferences (token : ConnectionAttemptToken) (mode : PhoneControlMode)
    (limits : PhoneDriveLimits) : Safe base (session.applyPhoneDrivePreferences token mode limits).1 := by
  have neutral (reason : PhoneDriveCancelReason) (lasting : reason ≠ .connectionChanged) :
      (session.cancelPhoneDrive reason).drive.Neutral base :=
    (safe.cancel _ lasting).released.resolve_left (session.cancelPhoneDrive_lifts reason)
  unfold DeviceConnectionSession.applyPhoneDrivePreferences
  split
  · exact safe
  dsimp only
  split
  · exact .of_neutral (neutral .modeChanged nofun) rfl
  next same =>
    split
    · exact .of_neutral (neutral .activationChanged nofun) rfl
    · refine safe.timed ?_ id
      show Drive.mk (session.phoneDriveInput.setMode mode) _ _ _ = session.drive
      rw [PhoneDriveInputState.setMode, if_neg same]
      rfl

theorem Safe.setPhoneDriveSettingsPresented (token : ConnectionAttemptToken) (presented : Bool) :
    Safe base (session.setPhoneDriveSettingsPresented token presented).1 := by
  have cancelled := safe.cancel .navigation nofun
  unfold DeviceConnectionSession.setPhoneDriveSettingsPresented
  split
  · exact safe
  split
  · dsimp only
    split
    · exact cancelled.timed rfl id
    · exact safe
  split
  · exact safe.timed rfl id
  · exact safe

end Safe

end Releasing

/-- A contact that is held keeps its activation from being replaced. -/
theorem activatePhoneDrive_pressed (token : ConnectionAttemptToken) (generation : Nat) (limits : PhoneDriveLimits)
    (at_ : Nat) (guarded : session.drive.Guarded) (pressed : session.drive.Pressed) :
    (session.activatePhoneDrive token generation limits at_).1 = session := by
  have unreleased : ¬session.hasPendingRelease = true := by
    intro waiting
    obtain ⟨write, known, kind⟩ := hasPendingRelease_iff.mp waiting
    exact (guarded.release write known ((guarded.kind_release known).mp kind)).2 pressed
  obtain ⟨action, held⟩ := pressed
  have busy : session.phoneDriveInput.phase ≠ .idle := by
    intro idle
    rw [show session.phoneDriveInput.phase = .pressed action from held] at idle
    cases idle
  rw [activatePhoneDrive_eq]
  iterate 9
    split
    · rfl
  rw [dropUnsentRelease, if_neg unreleased, openActivation, if_pos busy]

theorem markPhoneDriveTransport_releases {write : PhoneDriveWrite} {status : ApplicationQueryTransportStatus}
    (room : session.Room) (clock : at_ + submissionWindow ≤ u64Max) (guarded : session.drive.Guarded) :
    Releases session (session.markPhoneDriveTransport token write status at_).1 := by
  intro pressed active
  obtain ⟨generation, current, below⟩ := room.generation
  have emptied : Drive.Guarded { session.drive with pending := none } :=
    (Drive.Carries.dropped _).guarded (by rw [current]; rfl) guarded
  have dropped : Safe session.drive.nextSequence { session with
      phoneDriveControl := { session.phoneDriveControl with pending := none }
      lastInputAt := max session.lastInputAt at_ } := by
    refine .inl ⟨pressed, active, emptied, ⟨room.sequence, room.generation, ?_⟩, rfl⟩
    have := room.clock
    show max session.lastInputAt at_ + submissionWindow ≤ u64Max
    omega
  have cancelled := (dropped.cancel .transportUnavailable nofun).released
  unfold markPhoneDriveTransport
  dsimp only
  split
  · exact .inl pressed
  next owned =>
    split
    · exact .inl pressed
    · exact .inl pressed
    all_goals
      split
      · exact cancelled
      · next kind =>
        obtain ⟨-, owned⟩ := not_or.mp owned |>.imp id not_or.mp
        have owns := Bool.eq_true_of_not_eq_false owned.2
        obtain ⟨pending, known, same⟩ := (Option.any_eq_true _ _).mp owns
        simp only [Bool.and_eq_true, decide_eq_true_eq] at same
        rw [← same.1] at kind
        exact absurd pressed (guarded.release pending known ((guarded.kind_release known).mp kind)).2

theorem cancelPhoneDrive_releases (room : session.Room) (guarded : session.drive.Guarded)
    (lasting : reason ≠ .connectionChanged) : Releases session (session.cancelPhoneDrive reason) := by
  intro pressed active
  have safe : Safe session.drive.nextSequence session := .inl ⟨pressed, active, guarded, room, rfl⟩
  exact (safe.cancel _ lasting).released

theorem cancelPhoneDrive_counted (lasting : reason ≠ .connectionChanged) (room : session.Room) :
    (session.cancelPhoneDrive reason).drive.input.generation.isSome = true := by
  obtain ⟨generation, current, below⟩ := room.generation
  have counts := cancel_counts current below reason
  have cancels := session.cancelPhoneDrive_cancels reason
  generalize (session.cancelPhoneDrive reason).drive = next at cancels ⊢
  cases cancels with
  | dropped changed => exact absurd changed lasting
  | inactive | kept =>
    show (session.drive.input.cancel reason).generation.isSome = true
    rw [counts]
    rfl
  | released next active waiting prepares =>
    obtain ⟨same, -⟩ := prepares.neutral active room.sequence counts room.clock
    show next.input.generation.isSome = true
    rw [same]
    show (session.drive.input.cancel reason).generation.isSome = true
    rw [counts]
    rfl

/-- Only a neutral write waits for a gesture that is not pressed: at its deadline it is dropped. -/
private theorem advancePhoneDriveDeadlines_lifted (guarded : session.drive.Guarded) (lifted : ¬session.drive.Pressed) :
    session.advancePhoneDriveDeadlines at_ = session ∨
      (session.advancePhoneDriveDeadlines at_).drive.pending = none ∧
        ¬(session.advancePhoneDriveDeadlines at_).drive.Pressed := by
  unfold advancePhoneDriveDeadlines
  rcases session.expireInput_moves at_ with same | ⟨pressed, -⟩
  · rw [same]
    have moves := session.expireWrite_moves at_
    generalize session.expireWrite at_ = next at moves ⊢
    cases moves with
    | waits => exact .inl rfl
    | setpoint write known kind =>
      have neutral := (guarded.kind_release known).mpr (guarded.neutral_action lifted known)
      rw [kind] at neutral
      cases neutral
    | release =>
      obtain ⟨reason, cancelled⟩ := session.phoneDriveInput.cancel_phase .transportUnavailable
      exact .inr ⟨rfl, Drive.not_pressed_of_cancelled cancelled⟩
  · exact absurd pressed lifted

private theorem emitPhoneDrive_lifted {canSubmit : Bool}
    (neutral : ∀ write, session.drive.pending = some write → write.milliamps = 0) (lifted : ¬session.drive.Pressed) :
    ¬(session.emitPhoneDrive token at_ canSubmit).1.drive.Pressed := by
  have finishes := session.emitPhoneDrive_finishes token at_ canSubmit
  generalize (session.emitPhoneDrive token at_ canSubmit).2.join = sent at finishes
  generalize (session.emitPhoneDrive token at_ canSubmit).1 = after at finishes ⊢
  cases finishes with
  | silent _ same =>
    rw [same]
    exact lifted
  | refused => exact lifted
  | unencoded _ write known wide =>
    rw [neutral write known] at wide
    exact absurd (by decide) wide
  | emitted _ write emits =>
    obtain ⟨pending, -, -, -, same⟩ := emits
    rw [same]
    exact lifted

private theorem deadlines_lifted {canSubmit : Bool} (guarded : session.drive.Guarded)
    (lifted : ¬session.drive.Pressed) :
    ¬(((session.advancePhoneDriveDeadlines at_).renewSetpoint at_ canSubmit).emitPhoneDrive token at_
      canSubmit).1.drive.Pressed := by
  rcases @advancePhoneDriveDeadlines_lifted session at_ guarded lifted with same | ⟨emptied, still⟩
  · rw [same, renewSetpoint_keeps lifted]
    refine emitPhoneDrive_lifted ?_ lifted
    exact fun write known => (guarded.release write known (guarded.neutral_action lifted known)).1
  · rw [renewSetpoint_keeps still]
    refine emitPhoneDrive_lifted ?_ still
    intro write known
    rw [emptied] at known
    cases known

theorem refusedContacts_lifted (room : session.Room) (guarded : session.drive.Guarded) :
    ¬((session.cancelPhoneDrive .inputExpired).tickPhoneDrive token (max session.lastInputAt at_) true).1.drive.Pressed := by
  have lifted := session.cancelPhoneDrive_lifts .inputExpired
  have fits := (session.cancelPhoneDrive_carries .inputExpired).guarded (cancelPhoneDrive_counted nofun room) guarded
  have kept := (session.cancelPhoneDrive_only .inputExpired).2
  generalize session.cancelPhoneDrive .inputExpired = next at lifted kept fits ⊢
  unfold tickPhoneDrive
  split
  · exact lifted
  · rw [if_neg (by rw [kept]; omega)]
    exact deadlines_lifted fits lifted

/-- Refused contacts cancel the gesture; the neutral write stays exactly if its deadline has not passed with them. -/
theorem refusedContacts_neutral (room : session.Room) (guarded : session.drive.Guarded)
    (verified : session.connection.isVerified token = true) (pressed : session.drive.Pressed)
    (active : session.drive.activation.isSome = true) :
    ((session.cancelPhoneDrive .inputExpired).tickPhoneDrive token (max session.lastInputAt at_) true).1.drive.Neutral
      session.drive.nextSequence ↔ at_ < session.lastInputAt + submissionWindow := by
  obtain ⟨write, known, kind, newer, deadline⟩ :=
    session.cancelPhoneDrive_neutral .inputExpired nofun room guarded pressed active
  have lifted := session.cancelPhoneDrive_lifts .inputExpired
  obtain ⟨only, kept⟩ := session.cancelPhoneDrive_only .inputExpired
  have fits := (session.cancelPhoneDrive_carries .inputExpired).guarded (cancelPhoneDrive_counted nofun room) guarded
  have verified : (session.cancelPhoneDrive .inputExpired).connection.isVerified token = true := only.connection ▸ verified
  generalize session.cancelPhoneDrive .inputExpired = next at known lifted kept fits verified ⊢
  have time : max (max session.lastInputAt at_) next.lastInputAt = max session.lastInputAt at_ := by
    rw [kept]
    omega
  unfold tickPhoneDrive
  rw [if_neg (by rw [verified]; decide), if_neg (by rw [kept]; omega)]
  dsimp only
  rw [time]
  constructor
  · intro neutral
    by_contra late
    have past : session.lastInputAt + submissionWindow ≤ max session.lastInputAt at_ :=
      (Nat.le_of_not_lt late).trans (Nat.le_max_right _ _)
    have emptied : (next.advancePhoneDriveDeadlines (max session.lastInputAt at_)).drive.pending = none ∧
        (next.advancePhoneDriveDeadlines (max session.lastInputAt at_)).drive.activation = none := by
      unfold advancePhoneDriveDeadlines
      rcases next.expireInput_moves (max session.lastInputAt at_) with same | ⟨held, -⟩
      · rw [same]
        have moves := next.expireWrite_moves (max session.lastInputAt at_)
        generalize next.expireWrite (max session.lastInputAt at_) = expired at moves ⊢
        cases moves with
        | waits early =>
          have := early write known
          omega
        | setpoint other same setpoint =>
          obtain rfl := Option.some.inj (known.symm.trans same)
          rw [kind] at setpoint
          cases setpoint
        | release => exact ⟨rfl, rfl⟩
      · exact absurd held lifted
    generalize next.advancePhoneDriveDeadlines (max session.lastInputAt at_) = expired at emptied neutral
    obtain ⟨pending, inactive⟩ := emptied
    have idle : expired.renewSetpoint (max session.lastInputAt at_) true = expired := by
      rcases expired.renewSetpoint_moves (max session.lastInputAt at_) true with same | ⟨activation, action, held, -⟩
      · exact same
      · rw [inactive] at held
        cases held
    rw [idle] at neutral
    have finishes := expired.emitPhoneDrive_finishes token (max session.lastInputAt at_) true
    generalize (expired.emitPhoneDrive token (max session.lastInputAt at_) true).2.join = sent at finishes
    generalize (expired.emitPhoneDrive token (max session.lastInputAt at_) true).1 = after at finishes neutral
    obtain ⟨release, waiting, -⟩ := neutral
    cases finishes with
    | silent _ same =>
      rw [same, pending] at waiting
      cases waiting
    | refused =>
      rw [pending] at waiting
      cases waiting
    | unencoded _ other held =>
      rw [pending] at held
      cases held
    | emitted _ other emits =>
      obtain ⟨sent, held, -⟩ := emits
      rw [pending] at held
      cases held
  · intro fresh
    rw [advancePhoneDriveDeadlines_keeps lifted, renewSetpoint_keeps lifted]
    · have finishes := next.emitPhoneDrive_finishes token (max session.lastInputAt at_) true
      exact (finishes.keeps fits).2 _ ⟨write, known, kind, newer⟩
    · intro other equal
      obtain rfl := Option.some.inj (known.symm.trans equal)
      rw [deadline]
      exact Nat.max_lt.mpr ⟨Nat.lt_add_of_pos_right (by decide), fresh⟩

theorem observePhoneDriveContactsAt_releases {observedAt : Nat} {contacts : PhoneDriveContacts} (room : session.Room)
    (clock : at_ + submissionWindow ≤ u64Max) (guarded : session.drive.Guarded)
    (fresh : session.refusesContacts observedAt at_ = true → at_ < session.lastInputAt + submissionWindow)
    (counted : (session.observePhoneDriveContactsAt token generation contacts observedAt at_
      ).1.drive.input.generation.isSome = true) :
    Releases session (session.observePhoneDriveContactsAt token generation contacts observedAt at_).1 := by
  revert counted
  unfold observePhoneDriveContactsAt
  split
  · exact fun _ => .of_same rfl
  next verified =>
  have verified := Bool.eq_true_of_not_eq_false verified
  split
  · exact fun _ => .of_same rfl
  split
  · intro _
    refine .of_same ?_
    dsimp only
    unfold phoneDriveStep
    split <;> rfl
  next same =>
    split
    · next refused =>
      intro _ pressed active
      exact .inr ((refusedContacts_neutral room guarded verified pressed active).mpr (fresh refused))
    · intro counted pressed active
      have current : session.drive.input.generation = some generation := not_not.mp same
      obtain ⟨input, follows, answers, waits⟩ := takenContacts current contacts observedAt at_
      dsimp only at counted ⊢
      generalize ({ session with lastInputAt := at_ }.observeGesture generation contacts
        |>.followGesture session.phoneDriveInput.phase observedAt at_) = next at answers counted ⊢
      have finishes := next.emitPhoneDrive_finishes token at_ true
      have fits := (answers.carries follows waits).guarded (finishes.counted counted) guarded
      obtain ⟨kept, neutral⟩ := finishes.keeps fits
      rcases answers.releases follows guarded pressed active room.sequence (counted_of_room room) clock with held | left
      · left
        unfold Drive.Pressed
        rw [kept]
        exact held
      · exact .inr (neutral _ left)

/-- A contact that a call ends under a live activation leaves a newer neutral write. -/
theorem step_releases {call : SessionCall} (room : session.Room) (guarded : session.drive.Guarded)
    (connected : ¬ChangesConnection call) (fresh : ¬Stale session call)
    (clock : ∀ time ∈ callTime call, time + submissionWindow ≤ u64Max)
    (counted : (session.step call).1.drive.input.generation.isSome = true) : Releases session (session.step call).1 := by
  intro pressed active
  have safe : Safe session.drive.nextSequence session := .inl ⟨pressed, active, guarded, room, rfl⟩
  cases call with
  | beginAttempt | admitRetry | disconnect | linkDown | transportFailed | protocolConflict => exact absurd trivial connected
  | requestRetry | cancelRetry | connected | expire | decoder | requireManagedTransport | submissionElsewhere =>
    exact .inl pressed
  | resolve token at_ resolution =>
    exact Releases.of_same (session.resolve_drive token at_ resolution) pressed active
  | configureVehicleKind token kind view taken => exact (safe.configureVehicleKind token kind view taken).released
  | authorizeValidation token =>
    refine Releases.of_same ?_ pressed active
    show (session.authorizeValidation token).1.drive = session.drive
    unfold authorizeValidation
    split <;> rfl
  | revokeValidation token =>
    refine Releases.of_same ?_ pressed active
    show (session.revokeValidation token).1.drive = session.drive
    unfold revokeValidation
    split <;> rfl
  | ingest token input answer =>
    refine (safe.ingest token answer ?_ clock).released
    rintro rfl
    exact connected trivial
  | submitAction token at_ answer => exact (safe.submitAction token answer (clock at_ rfl)).released
  | submitSetting token id value at_ answer bound boundView =>
    exact (safe.submitSetting token id value answer bound boundView (clock at_ rfl)).released
  | tickSettingTransport token at_ record =>
    exact Releases.of_same (session.tickSettingTransport_drive token at_ record) pressed active
  | markSettingTransport token id requestId status at_ record =>
    exact Releases.of_same (session.markSettingTransport_drive token id requestId status at_ record) pressed active
  | markSettingReadTransport token at_ view accepted =>
    refine Releases.of_same ?_ pressed active
    show (session.markSettingReadTransport token at_ view accepted).1.drive = session.drive
    unfold markSettingReadTransport
    split
    · rfl
    · dsimp only
      split <;> rfl
  | activatePhoneDrive token generation limits at_ =>
    have same := activatePhoneDrive_pressed token generation limits at_ guarded pressed
    exact Releases.of_same (congrArg DeviceConnectionSession.drive same) pressed active
  | observePhoneDriveContactsAt token generation contacts observedAt at_ =>
    refine observePhoneDriveContactsAt_releases room (clock at_ rfl) guarded ?_ counted pressed active
    intro refused
    exact Nat.lt_of_not_le fun late => fresh ⟨refused, late⟩
  | tickPhoneDrive token at_ canSubmit => exact tickPhoneDrive_releases room (clock at_ rfl) guarded counted pressed active
  | markPhoneDriveTransport token write status at_ =>
    exact markPhoneDriveTransport_releases room (clock at_ rfl) guarded pressed active
  | cancelPhoneDrive reason =>
    refine cancelPhoneDrive_releases room guarded ?_ pressed active
    rintro rfl
    exact connected trivial
  | cancelPhoneDriveAt reason at_ =>
    have timed : Safe session.drive.nextSequence { session with lastInputAt := max session.lastInputAt at_ } := by
      refine safe.timed rfl ?_
      have := clock at_ rfl
      intro room
      show max session.lastInputAt at_ + submissionWindow ≤ u64Max
      omega
    refine (timed.cancel reason ?_).released
    rintro rfl
    exact connected trivial
  | applyPhoneDrivePreferences token mode limits => exact (safe.applyPhoneDrivePreferences token mode limits).released
  | setPhoneDriveSettingsPresented token presented => exact (safe.setPhoneDriveSettingsPresented token presented).released

theorem run_guarded (counted : (Runs.final step {} calls).drive.input.generation.isSome = true) :
    (Runs.final step {} calls).drive.Guarded := by
  revert counted
  refine Runs.induction_on (P := fun (_ : Past) session => session.drive.input.generation.isSome = true →
    session.drive.Guarded) ?_ ?_ calls
  · exact fun _ => initial_guarded
  · intro _ session call known counted
    have drives := (session.step_turns call).drives
    exact drives.guarded counted (known (drives.counted counted))

/-- The dead-man switch: after every run, a call that ends a contact held under a live activation leaves a
neutral write that is newer than every write before, as long as the counters and the clock have room. The
connection stays, and the call brings no refused contacts that are a whole submission window late. -/
theorem ended_contacts_leave_a_neutral_write (calls : List SessionCall) (call : SessionCall)
    (room : (Runs.final step {} calls).Room) (connected : ¬ChangesConnection call)
    (fresh : ¬Stale (Runs.final step {} calls) call) (clock : ∀ time ∈ callTime call, time + submissionWindow ≤ u64Max)
    (counted : (Runs.final step {} (calls ++ [call])).drive.input.generation.isSome = true) :
    Releases (Runs.final step {} calls) (Runs.final step {} (calls ++ [call])) := by
  rw [Runs.final_append] at counted ⊢
  exact step_releases room (run_guarded calls (counted_of_room room)) connected fresh clock counted

/-- The throttle is held, and the input turns old. -/
theorem aged_throttle_leaves_a_neutral_write :
    (Runs.final step {} (readyBoardCalls ++ [throttleContact] ++ [.tickPhoneDrive ⟨1, "board"⟩ 700 true])).drive.Pressed ∨
    (Runs.final step {} (readyBoardCalls ++ [throttleContact] ++ [.tickPhoneDrive ⟨1, "board"⟩ 700 true])).drive.Neutral 1 :=
  ended_contacts_leave_a_neutral_write (readyBoardCalls ++ [throttleContact]) (.tickPhoneDrive ⟨1, "board"⟩ 700 true)
    ⟨by decide, ⟨5, rfl, by decide⟩, by decide⟩ id id (by decide) rfl ⟨.throttle, rfl⟩ rfl

/-- Contacts that are refused for their times end the held gesture. They are the one input that may lose its neutral
write: it is left exactly if they arrive within a submission window of the latest input. -/
theorem refused_contacts_leave_a_neutral_write_iff (calls : List SessionCall) {token : ConnectionAttemptToken}
    {generation observedAt at_ : Nat} (contacts : PhoneDriveContacts) (room : (Runs.final step {} calls).Room)
    (verified : (Runs.final step {} calls).connection.isVerified token = true)
    (loaded : (Runs.final step {} calls).phoneDrivePreferencesToken = some token)
    (hidden : (Runs.final step {} calls).phoneDriveSettingsPresentedFor ≠ some token)
    (current : (Runs.final step {} calls).phoneDriveInput.generation = some generation)
    (refused : (Runs.final step {} calls).refusesContacts observedAt at_ = true)
    (pressed : (Runs.final step {} calls).drive.Pressed) (active : (Runs.final step {} calls).drive.activation.isSome = true) :
    let after := ((Runs.final step {} calls).observePhoneDriveContactsAt token generation contacts observedAt at_).1
    ¬after.drive.Pressed ∧ (after.drive.Neutral (Runs.final step {} calls).drive.nextSequence ↔
      at_ < (Runs.final step {} calls).lastInputAt + submissionWindow) := by
  have guarded := run_guarded calls (counted_of_room room)
  generalize Runs.final step {} calls = session at *
  unfold observePhoneDriveContactsAt
  rw [if_neg (by rw [verified]; decide), if_neg (not_or.mpr ⟨not_not.mpr loaded, hidden⟩), if_neg (not_not.mpr current),
    if_pos refused]
  exact ⟨refusedContacts_lifted room guarded, refusedContacts_neutral room guarded verified pressed active⟩

/-- A late contact of a second finger ends the held throttle and loses its neutral write. -/
theorem late_refusal_leaves_no_neutral_write :
    let after := ((Runs.final step {} (readyBoardCalls ++ [throttleContact])).observePhoneDriveContactsAt ⟨1, "board"⟩ 5
      .multiple 440 600).1
    ¬after.drive.Pressed ∧ ¬after.drive.Neutral 1 := by
  have refused := @refused_contacts_leave_a_neutral_write_iff (readyBoardCalls ++ [throttleContact]) ⟨1, "board"⟩ 5 440 600
    .multiple ⟨by decide, ⟨5, rfl, by decide⟩, by decide⟩ rfl rfl nofun rfl rfl ⟨.throttle, rfl⟩ rfl
  refine ⟨refused.1, mt refused.2.mp ?_⟩
  decide

end DeviceConnectionSession

end Cutout.Connections

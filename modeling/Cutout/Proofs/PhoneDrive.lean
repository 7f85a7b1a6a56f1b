import Cutout.ConnectionSession
import Cutout.Library.Runs

/-! The drive of a session: its phone input, its activation and its pending write. Whatever
a call does, the pending write stays fitted to the gesture, and a gesture that ends under a
live activation leaves a neutral write behind, unless that write is dropped at once. -/

namespace Cutout.Connections
open Cutout.Core Library
open Protocols (u64Max)

structure Drive where
  input : PhoneDriveInputState
  activation : Option Activation
  pending : Option PendingWrite
  nextSequence : Nat

def DeviceConnectionSession.drive (session : DeviceConnectionSession) : Drive where
  input := session.phoneDriveInput
  activation := session.phoneDriveControl.activation
  pending := session.phoneDriveControl.pending
  nextSequence := session.phoneDriveControl.nextSequence

namespace Drive
variable {write : PendingWrite}
variable {reason : PhoneDriveCancelReason}

def Pressed (drive : Drive) : Prop := ∃ action, drive.input.phase = .pressed action

def Held (drive : Drive) : Prop :=
  drive.activation.isSome = true ∧ ∀ reason, drive.input.phase ≠ .cancelled reason

def Neutral (base : Nat) (drive : Drive) : Prop :=
  ∃ write, drive.pending = some write ∧ write.admission.kind = .release ∧ base < write.admission.sequence

structure Guarded (drive : Drive) : Prop where
  setpoint : ∀ write action, drive.pending = some write → write.action = some action →
    drive.input.phase = .pressed action ∧ drive.input.generation = some write.admission.generation ∧
      ∃ activation, drive.activation = some activation ∧ activation.id = write.admission.activationId ∧
        write.milliamps = activation.limits.of action
  release : ∀ write, drive.pending = some write → write.action = none → write.milliamps = 0 ∧ ¬drive.Pressed
  kind : ∀ write, drive.pending = some write →
    write.admission.kind = if write.action.isSome then .setpoint else .release
  sequence : ∀ write, drive.pending = some write → write.admission.sequence ≤ drive.nextSequence
  surface : drive.input.mode = .disabled → ¬drive.Pressed

structure Carries (before after : Drive) : Prop where
  guarded : after.input.generation.isSome = true → before.Guarded → after.Guarded
  sequence : before.nextSequence ≤ after.nextSequence
  counted : after.input.generation.isSome = true → before.input.generation.isSome = true
  pending : ∀ write, after.pending = some write → before.pending = some write ∨
    before.nextSequence < write.admission.sequence ∧ write.emitted = false

/-- An activation stays held only if its gesture was not cancelled before either. -/
def Holds (before after : Drive) : Prop :=
  after.Held → before.Held ∧ after.input.generation = before.input.generation

variable {before middle after drive : Drive}

theorem Carries.refl (drive : Drive) : drive.Carries drive := ⟨fun _ => id, le_refl _, id, fun _ known => .inl known⟩

theorem Carries.trans (first : before.Carries middle) (last : middle.Carries after) : before.Carries after := by
  refine ⟨?_, first.sequence.trans last.sequence, fun counted => first.counted (last.counted counted), ?_⟩
  · intro counted guarded
    exact last.guarded counted (first.guarded (last.counted counted) guarded)
  · intro write known
    rcases last.pending write known with old | ⟨new, unemitted⟩
    · exact first.pending write old
    · exact .inr ⟨first.sequence.trans_lt new, unemitted⟩

theorem Holds.refl (drive : Drive) : drive.Holds drive := fun held => ⟨held, rfl⟩

theorem Holds.trans (first : before.Holds middle) (last : middle.Holds after) : before.Holds after := by
  intro held
  obtain ⟨middleHeld, same⟩ := last held
  obtain ⟨beforeHeld, same'⟩ := first middleHeld
  exact ⟨beforeHeld, same.trans same'⟩

theorem Holds.of_cancelled (cancelled : after.input.phase = .cancelled reason) :
    before.Holds after := fun held => absurd cancelled (held.2 reason)

theorem Holds.of_inactive (inactive : after.activation = none) : before.Holds after := by
  rintro ⟨active, -⟩
  rw [inactive] at active
  cases active

theorem not_pressed_of_cancelled (cancelled : drive.input.phase = .cancelled reason) : ¬drive.Pressed := by
  rintro ⟨action, pressed⟩
  rw [cancelled] at pressed
  cases pressed

/-- Under a gesture that is not pressed only a neutral write is pending. -/
theorem Guarded.neutral_action (guarded : drive.Guarded) (lifted : ¬drive.Pressed)
    (known : drive.pending = some write) : write.action = none := by
  cases action : write.action with
  | none => rfl
  | some action' => exact absurd ⟨action', (guarded.setpoint write action' known action).1⟩ lifted

theorem Guarded.kind_release (guarded : drive.Guarded) (known : drive.pending = some write) :
    write.admission.kind = .release ↔ write.action = none := by
  rw [guarded.kind write known]
  cases write.action <;> simp

theorem Guarded.of_inactive_action (guarded : drive.Guarded) (inactive : drive.activation = none)
    (known : drive.pending = some write) : write.action = none := by
  cases action : write.action with
  | none => rfl
  | some action' =>
    obtain ⟨-, -, activation, active, -⟩ := guarded.setpoint write action' known action
    rw [inactive] at active
    cases active

end Drive

end Cutout.Connections

namespace Cutout.Core
open Protocols (u64Max)

namespace PhoneDriveInputState
variable {input : PhoneDriveInputState} {reason : PhoneDriveCancelReason}

theorem cancel_phase (input : PhoneDriveInputState) (reason : PhoneDriveCancelReason) :
    ∃ reason', (input.cancel reason).phase = .cancelled reason' := by
  obtain ⟨mode, epoch⟩ := input
  cases epoch with
  | exhausted => exact ⟨_, rfl⟩
  | current generation gesture =>
    by_cases room : generation < u64Max
    · exact ⟨reason, by simp only [cancel, phase, if_pos room, Gesture.phase]⟩
    · exact ⟨.generationExhausted, by simp only [cancel, phase, if_neg room]⟩

theorem cancel_counted (counted : (input.cancel reason).generation.isSome = true) : input.generation.isSome = true := by
  unfold cancel generation at *
  cases epoch : input.epoch with
  | exhausted => rw [epoch] at counted; cases counted
  | current generation gesture => rfl

theorem setMode_eq (input : PhoneDriveInputState) (mode : PhoneControlMode) :
    input.setMode mode = input ∧ input.mode = mode ∨
      (input.setMode mode).mode = mode ∧ (∃ reason, (input.setMode mode).phase = .cancelled reason) ∧
        ((input.setMode mode).generation.isSome = true → input.generation.isSome = true) := by
  by_cases same : input.mode = mode
  · exact .inl ⟨if_neg (not_not.mpr same), same⟩
  · refine .inr ?_
    unfold setMode
    rw [if_pos same]
    refine ⟨rfl, cancel_phase _ _, ?_⟩
    intro counted
    have former : ({ input with mode } : PhoneDriveInputState).generation.isSome = true := cancel_counted counted
    exact former

theorem observe_mode (input : PhoneDriveInputState) (generation : Nat) (contacts : PhoneDriveContacts) :
    (input.observe generation contacts).mode = input.mode := by
  unfold observe
  split
  · rfl
  · split
    · split <;> rfl
    · rfl

theorem observe_generation (input : PhoneDriveInputState) (generation : Nat) (contacts : PhoneDriveContacts) :
    (input.observe generation contacts).generation = input.generation := by
  unfold observe
  split
  · rfl
  · split
    · next current gesture epoch =>
      split
      · simp [PhoneDriveInputState.generation, epoch]
      · rfl
    · rfl

end PhoneDriveInputState

private theorem encodePhoneDriveCurrent_some (action : Option PhoneDriveAction) {milliamps : Nat} (narrow : milliamps < 2 ^ 31) :
    ∃ bytes, encodePhoneDriveCurrent action milliamps = some bytes := ⟨_, if_pos narrow⟩

end Cutout.Core

namespace Cutout.Connections
open Cutout.Core Library
open Protocols (u64Max)

namespace Drive

/-- The pending write of a gesture that is not pressed, or of no activation, is neutral. -/
structure Idles (drive : Drive) : Prop where
  neutral : ∀ write, drive.pending = some write → write.action = none ∧ write.milliamps = 0 ∧
    write.admission.kind = .release ∧ write.admission.sequence ≤ drive.nextSequence

variable {drive : Drive}

theorem Guarded.idles (guarded : drive.Guarded) (free : ¬drive.Pressed ∨ drive.activation = none) :
    drive.Idles := by
  refine ⟨?_⟩
  intro write known
  have neutral : write.action = none := by
    rcases free with lifted | inactive
    · exact guarded.neutral_action lifted known
    · exact guarded.of_inactive_action inactive known
  exact ⟨neutral, (guarded.release write known neutral).1, (guarded.kind_release known).mpr neutral,
    guarded.sequence write known⟩

theorem Idles.guarded (idles : drive.Idles) (lifted : ¬drive.Pressed) : drive.Guarded := by
  refine ⟨?_, ?_, ?_, ?_, fun _ => lifted⟩
  · intro write action known same
    rw [(idles.neutral write known).1] at same
    cases same
  · intro write known _
    exact ⟨(idles.neutral write known).2.1, lifted⟩
  · intro write known
    rw [(idles.neutral write known).1, (idles.neutral write known).2.2.1]
    rfl
  · intro write known
    exact (idles.neutral write known).2.2.2

theorem Idles.of_empty (empty : drive.pending = none) : drive.Idles := by
  refine ⟨?_⟩
  intro write known
  rw [empty] at known
  cases known

theorem Carries.dropped (drive : Drive) : drive.Carries { drive with pending := none } :=
  ⟨fun _ guarded => ⟨nofun, nofun, nofun, nofun, guarded.surface⟩, le_refl _, id, nofun⟩

theorem Carries.retired (drive : Drive) (reason : PhoneDriveCancelReason) :
    drive.Carries { drive with pending := none, activation := none, input := drive.input.cancel reason } := by
  obtain ⟨reason', cancelled⟩ := drive.input.cancel_phase reason
  exact ⟨fun _ _ => (Idles.of_empty rfl).guarded (not_pressed_of_cancelled cancelled), le_refl _,
    PhoneDriveInputState.cancel_counted, nofun⟩

def Emits (before after : Drive) (admission : PhoneDriveWrite) : Prop :=
  ∃ write, before.pending = some write ∧ write.emitted = false ∧ write.admission = admission ∧
    after = { before with pending := some { write with emitted := true } }

theorem Emits.guarded {before after : Drive} {admission : PhoneDriveWrite} (emits : Emits before after admission)
    (guarded : before.Guarded) : after.Guarded := by
  obtain ⟨write, known, -, -, rfl⟩ := emits
  refine ⟨?_, ?_, ?_, ?_, guarded.surface⟩
  · intro other action same
    cases same
    exact guarded.setpoint write action known
  · intro other same
    cases same
    exact guarded.release write known
  · intro other same
    cases same
    exact guarded.kind write known
  · intro other same
    cases same
    exact guarded.sequence write known

theorem Guarded.encodes (guarded : drive.Guarded) {write : PendingWrite} (known : drive.pending = some write) :
    write.milliamps < 2 ^ 31 := by
  cases action : write.action with
  | none =>
    rw [(guarded.release write known action).1]
    decide
  | some action' =>
    obtain ⟨-, -, activation, -, -, same⟩ := guarded.setpoint write action' known action
    rw [same]
    cases action' with
    | brake => exact activation.limits.brake_range.2.trans_lt (by decide)
    | throttle => exact activation.limits.throttle_range.2.trans_lt (by decide)

end Drive

namespace DeviceConnectionSession
variable {session : DeviceConnectionSession}
variable {at_ milliamps : Nat} {action : Option PhoneDriveAction} {write : Option EmittedWrite}
variable {after before : DeviceConnectionSession} {reason : PhoneDriveCancelReason}

inductive Prepares (drive : Drive) (action : Option PhoneDriveAction) (milliamps at_ : Nat) : Drive → Prop where
  | inactive (absent : drive.activation = none) : Prepares drive action milliamps at_ drive
  | unidentified (absent : drive.input.generation = none) : Prepares drive action milliamps at_ drive
  | exhausted (full : u64Max ≤ drive.nextSequence ∨ u64Max < at_ + submissionWindow) :
      Prepares drive action milliamps at_
        { drive with activation := none, pending := none, input := drive.input.cancel .generationExhausted }
  | prepared (activation : Activation) (generation : Nat) (active : drive.activation = some activation)
      (current : drive.input.generation = some generation) :
      Prepares drive action milliamps at_
        { drive with
          nextSequence := drive.nextSequence + 1
          pending := some
            { admission := ⟨activation.id, drive.nextSequence + 1, generation, at_ + submissionWindow,
                if action.isSome then .setpoint else .release⟩
              action
              milliamps
              issuedAt := at_
              emitted := false }
          activation := some { activation with nextSetpointAt := action.bind fun _ => checkedAdd at_ cadence } }

theorem preparePhoneDriveWrite_prepares (session : DeviceConnectionSession) (action : Option PhoneDriveAction)
    (milliamps at_ : Nat) :
    Prepares session.drive action milliamps at_ (session.preparePhoneDriveWrite action milliamps at_).drive := by
  unfold preparePhoneDriveWrite
  split
  · next none => exact .inactive none
  · next activation active =>
    split
    · next sequence deadline counted timed =>
      unfold checkedAdd at counted timed
      split at counted <;> cases counted
      split at timed <;> cases timed
      split
      · next none => exact .unidentified none
      · next generation current => exact .prepared activation generation active current
    · next blocked =>
      refine .exhausted ?_
      by_contra room
      obtain ⟨counted, timed⟩ := not_or.mp room
      refine blocked (session.phoneDriveControl.nextSequence + 1) (at_ + submissionWindow) ?_ ?_
      · exact if_pos (Nat.succ_le_of_lt (Nat.lt_of_not_le counted))
      · exact if_pos (Nat.le_of_not_lt timed)

variable {next drive : Drive}

theorem Prepares.carries (prepares : Prepares drive action milliamps at_ next) :
    drive.nextSequence ≤ next.nextSequence ∧
      (next.input.generation.isSome = true → drive.input.generation.isSome = true) ∧
      ∀ write, next.pending = some write → drive.pending = some write ∨
        drive.nextSequence < write.admission.sequence ∧ write.emitted = false := by
  cases prepares with
  | inactive | unidentified => exact ⟨le_refl _, id, fun _ known => .inl known⟩
  | exhausted => exact ⟨le_refl _, PhoneDriveInputState.cancel_counted, fun _ known => nomatch known⟩
  | prepared activation generation active current =>
    refine ⟨Nat.le_succ _, id, ?_⟩
    intro write known
    cases known
    exact .inr ⟨Nat.lt_succ_self _, rfl⟩

theorem Prepares.holds (prepares : Prepares drive action milliamps at_ next) : drive.Holds next := by
  cases prepares with
  | inactive | unidentified => exact .refl _
  | exhausted => exact .of_inactive rfl
  | prepared activation generation active current =>
    intro held
    refine ⟨⟨?_, held.2⟩, rfl⟩
    rw [active]
    rfl

theorem Prepares.guarded (prepares : Prepares drive action milliamps at_ next)
    (counted : drive.input.generation.isSome = true) (idle : drive.activation = none → drive.Guarded)
    (surface : drive.input.mode = .disabled → ¬drive.Pressed) (fits : match action with
      | some action => drive.input.phase = .pressed action ∧
        ∀ activation, drive.activation = some activation → milliamps = activation.limits.of action
      | none => milliamps = 0 ∧ ¬drive.Pressed) : next.Guarded := by
  cases prepares with
  | inactive none => exact idle none
  | unidentified none =>
    rw [none] at counted
    cases counted
  | exhausted =>
    obtain ⟨reason, cancelled⟩ := PhoneDriveInputState.cancel_phase drive.input .generationExhausted
    exact (Drive.Idles.of_empty rfl).guarded (Drive.not_pressed_of_cancelled cancelled)
  | prepared activation generation active current =>
    refine ⟨?_, ?_, ?_, ?_, surface⟩
    · intro write action' known same
      cases known
      cases same
      exact ⟨fits.1, current, _, rfl, rfl, fits.2 activation active⟩
    · intro write known same
      cases known
      cases same
      exact fits
    · intro write known
      cases known
      rfl
    · intro write known
      cases known
      exact le_refl _

def keptActivation (reason : PhoneDriveCancelReason) (activation : Option Activation) : Option Activation :=
  if gestureLocalCancel reason then activation.map fun activation => { activation with nextSetpointAt := none } else none

/-- A cancelled gesture, with the activation and the write that a cancellation leaves. -/
inductive Cancels (session : DeviceConnectionSession) (reason : PhoneDriveCancelReason) : Drive → Prop where
  | dropped (changed : reason = .connectionChanged) :
      Cancels session reason
        { session.drive with
          activation := none
          pending := none
          input := (session.phoneDriveInput.setMode .disabled).cancel reason }
  | inactive (inactive : session.drive.activation = none) :
      Cancels session reason { session.drive with input := session.phoneDriveInput.cancel reason }
  | kept (waiting : session.hasPendingRelease = true) :
      Cancels session reason
        { session.drive with
          input := session.phoneDriveInput.cancel reason
          activation := keptActivation reason session.drive.activation }
  | released (next : Drive) (active : session.drive.activation.isSome = true) (waiting : session.hasPendingRelease = false)
      (prepares : Prepares { session.drive with input := session.phoneDriveInput.cancel reason } none 0
        session.lastInputAt next) :
      Cancels session reason { next with activation := keptActivation reason next.activation }

theorem cancelPhoneDrive_cancels (session : DeviceConnectionSession) (reason : PhoneDriveCancelReason) :
    Cancels session reason (session.cancelPhoneDrive reason).drive := by
  unfold cancelPhoneDrive
  split
  · next changed => exact .dropped changed
  · dsimp only
    split
    · next inactive => exact .inactive (Option.isNone_iff_eq_none.mp inactive)
    · next active =>
      have waiting : { session with phoneDriveInput := session.phoneDriveInput.cancel reason }.hasPendingRelease =
        session.hasPendingRelease := rfl
      rw [waiting]
      split
      · next waiting => exact .kept waiting
      · next waiting =>
        have prepares := preparePhoneDriveWrite_prepares { session with phoneDriveInput := session.phoneDriveInput.cancel reason }
          none 0 session.lastInputAt
        refine .released _ ?_ (Bool.not_eq_true _ ▸ waiting) prepares
        cases known : session.phoneDriveControl.activation with
        | none => exact absurd (by rw [known]; rfl) active
        | some activation =>
          change session.phoneDriveControl.activation.isSome = true
          rw [known]
          rfl

theorem Prepares.cancelled (prepares : Prepares drive action milliamps at_ next)
    (cancelled : ∃ reason, drive.input.phase = .cancelled reason) :
    ∃ reason, next.input.phase = .cancelled reason := by
  cases prepares with
  | exhausted => exact PhoneDriveInputState.cancel_phase _ _
  | inactive | unidentified | prepared => exact cancelled

theorem Cancels.cancelled (cancels : Cancels session reason next) :
    ∃ reason', next.input.phase = .cancelled reason' := by
  cases cancels with
  | dropped | inactive | kept => exact PhoneDriveInputState.cancel_phase _ _
  | released next active waiting prepares => exact prepares.cancelled (PhoneDriveInputState.cancel_phase _ _)

theorem hasPendingRelease_iff : session.hasPendingRelease = true ↔
    ∃ write, session.drive.pending = some write ∧ write.admission.kind = .release := by
  simp [hasPendingRelease, PendingWrite.isRelease, Option.any_eq_true, drive]

theorem Cancels.carries (cancels : Cancels session reason next) : session.drive.Carries next := by
  obtain ⟨reason', cancelled⟩ := cancels.cancelled
  have lifted := Drive.not_pressed_of_cancelled cancelled
  cases cancels with
  | dropped =>
    refine ⟨fun _ _ => (Drive.Idles.of_empty rfl).guarded lifted, le_refl _, ?_, nofun⟩
    intro counted
    have opened := PhoneDriveInputState.cancel_counted counted
    rcases PhoneDriveInputState.setMode_eq session.phoneDriveInput .disabled with ⟨same, -⟩ | ⟨-, -, fresh⟩
    · rw [same] at opened
      exact opened
    · exact fresh opened
  | inactive inactive =>
    refine ⟨?_, le_refl _, PhoneDriveInputState.cancel_counted, fun _ known => .inl known⟩
    intro _ guarded
    have idles : Drive.Idles { session.drive with input := session.phoneDriveInput.cancel reason } :=
      ⟨(guarded.idles (.inr inactive)).neutral⟩
    exact idles.guarded lifted
  | kept waiting =>
    refine ⟨?_, le_refl _, PhoneDriveInputState.cancel_counted, fun _ known => .inl known⟩
    intro _ guarded
    refine Drive.Idles.guarded ⟨?_⟩ lifted
    intro write known
    obtain ⟨write', known', release⟩ := hasPendingRelease_iff.mp waiting
    obtain rfl : write' = write := Option.some.inj (known'.symm.trans known)
    have neutral := (guarded.kind_release known').mp release
    exact ⟨neutral, (guarded.release _ known' neutral).1, release, guarded.sequence _ known'⟩
  | released next active waiting prepares =>
    obtain ⟨sequence, counted, pending⟩ := prepares.carries
    refine ⟨?_, sequence, fun known => PhoneDriveInputState.cancel_counted (counted known), pending⟩
    intro known guarded
    cases prepares with
    | inactive absent =>
      have absent : session.drive.activation = none := absent
      rw [absent] at active
      cases active
    | unidentified absent =>
      have known := counted known
      rw [absent] at known
      cases known
    | exhausted => exact (Drive.Idles.of_empty rfl).guarded lifted
    | prepared activation generation =>
      refine Drive.Idles.guarded ⟨?_⟩ lifted
      intro write same
      cases same
      exact ⟨rfl, rfl, rfl, le_refl _⟩

theorem cancelPhoneDrive_carries (session : DeviceConnectionSession) (reason : PhoneDriveCancelReason) :
    session.drive.Carries (session.cancelPhoneDrive reason).drive :=
  (session.cancelPhoneDrive_cancels reason).carries

theorem cancelPhoneDrive_holds (session : DeviceConnectionSession) (reason : PhoneDriveCancelReason) :
    session.drive.Holds (session.cancelPhoneDrive reason).drive := by
  obtain ⟨reason', cancelled⟩ := (session.cancelPhoneDrive_cancels reason).cancelled
  exact .of_cancelled cancelled

structure DriveOnly (before after : DeviceConnectionSession) : Prop where
  connection : after.connection = before.connection
  device : after.device = before.device
  settings : after.settings = before.settings
  nextRequestId : after.nextRequestId = before.nextRequestId
  settingOperations : after.settingOperations = before.settingOperations

theorem DriveOnly.refl (session : DeviceConnectionSession) : DriveOnly session session := ⟨rfl, rfl, rfl, rfl, rfl⟩

theorem DriveOnly.trans {middle : DeviceConnectionSession} (first : DriveOnly before middle)
    (last : DriveOnly middle after) : DriveOnly before after :=
  ⟨last.connection.trans first.connection, last.device.trans first.device, last.settings.trans first.settings,
    last.nextRequestId.trans first.nextRequestId, last.settingOperations.trans first.settingOperations⟩

theorem preparePhoneDriveWrite_only (session : DeviceConnectionSession) (action : Option PhoneDriveAction)
    (milliamps at_ : Nat) : DriveOnly session (session.preparePhoneDriveWrite action milliamps at_) ∧
      (session.preparePhoneDriveWrite action milliamps at_).lastInputAt = session.lastInputAt := by
  unfold preparePhoneDriveWrite
  split
  · exact ⟨.refl _, rfl⟩
  · split
    · split
      · exact ⟨.refl _, rfl⟩
      · exact ⟨⟨rfl, rfl, rfl, rfl, rfl⟩, rfl⟩
    · exact ⟨⟨rfl, rfl, rfl, rfl, rfl⟩, rfl⟩

theorem cancelPhoneDrive_only (session : DeviceConnectionSession) (reason : PhoneDriveCancelReason) :
    DriveOnly session (session.cancelPhoneDrive reason) ∧
      (session.cancelPhoneDrive reason).lastInputAt = session.lastInputAt := by
  unfold cancelPhoneDrive
  split
  · exact ⟨⟨rfl, rfl, rfl, rfl, rfl⟩, rfl⟩
  · dsimp only
    split
    · exact ⟨⟨rfl, rfl, rfl, rfl, rfl⟩, rfl⟩
    · split
      · exact ⟨⟨rfl, rfl, rfl, rfl, rfl⟩, rfl⟩
      · obtain ⟨only, clock⟩ := preparePhoneDriveWrite_only
          { session with phoneDriveInput := session.phoneDriveInput.cancel reason } none 0 session.lastInputAt
        exact ⟨⟨only.connection, only.device, only.settings, only.nextRequestId, only.settingOperations⟩, clock⟩

/-- The counters and the clock leave room for one more write and one more cancellation. -/
structure Room (session : DeviceConnectionSession) : Prop where
  sequence : session.drive.nextSequence < u64Max
  generation : ∃ generation, session.drive.input.generation = some generation ∧ generation < u64Max
  clock : session.lastInputAt + submissionWindow ≤ u64Max

theorem cancel_counts {input : PhoneDriveInputState} {generation : Nat} (current : input.generation = some generation)
    (room : generation < u64Max) (reason : PhoneDriveCancelReason) :
    (input.cancel reason).generation = some (generation + 1) := by
  obtain ⟨mode, epoch⟩ := input
  cases epoch with
  | exhausted => cases current
  | current generation' gesture =>
    cases current
    simp only [PhoneDriveInputState.cancel, PhoneDriveInputState.generation, if_pos room]

theorem Prepares.neutral {generation : Nat} (prepares : Prepares drive none 0 at_ next)
    (active : drive.activation.isSome = true) (sequence : drive.nextSequence < u64Max)
    (current : drive.input.generation = some generation) (clock : at_ + submissionWindow ≤ u64Max) :
    next.input = drive.input ∧ ∃ write, next.pending = some write ∧ write.admission.kind = .release ∧
      drive.nextSequence < write.admission.sequence ∧ write.admission.submitBefore = at_ + submissionWindow := by
  cases prepares with
  | inactive absent =>
    rw [absent] at active
    cases active
  | unidentified absent =>
    rw [absent] at current
    cases current
  | exhausted full => omega
  | prepared activation generation => exact ⟨rfl, _, rfl, rfl, Nat.lt_succ_self _, rfl⟩

theorem cancelPhoneDrive_neutral (session : DeviceConnectionSession) (reason : PhoneDriveCancelReason) (lasting : reason ≠ .connectionChanged)
    (room : session.Room) (guarded : session.drive.Guarded) (pressed : session.drive.Pressed)
    (active : session.drive.activation.isSome = true) :
    ∃ write, (session.cancelPhoneDrive reason).drive.pending = some write ∧ write.admission.kind = .release ∧
      session.drive.nextSequence < write.admission.sequence ∧
      write.admission.submitBefore = session.lastInputAt + submissionWindow := by
  have cancels := session.cancelPhoneDrive_cancels reason
  generalize (session.cancelPhoneDrive reason).drive = next at cancels ⊢
  obtain ⟨generation, current, counted⟩ := room.generation
  cases cancels with
  | dropped changed => exact absurd changed lasting
  | inactive inactive =>
    rw [inactive] at active
    cases active
  | kept waiting =>
    obtain ⟨write, known, release⟩ := hasPendingRelease_iff.mp waiting
    exact absurd pressed (guarded.release write known ((guarded.kind_release known).mp release)).2
  | released next _ waiting prepares =>
    exact (prepares.neutral active room.sequence (cancel_counts current counted reason) room.clock).2

/-- A pending release outlives every cancellation of the gesture. -/
theorem cancelPhoneDrive_keeps (lasting : reason ≠ .connectionChanged) {write : PendingWrite}
    (known : session.drive.pending = some write) (release : write.admission.kind = .release) :
    (session.cancelPhoneDrive reason).drive.pending = some write := by
  have cancels := session.cancelPhoneDrive_cancels reason
  generalize (session.cancelPhoneDrive reason).drive = next at cancels ⊢
  cases cancels with
  | dropped changed => exact absurd changed lasting
  | inactive | kept => exact known
  | released next _ waiting =>
    rw [hasPendingRelease_iff.mpr ⟨write, known, release⟩] at waiting
    cases waiting

section Session
variable (session : DeviceConnectionSession) (at_ : Nat)

theorem expireInput_moves :
    session.expireInput at_ = session ∨ session.drive.Pressed ∧ session.drive.activation.isSome = true ∧
      session.expireInput at_ = { session with lastInputAt := at_ }.cancelPhoneDrive .inputExpired := by
  unfold expireInput
  split
  · next action activation pressed active =>
    split
    · refine .inr ⟨⟨action, pressed⟩, ?_, rfl⟩
      change session.phoneDriveControl.activation.isSome = true
      rw [active]
      rfl
    · exact .inl rfl
  · exact .inl rfl

inductive ExpiresWrite (session : DeviceConnectionSession) (at_ : Nat) : DeviceConnectionSession → Prop where
  | waits (early : ∀ write, session.drive.pending = some write → at_ < write.admission.submitBefore) :
      ExpiresWrite session at_ session
  | setpoint (write : PendingWrite) (known : session.drive.pending = some write)
      (kind : write.admission.kind = .setpoint) (late : write.admission.submitBefore ≤ at_) :
      ExpiresWrite session at_
        ((session.dropWrite at_).cancelPhoneDrive .transportUnavailable)
  | release (write : PendingWrite) (known : session.drive.pending = some write)
      (kind : write.admission.kind = .release) (late : write.admission.submitBefore ≤ at_) :
      ExpiresWrite session at_
        { session with
          phoneDriveControl := { session.phoneDriveControl with pending := none, activation := none }
          phoneDriveInput := session.phoneDriveInput.cancel .transportUnavailable
          lastInputAt := at_ }

theorem expireWrite_moves : ExpiresWrite session at_ (session.expireWrite at_) := by
  unfold expireWrite
  split
  · next absent =>
    refine .waits ?_
    intro write known
    have known : session.phoneDriveControl.pending = some write := known
    rw [absent] at known
    cases known
  · next write known =>
    split
    · next early =>
      refine .waits ?_
      intro other same
      cases known.symm.trans same
      exact early
    · next late =>
      have late := Nat.le_of_not_lt late
      dsimp only
      split
      · next kind => exact .setpoint write known kind late
      · next kind => exact .release write known kind late

private theorem expireInput_carries :
    session.drive.Carries (session.expireInput at_).drive ∧ session.drive.Holds (session.expireInput at_).drive := by
  rcases session.expireInput_moves at_ with same | ⟨-, -, same⟩
  · rw [same]
    exact ⟨.refl _, .refl _⟩
  · rw [same]
    exact ⟨cancelPhoneDrive_carries { session with lastInputAt := at_ } _,
      cancelPhoneDrive_holds { session with lastInputAt := at_ } _⟩

private theorem expireWrite_carries :
    session.drive.Carries (session.expireWrite at_).drive ∧ session.drive.Holds (session.expireWrite at_).drive := by
  have moves := session.expireWrite_moves at_
  generalize session.expireWrite at_ = next at moves ⊢
  cases moves with
  | waits => exact ⟨.refl _, .refl _⟩
  | setpoint =>
    have carries : session.drive.Carries (session.dropWrite at_).drive := .dropped _
    have holds : session.drive.Holds (session.dropWrite at_).drive := fun held => ⟨held, rfl⟩
    exact ⟨carries.trans (cancelPhoneDrive_carries _ _), holds.trans (cancelPhoneDrive_holds _ _)⟩
  | release => exact ⟨.retired _ _, .of_inactive rfl⟩

private theorem advancePhoneDriveDeadlines_carries : session.drive.Carries (session.advancePhoneDriveDeadlines at_).drive ∧
      session.drive.Holds (session.advancePhoneDriveDeadlines at_).drive := by
  obtain ⟨carries, holds⟩ := session.expireInput_carries at_
  obtain ⟨carries', holds'⟩ := (session.expireInput at_).expireWrite_carries at_
  exact ⟨carries.trans carries', holds.trans holds'⟩

private theorem advancePhoneDriveDeadlines_only : DriveOnly session (session.advancePhoneDriveDeadlines at_) ∧
      ((session.advancePhoneDriveDeadlines at_).lastInputAt = session.lastInputAt ∨
        (session.advancePhoneDriveDeadlines at_).lastInputAt = at_) := by
  have first : DriveOnly session (session.expireInput at_) ∧
      ((session.expireInput at_).lastInputAt = session.lastInputAt ∨ (session.expireInput at_).lastInputAt = at_) := by
    rcases session.expireInput_moves at_ with same | ⟨-, -, same⟩
    · rw [same]
      exact ⟨.refl _, .inl rfl⟩
    · obtain ⟨only, clock⟩ := cancelPhoneDrive_only { session with lastInputAt := at_ } .inputExpired
      rw [same]
      exact ⟨⟨only.connection, only.device, only.settings, only.nextRequestId, only.settingOperations⟩, .inr clock⟩
  unfold advancePhoneDriveDeadlines
  have moves := (session.expireInput at_).expireWrite_moves at_
  generalize session.expireInput at_ = middle at first moves ⊢
  generalize middle.expireWrite at_ = next at moves ⊢
  cases moves with
  | waits => exact first
  | setpoint write known kind late =>
    obtain ⟨only, clock⟩ := (middle.dropWrite at_).cancelPhoneDrive_only .transportUnavailable
    exact ⟨first.1.trans ⟨only.connection, only.device, only.settings, only.nextRequestId, only.settingOperations⟩,
      .inr clock⟩
  | release => exact ⟨first.1.trans ⟨rfl, rfl, rfl, rfl, rfl⟩, .inr rfl⟩

end Session

/-- A held contact stays held or leaves a neutral write at its deadlines. -/
theorem advancePhoneDriveDeadlines_neutral (room : session.Room) (clock : at_ + submissionWindow ≤ u64Max)
    (guarded : session.drive.Guarded) (pressed : session.drive.Pressed)
    (active : session.drive.activation.isSome = true) : session.advancePhoneDriveDeadlines at_ = session ∨
      ¬(session.advancePhoneDriveDeadlines at_).drive.Pressed ∧
        (session.advancePhoneDriveDeadlines at_).drive.Neutral session.drive.nextSequence := by
  unfold advancePhoneDriveDeadlines
  rcases session.expireInput_moves at_ with same | ⟨-, -, same⟩
  · rw [same]
    have moves := session.expireWrite_moves at_
    generalize session.expireWrite at_ = next at moves ⊢
    cases moves with
    | waits => exact .inl rfl
    | setpoint write known kind late =>
      refine .inr ?_
      have emptied : (session.dropWrite at_).drive.Guarded :=
        (Drive.Carries.dropped _).guarded (by obtain ⟨generation, current, -⟩ := room.generation; rw [current]; rfl) guarded
      have left := (session.dropWrite at_).cancelPhoneDrive_neutral .transportUnavailable nofun ⟨room.sequence, room.generation, clock⟩ emptied pressed active
      obtain ⟨reason, cancelled⟩ := ((session.dropWrite at_).cancelPhoneDrive_cancels
        .transportUnavailable).cancelled
      obtain ⟨release, known, kind, newer, -⟩ := left
      exact ⟨Drive.not_pressed_of_cancelled cancelled, release, known, kind, newer⟩
    | release write known kind late =>
      exact absurd pressed (guarded.release write known ((guarded.kind_release known).mp kind)).2
  · refine .inr ?_
    have left := cancelPhoneDrive_neutral { session with lastInputAt := at_ } .inputExpired nofun
      ⟨room.sequence, room.generation, clock⟩ guarded pressed active
    obtain ⟨reason, cancelled⟩ := (cancelPhoneDrive_cancels { session with lastInputAt := at_ } .inputExpired).cancelled
    obtain ⟨release, known, kind, newer, deadline⟩ := left
    rw [← same] at known cancelled
    -- The new release is not due yet.
    have moves := (session.expireInput at_).expireWrite_moves at_
    generalize (session.expireInput at_).expireWrite at_ = next at moves ⊢
    have early : at_ < release.admission.submitBefore := by
      rw [deadline]
      exact Nat.lt_add_of_pos_right (by decide)
    cases moves with
    | waits => exact ⟨Drive.not_pressed_of_cancelled cancelled, release, known, kind, newer⟩
    | setpoint write other _ late | release write other _ late =>
      obtain rfl := Option.some.inj (known.symm.trans other)
      omega

theorem Prepares.setpoint_guarded {activation : Activation} {action : PhoneDriveAction}
    (prepares : Prepares drive (some action) (activation.limits.of action) at_ next)
    (counted : drive.input.generation.isSome = true) (active : drive.activation = some activation)
    (pressed : drive.input.phase = .pressed action) (surface : drive.input.mode = .disabled → ¬drive.Pressed) :
    next.Guarded := by
  refine prepares.guarded counted ?_ surface ⟨pressed, ?_⟩
  · intro inactive
    rw [active] at inactive
    cases inactive
  · intro other same
    rw [active] at same
    cases same
    rfl

section Session
variable (session : DeviceConnectionSession) (at_ : Nat) (canSubmit : Bool)

theorem renewSetpoint_moves :
    session.renewSetpoint at_ canSubmit = session ∨ ∃ activation action, session.drive.activation = some activation ∧
      session.drive.input.phase = .pressed action ∧ session.drive.pending = none ∧
      session.renewSetpoint at_ canSubmit =
        session.preparePhoneDriveWrite (some action) (activation.limits.of action) at_ := by
  unfold renewSetpoint
  split
  · next activation action active pressed =>
    split
    · next due => exact .inr ⟨activation, action, active, pressed, Option.isNone_iff_eq_none.mp due.2.1, rfl⟩
    · exact .inl rfl
  · exact .inl rfl

private theorem renewSetpoint_carries : session.drive.Carries (session.renewSetpoint at_ canSubmit).drive ∧
      session.drive.Holds (session.renewSetpoint at_ canSubmit).drive := by
  rcases session.renewSetpoint_moves at_ canSubmit with same | ⟨activation, action, active, pressed, -, same⟩
  · rw [same]
    exact ⟨.refl _, .refl _⟩
  · rw [same]
    have prepares := session.preparePhoneDriveWrite_prepares (some action) (activation.limits.of action) at_
    obtain ⟨sequence, counted, pending⟩ := prepares.carries
    refine ⟨⟨?_, sequence, counted, pending⟩, prepares.holds⟩
    intro known guarded
    exact prepares.setpoint_guarded (counted known) active pressed guarded.surface

private theorem renewSetpoint_only : DriveOnly session (session.renewSetpoint at_ canSubmit) ∧
      (session.renewSetpoint at_ canSubmit).lastInputAt = session.lastInputAt := by
  rcases session.renewSetpoint_moves at_ canSubmit with same | ⟨activation, action, -, -, -, same⟩
  · rw [same]
    exact ⟨.refl _, rfl⟩
  · rw [same]
    exact session.preparePhoneDriveWrite_only _ _ _

end Session

/-- The end of a drive call emits the pending write in time, or leaves it. -/
inductive Finishes (session : DeviceConnectionSession) (at_ : Nat) :
    DeviceConnectionSession → Option EmittedWrite → Prop where
  | silent (next : DeviceConnectionSession) (same : next.drive = session.drive) (only : DriveOnly session next)
      (clock : next.lastInputAt = max session.lastInputAt at_) : Finishes session at_ next none
  | refused : Finishes session at_ session none
  | unencoded (next : DeviceConnectionSession) (write : PendingWrite) (known : session.drive.pending = some write)
      (wide : ¬write.milliamps < 2 ^ 31) (carries : session.drive.Carries next.drive)
      (holds : session.drive.Holds next.drive) (only : DriveOnly session next)
      (clock : next.lastInputAt = max session.lastInputAt at_) : Finishes session at_ next none
  | emitted (next : DeviceConnectionSession) (write : EmittedWrite) (emits : Drive.Emits session.drive next.drive write.admission)
      (early : at_ < write.admission.submitBefore) (only : DriveOnly session next)
      (clock : next.lastInputAt = max session.lastInputAt at_) : Finishes session at_ next (some write)

theorem emitPhoneDrive_finishes (session : DeviceConnectionSession) (token : ConnectionAttemptToken) (at_ : Nat)
    (canSubmit : Bool) : Finishes session at_ (session.emitPhoneDrive token at_ canSubmit).1
      (session.emitPhoneDrive token at_ canSubmit).2.join := by
  unfold emitPhoneDrive phoneDriveStep
  by_cases verified : session.connection.isVerified token = false
  · simp only [if_pos verified]
    exact .refused
  · simp only [if_neg verified]
    split
    · unfold appendPhoneDriveWrite
      split
      · exact .silent _ rfl ⟨rfl, rfl, rfl, rfl, rfl⟩ rfl
      · next write known =>
        split
        · exact .silent _ rfl ⟨rfl, rfl, rfl, rfl, rfl⟩ rfl
        · next fresh =>
          obtain ⟨unemitted, -, early⟩ := not_or.mp fresh |>.imp id not_or.mp
          split
          · next unencoded =>
            have wide : ¬write.milliamps < 2 ^ 31 := by
              intro narrow
              obtain ⟨bytes, encoded⟩ := encodePhoneDriveCurrent_some write.action narrow
              rw [encoded] at unencoded
              cases unencoded
            exact .unencoded _ write known wide (.retired _ _) (.of_inactive rfl) ⟨rfl, rfl, rfl, rfl, rfl⟩ rfl
          · next bytes encoded =>
            exact .emitted _ _ ⟨write, known, by simpa using unemitted, rfl, rfl⟩ (Nat.lt_of_not_le early)
              ⟨rfl, rfl, rfl, rfl, rfl⟩ rfl
    · exact .silent _ rfl ⟨rfl, rfl, rfl, rfl, rfl⟩ rfl

def Drives (before after : DeviceConnectionSession) (write : Option EmittedWrite) : Prop :=
  ∃ middle, before.drive.Carries middle ∧ match write with
    | none => after.drive = middle
    | some write => Drive.Emits middle after.drive write.admission ∧ after.lastInputAt < write.admission.submitBefore

section Finishes
variable (finishes : Finishes session at_ after write)
include finishes

theorem Finishes.drives (carries : before.drive.Carries session.drive) (clock : session.lastInputAt ≤ at_) :
    Drives before after write := by
  cases finishes with
  | silent next same => exact ⟨_, carries, same⟩
  | refused => exact ⟨_, carries, rfl⟩
  | unencoded next write known wide more => exact ⟨_, carries.trans more, rfl⟩
  | emitted next write emits early only reached =>
    refine ⟨_, carries, emits, ?_⟩
    rw [reached, Nat.max_eq_right clock]
    exact early

theorem Finishes.holds : session.drive.Holds after.drive := by
  cases finishes with
  | silent next same =>
    rw [same]
    exact .refl _
  | refused => exact .refl _
  | unencoded next write known wide carries holds => exact holds
  | emitted next write emits =>
    obtain ⟨pending, -, -, -, same⟩ := emits
    rw [same]
    exact fun held => ⟨held, rfl⟩

theorem Finishes.counted (counted : after.drive.input.generation.isSome = true) :
    session.drive.input.generation.isSome = true := by
  cases finishes with
  | silent next same => rwa [same] at counted
  | refused => exact counted
  | unencoded next write known wide carries => exact carries.counted counted
  | emitted next write emits =>
    obtain ⟨_, -, -, -, same⟩ := emits
    rwa [same] at counted

/-- The end of a call keeps a guarded neutral write and a held contact. -/
theorem Finishes.keeps (guarded : session.drive.Guarded) :
    after.drive.input = session.drive.input ∧ ∀ base, session.drive.Neutral base → after.drive.Neutral base := by
  cases finishes with
  | silent next same =>
    rw [same]
    exact ⟨rfl, fun _ => id⟩
  | refused => exact ⟨rfl, fun _ => id⟩
  | unencoded next write known wide => exact absurd (guarded.encodes known) wide
  | emitted next write emits =>
    obtain ⟨pending, known, -, -, same⟩ := emits
    rw [same]
    refine ⟨rfl, ?_⟩
    rintro base ⟨release, other, kind, newer⟩
    obtain rfl := Option.some.inj (known.symm.trans other)
    exact ⟨_, rfl, kind, newer⟩

end Finishes

/-- The session of a tick right before it emits, with the time it emits at. -/
structure Ticks (session middle : DeviceConnectionSession) (at_ : Nat) : Prop where
  carries : session.drive.Carries middle.drive
  holds : session.drive.Holds middle.drive
  only : DriveOnly session middle
  clock : middle.lastInputAt ≤ at_
  reached : session.lastInputAt ≤ at_

theorem tickPhoneDrive_cases (session : DeviceConnectionSession) (token : ConnectionAttemptToken) (at_ : Nat)
    (canSubmit : Bool) : session.tickPhoneDrive token at_ canSubmit = (session, none) ∨
      ∃ middle, Ticks session middle (max at_ session.lastInputAt) ∧
        session.tickPhoneDrive token at_ canSubmit =
          middle.emitPhoneDrive token (max at_ session.lastInputAt) canSubmit ∧
        middle = (((if at_ < session.lastInputAt then session.cancelPhoneDrive .inputExpired else session
          ).advancePhoneDriveDeadlines (max at_ session.lastInputAt)).renewSetpoint (max at_ session.lastInputAt) canSubmit) := by
  unfold tickPhoneDrive
  split
  · exact .inl rfl
  · refine .inr ?_
    have start : Ticks session (if at_ < session.lastInputAt then session.cancelPhoneDrive .inputExpired else session)
        (max at_ session.lastInputAt) ∧
        (if at_ < session.lastInputAt then session.cancelPhoneDrive .inputExpired else session).lastInputAt =
          session.lastInputAt := by
      split
      · obtain ⟨only, clock⟩ := session.cancelPhoneDrive_only .inputExpired
        exact ⟨⟨session.cancelPhoneDrive_carries _, session.cancelPhoneDrive_holds _, only,
          clock ▸ Nat.le_max_right _ _, Nat.le_max_right _ _⟩, clock⟩
      · exact ⟨⟨.refl _, .refl _, .refl _, Nat.le_max_right _ _, Nat.le_max_right _ _⟩, rfl⟩
    dsimp only
    generalize (if at_ < session.lastInputAt then session.cancelPhoneDrive .inputExpired else session) = first at start ⊢
    obtain ⟨ticks, same⟩ := start
    rw [same]
    generalize max at_ session.lastInputAt = time at ticks ⊢
    obtain ⟨carries, holds⟩ := first.advancePhoneDriveDeadlines_carries time
    obtain ⟨only, clock⟩ := first.advancePhoneDriveDeadlines_only time
    obtain ⟨carries', holds'⟩ := (first.advancePhoneDriveDeadlines time).renewSetpoint_carries time canSubmit
    obtain ⟨only', clock'⟩ := (first.advancePhoneDriveDeadlines time).renewSetpoint_only time canSubmit
    refine ⟨_, ⟨ticks.carries.trans (carries.trans carries'), ticks.holds.trans (holds.trans holds'),
      ticks.only.trans (only.trans only'), ?_, ticks.reached⟩, rfl, rfl⟩
    rw [clock']
    rcases clock with clock | clock
    · exact clock.trans_le ticks.clock
    · exact le_of_eq clock

/-- A neutral write that is not due survives the deadlines of a gesture that is not pressed. -/
theorem advancePhoneDriveDeadlines_keeps (lifted : ¬session.drive.Pressed)
    (early : ∀ write, session.drive.pending = some write → at_ < write.admission.submitBefore) :
    session.advancePhoneDriveDeadlines at_ = session := by
  unfold advancePhoneDriveDeadlines
  rcases session.expireInput_moves at_ with same | ⟨pressed, -⟩
  · rw [same]
    have moves := session.expireWrite_moves at_
    generalize session.expireWrite at_ = next at moves ⊢
    cases moves with
    | waits => rfl
    | setpoint write known _ late | release write known _ late =>
      have := early write known
      omega
  · exact absurd pressed lifted

theorem renewSetpoint_keeps {canSubmit : Bool} (lifted : ¬session.drive.Pressed) :
    session.renewSetpoint at_ canSubmit = session := by
  rcases session.renewSetpoint_moves at_ canSubmit with same | ⟨activation, action, -, pressed, -⟩
  · exact same
  · exact absurd ⟨action, pressed⟩ lifted

/-- A renewed setpoint keeps the contact held as long as there is room for it. -/
theorem renewSetpoint_pressed (session : DeviceConnectionSession) (canSubmit : Bool)
    (sequence : session.drive.nextSequence < u64Max) (clock : at_ + submissionWindow ≤ u64Max) :
    (session.renewSetpoint at_ canSubmit).drive.input = session.drive.input := by
  rcases session.renewSetpoint_moves at_ canSubmit with same | ⟨activation, action, -, -, -, same⟩
  · rw [same]
  · rw [same]
    have prepares := session.preparePhoneDriveWrite_prepares (some action) (activation.limits.of action) at_
    generalize (session.preparePhoneDriveWrite (some action) (activation.limits.of action) at_).drive = next at prepares ⊢
    cases prepares with
    | exhausted full => omega
    | inactive | unidentified | prepared => rfl

/-- The dead-man switch of one call: a contact held under an activation stays held, or leaves a neutral write. -/
def Releases (before after : DeviceConnectionSession) : Prop :=
  before.drive.Pressed → before.drive.activation.isSome = true →
    after.drive.Pressed ∨ after.drive.Neutral before.drive.nextSequence

theorem Releases.of_same (same : after.drive = before.drive) : Releases before after := by
  intro pressed _
  rw [same]
  exact .inl pressed

theorem counted_of_room (room : session.Room) : session.drive.input.generation.isSome = true := by
  obtain ⟨generation, current, -⟩ := room.generation
  rw [current]
  rfl

theorem tickPhoneDrive_releases {token : ConnectionAttemptToken} {canSubmit : Bool} (room : session.Room)
    (clock : at_ + submissionWindow ≤ u64Max) (guarded : session.drive.Guarded)
    (counted : (session.tickPhoneDrive token at_ canSubmit).1.drive.input.generation.isSome = true) :
    Releases session (session.tickPhoneDrive token at_ canSubmit).1 := by
  rcases session.tickPhoneDrive_cases token at_ canSubmit with same | ⟨middle, ticks, same, ticked⟩
  · rw [same]
    exact .of_same rfl
  · have time : max at_ session.lastInputAt + submissionWindow ≤ u64Max := by
      have := room.clock
      omega
    intro pressed active
    have finishes := middle.emitPhoneDrive_finishes token (max at_ session.lastInputAt) canSubmit
    rw [same] at counted ⊢
    generalize (middle.emitPhoneDrive token (max at_ session.lastInputAt) canSubmit).2.join = write at finishes
    generalize (middle.emitPhoneDrive token (max at_ session.lastInputAt) canSubmit).1 = after at finishes counted ⊢
    by_cases regressed : at_ < session.lastInputAt
    · -- The release of a regressed clock is due only behind its window.
      rw [if_pos regressed, Nat.max_eq_right (Nat.le_of_lt regressed)] at ticked
      obtain ⟨write', known, kind, newer, deadline⟩ :=
        session.cancelPhoneDrive_neutral .inputExpired nofun room guarded pressed active
      obtain ⟨reason, cancelled⟩ := (session.cancelPhoneDrive_cancels .inputExpired).cancelled
      have lifted := Drive.not_pressed_of_cancelled cancelled
      rw [advancePhoneDriveDeadlines_keeps lifted, renewSetpoint_keeps lifted] at ticked
      · subst ticked
        have survived := finishes.counted counted
        have fits := (session.cancelPhoneDrive_carries .inputExpired).guarded survived guarded
        exact .inr ((finishes.keeps fits).2 _ ⟨write', known, kind, newer⟩)
      · intro other equal
        obtain rfl := Option.some.inj (known.symm.trans equal)
        rw [deadline]
        exact Nat.lt_add_of_pos_right (by decide)
    · rw [if_neg regressed] at ticked
      rcases advancePhoneDriveDeadlines_neutral room time guarded pressed active with stays | ⟨lifted, neutral⟩
      · rw [stays] at ticked
        have input := session.renewSetpoint_pressed canSubmit room.sequence time
        rw [← ticked] at input
        have fits := ticks.carries.guarded (by rw [input]; exact counted_of_room room) guarded
        left
        unfold Drive.Pressed
        rw [(finishes.keeps fits).1, input]
        exact pressed
      · rw [renewSetpoint_keeps lifted] at ticked
        subst ticked
        have survived := finishes.counted counted
        exact .inr ((finishes.keeps (ticks.carries.guarded survived guarded)).2 _ neutral)

end DeviceConnectionSession

end Cutout.Connections

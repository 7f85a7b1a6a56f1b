import Cutout.Proofs.LightingRuns

/-! What a lighting session waits for. Every state that waits for the platform has its timer
armed, or it holds a connection back until Bluetooth is on; a probe has a timer in every
state it can be in, and its end begins the next probe. -/

namespace Cutout.Lighting
open Library
open SessionReducer (finishProbe connectionTimedOut connectSelected resumeRestoration emitWrite handleTimerFired handle step)

namespace SessionReducer
variable {session before after : SessionReducer}

def Resting (session : SessionReducer) : Prop :=
  session.state = .idle ∨ session.state = .scanning ∨ session.state = .disconnected ∨ ∃ reason, session.state = .failed reason

structure Waits (session : SessionReducer) : Prop where
  resting : session.Resting → session.timer = none ∧ session.purpose = .selected
  -- A scan without a remembered accessory has none selected.
  scanning : session.state = .scanning → session.preferredIdentifier = none → session.selectedIdentifier = none
  connecting : session.state = .connecting → session.selectedIdentifier.isSome = true ∧
    ((session.timer = some .connectionAttempt ∧ session.pendingRestoration = none) ∨
      (session.timer = none ∧ session.pendingRestoration.isSome = true ∧ session.purpose = .selected))
  retrying : ∀ attempt delay, session.state = .retrying attempt delay → session.selectedIdentifier.isSome = true ∧
    session.purpose = .selected ∧
    (session.timer = some .reconnect ∨ (session.timer = none ∧ session.pendingRestoration.isSome = true))
  discovering : session.state = .discovering → session.gatt ≠ .subscribed → session.timer = some .discovery
  parked : session.pendingRestoration.isSome = true → session.selectedIdentifier.isSome = true
  remembered : session.state = .connecting → session.bluetoothPoweredOn = false → session.preferredIdentifier = none

namespace Waits

theorem rests (resting : session.Resting) (timer : session.timer = none) (purpose : session.purpose = .selected)
    (scanning : session.state = .scanning → session.preferredIdentifier = none → session.selectedIdentifier = none)
    (parked : session.pendingRestoration.isSome = true → session.selectedIdentifier.isSome = true) : Waits session := by
  have other : session.state ≠ .connecting ∧ session.state ≠ .discovering ∧
      ∀ attempt delay, session.state ≠ .retrying attempt delay := by
    rcases resting with here | here | here | ⟨reason, here⟩
    all_goals
      rw [here]
      simp
  refine ⟨fun _ => ⟨timer, purpose⟩, scanning, ?_, ?_, ?_, parked, ?_⟩
  · intro here
    exact absurd here other.1
  · intro attempt delay here
    exact absurd here (other.2.2 attempt delay)
  · intro here
    exact absurd here other.2.1
  · intro here
    exact absurd here other.1

theorem connects (state : session.state = .connecting) (timer : session.timer = some .connectionAttempt)
    (selected : session.selectedIdentifier.isSome = true) (pending : session.pendingRestoration = none)
    (remembered : session.bluetoothPoweredOn = false → session.preferredIdentifier = none) : Waits session := by
  refine ⟨?_, ?_, fun _ => ⟨selected, .inl ⟨timer, pending⟩⟩, ?_, ?_, fun _ => selected, fun _ => remembered⟩
  · intro resting
    rw [Resting, state] at resting
    simp at resting
  · rw [state]
    simp
  · rw [state]
    simp
  · rw [state]
    simp

theorem retries {attempt delay : Nat} (state : session.state = .retrying attempt delay)
    (timer : session.timer = some .reconnect) (selected : session.selectedIdentifier.isSome = true)
    (purpose : session.purpose = .selected) : Waits session := by
  refine ⟨?_, ?_, ?_, fun _ _ _ => ⟨selected, purpose, .inl timer⟩, ?_, fun _ => selected, ?_⟩
  · intro resting
    rw [Resting, state] at resting
    simp at resting
  · rw [state]
    simp
  · rw [state]
    simp
  · rw [state]
    simp
  · rw [state]
    simp

/-- In discovery and after it nothing but the discovery timer is asked for. -/
theorem works (state : session.state = .discovering ∨ session.state = .ready)
    (discovering : session.state = .discovering → session.gatt ≠ .subscribed → session.timer = some .discovery)
    (selected : session.selectedIdentifier.isSome = true) : Waits session := by
  refine ⟨?_, ?_, ?_, ?_, discovering, fun _ => selected, ?_⟩
  · intro resting
    rcases state with here | here
    all_goals
      rw [Resting, here] at resting
      simp at resting
  all_goals
    rcases state with here | here
    all_goals
      rw [here]
      simp

theorem parks (idle : session.state ≠ .discovering ∧ session.state ≠ .ready) (pending : session.pendingRestoration.isSome = true)
    (selected : session.selectedIdentifier.isSome = true) (purpose : session.purpose = .selected)
    (timer : session.timer = none ∨ ∃ attempt delay, session.state = .retrying attempt delay ∧ session.timer = some .reconnect)
    (scanning : session.state = .scanning → session.preferredIdentifier ≠ none)
    (remembered : session.state = .connecting → session.preferredIdentifier = none) : Waits session := by
  refine ⟨?_, ?_, ?_, ?_, ?_, fun _ => selected, fun here _ => remembered here⟩
  · intro resting
    refine ⟨?_, purpose⟩
    rcases timer with none | ⟨attempt, delay, here, -⟩
    · exact none
    · rw [Resting, here] at resting
      simp at resting
  · intro here missing
    exact absurd missing (scanning here)
  · intro here
    refine ⟨selected, .inr ⟨?_, pending, purpose⟩⟩
    rcases timer with none | ⟨attempt, delay, other, -⟩
    · exact none
    · rw [here] at other
      cases other
  · intro attempt delay here
    refine ⟨selected, purpose, ?_⟩
    rcases timer with none | ⟨_, _, -, armed⟩
    · exact .inr ⟨none, pending⟩
    · exact .inl armed
  · intro here
    exact absurd here idle.1

theorem congr (waits : Waits before) (state : after.state = before.state) (timer : after.timer = before.timer)
    (purpose : after.purpose = before.purpose) (selected : after.selectedIdentifier = before.selectedIdentifier)
    (pending : after.pendingRestoration = before.pendingRestoration) (gatt : after.gatt = before.gatt)
    (preferred : after.preferredIdentifier = before.preferredIdentifier)
    (powered : after.bluetoothPoweredOn = before.bluetoothPoweredOn ∨ after.bluetoothPoweredOn = true) : Waits after := by
  refine ⟨?_, ?_, ?_, ?_, ?_, ?_, ?_⟩
  · rw [Resting, state, timer, purpose]
    exact waits.resting
  · rw [state, preferred, selected]
    exact waits.scanning
  · rw [state, timer, purpose, selected, pending]
    exact waits.connecting
  · rw [state, timer, purpose, selected, pending]
    exact waits.retrying
  · rw [state, timer, gatt]
    exact waits.discovering
  · rw [pending, selected]
    exact waits.parked
  · intro here off
    rw [state] at here
    rw [preferred]
    rcases powered with same | on
    · exact waits.remembered here (same ▸ off)
    · rw [on] at off
      cases off

theorem push (waits : Waits session) (action : LightingSessionAction) : Waits (session.push action) :=
  waits.congr rfl rfl rfl rfl rfl rfl rfl (.inl rfl)

theorem record (waits : Waits session) (value : String) : Waits (session.record value) :=
  waits.congr rfl rfl rfl rfl rfl rfl rfl (.inl rfl)

end Waits

theorem Linked.unparked (linked : Linked session) (powered : session.bluetoothPoweredOn = true) :
    session.pendingRestoration = none := by
  cases pending : session.pendingRestoration with
  | none => rfl
  | some connection =>
    have off := linked.pending (by rw [pending]; rfl)
    rw [powered] at off
    cases off

theorem Linked.selected_of_purpose (linked : Linked session) (unselected : session.selectedIdentifier = none) :
    session.purpose = .selected := by
  cases purpose : session.purpose with
  | selected => rfl
  | probe =>
    have selected := (linked.probing purpose).2
    rw [unselected] at selected
    cases selected

/-- With Bluetooth off, the session neither probes nor uses a link. -/
theorem Linked.off (linked : Linked session) (powered : session.bluetoothPoweredOn = false) :
    session.purpose = .selected ∧ session.state ≠ .discovering ∧ session.state ≠ .ready := by
  refine ⟨?_, ?_, ?_⟩
  · cases purpose : session.purpose with
    | selected => rfl
    | probe =>
      have on := (linked.probing purpose).1
      rw [powered] at on
      cases on
  · intro here
    have on := (linked.active (.inl here)).1
    rw [powered] at on
    cases on
  · intro here
    have on := (linked.active (.inr here)).1
    rw [powered] at on
    cases on

theorem Waits.timed (waits : Waits session) (linked : Linked session)
    (timer : session.timer = some .connectionAttempt ∨ session.timer = some .discovery) : session.pendingRestoration = none := by
  cases state : session.state with
  | idle =>
    rw [(waits.resting (.inl state)).1] at timer
    simp at timer
  | scanning =>
    rw [(waits.resting (.inr (.inl state))).1] at timer
    simp at timer
  | disconnected =>
    rw [(waits.resting (.inr (.inr (.inl state)))).1] at timer
    simp at timer
  | failed reason =>
    rw [(waits.resting (.inr (.inr (.inr ⟨reason, state⟩)))).1] at timer
    simp at timer
  | connecting =>
    rcases (waits.connecting state).2 with ⟨-, none⟩ | ⟨untimed, -, -⟩
    · exact none
    · rw [untimed] at timer
      simp at timer
  | retrying attempt delay =>
    rcases (waits.retrying attempt delay state).2.2 with armed | ⟨untimed, -⟩
    · rw [armed] at timer
      simp at timer
    · rw [untimed] at timer
      simp at timer
  | discovering => exact linked.unparked (linked.active (.inl state)).1
  | ready => exact linked.unparked (linked.active (.inr state)).1

theorem Waits.untimed (waits : Waits session) (unlinked : session.state ≠ .discovering ∧ session.state ≠ .ready)
    (unconnected : session.state ≠ .connecting) : session.timer = none ∨
      ∃ attempt delay, session.state = .retrying attempt delay ∧ session.timer = some .reconnect := by
  cases state : session.state with
  | idle => exact .inl (waits.resting (.inl state)).1
  | scanning => exact .inl (waits.resting (.inr (.inl state))).1
  | connecting => exact absurd state unconnected
  | retrying attempt delay =>
    rcases (waits.retrying attempt delay state).2.2 with armed | ⟨untimed, -⟩
    · exact .inr ⟨attempt, delay, rfl, armed⟩
    · exact .inl untimed
  | discovering => exact absurd state unlinked.1
  | ready => exact absurd state unlinked.2
  | disconnected => exact .inl (waits.resting (.inr (.inr (.inl state)))).1
  | failed reason => exact .inl (waits.resting (.inr (.inr (.inr ⟨reason, state⟩)))).1

theorem Waits.probeNext (waits : Waits session) (unparked : session.bluetoothPoweredOn = true → session.pendingRestoration = none) :
    Waits session.probeNext := by
  unfold SessionReducer.probeNext
  split
  · exact waits
  · next free =>
    have powered : session.bluetoothPoweredOn = true := by
      simp only [not_or, Bool.not_eq_false] at free
      exact free.2
    rcases probeFrom_cases session session.probeQueue with same | ⟨identifier, later, name, probes⟩
    · rw [same]
      exact waits.congr rfl rfl rfl rfl rfl rfl rfl (.inl rfl)
    · rw [probes]
      refine .connects rfl rfl rfl (unparked powered) ?_
      intro off
      exact absurd (powered.symm.trans off) (by decide)

private theorem probeOutcome_pending (identifier : String) (outcome : ProbeOutcome) :
    (session.probeOutcome identifier outcome).pendingRestoration = session.pendingRestoration ∧
      (session.probeOutcome identifier outcome).selectedIdentifier = session.selectedIdentifier := by
  cases outcome with
  | supported | unsupported | unavailable => exact ⟨rfl, rfl⟩

theorem Waits.scans (purpose : session.purpose = .selected) (unselected : session.selectedIdentifier = none)
    (unparked : session.pendingRestoration = none) : Waits (session.transition .scanning) := by
  refine .rests (.inr (.inl rfl)) rfl purpose (fun _ _ => unselected) ?_
  intro pending
  have held : session.pendingRestoration.isSome = true := pending
  rw [unparked] at held
  cases held

theorem Waits.fails {reason : String} (purpose : session.purpose = .selected)
    (parked : session.pendingRestoration.isSome = true → session.selectedIdentifier.isSome = true) :
    Waits (session.transition (.failed reason)) := by
  refine .rests (.inr (.inr (.inr ⟨reason, rfl⟩))) rfl purpose ?_ parked
  intro here
  cases here

theorem finishProbe_waits (selected : session.selectedIdentifier.isSome = true) (unparked : session.pendingRestoration = none)
    (outcome : ProbeOutcome) : Waits (session.finishProbe outcome) := by
  obtain ⟨identifier, known⟩ := Option.isSome_iff_exists.mp selected
  unfold finishProbe
  rw [known]
  dsimp only
  have noted := @probeOutcome_pending ({ session with selectedIdentifier := none }.push (.cancelConnect identifier))
    identifier outcome
  refine .probeNext ?_ (fun _ => noted.1.trans unparked)
  exact .scans rfl noted.2 (noted.1.trans unparked)

private theorem dropSelected_kept : session.dropSelected.pendingRestoration = session.pendingRestoration ∧
    session.dropSelected.purpose = session.purpose := by
  unfold SessionReducer.dropSelected
  split <;> exact ⟨rfl, rfl⟩

theorem rejectCandidate_waits (linked : Linked session) (unparked : session.pendingRestoration = none) (reason : String) :
    Waits (session.rejectCandidate reason) := by
  unfold SessionReducer.rejectCandidate
  by_cases probing : session.isProbing = true
  · rw [if_pos probing]
    exact @finishProbe_waits (session.record _) (linked.probing (of_decide_eq_true probing)).2 unparked _
  · rw [if_neg probing]
    have purpose := not_probing (Bool.eq_false_of_not_eq_true probing)
    have kept := @dropSelected_kept session
    have held := kept.1.trans unparked
    dsimp only
    split
    · refine .push (.record (.scans ?_ ?_ ?_) _) _
      · exact kept.2.trans purpose
      · rfl
      · exact held
    · refine .fails (kept.2.trans purpose) ?_
      intro pending
      rw [held] at pending
      cases pending

theorem discoveryFailed_waits (linked : Linked session) (unparked : session.pendingRestoration = none) (reason : String) :
    Waits (session.discoveryFailed reason) := by
  unfold SessionReducer.discoveryFailed
  split
  · next probing => exact finishProbe_waits (linked.probing (of_decide_eq_true probing)).2 unparked _
  · exact rejectCandidate_waits linked unparked reason

theorem scheduleReconnect_waits (selected : session.selectedIdentifier.isSome = true) (purpose : session.purpose = .selected)
    (reason : String) : Waits (session.scheduleReconnect reason) := by
  unfold SessionReducer.scheduleReconnect
  dsimp only
  split
  · refine .record (.fails ?_ ?_) _
    · exact purpose
    · exact fun _ => selected
  · exact .retries rfl rfl selected purpose

private theorem cancelSelected_kept : session.cancelSelected.pendingRestoration = session.pendingRestoration ∧
    session.cancelSelected.purpose = session.purpose := by
  unfold SessionReducer.cancelSelected
  split <;> exact ⟨rfl, rfl⟩

private theorem rescan_waits (purpose : session.purpose = .selected) (unparked : session.pendingRestoration = none) :
    Waits session.rescan := by
  have scans {middle : SessionReducer} (purpose : middle.purpose = .selected) (unselected : middle.selectedIdentifier = none)
      (unparked : middle.pendingRestoration = none) :
      Waits (((middle.transition .scanning).push .scan).record "connect_timeout") :=
    .record (.push (.scans purpose unselected unparked) _) _
  unfold SessionReducer.rescan
  dsimp only
  split
  · split
    · refine .record (.fails ?_ ?_) _
      · exact purpose
      · intro pending
        have held : session.pendingRestoration.isSome = true := pending
        rw [unparked] at held
        cases held
    · exact scans purpose rfl unparked
  · exact scans purpose rfl unparked

theorem connectionTimedOut_waits (linked : Linked session) (unparked : session.pendingRestoration = none) :
    Waits session.connectionTimedOut := by
  unfold connectionTimedOut
  split
  · next probing => exact finishProbe_waits (linked.probing (of_decide_eq_true probing)).2 unparked _
  · next other =>
    have kept := @cancelSelected_kept session
    exact rescan_waits (kept.2.trans (not_probing (Bool.eq_false_of_not_eq_true other))) (kept.1.trans unparked)

theorem connectSelected_waits (powered : session.bluetoothPoweredOn = true) (unparked : session.pendingRestoration = none)
    (selected : session.selectedIdentifier.isSome = true) : Waits session.connectSelected := by
  obtain ⟨identifier, known⟩ := Option.isSome_iff_exists.mp selected
  unfold connectSelected
  rw [known]
  dsimp only
  rw [if_pos powered]
  refine .connects rfl rfl selected unparked ?_
  intro off
  exact absurd (powered.symm.trans off) (by decide)

theorem resumeRestoration_timed (powered : session.bluetoothPoweredOn = true)
    (selected : session.selectedIdentifier.isSome = true) (connection : RestoredConnection) :
    Waits (session.resumeRestoration connection) := by
  have on (off : session.bluetoothPoweredOn = false) : session.preferredIdentifier = none :=
    absurd (powered.symm.trans off) (by decide)
  unfold resumeRestoration
  rw [if_pos powered]
  cases connection with
  | connected =>
    dsimp only
    split
    · next unselected =>
      rw [unselected] at selected
      cases selected
    · exact .works (.inl rfl) (fun _ _ => rfl) selected
  | pending => exact .connects rfl rfl selected rfl on
  | disconnected => exact connectSelected_waits powered rfl selected

theorem resumeRestoration_parked (off : session.bluetoothPoweredOn = false) (connection : RestoredConnection) :
    session.resumeRestoration connection = { session with pendingRestoration := some connection } := by
  unfold resumeRestoration
  rw [if_neg (ne_true_of_eq_false off)]

theorem connectSelected_parked {identifier : String} (off : session.bluetoothPoweredOn = false)
    (selected : session.selectedIdentifier = some identifier) :
    session.connectSelected = { session with pendingRestoration := some .disconnected } := by
  unfold connectSelected
  rw [selected]
  dsimp only
  rw [if_neg (ne_true_of_eq_false off)]

private theorem abandonProbe_kept : session.abandonProbe.pendingRestoration = session.pendingRestoration ∧
    session.abandonProbe.purpose = .selected ∧ session.abandonProbe.preferredIdentifier = session.preferredIdentifier := by
  unfold SessionReducer.abandonProbe
  split
  · split <;> exact ⟨rfl, rfl, rfl⟩
  · next other => exact ⟨rfl, not_probing (Bool.eq_false_of_not_eq_true other), rfl⟩

private theorem select_waits (waits : Waits session) (linked : Linked session) (identifier : String) :
    Waits (session.select identifier) := by
  unfold SessionReducer.select
  split
  · exact waits
  · next chosen =>
    simp only [not_or, not_and, Bool.not_eq_false, Bool.not_eq_true] at chosen
    obtain ⟨placed, unremembered, -, -⟩ := chosen
    have preferred : session.preferredIdentifier = none := Option.isSome_eq_false_iff.mp unremembered |> Option.isNone_iff_eq_none.mp
    split
    · exact waits
    · have kept := @abandonProbe_kept session
      have unparked : session.pendingRestoration = none := by
        by_cases probing : session.isProbing = true
        · exact linked.unparked (linked.probing (of_decide_eq_true probing)).1
        · have scanning : session.state = .scanning := not_not.mp (placed (Bool.eq_false_of_not_eq_true probing))
          cases pending : session.pendingRestoration with
          | none => rfl
          | some connection =>
            have selected := waits.parked (by rw [pending]; rfl)
            rw [waits.scanning scanning preferred] at selected
            cases selected
      refine .connects rfl rfl rfl (kept.1.trans unparked) ?_
      intro off
      exact kept.2.2.trans preferred

section Handlers
variable (parse : String → Option Uuid)

private theorem waits_initial : Waits {} := by
  refine .rests (.inl rfl) rfl rfl ?_ ?_
  · intro here
    cases here
  · intro pending
    cases pending

theorem start_waits (session : SessionReducer) (preferred : Option String) : Waits (session.start parse preferred) := by
  refine .rests (.inl rfl) rfl rfl ?_ ?_
  · intro here
    cases here
  · intro pending
    cases pending

section Waits
variable (waits : Waits session)
include waits

private theorem stop_waits : Waits session.stop := by
  refine .rests (.inr (.inr (.inl rfl))) rfl rfl ?_ waits.parked
  intro here
  cases here

private theorem handleResume_waits : Waits (session.handleResume parse) := by
  unfold SessionReducer.handleResume
  split
  · exact waits
  · split
    · exact (start_waits parse session _).push _
    · exact (start_waits parse session _).push _
    · exact waits

private theorem handleBluetoothState_waits (linked : Linked session) (poweredOn : Bool) (stateCode : Int) :
    Waits (session.handleBluetoothState poweredOn stateCode) := by
  unfold SessionReducer.handleBluetoothState
  dsimp only
  split
  · next invalid =>
    obtain ⟨unselected, unparked⟩ := linked.invalid invalid
    refine .record (.fails ?_ ?_) _
    · exact linked.selected_of_purpose unselected
    · intro pending
      have held : session.pendingRestoration.isSome = true := pending
      rw [unparked] at held
      cases held
  · split
    · refine .fails rfl ?_
      intro pending
      cases pending
    · next on =>
      have powered : poweredOn = true := Bool.eq_true_of_not_eq_false on
      split
      · next connection pending =>
        refine resumeRestoration_timed ?_ ?_ connection
        · exact powered
        · exact waits.parked (by rw [pending]; rfl)
      · next unparked =>
        have same : Waits { session with bluetoothPoweredOn := poweredOn } :=
          waits.congr rfl rfl rfl rfl rfl rfl rfl (.inr powered)
        split
        · next unselected =>
          have none : session.selectedIdentifier = none := Option.isNone_iff_eq_none.mp unselected
          split
          · exact same.push _
          · refine .record (.scans ?_ ?_ ?_) _
            · exact linked.selected_of_purpose none
            · exact none
            · exact unparked
        · exact same

private theorem handleDiscovered_waits (linked : Linked session) (name : Option String) (identifier : String) (rssi : Int) :
    Waits (session.handleDiscovered parse name identifier rssi) := by
  have discards : Waits (session.discardCandidate identifier) := waits.congr rfl rfl rfl rfl rfl rfl rfl (.inl rfl)
  unfold SessionReducer.handleDiscovered
  split
  · exact discards
  · next taken =>
    split
    · exact discards
    · dsimp only
      split
      · next remembered =>
        -- A remembered accessory is connected, or waits for Bluetooth.
        by_cases powered : session.bluetoothPoweredOn = true
        · refine connectSelected_waits ?_ ?_ ?_
          · exact powered
          · exact linked.unparked powered
          · rfl
        · have off := Bool.eq_false_of_not_eq_true powered
          obtain ⟨purpose, -, -⟩ := linked.off off
          have scanning : session.state = .scanning := by
            simp only [not_or, not_and, isProbing] at taken
            exact not_not.mp (taken.1 (by rw [purpose]; rfl))
          rw [connectSelected_parked]
          rotate_left
          · exact off
          · rfl
          refine .parks ?_ rfl rfl purpose (.inl (waits.resting (.inr (.inl scanning))).1) ?_ ?_
          · show session.state ≠ .discovering ∧ session.state ≠ .ready
            rw [scanning]
            decide
          · intro _ missing
            have some : session.preferredIdentifier.isSome = true := remembered
            rw [show session.preferredIdentifier = none from missing] at some
            cases some
          · intro here
            exact absurd (scanning.symm.trans here) (by decide)
      · split
        · exact waits.congr rfl rfl rfl rfl rfl rfl rfl (.inl rfl)
        · split
          · refine .probeNext ?_ linked.unparked
            exact waits.congr rfl rfl rfl rfl rfl rfl rfl (.inl rfl)
          · exact waits.congr rfl rfl rfl rfl rfl rfl rfl (.inl rfl)

private theorem handleRestoreUnavailable_waits (linked : Linked session) : Waits session.handleRestoreUnavailable := by
  unfold SessionReducer.handleRestoreUnavailable
  split
  · next asked =>
    have unselected : session.selectedIdentifier = none := Option.isNone_iff_eq_none.mp asked.2.2
    refine .record (.scans ?_ ?_ ?_) _
    · exact linked.selected_of_purpose unselected
    · exact unselected
    · exact linked.unparked asked.1
  · exact waits

private theorem handleRestored_waits (linked : Linked session) (name : Option String) (identifier : String)
    (connected pending : Bool) : Waits (session.handleRestored parse name identifier connected pending) := by
  unfold SessionReducer.handleRestored
  split
  · exact waits.record _
  · next taken =>
    have remembered : session.preferredIdentifier ≠ none := by
      intro missing
      exact taken (.inl (by rw [missing]; rfl))
    by_cases powered : session.bluetoothPoweredOn = true
    · refine resumeRestoration_timed ?_ ?_ _
      · exact powered
      · rfl
    · have off := Bool.eq_false_of_not_eq_true powered
      obtain ⟨purpose, unlinked⟩ := linked.off off
      have unconnected : session.state ≠ .connecting := fun here => remembered (waits.remembered here off)
      rw [resumeRestoration_parked]
      rotate_left
      · exact off
      exact .parks unlinked rfl rfl purpose (waits.untimed unlinked unconnected) (fun _ => remembered)
        (fun here => absurd here unconnected)

private theorem handleConnected_waits (linked : Linked session) (name : Option String) (identifier : String) :
    Waits (session.handleConnected name identifier) := by
  unfold SessionReducer.handleConnected
  split
  · exact waits
  · next same =>
    have known : session.selectedIdentifier = some identifier := not_not.mp same
    have selected : session.selectedIdentifier.isSome = true := by
      rw [known]
      rfl
    by_cases powered : session.bluetoothPoweredOn = true
    · refine resumeRestoration_timed ?_ ?_ .connected
      · exact powered
      · exact selected
    · have off := Bool.eq_false_of_not_eq_true powered
      obtain ⟨purpose, unlinked⟩ := linked.off off
      rw [resumeRestoration_parked]
      rotate_left
      · exact off
      refine .parks unlinked rfl selected purpose (.inl rfl) ?_ (fun here => waits.remembered here off)
      intro scanning missing
      have unselected := waits.scanning scanning missing
      rw [unselected] at known
      cases known

theorem handleConnectFailed_waits (linked : Linked session) (reason : String) :
    Waits (session.handleConnectFailed reason) := by
  unfold SessionReducer.handleConnectFailed
  split
  · exact waits
  · next failed =>
    split
    · next probing =>
      have probe := linked.probing (of_decide_eq_true probing)
      exact finishProbe_waits probe.2 (linked.unparked probe.1) _
    · next other =>
      have purpose := not_probing (Bool.eq_false_of_not_eq_true other)
      have selected : session.selectedIdentifier.isSome = true := by
        rcases not_and_or.mp failed with connecting | pending
        · exact (waits.connecting (not_not.mp connecting)).1
        · refine waits.parked ?_
          cases held : session.pendingRestoration with
          | none => exact absurd (by rw [held]; rfl) pending
          | some connection => rfl
      dsimp only
      split
      · refine scheduleReconnect_waits ?_ ?_ reason
        · exact selected
        · exact purpose
      · refine .fails purpose ?_
        intro pending
        cases pending

theorem handleServicesDiscovered_waits (linked : Linked session) (services : List Uuid) (error : Option String) :
    Waits (session.handleServicesDiscovered services error) := by
  unfold SessionReducer.handleServicesDiscovered
  split
  · exact waits
  · next discovering =>
    have unparked := linked.unparked (linked.active (.inl (not_not.mp discovering))).1
    cases error with
    | some reason => exact discoveryFailed_waits linked unparked reason
    | none =>
      dsimp only
      split
      · refine rejectCandidate_waits ?_ ?_ _
        · exact linked.record
        · exact unparked
      · split
        · exact waits.push _
        · exact waits

theorem handleCharacteristicsDiscovered_waits (linked : Linked session)
    (name : Option String) (service : Uuid) (characteristics : List LightingCharacteristicEvidence) (error : Option String)
    (unsubscribed : error = none → session.state = .discovering → session.gatt ≠ .subscribed) :
    Waits (session.handleCharacteristicsDiscovered name service characteristics error) := by
  unfold SessionReducer.handleCharacteristicsDiscovered
  split
  · exact waits
  · next here =>
    have discovering : session.state = .discovering := not_not.mp here
    have active := linked.active (.inl discovering)
    have unparked : (session.takeName name).pendingRestoration = none := linked.unparked active.1
    have named : Linked (session.takeName name) := linked.congr rfl rfl rfl rfl rfl rfl
    have kept : Waits (session.takeName name) := waits.congr rfl rfl rfl rfl rfl rfl rfl (.inl rfl)
    have timed : error = none → (session.takeName name).timer = some .discovery :=
      fun found => waits.discovering discovering (unsubscribed found discovering)
    have still : (session.takeName name).state = .discovering := discovering
    have selected : (session.takeName name).selectedIdentifier.isSome = true := active.2
    generalize session.takeName name = named' at unparked named kept timed still selected ⊢
    unfold SessionReducer.checkCharacteristics
    cases error with
    | some reason => exact discoveryFailed_waits named unparked reason
    | none =>
      dsimp only
      split
      · exact rejectCandidate_waits named unparked _
      · split
        · exact rejectCandidate_waits named unparked _
        · split
          · exact rejectCandidate_waits named unparked _
          · split
            · exact finishProbe_waits selected unparked _
            · have verified : Waits ({ named' with gatt := .verified, initialization := initializationActions }.record
                  "gatt=FFF0 write=FFF3 notify=FFF4") := by
                refine .record (.works ?_ ?_ ?_) _
                · exact .inl still
                · exact fun _ _ => timed rfl
                · exact selected
              unfold SessionReducer.verifyProfile
              dsimp only
              split
              · exact verified.push _
              · exact verified

theorem drainInitialization_waits (linked : Linked session) (canSend : Bool) :
    Waits (session.drainInitialization canSend) := by
  unfold SessionReducer.drainInitialization
  split
  · exact waits
  · next ready =>
    simp only [not_or, not_not] at ready
    obtain ⟨-, subscribed, discovering, -⟩ := ready
    have selected := (linked.active (.inl discovering)).2
    split
    · refine .record (.works (.inr rfl) ?_ ?_) _
      · intro here
        cases here
      · exact selected
    · unfold emitWrite
      dsimp only
      split
      · refine .works (.inl discovering) ?_ selected
        intro _ unsubscribed
        exact absurd subscribed unsubscribed
      · refine .works (.inl discovering) ?_ selected
        intro _ unsubscribed
        exact absurd subscribed unsubscribed

theorem drainWrites_waits (linked : Linked session) (canSend : Bool) : Waits (session.drainWrites canSend) := by
  unfold SessionReducer.drainWrites
  split
  · exact waits
  · next ready =>
    simp only [not_or, not_not] at ready
    obtain ⟨-, here, -⟩ := ready
    have selected := (linked.active (.inr here)).2
    have other (after : SessionReducer) (state : after.state = .ready) : after.state = .discovering →
        after.gatt ≠ .subscribed → after.timer = some .discovery := by
      intro discovering
      rw [state] at discovering
      cases discovering
    split
    · exact waits
    · unfold emitWrite
      dsimp only [record]
      split
      · exact .works (.inr here) (other _ here) selected
      · exact .works (.inr here) (other _ here) selected

theorem handleNotificationState_waits (sound : Sound session) (characteristic : Uuid) (ready canSend : Bool)
    (error : Option String)
    (attributed : session.state = .discovering → session.purpose = .probe → characteristic = melkNotifyChannel →
      ready = true ∧ error = none) :
    Waits (session.handleNotificationState characteristic ready canSend error) := by
  have linked := sound.linked
  unfold SessionReducer.handleNotificationState
  split
  · exact waits
  · next working =>
    have active : session.state = .discovering ∨ session.state = .ready := by
      rcases not_and_or.mp working with here | here
      · exact .inl (not_not.mp here)
      · exact .inr (not_not.mp here)
    have selected := (linked.active active).2
    split
    · exact waits
    · next mine =>
      have fails (failed : ¬(ready = true ∧ error = none)) (reason : String) : Waits (session.transition (.failed reason)) := by
        refine .fails ?_ (fun _ => selected)
        cases purpose : session.purpose with
        | selected => rfl
        | probe =>
          rcases active with discovering | here
          · exact absurd (attributed discovering purpose (not_not.mp mine)) failed
          · have verified : session.gatt ≠ .unverified := by simp [(sound.ready here).1]
            rw [(sound.verified verified).1] at purpose
            cases purpose
      cases error with
      | some reason => exact fails (by simp) reason
      | none =>
        dsimp only
        split
        · next unready => exact fails (by simp [unready]) _
        · split
          · exact waits
          · refine drainInitialization_waits ?_ ?_ canSend
            · refine .works active ?_ selected
              intro _ unsubscribed
              exact absurd rfl unsubscribed
            · exact linked.congr rfl rfl rfl rfl rfl rfl

theorem Waits.reconnects (linked : Linked session) (armed : session.timer = some .reconnect) :
    session.selectedIdentifier.isSome = true ∧
      (session.bluetoothPoweredOn = false → ∃ attempt delay, session.state = .retrying attempt delay) := by
  have timed : session.timer ≠ none := by
    rw [armed]
    simp
  cases state : session.state with
  | idle => exact absurd (waits.resting (.inl state)).1 timed
  | scanning => exact absurd (waits.resting (.inr (.inl state))).1 timed
  | disconnected => exact absurd (waits.resting (.inr (.inr (.inl state)))).1 timed
  | failed reason => exact absurd (waits.resting (.inr (.inr (.inr ⟨reason, state⟩)))).1 timed
  | connecting =>
    rcases (waits.connecting state).2 with ⟨attempt, -⟩ | ⟨untimed, -, -⟩
    · rw [armed] at attempt
      cases attempt
    · exact absurd untimed timed
  | retrying attempt delay => exact ⟨(waits.retrying attempt delay state).1, fun _ => ⟨attempt, delay, rfl⟩⟩
  | discovering =>
    obtain ⟨on, selected⟩ := linked.active (.inl state)
    exact ⟨selected, fun off => absurd (on.symm.trans off) (by decide)⟩
  | ready =>
    obtain ⟨on, selected⟩ := linked.active (.inr state)
    exact ⟨selected, fun off => absurd (on.symm.trans off) (by decide)⟩

/-- Writes are paced only after the subscription, where no other timer is asked for. -/
theorem Waits.paced (linked : Linked session)
    (armed : session.timer = some .initialization ∨ session.timer = some .writeDrain) :
    Waits ({ session with timer := none } : SessionReducer) := by
  have timed : session.timer ≠ none ∧ session.timer ≠ some .connectionAttempt ∧ session.timer ≠ some .reconnect ∧
      session.timer ≠ some .discovery := by
    rcases armed with same | same
    all_goals
      rw [same]
      simp
  have working : session.state = .discovering ∨ session.state = .ready := by
    cases state : session.state with
    | idle => exact absurd (waits.resting (.inl state)).1 timed.1
    | scanning => exact absurd (waits.resting (.inr (.inl state))).1 timed.1
    | disconnected => exact absurd (waits.resting (.inr (.inr (.inl state)))).1 timed.1
    | failed reason => exact absurd (waits.resting (.inr (.inr (.inr ⟨reason, state⟩)))).1 timed.1
    | connecting =>
      rcases (waits.connecting state).2 with ⟨attempt, -⟩ | ⟨untimed, -, -⟩
      · exact absurd attempt timed.2.1
      · exact absurd untimed timed.1
    | retrying attempt delay =>
      rcases (waits.retrying attempt delay state).2.2 with again | ⟨untimed, -⟩
      · exact absurd again timed.2.2.1
      · exact absurd untimed timed.1
    | discovering => exact .inl rfl
    | ready => exact .inr rfl
  refine .works working ?_ (linked.active working).2
  intro here unsubscribed
  exact absurd (waits.discovering here unsubscribed) timed.2.2.2

theorem handleTimerFired_waits (linked : Linked session) (timer : LightingTimer) (canSend : Bool) :
    Waits (session.handleTimerFired timer canSend) := by
  unfold handleTimerFired
  split
  · exact waits
  · next same =>
    have armed : session.timer = some timer := not_not.mp same
    cases timer with
    | connectionAttempt => exact connectionTimedOut_waits linked (waits.timed linked (.inl armed))
    | discovery =>
      refine connectionTimedOut_waits ?_ ?_
      · exact linked.record
      · exact waits.timed linked (.inr armed)
    | reconnect =>
      obtain ⟨selected, retrying⟩ := waits.reconnects linked armed
      obtain ⟨identifier, known⟩ := Option.isSome_iff_exists.mp selected
      by_cases powered : session.bluetoothPoweredOn = true
      · refine connectSelected_waits ?_ ?_ ?_
        · exact powered
        · exact linked.unparked powered
        · exact selected
      · have off := Bool.eq_false_of_not_eq_true powered
        obtain ⟨purpose, unlinked⟩ := linked.off off
        obtain ⟨attempt, delay, state⟩ := retrying off
        dsimp only
        rw [connectSelected_parked]
        rotate_left
        · exact off
        · exact known
        refine .parks unlinked rfl selected purpose (.inl rfl) ?_ ?_
        · intro here
          rw [show session.state = .scanning from here] at state
          cases state
        · intro here
          rw [show session.state = .connecting from here] at state
          cases state
    | initialization =>
      refine drainInitialization_waits ?_ ?_ canSend
      · exact waits.paced linked (.inl armed)
      · exact linked.congr rfl rfl rfl rfl rfl rfl
    | writeDrain =>
      refine drainWrites_waits ?_ ?_ canSend
      · exact waits.paced linked (.inr armed)
      · exact linked.congr rfl rfl rfl rfl rfl rfl

theorem handleDisconnected_waits (linked : Linked session) (reason : String) (poweredOn : Bool) :
    Waits (session.handleDisconnected reason poweredOn) := by
  unfold SessionReducer.handleDisconnected
  split
  · exact waits
  · next lost =>
    dsimp only
    split
    · next probes =>
      have probe := linked.probing (of_decide_eq_true probes)
      refine finishProbe_waits ?_ ?_ _
      · exact probe.2
      · exact linked.unparked probe.1
    · next other =>
      have purpose : session.purpose = .selected := not_probing (Bool.eq_false_of_not_eq_true other)
      split
      · next again =>
        have selected : session.selectedIdentifier.isSome = true := by
          cases pending : session.pendingRestoration with
          | some connection => exact waits.parked (by rw [pending]; rfl)
          | none =>
            have link : session.hasLink = true := by
              by_contra unlinked
              exact lost ⟨again.2, by rw [pending]; rfl, Bool.eq_false_of_not_eq_true unlinked⟩
            unfold SessionReducer.hasLink at link
            cases state : session.state with
            | connecting => exact (waits.connecting state).1
            | discovering => exact (linked.active (.inl state)).2
            | ready => exact (linked.active (.inr state)).2
            | idle | scanning | retrying | disconnected | failed => simp [state] at link
        refine scheduleReconnect_waits ?_ ?_ reason
        · exact selected
        · exact purpose
      · refine .rests (.inr (.inr (.inl rfl))) rfl rfl ?_ ?_
        · intro here
          cases here
        · intro pending
          cases pending

/-- Whether an event can belong to the present connection: no notification state fails a probe, which asks
for none, and no characteristics are found after the subscription they led to. -/
def attributed (session : SessionReducer) : LightingCall → Bool
  | .handle (.notificationState characteristic ready _ error) =>
    decide (session.state = .discovering → session.purpose = .probe → characteristic = melkNotifyChannel →
      ready = true ∧ error = none)
  | .handle (.characteristicsDiscovered _ _ _ error) =>
    decide (error = none → session.state = .discovering → session.gatt ≠ .subscribed)
  | _ => true

theorem handle_waits (sound : Sound session) (event : LightingSessionEvent)
    (fits : session.attributed (.handle event) = true) : Waits (session.handle parse event) := by
  have linked := sound.linked
  unfold handle
  split
  · exact waits
  · cases event with
    | resume => exact handleResume_waits parse waits
    | bluetoothState poweredOn stateCode => exact handleBluetoothState_waits waits linked poweredOn stateCode
    | discovered name identifier rssi => exact handleDiscovered_waits parse waits linked name identifier rssi
    | restored name identifier connected pending =>
      exact handleRestored_waits parse waits linked name identifier connected pending
    | restoreUnavailable => exact handleRestoreUnavailable_waits waits linked
    | connected name identifier => exact handleConnected_waits waits linked name identifier
    | connectFailed reason => exact handleConnectFailed_waits waits linked reason
    | connectTimeout =>
      dsimp only
      split
      · next armed => exact connectionTimedOut_waits linked (waits.timed linked (.inl armed))
      · exact waits
    | servicesDiscovered services error => exact handleServicesDiscovered_waits waits linked services error
    | characteristicsDiscovered name service characteristics error =>
      exact handleCharacteristicsDiscovered_waits waits linked name service characteristics error (of_decide_eq_true fits)
    | notificationState characteristic ready canSend error =>
      exact handleNotificationState_waits waits sound characteristic ready canSend error (of_decide_eq_true fits)
    | notification characteristic bytes =>
      dsimp only
      split
      · exact waits.congr rfl rfl rfl rfl rfl rfl rfl (.inl rfl)
      · exact waits
    | writeReady canSend =>
      refine drainWrites_waits ?_ ?_ canSend
      · exact drainInitialization_waits waits linked canSend
      · exact Takes.initializes_linked (drainInitialization_initializes linked canSend) linked
    | timerFired timer canSend => exact handleTimerFired_waits waits linked timer canSend
    | disconnected reason poweredOn => exact handleDisconnected_waits waits linked reason poweredOn

theorem step_waits (sound : Sound session) (call : LightingCall) (fits : session.attributed call = true) :
    Waits (session.step parse call).1 := by
  have same {after : SessionReducer} (state : after.state = session.state) (timer : after.timer = session.timer)
      (purpose : after.purpose = session.purpose) (selected : after.selectedIdentifier = session.selectedIdentifier)
      (pending : after.pendingRestoration = session.pendingRestoration) (gatt : after.gatt = session.gatt)
      (preferred : after.preferredIdentifier = session.preferredIdentifier)
      (powered : after.bluetoothPoweredOn = session.bluetoothPoweredOn) : Waits after :=
    waits.congr state timer purpose selected pending gatt preferred (.inl powered)
  cases call with
  | start preferred => exact start_waits parse session preferred
  | stop => exact stop_waits waits
  | select identifier => exact select_waits waits sound.linked identifier
  | queueWrites writes =>
    show Waits (session.queueWrites writes).1
    rcases Takes.queueWrites_cases session writes with refused | ⟨accepted, -⟩
    · rw [refused]
      exact waits
    · rw [accepted]
      exact same rfl rfl rfl rfl rfl rfl rfl rfl
  | drainWrites canSend => exact drainWrites_waits waits sound.linked canSend
  | handle event => exact handle_waits parse waits sound event fits
  | markLastCommandConfirmed =>
    show Waits session.markLastCommandConfirmed.1
    unfold SessionReducer.markLastCommandConfirmed
    split
    · exact waits
    · exact same rfl rfl rfl rfl rfl rfl rfl rfl
  | markLastCommandUnconfirmed =>
    show Waits session.markLastCommandUnconfirmed
    unfold SessionReducer.markLastCommandUnconfirmed
    split
    · exact same rfl rfl rfl rfl rfl rfl rfl rfl
    · exact waits
  | drainActions | drainRecords | drainCandidates | drainCandidateRemovals | drainNotifications =>
    exact same rfl rfl rfl rfl rfl rfl rfl rfl

end Waits

/-- The next known candidate of a queue is probed, or the queue runs empty. -/
theorem probeFrom_next (session : SessionReducer) (queue : List String) :
    session.probeFrom queue = { session with probeQueue := [] } ∨
      ∃ identifier ∈ queue, (session.probeFrom queue).purpose = .probe ∧
        (session.probeFrom queue).selectedIdentifier = some identifier ∧
        (session.probeFrom queue).probeQueue.length < queue.length := by
  induction queue with
  | nil => exact .inl rfl
  | cons first later ih =>
    unfold probeFrom
    cases session.candidate first with
    | none =>
      rcases ih with empty | ⟨identifier, member, purpose, selected, fewer⟩
      · exact .inl empty
      · exact .inr ⟨identifier, List.mem_cons_of_mem _ member, purpose, selected, Nat.lt_succ_of_lt fewer⟩
    | some candidate => exact .inr ⟨first, List.mem_cons_self, rfl, rfl, Nat.lt_succ_self _⟩

/-- A probe has ended: another candidate of its queue is probed, or the queue is empty and the scan goes on. -/
def ProbeEnded (before after : SessionReducer) : Prop :=
  (after.purpose = .selected ∧ after.state = .scanning ∧ after.selectedIdentifier = none ∧ after.probeQueue = []) ∨
  ∃ identifier ∈ before.probeQueue, after.purpose = .probe ∧ after.selectedIdentifier = some identifier ∧
    after.probeQueue.length < before.probeQueue.length

theorem finishProbe_ended (powered : session.bluetoothPoweredOn = true) (selected : session.selectedIdentifier.isSome = true) :
    ProbeEnded session (session.finishProbe .unavailable) := by
  obtain ⟨identifier, known⟩ := Option.isSome_iff_exists.mp selected
  unfold finishProbe
  rw [known]
  dsimp only
  unfold SessionReducer.probeNext
  rw [if_neg]
  · rcases probeFrom_next _ _ with empty | ⟨next, member, purpose, chosen, fewer⟩
    · rw [empty]
      exact .inl ⟨rfl, rfl, rfl, rfl⟩
    · have queued : next ∈ session.probeQueue.filter fun pending => decide (pending ≠ identifier) := member
      refine .inr ⟨next, (List.mem_filter.mp queued).1, purpose, chosen, ?_⟩
      exact Nat.lt_of_lt_of_le fewer (List.length_filter_le _ _)
  · rintro (some | off)
    · cases some
    · rw [show session.bluetoothPoweredOn = false from off] at powered
      cases powered

/-- A session that waits for the platform, or a connection that waits for Bluetooth. -/
structure Timed (session : SessionReducer) : Prop where
  connecting : session.state = .connecting → session.timer = some .connectionAttempt ∨ session.pendingRestoration.isSome = true
  retrying : ∀ attempt delay, session.state = .retrying attempt delay →
    session.timer = some .reconnect ∨ session.pendingRestoration.isSome = true
  discovering : session.state = .discovering → session.gatt ≠ .subscribed → session.timer = some .discovery
  probe : session.purpose = .probe → session.selectedIdentifier.isSome = true ∧
    ((session.state = .connecting ∧ session.timer = some .connectionAttempt) ∨
      (session.state = .discovering ∧ session.timer = some .discovery))
  -- A timer that fires ends the probe it was armed for.
  ends : session.purpose = .probe → session.reconnectEnabled = true → ∀ timer, session.timer = some timer → ∀ canSend,
    ProbeEnded session (session.handle parse (.timerFired timer canSend))
  -- A connection that is held back is connected, with its timer, as soon as Bluetooth is on.
  resumes : session.pendingRestoration.isSome = true → session.reconnectEnabled = true →
    session.bluetoothPoweredOn = false ∧ ∀ stateCode, ∃ after,
      session.handle parse (.bluetoothState true stateCode) = after ∧ after.pendingRestoration = none ∧
        ((after.state = .connecting ∧ after.timer = some .connectionAttempt) ∨
          (after.state = .discovering ∧ after.timer = some .discovery))

theorem Waits.probing (waits : Waits session) (sound : Sound session) (probe : session.purpose = .probe) :
    (session.state = .connecting ∧ session.timer = some .connectionAttempt) ∨
      (session.state = .discovering ∧ session.timer = some .discovery) := by
  have other : session.purpose ≠ .selected := by
    rw [probe]
    decide
  have unverified : session.gatt = .unverified := by
    by_contra known
    exact other (sound.verified known).1
  cases state : session.state with
  | idle => exact absurd (waits.resting (.inl state)).2 other
  | scanning => exact absurd (waits.resting (.inr (.inl state))).2 other
  | disconnected => exact absurd (waits.resting (.inr (.inr (.inl state)))).2 other
  | failed reason => exact absurd (waits.resting (.inr (.inr (.inr ⟨reason, state⟩)))).2 other
  | retrying attempt delay => exact absurd (waits.retrying attempt delay state).2.1 other
  | connecting =>
    rcases (waits.connecting state).2 with ⟨armed, -⟩ | ⟨-, -, purpose⟩
    · exact .inl ⟨rfl, armed⟩
    · exact absurd purpose other
  | discovering => exact .inr ⟨rfl, waits.discovering state (by rw [unverified]; decide)⟩
  | ready =>
    rw [(sound.ready state).1] at unverified
    cases unverified

theorem resumeRestoration_arms (powered : session.bluetoothPoweredOn = true)
    (selected : session.selectedIdentifier.isSome = true) (connection : RestoredConnection) :
    (session.resumeRestoration connection).pendingRestoration = none ∧
      (((session.resumeRestoration connection).state = .connecting ∧
          (session.resumeRestoration connection).timer = some .connectionAttempt) ∨
        ((session.resumeRestoration connection).state = .discovering ∧
          (session.resumeRestoration connection).timer = some .discovery)) := by
  unfold resumeRestoration
  rw [if_pos powered]
  cases connection with
  | connected =>
    dsimp only
    split
    · next unselected =>
      rw [unselected] at selected
      cases selected
    · exact ⟨rfl, .inr ⟨rfl, rfl⟩⟩
  | pending => exact ⟨rfl, .inl ⟨rfl, rfl⟩⟩
  | disconnected =>
    unfold connectSelected
    dsimp only
    split
    · next unselected =>
      rw [unselected] at selected
      cases selected
    · rw [if_pos powered]
      exact ⟨rfl, .inl ⟨rfl, rfl⟩⟩

theorem Waits.timers (waits : Waits session) (sound : Sound session) : Timed parse session := by
  have linked := sound.linked
  refine ⟨?_, ?_, waits.discovering, ?_, ?_, ?_⟩
  · intro state
    exact (waits.connecting state).2.imp And.left fun held => held.2.1
  · intro attempt delay state
    exact (waits.retrying attempt delay state).2.2.imp id And.right
  · intro probe
    exact ⟨(linked.probing probe).2, waits.probing sound probe⟩
  · intro probe enabled timer armed canSend
    obtain ⟨powered, selected⟩ := linked.probing probe
    have probing : session.isProbing = true := decide_eq_true probe
    unfold handle
    rw [if_neg (by rw [enabled]; decide)]
    dsimp only
    unfold handleTimerFired
    rw [if_neg (not_not.mpr armed)]
    rcases waits.probing sound probe with ⟨-, same⟩ | ⟨-, same⟩
    · cases armed.symm.trans same
      dsimp only
      unfold connectionTimedOut
      rw [if_pos probing]
      exact finishProbe_ended powered selected
    · cases armed.symm.trans same
      dsimp only
      unfold connectionTimedOut
      rw [if_pos (show (session.record "gatt_timeout").isProbing = true from probing)]
      exact @finishProbe_ended (session.record "gatt_timeout") powered selected
  · intro parked enabled
    refine ⟨linked.pending parked, ?_⟩
    intro stateCode
    refine ⟨_, rfl, ?_⟩
    obtain ⟨connection, held⟩ := Option.isSome_iff_exists.mp parked
    have valid : session.invalidPreferredIdentifier = false := by
      by_contra invalid
      have unparked := (linked.invalid (Bool.eq_true_of_not_eq_false invalid)).2
      rw [held] at unparked
      cases unparked
    unfold handle
    rw [if_neg (by rw [enabled]; decide)]
    dsimp only
    unfold SessionReducer.handleBluetoothState
    dsimp only
    rw [if_neg (by rw [valid]; decide), if_neg (by decide), held]
    refine resumeRestoration_arms ?_ ?_ connection
    · rfl
    · exact waits.parked parked

/-- In every run without an event of an earlier connection that the present one would take for its own, a
session that waits for the platform has its timer armed, or it holds a connection back until Bluetooth is
on; and a probe ends with its timer. -/
theorem lighting_session_waits_with_a_timer (calls : List LightingCall)
    (fits : ∀ here ∈ Runs.history (step parse) {} calls, here.before.attributed here.input = true) :
    Timed parse (Runs.final (step parse) {} calls) := by
  have kept : (∀ here ∈ Runs.history (step parse) {} calls, here.before.attributed here.input = true) →
      Waits (Runs.final (step parse) {} calls) ∧ Sound (Runs.final (step parse) {} calls) := by
    refine Runs.induction_on
      (P := fun past session => (∀ here ∈ past, here.before.attributed here.input = true) → Waits session ∧ Sound session)
      ?_ ?_ calls
    · intro _
      exact ⟨waits_initial, sound_initial⟩
    · intro past session call ih fits
      obtain ⟨waits, sound⟩ := ih fun here member => fits here (List.mem_append_left _ member)
      exact ⟨step_waits parse waits sound call (fits _ (List.mem_append_right _ (List.mem_singleton_self _))),
        sound_step session call sound⟩
  obtain ⟨waits, sound⟩ := kept fits
  exact waits.timers parse sound

end Handlers

section Waiting

/-- Late events of a cancelled connection come before and behind the connection of the probe. -/
def lampProbed : List LightingCall :=
  [.start none, .handle (.bluetoothState true 5), .handle (.discovered none lampIdentifier (-40)),
    .handle (.notificationState melkNotifyChannel false true (some "gone")),
    .handle (.characteristicsDiscovered none melkServiceChannel [] (some "gone")),
    .handle (.connected none lampIdentifier), .handle (.notificationState melkNotifyChannel true true none)]

theorem lamp_probe_is_timed :
    (Runs.final (step lampParse) {} lampProbed).purpose = .probe ∧
    (Runs.final (step lampParse) {} lampProbed).timer = some .discovery ∧
    Timed lampParse (Runs.final (step lampParse) {} lampProbed) :=
  ⟨by decide, by decide, lighting_session_waits_with_a_timer lampParse lampProbed (by decide)⟩

/-- A restored connection fails while Bluetooth is off, and its reconnect waits for Bluetooth without a timer. -/
theorem reconnect_waits_for_bluetooth_untimed :
    (Runs.final (step lampParse) {}
      [.start (some lampIdentifier), .handle (.restored none lampIdentifier false true), .handle (.connectFailed "gone"),
        .handle (.timerFired .reconnect true)]).reconnectEnabled = true ∧
    (Runs.final (step lampParse) {}
      [.start (some lampIdentifier), .handle (.restored none lampIdentifier false true), .handle (.connectFailed "gone"),
        .handle (.timerFired .reconnect true)]).state = .retrying 1 250 ∧
    (Runs.final (step lampParse) {}
      [.start (some lampIdentifier), .handle (.restored none lampIdentifier false true), .handle (.connectFailed "gone"),
        .handle (.timerFired .reconnect true)]).timer = none := by
  decide

end Waiting

end SessionReducer

end Cutout.Lighting

import Cutout.LightingSession
import Cutout.Library.Runs

/-! Writes of a lighting session. A session leaves its present work only by a transition
that empties both write queues, and it writes only from those queues: the initialization
writes while it is discovering, the user writes while it is ready. -/

namespace Cutout.Lighting
open Library

abbrev LightingStep := Step SessionReducer LightingCall LightingReply

def CommandStatus.settled (status : CommandStatus) : CommandStatus :=
  if status = .requested then .unconfirmed else status

@[simp] theorem CommandStatus.settled_settled (status : CommandStatus) : status.settled.settled = status.settled := by
  cases status <;> rfl

def LightingSessionAction.written : LightingSessionAction → Option (String × LightingWrite)
  | write platformIdentifier submitted => some (platformIdentifier, submitted)
  | _ => none

namespace SessionReducer
variable {before after session : SessionReducer}
variable {middle : SessionReducer} {action : LightingSessionAction} {identifier value : String} {timer : LightingTimer}
variable {delay : Nat}
variable (state : LightingSessionState)

def Silent (before after : SessionReducer) : Prop :=
  ∃ later, after.actions = before.actions ++ later ∧ later.filterMap LightingSessionAction.written = []

theorem Silent.same (same : after.actions = before.actions) : Silent before after := ⟨[], by simp [same], rfl⟩

theorem Silent.trans (first : Silent before middle) (second : Silent middle after) : Silent before after := by
  obtain ⟨early, appended, quiet⟩ := first
  obtain ⟨late, extended, still⟩ := second
  exact ⟨early ++ late, by rw [extended, appended, List.append_assoc], by rw [List.filterMap_append, quiet, still]; rfl⟩

theorem Silent.push (quiet : action.written = none) (silent : Silent before after) :
    Silent before (after.push action) := by
  refine silent.trans ⟨[action], rfl, ?_⟩
  simp [quiet]

structure Linked (session : SessionReducer) : Prop where
  active : session.state = .discovering ∨ session.state = .ready →
    session.bluetoothPoweredOn = true ∧ session.selectedIdentifier.isSome = true
  probing : session.purpose = .probe → session.bluetoothPoweredOn = true ∧ session.selectedIdentifier.isSome = true
  pending : session.pendingRestoration.isSome = true → session.bluetoothPoweredOn = false
  invalid : session.invalidPreferredIdentifier = true →
    session.selectedIdentifier = none ∧ session.pendingRestoration = none

/-- The session has moved to another state: nothing is queued any more. -/
structure Left (before after : SessionReducer) : Prop where
  state : after.state ≠ .ready
  writes : after.writes = []
  initialization : after.initialization = []
  gatt : after.gatt = .unverified
  status : after.commandStatus = before.commandStatus.settled
  silent : Silent before after

theorem transition_left (other : state ≠ .ready) : Left session (session.transition state) := by
  simp only [transition, other, if_false, resetInitialization]
  exact ⟨other, rfl, rfl, rfl, rfl, .same rfl⟩

/-- The session as the transition finds it, up to the fields it resets. -/
theorem Left.prepared (same : middle.commandStatus = before.commandStatus) (silent : Silent before middle)
    (left : Left middle after) : Left before after :=
  ⟨left.state, left.writes, left.initialization, left.gatt, same ▸ left.status, silent.trans left.silent⟩

theorem Left.push (quiet : action.written = none) (left : Left before after) : Left before (after.push action) :=
  ⟨left.state, left.writes, left.initialization, left.gatt, left.status, left.silent.push quiet⟩

theorem Left.record (left : Left before after) : Left before (after.record value) :=
  ⟨left.state, left.writes, left.initialization, left.gatt, left.status, left.silent.trans (.same rfl)⟩

theorem Left.arm (left : Left before after) : Left before (after.arm timer delay) := by
  refine ⟨left.state, left.writes, left.initialization, left.gatt, left.status, ?_⟩
  exact .push rfl (left.silent.trans (.same rfl))

theorem Left.again (first : Left before middle) (second : Left middle after) : Left before after := by
  refine ⟨second.state, second.writes, second.initialization, second.gatt, ?_, first.silent.trans second.silent⟩
  rw [second.status, first.status, CommandStatus.settled_settled]

theorem Left.queued {queue : List String} (left : Left before after) : Left before { after with probeQueue := queue } :=
  ⟨left.state, left.writes, left.initialization, left.gatt, left.status, left.silent.trans (.same rfl)⟩

@[simp] theorem transition_selectedIdentifier :
    (session.transition state).selectedIdentifier = session.selectedIdentifier := by
  unfold transition
  split <;> rfl

@[simp] theorem transition_purpose : (session.transition state).purpose = session.purpose := by
  unfold transition
  split <;> rfl

@[simp] theorem transition_pendingRestoration :
    (session.transition state).pendingRestoration = session.pendingRestoration := by
  unfold transition
  split <;> rfl

@[simp] theorem transition_bluetoothPoweredOn :
    (session.transition state).bluetoothPoweredOn = session.bluetoothPoweredOn := by
  unfold transition
  split <;> rfl

@[simp] theorem transition_invalidPreferredIdentifier :
    (session.transition state).invalidPreferredIdentifier = session.invalidPreferredIdentifier := by
  unfold transition
  split <;> rfl

@[simp] theorem transition_state : (session.transition state).state = state := by
  unfold transition
  split <;> rfl

/-- Only these fields matter to how the connection hangs together. -/
theorem Linked.congr (linked : Linked before) (state : after.state = before.state)
    (powered : after.bluetoothPoweredOn = before.bluetoothPoweredOn)
    (selected : after.selectedIdentifier = before.selectedIdentifier) (purpose : after.purpose = before.purpose)
    (pending : after.pendingRestoration = before.pendingRestoration)
    (invalid : after.invalidPreferredIdentifier = before.invalidPreferredIdentifier) : Linked after := by
  refine ⟨?_, ?_, ?_, ?_⟩
  · rw [state, powered, selected]
    exact linked.active
  · rw [purpose, powered, selected]
    exact linked.probing
  · rw [pending, powered]
    exact linked.pending
  · rw [invalid, selected, pending]
    exact linked.invalid

theorem Linked.record (linked : Linked session) : Linked (session.record value) :=
  linked.congr rfl rfl rfl rfl rfl rfl

theorem Linked.push (linked : Linked session) : Linked (session.push action) :=
  linked.congr rfl rfl rfl rfl rfl rfl

theorem Linked.arm (linked : Linked session) : Linked (session.arm timer delay) :=
  linked.congr rfl rfl rfl rfl rfl rfl

theorem Linked.transition {state : LightingSessionState} (unlinked : state ≠ .discovering ∧ state ≠ .ready)
    (probing : session.purpose = .probe → session.bluetoothPoweredOn = true ∧ session.selectedIdentifier.isSome = true)
    (pending : session.pendingRestoration.isSome = true → session.bluetoothPoweredOn = false)
    (invalid : session.invalidPreferredIdentifier = true →
      session.selectedIdentifier = none ∧ session.pendingRestoration = none) : Linked (session.transition state) := by
  refine ⟨?_, ?_, ?_, ?_⟩
  · rw [transition_state]
    rintro (linked | linked)
    · exact absurd linked unlinked.1
    · exact absurd linked unlinked.2
  · simpa using probing
  · simpa using pending
  · simpa using invalid

/-- A candidate found in the queue is probed; else the queue is empty. -/
theorem probeFrom_cases (session : SessionReducer) (queue : List String) :
    session.probeFrom queue = { session with probeQueue := [] } ∨
      ∃ identifier later name,
        let probing := { session with
          probeQueue := later
          selectedName := name
          selectedIdentifier := some identifier
          purpose := .probe }
        session.probeFrom queue =
          ((probing.transition .connecting).push (.connect identifier)).arm .connectionAttempt probeTimeoutMs := by
  induction queue with
  | nil => exact .inl rfl
  | cons identifier later ih =>
    unfold probeFrom
    cases session.candidate identifier with
    | none => exact ih
    | some candidate => exact .inr ⟨identifier, later, candidate.name, rfl⟩

/-- Going on to the next probe, from a session that has just moved. -/
theorem Left.probeNext (left : Left before after) : Left before after.probeNext := by
  unfold SessionReducer.probeNext
  split
  · exact left
  · rcases probeFrom_cases after after.probeQueue with same | ⟨identifier, later, name, probes⟩
    · rw [same]
      exact left.queued
    · rw [probes]
      refine (.arm (.push rfl ?_))
      refine left.again (.prepared ?_ ?_ (transition_left .connecting (by simp)))
      · rfl
      · exact .same rfl

theorem Linked.probeNext (linked : Linked session) (valid : session.invalidPreferredIdentifier = false) :
    Linked session.probeNext := by
  unfold SessionReducer.probeNext
  split
  · exact linked
  · next free =>
    have powered : session.bluetoothPoweredOn = true := by
      simp only [not_or, Bool.not_eq_false] at free
      exact free.2
    rcases probeFrom_cases session session.probeQueue with same | ⟨identifier, later, name, probes⟩
    · rw [same]
      exact linked.congr rfl rfl rfl rfl rfl rfl
    · rw [probes]
      refine .arm (.push (.transition ⟨by simp, by simp⟩ (fun _ => ⟨powered, rfl⟩) linked.pending ?_))
      intro invalid
      exact absurd invalid (by simp [valid])

/-- The fields a transition or the connection can see are as they were. -/
structure Alike (before after : SessionReducer) : Prop where
  state : after.state = before.state
  powered : after.bluetoothPoweredOn = before.bluetoothPoweredOn
  selected : after.selectedIdentifier = before.selectedIdentifier
  purpose : after.purpose = before.purpose
  pending : after.pendingRestoration = before.pendingRestoration
  invalid : after.invalidPreferredIdentifier = before.invalidPreferredIdentifier
  status : after.commandStatus = before.commandStatus
  gatt : after.gatt = before.gatt
  initialization : after.initialization = before.initialization
  writes : after.writes = before.writes
  timer : after.timer = before.timer
  silent : Silent before after

theorem Alike.refl (session : SessionReducer) : Alike session session :=
  ⟨rfl, rfl, rfl, rfl, rfl, rfl, rfl, rfl, rfl, rfl, rfl, .same rfl⟩

theorem Alike.trans (first : Alike before middle) (second : Alike middle after) : Alike before after :=
  ⟨second.state.trans first.state, second.powered.trans first.powered, second.selected.trans first.selected,
    second.purpose.trans first.purpose, second.pending.trans first.pending, second.invalid.trans first.invalid,
    second.status.trans first.status, second.gatt.trans first.gatt, second.initialization.trans first.initialization,
    second.writes.trans first.writes, second.timer.trans first.timer, first.silent.trans second.silent⟩

theorem Alike.linked (alike : Alike before after) (linked : Linked before) : Linked after :=
  linked.congr alike.state alike.powered alike.selected alike.purpose alike.pending alike.invalid

theorem push_alike (quiet : action.written = none) : Alike session (session.push action) :=
  ⟨rfl, rfl, rfl, rfl, rfl, rfl, rfl, rfl, rfl, rfl, rfl, .push quiet (.same rfl)⟩

theorem record_alike (value : String) : Alike session (session.record value) :=
  ⟨rfl, rfl, rfl, rfl, rfl, rfl, rfl, rfl, rfl, rfl, rfl, .same rfl⟩

theorem discardCandidate_alike (identifier : String) : Alike session (session.discardCandidate identifier) :=
  ⟨rfl, rfl, rfl, rfl, rfl, rfl, rfl, rfl, rfl, rfl, rfl, .same rfl⟩

theorem probeOutcome_alike (identifier : String) (outcome : ProbeOutcome) :
    Alike session (session.probeOutcome identifier outcome) := by
  cases outcome <;> exact ⟨rfl, rfl, rfl, rfl, rfl, rfl, rfl, rfl, rfl, rfl, rfl, .same rfl⟩

def Moved (before after : SessionReducer) : Prop := Left before after ∧ Linked after

theorem Moved.prepared (same : middle.commandStatus = before.commandStatus) (silent : Silent before middle)
    (moved : Moved middle after) : Moved before after :=
  ⟨moved.1.prepared same silent, moved.2⟩

theorem Moved.push (quiet : action.written = none) (moved : Moved before after) :
    Moved before (after.push action) := ⟨moved.1.push quiet, moved.2.push⟩

theorem Moved.record (moved : Moved before after) : Moved before (after.record value) :=
  ⟨moved.1.record, moved.2.record⟩

theorem Moved.arm (moved : Moved before after) : Moved before (after.arm timer delay) :=
  ⟨moved.1.arm, moved.2.arm⟩

structure Placed (session : SessionReducer) : Prop where
  pending : session.pendingRestoration.isSome = true → session.bluetoothPoweredOn = false
  invalid : session.invalidPreferredIdentifier = true →
    session.selectedIdentifier = none ∧ session.pendingRestoration = none

theorem Linked.placed (linked : Linked session) : Placed session := ⟨linked.pending, linked.invalid⟩

theorem Linked.unprobed (linked : Linked session) (unselected : session.selectedIdentifier = none) :
    session.purpose = .selected := by
  cases purpose : session.purpose with
  | selected => rfl
  | probe =>
    have chosen := (linked.probing purpose).2
    rw [unselected] at chosen
    cases chosen

theorem Placed.congr (placed : Placed before) (powered : after.bluetoothPoweredOn = before.bluetoothPoweredOn)
    (selected : after.selectedIdentifier = before.selectedIdentifier)
    (pending : after.pendingRestoration = before.pendingRestoration)
    (invalid : after.invalidPreferredIdentifier = before.invalidPreferredIdentifier) : Placed after := by
  refine ⟨?_, ?_⟩
  · rw [pending, powered]
    exact placed.pending
  · rw [invalid, selected, pending]
    exact placed.invalid

theorem Placed.valid (placed : Placed session) (selected : session.selectedIdentifier = some identifier) :
    session.invalidPreferredIdentifier = false := by
  rw [← Bool.not_eq_true]
  intro invalid
  rw [(placed.invalid invalid).1] at selected
  cases selected

/-- A transition to a state without a link, from a session that was changed before it. -/
theorem moves {state : LightingSessionState} (unlinked : state ≠ .discovering ∧ state ≠ .ready)
    (status : middle.commandStatus = session.commandStatus) (silent : Silent session middle) (placed : Placed middle)
    (purpose : middle.purpose = .selected) : Moved session (middle.transition state) := by
  refine ⟨(transition_left state unlinked.2).prepared status silent, .transition unlinked ?_ placed.pending placed.invalid⟩
  intro probing
  rw [purpose] at probing
  cases probing

theorem finishProbe_moved (placed : Placed session) (selected : session.selectedIdentifier = some identifier)
    (outcome : ProbeOutcome) : Moved session (session.finishProbe outcome) := by
  have valid := placed.valid selected
  simp only [finishProbe, selected]
  generalize released : ({ session with selectedIdentifier := none } : SessionReducer).push (.cancelConnect identifier) = cancelled
  have silent : Silent session cancelled := released ▸ .push rfl (.same rfl)
  have unselected : cancelled.selectedIdentifier = none := by rw [← released]; rfl
  have same : cancelled.commandStatus = session.commandStatus ∧
      cancelled.pendingRestoration = session.pendingRestoration ∧
      cancelled.bluetoothPoweredOn = session.bluetoothPoweredOn ∧
      cancelled.invalidPreferredIdentifier = session.invalidPreferredIdentifier := by
    rw [← released]
    exact ⟨rfl, rfl, rfl, rfl⟩
  obtain ⟨status, pending, powered, invalid⟩ := same
  have alike : Alike cancelled (cancelled.probeOutcome identifier outcome) := probeOutcome_alike identifier outcome
  generalize cancelled.probeOutcome identifier outcome = noted at alike
  have fits : Placed ({ noted with selectedName := none, purpose := .selected } : SessionReducer) := by
    refine ⟨?_, ?_⟩
    · change noted.pendingRestoration.isSome = true → noted.bluetoothPoweredOn = false
      rw [alike.pending, alike.powered, pending, powered]
      exact placed.pending
    · change noted.invalidPreferredIdentifier = true → _
      rw [alike.invalid, invalid, valid]
      exact fun wrong => nomatch wrong
  obtain ⟨left, linked⟩ : Moved session (({ noted with selectedName := none, purpose := .selected } :
      SessionReducer).transition .scanning) := by
    refine moves ⟨by simp, by simp⟩ ?_ ?_ fits rfl
    · exact alike.status.trans status
    · exact silent.trans (alike.silent.trans (.same rfl))
  refine ⟨left.probeNext, ?_⟩
  · refine linked.probeNext ?_
    rw [transition_invalidPreferredIdentifier]
    exact alike.invalid.trans (invalid.trans valid)

theorem not_probing (other : session.isProbing = false) : session.purpose = .selected := by
  cases purpose : session.purpose with
  | selected => rfl
  | probe => simp [isProbing, purpose] at other

theorem dropSelected_alike : Alike session session.dropSelected := by
  unfold dropSelected
  split
  · exact .refl session
  · exact (push_alike rfl).trans (discardCandidate_alike _)

theorem rejectCandidate_moved (placed : Placed session) (selected : session.selectedIdentifier = some identifier)
    (reason : String) : Moved session (session.rejectCandidate reason) := by
  unfold rejectCandidate
  cases probing : session.isProbing with
  | true =>
    simp only [if_true]
    have moved : Moved (session.record ("probe_rejected reason=" ++ reason))
        ((session.record ("probe_rejected reason=" ++ reason)).finishProbe .unsupported) := by
      apply finishProbe_moved
      · exact placed.congr rfl rfl rfl rfl
      · exact selected
    refine .prepared ?_ ?_ moved
    · rfl
    · exact .same rfl
  | false =>
    simp only [Bool.false_eq_true, if_false]
    have alike : Alike session session.dropSelected := dropSelected_alike
    generalize session.dropSelected = cancelled at alike
    have purpose := alike.purpose.trans (not_probing probing)
    have fits : Placed cancelled := placed.congr alike.powered alike.selected alike.pending alike.invalid
    split
    · refine .push rfl (.record (moves ⟨by simp, by simp⟩ ?_ ?_ ?_ purpose))
      · exact alike.status
      · exact alike.silent.trans (.same rfl)
      · exact ⟨fits.pending, fun invalid => ⟨rfl, (fits.invalid invalid).2⟩⟩
    · exact moves ⟨by simp, by simp⟩ alike.status alike.silent fits purpose

theorem discoveryFailed_moved (placed : Placed session) (selected : session.selectedIdentifier = some identifier)
    (reason : String) : Moved session (session.discoveryFailed reason) := by
  unfold discoveryFailed
  split
  · exact finishProbe_moved placed selected .unavailable
  · exact rejectCandidate_moved placed selected reason

theorem scheduleReconnect_moved (placed : Placed session) (purpose : session.purpose = .selected) (reason : String) :
    Moved session (session.scheduleReconnect reason) := by
  unfold scheduleReconnect
  dsimp only
  split
  · refine .record (moves ⟨by simp, by simp⟩ ?_ ?_ ?_ purpose)
    · rfl
    · exact .same rfl
    · exact placed.congr rfl rfl rfl rfl
  · refine .arm (.record (moves ⟨by simp, by simp⟩ ?_ ?_ ?_ purpose))
    · rfl
    · exact .same rfl
    · exact placed.congr rfl rfl rfl rfl

theorem Placed.released (placed : Placed session) : Placed ({ session with selectedIdentifier := none } : SessionReducer) :=
  ⟨placed.pending, fun invalid => ⟨rfl, (placed.invalid invalid).2⟩⟩

theorem cancelSelected_alike : Alike session session.cancelSelected := by
  unfold cancelSelected
  split
  · exact .refl session
  · exact push_alike rfl

theorem rescan_moved (placed : Placed session) (purpose : session.purpose = .selected) : Moved session session.rescan := by
  have released := placed.released
  unfold rescan
  dsimp only
  split
  · split
    · refine .record (moves ⟨by simp, by simp⟩ ?_ (.same rfl) ?_ purpose)
      · rfl
      · exact released.congr rfl rfl rfl rfl
    · refine .record (.push rfl (moves ⟨by simp, by simp⟩ ?_ (.same rfl) ?_ purpose))
      · rfl
      · exact released.congr rfl rfl rfl rfl
  · refine .record (.push rfl (moves ⟨by simp, by simp⟩ ?_ (.same rfl) ?_ purpose))
    · rfl
    · exact released.congr rfl rfl rfl rfl

theorem connectionTimedOut_moved (linked : Linked session) : Moved session session.connectionTimedOut := by
  unfold connectionTimedOut
  cases probing : session.isProbing with
  | true =>
    have purpose : session.purpose = .probe := by simpa [isProbing] using probing
    obtain ⟨identifier, selected⟩ := Option.isSome_iff_exists.mp (linked.probing purpose).2
    simp only [if_true]
    exact finishProbe_moved linked.placed selected .unavailable
  | false =>
    simp only [Bool.false_eq_true, if_false]
    have alike : Alike session session.cancelSelected := cancelSelected_alike
    have placed := linked.placed.congr alike.powered alike.selected alike.pending alike.invalid
    exact .prepared alike.status alike.silent (rescan_moved placed (alike.purpose.trans (not_probing probing)))

structure Calm (before after : SessionReducer) : Prop where
  state : after.state = before.state
  purpose : after.purpose = before.purpose
  gatt : after.gatt = before.gatt
  initialization : after.initialization = before.initialization
  writes : after.writes = before.writes
  status : after.commandStatus = before.commandStatus
  timer : before.state = .ready → after.timer = before.timer
  silent : Silent before after

theorem Alike.calm (alike : Alike before after) : Calm before after :=
  ⟨alike.state, alike.purpose, alike.gatt, alike.initialization, alike.writes, alike.status, fun _ => alike.timer, alike.silent⟩

theorem Calm.trans (first : Calm before middle) (second : Calm middle after) : Calm before after := by
  refine ⟨second.state.trans first.state, second.purpose.trans first.purpose, second.gatt.trans first.gatt,
    second.initialization.trans first.initialization, second.writes.trans first.writes, second.status.trans first.status,
    ?_, first.silent.trans second.silent⟩
  intro ready
  rw [second.timer (first.state.trans ready), first.timer ready]

def Settles (before after : SessionReducer) : Prop := Moved before after ∨ Calm before after ∧ Linked after

theorem Settles.after_calm (calm : Calm before middle) (settles : Settles middle after) : Settles before after := by
  rcases settles with moved | ⟨still, linked⟩
  · exact .inl (moved.prepared calm.status calm.silent)
  · exact .inr ⟨calm.trans still, linked⟩

section Linked
variable (linked : Linked session)
include linked

theorem Linked.moved_connecting : Moved session (session.transition .connecting) :=
  ⟨transition_left .connecting (by simp), .transition ⟨by simp, by simp⟩ linked.probing linked.pending linked.invalid⟩

theorem Linked.waits (powered : session.bluetoothPoweredOn = false)
    (valid : session.invalidPreferredIdentifier = false) (connection : RestoredConnection) :
    Settles session { session with pendingRestoration := some connection } := by
  refine .inr ⟨⟨rfl, rfl, rfl, rfl, rfl, rfl, fun _ => rfl, .same rfl⟩, linked.active, linked.probing, fun _ => powered, ?_⟩
  intro invalid
  exact absurd invalid (by simp [valid])

theorem connectSelected_settles : Settles session session.connectSelected := by
  unfold connectSelected
  split
  · exact .inr ⟨(Alike.refl session).calm, linked⟩
  · next identifier selected =>
    split
    · exact .inl (.arm (.push rfl linked.moved_connecting))
    · next unpowered => exact linked.waits (by simpa using unpowered) (linked.placed.valid selected) .disconnected

theorem resumed_linked (valid : session.invalidPreferredIdentifier = false) :
    Linked { session with pendingRestoration := none } :=
  ⟨linked.active, linked.probing, nofun, fun invalid => absurd invalid (by simp [valid])⟩

theorem resumeRestoration_connected (valid : session.invalidPreferredIdentifier = false)
    (powered : session.bluetoothPoweredOn = true) (selected : session.selectedIdentifier = some identifier) :
    Moved session (session.resumeRestoration .connected) := by
  have resumed := resumed_linked linked valid
  unfold resumeRestoration
  rw [if_pos powered]
  dsimp only
  split
  · next unselected =>
    rw [selected] at unselected
    cases unselected
  · have left : Left session (SessionReducer.transition { session with pendingRestoration := none } .discovering) := by
      refine .prepared ?_ ?_ (transition_left .discovering (by simp))
      · rfl
      · exact .same rfl
    refine .push rfl (.arm ⟨left, ?_, ?_, ?_, ?_⟩)
    · intro
      rw [transition_bluetoothPoweredOn, transition_selectedIdentifier]
      exact ⟨powered, Option.isSome_of_eq_some selected⟩
    · rw [transition_purpose, transition_bluetoothPoweredOn, transition_selectedIdentifier]
      exact resumed.probing
    · rw [transition_pendingRestoration, transition_bluetoothPoweredOn]
      exact resumed.pending
    · rw [transition_invalidPreferredIdentifier, transition_selectedIdentifier, transition_pendingRestoration]
      exact resumed.invalid

theorem resumeRestoration_waits (valid : session.invalidPreferredIdentifier = false)
    (unpowered : session.bluetoothPoweredOn = false) (connection : RestoredConnection) :
    Settles session (session.resumeRestoration connection) := by
  unfold resumeRestoration
  rw [if_neg (by simp [unpowered])]
  exact linked.waits unpowered valid connection

theorem resumeRestoration_settles (valid : session.invalidPreferredIdentifier = false)
    (connection : RestoredConnection) : Settles session (session.resumeRestoration connection) := by
  by_cases powered : session.bluetoothPoweredOn = true
  · have resumed := resumed_linked linked valid
    have calm : Calm session { session with pendingRestoration := none } :=
      ⟨rfl, rfl, rfl, rfl, rfl, rfl, fun _ => rfl, .same rfl⟩
    cases connection with
    | connected =>
      cases selected : session.selectedIdentifier with
      | none =>
        unfold resumeRestoration
        rw [if_pos powered]
        dsimp only
        split
        · exact .inr ⟨calm, resumed⟩
        · next chosen =>
          rw [selected] at chosen
          cases chosen
      | some identifier => exact .inl (resumeRestoration_connected linked valid powered selected)
    | pending =>
      unfold resumeRestoration
      rw [if_pos powered]
      exact .after_calm calm (.inl (.arm resumed.moved_connecting))
    | disconnected =>
      unfold resumeRestoration
      rw [if_pos powered]
      exact .after_calm calm (connectSelected_settles resumed)
  · exact resumeRestoration_waits linked valid (by simpa using powered) connection

theorem select_settles (identifier : String) : Settles session (session.select identifier) := by
  have still : Settles session session := .inr ⟨(Alike.refl session).calm, linked⟩
  unfold select
  split
  · exact still
  · next open_ =>
    simp only [not_or, Bool.not_eq_true] at open_
    split
    · exact still
    · left
      have given : (session.abandonProbe).commandStatus = session.commandStatus ∧ Silent session session.abandonProbe ∧
          session.abandonProbe.purpose = .selected ∧
          session.abandonProbe.pendingRestoration = session.pendingRestoration ∧
          session.abandonProbe.bluetoothPoweredOn = session.bluetoothPoweredOn ∧
          session.abandonProbe.invalidPreferredIdentifier = session.invalidPreferredIdentifier := by
        unfold abandonProbe
        split
        · split
          · exact ⟨rfl, .push rfl (.same rfl), rfl, rfl, rfl, rfl⟩
          · exact ⟨rfl, .same rfl, rfl, rfl, rfl, rfl⟩
        · next other => exact ⟨rfl, .same rfl, not_probing (by simpa using other), rfl, rfl, rfl⟩
      obtain ⟨status, silent, purpose, pending, powered, invalid⟩ := given
      refine .record (.arm (moves ⟨by simp, by simp⟩ status ?_ ?_ purpose))
      · exact .push rfl (.push rfl (silent.trans (.same rfl)))
      · refine ⟨?_, ?_⟩
        · intro waits
          exact powered.trans (linked.pending (pending ▸ waits))
        · intro wrong
          have refused : session.invalidPreferredIdentifier = true := invalid.symm.trans wrong
          rw [open_.2.2.1] at refused
          cases refused

end Linked

theorem emitWrite_selected (other : SessionReducer) (write : LightingWrite) (same : other.selectedIdentifier.isSome = true) :
    ∃ identifier, other.selectedIdentifier = some identifier ∧ other.emitWrite write = other.push (.write identifier write) := by
  obtain ⟨identifier, selected⟩ := Option.isSome_iff_exists.mp same
  exact ⟨identifier, selected, by simp only [emitWrite, selected]⟩

inductive Initializes (session : SessionReducer) : SessionReducer → Prop where
  | still : Initializes session session
  | wrote (identifier : String) (write : LightingWrite) (later : List LightingWrite) (delay : Nat)
      (gatt : session.gatt = .subscribed) (state : session.state = .discovering)
      (selected : session.selectedIdentifier = some identifier) (queued : session.initialization = write :: later) :
      Initializes session ((({ session with initialization := later } : SessionReducer).push
        (.write identifier write)).arm .initialization delay)
  | readied (gatt : session.gatt = .subscribed) (state : session.state = .discovering) (timer : session.timer = none)
      (empty : session.initialization = []) :
      Initializes session ((session.transition .ready).record "notify_state=true")

theorem drainInitialization_initializes (linked : Linked session) (canSend : Bool) :
    Initializes session (session.drainInitialization canSend) := by
  unfold drainInitialization
  split
  · exact .still
  · next open_ =>
    simp only [not_or, ne_eq, not_not, Bool.not_eq_false, Bool.not_eq_true] at open_
    obtain ⟨-, gatt, state, timer⟩ := open_
    split
    · next empty => exact .readied gatt state (by simpa using timer) empty
    · next write later queued =>
      obtain ⟨identifier, selected, emits⟩ :=
        emitWrite_selected { session with initialization := later } write (linked.active (.inl state)).2
      rw [emits]
      exact .wrote identifier write later _ gatt state selected queued

inductive Drains (session : SessionReducer) : SessionReducer → Prop where
  | still : Drains session session
  | wrote (identifier : String) (write : LightingWrite) (later : List LightingWrite) (delay : Nat) (text : String)
      (state : session.state = .ready) (timer : session.timer = none)
      (selected : session.selectedIdentifier = some identifier) (queued : session.writes = write :: later) :
      Drains session (((({ session with writes := later } : SessionReducer).record text).push
        (.write identifier write)).arm .writeDrain delay)

theorem drainWrites_drains (linked : Linked session) (canSend : Bool) : Drains session (session.drainWrites canSend) := by
  unfold drainWrites
  split
  · exact .still
  · next open_ =>
    simp only [not_or, ne_eq, not_not, Bool.not_eq_false, Bool.not_eq_true] at open_
    obtain ⟨-, state, timer⟩ := open_
    split
    · exact .still
    · next write later queued =>
      obtain ⟨identifier, selected, emits⟩ := emitWrite_selected
        (({ session with writes := later } : SessionReducer).record ("requested=" ++ hexEncode write.payload)) write
        (linked.active (.inr state)).2
      rw [emits]
      exact .wrote identifier write later _ _ state (by simpa using timer) selected queued

structure Sound (session : SessionReducer) : Prop where
  linked : Linked session
  verified : session.gatt ≠ .unverified → session.purpose = .selected ∧
    (session.state = .discovering ∨ session.state = .ready)
  ready : session.state = .ready → session.gatt = .subscribed ∧ session.initialization = [] ∧
    (session.timer = none ∨ session.timer = some .writeDrain)
  bounded : session.writes.length ≤ maxQueuedWrites

end SessionReducer

open SessionReducer

namespace LightingStep

def written (here : LightingStep) : List (String × LightingWrite) :=
  (here.after.actions.drop here.before.actions.length).filterMap LightingSessionAction.written

/-- Characteristics of the selected accessory were discovered and found complete. -/
def verifies (here : LightingStep) : Bool :=
  match here.input with
  | .handle (.characteristicsDiscovered _ _ _ _) =>
    here.before.reconnectEnabled && decide (here.before.state = .discovering ∧ here.after.gatt = .verified)
  | _ => false

def ticks (here : LightingStep) : Bool :=
  match here.input with
  | .handle (.timerFired .writeDrain _) => decide (here.before.timer = some .writeDrain)
  | _ => false

theorem written_silent {here : LightingStep} (silent : Silent here.before here.after) : here.written = [] := by
  obtain ⟨later, appended, quiet⟩ := silent
  simp [written, appended, quiet]

end LightingStep

inductive Turn (here : LightingStep) : Prop where
  | calm (state : here.after.state = here.before.state) (purpose : here.after.purpose = here.before.purpose)
      (gatt : here.after.gatt = here.before.gatt) (initialization : here.after.initialization = here.before.initialization)
      (writes : here.after.writes = here.before.writes)
      (timer : here.before.state = .ready → here.after.timer = here.before.timer)
      (other : here.verifies = false) (quiet : here.written = [])
  | left (state : here.after.state ≠ .ready) (writes : here.after.writes = [])
      (initialization : here.after.initialization = []) (gatt : here.after.gatt = .unverified)
      (status : here.before.state = .ready → here.after.commandStatus = here.before.commandStatus.settled ∨
        here.after.commandStatus = .idle ∧ ∃ preferred, here.input = .start preferred)
      (quiet : here.written = [])
  | verified (before : here.before.state = .discovering) (state : here.after.state = .discovering)
      (purpose : here.after.purpose = .selected) (gatt : here.after.gatt = .verified)
      (initialization : here.after.initialization = initializationActions)
      (writes : here.after.writes = here.before.writes) (verifies : here.verifies = true) (quiet : here.written = [])
  | subscribed (before : here.before.gatt ≠ .unverified) (state : here.after.state = here.before.state)
      (purpose : here.after.purpose = here.before.purpose) (gatt : here.after.gatt = .subscribed)
      (initialization : here.after.initialization = here.before.initialization)
      (writes : here.after.writes = here.before.writes)
      (timer : here.before.state = .ready → here.after.timer = here.before.timer) (quiet : here.written = [])
  | initialized (identifier : String) (write : LightingWrite) (before : here.before.state = .discovering)
      (state : here.after.state = .discovering) (verified : here.before.gatt ≠ .unverified)
      (gatt : here.after.gatt = .subscribed) (purpose : here.after.purpose = here.before.purpose)
      (selected : here.after.selectedIdentifier = some identifier)
      (queued : here.before.initialization = write :: here.after.initialization)
      (writes : here.after.writes = here.before.writes) (wrote : here.written = [(identifier, write)])
  | readied (before : here.before.state = .discovering) (verified : here.before.gatt ≠ .unverified)
      (empty : here.before.initialization = []) (state : here.after.state = .ready)
      (gatt : here.after.gatt = .subscribed) (initialization : here.after.initialization = [])
      (purpose : here.after.purpose = here.before.purpose) (timer : here.after.timer = none)
      (writes : here.after.writes = here.before.writes) (quiet : here.written = [])
  | wrote (identifier : String) (write : LightingWrite)
      (before : here.before.state = .ready ∨ here.before.state = .discovering ∧ here.before.initialization = [])
      (subscribed : here.before.gatt = .subscribed) (state : here.after.state = .ready)
      (gatt : here.after.gatt = .subscribed) (initialization : here.after.initialization = here.before.initialization)
      (purpose : here.after.purpose = here.before.purpose) (selected : here.after.selectedIdentifier = some identifier)
      (queued : here.before.writes = write :: here.after.writes) (timer : here.after.timer = some .writeDrain)
      (paced : here.before.state = .ready → here.before.timer = none ∨ here.ticks = true)
      (wrote : here.written = [(identifier, write)])
  | ticked (ticks : here.ticks = true) (before : here.before.state = .ready) (state : here.after.state = .ready)
      (timer : here.after.timer = none) (purpose : here.after.purpose = here.before.purpose)
      (gatt : here.after.gatt = here.before.gatt) (initialization : here.after.initialization = here.before.initialization)
      (writes : here.after.writes = here.before.writes) (other : here.verifies = false) (quiet : here.written = [])
  | queued (asked : List LightingWrite) (called : here.input = .queueWrites asked) (answered : here.output = .answered true)
      (state : here.after.state = here.before.state) (purpose : here.after.purpose = here.before.purpose)
      (gatt : here.after.gatt = here.before.gatt) (initialization : here.after.initialization = here.before.initialization)
      (timer : here.after.timer = here.before.timer)
      (writes : here.after.writes = (if asked.any isCoalescibleColorWrite then
        here.before.writes.filter fun write => !isCoalescibleColorWrite write else here.before.writes) ++ asked)
      (bounded : here.after.writes.length ≤ maxQueuedWrites) (quiet : here.written = [])

/-- A call's turn, with a session whose connection fields still fit. -/
def Takes (here : LightingStep) : Prop := Turn here ∧ Linked here.after

namespace Takes
variable {session after : SessionReducer} {call : LightingCall} {reply : LightingReply}

theorem moved (moved : Moved session after) : Takes ⟨session, call, reply, after⟩ :=
  ⟨.left moved.1.state moved.1.writes moved.1.initialization moved.1.gatt (fun _ => .inl moved.1.status)
    (LightingStep.written_silent moved.1.silent), moved.2⟩

theorem calm (calm : Calm session after) (linked : Linked after)
    (other : LightingStep.verifies ⟨session, call, reply, after⟩ = false) : Takes ⟨session, call, reply, after⟩ :=
  ⟨.calm calm.state calm.purpose calm.gatt calm.initialization calm.writes calm.timer other
    (LightingStep.written_silent calm.silent), linked⟩

theorem settles (settles : Settles session after)
    (other : LightingStep.verifies ⟨session, call, reply, after⟩ = false) : Takes ⟨session, call, reply, after⟩ := by
  rcases settles with gone | ⟨still, linked⟩
  · exact moved gone
  · exact calm still linked other

theorem still (linked : Linked session) (other : LightingStep.verifies ⟨session, call, reply, session⟩ = false) :
    Takes ⟨session, call, reply, session⟩ :=
  calm (Alike.refl session).calm linked other

section Calls
variable (parse : String → Option Uuid)

theorem start_linked (preferred : Option String) : Linked (session.start parse preferred) := by
  unfold SessionReducer.start
  refine .transition ⟨by simp, by simp⟩ ?_ ?_ ?_
  · intro probing
    cases probing
  · intro pending
    cases pending
  · exact fun _ => ⟨rfl, rfl⟩

theorem start (preferred : Option String) :
    Takes ⟨session, .start preferred, reply, session.start parse preferred⟩ := by
  refine ⟨.left ?_ rfl rfl rfl (fun _ => .inr ⟨rfl, preferred, rfl⟩) ?_, start_linked parse preferred⟩
  · simp [SessionReducer.start]
  · simp [LightingStep.written, SessionReducer.start, transition, resetInitialization]

theorem stop_linked (linked : Linked session) : Linked session.stop := by
  unfold SessionReducer.stop
  refine .transition ⟨by simp, by simp⟩ ?_ linked.pending linked.invalid
  intro probing
  cases probing

theorem stop (linked : Linked session) : Takes ⟨session, .stop, reply, session.stop⟩ := by
  refine ⟨.left ?_ rfl rfl rfl (fun _ => .inl rfl) ?_, ?_⟩
  · simp [SessionReducer.stop]
  · simp [LightingStep.written, SessionReducer.stop, transition, resetInitialization]
  · exact stop_linked linked

theorem resume (linked : Linked session) : Takes ⟨session, .handle .resume, reply, session.handleResume parse⟩ := by
  unfold handleResume
  have fresh (idle : session.state ≠ .ready) :
      Takes ⟨session, .handle .resume, reply, (session.start parse session.preferredIdentifier).push .restartTransport⟩ := by
    refine ⟨.left ?_ rfl rfl rfl (fun ready => absurd ready idle) ?_, (start_linked parse _).push⟩
    · simp [SessionReducer.start, SessionReducer.push]
    · have started : (session.start parse session.preferredIdentifier).actions = [] := by
        simp [SessionReducer.start, transition, resetInitialization]
      simp only [LightingStep.written, SessionReducer.push, started, List.nil_append]
      cases session.actions.length <;> simp [LightingSessionAction.written]
  split
  · exact still linked rfl
  · split
    · next failed => exact fresh (by simp [failed])
    · next gone => exact fresh (by simp [gone])
    · exact still linked rfl

theorem bluetoothState (linked : Linked session) (poweredOn : Bool) (stateCode : Int) :
    Takes ⟨session, .handle (.bluetoothState poweredOn stateCode), reply, session.handleBluetoothState poweredOn stateCode⟩ := by
  unfold handleBluetoothState
  dsimp only
  split
  · next invalid =>
    obtain ⟨unselected, unpending⟩ := linked.invalid invalid
    refine moved (.record (moves ⟨by simp, by simp⟩ ?_ (.same rfl) ⟨?_, ?_⟩ (linked.unprobed unselected)))
    · rfl
    · change session.pendingRestoration.isSome = true → _
      rw [unpending]
      exact fun wrong => nomatch wrong
    · exact fun _ => ⟨unselected, unpending⟩
  · next valid =>
    split
    · refine moved (moves ⟨by simp, by simp⟩ ?_ (.same rfl) ⟨?_, ?_⟩ rfl)
      · rfl
      · intro waits
        cases waits
      · exact fun _ => ⟨rfl, rfl⟩
    · next powered =>
      rw [Bool.not_eq_false] at powered
      subst powered
      have calm (pending : Option RestoredConnection) :
          Calm session { session with bluetoothPoweredOn := true, pendingRestoration := pending } :=
        ⟨rfl, rfl, rfl, rfl, rfl, rfl, fun _ => rfl, .same rfl⟩
      have lit : Linked { session with bluetoothPoweredOn := true, pendingRestoration := none } := by
        refine ⟨?_, ?_, ?_, ?_⟩
        · exact fun active => ⟨rfl, (linked.active active).2⟩
        · exact fun probing => ⟨rfl, (linked.probing probing).2⟩
        · intro waits
          cases waits
        · exact fun invalid => absurd invalid valid
      split
      · next connection waits =>
        refine settles (.after_calm (calm none) (resumeRestoration_settles lit (by simpa using valid) connection)) rfl
      · next empty =>
        have same : ({ session with bluetoothPoweredOn := true, pendingRestoration := none } : SessionReducer) =
            { session with bluetoothPoweredOn := true } := by
          cases session
          simpa using empty.symm
        have still := calm none
        rw [same] at lit still
        split
        · next unselected =>
          split
          · exact .calm (still.trans (push_alike rfl).calm) lit.push rfl
          · refine moved (.record (moves ⟨by simp, by simp⟩ ?_ (.push rfl (.same rfl)) ⟨lit.pending, lit.invalid⟩ ?_))
            · rfl
            · exact linked.unprobed (by simpa using unselected)
        · exact .calm still lit rfl

theorem accepts_valid {identifier : String} (accepted : session.accepts parse identifier = true) :
    session.invalidPreferredIdentifier = false := by
  unfold accepts at accepted
  split at accepted
  · cases accepted
  · simp only [Bool.and_eq_true, Bool.not_eq_true'] at accepted
    exact accepted.1

section Linked
variable (linked : Linked session)
include linked

/-- Choosing an accepted accessory keeps the connection fields together. -/
theorem chosen_linked (valid : session.invalidPreferredIdentifier = false) (identifier : String)
    (name : Option String) :
    Linked { session with selectedIdentifier := some identifier, selectedName := name } := by
  refine ⟨?_, ?_, linked.pending, fun invalid => absurd invalid (by simp [valid])⟩
  · exact fun active => ⟨(linked.active active).1, rfl⟩
  · exact fun probing => ⟨(linked.probing probing).1, rfl⟩

theorem probeNext_settles (valid : session.invalidPreferredIdentifier = false) :
    Settles session session.probeNext := by
  have fits := linked.probeNext valid
  unfold SessionReducer.probeNext at fits ⊢
  split
  · exact .inr ⟨(Alike.refl session).calm, linked⟩
  · next free =>
    rw [if_neg free] at fits
    rcases probeFrom_cases session session.probeQueue with same | ⟨identifier, later, name, probes⟩
    · rw [same] at fits ⊢
      exact .inr ⟨⟨rfl, rfl, rfl, rfl, rfl, rfl, fun _ => rfl, .same rfl⟩, fits⟩
    · rw [probes] at fits ⊢
      refine .inl ⟨.arm (.push rfl (.prepared ?_ ?_ (transition_left .connecting (by simp)))), fits⟩
      · rfl
      · exact .same rfl

theorem discovered (name : Option String) (identifier : String) (rssi : Int) :
    Takes ⟨session, .handle (.discovered name identifier rssi), reply, session.handleDiscovered parse name identifier rssi⟩ := by
  have discards : Alike session (session.discardCandidate identifier) := discardCandidate_alike identifier
  unfold handleDiscovered
  split
  · exact calm discards.calm (discards.linked linked) rfl
  · next known =>
    simp only [not_or, Bool.not_eq_false, Bool.not_eq_true] at known
    have valid := accepts_valid parse known.2.1
    split
    · exact calm discards.calm (discards.linked linked) rfl
    · dsimp only
      generalize listed : SessionReducer.record { session with
        candidates := (session.candidates.filter fun candidate => decide (candidate.platformIdentifier ≠ identifier))
          ++ [⟨identifier, name, rssi⟩] }
        ("candidate=" ++ name.getD "" ++ " id=" ++ identifier ++ " rssi=" ++ toString rssi) = noted
      have alike : Alike session noted := by
        rw [← listed]
        exact ⟨rfl, rfl, rfl, rfl, rfl, rfl, rfl, rfl, rfl, rfl, rfl, .same rfl⟩
      have fits := alike.linked linked
      have fine : noted.invalidPreferredIdentifier = false := alike.invalid.trans valid
      refine settles (.after_calm alike.calm ?_) rfl
      split
      · have chosen : Linked (.push { noted with selectedIdentifier := some identifier, selectedName := name }
            .stopScan) := (chosen_linked fits fine identifier name).push
        refine .after_calm ?_ (connectSelected_settles chosen)
        exact ⟨rfl, rfl, rfl, rfl, rfl, rfl, fun _ => rfl, .push rfl (.same rfl)⟩
      · split
        · refine .inr ⟨⟨rfl, rfl, rfl, rfl, rfl, rfl, fun _ => rfl, .same rfl⟩, ?_⟩
          exact fits.congr rfl rfl rfl rfl rfl rfl
        · split
          · refine .after_calm ?_ (probeNext_settles (fits.congr ?_ ?_ ?_ ?_ ?_ ?_) fine)
            · exact ⟨rfl, rfl, rfl, rfl, rfl, rfl, fun _ => rfl, .same rfl⟩
            all_goals rfl
          · exact .inr ⟨(Alike.refl noted).calm, fits⟩

theorem restoreUnavailable :
    Takes ⟨session, .handle .restoreUnavailable, reply, session.handleRestoreUnavailable⟩ := by
  unfold handleRestoreUnavailable
  split
  · next waits =>
    refine moved (.record (moves ⟨by simp, by simp⟩ ?_ (.push rfl (.same rfl)) (linked.placed.congr ?_ ?_ ?_ ?_) ?_))
    · rfl
    · rfl
    · rfl
    · rfl
    · rfl
    · exact linked.unprobed (by simpa using waits.2.2)
  · exact still linked rfl

theorem restored (name : Option String) (identifier : String) (connected pending : Bool) :
    Takes ⟨session, .handle (.restored name identifier connected pending), reply,
      session.handleRestored parse name identifier connected pending⟩ := by
  unfold handleRestored
  split
  · exact calm (record_alike _).calm linked.record rfl
  · next known =>
    simp only [not_or, Bool.not_eq_false] at known
    have valid := accepts_valid parse known.2
    have chosen : Linked (.record { session with selectedIdentifier := some identifier, selectedName := name }
        ("restore=melk id=" ++ identifier)) := (chosen_linked linked valid identifier name).record
    refine settles (.after_calm ?_ (resumeRestoration_settles chosen valid _)) rfl
    exact ⟨rfl, rfl, rfl, rfl, rfl, rfl, fun _ => rfl, .same rfl⟩

theorem connected (name : Option String) (identifier : String) :
    Takes ⟨session, .handle (.connected name identifier), reply, session.handleConnected name identifier⟩ := by
  unfold handleConnected
  split
  · exact still linked rfl
  · next selected =>
    rw [ne_eq, not_not] at selected
    have valid := linked.placed.valid selected
    have fits : Linked { session.takeName name with timer := none } := linked.congr rfl rfl rfl rfl rfl rfl
    by_cases powered : session.bluetoothPoweredOn = true
    · refine moved ((resumeRestoration_connected fits valid powered selected).prepared ?_ ?_)
      · rfl
      · exact .same rfl
    · have unpowered : session.bluetoothPoweredOn = false := by simpa using powered
      refine settles (.after_calm ?_ (resumeRestoration_waits fits valid unpowered .connected)) rfl
      refine ⟨rfl, rfl, rfl, rfl, rfl, rfl, ?_, .same rfl⟩
      intro ready
      exact absurd (linked.active (.inr ready)).1 powered

end Linked

theorem connectFailed (sound : Sound session) (reason : String) :
    Takes ⟨session, .handle (.connectFailed reason), reply, session.handleConnectFailed reason⟩ := by
  have linked := sound.linked
  unfold handleConnectFailed
  split
  · exact still linked rfl
  · split
    · next probing =>
      have purpose : session.purpose = .probe := by simpa [isProbing] using probing
      obtain ⟨identifier, selected⟩ := Option.isSome_iff_exists.mp (linked.probing purpose).2
      exact moved (finishProbe_moved linked.placed selected .unavailable)
    · next other =>
      have purpose := not_probing (by simpa using other)
      have cleared : Placed { session with timer := none, pendingRestoration := none } :=
        ⟨nofun, fun invalid => ⟨(linked.invalid invalid).1, rfl⟩⟩
      dsimp only
      split
      · refine moved ((scheduleReconnect_moved cleared purpose reason).prepared ?_ ?_)
        · rfl
        · exact .same rfl
      · refine moved (moves ⟨by simp, by simp⟩ ?_ (.same rfl) cleared purpose)
        rfl

theorem connectTimeout (linked : Linked session) :
    Takes ⟨session, .handle .connectTimeout, reply,
      if session.timer = some .connectionAttempt then session.connectionTimedOut else session⟩ := by
  split
  · exact moved (connectionTimedOut_moved linked)
  · exact still linked rfl

theorem servicesDiscovered (linked : Linked session) (services : List Uuid) (error : Option String) :
    Takes ⟨session, .handle (.servicesDiscovered services error), reply, session.handleServicesDiscovered services error⟩ := by
  unfold handleServicesDiscovered
  split
  · exact still linked rfl
  · next discovering =>
    rw [ne_eq, not_not] at discovering
    obtain ⟨identifier, selected⟩ := Option.isSome_iff_exists.mp (linked.active (.inl discovering)).2
    split
    · exact moved (discoveryFailed_moved linked.placed selected _)
    · split
      · have gone : Moved (session.record "gatt=missing FFF0 service")
            ((session.record "gatt=missing FFF0 service").rejectCandidate "missing FFF0 service") := by
          apply rejectCandidate_moved
          · exact linked.placed.congr rfl rfl rfl rfl
          · exact selected
        refine moved (gone.prepared ?_ ?_)
        · rfl
        · exact .same rfl
      · split
        · exact calm (push_alike rfl).calm linked.push rfl
        · exact still linked rfl

structure Verifies (before after : SessionReducer) : Prop where
  state : after.state = before.state
  purpose : after.purpose = before.purpose
  gatt : after.gatt = .verified
  initialization : after.initialization = initializationActions
  writes : after.writes = before.writes
  silent : Silent before after
  linked : Linked before → Linked after

theorem verifyProfile_verifies (session : SessionReducer) : Verifies session session.verifyProfile := by
  unfold verifyProfile
  dsimp only
  split
  · refine ⟨rfl, rfl, rfl, rfl, rfl, .push rfl (.same rfl), ?_⟩
    exact fun linked => linked.congr rfl rfl rfl rfl rfl rfl
  · refine ⟨rfl, rfl, rfl, rfl, rfl, .same rfl, ?_⟩
    exact fun linked => linked.congr rfl rfl rfl rfl rfl rfl

theorem characteristicsDiscovered (linked : Linked session) (enabled : session.reconnectEnabled = true) (name : Option String) (service : Uuid)
    (characteristics : List LightingCharacteristicEvidence) (error : Option String) :
    Takes ⟨session, .handle (.characteristicsDiscovered name service characteristics error), reply,
      session.handleCharacteristicsDiscovered name service characteristics error⟩ := by
  unfold handleCharacteristicsDiscovered
  split
  · next other => exact still linked (by simp [LightingStep.verifies, other])
  · next discovering =>
    rw [ne_eq, not_not] at discovering
    obtain ⟨identifier, selected⟩ := Option.isSome_iff_exists.mp (linked.active (.inl discovering)).2
    have alike : Alike session (session.takeName name) :=
      ⟨rfl, rfl, rfl, rfl, rfl, rfl, rfl, rfl, rfl, rfl, rfl, .same rfl⟩
    generalize session.takeName name = named at alike
    have placed : Placed named := linked.placed.congr alike.powered alike.selected alike.pending alike.invalid
    have chosen := alike.selected.trans selected
    have rejected (reason : String) : Takes ⟨session, .handle (.characteristicsDiscovered name service characteristics error),
        reply, named.rejectCandidate reason⟩ :=
      moved ((rejectCandidate_moved placed chosen reason).prepared alike.status alike.silent)
    unfold checkCharacteristics
    split
    · exact moved ((discoveryFailed_moved placed chosen _).prepared alike.status alike.silent)
    · split
      · exact rejected _
      · split
        · exact rejected _
        · split
          · exact rejected _
          · split
            · exact moved ((finishProbe_moved placed chosen .supported).prepared alike.status alike.silent)
            · next other =>
              have purpose := not_probing (by simpa using other)
              have fits := alike.linked linked
              refine ⟨.verified discovering ?_ ?_ ?_ ?_ ?_ ?_ ?_, ?_⟩
              · exact (verifyProfile_verifies named).state.trans (alike.state.trans discovering)
              · exact (verifyProfile_verifies named).purpose.trans purpose
              · exact (verifyProfile_verifies named).gatt
              · exact (verifyProfile_verifies named).initialization
              · exact (verifyProfile_verifies named).writes.trans alike.writes
              · simp [LightingStep.verifies, enabled, discovering, (verifyProfile_verifies named).gatt]
              · exact LightingStep.written_silent (alike.silent.trans (verifyProfile_verifies named).silent)
              · exact (verifyProfile_verifies named).linked fits

theorem notification (linked : Linked session) (characteristic : Uuid) (bytes : List UInt8) :
    Takes ⟨session, .handle (.notification characteristic bytes), reply,
      if characteristic = melkNotifyChannel then { session with notifications := session.notifications ++ [bytes] }
      else session⟩ := by
  split
  · exact calm ⟨rfl, rfl, rfl, rfl, rfl, rfl, fun _ => rfl, .same rfl⟩ (linked.congr rfl rfl rfl rfl rfl rfl) rfl
  · exact still linked rfl

theorem written_one {before middle : SessionReducer} {identifier : String} {write : LightingWrite} {timer : LightingTimer}
    {delay : Nat} (same : middle.actions = before.actions) :
    LightingStep.written ⟨before, call, reply, (middle.push (.write identifier write)).arm timer delay⟩ =
      [(identifier, write)] := by
  simp [LightingStep.written, SessionReducer.arm, SessionReducer.push, same, LightingSessionAction.written]

theorem readied_linked (linked : Linked session) (discovering : session.state = .discovering) :
    Linked (session.transition .ready) := by
  refine ⟨?_, ?_, ?_, ?_⟩
  · intro
    rw [transition_bluetoothPoweredOn, transition_selectedIdentifier]
    exact linked.active (.inl discovering)
  · rw [transition_purpose, transition_bluetoothPoweredOn, transition_selectedIdentifier]
    exact linked.probing
  · rw [transition_pendingRestoration, transition_bluetoothPoweredOn]
    exact linked.pending
  · rw [transition_invalidPreferredIdentifier, transition_selectedIdentifier, transition_pendingRestoration]
    exact linked.invalid

theorem initializes_linked (initializes : Initializes session after) (linked : Linked session) : Linked after := by
  cases initializes with
  | still => exact linked
  | wrote identifier write later delay gatt state selected queued => exact linked.congr rfl rfl rfl rfl rfl rfl
  | readied gatt state timer empty => exact (readied_linked linked state).record

theorem notificationState (sound : Sound session) (characteristic : Uuid) (ready canSend : Bool) (error : Option String) :
    Takes ⟨session, .handle (.notificationState characteristic ready canSend error), reply,
      session.handleNotificationState characteristic ready canSend error⟩ := by
  have linked := sound.linked
  unfold handleNotificationState
  split
  · exact still linked rfl
  · next active =>
    have current : session.state = .discovering ∨ session.state = .ready := by tauto
    split
    · exact still linked rfl
    · have purpose : session.gatt ≠ .unverified → session.purpose = .selected := fun verified => (sound.verified verified).1
      have failed (reason : String) : Takes ⟨session, .handle (.notificationState characteristic ready canSend error), reply,
          session.transition (.failed reason)⟩ := by
        refine moved ⟨transition_left _ (by simp), .transition ⟨by simp, by simp⟩ linked.probing linked.pending linked.invalid⟩
      split
      · exact failed _
      · split
        · exact failed _
        · split
          · exact still linked rfl
          · next verified =>
            have fits : Linked session.subscribeProfile := linked.congr rfl rfl rfl rfl rfl rfl
            have timer : session.state = .ready → session.subscribeProfile.timer = session.timer := by
              intro now
              rcases (sound.ready now).2.2 with none | drain
              · simp [subscribeProfile, none]
              · simp [subscribeProfile, drain]
            have initializes := drainInitialization_initializes fits canSend
            have kept := initializes_linked initializes fits
            generalize session.subscribeProfile.drainInitialization canSend = after at initializes kept
            refine ⟨?_, kept⟩
            cases initializes with
            | still => exact .subscribed verified rfl rfl rfl rfl rfl timer (LightingStep.written_silent (.same rfl))
            | wrote identifier write later delay gatt state selected queued =>
              exact .initialized identifier write state state verified rfl rfl selected queued rfl (written_one rfl)
            | readied gatt state timer empty =>
              exact .readied state verified empty rfl rfl empty rfl timer rfl (LightingStep.written_silent (.same rfl))

theorem drains_linked (drains : Drains session after) (linked : Linked session) : Linked after := by
  cases drains with
  | still => exact linked
  | wrote identifier write later delay text state timer selected queued => exact linked.congr rfl rfl rfl rfl rfl rfl

theorem drains (sound : Sound session) (drains : Drains session after)
    (other : LightingStep.verifies ⟨session, call, reply, session⟩ = false) : Takes ⟨session, call, reply, after⟩ := by
  refine ⟨?_, drains_linked drains sound.linked⟩
  cases drains with
  | still => exact (still sound.linked other).1
  | wrote identifier write later delay text state timer selected queued =>
    have gatt := (sound.ready state).1
    exact .wrote identifier write (.inl state) gatt state gatt rfl rfl selected queued rfl (fun _ => .inl timer)
      (written_one rfl)

theorem writeReady (sound : Sound session) (canSend : Bool) :
    Takes ⟨session, .handle (.writeReady canSend), reply, (session.drainInitialization canSend).drainWrites canSend⟩ := by
  have initializes := drainInitialization_initializes sound.linked canSend
  have linked := initializes_linked initializes sound.linked
  have drained := drainWrites_drains linked canSend
  generalize session.drainInitialization canSend = middle at initializes linked drained
  generalize middle.drainWrites canSend = after at drained
  cases initializes with
  | still => exact drains sound drained rfl
  | wrote identifier write later delay gatt state selected queued =>
    cases drained with
    | still =>
      refine ⟨.initialized identifier write state state ?_ gatt rfl selected queued rfl (written_one rfl), linked⟩
      simp [gatt]
    | wrote _ _ _ _ _ ready => cases state.symm.trans ready
  | readied gatt state timer empty =>
    have ready : (session.transition .ready).gatt = .subscribed := gatt
    refine ⟨?_, drains_linked drained linked⟩
    cases drained with
    | still =>
      refine .readied state ?_ empty rfl gatt empty rfl timer rfl (LightingStep.written_silent (.same rfl))
      simp [gatt]
    | wrote identifier write later delay text now free selected queued =>
      refine .wrote identifier write (.inr ⟨state, empty⟩) gatt rfl gatt rfl rfl selected queued rfl ?_ (written_one rfl)
      intro already
      cases state.symm.trans already

theorem timerFired (sound : Sound session) (timer : LightingTimer) (canSend : Bool) :
    Takes ⟨session, .handle (.timerFired timer canSend), reply, session.handleTimerFired timer canSend⟩ := by
  have linked := sound.linked
  unfold handleTimerFired
  split
  · exact still linked rfl
  · next fired =>
    rw [ne_eq, not_not] at fired
    have elsewhere (other : timer ≠ .writeDrain) : session.state ≠ .ready := by
      intro now
      rcases (sound.ready now).2.2 with none | drain
      · cases fired.symm.trans none
      · exact other (Option.some.inj (fired.symm.trans drain))
    have stopped (idle : session.state ≠ .ready) : Calm session { session with timer := none } :=
      ⟨rfl, rfl, rfl, rfl, rfl, rfl, fun now => absurd now idle, .same rfl⟩
    have unset : Linked { session with timer := none } := linked.congr rfl rfl rfl rfl rfl rfl
    cases timer with
    | connectionAttempt => exact moved (connectionTimedOut_moved linked)
    | discovery =>
      have gone : Moved (session.record "gatt_timeout") (session.record "gatt_timeout").connectionTimedOut :=
        connectionTimedOut_moved linked.record
      refine moved (gone.prepared ?_ ?_)
      · rfl
      · exact .same rfl
    | reconnect =>
      exact settles (.after_calm (stopped (elsewhere (by simp))) (connectSelected_settles unset)) rfl
    | initialization =>
      have initializes := drainInitialization_initializes unset canSend
      have kept := initializes_linked initializes unset
      dsimp only
      generalize SessionReducer.drainInitialization { session with timer := none } canSend = after at initializes kept
      refine ⟨?_, kept⟩
      cases initializes with
      | still => exact (calm (stopped (elsewhere (by simp))) unset rfl).1
      | wrote identifier write later delay gatt state selected queued =>
        have verified : session.gatt ≠ .unverified := by
          intro other
          cases other.symm.trans gatt
        exact .initialized identifier write state state verified gatt rfl selected queued rfl (written_one rfl)
      | readied gatt state free empty =>
        have verified : session.gatt ≠ .unverified := by
          intro other
          cases other.symm.trans gatt
        exact .readied state verified empty rfl gatt empty rfl rfl rfl (LightingStep.written_silent (.same rfl))
    | writeDrain =>
      have drained := drainWrites_drains unset canSend
      have ticks (after : SessionReducer) :
          LightingStep.ticks ⟨session, .handle (.timerFired .writeDrain canSend), reply, after⟩ = true := by
        simp [LightingStep.ticks, fired]
      have kept := drains_linked drained unset
      dsimp only
      generalize SessionReducer.drainWrites { session with timer := none } canSend = after at drained kept
      refine ⟨?_, kept⟩
      cases drained with
      | still =>
        by_cases ready : session.state = .ready
        · exact .ticked (ticks _) ready ready rfl rfl rfl rfl rfl rfl (LightingStep.written_silent (.same rfl))
        · exact (calm (stopped ready) unset rfl).1
      | wrote identifier write later delay text state free selected queued =>
        have gatt := (sound.ready state).1
        exact .wrote identifier write (.inl state) gatt state gatt rfl rfl selected queued rfl (fun _ => .inr (ticks _))
          (written_one rfl)

theorem disconnected (linked : Linked session) (reason : String) (poweredOn : Bool) :
    Takes ⟨session, .handle (.disconnected reason poweredOn), reply, session.handleDisconnected reason poweredOn⟩ := by
  unfold handleDisconnected
  split
  · exact still linked rfl
  · dsimp only
    split
    · next probing =>
      have purpose : session.purpose = .probe := by simpa [isProbing] using probing
      obtain ⟨powered, chosen⟩ := linked.probing purpose
      obtain ⟨identifier, selected⟩ := Option.isSome_iff_exists.mp chosen
      have unpending : session.pendingRestoration.isSome = true → False := by
        intro waits
        have off := linked.pending waits
        rw [powered] at off
        cases off
      have gone : Moved { session with bluetoothPoweredOn := poweredOn }
          (SessionReducer.finishProbe { session with bluetoothPoweredOn := poweredOn } .unavailable) := by
        apply finishProbe_moved
        · exact ⟨fun waits => (unpending waits).elim, linked.invalid⟩
        · exact selected
      refine moved (gone.prepared ?_ ?_)
      · rfl
      · exact .same rfl
    · next other =>
      have purpose : session.purpose = .selected := not_probing (by simpa [isProbing] using other)
      split
      · have cleared : Placed (.record
            { session with bluetoothPoweredOn := poweredOn, pendingRestoration := none } ("disconnected error=" ++ reason)) :=
          ⟨nofun, fun invalid => ⟨(linked.invalid invalid).1, rfl⟩⟩
        refine moved ((scheduleReconnect_moved cleared purpose reason).prepared ?_ ?_)
        · rfl
        · exact .same rfl
      · refine moved (moves ⟨by simp, by simp⟩ ?_ (.same rfl) ⟨nofun, fun _ => ⟨rfl, rfl⟩⟩ rfl)
        rfl

theorem handle (sound : Sound session) (event : LightingSessionEvent) :
    Takes ⟨session, .handle event, reply, session.handle parse event⟩ := by
  have linked := sound.linked
  by_cases enabled : session.reconnectEnabled = false
  · unfold SessionReducer.handle
    rw [if_pos enabled]
    refine still linked ?_
    cases event <;> simp [LightingStep.verifies, enabled]
  · unfold SessionReducer.handle
    rw [if_neg enabled]
    cases event with
    | resume => exact resume parse linked
    | bluetoothState poweredOn stateCode => exact bluetoothState linked poweredOn stateCode
    | discovered name identifier rssi => exact discovered parse linked name identifier rssi
    | restored name identifier connected pending => exact restored parse linked name identifier connected pending
    | restoreUnavailable => exact restoreUnavailable linked
    | connected name identifier => exact connected linked name identifier
    | connectFailed reason => exact connectFailed sound reason
    | connectTimeout => exact connectTimeout linked
    | servicesDiscovered services error => exact servicesDiscovered linked services error
    | characteristicsDiscovered name service characteristics error =>
      exact characteristicsDiscovered linked (by simpa using enabled) name service characteristics error
    | notificationState characteristic ready canSend error => exact notificationState sound characteristic ready canSend error
    | notification characteristic bytes => exact notification linked characteristic bytes
    | writeReady canSend => exact writeReady sound canSend
    | timerFired timer canSend => exact timerFired sound timer canSend
    | disconnected reason poweredOn => exact disconnected linked reason poweredOn

def retained (session : SessionReducer) (asked : List LightingWrite) : List LightingWrite :=
  if asked.any isCoalescibleColorWrite then session.writes.filter fun write => !isCoalescibleColorWrite write
  else session.writes

theorem retained_length (asked : List LightingWrite) : (retained session asked).length =
    if asked.any isCoalescibleColorWrite then session.writes.length - session.writes.countP isCoalescibleColorWrite
    else session.writes.length := by
  unfold retained
  split
  · have counted := List.length_eq_countP_add_countP isCoalescibleColorWrite (l := session.writes)
    have same : (session.writes.countP fun write => decide ¬isCoalescibleColorWrite write = true) =
        session.writes.countP fun write => !isCoalescibleColorWrite write := by
      congr
      funext write
      cases isCoalescibleColorWrite write <;> rfl
    rw [← List.countP_eq_length_filter]
    omega
  · rfl

theorem queueWrites_cases (session : SessionReducer) (asked : List LightingWrite) :
    session.queueWrites asked = (session, false) ∨
      session.queueWrites asked =
        ({ session with writes := retained session asked ++ asked, commandStatus := .requested }, true) ∧
        (retained session asked ++ asked).length ≤ maxQueuedWrites := by
  unfold SessionReducer.queueWrites
  split
  · exact .inl rfl
  · dsimp only
    rw [← retained_length asked]
    split
    · exact .inl rfl
    · next room =>
      refine .inr ⟨rfl, ?_⟩
      rw [List.length_append]
      omega

theorem queueWrites (linked : Linked session) (asked : List LightingWrite) :
    Takes ⟨session, .queueWrites asked, .answered (session.queueWrites asked).2, (session.queueWrites asked).1⟩ := by
  rcases queueWrites_cases session asked with refused | ⟨accepted, bounded⟩
  · rw [refused]
    exact still linked rfl
  · rw [accepted]
    exact ⟨.queued asked rfl rfl rfl rfl rfl rfl rfl rfl bounded (LightingStep.written_silent (.same rfl)),
      linked.congr rfl rfl rfl rfl rfl rfl⟩

theorem outputs (linked : Linked session) (state : after.state = session.state)
    (powered : after.bluetoothPoweredOn = session.bluetoothPoweredOn)
    (selected : after.selectedIdentifier = session.selectedIdentifier) (purpose : after.purpose = session.purpose)
    (pending : after.pendingRestoration = session.pendingRestoration)
    (invalid : after.invalidPreferredIdentifier = session.invalidPreferredIdentifier)
    (gatt : after.gatt = session.gatt) (initialization : after.initialization = session.initialization)
    (writes : after.writes = session.writes) (timer : after.timer = session.timer)
    (actions : after.actions = session.actions ∨ after.actions = [])
    (other : LightingStep.verifies ⟨session, call, reply, after⟩ = false) : Takes ⟨session, call, reply, after⟩ := by
  refine ⟨.calm state purpose gatt initialization writes (fun _ => timer) other ?_,
    linked.congr state powered selected purpose pending invalid⟩
  rcases actions with same | none
  · exact LightingStep.written_silent (.same same)
  · simp [LightingStep.written, none]

theorem step (sound : Sound session) (call : LightingCall) : Takes (Runs.take (SessionReducer.step parse) session call) := by
  have linked := sound.linked
  cases call with
  | start preferred => exact start parse preferred
  | stop => exact stop linked
  | select identifier => exact settles (select_settles linked identifier) rfl
  | queueWrites asked => exact queueWrites linked asked
  | drainWrites canSend => exact drains sound (drainWrites_drains linked canSend) rfl
  | handle event => exact handle parse sound event
  | markLastCommandConfirmed =>
    have same (after : SessionReducer × Bool) (marked : session.markLastCommandConfirmed = after) :
        Takes ⟨session, .markLastCommandConfirmed, .answered after.2, after.1⟩ := by
      unfold SessionReducer.markLastCommandConfirmed at marked
      split at marked
      · subst marked
        exact still linked rfl
      · subst marked
        exact outputs linked rfl rfl rfl rfl rfl rfl rfl rfl rfl rfl (.inl rfl) rfl
    exact same _ rfl
  | markLastCommandUnconfirmed =>
    have same (after : SessionReducer) (marked : session.markLastCommandUnconfirmed = after) :
        Takes ⟨session, .markLastCommandUnconfirmed, .done, after⟩ := by
      unfold SessionReducer.markLastCommandUnconfirmed at marked
      split at marked
      · subst marked
        exact outputs linked rfl rfl rfl rfl rfl rfl rfl rfl rfl rfl (.inl rfl) rfl
      · subst marked
        exact still linked rfl
    exact same _ rfl
  | drainActions => exact outputs linked rfl rfl rfl rfl rfl rfl rfl rfl rfl rfl (.inr rfl) rfl
  | drainRecords | drainCandidates | drainCandidateRemovals | drainNotifications =>
    exact outputs linked rfl rfl rfl rfl rfl rfl rfl rfl rfl rfl (.inl rfl) rfl

end Calls

end Takes

theorem Takes.sound {here : LightingStep} (takes : Takes here) (sound : Sound here.before) : Sound here.after := by
  obtain ⟨turn, linked⟩ := takes
  cases turn with
  | calm state purpose gatt initialization writes timer other quiet =>
    refine ⟨linked, ?_, ?_, writes ▸ sound.bounded⟩
    · rw [gatt, purpose, state]
      exact sound.verified
    · intro ready
      rw [state] at ready
      rw [gatt, initialization, timer ready]
      exact sound.ready ready
  | left state writes initialization gatt status quiet =>
    exact ⟨linked, fun verified => absurd gatt verified, fun ready => absurd ready state, by simp [writes]⟩
  | verified before state purpose gatt initialization writes verifies quiet =>
    refine ⟨linked, fun _ => ⟨purpose, .inl state⟩, ?_, writes ▸ sound.bounded⟩
    intro ready
    cases state.symm.trans ready
  | subscribed before state purpose gatt initialization writes timer quiet =>
    obtain ⟨chosen, active⟩ := sound.verified before
    refine ⟨linked, fun _ => ⟨purpose.trans chosen, state ▸ active⟩, ?_, writes ▸ sound.bounded⟩
    intro ready
    rw [state] at ready
    rw [initialization, timer ready]
    exact ⟨gatt, (sound.ready ready).2⟩
  | initialized identifier write before state verified gatt purpose selected queued writes wrote =>
    refine ⟨linked, fun _ => ⟨purpose.trans (sound.verified verified).1, .inl state⟩, ?_, writes ▸ sound.bounded⟩
    intro ready
    cases state.symm.trans ready
  | readied before verified empty state gatt initialization purpose timer writes quiet =>
    exact ⟨linked, fun _ => ⟨purpose.trans (sound.verified verified).1, .inr state⟩,
      fun _ => ⟨gatt, initialization, .inl timer⟩, writes ▸ sound.bounded⟩
  | wrote identifier write before subscribed state gatt initialization purpose selected queued timer paced wrote =>
    have chosen := (sound.verified (by simp [subscribed])).1
    refine ⟨linked, fun _ => ⟨purpose.trans chosen, .inr state⟩, fun _ => ⟨gatt, ?_, .inr timer⟩, ?_⟩
    · rw [initialization]
      rcases before with ready | ⟨-, empty⟩
      · exact (sound.ready ready).2.1
      · exact empty
    · have bounded := sound.bounded
      rw [queued, List.length_cons] at bounded
      omega
  | ticked ticks before state timer purpose gatt initialization writes other quiet =>
    obtain ⟨subscribed, empty, -⟩ := sound.ready before
    refine ⟨linked, ?_, fun _ => ⟨gatt.trans subscribed, initialization.trans empty, .inl timer⟩, writes ▸ sound.bounded⟩
    exact fun _ => ⟨purpose.trans (sound.verified (by simp [subscribed])).1, .inr state⟩
  | queued asked called answered state purpose gatt initialization timer writes bounded quiet =>
    refine ⟨linked, ?_, ?_, bounded⟩
    · rw [gatt, purpose, state]
      exact sound.verified
    · rw [state, gatt, initialization, timer]
      exact sound.ready

end Cutout.Lighting

import Cutout.Proofs.LightingWrites

/-! Whole runs of a lighting session: the ledger of its writes follows every call, the
writes of one ready period are paced by the timer, and what a session sends, drops and
refuses over any sequence of calls is stated together. -/

namespace Cutout.Lighting
open Library SessionReducer
open SessionReducer (step)
variable {session : SessionReducer}

section Queueing
variable {here : LightingStep}
variable {asked : List LightingWrite}

theorem queueWrites_takes (session : SessionReducer) (asked : List LightingWrite) (parse : String → Option Uuid)
    (here : LightingStep) (taken : here = Runs.take (step parse) session (.queueWrites asked)) :
    (here.output = .answered false ∧ here.after = here.before) ∨
      here.output = .answered true ∧ here.after.writes = Takes.retained here.before asked ++ asked ∧ here.written = [] := by
  subst taken
  show (LightingReply.answered (session.queueWrites asked).2 = .answered false ∧ (session.queueWrites asked).1 = session) ∨ _
  rcases Takes.queueWrites_cases session asked with refused | ⟨accepted, -⟩
  · refine .inl ⟨?_, ?_⟩
    all_goals rw [refused]
  · refine .inr ⟨?_, ?_, ?_⟩
    · show LightingReply.answered (session.queueWrites asked).2 = _
      rw [accepted]
    · show (session.queueWrites asked).1.writes = _
      rw [accepted]
      rfl
    · apply LightingStep.written_silent
      show Silent session (session.queueWrites asked).1
      rw [accepted]
      exact .same rfl

private theorem accepted_of_refused (called : here.input = .queueWrites asked) (refused : here.output = .answered false) :
    here.accepted = [] := by
  simp [LightingStep.accepted, called, refused]

private theorem accepted_of_other (other : ∀ asked, here.input ≠ .queueWrites asked) : here.accepted = [] := by
  unfold LightingStep.accepted
  split
  · next called _ => exact absurd called (other _)
  · rfl

private theorem WriteLedger.take_of_refused (ledger : WriteLedger) (called : here.input = .queueWrites asked)
    (refused : here.output = .answered false) :
    ledger.take here = ledger.advance here.userWrites.length here.after.writes.isEmpty := by
  simp [WriteLedger.take, called, refused]

private theorem WriteLedger.take_of_other (ledger : WriteLedger) (other : ∀ asked, here.input ≠ .queueWrites asked) :
    ledger.take here = ledger.advance here.userWrites.length here.after.writes.isEmpty := by
  unfold WriteLedger.take
  split
  · next called _ => exact absurd called (other _)
  · rfl

end Queueing

variable {parse : String → Option Uuid}

theorem Tracked.step {past : List LightingStep} {ledger : WriteLedger} (tracked : Tracked past session ledger)
    (sound : Sound session) (call : LightingCall) :
    let here : LightingStep := Runs.take (step parse) session call
    Tracked (past ++ [here]) here.after (ledger.take here) := by
  intro here
  have turn : Turn here := (Takes.step parse sound call).1
  by_cases queues : ∃ asked, call = .queueWrites asked
  · obtain ⟨asked, rfl⟩ := queues
    have called : here.input = .queueWrites asked := rfl
    rcases queueWrites_takes session asked parse here rfl with ⟨refused, same⟩ | ⟨answered, writes, quiet⟩
    · rw [WriteLedger.take_of_refused ledger called refused]
      have silent : here.written = [] := LightingStep.written_silent (.same (by rw [same]))
      have none := accepted_of_refused called refused
      refine .advances tracked none (turn.flow ⟨none, ?_⟩)
      exact fun _ _ => ⟨by rw [same], silent⟩
    · have takes : ledger.take here = ledger.queue asked := by simp [WriteLedger.take, called, answered]
      have accepted : here.accepted = asked := by simp [LightingStep.accepted, called, answered]
      rw [takes]
      exact Tracked.queues tracked accepted (Turn.userWrites_quiet quiet) writes
  · have other : ∀ asked, here.input ≠ .queueWrites asked := fun asked same => queues ⟨asked, same⟩
    rw [WriteLedger.take_of_other ledger other]
    have none := accepted_of_other other
    refine .advances tracked none (turn.flow ⟨none, ?_⟩)
    exact fun asked called => absurd called (other asked)

theorem sound_initial : Sound {} := by
  refine ⟨⟨?_, ?_, ?_, ?_⟩, ?_, ?_, ?_⟩
  all_goals simp

theorem sound_step (session : SessionReducer) (call : LightingCall) (sound : Sound session) :
    Sound (step parse session call).1 :=
  (Takes.step parse sound call).sound sound

section Pace
variable {here : LightingStep}

/-- Within a ready period only the timer's own event ends the wait after a write. -/
theorem Turn.waits (turn : Turn here) (before : here.before.state = .ready) (after : here.after.state = .ready)
    (timer : here.before.timer = some .writeDrain) (still : here.ticks = false) :
    here.after.timer = some .writeDrain ∧ here.userWrites = [] := by
  cases turn with
  | calm _ _ _ _ _ same _ quiet | subscribed _ _ _ _ _ _ same quiet =>
    exact ⟨(same before).trans timer, Turn.userWrites_quiet quiet⟩
  | left state => exact absurd after state
  | verified discovering => cases discovering.symm.trans before
  | initialized _ _ discovering | readied discovering => cases discovering.symm.trans before
  | wrote identifier write _ _ _ _ _ _ _ _ _ paced =>
    rcases paced before with none | ticks
    · cases timer.symm.trans none
    · cases still.symm.trans ticks
  | ticked ticks => cases still.symm.trans ticks
  | queued _ _ _ _ _ _ _ same _ _ quiet => exact ⟨same.trans timer, Turn.userWrites_quiet quiet⟩

theorem Turn.arms (turn : Turn here) (sends : here.userWrites ≠ []) :
    here.after.state = .ready ∧ here.after.timer = some .writeDrain := by
  have ready : here.after.state = .ready := by
    by_contra other
    exact sends (by simp [LightingStep.userWrites, other])
  refine ⟨ready, ?_⟩
  cases turn with
  | calm _ _ _ _ _ _ _ quiet => exact absurd (Turn.userWrites_quiet quiet) sends
  | left state => exact absurd ready state
  | verified _ _ _ _ _ _ _ quiet | subscribed _ _ _ _ _ _ _ quiet => exact absurd (Turn.userWrites_quiet quiet) sends
  | initialized _ _ _ state => cases state.symm.trans ready
  | readied _ _ _ _ _ _ _ _ _ quiet => exact absurd (Turn.userWrites_quiet quiet) sends
  | wrote _ _ _ _ _ _ _ _ _ _ timer => exact timer
  | ticked _ _ _ _ _ _ _ _ _ quiet | queued _ _ _ _ _ _ _ _ _ _ quiet =>
    exact absurd (Turn.userWrites_quiet quiet) sends

/-- From a session that waits, the next write of the ready period comes with the timer. -/
theorem ticks_before_write (sound : Sound session) (ready : session.state = .ready)
    (timer : session.timer = some .writeDrain) {calls : List LightingCall} {between later : List LightingStep}
    {second : LightingStep}
    (run : Runs.history (step parse) session calls = between ++ second :: later)
    (stays : ∀ here ∈ between, here.after.state = .ready) (sends : second.userWrites ≠ []) :
    ∃ here ∈ between ++ [second], here.ticks = true := by
  induction between generalizing session calls with
  | nil =>
    obtain ⟨first, last, rfl, empty, same, -⟩ := Runs.history_split run
    refine ⟨second, by simp, ?_⟩
    cases first with
    | cons call first => cases empty
    | nil =>
      have turn : Turn second := same ▸ (Takes.step parse sound second.input).1
      have begins : second.before = session := by rw [same]; rfl
      by_contra still
      rw [Bool.not_eq_true] at still
      exact sends (turn.waits (begins ▸ ready) (turn.arms sends).1 (begins ▸ timer) still).2
  | cons here between ih =>
    cases calls with
    | nil => cases run
    | cons call calls =>
      simp only [Runs.history, List.cons_append, List.cons.injEq] at run
      obtain ⟨taken, run⟩ := run
      have turn : Turn here := taken ▸ (Takes.step parse sound call).1
      have begins : here.before = session := by rw [← taken]; rfl
      have ends : here.after = (step parse session call).1 := by rw [← taken]; rfl
      cases ticks : here.ticks with
      | true => exact ⟨here, by simp, ticks⟩
      | false =>
        have after : here.after.state = .ready := stays here (by simp)
        have waits := (turn.waits (begins ▸ ready) after (begins ▸ timer) ticks).1
        obtain ⟨tick, member, fired⟩ := ih (sound_step session call sound) (ends ▸ after) (ends ▸ waits) run
          (fun other member => stays other (by simp [member]))
        exact ⟨tick, by simp only [List.cons_append, List.mem_cons]; exact .inr member, fired⟩

end Pace

/-- The session leaves a ready period with nothing queued and no command pending. -/
theorem Turn.leaves {here : LightingStep} (turn : Turn here) (before : here.before.state = .ready)
    (after : here.after.state ≠ .ready) : here.after.writes = [] ∧
      (here.after.commandStatus = here.before.commandStatus.settled ∨
        here.after.commandStatus = .idle ∧ ∃ preferred, here.input = .start preferred) := by
  cases turn with
  | calm state | subscribed _ state => exact absurd (state.trans before) after
  | left _ writes _ _ status => exact ⟨writes, status before⟩
  | verified discovering | initialized _ _ discovering => cases discovering.symm.trans before
  | readied _ _ _ state | wrote _ _ _ _ state | ticked _ _ state => exact absurd state after
  | queued _ _ _ state => exact absurd (state.trans before) after

structure StepContract (here : LightingStep) : Prop where
  addressed : here.written = [] ∨ ∃ identifier write, here.written = [(identifier, write)] ∧
    here.after.selectedIdentifier = some identifier ∧ here.after.gatt = .subscribed ∧
    (here.before.state = .discovering ∧ here.after.state = .discovering ∧
        here.before.initialization = write :: here.after.initialization ∨
      here.after.state = .ready ∧ here.before.writes = write :: here.after.writes)
  leaves : here.before.state = .ready → here.after.state ≠ .ready → here.after.writes = [] ∧
    (here.after.commandStatus = here.before.commandStatus.settled ∨
      here.after.commandStatus = .idle ∧ ∃ preferred, here.input = .start preferred)
  refuses : ∀ asked, here.input = .queueWrites asked → here.output = .answered true ∨
    here.output = .answered false ∧ here.after = here.before

/-- What a session has sent, dropped and kept over a run, and the state it is left in. -/
structure LightingContract (past : List LightingStep) (session : SessionReducer) : Prop where
  ready : session.state = .ready → session.bluetoothPoweredOn = true ∧ session.selectedIdentifier.isSome = true ∧
    session.purpose = .selected ∧ session.gatt = .subscribed ∧ session.initialization = [] ∧
    initializedSince past = initializationActions
  bounded : session.writes.length ≤ maxQueuedWrites
  initialized : initializedSince past <+: initializationActions
  tracked : Tracked past session (WriteLedger.of past)
  steps : ∀ here ∈ past, StepContract here
  paced : ∀ early first between second later, past = early ++ first :: (between ++ second :: later) →
    first.userWrites ≠ [] → (∀ here ∈ between, here.after.state = .ready) → second.userWrites ≠ [] →
    ∃ here ∈ between ++ [second], here.ticks = true

private theorem stepContract (sound : Sound session) (call : LightingCall) :
    StepContract (Runs.take (step parse) session call) := by
  have turn := (Takes.step parse sound call).1
  refine ⟨turn.sends, turn.leaves, ?_⟩
  intro asked called
  have same : call = .queueWrites asked := called
  subst same
  rcases queueWrites_takes session asked parse _ rfl with refused | ⟨answered, -⟩
  · exact .inr refused
  · exact .inl answered

/-- Two user writes of one ready period have the timer between them. -/
theorem run_paced (calls : List LightingCall) {early between later : List LightingStep} {first second : LightingStep}
    (run : Runs.history (step parse) {} calls = early ++ first :: (between ++ second :: later))
    (begins : first.userWrites ≠ []) (stays : ∀ here ∈ between, here.after.state = .ready)
    (sends : second.userWrites ≠ []) : ∃ here ∈ between ++ [second], here.ticks = true := by
  obtain ⟨earlier, last, -, -, same, rest⟩ := Runs.history_split run
  have sound : Sound (Runs.final (step parse) {} earlier) :=
    Runs.invariant sound_step sound_initial earlier
  have takes : Takes first := same ▸ Takes.step parse sound first.input
  have before : first.before = Runs.final (step parse) {} earlier := by rw [same]; rfl
  obtain ⟨ready, timer⟩ := takes.1.arms begins
  exact ticks_before_write (takes.sound (before ▸ sound)) ready timer rest.symm stays sends

/-- What a run keeps: a sound session, its initialization and its ledger. -/
structure Kept (past : List LightingStep) (session : SessionReducer) : Prop where
  sound : Sound session
  initialized : Initialized past session
  tracked : Tracked past session (WriteLedger.of past)
  steps : ∀ here ∈ past, StepContract here

private theorem run_kept (parse : String → Option Uuid) (calls : List LightingCall) :
    Kept (Runs.history (step parse) {} calls) (Runs.final (step parse) {} calls) := by
  apply Runs.induction_on
  · refine ⟨sound_initial, ⟨List.nil_prefix, fun verified => absurd rfl verified⟩, .initial, ?_⟩
    intro here member
    cases member
  · intro past session call kept
    have takes := Takes.step parse kept.sound call
    refine ⟨takes.sound kept.sound, kept.initialized.step takes.1, ?_, ?_⟩
    · rw [WriteLedger.of_snoc]
      exact kept.tracked.step kept.sound call
    · intro here member
      rcases List.mem_append.mp member with before | now
      · exact kept.steps here before
      · rw [List.mem_singleton.mp now]
        exact stepContract kept.sound call

/-- Over every sequence of calls: writes go to the selected, subscribed accessory and at
its pace, each queued write is sent at most once and in order or its loss has a cause. -/
theorem run_lightingContract (parse : String → Option Uuid) (calls : List LightingCall) :
    LightingContract (Runs.history (step parse) {} calls)
      (Runs.final (step parse) {} calls) := by
  have kept := run_kept parse calls
  refine ⟨?_, kept.sound.bounded, kept.initialized.sent, kept.tracked, kept.steps, ?_⟩
  · intro ready
    obtain ⟨subscribed, empty, -⟩ := kept.sound.ready ready
    obtain ⟨powered, selected⟩ := kept.sound.linked.active (.inr ready)
    have verified : (Runs.final (step parse) {} calls).gatt ≠ .unverified := by simp [subscribed]
    refine ⟨powered, selected, (kept.sound.verified verified).1, subscribed, empty, ?_⟩
    have whole := kept.initialized.rest verified
    rwa [empty, List.append_nil] at whole
  · intro early first between second later run begins stays sends
    exact run_paced calls run begins stays sends

section Losses

def lampIdentifier : String := "0000000a-0000-0000-0000-000000000000"

def lampParse (text : String) : Option Uuid := if text = lampIdentifier then some (10#128 <<< 96) else none

def lampRed : LightingWrite := melkWrite [0x7e, 0, 5, 3, 255, 0, 0, 0, 0xef]

def lampReady : List LightingCall :=
  [.start (some lampIdentifier), .handle (.bluetoothState true 5), .handle (.restored none lampIdentifier true false),
    .handle (.servicesDiscovered [melkServiceChannel] none),
    .handle (.characteristicsDiscovered none melkServiceChannel
      [⟨melkWriteChannel, true, false⟩, ⟨melkNotifyChannel, false, true⟩] none),
    .handle (.notificationState melkNotifyChannel true true none), .handle (.timerFired .initialization true),
    .handle (.timerFired .initialization true)]

def lampEarly : List LightingCall :=
  [.start (some lampIdentifier), .handle (.bluetoothState true 5), .handle (.restored none lampIdentifier false true),
    .queueWrites [lampRed], .handle (.connected none lampIdentifier)]

/-- Starting again forgets a pending command, and a colour that no other replaced is
discarded by a change of state that is not the end of a ready period. -/
theorem start_forgets_and_discovery_discards :
    (∃ here ∈ Runs.history (step lampParse) {} (lampReady ++ [.queueWrites [lampRed], .start none]),
      here.before.state = .ready ∧ here.before.commandStatus = .requested ∧ here.after.state ≠ .ready ∧
        here.after.commandStatus ≠ .unconfirmed) ∧
    (∀ here ∈ Runs.history (step lampParse) {} lampEarly,
      here.before.state ≠ .ready ∧ here.after.state ≠ .ready) ∧
    acceptedWrites (Runs.history (step lampParse) {} lampEarly) = [lampRed] ∧
    isCoalescibleColorWrite lampRed = true ∧
    (Runs.final (step lampParse) {} lampEarly).writes = [] ∧
    userWrites (Runs.history (step lampParse) {} lampEarly) = [] := by
  decide

end Losses

end Cutout.Lighting

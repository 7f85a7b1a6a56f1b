import Cutout.StationarySettings
import Cutout.Library.Runs
import Mathlib.Data.List.Chain

/-! A settings sequence under its authority. A session holds at most one sequence; each
call keeps it, drops it, writes its next step on a tick, or accepts a new one where
there was none. What a run writes for a sequence follows from these moves. -/

namespace Cutout.Wheels
open Library
open Protocols (Byte StationarySettingsArm saturatingAdd u64Max)

/-- What a step puts on the wire, whatever operation it is bound to. -/
def EncodedControlStep.wire (control : EncodedControlStep) : Nat × List Byte × WriteMode :=
  (control.delayMs, control.payload.bytes, control.mode)

abbrev StationaryStep (δ : Type) := Step (StationarySettingsWriteSession δ) StationaryCall (List SessionOutput)

namespace StationarySettingsWriteSession
variable {δ : Type} (wheel : WheelModel δ) (session : StationarySettingsWriteSession δ)
variable {other : StationarySettingsWriteSession δ} {steps : List EncodedControlStep}
variable {calls : List StationaryCall} {delta : TelemetryDelta}

def acceptedSequence : StationaryCall → Option (List EncodedControlStep)
  | .handle (.command command) =>
    if command.safetyClass = .stationaryOnly ∧ session.refusalReason wheel command = none then
      ((wheel.select command (wheel.controlEncodingContext session.readOnly.decoder)).bind Selection.sequence).filter
        fun steps => decide (steps ≠ [])
    else none
  | _ => none

def atTick (now : Nat) : StationarySettingsWriteSession δ :=
  let session := session.expireEvidence now
  { session with readOnly := (session.readOnly.handle wheel (.tick now)).1 }

def tickWrite : StationaryCall → Option (Nat × EncodedControlStep)
  | .handle (.tick now) => ((session.atTick wheel now).advanceSequence wheel now).2.map fun control => (now, control)
  | _ => none

inductive Moves : StationaryCall → Option PendingSettingsSequence → Option (Nat × EncodedControlStep) →
    Option (List EncodedControlStep) → Prop where
  | keeps {call} : Moves call session.pendingSequence none none
  | drops {call} : Moves call none none none
  | binds {call} (operationId : Nat) : Moves call (session.pendingSequence.map fun pending =>
      { pending with remaining := pending.remaining.map fun control => control.bindOperation operationId }) none none
  | writes (now : Nat) (pending : PendingSettingsSequence) (control : EncodedControlStep) (later : List EncodedControlStep)
      (arm : StationarySettingsArm) (held : session.pendingSequence = some pending)
      (order : pending.remaining = control :: later) (due : pending.nextAt ≤ now) (early : now ≤ pending.expiresAt)
      (armed : session.arm = some arm) (valid : arm.isValidFor wheel.model now = true) :
      Moves (.handle (.tick now)) (later.head?.map fun next =>
        { pending with remaining := later, nextAt := saturatingAdd now next.delayMs }) (some (now, control)) none
  | accepts (command : DeviceCommand) (first : EncodedControlStep) (remaining : List EncodedControlStep)
      (arm : StationarySettingsArm) (idle : session.pendingSequence = none) (armed : session.arm = some arm)
      (output : (session.handleStationaryCommand wheel command).2 = [.write first.payload first.mode])
      (stationary : command.safetyClass = .stationaryOnly) :
      Moves (.handle (.command command)) (remaining.head?.map fun next =>
        ⟨remaining, saturatingAdd session.monotonic next.delayMs, arm.expiresAt⟩) none (some (first :: remaining))

variable {wheel session}

private theorem refusalReason_none {command : DeviceCommand} (taken : session.refusalReason wheel command = none) :
    session.pendingSequence = none ∧ ∃ arm, session.arm = some arm := by
  unfold refusalReason at taken
  split at taken
  · cases taken
  · split at taken
    · cases taken
    · next idle =>
      refine ⟨by simpa using idle, ?_⟩
      split at taken
      · cases taken
      · next arm armed => exact ⟨arm, armed⟩

private theorem handleStationaryCommand_moves (command : DeviceCommand) (stationary : command.safetyClass = .stationaryOnly) :
    Moves wheel session (.handle (.command command)) (session.handleStationaryCommand wheel command).1.pendingSequence
      none (session.acceptedSequence wheel (.handle (.command command))) := by
  have accepted : session.acceptedSequence wheel (.handle (.command command)) =
    if command.safetyClass = .stationaryOnly ∧ session.refusalReason wheel command = none then
      ((wheel.select command (wheel.controlEncodingContext session.readOnly.decoder)).bind Selection.sequence).filter
        fun steps => decide (steps ≠ [])
    else none := rfl
  generalize result : session.handleStationaryCommand wheel command = handled
  have shape := result
  unfold handleStationaryCommand at result
  rw [accepted]
  split at result
  · next reason refused =>
    cases result
    rw [if_neg (by simp [refused])]
    exact .keeps
  · next taken =>
    obtain ⟨idle, arm, armed⟩ := refusalReason_none taken
    dsimp only at result
    rw [if_pos ⟨stationary, taken⟩]
    split at result
    · next empty =>
      cases result
      rw [empty]
      exact .keeps
    · next first remaining found =>
      have output : (session.handleStationaryCommand wheel command).2 = [.write first.payload first.mode] := by
        rw [shape, ← result]
      have after : handled.1.pendingSequence = remaining.head?.map fun next =>
          ⟨remaining, saturatingAdd session.monotonic next.delayMs, arm.expiresAt⟩ := by
        rw [← result, armed]
        cases remaining.head? <;> rfl
      rw [found, after]
      exact .accepts command first remaining arm idle armed output stationary
    · next none =>
      rw [none]
      split at result
      · cases result
        exact .keeps
      · cases result
        exact .keeps

private theorem expireEvidence_kept (now : Nat) :
    (session.expireEvidence now).pendingSequence = none ∨
      (session.expireEvidence now).pendingSequence = session.pendingSequence ∧
        (session.expireEvidence now).arm = session.arm := by
  unfold expireEvidence
  dsimp only
  split
  · exact .inl rfl
  · exact .inr ⟨rfl, rfl⟩

private theorem handleTick_moves (now : Nat) :
    Moves wheel session (.handle (.tick now)) (session.handleTick wheel now).1.pendingSequence
      (session.tickWrite wheel (.handle (.tick now))) none := by
  have after : (session.handleTick wheel now).1 = ((session.atTick wheel now).advanceSequence wheel now).1 := rfl
  have kept : (session.atTick wheel now).pendingSequence = none ∨
      (session.atTick wheel now).pendingSequence = session.pendingSequence ∧
        (session.atTick wheel now).arm = session.arm := expireEvidence_kept now
  have written : session.tickWrite wheel (.handle (.tick now)) =
    ((session.atTick wheel now).advanceSequence wheel now).2.map fun control => (now, control) := rfl
  rw [after, written]
  generalize session.atTick wheel now = found at kept ⊢
  unfold advanceSequence
  split
  · next absent =>
    rw [absent]
    exact .drops
  · next pending held =>
    obtain ⟨same, arms⟩ : found.pendingSequence = session.pendingSequence ∧ found.arm = session.arm := by
      rcases kept with absent | kept
      · rw [held] at absent
        cases absent
      · exact kept
    rw [held] at same
    split
    · rw [held, same]
      exact .keeps
    · next due =>
      split
      · exact .drops
      · next authority =>
        split
        · rw [held, same]
          exact .keeps
        · next control later order =>
          obtain ⟨current, armed, valid⟩ : ∃ current, found.arm = some current ∧
              current.isValidFor wheel.model now = true := by
            cases armed : found.arm with
            | none =>
              rw [armed] at authority
              exact absurd (.inl rfl) authority
            | some current =>
              rw [armed] at authority
              refine ⟨current, rfl, ?_⟩
              simpa using (not_or.mp authority).1
          have early : now ≤ pending.expiresAt := Nat.le_of_not_lt (not_or.mp authority).2
          exact .writes now pending control later current same.symm order (Nat.le_of_not_lt due) early
            (arms.symm.trans armed) valid

def Loses (session after : StationarySettingsWriteSession δ) : Prop :=
  after.pendingSequence = none ∨ after.pendingSequence = session.pendingSequence

theorem Loses.trans {middle after : StationarySettingsWriteSession δ} (first : Loses session middle)
    (second : Loses middle after) : Loses session after := by
  rcases second with none | kept
  · exact .inl none
  · rcases first with none | same
    · exact .inl (kept.trans none)
    · exact .inr (kept.trans same)

theorem observeSpeed_loses (speed : Int) (at_ : Nat) : Loses session (session.observeSpeed wheel speed at_) := by
  unfold observeSpeed
  split
  · dsimp only
    split
    · exact .inl rfl
    · exact .inr rfl
  · exact .inr rfl

theorem observeChargeMode_loses (mode : ChargeMode) (at_ : Nat) :
    Loses session (session.observeChargeMode mode at_) := by
  unfold observeChargeMode
  split
  · dsimp only
    split
    · exact .inl rfl
    · exact .inr rfl
  · exact .inr rfl

private theorem observeDelta_loses (delta : TelemetryDelta) : Loses session (session.observeDelta wheel delta) := by
  unfold observeDelta
  cases delta.speed with
  | none =>
    dsimp only
    split
    · exact observeChargeMode_loses _ _
    · exact .inr rfl
  | some speed =>
    dsimp only
    split
    · exact (observeSpeed_loses _ _).trans (observeChargeMode_loses _ _)
    · exact observeSpeed_loses _ _

theorem observeSettingsTelemetry_loses (outputs : List SessionOutput) :
    Loses session (session.observeSettingsTelemetry wheel outputs) := by
  induction outputs generalizing session with
  | nil => exact .inr rfl
  | cons output outputs ih =>
    refine .trans ?_ ih
    cases output with
    | telemetry delta => exact observeDelta_loses delta
    | _ => exact .inr rfl

theorem handleReadOnly_moves (call : StationaryCall) (input : SessionInput) :
    Moves wheel session call (session.handleReadOnly wheel input).1.pendingSequence none none := by
  generalize found : { session with readOnly := (session.readOnly.handle wheel input).1 } = middle
  have same : middle.pendingSequence = session.pendingSequence := by rw [← found]
  have after : (session.handleReadOnly wheel input).1 =
    middle.observeSettingsTelemetry wheel (session.readOnly.handle wheel input).2 := by rw [← found]; rfl
  rw [after]
  have loses : Loses middle (middle.observeSettingsTelemetry wheel (session.readOnly.handle wheel input).2) :=
    observeSettingsTelemetry_loses _
  rcases loses with none | kept
  · rw [none]
    exact .drops
  · rw [kept, same]
    exact .keeps

theorem step_moves (wheel : WheelModel δ) (session : StationarySettingsWriteSession δ) (call : StationaryCall) :
    Moves wheel session call (session.step wheel call).1.pendingSequence (session.tickWrite wheel call)
      (session.acceptedSequence wheel call) := by
  cases call with
  | installArm arm =>
    change Moves wheel session _ (session.pendingSequence.filter fun pending => decide (arm.issuedAt ≤ pending.expiresAt))
      none none
    cases held : session.pendingSequence with
    | none => exact .drops
    | some pending =>
      by_cases early : arm.issuedAt ≤ pending.expiresAt
      · rw [Option.filter_some_pos (by simpa using early), ← held]
        exact .keeps
      · rw [Option.filter_some_neg (by simpa using early)]
        exact .drops
  | setMonotonic time => exact .keeps
  | clearArm => exact .drops
  | bindSettingOperation operationId => exact .binds operationId
  | handle input =>
    cases input with
    | linkUp | linkDown => exact .drops
    | notification subscribed bytes time => exact handleReadOnly_moves _ _
    | tick now => exact handleTick_moves now
    | command command =>
      by_cases stationary : command.safetyClass = .stationaryOnly
      · have after : session.step wheel (.handle (.command command)) = session.handleStationaryCommand wheel command :=
          if_pos stationary
        rw [after]
        exact handleStationaryCommand_moves command stationary
      · have accepted : session.acceptedSequence wheel (.handle (.command command)) = none :=
          if_neg fun both => stationary both.1
        have written : session.tickWrite wheel (.handle (.command command)) = none := rfl
        rw [accepted, written]
        by_cases benign : command.safetyClass = .benignControl
        · have after : (session.step wheel (.handle (.command command))).1 = session := by
            simp only [step, handle, if_neg stationary, if_pos benign]
          rw [after]
          exact .keeps
        · have after : session.step wheel (.handle (.command command)) = session.handleReadOnly wheel (.command command) := by
            simp only [step, handle, if_neg stationary, if_neg benign]
          rw [after]
          exact handleReadOnly_moves _ _

/-- Telemetry no older than what is known that shows a wheel too fast, or one that stopped charging. -/
def Stops (wheel : WheelModel δ) (seen : StationarySettingsWriteSession δ) (delta : TelemetryDelta) : Prop :=
  (∃ speed, delta.speed = some speed ∧ (∀ latest, seen.latestSettingsSpeed = some latest → latest.2 ≤ delta.at_) ∧
    (wheel.maxSettingsSpeed.getD 0).natAbs < speed.natAbs) ∨
  ∃ mode latest, delta.chargeMode = some mode ∧ seen.latestSettingsChargeMode = some latest ∧
    latest.1.isActive = true ∧ latest.2 ≤ delta.at_ ∧ mode.isActive = false

/-- The arm was cleared, the link changed, or the telemetry of a notification took the authority away. -/
inductive Cancels (wheel : WheelModel δ) (here : StationaryStep δ) : Prop where
  | cleared (call : here.input = .clearArm)
  | linkDown (call : here.input = .handle .linkDown)
  | linkUp (time : Nat) (call : here.input = .handle (.linkUp time))
  | telemetry (subscribed : Bool) (bytes : List Byte) (time : Nat) (front back : List SessionOutput) (delta : TelemetryDelta)
      (call : here.input = .handle (.notification subscribed bytes time))
      (reported : here.output = front ++ .telemetry delta :: back)
      (stops : Stops wheel (here.before.observeSettingsTelemetry wheel front) delta)

theorem observeSpeed_chargeMode (speed : Int) (at_ : Nat) :
    (session.observeSpeed wheel speed at_).latestSettingsChargeMode = session.latestSettingsChargeMode := by
  unfold observeSpeed
  split
  · dsimp only
    split <;> rfl
  · rfl

private theorem observeSpeed_stops {speed : Int} {at_ : Nat}
    (newer : ∀ latest, session.latestSettingsSpeed = some latest → latest.2 ≤ at_)
    (fast : (wheel.maxSettingsSpeed.getD 0).natAbs < speed.natAbs) :
    (session.observeSpeed wheel speed at_).pendingSequence = none := by
  have taken : (session.latestSettingsSpeed.all fun latest => decide (latest.2 ≤ at_)) = true := by
    cases known : session.latestSettingsSpeed with
    | none => rfl
    | some latest => simpa using newer latest known
  unfold observeSpeed
  rw [if_pos taken]
  dsimp only
  rw [if_pos fast]
  rfl

private theorem observeChargeMode_stops {mode : ChargeMode} {at_ : Nat} {latest : ChargeMode × Nat}
    (known : session.latestSettingsChargeMode = some latest) (charging : latest.1.isActive = true)
    (newer : latest.2 ≤ at_) (stopped : mode.isActive = false) :
    (session.observeChargeMode mode at_).pendingSequence = none := by
  unfold observeChargeMode
  rw [known, Option.all_some, if_pos (decide_eq_true newer)]
  dsimp only
  rw [Option.any_some, if_pos ⟨charging, stopped⟩]
  rfl

private theorem observeDelta_stops (stops : Stops wheel session delta) :
    (session.observeDelta wheel delta).pendingSequence = none := by
  rcases stops with ⟨speed, fast, newer, above⟩ | ⟨mode, latest, stopped, known, charging, newer, inactive⟩
  · have gone := observeSpeed_stops newer above
    unfold observeDelta
    rw [fast]
    dsimp only
    split
    · rcases (@observeChargeMode_loses _ (session.observeSpeed wheel speed delta.at_) _ delta.at_) with none | kept
      · exact none
      · exact kept.trans gone
    · exact gone
  · unfold observeDelta
    rw [stopped]
    dsimp only
    refine observeChargeMode_stops ?_ charging newer inactive
    split
    · rw [observeSpeed_chargeMode, known]
    · exact known

theorem observeSpeed_latest (speed : Int) (at_ : Nat) :
    (session.observeSpeed wheel speed at_).latestSettingsSpeed =
      if session.latestSettingsSpeed.all fun latest => decide (latest.2 ≤ at_) then some (speed, at_)
      else session.latestSettingsSpeed := by
  unfold observeSpeed
  split
  · dsimp only
    split <;> rfl
  · rfl

theorem observeChargeMode_latest (mode : ChargeMode) (at_ : Nat) :
    (session.observeChargeMode mode at_).latestSettingsChargeMode =
      if session.latestSettingsChargeMode.all fun latest => decide (latest.2 ≤ at_) then some (mode, at_)
      else session.latestSettingsChargeMode := by
  unfold observeChargeMode
  split
  · dsimp only
    split <;> rfl
  · rfl

theorem observeChargeMode_speed (mode : ChargeMode) (at_ : Nat) :
    (session.observeChargeMode mode at_).latestSettingsSpeed = session.latestSettingsSpeed := by
  unfold observeChargeMode
  split
  · dsimp only
    split <;> rfl
  · rfl

structure SameEvidence (session other : StationarySettingsWriteSession δ) : Prop where
  speed : other.latestSettingsSpeed = session.latestSettingsSpeed
  charge : other.latestSettingsChargeMode = session.latestSettingsChargeMode

section Same
variable (same : SameEvidence session other)
include same

theorem SameEvidence.observeSpeed (speed : Int) (at_ : Nat) :
    SameEvidence (session.observeSpeed wheel speed at_) (other.observeSpeed wheel speed at_) := by
  refine ⟨?_, ?_⟩
  · rw [observeSpeed_latest, observeSpeed_latest, same.speed]
  · rw [observeSpeed_chargeMode, observeSpeed_chargeMode, same.charge]

theorem SameEvidence.observeChargeMode (mode : ChargeMode) (at_ : Nat) :
    SameEvidence (session.observeChargeMode mode at_) (other.observeChargeMode mode at_) := by
  refine ⟨?_, ?_⟩
  · rw [observeChargeMode_speed, observeChargeMode_speed, same.speed]
  · rw [observeChargeMode_latest, observeChargeMode_latest, same.charge]

theorem SameEvidence.observeDelta (delta : TelemetryDelta) :
    SameEvidence (session.observeDelta wheel delta) (other.observeDelta wheel delta) := by
  unfold StationarySettingsWriteSession.observeDelta
  cases delta.speed with
  | none =>
    cases delta.chargeMode with
    | none => exact same
    | some mode => exact same.observeChargeMode mode delta.at_
  | some speed =>
    cases delta.chargeMode with
    | none => exact same.observeSpeed speed delta.at_
    | some mode => exact (same.observeSpeed speed delta.at_).observeChargeMode mode delta.at_

theorem SameEvidence.observe (outputs : List SessionOutput) :
    SameEvidence (session.observeSettingsTelemetry wheel outputs) (other.observeSettingsTelemetry wheel outputs) := by
  induction outputs generalizing session other with
  | nil => exact same
  | cons output outputs ih =>
    cases output with
    | telemetry delta => exact ih (same.observeDelta delta)
    | _ => exact ih same

theorem SameEvidence.stops (stops : Stops wheel session delta) : Stops wheel other delta := by
  unfold Stops at stops ⊢
  rw [same.speed, same.charge]
  exact stops

end Same

private theorem observeSettingsTelemetry_append (front back : List SessionOutput) :
    session.observeSettingsTelemetry wheel (front ++ back) =
      (session.observeSettingsTelemetry wheel front).observeSettingsTelemetry wheel back := List.foldl_append

variable {here : StationaryStep δ}

theorem Cancels.idle (cancels : Cancels wheel here) (taken : here = Runs.take (step wheel) here.before here.input) :
    here.after.pendingSequence = none := by
  have after : here.after = (here.before.step wheel here.input).1 := by rw [taken]; rfl
  rw [after]
  cases cancels with
  | cleared call | linkDown call | linkUp _ call =>
    rw [call]
    rfl
  | telemetry subscribed bytes time front back delta call reported stops =>
    have output : here.output = (here.before.readOnly.handle wheel (.notification subscribed bytes time)).2 := by
      rw [taken, call]
      rfl
    rw [call]
    generalize found : { here.before with
      readOnly := (here.before.readOnly.handle wheel (.notification subscribed bytes time)).1 } = middle
    have same : SameEvidence here.before middle := by
      rw [← found]
      exact ⟨rfl, rfl⟩
    have final : (here.before.step wheel (.handle (.notification subscribed bytes time))).1 =
        middle.observeSettingsTelemetry wheel here.output := by
      rw [← found, output]
      rfl
    rw [final, reported, observeSettingsTelemetry_append]
    have gone := observeDelta_stops ((same.observe front).stops stops)
    change (((middle.observeSettingsTelemetry wheel front).observeDelta wheel delta).observeSettingsTelemetry wheel
      back).pendingSequence = none
    rcases (@observeSettingsTelemetry_loses _ wheel
      ((middle.observeSettingsTelemetry wheel front).observeDelta wheel delta) back) with none | kept
    · exact none
    · exact kept.trans gone

def written (wheel : WheelModel δ) (part : List (StationaryStep δ)) : List (Nat × EncodedControlStep) :=
  part.filterMap fun here => here.before.tickWrite wheel here.input

theorem written_snoc (part : List (StationaryStep δ)) (session : StationarySettingsWriteSession δ) (call : StationaryCall) :
    written wheel (part ++ [Runs.take (step wheel) session call]) =
      written wheel part ++ (session.tickWrite wheel call).toList := by
  unfold written
  rw [List.filterMap_append]
  cases same : session.tickWrite wheel call with
  | none | some => simp [Runs.take, same]

def Alone (wheel : WheelModel δ) (part : List (StationaryStep δ)) : Prop :=
  ∀ here ∈ part, here.before.acceptedSequence wheel here.input = none

theorem idle_run (calls : List StationaryCall) (idle : session.pendingSequence = none)
    (alone : Alone wheel (Runs.history (step wheel) session calls)) :
    written wheel (Runs.history (step wheel) session calls) = [] ∧
      (Runs.final (step wheel) session calls).pendingSequence = none := by
  induction calls generalizing session with
  | nil => exact ⟨rfl, idle⟩
  | cons call calls ih =>
    have moves := step_moves wheel session call
    have refused : session.acceptedSequence wheel call = none := alone _ List.mem_cons_self
    rw [refused] at moves
    have still : (session.step wheel call).1.pendingSequence = none ∧ session.tickWrite wheel call = none := by
      generalize (session.step wheel call).1.pendingSequence = after at moves
      generalize session.tickWrite wheel call = write at moves
      cases moves with
      | keeps => exact ⟨idle, rfl⟩
      | drops => exact ⟨rfl, rfl⟩
      | binds operationId =>
        rw [idle]
        exact ⟨rfl, rfl⟩
      | writes now pending control later arm held =>
        rw [idle] at held
        cases held
    obtain ⟨silent, final⟩ := ih still.1 fun here member => alone here (List.mem_cons_of_mem _ member)
    refine ⟨?_, final⟩
    have skipped : written wheel (Runs.history (step wheel) session (call :: calls)) =
      written wheel (Runs.history (step wheel) (session.step wheel call).1 calls) := List.filterMap_cons_none still.2
    rw [skipped, silent]

/-- One step stands at least its delay behind the one before, as far as the clock reaches. -/
def Behind (earlier later : Nat × EncodedControlStep) : Prop := saturatingAdd earlier.1 later.2.delayMs ≤ later.1

/-- What was written for a sequence so far, and what the session holds of it. -/
structure Follows (wheel : WheelModel δ) (steps : List EncodedControlStep) (arm : StationarySettingsArm)
    (accepted : Nat × EncodedControlStep) (window : List (StationaryStep δ)) (session : StationarySettingsWriteSession δ) :
    Prop where
  order : ∃ rest, steps.map EncodedControlStep.wire =
      ((accepted :: written wheel window).map fun write => write.2.wire) ++ rest ∧
    ∀ pending, session.pendingSequence = some pending → pending.remaining.map EncodedControlStep.wire = rest
  spaced : (accepted :: written wheel window).IsChain Behind
  authority : ∀ here ∈ window, ∀ now control, here.before.tickWrite wheel here.input = some (now, control) →
    (∃ current, here.before.arm = some current ∧ current.isValidFor wheel.model now = true) ∧ now ≤ arm.expiresAt
  held : ∀ pending, session.pendingSequence = some pending → pending.expiresAt = arm.expiresAt ∧
    ∃ next later, pending.remaining = next :: later ∧
      ∀ last ∈ (accepted :: written wheel window).getLast?, saturatingAdd last.1 next.delayMs ≤ pending.nextAt

section Following
variable {steps : List EncodedControlStep} {arm : StationarySettingsArm} {accepted : Nat × EncodedControlStep}
  {window : List (StationaryStep δ)}

section Follows
variable (follows : Follows wheel steps arm accepted window session)
include follows

/-- A call that writes nothing and leaves the steps of the held sequence as they are. -/
theorem Follows.quiet {call : StationaryCall} (silent : session.tickWrite wheel call = none)
    (kept : ∀ after, (session.step wheel call).1.pendingSequence = some after → ∃ pending,
      session.pendingSequence = some pending ∧ after.nextAt = pending.nextAt ∧ after.expiresAt = pending.expiresAt ∧
      after.remaining.map EncodedControlStep.wire = pending.remaining.map EncodedControlStep.wire) :
    Follows wheel steps arm accepted (window ++ [Runs.take (step wheel) session call]) (session.step wheel call).1 := by
  have same : written wheel (window ++ [Runs.take (step wheel) session call]) = written wheel window := by
    rw [written_snoc, silent, Option.toList_none, List.append_nil]
  obtain ⟨rest, order, remaining⟩ := follows.order
  refine ⟨⟨rest, ?_, ?_⟩, ?_, ?_, ?_⟩
  · rw [same]
    exact order
  · intro after held
    obtain ⟨pending, before, -, -, wires⟩ := kept after held
    exact wires.trans (remaining pending before)
  · rw [same]
    exact follows.spaced
  · intro here member now control write
    rcases List.mem_append.mp member with old | new
    · exact follows.authority here old now control write
    · rw [List.mem_singleton.mp new] at write
      rw [Runs.take, silent] at write
      cases write
  · intro after held
    obtain ⟨pending, before, nextAt, expiresAt, wires⟩ := kept after held
    obtain ⟨expires, next, later, shape, spaced⟩ := follows.held pending before
    rw [shape, List.map_cons] at wires
    obtain ⟨next', later', shape', wire, -⟩ := List.map_eq_cons_iff.mp wires
    have delay : next'.delayMs = next.delayMs := congrArg Prod.fst wire
    refine ⟨expiresAt.trans expires, next', later', shape', ?_⟩
    rw [same, nextAt, delay]
    exact spaced

theorem Follows.extend {call : StationaryCall} (refused : session.acceptedSequence wheel call = none) :
    Follows wheel steps arm accepted (window ++ [Runs.take (step wheel) session call]) (session.step wheel call).1 := by
  have moves := step_moves wheel session call
  rw [refused] at moves
  generalize result : (session.step wheel call).1.pendingSequence = after at moves
  generalize write : session.tickWrite wheel call = wrote at moves
  cases moves with
  | keeps =>
    apply follows.quiet write
    intro after held
    exact ⟨after, result.symm.trans held, rfl, rfl, rfl⟩
  | drops =>
    apply follows.quiet write
    intro after held
    rw [result] at held
    cases held
  | binds operationId =>
    apply follows.quiet write
    intro after held
    rw [result] at held
    obtain ⟨pending, before, rfl⟩ := Option.map_eq_some_iff.mp held
    refine ⟨pending, before, rfl, rfl, ?_⟩
    rw [List.map_map]
    rfl
  | writes now pending control later current held order due early armed valid =>
    have more : written wheel (window ++ [Runs.take (StationarySettingsWriteSession.step wheel) session (.handle (.tick now))]) =
        written wheel window ++ [(now, control)] := by
      rw [written_snoc, write, Option.toList_some]
    obtain ⟨rest, before, remaining⟩ := follows.order
    obtain ⟨expires, next, later', shape, spaced⟩ := follows.held pending held
    have rest' := remaining pending held
    rw [order, List.map_cons] at rest'
    rw [order] at shape
    cases shape
    refine ⟨⟨later.map EncodedControlStep.wire, ?_, ?_⟩, ?_, ?_, ?_⟩
    · rw [more, before, ← rest', ← List.cons_append, List.map_append, List.append_assoc]
      rfl
    · intro after found
      rw [result] at found
      obtain ⟨next, -, rfl⟩ := Option.map_eq_some_iff.mp found
      rfl
    · rw [more, ← List.cons_append, List.isChain_append]
      refine ⟨follows.spaced, List.IsChain.singleton _, ?_⟩
      intro last known first same
      cases same
      exact (spaced last known).trans due
    · intro here member now' control' wrote
      rcases List.mem_append.mp member with old | new
      · exact follows.authority here old now' control' wrote
      · rw [List.mem_singleton.mp new] at wrote ⊢
        simp only [Runs.take] at wrote ⊢
        rw [write] at wrote
        cases wrote
        exact ⟨⟨current, armed, valid⟩, early.trans_eq expires⟩
    · intro after found
      rw [result] at found
      obtain ⟨next, head, rfl⟩ := Option.map_eq_some_iff.mp found
      obtain ⟨later', rfl⟩ := List.head?_eq_some_iff.mp head
      refine ⟨expires, next, later', rfl, ?_⟩
      intro last known
      rw [more, ← List.cons_append, List.getLast?_concat] at known
      cases known
      exact le_refl _

theorem Follows.run (calls : List StationaryCall) (alone : Alone wheel (Runs.history (step wheel) session calls)) :
    Follows wheel steps arm accepted (window ++ Runs.history (step wheel) session calls)
      (Runs.final (step wheel) session calls) := by
  induction calls generalizing window session with
  | nil =>
    rw [Runs.history, List.append_nil]
    exact follows
  | cons call calls ih =>
    have next := follows.extend (alone _ List.mem_cons_self)
    have rest := ih next fun here member => alone here (List.mem_cons_of_mem _ member)
    rw [List.append_assoc] at rest
    exact rest

end Follows

end Following

private theorem acceptedSequence_follows {call : StationaryCall} (accepted : session.acceptedSequence wheel call = some steps) :
    ∃ arm first rest, session.arm = some arm ∧ steps = first :: rest ∧
      (session.step wheel call).2 = [.write first.payload first.mode] ∧
      Follows wheel steps arm (session.monotonic, first) [] (session.step wheel call).1 := by
  have moves := step_moves wheel session call
  rw [accepted] at moves
  generalize result : (session.step wheel call).1.pendingSequence = after at moves
  generalize session.tickWrite wheel call = wrote at moves
  cases moves with
  | accepts command first remaining arm idle armed output stationary =>
    have after : session.step wheel (.handle (.command command)) = session.handleStationaryCommand wheel command :=
      if_pos stationary
    refine ⟨arm, first, remaining, armed, rfl, by rw [after, output], ?_⟩
    refine ⟨⟨remaining.map EncodedControlStep.wire, rfl, ?_⟩, List.IsChain.singleton _, ?_, ?_⟩
    · intro pending held
      rw [result] at held
      obtain ⟨next, -, rfl⟩ := Option.map_eq_some_iff.mp held
      rfl
    · intro here member
      exact absurd member List.not_mem_nil
    · intro pending held
      rw [result] at held
      obtain ⟨next, head, rfl⟩ := Option.map_eq_some_iff.mp held
      obtain ⟨later, rfl⟩ := List.head?_eq_some_iff.mp head
      refine ⟨rfl, next, later, rfl, ?_⟩
      intro last known
      cases known
      exact le_refl _

/-- What holds of a sequence accepted at a step, until another one is accepted. -/
structure KeepsAuthority (wheel : WheelModel δ) (here : StationaryStep δ) (steps : List EncodedControlStep)
    (window : List (StationaryStep δ)) (arm : StationarySettingsArm) (first : EncodedControlStep) : Prop where
  armed : here.before.arm = some arm
  opening : here.output = [.write first.payload first.mode]
  order : ((first :: (written wheel window).map Prod.snd).map EncodedControlStep.wire) <+: steps.map EncodedControlStep.wire
  spaced : ((here.before.monotonic, first) :: written wheel window).IsChain Behind
  authority : ∀ between ∈ window, ∀ now control, between.before.tickWrite wheel between.input = some (now, control) →
    (∃ current, between.before.arm = some current ∧ current.isValidFor wheel.model now = true) ∧ now ≤ arm.expiresAt
  cancelled : ∀ early cut late, window = early ++ cut :: late → Cancels wheel cut → written wheel late = []
  remaining : ∀ early between late pending, window = early ++ between :: late →
    between.before.pendingSequence = some pending → pending.remaining ≠ [] ∧
      pending.remaining.map EncodedControlStep.wire =
        (steps.drop (1 + (written wheel early).length)).map EncodedControlStep.wire
  busy : ∀ early between late, window = early ++ between :: late → written wheel (between :: late) ≠ [] →
    between.before.pendingSequence ≠ none

private theorem Follows.remaining_eq {arm : StationarySettingsArm} {accepted : Nat × EncodedControlStep}
    {window : List (StationaryStep δ)} {pending : PendingSettingsSequence}
    (follows : Follows wheel steps arm accepted window session) (held : session.pendingSequence = some pending) :
    pending.remaining ≠ [] ∧ pending.remaining.map EncodedControlStep.wire =
      (steps.drop (1 + (written wheel window).length)).map EncodedControlStep.wire := by
  obtain ⟨rest, order, remaining⟩ := follows.order
  obtain ⟨-, next, later, shape, -⟩ := follows.held pending held
  refine ⟨by rw [shape]; exact List.cons_ne_nil _ _, ?_⟩
  rw [remaining pending held, List.map_drop, order]
  have count : ((accepted :: written wheel window).map fun write => write.2.wire).length =
      1 + (written wheel window).length := by
    rw [List.length_map, List.length_cons, Nat.add_comm]
  rw [← count, List.drop_left]

private theorem keepsAuthority {past window later : List (StationaryStep δ)}
    (split : Runs.history (step wheel) session calls = past ++ here :: (window ++ later))
    (accepted : here.before.acceptedSequence wheel here.input = some steps) (alone : Alone wheel window) :
    ∃ arm first, KeepsAuthority wheel here steps window arm first := by
  obtain ⟨before, last, -, -, taken, tail⟩ := Runs.history_split split
  obtain ⟨calls, others, -, rfl, -⟩ := Runs.history_cut tail.symm
  have output : here.output = (here.before.step wheel here.input).2 := by rw [taken]; rfl
  have after : here.after = (here.before.step wheel here.input).1 := by rw [taken]; rfl
  obtain ⟨arm, first, rest, armed, -, write, start⟩ := acceptedSequence_follows accepted
  rw [← after] at start
  have follows := start.run calls alone
  rw [List.nil_append] at follows
  -- The part of the window before a step is itself a run behind the acceptance.
  have reached : ∀ early between late, Runs.history (step wheel) here.after calls = early ++ between :: late →
      Follows wheel steps arm (here.before.monotonic, first) early between.before ∧
      between = Runs.take (step wheel) between.before between.input ∧
      ∃ more, late = Runs.history (step wheel) between.after more := by
    intro early between late cut
    obtain ⟨front, more, same, rfl, taken, rfl⟩ := Runs.history_split cut
    have quiet : Alone wheel (Runs.history (step wheel) here.after front) := by
      intro step member
      exact alone step (cut ▸ List.mem_append_left _ member)
    have part := start.run front quiet
    rw [List.nil_append] at part
    refine ⟨?_, ?_, more, rfl⟩
    · rw [taken]
      exact part
    · rw [taken]
      rfl
  refine ⟨arm, first, armed, output.trans write, ?_, follows.spaced, follows.authority, ?_, ?_, ?_⟩
  · obtain ⟨rest, order, -⟩ := follows.order
    refine ⟨rest, ?_⟩
    rw [order, List.map_cons, List.map_cons, List.map_map]
    rfl
  · intro early cut late same cancels
    obtain ⟨-, taken, more, rfl⟩ := reached early cut late same
    refine (idle_run more (cancels.idle taken) ?_).1
    intro step member
    exact alone step (same ▸ List.mem_append_right _ (List.mem_cons_of_mem _ member))
  · intro early between late pending same held
    exact (reached early between late same).1.remaining_eq held
  · intro early between late same writes idle
    obtain ⟨-, taken, more, rfl⟩ := reached early between late same
    have whole : between :: Runs.history (step wheel) between.after more =
        Runs.history (step wheel) between.before (between.input :: more) := by
      rw [Runs.history, ← taken, taken]
      rfl
    rw [whole] at writes
    apply writes
    refine (idle_run (between.input :: more) idle ?_).1
    rw [← whole]
    intro step member
    exact alone step (same ▸ List.mem_append_right _ member)

private theorem tickWrite_origin {past later : List (StationaryStep δ)} (idle : session.pendingSequence = none)
    (split : Runs.history (step wheel) session calls = past ++ here :: later)
    (writes : here.before.tickWrite wheel here.input ≠ none) :
    ∃ early origin window steps, past = early ++ origin :: window ∧
      origin.before.acceptedSequence wheel origin.input = some steps ∧ Alone wheel window := by
  obtain ⟨front, rest, -, rfl, taken, -⟩ := Runs.history_split split
  rcases exists_last (fun step : StationaryStep δ => step.before.acceptedSequence wheel step.input ≠ none)
    (Runs.history (step wheel) session front) with none | ⟨early, origin, window, same, found, others⟩
  · have empty := (idle_run front idle fun step member => not_not.mp (none step member)).2
    have moves := step_moves wheel (Runs.final (step wheel) session front) here.input
    rw [taken] at writes
    simp only [Runs.take] at writes
    generalize write : (Runs.final (step wheel) session front).tickWrite wheel here.input = wrote at moves writes
    generalize ((Runs.final (step wheel) session front).step wheel here.input).1.pendingSequence = after at moves
    generalize (Runs.final (step wheel) session front).acceptedSequence wheel here.input = accepted at moves
    generalize here.input = call at moves
    cases moves with
    | writes now pending control later arm held =>
      rw [empty] at held
      cases held
    | _ => exact absurd rfl writes
  · obtain ⟨steps, accepted⟩ := Option.ne_none_iff_exists'.mp found
    exact ⟨early, origin, window, steps, same, accepted, fun step member => not_not.mp (others step member)⟩

def SetsSetting (command : DeviceCommand) : Prop :=
  command.safetyClass = .stationaryOnly ∨ command.safetyClass = .benignControl ∧ ∃ id value, command = .setSetting id value

private theorem step_busy {command : DeviceCommand} (held : session.pendingSequence ≠ none) (sets : SetsSetting command) :
    ∃ reason, session.step wheel (.handle (.command command)) = (session, [refusal command reason]) := by
  have holds : session.pendingSequence.isSome = true := Option.isSome_iff_ne_none.mpr held
  rcases sets with stationary | ⟨benign, id, value, rfl⟩
  · have refused : ∃ reason, session.refusalReason wheel command = some reason := by
      unfold refusalReason
      by_cases unsupported : wheel.writeCapabilities command.kind = false
      · exact ⟨_, if_pos unsupported⟩
      · rw [if_neg unsupported, if_pos holds]
        exact ⟨_, rfl⟩
    obtain ⟨reason, refused⟩ := refused
    refine ⟨reason, ?_⟩
    have shape : session.step wheel (.handle (.command command)) = session.handleStationaryCommand wheel command :=
      if_pos stationary
    rw [shape]
    unfold handleStationaryCommand
    rw [refused]
  · have other : (DeviceCommand.setSetting id value).safetyClass ≠ .stationaryOnly := by rw [benign]; nofun
    refine ⟨.busy, ?_⟩
    simp only [step, handle, if_neg other, if_pos benign, handleBenignSetting, holds, or_true, if_true]

private theorem handleTick_output (now : Nat) : (session.step wheel (.handle (.tick now))).2 =
    ((session.expireEvidence now).readOnly.handle wheel (.tick now)).2 ++
      (session.tickWrite wheel (.handle (.tick now))).toList.map fun write => .write write.2.payload write.2.mode := by
  have output : (session.step wheel (.handle (.tick now))).2 =
      ((session.expireEvidence now).readOnly.handle wheel (.tick now)).2 ++
        (((session.atTick wheel now).advanceSequence wheel now).2).toList.map fun control =>
          .write control.payload control.mode := rfl
  have write : session.tickWrite wheel (.handle (.tick now)) =
    ((session.atTick wheel now).advanceSequence wheel now).2.map fun control => (now, control) := rfl
  rw [output, write]
  cases ((session.atTick wheel now).advanceSequence wheel now).2 <;> rfl

/-- A sequence never outlives its authority: what its ticks write keeps to its order, its delays and its arms, ends
with every cancellation, and bars every other setting; and ticks write nothing else of a sequence. -/
theorem settings_sequence_authority (wheel : WheelModel δ) (decoder : δ) (calls : List StationaryCall) :
    (∀ past here window later steps,
      Runs.history (step wheel) (withDecoder decoder) calls = past ++ here :: (window ++ later) →
      here.before.acceptedSequence wheel here.input = some steps → Alone wheel window →
      ∃ arm first, KeepsAuthority wheel here steps window arm first) ∧
    (∀ past here later, Runs.history (step wheel) (withDecoder decoder) calls = past ++ here :: later →
      here.before.tickWrite wheel here.input ≠ none → ∃ early origin window steps, past = early ++ origin :: window ∧
        origin.before.acceptedSequence wheel origin.input = some steps ∧ Alone wheel window) ∧
    ∀ here ∈ Runs.history (step wheel) (withDecoder decoder) calls,
      (∀ now, here.input = .handle (.tick now) → here.output =
        ((here.before.expireEvidence now).readOnly.handle wheel (.tick now)).2 ++
          (here.before.tickWrite wheel here.input).toList.map fun write => .write write.2.payload write.2.mode) ∧
      ∀ command, here.input = .handle (.command command) → SetsSetting command → here.before.pendingSequence ≠ none →
        ∃ reason, here.output = [refusal command reason] ∧ here.after = here.before := by
  refine ⟨?_, ?_, ?_⟩
  · intro past here window later steps split accepted alone
    exact keepsAuthority split accepted alone
  · intro past here later split writes
    exact tickWrite_origin rfl split writes
  · intro here member
    have taken := (Runs.before_of_mem (P := fun _ => True) (fun _ _ _ => trivial) trivial member).2
    have output : here.output = (here.before.step wheel here.input).2 := by rw [taken]; rfl
    have after : here.after = (here.before.step wheel here.input).1 := by rw [taken]; rfl
    refine ⟨?_, ?_⟩
    · intro now call
      rw [output, call]
      exact handleTick_output now
    · intro command call sets held
      obtain ⟨reason, same⟩ := @step_busy _ wheel _ _ held sets
      rw [call] at output after
      rw [same] at output after
      exact ⟨reason, output, after⟩

/-- A live frame of a wheel at the speed given in centimetres per second. -/
def liveFrame (high low : Byte) : List Byte :=
  [0x55, 0xaa, 0x18, 0x9c, high, low, 0, 0, 0, 0, 0, 0, 0, 0, 0, 0, 0, 0, 0, 0x18, 0x5a, 0x5a, 0x5a, 0x5a]

def setMaximumSpeed : StationaryCall := .handle (.command (.setSetting .maximumSpeed (.number 450)))

def menuRun : List StationaryCall :=
  [.handle (.linkUp 10), .handle (.notification true (liveFrame 0 0) 100), .installArm ⟨"Falcon", 100, 5100⟩,
    setMaximumSpeed, .handle (.tick 200), .handle (.tick 400)]

theorem settings_sequence_authority_menu : ∃ past here window steps,
    Runs.history (step falcon) (withDecoder {}) menuRun = past ++ here :: (window ++ []) ∧
    here.before.acceptedSequence falcon here.input = some steps ∧ Alone falcon window ∧
    written falcon window = [(200, ⟨100, ⟨[0x59], none⟩, .withoutResponse⟩), (400, ⟨200, ⟨[0x34], none⟩, .withoutResponse⟩)] ∧
    ∃ arm first, KeepsAuthority falcon here steps window arm first := by
  have split : Runs.history (step falcon) (withDecoder {}) menuRun =
      Runs.history (step falcon) (withDecoder {}) (menuRun.take 3) ++
        Runs.take (step falcon) (Runs.final (step falcon) (withDecoder {}) (menuRun.take 3)) setMaximumSpeed ::
        (Runs.history (step falcon) (Runs.final (step falcon) (withDecoder {}) (menuRun.take 4)) (menuRun.drop 4) ++ []) := rfl
  have alone : Alone falcon
      (Runs.history (step falcon) (Runs.final (step falcon) (withDecoder {}) (menuRun.take 4)) (menuRun.drop 4)) := by
    intro here member
    simp only [menuRun, List.drop, Runs.history, List.mem_cons, List.not_mem_nil, or_false] at member
    rcases member with rfl | rfl <;> rfl
  refine ⟨_, _, _, _, split, rfl, alone, by decide, ?_⟩
  exact (settings_sequence_authority falcon {} menuRun).1 _ _ _ _ _ split rfl alone

/-- A sequence at the end of the clock, whose next step is due when the clock ends. -/
def lastTicks : List StationaryCall :=
  [.handle (.linkUp 10), .installArm ⟨"Falcon", u64Max - 50, u64Max⟩, setMaximumSpeed, .handle (.tick u64Max)]

/-- A sequence during which a notification of an earlier time shows a moving wheel. -/
def staleRun : List StationaryCall :=
  [.handle (.linkUp 10), .handle (.notification true (liveFrame 0 0) 100), .installArm ⟨"Falcon", 100, 5100⟩,
    setMaximumSpeed, .handle (.notification true (liveFrame 1 0x2c) 90), .handle (.tick 200)]

/-- The clock saturates under a delay, and speeds behind the latest one are passed over. -/
theorem settings_sequence_authority_limits :
    (∃ past here window steps write, Runs.history (step falcon) (withDecoder {}) lastTicks = past ++ here :: window ∧
      here.before.acceptedSequence falcon here.input = some steps ∧ Alone falcon window ∧
      written falcon window = [write] ∧ write.1 < here.before.monotonic + write.2.delayMs) ∧
    ∃ past here cut late steps delta, Runs.history (step falcon) (withDecoder {}) staleRun = past ++ here :: cut :: late ∧
      here.before.acceptedSequence falcon here.input = some steps ∧ Alone falcon (cut :: late) ∧
      .telemetry delta ∈ cut.output ∧ delta.speed = some 3000 ∧ falcon.maxSettingsSpeed = none ∧
      written falcon late = [(200, ⟨100, ⟨[0x59], none⟩, .withoutResponse⟩)] := by
  refine ⟨⟨Runs.history (step falcon) (withDecoder {}) (lastTicks.take 2),
    Runs.take (step falcon) (Runs.final (step falcon) (withDecoder {}) (lastTicks.take 2)) setMaximumSpeed,
    Runs.history (step falcon) (Runs.final (step falcon) (withDecoder {}) (lastTicks.take 3)) (lastTicks.drop 3), _,
    (u64Max, ⟨100, ⟨[0x59], none⟩, .withoutResponse⟩), rfl, rfl, ?_, by decide, by decide⟩,
    ⟨Runs.history (step falcon) (withDecoder {}) (staleRun.take 3),
    Runs.take (step falcon) (Runs.final (step falcon) (withDecoder {}) (staleRun.take 3)) setMaximumSpeed,
    Runs.take (step falcon) (Runs.final (step falcon) (withDecoder {}) (staleRun.take 4))
      (.handle (.notification true (liveFrame 1 0x2c) 90)),
    Runs.history (step falcon) (Runs.final (step falcon) (withDecoder {}) (staleRun.take 5)) (staleRun.drop 5), _,
    ⟨some 3000, some .unknown, 90⟩, rfl, rfl, ?_, by decide +kernel, rfl, rfl, by decide +kernel⟩⟩
  · intro here member
    simp only [lastTicks, List.drop, Runs.history, List.mem_cons, List.not_mem_nil, or_false] at member
    rw [member]
    rfl
  · intro here member
    simp only [staleRun, List.drop, Runs.history, List.mem_cons, List.not_mem_nil, or_false] at member
    rcases member with rfl | rfl <;> rfl

end StationarySettingsWriteSession

end Cutout.Wheels

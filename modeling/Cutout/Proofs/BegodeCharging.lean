import Cutout.Library.Runs
import Cutout.Proofs.BegodeTrend

/-! Inferred charging over whole runs. Each time that the state keeps belongs to a call that
showed something, after which nothing moved and no clock went back; the trend belongs to
the voltages taken in since its baseline, all from one source. -/

namespace Cutout.Begode
open Library
open Cutout.Core (ChargeMode Measured)
open Cutout.Protocols (BegodeFrame isMoving saturatingAdd u64Max)

abbrev ChargingStep := Step BegodeCharging BegodeCharging.Call (Option (Measured ChargeMode))

inductive Clue where
  | speed | standing | realCells | zeroCells | placeholder
  deriving DecidableEq

def Clue.ShownBy (frame : BegodeFrame) (delta : TelemetryDelta) : Clue → Prop
  | speed => delta.speed.isSome = true
  | standing => ∃ speed, delta.speed = some speed ∧ isMoving speed.value = false
  | realCells => ∃ page, BegodeBmsCellPage.decode frame = .ok page ∧ page.bmsIndex = 0 ∧ page.real = true
  | zeroCells => ∃ page, BegodeBmsCellPage.decode frame = .ok page ∧ page.bmsIndex = 0 ∧ page.zero = true
  | placeholder => ∃ summary, BegodeBmsSummary.decode frame = .ok summary ∧ summary.bmsIndex = 0 ∧ isPlaceholder summary = true

structure Sample where
  source : Source
  reading : Reading Int Nat
  deriving DecidableEq

namespace BegodeCharging
variable {state before middle after : BegodeCharging} {frame : BegodeFrame} {delta : TelemetryDelta} {at_ : Nat}
variable {summary : BegodeBmsSummary} {seen last : Nat} {call : Call}
variable (calls : List Call)
variable {page : BegodeBmsCellPage}

  {clue : Clue}

def Call.time : Call → Option Nat
  | observe _ _ at_ | tick at_ => some at_
  | reset => none

def moving (delta : TelemetryDelta) : Bool := delta.speed.any fun speed => isMoving speed.value

def Call.moves : Call → Bool
  | observe _ delta _ => moving delta
  | tick _ | reset => false

def Calm (since : Nat) (here : ChargingStep) : Prop :=
  ∃ time, here.input.time = some time ∧ since ≤ time ∧ here.input.moves = false

def Shows (clue : Clue) (time : Nat) (here : ChargingStep) : Prop :=
  ∃ frame delta, here.input = .observe frame delta time ∧ clue.ShownBy frame delta

/-- The clue was shown at most five seconds ago, and nothing has moved since. -/
def Recently (past : List ChargingStep) (clue : Clue) (time : Nat) : Prop :=
  ∃ seen, seen ≤ time ∧ time ≤ seen + freshFor ∧ Since (Calm seen) (Shows clue seen) past

def seenAt (state : BegodeCharging) : Clue → Option Nat
  | .speed => state.lastSpeedAt
  | .standing => state.stationarySince
  | .realCells => state.realCellsAt
  | .zeroCells => state.placeholderCellsAt
  | .placeholder => state.placeholderSummaryAt

/-- Times of clues are kept, dropped, or set to now where the call shows the clue. -/
def Keeps (frame : BegodeFrame) (delta : TelemetryDelta) (at_ : Nat) (before after : BegodeCharging) : Prop :=
  ∀ clue seen, after.seenAt clue = some seen → before.seenAt clue = some seen ∨ seen = at_ ∧ clue.ShownBy frame delta

theorem Keeps.trans (first : Keeps frame delta at_ before middle) (second : Keeps frame delta at_ middle after) :
    Keeps frame delta at_ before after := by
  intro clue seen known
  rcases second clue seen known with earlier | now
  · exact first clue seen earlier
  · exact .inr now

theorem SameEvidence.seenAt (same : SameEvidence before after) : after.seenAt clue = before.seenAt clue := by
  cases clue with
  | speed => exact same.speed
  | standing => exact same.standing
  | realCells => exact same.realCells
  | zeroCells => exact same.placeholderCells
  | placeholder => exact same.placeholderSummary

theorem SameEvidence.keeps (same : SameEvidence before after) : Keeps frame delta at_ before after := by
  intro clue seen known
  exact .inl (same.seenAt.symm.trans known)

private theorem reset_keeps : Keeps frame delta at_ before state.reset := by
  intro clue seen known
  cases clue <;> cases known

theorem clearBmsEvidence_keeps : Keeps frame delta at_ state state.clearBmsEvidence := by
  intro clue seen known
  cases clue with
  | speed | standing => exact .inl known
  | realCells | zeroCells | placeholder => cases known

theorem useUsable_keeps : Keeps frame delta at_ state state.useUsable := by
  unfold useUsable
  split
  · intro clue seen known
    cases clue <;> exact .inl known
  · exact SameEvidence.refl.keeps

/-- The voltage of a usable summary beside fresh real cells. A second one of the same time is not taken in. -/
def summarySample (state : BegodeCharging) (summary : BegodeBmsSummary) (at_ : Nat) : Option Sample :=
  if summary.bmsIndex = 0 ∧ validSummary summary ∧ (state.realCellsAt.any (fresh · at_)) ∧
      ¬ (state.source = .usable ∧ state.lastVoltageAt = some at_) then
    some ⟨.usable, summary.packVoltage, at_⟩
  else none

/-- The live voltage, while the battery sends placeholders. A second one of the same time is not taken in. -/
def liveSample (state : BegodeCharging) (delta : TelemetryDelta) (at_ : Nat) : Option Sample :=
  match state.source, delta.voltage with
  | .placeholders, some voltage => if state.lastVoltageAt = some at_ then none else some ⟨.placeholders, voltage.value, at_⟩
  | _, _ => none

def sampleFrom (state : BegodeCharging) (frame : BegodeFrame) (delta : TelemetryDelta) (at_ : Nat) : Option Sample :=
  match frame.tag with
  | 0x00 => state.liveSample delta at_
  | 0x01 =>
    match BegodeBmsSummary.decode frame with
    | .ok summary => state.summarySample summary at_
    | .error _ => none
  | _ => none

/-- What a frame does: a live voltage, a summary or a cell page is observed, or nothing happens. -/
inductive Framed (state : BegodeCharging) (frame : BegodeFrame) (delta : TelemetryDelta) (at_ : Nat) :
    BegodeCharging → Option Sample → Prop
  | live {voltage : Measured Int} (tag : frame.tag = 0) (source : state.source = .placeholders)
      (known : delta.voltage = some voltage) : Framed state frame delta at_ (state.observeVoltage voltage.value at_)
        (if state.lastVoltageAt = some at_ then none else some ⟨.placeholders, voltage.value, at_⟩)
  | summary {summary : BegodeBmsSummary} (decoded : BegodeBmsSummary.decode frame = .ok summary) :
      Framed state frame delta at_ (state.observeSummary summary at_) (state.summarySample summary at_)
  | cells {page : BegodeBmsCellPage} (decoded : BegodeBmsCellPage.decode frame = .ok page) :
      Framed state frame delta at_ (state.observeCells page at_) none
  | nothing : Framed state frame delta at_ state none

theorem observeFrame_framed (state : BegodeCharging) (frame : BegodeFrame) (delta : TelemetryDelta) (at_ : Nat) :
    Framed state frame delta at_ (state.observeFrame frame delta at_) (state.sampleFrom frame delta at_) := by
  by_cases live : frame.tag = 0
  · simp only [observeFrame, sampleFrom, liveSample, live]
    cases source : state.source with
    | unknown | usable => exact .nothing
    | placeholders =>
      cases known : delta.voltage with
      | none => exact .nothing
      | some voltage => exact .live live source known
  by_cases sums : frame.tag = 1
  · simp only [observeFrame, sampleFrom, sums]
    cases decoded : BegodeBmsSummary.decode frame with
    | error => exact .nothing
    | ok summary => exact .summary decoded
  by_cases pages : frame.tag = 2 ∨ frame.tag = 3
  · rcases pages with page | page
    all_goals
      simp only [observeFrame, sampleFrom, page]
      cases decoded : BegodeBmsCellPage.decode frame with
      | error => exact .nothing
      | ok page => exact .cells decoded
  · obtain ⟨beyond, other⟩ : ∃ beyond, frame.tag = beyond + 4 := ⟨frame.tag - 4, by omega⟩
    simp only [observeFrame, sampleFrom, other]
    exact .nothing

private theorem observeSummary_keeps (decoded : BegodeBmsSummary.decode frame = .ok summary) :
    Keeps frame delta at_ state (state.observeSummary summary at_) := by
  unfold observeSummary
  split
  · exact SameEvidence.refl.keeps
  next bank =>
    split
    · have noted : Keeps frame delta at_ state
          { state.useUsable with validSummaryAt := some at_, placeholderSummaryAt := none, source := .usable } := by
        refine useUsable_keeps.trans ?_
        intro clue seen known
        cases clue with
        | speed | standing | realCells | zeroCells => exact .inl known
        | placeholder => cases known
      dsimp only
      split
      · exact noted.trans observeVoltage_same.keeps
      · exact noted
    · split
      next shown =>
        intro clue seen known
        cases clue with
        | placeholder =>
          cases known
          exact .inr ⟨rfl, summary, decoded, not_not.mp bank, shown⟩
        | realCells =>
          dsimp only [BegodeCharging.seenAt] at known ⊢
          split at known
          · cases known
          · exact .inl known
        | speed | standing | zeroCells =>
          dsimp only [BegodeCharging.seenAt] at known ⊢
          split at known
          · exact .inl known
          · exact .inl known
      · exact clearBmsEvidence_keeps

private theorem observeCells_keeps (decoded : BegodeBmsCellPage.decode frame = .ok page) :
    Keeps frame delta at_ state (state.observeCells page at_) := by
  unfold observeCells
  split
  · exact SameEvidence.refl.keeps
  next bank =>
    split
    next shown =>
      have noted : Keeps frame delta at_ state { state with realCellsAt := some at_ } := by
        intro clue seen known
        cases clue with
        | realCells =>
          cases known
          exact .inr ⟨rfl, page, decoded, not_not.mp bank, shown⟩
        | speed | standing | zeroCells | placeholder => exact .inl known
      refine (noted.trans useUsable_keeps).trans ?_
      intro clue seen known
      cases clue <;> exact .inl known
    · split
      next shown =>
        intro clue seen known
        cases clue with
        | zeroCells =>
          cases known
          exact .inr ⟨rfl, page, decoded, not_not.mp bank, shown⟩
        | speed | standing | realCells | placeholder => exact .inl known
      · exact clearBmsEvidence_keeps

private theorem observeFrame_keeps : Keeps frame delta at_ state (state.observeFrame frame delta at_) := by
  have framed := observeFrame_framed state frame delta at_
  generalize state.observeFrame frame delta at_ = after, state.sampleFrom frame delta at_ = new at framed ⊢
  cases framed with
  | live => exact observeVoltage_same.keeps
  | summary decoded => exact observeSummary_keeps decoded
  | cells decoded => exact observeCells_keeps decoded
  | nothing => exact SameEvidence.refl.keeps

private theorem refreshSource_keeps : Keeps frame delta at_ state (state.refreshSource at_) := by
  unfold refreshSource
  intro clue seen known
  split at known
  · exact .inl known
  split at known
  · cases clue <;> exact .inl known
  split at known
  · cases clue <;> exact .inl known
  · exact .inl known

theorem answer_same : SameEvidence state (state.answer at_).1 := by
  unfold answer result
  split
  · split
    · exact .refl
    · exact ⟨rfl, rfl, rfl, rfl, rfl, rfl, rfl, rfl⟩
  · exact .refl

def regressed (state : BegodeCharging) (at_ : Nat) : Bool := state.lastInputAt.any fun last => at_ < last

def cleaned (state : BegodeCharging) (at_ : Nat) : BegodeCharging := if state.evidenceStale at_ then state.reset else state

def noteInput (state : BegodeCharging) (at_ : Nat) : BegodeCharging := { state with lastInputAt := some at_ }

def noteSpeed (state : BegodeCharging) (delta : TelemetryDelta) (at_ : Nat) : BegodeCharging :=
  match delta.speed with
  | some _ => { state with lastSpeedAt := some at_, stationarySince := some (state.stationarySince.getD at_) }
  | none => state

/-- The state that `observe` hands the frame to. -/
def prepared (state : BegodeCharging) (delta : TelemetryDelta) (at_ : Nat) : BegodeCharging :=
  (((state.cleaned at_).expireTrend at_).noteInput at_).noteSpeed delta at_

def sampleOf (state : BegodeCharging) : Call → Option Sample
  | .observe frame delta at_ =>
    if state.regressed at_ || moving delta then none else (state.prepared delta at_).sampleFrom frame delta at_
  | .tick _ | .reset => none

private theorem observe_regressed (back : state.regressed at_ = true) :
    state.observe frame delta at_ = (state.reset, estimated .unknown) :=
  if_pos back

private theorem observe_moving (forward : state.regressed at_ = false) (moves : moving delta = true) :
    state.observe frame delta at_ =
      ({ state.reset with lastInputAt := some at_, lastSpeedAt := some at_ }, estimated .notCharging) := by
  have onward : ¬ (state.lastInputAt.any fun last => decide (at_ < last)) = true := ne_true_of_eq_false forward
  unfold moving at moves
  unfold observe
  rw [if_neg onward]
  cases known : delta.speed with
  | none =>
    rw [known] at moves
    cases moves
  | some speed =>
    rw [known, Option.any_some] at moves
    simp only [moves, if_true, reset]

private theorem noteSpeed_cases (state : BegodeCharging) (at_ : Nat) :
    (if state.stationarySince.isNone then { state with lastSpeedAt := some at_, stationarySince := some at_ }
      else { state with lastSpeedAt := some at_ }) =
      { state with lastSpeedAt := some at_, stationarySince := some (state.stationarySince.getD at_) } := by
  cases stood : state.stationarySince with
  | none => rfl
  | some start => simp

private theorem observe_prepared (forward : state.regressed at_ = false) (still : moving delta = false) :
    state.observe frame delta at_ = (state.prepared delta at_).observeBattery frame delta at_ := by
  have onward : ¬ (state.lastInputAt.any fun last => decide (at_ < last)) = true := ne_true_of_eq_false forward
  unfold moving at still
  unfold observe prepared noteSpeed
  rw [if_neg onward]
  cases known : delta.speed with
  | none => rfl
  | some speed =>
    rw [known, Option.any_some] at still
    simp only [still, Bool.false_eq_true, if_false]
    exact congrArg (fun state => BegodeCharging.observeBattery state frame delta at_)
      (noteSpeed_cases (((state.cleaned at_).expireTrend at_).noteInput at_) at_)

theorem tick_regressed (back : state.regressed at_ = true) : state.tick at_ = (state.reset, estimated .unknown) :=
  if_pos back

theorem tick_stale (forward : state.regressed at_ = false) (old : state.evidenceStale at_ = true) :
    state.tick at_ = (state.reset.noteInput at_, estimated .unknown) :=
  (if_neg (ne_true_of_eq_false forward)).trans (if_pos old)

theorem tick_live (forward : state.regressed at_ = false) (young : state.evidenceStale at_ = false) :
    state.tick at_ = ((state.noteInput at_).expireTrend at_).answer at_ :=
  (if_neg (ne_true_of_eq_false forward)).trans (if_neg (ne_true_of_eq_false young))

private theorem cleaned_keeps : Keeps frame delta at_ state (state.cleaned at_) := by
  unfold cleaned
  split
  · exact reset_keeps
  · exact SameEvidence.refl.keeps

private theorem noteInput_keeps : Keeps frame delta at_ state (state.noteInput at_) := by
  intro clue seen known
  cases clue <;> exact .inl known

private theorem noteSpeed_keeps (still : moving delta = false) :
    Keeps frame delta at_ state (state.noteSpeed delta at_) := by
  unfold moving at still
  unfold noteSpeed
  cases known : delta.speed with
  | none => exact SameEvidence.refl.keeps
  | some speed =>
    rw [known, Option.any_some] at still
    intro clue seen set
    cases clue with
    | speed => exact .inr ⟨(Option.some.inj set).symm, by rw [Clue.ShownBy, known]; rfl⟩
    | standing =>
      cases stood : state.stationarySince with
      | none =>
        dsimp only [BegodeCharging.seenAt] at set
        rw [stood] at set
        exact .inr ⟨(Option.some.inj set).symm, speed, known, still⟩
      | some start =>
        dsimp only [BegodeCharging.seenAt] at set
        rw [stood] at set
        exact .inl (stood.trans set)
    | realCells | zeroCells | placeholder => exact .inl set

private theorem prepared_keeps (still : moving delta = false) :
    Keeps frame delta at_ state (state.prepared delta at_) :=
  ((cleaned_keeps.trans expireTrend_same.keeps).trans noteInput_keeps).trans (noteSpeed_keeps still)

theorem prepared_input : (state.prepared delta at_).lastInputAt = some at_ := by
  unfold prepared noteSpeed
  split
  · rfl
  · rfl

private theorem observeBattery_keeps : Keeps frame delta at_ state (state.observeBattery frame delta at_).1 :=
  (observeFrame_keeps.trans refreshSource_keeps).trans answer_same.keeps

private theorem observeSummary_input : (state.observeSummary summary at_).lastInputAt = state.lastInputAt := by
  have used : state.useUsable.lastInputAt = state.lastInputAt := by
    unfold useUsable
    split
    · rfl
    · rfl
  unfold observeSummary
  split
  · rfl
  split
  · dsimp only
    split
    · exact observeVoltage_same.input.trans used
    · exact used
  split
  · dsimp only
    split
    · rfl
    · rfl
  · rfl

private theorem observeCells_input : (state.observeCells page at_).lastInputAt = state.lastInputAt := by
  unfold observeCells useUsable
  split
  · rfl
  split
  · dsimp only
    split
    · rfl
    · rfl
  split
  · rfl
  · rfl

theorem observeFrame_input : (state.observeFrame frame delta at_).lastInputAt = state.lastInputAt := by
  have framed := observeFrame_framed state frame delta at_
  generalize state.observeFrame frame delta at_ = after, state.sampleFrom frame delta at_ = new at framed ⊢
  cases framed with
  | live => exact observeVoltage_same.input
  | summary decoded => exact observeSummary_input
  | cells decoded => exact observeCells_input
  | nothing => rfl

theorem refreshSource_input : (state.refreshSource at_).lastInputAt = state.lastInputAt := by
  unfold refreshSource
  split
  · rfl
  split
  · rfl
  split
  · rfl
  · rfl

theorem observeBattery_input : (state.observeBattery frame delta at_).1.lastInputAt = state.lastInputAt :=
  (answer_same.input.trans refreshSource_input).trans observeFrame_input

def Timed (state : BegodeCharging) : Prop :=
  ∀ clue seen, state.seenAt clue = some seen → ∃ last, state.lastInputAt = some last ∧ seen ≤ last

theorem le_of_forward (forward : state.regressed at_ = false) (input : state.lastInputAt = some last) :
    last ≤ at_ := by
  rw [regressed, input, Option.any_some, decide_eq_false_iff_not] at forward
  omega

theorem reset_blind : ({} : BegodeCharging).seenAt clue ≠ some seen := by
  intro known
  cases clue <;> cases known

theorem sampleOf_observed (forward : state.regressed at_ = false) (still : moving delta = false) :
    sampleOf state (.observe frame delta at_) = (state.prepared delta at_).sampleFrom frame delta at_ := by
  rw [sampleOf, forward, still, Bool.or_self, if_neg Bool.false_ne_true]

/-- What a call does: everything is dropped, something moves, a tick looks at the evidence again, or a frame is
observed on prepared evidence. Only the last two can conclude anything. -/
inductive Turn (state : BegodeCharging) : Call → BegodeCharging → Option (Measured ChargeMode) → Option Sample → Prop
  | dropped {call : Call} {estimate : Option (Measured ChargeMode)}
      (silent : estimate = none ∨ estimate = some (estimated .unknown)) : Turn state call {} estimate none
  | stale {at_ : Nat} : Turn state (.tick at_) { lastInputAt := some at_ } (some (estimated .unknown)) none
  | moved {frame : BegodeFrame} {delta : TelemetryDelta} {at_ : Nat} (moves : moving delta = true) :
      Turn state (.observe frame delta at_) { lastInputAt := some at_, lastSpeedAt := some at_ }
        (some (estimated .notCharging)) none
  | ticked {at_ : Nat} (forward : state.regressed at_ = false) (young : state.evidenceStale at_ = false) :
      Turn state (.tick at_) (((state.noteInput at_).expireTrend at_).answer at_).1
        (some (((state.noteInput at_).expireTrend at_).answer at_).2) none
  | observed {frame : BegodeFrame} {delta : TelemetryDelta} {at_ : Nat} (forward : state.regressed at_ = false)
      (still : moving delta = false) :
      Turn state (.observe frame delta at_) ((state.prepared delta at_).observeBattery frame delta at_).1
        (some ((state.prepared delta at_).observeBattery frame delta at_).2)
        ((state.prepared delta at_).sampleFrom frame delta at_)

theorem step_turn (state : BegodeCharging) (call : Call) :
    Turn state call (step state call).1 (step state call).2 (sampleOf state call) := by
  cases call with
  | reset => exact .dropped (.inl rfl)
  | tick at_ =>
    dsimp only [step, sampleOf]
    by_cases back : state.regressed at_ = true
    · rw [tick_regressed back]
      exact .dropped (.inr rfl)
    have forward := Bool.eq_false_of_not_eq_true back
    by_cases old : state.evidenceStale at_ = true
    · rw [tick_stale forward old]
      exact .stale
    · have young := Bool.eq_false_of_not_eq_true old
      rw [tick_live forward young]
      exact .ticked forward young
  | observe frame delta at_ =>
    by_cases back : state.regressed at_ = true
    · have unread : sampleOf state (.observe frame delta at_) = none := by
        rw [sampleOf, back, Bool.true_or, if_pos rfl]
      rw [unread, step, observe_regressed back]
      exact .dropped (.inr rfl)
    have forward := Bool.eq_false_of_not_eq_true back
    by_cases moves : moving delta = true
    · have unread : sampleOf state (.observe frame delta at_) = none := by
        rw [sampleOf, moves, Bool.or_true, if_pos rfl]
      rw [unread, step, observe_moving forward moves]
      exact .moved moves
    · have still := Bool.eq_false_of_not_eq_true moves
      rw [sampleOf_observed forward still, step, observe_prepared forward still]
      exact .observed forward still

/-- A time kept behind a call is set by it, or is kept over a calm call. -/
theorem step_seen (timed : Timed state) (call : Call) (known : (step state call).1.seenAt clue = some seen) :
    (∃ last, (step state call).1.lastInputAt = some last ∧ seen ≤ last) ∧
      ((∃ frame delta, call = .observe frame delta seen ∧ clue.ShownBy frame delta) ∨
        state.seenAt clue = some seen ∧ ∃ time, call.time = some time ∧ seen ≤ time ∧ call.moves = false) := by
  have turn := step_turn state call
  generalize (step state call).1 = after, (step state call).2 = estimate, sampleOf state call = new at turn known ⊢
  cases turn with
  | dropped => exact absurd known reset_blind
  | stale => cases clue <;> cases known
  | @moved frame delta _ moves =>
    have shown : delta.speed.isSome = true := by
      unfold moving at moves
      obtain ⟨speed, some, -⟩ := (Option.any_eq_true _ _).mp moves
      rw [some]
      rfl
    cases clue with
    | speed =>
      cases known
      exact ⟨⟨seen, rfl, le_rfl⟩, .inl ⟨frame, delta, rfl, shown⟩⟩
    | standing | realCells | zeroCells | placeholder => cases known
  | @ticked at_ forward young =>
    have answered : SameEvidence (state.noteInput at_) (((state.noteInput at_).expireTrend at_).answer at_).1 :=
      expireTrend_same.trans answer_same
    have before : state.seenAt clue = some seen := by
      rw [answered.seenAt] at known
      cases clue <;> exact known
    obtain ⟨last, input, reached⟩ := timed clue seen before
    have past := reached.trans (le_of_forward forward input)
    exact ⟨⟨at_, answered.input, past⟩, .inr ⟨before, at_, rfl, past, rfl⟩⟩
  | @observed frame delta at_ forward still =>
    have input : ((state.prepared delta at_).observeBattery frame delta at_).1.lastInputAt = some at_ :=
      observeBattery_input.trans prepared_input
    rcases ((prepared_keeps still).trans observeBattery_keeps) clue seen known with before | ⟨rfl, shown⟩
    · obtain ⟨last, was, reached⟩ := timed clue seen before
      have past := reached.trans (le_of_forward forward was)
      exact ⟨⟨at_, input, past⟩, .inr ⟨before, at_, rfl, past, still⟩⟩
    · exact ⟨⟨seen, input, le_rfl⟩, .inl ⟨frame, delta, rfl, shown⟩⟩

/-- Every time that the state keeps is the time of a call that showed the clue, with calm calls behind it. -/
structure Noted (past : List ChargingStep) (state : BegodeCharging) : Prop where
  timed : Timed state
  since : ∀ clue seen, state.seenAt clue = some seen → Since (Calm seen) (Shows clue seen) past

private theorem initial_noted : Noted [] {} where
  timed _ _ known := absurd known reset_blind
  since _ _ known := absurd known reset_blind

variable {past : List ChargingStep}

theorem Noted.step (noted : Noted past state) (call : Call) :
    Noted (past ++ [Runs.take step state call]) (step state call).1 where
  timed _ _ known := (step_seen noted.timed call known).1
  since clue seen known := by
    rcases (step_seen noted.timed call known).2 with ⟨frame, delta, rfl, shown⟩ | ⟨before, time, same, past, still⟩
    · exact .now ⟨frame, delta, rfl, shown⟩
    · exact (noted.since clue seen before).later ⟨time, same, past, still⟩

theorem run_noted : Noted (Runs.history step {} calls) (Runs.final step {} calls) :=
  Runs.induction_on initial_noted (fun _ _ call noted => noted.step call) calls

theorem le_of_fresh (young : fresh seen at_ = true) : seen ≤ at_ ∧ at_ ≤ seen + freshFor := by
  unfold fresh elapsed at young
  rw [Bool.and_eq_true, decide_eq_true_eq, decide_eq_true_eq] at young
  exact ⟨young.1, by omega⟩

theorem fresh_later {time : Nat} (young : fresh seen at_ = true) (later : at_ ≤ time)
    (early : time < seen + (freshFor + 1)) : fresh seen time = true := by
  have known := (le_of_fresh young).1
  unfold fresh elapsed
  rw [Bool.and_eq_true, decide_eq_true_eq, decide_eq_true_eq]
  exact ⟨known.trans later, by omega⟩

theorem Noted.recently (noted : Noted past state) (clue : Clue) (known : state.seenAt clue = some seen)
    (young : fresh seen at_ = true) : Recently past clue at_ := by
  exact ⟨seen, (le_of_fresh young).1, (le_of_fresh young).2, noted.since clue seen known⟩

def samples (past : List ChargingStep) : List Sample :=
  (past.filterMap fun here => sampleOf here.before here.input).reverse

theorem samples_snoc (past : List ChargingStep) (here : ChargingStep) :
    samples (past ++ [here]) = (sampleOf here.before here.input).toList ++ samples past := by
  unfold samples
  rw [List.filterMap_append, List.reverse_append]
  cases known : sampleOf here.before here.input with
  | none => simp only [List.filterMap_cons, known, List.filterMap_nil, List.reverse_nil, Option.toList_none]
  | some sample =>
    simp only [List.filterMap_cons, known, List.filterMap_nil, List.reverse_singleton, Option.toList_some]

/-- The state sums up the samples since the baseline, which come from the source in use and from a wheel that
has settled. -/
structure Tracks (state : BegodeCharging) (taken : List Sample) (at_ : Nat) : Prop where
  follows : Follows state (taken.map Sample.reading)
  sources : ∀ sample ∈ taken, sample.source = state.source ∧ sample.source ≠ .unknown
  settled : ∀ sample ∈ taken, ∃ start, state.stationarySince = some start ∧ start + settle ≤ sample.reading.time
  past : ∀ sample ∈ taken, sample.reading.time ≤ at_

variable {taken : List Sample} {mv : Int}

theorem Follows.tracks (follows : Follows state []) : Tracks state [] at_ where
  follows := follows
  sources _ member := absurd member List.not_mem_nil
  settled _ member := absurd member List.not_mem_nil
  past _ member := absurd member List.not_mem_nil

theorem Tracks.congr (tracks : Tracks before taken at_) (trend : SameTrend before after)
    (source : after.source = before.source) (standing : after.stationarySince = before.stationarySince) :
    Tracks after taken at_ where
  follows := tracks.follows.congr trend
  sources sample member := by
    rw [source]
    exact tracks.sources sample member
  settled sample member := by
    rw [standing]
    exact tracks.settled sample member
  past := tracks.past

/-- What a call leaves of the samples: they go on, a new trend begins, or none is left. -/
def Extends (taken : List Sample) (new : Option Sample) (result : List Sample) : Prop :=
  result = [] ∨ result = new.toList ++ taken ∨ result = new.toList

theorem observeVoltage_tracks (tracks : Tracks state taken at_) (new : state.lastVoltageAt ≠ some at_)
    (known : state.source ≠ .unknown) :
    ∃ result, Extends taken (some ⟨state.source, mv, at_⟩) result ∧ Tracks (state.observeVoltage mv at_) result at_ := by
  have standing : taken.map Sample.reading ≠ [] → ∃ start, state.stationarySince = some start ∧ start + settle ≤ at_ := by
    intro some
    obtain ⟨sample, member⟩ := List.exists_mem_of_ne_nil taken (by rintro rfl; exact some rfl)
    obtain ⟨start, stood, settled⟩ := tracks.settled sample member
    exact ⟨start, stood, settled.trans (tracks.past sample member)⟩
  rcases observeVoltage_follows mv tracks.follows new standing with gone | ⟨kept, which, joined, start, stood, settled⟩
  · exact ⟨[], .inl rfl, gone.tracks⟩
  · have joins (older : List Sample) (some : ∀ sample ∈ older, sample ∈ taken) (reads : older.map Sample.reading = kept) :
        Tracks (state.observeVoltage mv at_) (⟨state.source, mv, at_⟩ :: older) at_ := by
      refine ⟨by rw [List.map_cons, reads]; exact joined, ?_, ?_, ?_⟩
      · rw [observeVoltage_same.source, List.forall_mem_cons]
        exact ⟨⟨rfl, known⟩, fun sample member => tracks.sources sample (some sample member)⟩
      · rw [observeVoltage_same.standing, List.forall_mem_cons]
        exact ⟨⟨start, stood, settled⟩, fun sample member => tracks.settled sample (some sample member)⟩
      · rw [List.forall_mem_cons]
        exact ⟨le_rfl, fun sample member => tracks.past sample (some sample member)⟩
    rcases which with rfl | rfl
    · exact ⟨_, .inr (.inl rfl), joins taken (fun _ => id) rfl⟩
    · exact ⟨_, .inr (.inr rfl), joins [] (fun _ member => absurd member List.not_mem_nil) rfl⟩

theorem Extends.fresh {new : Option Sample} {result : List Sample} (grows : Extends [] new result) : Extends taken new result := by
  rcases grows with rfl | rfl | rfl
  · exact .inl rfl
  · exact .inr (.inr (List.append_nil _))
  · exact .inr (.inr rfl)

/-- What a frame does to the trend: it leaves it alone, drops it, or has a voltage join it or one of its own. -/
inductive Traced (state : BegodeCharging) (at_ : Nat) : BegodeCharging → Option Sample → Prop
  | kept {after : BegodeCharging} (trend : SameTrend state after) (source : after.source = state.source)
      (standing : after.stationarySince = state.stationarySince) : Traced state at_ after none
  | dropped {after : BegodeCharging} (trend : SameTrend state.resetTrend after) : Traced state at_ after none
  | joined {middle : BegodeCharging} {mv : Int} (trend : SameTrend state middle) (source : middle.source = state.source)
      (standing : middle.stationarySince = state.stationarySince) (new : middle.lastVoltageAt ≠ some at_)
      (known : middle.source ≠ .unknown) : Traced state at_ (middle.observeVoltage mv at_) (some ⟨middle.source, mv, at_⟩)
  | begun {middle : BegodeCharging} {mv : Int} (trend : SameTrend state.resetTrend middle)
      (new : middle.lastVoltageAt ≠ some at_) (known : middle.source ≠ .unknown) :
      Traced state at_ (middle.observeVoltage mv at_) (some ⟨middle.source, mv, at_⟩)

/-- The usable source takes the place of another one with a trend of its own. -/
theorem useUsable_cases (state : BegodeCharging) : state.source = .usable ∧ state.useUsable = state ∨
    state.source ≠ .usable ∧ state.useUsable = { state.resetTrend with lastVoltageAt := none } := by
  unfold useUsable
  by_cases usable : state.source = .usable
  · exact .inl ⟨usable, if_neg (not_not.mpr usable)⟩
  · exact .inr ⟨usable, if_pos usable⟩

theorem observeVoltage_repeated (repeated : state.lastVoltageAt = some at_) : state.observeVoltage mv at_ = state :=
  if_pos repeated

def noteSummary (state : BegodeCharging) (at_ : Nat) : BegodeCharging :=
  { state with validSummaryAt := some at_, placeholderSummaryAt := none, source := .usable }

private theorem usableVoltage_traced (bank : summary.bmsIndex = 0) (valid : validSummary summary = true) :
    Traced state at_ (if state.useUsable.realCellsAt.any (fresh · at_) then
      (state.useUsable.noteSummary at_).observeVoltage summary.packVoltage at_ else state.useUsable.noteSummary at_)
      (state.summarySample summary at_) := by
  rcases useUsable_cases state with ⟨usable, same⟩ | ⟨other, gone⟩
  · rw [same]
    have trend : SameTrend state (state.noteSummary at_) := by constructor <;> rfl
    by_cases cells : state.realCellsAt.any (fresh · at_) = true
    · rw [if_pos cells]
      by_cases repeated : state.lastVoltageAt = some at_
      · rw [observeVoltage_repeated (show (state.noteSummary at_).lastVoltageAt = some at_ from repeated), summarySample,
          if_neg fun sampled => sampled.2.2.2 ⟨usable, repeated⟩]
        exact .kept trend usable.symm rfl
      · rw [summarySample, if_pos ⟨bank, valid, cells, fun both => repeated both.2⟩]
        exact .joined trend usable.symm rfl repeated (show Source.usable ≠ .unknown by decide)
    · rw [if_neg cells, summarySample, if_neg fun sampled => cells sampled.2.2.1]
      exact .kept trend usable.symm rfl
  · rw [gone]
    have trend : SameTrend state.resetTrend ({ state.resetTrend with lastVoltageAt := none }.noteSummary at_) := by
      constructor <;> rfl
    by_cases cells : state.realCellsAt.any (fresh · at_) = true
    · rw [if_pos (show state.resetTrend.realCellsAt.any (fresh · at_) = true from cells), summarySample,
        if_pos ⟨bank, valid, cells, fun both => other both.1⟩]
      exact .begun trend (Option.some_ne_none at_).symm (show Source.usable ≠ .unknown by decide)
    · rw [if_neg (show ¬ state.resetTrend.realCellsAt.any (fresh · at_) = true from cells), summarySample,
        if_neg fun sampled => cells sampled.2.2.1]
      exact .dropped trend

private theorem observeSummary_traced (summary : BegodeBmsSummary) :
    Traced state at_ (state.observeSummary summary at_) (state.summarySample summary at_) := by
  unfold observeSummary
  by_cases bank : summary.bmsIndex = 0
  · rw [if_neg (not_not.mpr bank)]
    by_cases valid : validSummary summary = true
    · rw [if_pos valid]
      exact usableVoltage_traced bank valid
    · have none : state.summarySample summary at_ = none := if_neg fun sampled => valid sampled.2.1
      rw [if_neg valid, none]
      split
      · dsimp only
        split
        · exact .dropped (by constructor <;> rfl)
        · exact .kept (by constructor <;> rfl) rfl rfl
      · exact .dropped (by constructor <;> rfl)
  · rw [if_pos bank, summarySample, if_neg fun sampled => bank sampled.1]
    exact .kept .refl rfl rfl

private theorem observeCells_traced (page : BegodeBmsCellPage) : Traced state at_ (state.observeCells page at_) none := by
  unfold observeCells
  split
  · exact .kept .refl rfl rfl
  split
  · dsimp only
    rcases useUsable_cases { state with realCellsAt := some at_ } with ⟨usable, same⟩ | ⟨other, gone⟩
    · rw [same]
      exact .kept (by constructor <;> rfl) usable.symm rfl
    · rw [gone]
      exact .dropped (by constructor <;> rfl)
  split
  · exact .kept (by constructor <;> rfl) rfl rfl
  · exact .dropped (by constructor <;> rfl)

theorem observeFrame_traced (state : BegodeCharging) (frame : BegodeFrame) (delta : TelemetryDelta) (at_ : Nat) :
    Traced state at_ (state.observeFrame frame delta at_) (state.sampleFrom frame delta at_) := by
  have framed := observeFrame_framed state frame delta at_
  generalize state.observeFrame frame delta at_ = after, state.sampleFrom frame delta at_ = new at framed ⊢
  cases framed with
  | nothing => exact .kept .refl rfl rfl
  | cells decoded => exact observeCells_traced _
  | summary decoded => exact observeSummary_traced _
  | live tag source known =>
    by_cases repeated : state.lastVoltageAt = some at_
    · rw [if_pos repeated, observeVoltage_repeated repeated]
      exact .kept .refl rfl rfl
    · rw [if_neg repeated, ← source]
      exact .joined .refl rfl rfl repeated (by rw [source]; decide)

theorem observeFrame_tracks (frame : BegodeFrame) (delta : TelemetryDelta) (tracks : Tracks state taken at_) :
    ∃ result, Extends taken (state.sampleFrom frame delta at_) result ∧ Tracks (state.observeFrame frame delta at_) result at_ := by
  have traced := observeFrame_traced state frame delta at_
  generalize state.observeFrame frame delta at_ = after, state.sampleFrom frame delta at_ = new at traced ⊢
  cases traced with
  | kept trend source standing => exact ⟨taken, .inr (.inl rfl), tracks.congr trend source standing⟩
  | dropped trend => exact ⟨[], .inl rfl, (resetTrend_follows.congr trend).tracks⟩
  | joined trend source standing new known => exact observeVoltage_tracks (tracks.congr trend source standing) new known
  | begun trend new known =>
    obtain ⟨result, grows, follows⟩ := observeVoltage_tracks (resetTrend_follows.congr trend).tracks new known
    exact ⟨result, grows.fresh, follows⟩

/-- Changing the source loses the samples; only where there are none it comes into use. -/
theorem refreshSource_tracks (tracks : Tracks state taken at_) :
    Tracks (state.refreshSource at_) taken at_ ∨ Tracks (state.refreshSource at_) [] at_ := by
  unfold refreshSource
  split
  · exact .inl tracks
  next other =>
    split
    · cases source : state.source with
      | usable => exact absurd source other
      | placeholders => exact .inl (tracks.congr (by constructor <;> rfl) source.symm rfl)
      | unknown =>
        have none : taken = [] := by
          rw [List.eq_nil_iff_forall_not_mem]
          intro sample member
          obtain ⟨same, known⟩ := tracks.sources sample member
          exact known (same.trans source)
        subst none
        have follows : Follows { state with source := .placeholders } [] := tracks.follows.congr (by constructor <;> rfl)
        exact .inr follows.tracks
    · split
      · exact .inr resetTrend_follows.tracks
      · exact .inl tracks

theorem answer_tracks (tracks : Tracks state taken at_) :
    Tracks (state.answer at_).1 taken at_ ∨ Tracks (state.answer at_).1 [] at_ := by
  unfold answer result
  split
  · split
    · exact .inl tracks
    · exact .inr resetTrend_follows.tracks
  · exact .inl tracks

theorem expireTrend_tracks (tracks : Tracks state taken at_) :
    Tracks (state.expireTrend at_) taken at_ ∨ Tracks (state.expireTrend at_) [] at_ := by
  unfold expireTrend
  split
  · exact .inr resetTrend_follows.tracks
  · exact .inl tracks

theorem reset_follows : Follows ({} : BegodeCharging) [] where
  baseline := rfl
  started := rfl
  peak := rfl
  lastRise := rfl
  rises := rfl
  sustained := trivial
  concluded charging := absurd charging Bool.false_ne_true

theorem noteInput_tracks (tracks : Tracks state taken at_) : Tracks (state.noteInput at_) taken at_ :=
  tracks.congr (by constructor <;> rfl) rfl rfl

theorem noteSpeed_tracks (tracks : Tracks state taken at_) : Tracks (state.noteSpeed delta at_) taken at_ := by
  unfold noteSpeed
  split
  · refine ⟨tracks.follows.congr (by constructor <;> rfl), tracks.sources, ?_, tracks.past⟩
    intro sample member
    obtain ⟨start, stood, settled⟩ := tracks.settled sample member
    exact ⟨start, by dsimp only; rw [stood]; rfl, settled⟩
  · exact tracks

theorem prepared_tracks (delta : TelemetryDelta) (tracks : Tracks state taken at_) :
    Tracks (state.prepared delta at_) taken at_ ∨ Tracks (state.prepared delta at_) [] at_ := by
  have cleans : Tracks (state.cleaned at_) taken at_ ∨ Tracks (state.cleaned at_) [] at_ := by
    unfold cleaned
    split
    · exact .inr reset_follows.tracks
    · exact .inl tracks
  have expires : Tracks ((state.cleaned at_).expireTrend at_) taken at_ ∨ Tracks ((state.cleaned at_).expireTrend at_) [] at_ := by
    rcases cleans with kept | gone
    · exact expireTrend_tracks kept
    · exact .inr ((expireTrend_tracks gone).elim id id)
  exact expires.imp (fun kept => noteSpeed_tracks (noteInput_tracks kept)) fun gone => noteSpeed_tracks (noteInput_tracks gone)

theorem Tracks.later (tracks : Tracks state taken (state.lastInputAt.getD 0)) (forward : state.regressed at_ = false) :
    Tracks state taken at_ := by
  refine ⟨tracks.follows, tracks.sources, tracks.settled, ?_⟩
  intro sample member
  have past := tracks.past sample member
  cases input : state.lastInputAt with
  | none =>
    rw [input] at past
    exact past.trans (Nat.zero_le _)
  | some last =>
    rw [input] at past
    exact past.trans (le_of_forward forward input)

private theorem step_tracks (tracks : Tracks state taken (state.lastInputAt.getD 0)) (call : Call) :
    ∃ result, Extends taken (sampleOf state call) result ∧
      Tracks (step state call).1 result ((step state call).1.lastInputAt.getD 0) := by
  have turn := step_turn state call
  generalize (step state call).1 = after, (step state call).2 = estimate, sampleOf state call = new at turn ⊢
  cases turn with
  | dropped => exact ⟨[], .inl rfl, reset_follows.tracks⟩
  | stale | moved => exact ⟨[], .inl rfl, (reset_follows.congr (by constructor <;> rfl)).tracks⟩
  | @ticked at_ forward young =>
    have input : (((state.noteInput at_).expireTrend at_).answer at_).1.lastInputAt = some at_ :=
      answer_same.input.trans expireTrend_same.input
    rw [input]
    rcases expireTrend_tracks (noteInput_tracks (tracks.later forward)) with kept | gone
    · rcases answer_tracks kept with kept | gone
      · exact ⟨taken, .inr (.inl rfl), kept⟩
      · exact ⟨[], .inl rfl, gone⟩
    · exact ⟨[], .inl rfl, (answer_tracks gone).elim id id⟩
  | @observed frame delta at_ forward still =>
    have input : ((state.prepared delta at_).observeBattery frame delta at_).1.lastInputAt = some at_ :=
      observeBattery_input.trans prepared_input
    rw [input]
    have framed : ∃ result, Extends taken ((state.prepared delta at_).sampleFrom frame delta at_) result ∧
        Tracks ((state.prepared delta at_).observeFrame frame delta at_) result at_ := by
      rcases prepared_tracks delta (tracks.later forward) with kept | gone
      · exact observeFrame_tracks frame delta kept
      · obtain ⟨result, grows, follows⟩ := observeFrame_tracks frame delta gone
        exact ⟨result, grows.fresh, follows⟩
    obtain ⟨result, grows, follows⟩ := framed
    rcases refreshSource_tracks follows with kept | gone
    · rcases answer_tracks kept with kept | gone
      · exact ⟨result, grows, kept⟩
      · exact ⟨[], .inl rfl, gone⟩
    · exact ⟨[], .inl rfl, (answer_tracks gone).elim id id⟩

/-- The samples that the state sums up are those of the last part of the run. -/
def Tracked (past : List ChargingStep) (state : BegodeCharging) : Prop :=
  ∃ earlier rest, past = earlier ++ rest ∧ Tracks state (samples rest) (state.lastInputAt.getD 0)

theorem Tracked.step (tracked : Tracked past state) (call : Call) :
    Tracked (past ++ [Runs.take step state call]) (step state call).1 := by
  obtain ⟨earlier, rest, rfl, tracks⟩ := tracked
  obtain ⟨result, grows, follows⟩ := step_tracks tracks call
  rcases grows with rfl | rfl | rfl
  · exact ⟨_, [], (List.append_nil _).symm, follows⟩
  · exact ⟨earlier, rest ++ [Runs.take BegodeCharging.step state call], List.append_assoc _ _ _,
      by rw [samples_snoc]; exact follows⟩
  · refine ⟨earlier ++ rest, [Runs.take BegodeCharging.step state call], rfl, ?_⟩
    have single := samples_snoc [] (Runs.take BegodeCharging.step state call)
    rw [List.nil_append, show samples [] = [] from rfl, List.append_nil] at single
    rw [single]
    exact follows

theorem run_tracked : Tracked (Runs.history step {} calls) (Runs.final step {} calls) :=
  Runs.induction_on ⟨[], [], rfl, reset_follows.tracks⟩ (fun _ _ call tracked => tracked.step call) calls

structure Concluded (state : BegodeCharging) (at_ : Nat) : Prop where
  input : state.lastInputAt = some at_
  ready : state.ready at_ = true
  charging : state.charging = true
  settled : ∃ start, state.stationarySince = some start ∧ start + settle ≤ at_

theorem answer_concludes (input : state.lastInputAt = some at_) (charging : (state.answer at_).2.value = .charging) :
    (state.answer at_).1 = state ∧ Concluded state at_ := by
  unfold answer at charging ⊢
  split at charging
  next ready =>
    rw [if_pos ready]
    unfold result at charging ⊢
    split at charging
    next old =>
      rw [if_pos old]
      obtain ⟨start, stood, settled⟩ := (Option.any_eq_true _ _).mp old
      rw [decide_eq_true_eq] at settled
      unfold elapsed at settled
      have concluded : state.charging = true := by
        by_contra open_
        rw [if_neg open_] at charging
        cases charging
      have positive : 0 < settle := by decide
      exact ⟨rfl, input, ready, concluded, start, stood, by omega⟩
    · cases charging
  · cases charging

/-- Every estimate of charging comes from an answer on prepared evidence. -/
theorem step_concludes (charging : (step state call).2.map Measured.value = some .charging) :
    ∃ at_, call.time = some at_ ∧ state.regressed at_ = false ∧ Concluded (step state call).1 at_ ∧
      ((call = .tick at_ ∧ (step state call).1 = (state.noteInput at_).expireTrend at_) ∨
        ∃ frame delta, call = .observe frame delta at_ ∧ moving delta = false ∧
          (step state call).1 = ((state.prepared delta at_).observeFrame frame delta at_).refreshSource at_) := by
  have turn := step_turn state call
  generalize (step state call).1 = after, (step state call).2 = estimate, sampleOf state call = new at turn charging ⊢
  cases turn with
  | dropped silent =>
    rcases silent with rfl | rfl
    · cases charging
    · cases charging
  | stale | moved => cases charging
  | @ticked at_ forward young =>
    have input : ((state.noteInput at_).expireTrend at_).lastInputAt = some at_ := expireTrend_same.input
    obtain ⟨answered, concluded⟩ := answer_concludes input (Option.some.inj charging)
    rw [answered]
    exact ⟨at_, rfl, forward, concluded, .inl ⟨rfl, rfl⟩⟩
  | @observed frame delta at_ forward still =>
    have input : (((state.prepared delta at_).observeFrame frame delta at_).refreshSource at_).lastInputAt = some at_ :=
      (refreshSource_input.trans observeFrame_input).trans prepared_input
    obtain ⟨answered, concluded⟩ := answer_concludes input (Option.some.inj charging)
    rw [observeBattery, answered]
    exact ⟨at_, rfl, forward, concluded, .inr ⟨frame, delta, rfl, still, rfl⟩⟩

/-- Where charging stands, the last rise is at most two minutes old. -/
def Timely (state : BegodeCharging) (at_ : Nat) : Prop :=
  state.charging = true → ∀ last, state.lastRiseAt = some last → at_ ≤ last + trend

theorem Timely.congr (timely : Timely before at_) (same : SameTrend before after) : Timely after at_ := by
  intro charging last rise
  exact timely (same.charging.symm.trans charging) last (same.lastRise.symm.trans rise)

theorem expireTrend_timely : Timely (state.expireTrend at_) at_ := by
  intro charging last rise
  unfold expireTrend at charging rise
  split at charging
  · cases charging
  next kept =>
    rw [if_neg kept] at rise
    rw [charging, rise, Bool.true_and, Option.any_some, decide_eq_true_eq] at kept
    unfold elapsed at kept
    omega

theorem LateReading.congr (late : LateReading after mv at_) (same : SameTrend before after) : LateReading before mv at_ where
  waiting := same.charging.symm.trans late.waiting
  rises := same.rises ▸ late.rises
  old := same.lastRise ▸ late.old
  high := same.baseline ▸ late.high
  flat := same.peak ▸ late.flat

/-- Where a frame leaves charging with an old rise, it took in a late sample of the source in use. -/
theorem observeFrame_late (tracks : Tracks state taken at_) (timely : Timely state at_)
    (charging : (state.observeFrame frame delta at_).charging = true)
    (rise : (state.observeFrame frame delta at_).lastRiseAt = some last) (old : last + trend < at_) :
    ∃ mv, state.sampleFrom frame delta at_ = some ⟨state.source, mv, at_⟩ ∧ LateReading state mv at_ := by
  have traced := observeFrame_traced state frame delta at_
  generalize state.observeFrame frame delta at_ = after, state.sampleFrom frame delta at_ = new at traced charging rise ⊢
  cases traced with
  | kept trend source standing =>
    have soon := (timely.congr trend) charging last rise
    omega
  | dropped trend =>
    rw [trend.charging] at charging
    cases charging
  | @joined middle mv trend source standing new known =>
    have late := observeVoltage_late (tracks.follows.congr trend) (timely.congr trend) charging rise old
    exact ⟨mv, by rw [source], late.2.congr trend⟩
  | @begun middle mv trend new known =>
    have idle : Timely middle at_ := by
      intro charging
      rw [trend.charging] at charging
      cases charging
    have late := observeVoltage_late (resetTrend_follows.congr trend) idle charging rise old
    have rises := late.2.rises
    rw [trend.rises] at rises
    exact absurd rises (by simp [resetTrend])

/-- A call that completes a trend whose last rise is more than two minutes old. -/
def Late (state : BegodeCharging) (call : Call) : Prop :=
  ∃ mv at_, sampleOf state call = some ⟨state.source, mv, at_⟩ ∧ LateReading state mv at_

/-- What `observe` leaves of the state before it looks at the frame. -/
theorem prepared_cases (state : BegodeCharging) (delta : TelemetryDelta) (at_ : Nat) :
    (state.evidenceStale at_ = false ∧ SameTrend (state.expireTrend at_) (state.prepared delta at_) ∧
      (state.prepared delta at_).source = state.source ∧ (state.prepared delta at_).realCellsAt = state.realCellsAt) ∨
    (SameTrend ({} : BegodeCharging) (state.prepared delta at_) ∧ (state.prepared delta at_).source = .unknown ∧
      (state.prepared delta at_).realCellsAt = none) := by
  have noted (begun : BegodeCharging) : SameTrend begun ((begun.noteInput at_).noteSpeed delta at_) ∧
      ((begun.noteInput at_).noteSpeed delta at_).source = begun.source ∧
      ((begun.noteInput at_).noteSpeed delta at_).realCellsAt = begun.realCellsAt := by
    unfold noteSpeed
    split
    · exact ⟨by constructor <;> rfl, rfl, rfl⟩
    · exact ⟨by constructor <;> rfl, rfl, rfl⟩
  unfold prepared cleaned
  by_cases old : state.evidenceStale at_ = true
  · rw [if_pos old]
    exact .inr (noted {})
  · rw [if_neg old]
    obtain ⟨trend, source, cells⟩ := noted (state.expireTrend at_)
    exact .inl ⟨Bool.eq_false_of_not_eq_true old, trend, source.trans expireTrend_same.source,
      cells.trans expireTrend_same.realCells⟩

theorem refreshSource_charging (charging : (state.refreshSource at_).charging = true) :
    SameTrend state (state.refreshSource at_) := by
  unfold refreshSource at charging ⊢
  split at charging
  next usable =>
    rw [if_pos usable]
    exact .refl
  next other =>
    rw [if_neg other]
    split at charging
    next both =>
      rw [if_pos both]
      constructor <;> rfl
    next missing =>
      rw [if_neg missing]
      split at charging
      · cases charging
      next unused =>
        rw [if_neg unused]
        exact .refl

/-- Charging is returned with an old rise after a late call only. -/
theorem step_timely (tracks : Tracks state taken (state.lastInputAt.getD 0)) (punctual : ¬ Late state call)
    (charging : (step state call).2.map Measured.value = some .charging) :
    ∃ at_, call.time = some at_ ∧ Concluded (step state call).1 at_ ∧ Timely (step state call).1 at_ := by
  obtain ⟨at_, time, forward, concluded, tick | ⟨frame, delta, rfl, still, same⟩⟩ := step_concludes charging
  · refine ⟨at_, time, concluded, ?_⟩
    rw [tick.2]
    exact expireTrend_timely
  · refine ⟨at_, time, concluded, ?_⟩
    intro stands last rise
    by_contra late
    rw [same] at stands rise
    have trend := refreshSource_charging stands
    rw [trend.charging] at stands
    rw [trend.lastRise] at rise
    have late : last + Begode.trend < at_ := Nat.lt_of_not_le late
    have before : Tracks state taken at_ := tracks.later forward
    have tracks : ∃ kept, Tracks (state.prepared delta at_) kept at_ := by
      rcases prepared_tracks delta before with kept | gone
      · exact ⟨_, kept⟩
      · exact ⟨_, gone⟩
    obtain ⟨kept, tracks⟩ := tracks
    rcases prepared_cases state delta at_ with ⟨-, same, source, -⟩ | ⟨same, -, -⟩
    · obtain ⟨mv, taken, reading⟩ := observeFrame_late tracks (expireTrend_timely.congr same) stands rise late
      have reading := reading.congr same
      have whole : state.expireTrend at_ = state := by
        unfold expireTrend
        split
        next expired =>
          have rises := reading.rises
          rw [expireTrend, if_pos expired] at rises
          exact absurd rises (by simp [resetTrend])
        · rfl
      rw [whole] at reading
      rw [source] at taken
      exact punctual ⟨mv, at_, (sampleOf_observed forward still).trans taken, reading⟩
    · have idle : Timely (state.prepared delta at_) at_ := by
        intro charging
        rw [same.charging] at charging
        cases charging
      obtain ⟨mv, -, reading⟩ := observeFrame_late tracks idle stands rise late
      have rises := reading.rises
      rw [same.rises] at rises
      exact absurd rises (by decide)

/-- A voltage that a call takes in, with what was shown shortly before: fresh real cells beside a usable summary,
or fresh placeholder pages beside a live voltage, all of the first pack. -/
inductive Taken (past : List ChargingStep) : Call → Sample → Prop
  | summary {frame : BegodeFrame} {delta : TelemetryDelta} {at_ : Nat} {summary : BegodeBmsSummary}
      (decoded : BegodeBmsSummary.decode frame = .ok summary) (bank : summary.bmsIndex = 0)
      (valid : validSummary summary = true) (cells : Recently past .realCells at_) :
      Taken past (.observe frame delta at_) ⟨.usable, summary.packVoltage, at_⟩
  | live {frame : BegodeFrame} {delta : TelemetryDelta} {at_ : Nat} {voltage : Measured Int} (tag : frame.tag = 0)
      (known : delta.voltage = some voltage) (summary : Recently past .placeholder at_)
      (cells : Recently past .zeroCells at_) : Taken past (.observe frame delta at_) ⟨.placeholders, voltage.value, at_⟩

def Paged (state : BegodeCharging) : Prop :=
  state.source = .placeholders → (∃ seen, state.placeholderSummaryAt = some seen) ∧ ∃ seen, state.placeholderCellsAt = some seen

theorem Paged.congr (paged : Paged before) (same : SameEvidence before after) : Paged after := by
  intro source
  rw [same.placeholderSummary, same.placeholderCells]
  exact paged (same.source.symm.trans source)

private theorem refreshSource_paged : Paged (state.refreshSource at_) := by
  intro source
  unfold refreshSource at source ⊢
  split at source
  next usable => cases usable.symm.trans source
  next other =>
    rw [if_neg other]
    split at source
    next both =>
      rw [if_pos both]
      obtain ⟨summary, cells⟩ := Bool.and_eq_true_iff.mp both
      obtain ⟨first, seen, -⟩ := (Option.any_eq_true _ _).mp summary
      obtain ⟨second, shown, -⟩ := (Option.any_eq_true _ _).mp cells
      exact ⟨⟨first, seen⟩, second, shown⟩
    next missing =>
      split at source
      · cases source
      next unused => exact absurd source unused

private theorem step_paged (state : BegodeCharging) (call : Call) (paged : Paged state) : Paged (step state call).1 := by
  have empty : Paged {} := fun source => by cases source
  have turn := step_turn state call
  generalize (step state call).1 = after, (step state call).2 = estimate, sampleOf state call = new at turn ⊢
  cases turn with
  | dropped => exact empty
  | stale | moved => exact fun source => by cases source
  | @ticked at_ forward young =>
    have noted : Paged (state.noteInput at_) := paged
    exact noted.congr (expireTrend_same.trans answer_same)
  | observed => exact refreshSource_paged.congr answer_same

theorem fresh_of_stale {kept : Option Nat} (known : kept = some seen) (young : stale kept at_ = false) :
    fresh seen at_ = true := by
  rw [stale, known, Option.any_some] at young
  simpa using young

private theorem sampleOf_taken (noted : Noted past state) (paged : Paged state) {sample : Sample}
    (sampled : sampleOf state call = some sample) : Taken past call sample := by
  cases call with
  | tick | reset => cases sampled
  | observe frame delta at_ =>
    rw [sampleOf] at sampled
    split at sampled
    · cases sampled
    have framed := observeFrame_framed (state.prepared delta at_) frame delta at_
    generalize (state.prepared delta at_).observeFrame frame delta at_ = after at framed
    rw [sampled] at framed
    generalize held : some sample = new at framed
    cases framed with
    | nothing | cells => cases held
    | @live voltage tag source known =>
      split at held
      · cases held
      cases held
      rcases prepared_cases state delta at_ with ⟨young, -, same, -⟩ | ⟨-, unknown, -⟩
      · have placeholders := same.symm.trans source
        obtain ⟨⟨first, summary⟩, second, cells⟩ := paged placeholders
        unfold evidenceStale at young
        rw [placeholders] at young
        simp only [Bool.or_eq_false_iff] at young
        exact .live tag known (noted.recently .placeholder summary (fresh_of_stale summary young.2.1))
          (noted.recently .zeroCells cells (fresh_of_stale cells young.2.2))
      · cases source.symm.trans unknown
    | @summary summary decoded =>
      unfold summarySample at held
      split at held
      next usable =>
        cases held
        obtain ⟨bank, valid, cells, -⟩ := usable
        obtain ⟨seen, known, young⟩ := (Option.any_eq_true _ _).mp cells
        rcases prepared_cases state delta at_ with ⟨-, -, -, same⟩ | ⟨-, -, none⟩
        · exact .summary decoded bank valid (noted.recently .realCells (same.symm.trans known) young)
        · cases none.symm.trans known
      · cases held

/-- The voltages taken in since the baseline, behind the calls before it: one source, enough spaced rises with
a recent last one, no drop, and a late high voltage. -/
structure Rising (earlier rest : List ChargingStep) (state : BegodeCharging) (at_ : Nat) (base : Reading Int Nat)
    (source : Source) : Prop where
  oldest : ((samples rest).map Sample.reading).getLast? = some base
  baseline : state.baselineMv = some base.value ∧ state.trendStartedAt = some base.time
  oneSource : ∀ sample ∈ samples rest, sample.source = source
  taken : ∀ first here last sample, rest = first ++ here :: last → sampleOf here.before here.input = some sample →
    Taken (earlier ++ first) here.input sample
  rises : ∃ rises : Readings, rises.Sublist (risesOf raises ((samples rest).map Sample.reading)) ∧ 3 ≤ rises.length ∧
    rises.IsChain (fun newer older => older.time + increaseSpacing ≤ newer.time) ∧
    ∃ last, rises.head? = some last ∧ last.time ≤ at_ ∧ at_ ≤ last.time + trend
  sustained : Sustained raises drops ((samples rest).map Sample.reading)
  high : ∃ reading ∈ (samples rest).map Sample.reading,
    base.time + trend ≤ reading.time ∧ base.value + requiredRiseMv ≤ reading.value

/-- What supports charging at a time: the wheel has stood for a minute, its speed is fresh, and the voltage rises. -/
structure Supported (past : List ChargingStep) (state : BegodeCharging) (at_ : Nat) : Prop where
  standing : ∃ start, start + settle ≤ at_ ∧ Since (Calm start) (Shows .standing start) past
  speed : Recently past .speed at_
  rising : ∃ earlier rest base source, past = earlier ++ rest ∧ Rising earlier rest state at_ base source

/-- The deadline of a conclusion: until then a tick confirms it, from then on a tick withdraws it. -/
structure ExpiresAt (state : BegodeCharging) (at_ deadline : Nat) : Prop where
  next : state.nextTickAt = some deadline
  stands : ∀ time, at_ ≤ time → time < deadline → (state.tick time).2 = estimated .charging
  ends : at_ + 180000 ≤ u64Max → ∀ time, deadline ≤ time → (state.tick time).2 = estimated .unknown

theorem Tracked.rise (tracked : Tracked past state) (concluded : Concluded state at_) :
    ∃ last, state.lastRiseAt = some last ∧ last ≤ at_ := by
  obtain ⟨earlier, rest, -, tracks⟩ := tracked
  rw [concluded.input, Option.getD_some] at tracks
  have three := (tracks.follows.concluded concluded.charging).1
  cases newest : (spacedRises raises apart ((samples rest).map Sample.reading)).head? with
  | none =>
    rw [List.head?_eq_none_iff.mp newest] at three
    exact absurd three (by decide)
  | some last =>
    have inside := (spacedRises_sublist.trans risesOf_sublist).subset (List.mem_of_head? newest)
    obtain ⟨sample, taken, same⟩ := List.mem_map.mp inside
    refine ⟨last.time, by rw [tracks.follows.lastRise, newest]; rfl, ?_⟩
    rw [← same]
    exact tracks.past sample taken

theorem Concluded.supported (concluded : Concluded state at_) (timely : Timely state at_) (noted : Noted past state)
    (tracked : Tracked past state)
    (origin : ∀ first here last sample, past = first ++ here :: last → sampleOf here.before here.input = some sample →
      Taken first here.input sample) : Supported past state at_ := by
  obtain ⟨start, stood, settled⟩ := concluded.settled
  have ready := concluded.ready
  unfold BegodeCharging.ready at ready
  simp only [Bool.and_eq_true] at ready
  obtain ⟨seen, known, young⟩ := (Option.any_eq_true _ _).mp ready.1.1
  refine ⟨⟨start, settled, noted.since .standing start stood⟩, noted.recently .speed known young, ?_⟩
  obtain ⟨earlier, rest, rfl, tracks⟩ := tracked
  rw [concluded.input, Option.getD_some] at tracks
  obtain ⟨three, base, oldest, high, member, rise, late⟩ := tracks.follows.concluded concluded.charging
  refine ⟨earlier, rest, base, state.source, rfl, oldest, ?_, fun sample inside => (tracks.sources sample inside).1, ?_, ?_,
    tracks.follows.sustained, high, member, late, rise⟩
  · rw [tracks.follows.baseline, tracks.follows.started, oldest]
    exact ⟨rfl, rfl⟩
  · intro first here last sample split sampled
    exact origin (earlier ++ first) here last sample (by rw [split, List.append_assoc]) sampled
  · obtain ⟨last, newest⟩ : ∃ last, (spacedRises raises apart ((samples rest).map Sample.reading)).head? = some last := by
      refine Option.ne_none_iff_exists'.mp fun none => ?_
      rw [List.head?_eq_none_iff.mp none] at three
      exact absurd three (by decide)
    refine ⟨_, spacedRises_sublist, three, ?_, last, newest, ?_, ?_⟩
    · refine spacedRises_apart.imp ?_
      intro newer older far
      have spaced := of_decide_eq_true far
      unfold elapsed at spaced
      have positive : 0 < increaseSpacing := by decide
      omega
    · have inside := (spacedRises_sublist.trans risesOf_sublist).subset (List.mem_of_head? newest)
      obtain ⟨sample, taken, same⟩ := List.mem_map.mp inside
      rw [← same]
      exact tracks.past sample taken
    · refine timely concluded.charging last.time ?_
      rw [tracks.follows.lastRise, newest]
      rfl

/-- The times on which a conclusion rests: of the speed, the voltage, the two pages of the source and the last rise. -/
structure Dated (state : BegodeCharging) (speed voltage first second last : Nat) : Prop where
  speed : state.lastSpeedAt = some speed
  voltage : state.lastVoltageAt = some voltage
  pages : state.source = .placeholders ∧ state.placeholderSummaryAt = some first ∧ state.placeholderCellsAt = some second ∨
    state.source = .usable ∧ state.validSummaryAt = some first ∧ state.realCellsAt = some second
  rise : state.lastRiseAt = some last

def AllFresh (speed voltage first second at_ : Nat) : Prop :=
  (fresh speed at_ = true ∧ fresh voltage at_ = true) ∧ fresh first at_ = true ∧ fresh second at_ = true

section Dated
variable {speed voltage first second last : Nat} (dated : Dated state speed voltage first second last)
include dated

theorem Dated.ready_iff : state.ready at_ = true ↔ AllFresh speed voltage first second at_ := by
  unfold BegodeCharging.ready AllFresh
  rcases dated.pages with ⟨source, one, two⟩ | ⟨source, one, two⟩
  · simp only [dated.speed, dated.voltage, source, one, two, Option.any_some, Bool.and_eq_true]
  · simp only [dated.speed, dated.voltage, source, one, two, Option.any_some, Bool.and_eq_true]

theorem Dated.stale_iff : state.evidenceStale at_ = false ↔ AllFresh speed voltage first second at_ := by
  unfold evidenceStale AllFresh stale
  rcases dated.pages with ⟨source, one, two⟩ | ⟨source, one, two⟩
  · simp only [dated.speed, dated.voltage, source, one, two, Option.any_some, Bool.or_eq_false_iff, Bool.not_eq_false']
  · simp only [dated.speed, dated.voltage, source, one, two, Option.any_some, Bool.or_eq_false_iff, Bool.not_eq_false']

theorem Dated.nextTickAt (charging : state.charging = true) : state.nextTickAt =
    some (min (saturatingAdd (min (min (min speed voltage) first) second) (freshFor + 1)) (saturatingAdd last (Begode.trend + 1))) := by
  unfold BegodeCharging.nextTickAt
  rcases dated.pages with ⟨source, one, two⟩ | ⟨source, one, two⟩
  · rw [charging, dated.speed, dated.voltage, source, one, two, dated.rise]
    rfl
  · rw [charging, dated.speed, dated.voltage, source, one, two, dated.rise]
    rfl

private theorem Dated.expireTrend_eq (young : at_ ≤ last + Begode.trend) : state.expireTrend at_ = state := by
  unfold expireTrend
  rw [if_neg]
  rw [dated.rise, Option.any_some, Bool.and_eq_true, decide_eq_true_eq, not_and]
  intro _
  unfold elapsed
  omega

theorem Dated.noteInput (time : Nat) : Dated (state.noteInput time) speed voltage first second last :=
  ⟨dated.speed, dated.voltage, dated.pages, dated.rise⟩

end Dated

private theorem answer_idle (idle : state.charging = false) : (state.answer at_).2 = estimated .unknown := by
  unfold answer result
  split
  · split
    · rw [idle]
      rfl
    · rfl
  · rfl

theorem Concluded.dated (concluded : Concluded state at_) (rise : state.lastRiseAt = some last) :
    ∃ speed voltage first second, Dated state speed voltage first second last := by
  have ready := concluded.ready
  unfold BegodeCharging.ready at ready
  simp only [Bool.and_eq_true] at ready
  obtain ⟨⟨spoken, measured⟩, pages⟩ := ready
  obtain ⟨speed, seen, -⟩ := (Option.any_eq_true _ _).mp spoken
  obtain ⟨voltage, read, -⟩ := (Option.any_eq_true _ _).mp measured
  cases source : state.source with
  | unknown =>
    rw [source] at pages
    cases pages
  | placeholders =>
    rw [source] at pages
    obtain ⟨one, two⟩ := Bool.and_eq_true_iff.mp pages
    obtain ⟨first, summary, -⟩ := (Option.any_eq_true _ _).mp one
    obtain ⟨second, cells, -⟩ := (Option.any_eq_true _ _).mp two
    exact ⟨speed, voltage, first, second, seen, read, .inl ⟨source, summary, cells⟩, rise⟩
  | usable =>
    rw [source] at pages
    obtain ⟨one, two⟩ := Bool.and_eq_true_iff.mp pages
    obtain ⟨first, summary, -⟩ := (Option.any_eq_true _ _).mp one
    obtain ⟨second, cells, -⟩ := (Option.any_eq_true _ _).mp two
    exact ⟨speed, voltage, first, second, seen, read, .inr ⟨source, summary, cells⟩, rise⟩

theorem Concluded.expires (concluded : Concluded state at_) (rise : state.lastRiseAt = some last) (past : last ≤ at_) :
    ∃ deadline, ExpiresAt state at_ deadline ∧ deadline ≤ last + (Begode.trend + 1) := by
  obtain ⟨speed, voltage, first, second, dated⟩ := concluded.dated rise
  have now := dated.ready_iff.mp concluded.ready
  obtain ⟨start, stood, settled⟩ := concluded.settled
  refine ⟨_, ⟨dated.nextTickAt concluded.charging, ?_, ?_⟩, (Nat.min_le_right _ _).trans (Nat.min_le_left _ _)⟩
  · intro time later early
    have soon : time < min (min (min speed voltage) first) second + (freshFor + 1) :=
      (early.trans_le (Nat.min_le_left _ _)).trans_le (Nat.min_le_left _ _)
    have young : time < last + (Begode.trend + 1) := (early.trans_le (Nat.min_le_right _ _)).trans_le (Nat.min_le_left _ _)
    have whole : AllFresh speed voltage first second time := by
      obtain ⟨⟨spoken, measured⟩, one, two⟩ := now
      exact ⟨⟨fresh_later spoken later (by omega), fresh_later measured later (by omega)⟩,
        fresh_later one later (by omega), fresh_later two later (by omega)⟩
    have forward : state.regressed time = false := by
      rw [regressed, concluded.input, Option.any_some, decide_eq_false_iff_not]
      omega
    rw [tick_live forward (dated.stale_iff.mpr whole), (dated.noteInput time).expireTrend_eq (Nat.lt_succ_iff.mp young), answer,
      if_pos ((dated.noteInput time).ready_iff.mpr whole), result, if_pos, show (state.noteInput time).charging = true from
        concluded.charging, if_pos rfl]
    rw [show (state.noteInput time).stationarySince = some start from stood, Option.any_some, decide_eq_true_eq]
    unfold elapsed
    omega
  · intro room time reached
    by_cases back : state.regressed time = true
    · rw [tick_regressed back]
    have forward := Bool.eq_false_of_not_eq_true back
    by_cases old : state.evidenceStale time = true
    · rw [tick_stale forward old]
    have live := Bool.eq_false_of_not_eq_true old
    have whole := dated.stale_iff.mp live
    have expired : last + Begode.trend < time := by
      obtain ⟨⟨spoken, measured⟩, one, two⟩ := whole
      have known := (le_of_fresh now.1.1).1
      have young := (le_of_fresh spoken).2
      have read := (le_of_fresh measured).2
      have shown := (le_of_fresh one).2
      have seen := (le_of_fresh two).2
      have evidence : saturatingAdd (min (min (min speed voltage) first) second) (freshFor + 1) =
          min (min (min speed voltage) first) second + (freshFor + 1) :=
        Nat.min_eq_left (by rw [freshFor]; omega)
      have rising : saturatingAdd last (Begode.trend + 1) = last + (Begode.trend + 1) :=
        Nat.min_eq_left (by rw [Begode.trend]; omega)
      rw [evidence, rising] at reached
      omega
    rw [tick_live forward live, expireTrend, if_pos]
    · exact answer_idle rfl
    · rw [show (state.noteInput time).charging = true from concluded.charging,
        show (state.noteInput time).lastRiseAt = some last from rise, Bool.true_and, Option.any_some, decide_eq_true_eq]
      unfold elapsed
      omega

private theorem step_overdue (tracks : Tracks state taken (state.lastInputAt.getD 0)) (late : Late state call)
    (charging : (step state call).2.map Measured.value = some .charging) :
    ∃ at_ last, call.time = some at_ ∧ (step state call).1.lastRiseAt = some last ∧ last + Begode.trend < at_ := by
  obtain ⟨mv, read, sampled, reading⟩ := late
  obtain ⟨at_, time, forward, concluded, ⟨rfl, -⟩ | ⟨frame, delta, rfl, still, same⟩⟩ := step_concludes charging
  · cases sampled
  · have stands := concluded.charging
    rw [same] at stands ⊢
    have refreshed := refreshSource_charging stands
    rw [refreshed.charging] at stands
    rw [refreshed.lastRise]
    rw [sampleOf_observed forward still] at sampled
    have before : Tracks state taken at_ := tracks.later forward
    have whole : state.expireTrend at_ = state := by
      rw [expireTrend, reading.waiting, Bool.false_and, if_neg Bool.false_ne_true]
    have traced := observeFrame_traced (state.prepared delta at_) frame delta at_
    rw [sampled] at traced
    generalize (state.prepared delta at_).observeFrame frame delta at_ = after at traced stands ⊢
    generalize held : some (Sample.mk state.source ⟨mv, read⟩) = new at traced
    cases traced with
    | kept | dropped => cases held
    | begun trend new known =>
      rw [observeVoltage_begun (resetTrend_follows.congr trend)] at stands
      cases stands
    | joined trend source standing new known =>
      simp only [Option.some.injEq, Sample.mk.injEq, Reading.mk.injEq] at held
      obtain ⟨-, rfl, rfl⟩ := held
      rcases prepared_cases state delta _ with ⟨-, begun, -, -⟩ | ⟨begun, -, -⟩
      · rw [whole] at begun
        obtain ⟨peak, kept, flat⟩ := reading.flat
        obtain ⟨last, rise, old⟩ := reading.old
        have follows := (before.follows.congr begun).congr trend
        refine ⟨_, last, rfl, ?_, old⟩
        rw [observeVoltage_flat follows ((trend.peak.trans begun.peak).trans kept) flat stands, trend.lastRise, begun.lastRise]
        exact rise
      · rw [observeVoltage_begun ((reset_follows.congr begun).congr trend)] at stands
        cases stands

private theorem run_paged : Paged (Runs.final step {} calls) :=
  Runs.invariant step_paged (fun source => by cases source) calls

/-- Every voltage of a run is taken in beside fresh pages of its source. -/
theorem run_taken {later : List ChargingStep} {here : ChargingStep} {sample : Sample}
    (split : Runs.history step {} calls = past ++ here :: later)
    (sampled : sampleOf here.before here.input = some sample) : Taken past here.input sample := by
  obtain ⟨first, last, -, rfl, same, -⟩ := Runs.history_split split
  rw [same] at sampled ⊢
  exact sampleOf_taken (run_noted first) (run_paged first) sampled

/-- Whenever charging is returned, its evidence expires on time; the evidence is whole unless the call completes a
trend whose last rise is more than two minutes old, and then its deadline has passed already. -/
theorem inferred_charging_is_supported (calls : List Call) (past later : List ChargingStep) (here : ChargingStep)
    (split : Runs.history step {} calls = past ++ here :: later)
    (charging : here.output.map Measured.value = some .charging) :
    ∃ at_ deadline, here.input.time = some at_ ∧ ExpiresAt here.after at_ deadline ∧
      (¬ Late here.before here.input → Supported (past ++ [here]) here.after at_) ∧
      (Late here.before here.input → deadline ≤ at_) := by
  obtain ⟨first, last, -, rfl, same, -⟩ := Runs.history_split split
  have taken := run_tracked first
  have noted := (run_noted first).step here.input
  have tracked := (run_tracked first).step here.input
  rw [same] at charging ⊢
  obtain ⟨earlier, rest, -, tracks⟩ := taken
  obtain ⟨at_, time, -, concluded, -⟩ := step_concludes charging
  obtain ⟨rise, risen, reached⟩ := tracked.rise concluded
  obtain ⟨deadline, expires, passed⟩ := concluded.expires risen reached
  refine ⟨at_, deadline, time, expires, ?_, ?_⟩
  · intro punctual
    obtain ⟨read, same, -, timely⟩ := step_timely tracks punctual charging
    cases time.symm.trans same
    refine concluded.supported timely noted tracked ?_
    intro front here back sample split
    exact run_taken (first ++ [_]) ((Runs.history_snoc step {} first _).trans split)
  · intro late
    obtain ⟨read, last, same, shown, old⟩ := step_overdue tracks late charging
    cases time.symm.trans same
    cases risen.symm.trans shown
    omega

def placeholderFrame : BegodeFrame where
  bytes := [0x55, 0xaa, 0, 0, 0, 0, 0x03, 0xd9, 0, 0, 0, 0, 0x13, 0x88, 0, 0, 0, 0, 0x01, 0x01, 0x5a, 0x5a, 0x5a, 0x5a]
  sized := rfl
  header := by decide
  terminated := rfl

def zeroCellsFrame : BegodeFrame where
  bytes := [0x55, 0xaa] ++ List.replicate 16 0 ++ [0x02, 0, 0x5a, 0x5a, 0x5a, 0x5a]
  sized := rfl
  header := by decide
  terminated := rfl

def liveFrame : BegodeFrame where
  bytes := [0x55, 0xaa] ++ List.replicate 16 0 ++ [0x00, 0, 0x5a, 0x5a, 0x5a, 0x5a]
  sized := rfl
  header := by decide
  terminated := rfl

def reported (value : Int) : Measured Int := ⟨value, .reported, .known, .unverified⟩

def pagesAt (time : Nat) : List Call :=
  [.observe placeholderFrame ⟨some (reported 0), none⟩ time, .observe zeroCellsFrame ⟨some (reported 0), none⟩ time]

def voltageAt (mv : Int) (time : Nat) : Call := .observe liveFrame ⟨some (reported 0), some (reported mv)⟩ time

def standingRun (rounds : Nat) (voltage : Nat → Int) : List Call :=
  (List.range rounds).flatMap fun round => pagesAt (5000 * round) ++ [voltageAt (voltage round) (5000 * round)]

def threeRises (top : Int) (round : Nat) : Int :=
  if round < 16 then 80000 else if round < 20 then 80050 else if round < 24 then 80100 else top

set_option maxRecDepth 20000 in
private theorem risen_run_charges :
    (step (Runs.final step {} (standingRun 37 (threeRises 80210))) (.tick 180000)).2.map Measured.value = some .charging := by
  decide

/-- Three minutes behind the start a risen voltage supports charging. -/
theorem inferred_charging_is_supported_ticked :
    let state := Runs.final step {} (standingRun 37 (threeRises 80210))
    ∃ deadline, ExpiresAt (step state (.tick 180000)).1 180000 deadline ∧
      Supported (Runs.history step {} (standingRun 37 (threeRises 80210) ++ [.tick 180000])) (step state (.tick 180000)).1
        180000 := by
  -- The calls stay a variable here, so that nothing unfolds the run.
  have supported (calls : List Call)
      (charges : (step (Runs.final step {} calls) (.tick 180000)).2.map Measured.value = some .charging) :
      ∃ deadline, ExpiresAt (step (Runs.final step {} calls) (.tick 180000)).1 180000 deadline ∧
        Supported (Runs.history step {} (calls ++ [.tick 180000])) (step (Runs.final step {} calls) (.tick 180000)).1
          180000 := by
    obtain ⟨at_, deadline, time, expires, supported, -⟩ := inferred_charging_is_supported (calls ++ [.tick 180000]) _ [] _
      (Runs.history_snoc step {} calls (.tick 180000)) charges
    cases time
    refine ⟨deadline, expires, ?_⟩
    rw [Runs.history_snoc]
    apply supported
    rintro ⟨mv, read, sampled, -⟩
    cases sampled
  exact supported _ risen_run_charges

/-- The voltages of the late run, newest first: the top that completes the rise comes 125 seconds behind the last rise. -/
def lateReadings : Readings :=
  ⟨80200, 245000⟩ :: ((List.range 49).map fun round => ⟨threeRises 80160 round, 5000 * round⟩).reverse

private theorem samples_append (first second : List ChargingStep) : samples (first ++ second) = samples second ++ samples first := by
  unfold samples
  rw [List.filterMap_append, List.reverse_append]

set_option maxRecDepth 20000 in
private theorem late_run_charges :
    (step (Runs.final step {} (standingRun 49 (threeRises 80160) ++ pagesAt 245000)) (voltageAt 80200 245000)).2.map
      Measured.value = some .charging := by
  decide

set_option maxRecDepth 20000 in
private theorem late_run_readings :
    (samples (Runs.history step {} (standingRun 49 (threeRises 80160) ++ pagesAt 245000 ++ [voltageAt 80200 245000]))).map
      Sample.reading = lateReadings := by
  decide

private theorem lateReadings_rise_early :
    ∀ count ≤ 50, ∀ rise ∈ risesOf raises (lateReadings.take count), rise.time + trend < 245000 := by
  decide

/-- Charging is returned on a rise that ended more than two minutes ago. -/
theorem late_conclusion_is_unsupported :
    ¬ ∀ (calls : List Call) (past later : List ChargingStep) (here : ChargingStep),
      Runs.history step {} calls = past ++ here :: later → here.output.map Measured.value = some .charging →
        ∃ at_, here.input.time = some at_ ∧ Supported (past ++ [here]) here.after at_ := by
  intro sound
  have unsupported (calls : List Call) (mv : Int)
      (charges : (step (Runs.final step {} calls) (voltageAt mv 245000)).2.map Measured.value = some .charging)
      (readings : (samples (Runs.history step {} (calls ++ [voltageAt mv 245000]))).map Sample.reading = lateReadings) :
      False := by
    obtain ⟨at_, time, supported⟩ := sound (calls ++ [voltageAt mv 245000]) _ [] _ (Runs.history_snoc step {} calls _) charges
    cases time
    obtain ⟨earlier, rest, base, source, split, rising⟩ := supported.rising
    obtain ⟨rises, among, three, -, last, newest, -, recent⟩ := rising.rises
    have part : (samples rest).map Sample.reading = lateReadings.take (samples rest).length := by
      rw [← readings, Runs.history_snoc, split, samples_append, List.map_append, List.take_left' (by rw [List.length_map])]
    have short : (samples rest).length ≤ 50 := by
      have whole := congrArg List.length part
      rw [List.length_map, List.length_take] at whole
      exact whole ▸ Nat.min_le_right _ _
    have early := lateReadings_rise_early _ short last (part ▸ among.subset (List.mem_of_head? newest))
    omega
  exact unsupported _ _ late_run_charges late_run_readings

end BegodeCharging

end Cutout.Begode

import Cutout.ChargingStop
import Cutout.Library.Runs

/-! A ride is not asked twice about one place. A pending suggestion is either already
recorded or farther than the prompt radius from everything recorded, so that an
acknowledgement, however late, can only record a place that stands apart. -/

namespace Cutout.Rides
open Library

abbrev ChargingStopStep := Step ChargingStopPrompts ChargingStopCall ChargingStopReply

namespace ChargingStopPrompts
variable {distance : Distance} {prompts : ChargingStopPrompts}

/-- An observation that justifies asking about a place: an open ride, fresh charging evidence and
a fresh fix there that is accurate to 100 metres. -/
structure Justifies (observation : ChargingStopObservation) (prompt : ChargingStopPrompt) : Prop where
  ride : observation.rideId = prompt.rideId
  recording : observation.lifecycle.isRecording = true
  charging : observation.evidence.suppression observation.now = none
  fix : ∃ fix, observation.location = some fix ∧ fix.isFresh observation.nowUnixSeconds = true ∧
    fix.horizontalAccuracyMeters ≤ 100 ∧ fix.coordinate = prompt.coordinate

inductive Observes (distance : Distance) (prompts : ChargingStopPrompts) :
    Option ChargingStopObservation → Bool → ChargingStopPrompts × ChargingStopDecision → Prop where
  | unassociated {canPresent} : Observes distance prompts none canPresent (prompts.suppress .noAssociatedRide)
  | suppressed {observation canPresent} (reason : ChargingStopSuppression) :
      Observes distance prompts (some observation) canPresent ((prompts.forRide observation.rideId).suppress reason)
  | repeated {observation prompt} (pending : (prompts.forRide observation.rideId).pending = some prompt) :
      Observes distance prompts (some observation) true (prompts.forRide observation.rideId, .offer prompt)
  | offered {observation prompt} (justified : Justifies observation prompt)
      (clear : (prompts.forRide observation.rideId).nearby distance prompt.coordinate = false) :
      Observes distance prompts (some observation) true
        ({ prompts.forRide observation.rideId with pending := some prompt }, .offer prompt)

private theorem selectedFix_spec {observation : ChargingStopObservation} {fix : ChargingLocationFix}
    (selected : observation.selectedFix distance = some fix) :
    observation.location = some fix ∧ fix.isFresh observation.nowUnixSeconds = true ∧
      fix.horizontalAccuracyMeters ≤ 100 := by
  unfold ChargingStopObservation.selectedFix at selected
  obtain ⟨chosen, accurate⟩ := Option.filter_eq_some_iff.mp selected
  obtain ⟨candidate, located, fresh⟩ := Option.bind_eq_some_iff.mp chosen
  unfold selectChargingLocationFix at fresh
  split at fresh
  · cases fresh
  next usable =>
    cases fresh
    rw [Bool.or_eq_true, not_or, Bool.not_eq_true', Bool.not_eq_true', Bool.not_eq_false] at usable
    exact ⟨located, Bool.of_not_eq_false usable.2, of_decide_eq_true accurate⟩

theorem observes (distance : Distance) (prompts : ChargingStopPrompts) (observation : Option ChargingStopObservation)
    (canPresent : Bool) : Observes distance prompts observation canPresent (prompts.observe distance observation canPresent) := by
  cases observation with
  | none => exact .unassociated
  | some observation =>
    unfold observe
    dsimp only
    split
    · exact .suppressed .rideEnded
    next recording =>
      split
      next reason _ => exact .suppressed reason
      next charging =>
        split
        · exact .suppressed .locationUnavailable
        next fix selected =>
          cases canPresent with
          | false => exact .suppressed .presentationUnavailable
          | true =>
            simp only [Bool.not_true, Bool.false_eq_true, if_false]
            split
            next prompt pending => exact .repeated pending
            next idle =>
              split
              · have kept : ((prompts.forRide observation.rideId), .suppressed .nearbyPrompt) =
                    (prompts.forRide observation.rideId).suppress .nearbyPrompt := by
                  unfold suppress
                  rw [← idle]
                rw [kept]
                exact .suppressed .nearbyPrompt
              next clear =>
                obtain ⟨located, fresh, accurate⟩ := selectedFix_spec selected
                exact .offered ⟨rfl, by simpa using recording, charging, fix, located, fresh, accurate, rfl⟩
                  (Bool.eq_false_of_not_eq_true clear)

def standsAfter (current : Option ChargingStopPrompt) : ChargingStopReply → Option ChargingStopPrompt
  | .decision (.offer prompt) => some prompt
  | .decision (.suppressed _) | .dismissed => none
  | .presented _ => current

/-- The suggestion that stands after a history: the one last offered, unless a later decision
suppressed it or it was dismissed. -/
def standing (history : List ChargingStopStep) : Option ChargingStopPrompt :=
  history.foldl (fun current step => standsAfter current step.output) none

/-- A step that offered a place on an observation that justifies it. -/
def Offers (step : ChargingStopStep) (prompt : ChargingStopPrompt) : Prop :=
  ∃ observation, step.input = .observe (some observation) true ∧ Justifies observation prompt ∧
    step.output = .decision (.offer prompt)

def Shown (history : List ChargingStopStep) (prompt : ChargingStopPrompt) : Prop :=
  ∃ early offer late, history = early ++ offer :: late ∧ Offers offer prompt ∧
    ∃ acknowledgement ∈ late, acknowledgement.input = .presented prompt ∧ acknowledgement.output = .presented true

variable {history : List ChargingStopStep}

theorem Shown.extend {prompt : ChargingStopPrompt} (shown : Shown history prompt) (step : ChargingStopStep) :
    Shown (history ++ [step]) prompt := by
  obtain ⟨early, offer, late, rfl, offers, acknowledgement, member, said⟩ := shown
  refine ⟨early, offer, late ++ [step], by simp, offers, acknowledgement, ?_, said⟩
  exact List.mem_append_left _ member

theorem Shown.acknowledged {prompt : ChargingStopPrompt} {offer step : ChargingStopStep} (member : offer ∈ history)
    (offers : Offers offer prompt) (said : step.input = .presented prompt ∧ step.output = .presented true) :
    Shown (history ++ [step]) prompt := by
  obtain ⟨early, late, rfl⟩ := List.append_of_mem member
  refine ⟨early, offer, late ++ [step], by simp, offers, step, ?_, said⟩
  exact List.mem_append_right _ List.mem_cons_self

structure Orderly (distance : Distance) (history : List ChargingStopStep) (prompts : ChargingStopPrompts) : Prop where
  apart : prompts.locations.Pairwise fun first second => chargingStopPromptRadiusMillimetres < distance first second
  recorded : ∀ place ∈ prompts.locations, ∃ ride, prompts.rideId = some ride ∧ Shown history ⟨ride, place⟩
  stands : prompts.pending = standing history
  owned : ∀ prompt, prompts.pending = some prompt → prompts.rideId = some prompt.rideId
  clear : ∀ prompt, prompts.pending = some prompt → prompt.coordinate ∈ prompts.locations ∨
    ∀ previous ∈ prompts.locations, chargingStopPromptRadiusMillimetres < distance previous prompt.coordinate
  offered : ∀ prompt, prompts.pending = some prompt → ∃ offer ∈ history, Offers offer prompt

theorem Orderly.initial (distance : Distance) : Orderly distance [] {} := by
  refine ⟨List.Pairwise.nil, ?_, rfl, ?_, ?_, ?_⟩
  · intro place member
    cases member
  all_goals
    intro prompt pending
    cases pending

/-- The history an observation is judged against has only places of its own ride. -/
theorem Orderly.forRide (orderly : Orderly distance history prompts) (ride : RideUuid) :
    (prompts.forRide ride).rideId = some ride ∧
      ((prompts.forRide ride).locations.Pairwise fun first second =>
        chargingStopPromptRadiusMillimetres < distance first second) ∧
      (∀ place ∈ (prompts.forRide ride).locations, Shown history ⟨ride, place⟩) ∧
      ∀ prompt, (prompts.forRide ride).pending = some prompt →
        prompts.forRide ride = prompts ∧ prompts.pending = some prompt := by
  unfold ChargingStopPrompts.forRide
  split
  · refine ⟨rfl, List.Pairwise.nil, ?_, ?_⟩
    · intro place member
      cases member
    · intro prompt pending
      cases pending
  next same =>
    have current : prompts.rideId = some ride := Decidable.of_not_not same
    refine ⟨current, orderly.apart, ?_, fun prompt pending => ⟨rfl, pending⟩⟩
    intro place member
    obtain ⟨other, owner, shown⟩ := orderly.recorded place member
    rw [current] at owner
    cases owner
    exact shown

theorem standing_append (history : List ChargingStopStep) (step : ChargingStopStep) :
    standing (history ++ [step]) = standsAfter (standing history) step.output := by
  unfold standing
  rw [List.foldl_append]
  rfl

/-- Prompts with nothing pending are orderly when their places are. -/
theorem Orderly.quiet {step : ChargingStopStep}
    (apart : prompts.locations.Pairwise fun first second => chargingStopPromptRadiusMillimetres < distance first second)
    (recorded : ∀ place ∈ prompts.locations, ∃ ride, prompts.rideId = some ride ∧ Shown history ⟨ride, place⟩)
    (idle : prompts.pending = none) (silent : standing (history ++ [step]) = none) :
    Orderly distance (history ++ [step]) prompts := by
  refine ⟨apart, ?_, idle.trans silent.symm, ?_, ?_, ?_⟩
  · intro place member
    obtain ⟨ride, owner, shown⟩ := recorded place member
    exact ⟨ride, owner, shown.extend step⟩
  all_goals
    intro prompt pending
    rw [idle] at pending
    cases pending

theorem Orderly.observe (orderly : Orderly distance history prompts) (observation : Option ChargingStopObservation)
    (canPresent : Bool) :
    Orderly distance (history ++ [Runs.take (step distance) prompts (.observe observation canPresent)])
      (prompts.observe distance observation canPresent).1 := by
  have taken : Runs.take (step distance) prompts (.observe observation canPresent) =
      ⟨prompts, .observe observation canPresent, .decision (prompts.observe distance observation canPresent).2,
        (prompts.observe distance observation canPresent).1⟩ := rfl
  rw [taken]
  have done := observes distance prompts observation canPresent
  generalize prompts.observe distance observation canPresent = result at done ⊢
  cases done with
  | unassociated => exact .quiet orderly.apart orderly.recorded rfl (standing_append _ _)
  | @suppressed observation _ reason =>
    obtain ⟨owner, apart, recorded, -⟩ := orderly.forRide observation.rideId
    exact .quiet apart (fun place member => ⟨_, owner, recorded place member⟩) rfl (standing_append _ _)
  | @repeated observation prompt pending =>
    obtain ⟨same, held⟩ := (orderly.forRide observation.rideId).2.2.2 prompt pending
    rw [same]
    refine ⟨orderly.apart, ?_, ?_, orderly.owned, orderly.clear, ?_⟩
    · intro place member
      obtain ⟨ride, owner, shown⟩ := orderly.recorded place member
      exact ⟨ride, owner, shown.extend _⟩
    · rw [standing_append]
      exact held
    · intro other waiting
      obtain ⟨offer, member, offers⟩ := orderly.offered other waiting
      exact ⟨offer, List.mem_append_left _ member, offers⟩
  | @offered observation prompt justified clear =>
    obtain ⟨owner, apart, recorded, -⟩ := orderly.forRide observation.rideId
    refine ⟨apart, ?_, ?_, ?_, ?_, ?_⟩
    · intro place member
      exact ⟨_, owner, (recorded place member).extend _⟩
    · rw [standing_append]
      rfl
    · intro other pending
      cases pending
      exact owner.trans (congrArg some justified.ride)
    · intro other pending
      cases pending
      refine .inr ?_
      intro previous member
      apply Nat.lt_of_not_le
      intro near
      have found : (prompts.forRide observation.rideId).nearby distance prompt.coordinate = true :=
        List.any_eq_true.mpr ⟨previous, member, decide_eq_true near⟩
      rw [clear] at found
      cases found
    · intro other pending
      cases pending
      exact ⟨_, List.mem_append_right _ List.mem_cons_self, observation, rfl, justified, rfl⟩

theorem Orderly.presented (orderly : Orderly distance history prompts) (prompt : ChargingStopPrompt) :
    Orderly distance (history ++ [Runs.take (step distance) prompts (.presented prompt)]) (prompts.presented prompt).1 := by
  have taken : Runs.take (step distance) prompts (.presented prompt) =
      ⟨prompts, .presented prompt, .presented (prompts.presented prompt).2, (prompts.presented prompt).1⟩ := rfl
  have kept : ∀ step : ChargingStopStep, step.output = .presented (prompts.presented prompt).2 →
      Orderly distance (history ++ [step]) prompts := by
    intro step said
    refine ⟨orderly.apart, ?_, ?_, orderly.owned, orderly.clear, ?_⟩
    · intro place member
      obtain ⟨ride, owner, shown⟩ := orderly.recorded place member
      exact ⟨ride, owner, shown.extend step⟩
    · rw [standing_append, said]
      exact orderly.stands
    · intro other pending
      obtain ⟨offer, member, offers⟩ := orderly.offered other pending
      exact ⟨offer, List.mem_append_left _ member, offers⟩
  have same := kept ⟨prompts, .presented prompt, .presented (prompts.presented prompt).2, (prompts.presented prompt).1⟩ rfl
  rw [taken]
  clear taken kept
  unfold ChargingStopPrompts.presented at same ⊢
  by_cases current : prompts.pending = some prompt
  · rw [if_neg (not_not_intro current)] at same ⊢
    by_cases known : prompt.coordinate ∈ prompts.locations
    · rw [if_pos known] at same ⊢
      exact same
    · rw [if_neg known] at same ⊢
      have far : ∀ previous ∈ prompts.locations,
          chargingStopPromptRadiusMillimetres < distance previous prompt.coordinate :=
        (orderly.clear prompt current).resolve_left known
      refine ⟨?_, ?_, same.stands, same.owned, ?_, same.offered⟩
      · refine List.pairwise_append.mpr ⟨orderly.apart, List.pairwise_singleton _ _, ?_⟩
        intro previous member place added
        rw [List.mem_singleton.mp added]
        exact far previous member
      · intro place member
        rcases List.mem_append.mp member with earlier | added
        · exact same.recorded place earlier
        · obtain ⟨offer, held, offers⟩ := orderly.offered prompt current
          rw [List.mem_singleton.mp added]
          exact ⟨prompt.rideId, orderly.owned prompt current, .acknowledged held offers ⟨rfl, rfl⟩⟩
      · intro other pending
        have identical : other = prompt := Option.some.inj (pending.symm.trans current)
        exact .inl (identical ▸ List.mem_append_right _ List.mem_cons_self)
  · rw [if_pos current] at same ⊢
    exact same

theorem Orderly.step (orderly : Orderly distance history prompts) (call : ChargingStopCall) :
    Orderly distance (history ++ [Runs.take (ChargingStopPrompts.step distance) prompts call])
      (prompts.step distance call).1 := by
  cases call with
  | observe observation canPresent => exact orderly.observe observation canPresent
  | presented prompt => exact orderly.presented prompt
  | dismiss => exact .quiet orderly.apart orderly.recorded rfl (standing_append _ _)

private theorem orderly_run (distance : Distance) (calls : List ChargingStopCall) :
    Orderly distance (Runs.history (step distance) {} calls) (Runs.final (step distance) {} calls) :=
  Runs.induction_on (.initial distance) (fun _ _ call orderly => orderly.step call) calls

/-- Suggestions never nag. In any run the places recorded for the current ride are pairwise farther
apart than the prompt radius, and each was shown after an offer that an observation of that ride
justified. An acknowledgement counts only for the suggestion that stands, which belongs to the
current ride; any other is refused and changes nothing. The first observation of another ride
starts an empty history. -/
theorem charging_stop_prompts_never_nag (distance : Distance)
    (symmetric : ∀ first second, distance first second = distance second first) (calls : List ChargingStopCall) :
    let history := Runs.history (step distance) {} calls
    let prompts := Runs.final (step distance) {} calls
    (prompts.locations.Pairwise fun first second =>
      chargingStopPromptRadiusMillimetres < distance first second ∧
        chargingStopPromptRadiusMillimetres < distance second first) ∧
    (∀ place ∈ prompts.locations, ∃ ride, prompts.rideId = some ride ∧ Shown history ⟨ride, place⟩) ∧
    (∀ prompt, standing history ≠ some prompt → prompts.presented prompt = (prompts, false)) ∧
    (∀ prompt, prompts.rideId ≠ some prompt.rideId → prompts.presented prompt = (prompts, false)) ∧
    (∀ observation canPresent, prompts.rideId ≠ some observation.rideId →
      (prompts.observe distance (some observation) canPresent).1.locations = [] ∧
        (prompts.observe distance (some observation) canPresent).1.rideId = some observation.rideId) := by
  intro history prompts
  have orderly : Orderly distance history prompts := orderly_run distance calls
  have refused : ∀ prompt, prompts.pending ≠ some prompt → prompts.presented prompt = (prompts, false) := by
    intro prompt other
    unfold ChargingStopPrompts.presented
    rw [if_pos other]
  refine ⟨?_, orderly.recorded, ?_, ?_, ?_⟩
  · apply orderly.apart.imp
    intro first second far
    exact ⟨far, symmetric first second ▸ far⟩
  · intro prompt superseded
    exact refused prompt (orderly.stands.symm ▸ superseded)
  · intro prompt foreign
    exact refused prompt fun pending => foreign (orderly.owned prompt pending)
  · intro observation canPresent other
    have fresh : prompts.forRide observation.rideId = restored observation.rideId [] := if_pos other
    have done := observes distance prompts (some observation) canPresent
    generalize prompts.observe distance (some observation) canPresent = result at done ⊢
    cases done with
    | suppressed | repeated | offered =>
      rw [fresh]
      exact ⟨rfl, rfl⟩

/-- A charging stop shown and dismissed, and an acknowledgement of it that arrives once more. -/
def shownOnce : List ChargingStopCall :=
  let here : ChargingStopPrompt := ⟨1, ⟨0, 0⟩⟩
  let charging : ChargingStopObservation :=
    { rideId := 1
      lifecycle := .active
      evidence := .phoneExternalPower
      now := ⟨10000, by decide⟩
      location := some ⟨⟨0, 0⟩, 1000, 5, by norm_num⟩
      nowUnixSeconds := .finite 1000 }
  [.observe (some charging) true, .presented here, .dismiss, .presented here]

def sparse : Distance := fun first second => if first = second then 0 else 2000000

theorem sparse_symmetric (first second : Coordinate) : sparse first second = sparse second first := by
  simp only [sparse, eq_comm]

theorem charging_stop_prompts_never_nag_shown_once :
    (∀ first second, sparse first second = sparse second first) ∧
    (Runs.final (step sparse) {} shownOnce).locations = [⟨0, 0⟩] ∧
    ∀ place ∈ (Runs.final (step sparse) {} shownOnce).locations,
      ∃ ride, (Runs.final (step sparse) {} shownOnce).rideId = some ride ∧
        Shown (Runs.history (step sparse) {} shownOnce) ⟨ride, place⟩ :=
  ⟨sparse_symmetric, by decide +kernel, (charging_stop_prompts_never_nag sparse sparse_symmetric shownOnce).2.1⟩

end ChargingStopPrompts

end Cutout.Rides

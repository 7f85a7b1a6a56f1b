/-! Reading item by item. A reader is a state and a call that gives the next item, or
nothing at its end; what a loop over the reader sees is the list of its items. -/

universe u v

namespace Cutout.Library
variable {σ α : Type u} {ε : Type v} {next : σ → Except ε (Option α × σ)}

variable (next) in
/-- Read to its end without a failure, the reader gives these items. -/
inductive Reads : σ → List α → Prop where
  | done {state last} : next state = .ok (none, last) → Reads state []
  | more {state item rest items} : next state = .ok (some item, rest) → Reads rest items → Reads state (item :: items)

namespace Reads

/-- Reading on is one call and reading on. -/
theorem step_iff {state : σ} {items : List α} : Reads next state items ↔
    (∃ last, next state = .ok (none, last)) ∧ items = [] ∨
      ∃ item rest later, next state = .ok (some item, rest) ∧ Reads next rest later ∧ items = item :: later := by
  constructor
  · intro reads
    cases reads with
    | done ended => exact .inl ⟨⟨_, ended⟩, rfl⟩
    | more given onward => exact .inr ⟨_, _, _, given, onward, rfl⟩
  · rintro (⟨⟨last, ended⟩, rfl⟩ | ⟨item, rest, later, given, onward, rfl⟩)
    · exact .done ended
    · exact .more given onward

theorem of_next {state later : σ} {items : List α} (same : next state = next later) :
    Reads next state items ↔ Reads next later items := by
  rw [step_iff, step_iff, same]

theorem after {state : σ} {step : Except ε σ} (moves : next state = step >>= next) {items : List α} :
    Reads next state items ↔ ∃ middle, step = .ok middle ∧ Reads next middle items := by
  cases step with
  | error error =>
    refine iff_of_false (fun reads => ?_) ?_
    · rcases step_iff.mp reads with ⟨⟨_, ended⟩, -⟩ | ⟨_, _, _, given, -⟩
      · rw [moves] at ended
        cases ended
      · rw [moves] at given
        cases given
    · rintro ⟨_, never, -⟩
      cases never
  | ok middle =>
    have same : next state = next middle := moves
    rw [of_next same]
    constructor
    · exact fun reads => ⟨middle, rfl, reads⟩
    · rintro ⟨_, found, reads⟩
      cases found
      exact reads

end Reads

end Cutout.Library

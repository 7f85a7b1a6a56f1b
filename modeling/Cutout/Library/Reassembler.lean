import Mathlib.Data.List.Basic

/-! Symbol-wise reassemblers fed by deliveries. A reassembler takes one symbol at
a time and starts over after a rejected one; a delivery abandons the symbols
behind its first rejected one. The cut into deliveries is therefore visible in
the values exactly when a value is hidden behind a rejection. -/

universe u v w x

namespace Cutout.Library

inductive Feed (β : Type v) (ε : Type w) where
  | quiet
  | complete (value : β)
  | reject (error : ε)
  deriving Repr, DecidableEq

structure Reassembler (σ : Type x) (α : Type u) (β : Type v) (ε : Type w) where
  initial : σ
  feed : σ → α → σ × Feed β ε
  reject_initial : ∀ {state symbol next error}, feed state symbol = (next, .reject error) → next = initial

namespace Reassembler
variable {σ : Type x} {α : Type u} {β : Type v} {ε : Type w} (machine : Reassembler σ α β ε)
variable {state : σ} {front input : List α}

/-- One delivery, up to its first rejected symbol. -/
def deliver : σ → List α → σ × List β
  | state, [] => (state, [])
  | state, symbol :: later =>
    match machine.feed state symbol with
    | (next, .quiet) => deliver next later
    | (next, .complete value) => ((deliver next later).1, value :: (deliver next later).2)
    | (next, .reject _) => (next, [])

def deliverAll : σ → List (List α) → σ × List β
  | state, [] => (state, [])
  | state, input :: later =>
    let (next, values) := machine.deliver state input
    let (final, more) := deliverAll next later
    (final, values ++ more)

/-- The state after every symbol, rejected ones included. -/
def follow (state : σ) (input : List α) : σ := input.foldl (fun state symbol => (machine.feed state symbol).1) state

/-- No symbol of the input is rejected. -/
def Clean : σ → List α → Prop
  | _, [] => True
  | state, symbol :: later =>
    (∀ error, (machine.feed state symbol).2 ≠ .reject error) ∧ Clean (machine.feed state symbol).1 later

/-- Fed symbol by symbol from the initial state, the last symbol is rejected. -/
def Rejects (front : List α) : Prop :=
  ∃ body last error, front = body ++ [last] ∧ (machine.feed (machine.follow machine.initial body) last).2 = .reject error

variable {machine}

theorem clean_append {back : List α} :
    machine.Clean state (front ++ back) ↔ machine.Clean state front ∧ machine.Clean (machine.follow state front) back := by
  induction front generalizing state with
  | nil => simp [Clean, follow]
  | cons symbol front ih =>
    simp only [List.cons_append, Clean, ih, and_assoc]
    rfl

theorem deliver_append (clean : machine.Clean state front) (back : List α) :
    machine.deliver state (front ++ back) = ((machine.deliver (machine.follow state front) back).1,
      (machine.deliver state front).2 ++ (machine.deliver (machine.follow state front) back).2) := by
  induction front generalizing state with
  | nil => simp [deliver, follow]
  | cons symbol front ih =>
    obtain ⟨kept, later⟩ := clean
    cases outcome : machine.feed state symbol with
    | mk next result =>
      rw [outcome] at kept later
      have rest := ih later
      cases result with
      | quiet => simpa [deliver, outcome, follow] using rest
      | complete value =>
        simp only [List.cons_append, deliver, outcome, rest, follow, List.foldl_cons]
      | reject error => exact absurd rfl (kept error)

theorem deliver_clean (clean : machine.Clean state input) :
    (machine.deliver state input).1 = machine.follow state input := by
  have whole := deliver_append clean []
  rw [List.append_nil] at whole
  rw [whole]
  rfl

theorem deliver_stops (stops : ¬machine.Clean state front) (back : List α) :
    machine.deliver state (front ++ back) = (machine.initial, (machine.deliver state front).2) := by
  induction front generalizing state with
  | nil => exact absurd trivial stops
  | cons symbol front ih =>
    simp only [Clean, not_and] at stops
    cases outcome : machine.feed state symbol with
    | mk next result =>
      rw [outcome] at stops
      cases result with
      | quiet => simpa [deliver, outcome] using ih (stops (by simp))
      | complete value => simp [deliver, outcome, ih (stops (by simp))]
      | reject error => simp [deliver, outcome, machine.reject_initial outcome]

theorem first_rejection (stops : ¬machine.Clean state input) :
    ∃ body last back error, input = body ++ last :: back ∧ machine.Clean state body ∧
      (machine.feed (machine.follow state body) last).2 = .reject error := by
  induction input generalizing state with
  | nil => exact absurd trivial stops
  | cons symbol input ih =>
    by_cases rejected : ∃ error, (machine.feed state symbol).2 = .reject error
    · obtain ⟨error, rejected⟩ := rejected
      exact ⟨[], symbol, input, error, rfl, trivial, rejected⟩
    · simp only [not_exists] at rejected
      have later : ¬machine.Clean (machine.feed state symbol).1 input := fun clean => stops ⟨rejected, clean⟩
      obtain ⟨body, last, back, error, rfl, clean, found⟩ := ih later
      exact ⟨symbol :: body, last, back, error, rfl, ⟨rejected, clean⟩, found⟩

theorem Rejects.not_clean (rejects : machine.Rejects front) : ¬machine.Clean machine.initial front := by
  obtain ⟨body, last, error, rfl, rejected⟩ := rejects
  intro clean
  exact (clean_append.mp clean).2.1 error rejected

/-- Nothing comes out of any delivery that begins inside the input. -/
def Barren (machine : Reassembler σ α β ε) (input : List α) : Prop :=
  ∀ noise tail, input = noise ++ tail → (machine.deliver machine.initial tail).2 = []

theorem Barren.suffix (noise : List α) (barren : machine.Barren (noise ++ input)) : machine.Barren input := by
  intro more tail split
  exact barren (noise ++ more) tail (by rw [split, List.append_assoc])

/-- Deliveries inside barren input stay empty: each continues one that began in the initial state. -/
theorem Barren.deliverAll (body : List α) (pieces : List (List α)) (clean : machine.Clean machine.initial body)
    (barren : machine.Barren (body ++ pieces.flatten)) :
    (machine.deliverAll (machine.follow machine.initial body) pieces).2 = [] := by
  induction pieces generalizing body with
  | nil => rfl
  | cons piece pieces ih =>
    have empty : (machine.deliver machine.initial (body ++ (piece ++ pieces.flatten))).2 = [] := barren [] _ rfl
    rw [deliver_append clean, List.append_eq_nil_iff] at empty
    simp only [Reassembler.deliverAll]
    by_cases survives : machine.Clean (machine.follow machine.initial body) piece
    · rw [deliver_append survives, List.append_eq_nil_iff] at empty
      have joined : machine.Clean machine.initial (body ++ piece) := clean_append.mpr ⟨clean, survives⟩
      have later := ih _ joined (by simpa using barren)
      rw [follow, List.foldl_append] at later
      rw [deliver_clean survives, empty.2.1, List.nil_append]
      exact later
    · rw [deliver_stops survives] at empty
      have rest : machine.Barren ([] ++ pieces.flatten) := by
        apply Barren.suffix (body ++ piece)
        simpa using barren
      have stopped := deliver_stops survives []
      rw [List.append_nil] at stopped
      have quiet : (machine.deliver (machine.follow machine.initial body) piece).2 = [] := empty.2
      rw [stopped, quiet]
      exact ih [] trivial rest

/-- No value lies behind a rejected symbol. -/
def HidesNothing (machine : Reassembler σ α β ε) (input : List α) : Prop :=
  ∀ front rest, input = front ++ rest → machine.Rejects front → machine.Barren rest

theorem HidesNothing.deliverAll (body : List α) (pieces : List (List α)) (clean : machine.Clean machine.initial body)
    (hides : machine.HidesNothing (body ++ pieces.flatten)) :
    (machine.deliverAll (machine.follow machine.initial body) pieces).2 =
      (machine.deliver (machine.follow machine.initial body) pieces.flatten).2 := by
  induction pieces generalizing body with
  | nil => rfl
  | cons piece pieces ih =>
    simp only [Reassembler.deliverAll, List.flatten_cons]
    by_cases survives : machine.Clean (machine.follow machine.initial body) piece
    · have joined : machine.Clean machine.initial (body ++ piece) := clean_append.mpr ⟨clean, survives⟩
      have later := ih _ joined (by simpa using hides)
      rw [follow, List.foldl_append] at later
      rw [deliver_append survives, deliver_clean survives]
      exact congrArg (_ ++ ·) later
    · -- The rejection lies in this piece; the rest of the input is barren.
      obtain ⟨before, last, back, error, split, kept, rejected⟩ := first_rejection survives
      have barren : machine.Barren (back ++ pieces.flatten) := by
        apply hides (body ++ before ++ [last])
        · simp [split]
        · refine ⟨body ++ before, last, error, rfl, ?_⟩
          rw [follow, List.foldl_append]
          exact rejected
      have stopped := deliver_stops survives []
      rw [List.append_nil] at stopped
      have empty := Barren.deliverAll [] pieces trivial (barren.suffix back)
      rw [deliver_stops survives, stopped]
      simpa [follow] using empty

/-- Every cut of the input gives the same values exactly when it hides nothing behind a rejection. -/
theorem deliverAll_agree_iff (input : List α) :
    (∀ first second : List (List α), first.flatten = input → second.flatten = input →
      (machine.deliverAll machine.initial first).2 = (machine.deliverAll machine.initial second).2) ↔
      machine.HidesNothing input := by
  constructor
  · intro agree front rest split rejects noise tail cut
    have stops := rejects.not_clean
    have whole := agree [front ++ noise, tail] [input] (by simp [split, cut]) (by simp)
    rw [split, cut] at whole
    simpa [deliverAll, deliver_stops stops] using whole
  · intro hides first second one two
    have left := HidesNothing.deliverAll [] first trivial (by simpa [one] using hides)
    have right := HidesNothing.deliverAll [] second trivial (by simpa [two] using hides)
    rw [one] at left
    rw [two] at right
    exact left.trans right.symm

/-- A reassembler that holds the symbols fed last and completes exactly the well-formed words: a completed
window is well formed, and a well-formed word fed from the initial state yields a value. -/
structure Windowed (machine : Reassembler σ α β ε) (WellFormed : List α → Prop) where
  held : σ → List α
  Tracks : σ → Prop
  initial_held : held machine.initial = []
  initial_tracks : Tracks machine.initial
  quiet : ∀ {state symbol next}, Tracks state → machine.feed state symbol = (next, .quiet) →
    Tracks next ∧ held next <:+ held state ++ [symbol]
  complete : ∀ {state symbol next value}, Tracks state → machine.feed state symbol = (next, .complete value) →
    WellFormed (held state ++ [symbol])
  whole : ∀ {word} (later : List α), WellFormed word → (machine.deliver machine.initial (word ++ later)).2 ≠ []

variable {WellFormed : List α → Prop}

/-- The first value of a delivery is a well-formed word of what was fed. -/
theorem Windowed.word_of_value (window : machine.Windowed WellFormed) (tracks : window.Tracks state) {fed : List α}
    (last : window.held state <:+ fed) (input : List α) (value : (machine.deliver state input).2 ≠ []) :
    ∃ noise word tail, fed ++ input = noise ++ word ++ tail ∧ WellFormed word := by
  induction input generalizing state fed with
  | nil => exact absurd rfl value
  | cons symbol input ih =>
    have extended : window.held state ++ [symbol] <:+ fed ++ [symbol] := by
      obtain ⟨before, rfl⟩ := last
      exact ⟨before, by simp⟩
    cases outcome : machine.feed state symbol with
    | mk next result =>
      cases result with
      | quiet =>
        obtain ⟨tracks', last'⟩ := window.quiet tracks outcome
        rw [deliver, outcome] at value
        obtain ⟨noise, word, tail, split, valid⟩ := ih tracks' (last'.trans extended) value
        exact ⟨noise, word, tail, by simpa using split, valid⟩
      | complete found =>
        obtain ⟨noise, split⟩ := extended
        exact ⟨noise, _, input, by rw [split]; simp, window.complete tracks outcome⟩
      | reject error =>
        rw [deliver, outcome] at value
        exact absurd rfl value

theorem Windowed.barren_iff (window : machine.Windowed WellFormed) (input : List α) :
    machine.Barren input ↔ ∀ noise word tail, input = noise ++ word ++ tail → ¬WellFormed word := by
  constructor
  · intro barren noise word tail split valid
    exact window.whole tail valid (barren noise (word ++ tail) (by rw [split, List.append_assoc]))
  · intro absent noise tail split
    by_contra value
    have start : window.held machine.initial <:+ [] := by simp [window.initial_held]
    obtain ⟨more, word, rest, inside, valid⟩ :=
      window.word_of_value window.initial_tracks start tail value
    refine absent (noise ++ more) word rest ?_ valid
    rw [split, ← List.nil_append tail, inside]
    simp

/-- Cuts are invisible exactly when no well-formed word lies behind a rejected symbol. -/
theorem Windowed.deliverAll_agree_iff (window : machine.Windowed WellFormed) (input : List α) :
    (∀ first second : List (List α), first.flatten = input → second.flatten = input →
      (machine.deliverAll machine.initial first).2 = (machine.deliverAll machine.initial second).2) ↔
      ∀ front noise word tail, input = front ++ noise ++ word ++ tail → machine.Rejects front → ¬WellFormed word := by
  rw [Reassembler.deliverAll_agree_iff]
  constructor
  · intro hides front noise word tail split rejects
    have barren := hides front (noise ++ word ++ tail) (by simp [split]) rejects
    exact (window.barren_iff _).mp barren noise word tail rfl
  · intro absent front rest split rejects
    refine (window.barren_iff rest).mpr ?_
    intro noise word tail inside
    exact absent front noise word tail (by simp [split, inside]) rejects

end Reassembler

end Cutout.Library

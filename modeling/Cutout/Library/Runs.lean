import Mathlib.Data.List.Basic
import Mathlib.Data.List.Induction

/-! Runs of deterministic step functions. A run is described by its final state
and by the list of its steps, each with the states on both sides; a property of
state and history together is proved by the last step. -/

universe u v w

namespace Cutout.Library

structure Step (σ : Type u) (ι : Type v) (ο : Type w) where
  before : σ
  input : ι
  output : ο
  after : σ

theorem exists_last {α : Type u} (P : α → Prop) (items : List α) :
    (∀ item ∈ items, ¬P item) ∨ ∃ early item late, items = early ++ item :: late ∧ P item ∧ ∀ other ∈ late, ¬P other := by
  induction items with
  | nil => exact .inl fun _ member => absurd member List.not_mem_nil
  | cons first items ih =>
    rcases ih with none | ⟨early, item, late, rfl, found, others⟩
    · by_cases here : P first
      · exact .inr ⟨[], first, items, rfl, here, none⟩
      · refine .inl ?_
        intro item member
        rcases List.mem_cons.mp member with rfl | there
        · exact here
        · exact none item there
    · exact .inr ⟨first :: early, item, late, rfl, found, others⟩

theorem snoc_split {α : Type u} {items early later : List α} {final item : α}
    (split : items ++ [final] = early ++ item :: later) :
    (items = early ∧ final = item ∧ later = []) ∨ ∃ front, later = front ++ [final] ∧ items = early ++ item :: front := by
  rcases List.eq_nil_or_concat later with rfl | ⟨front, last, rfl⟩
  · obtain ⟨same, ends⟩ := List.append_inj' split rfl
    cases ends
    exact .inl ⟨same, rfl, rfl⟩
  · rw [List.concat_eq_append, ← List.cons_append, ← List.append_assoc] at split
    obtain ⟨same, ends⟩ := List.append_inj' split rfl
    cases ends
    exact .inr ⟨front, List.concat_eq_append, same⟩

/-- Something marked happened, and since then only calm things. -/
def Since {α : Type u} (calm mark : α → Prop) (past : List α) : Prop :=
  ∃ earlier item later, past = earlier ++ item :: later ∧ mark item ∧ ∀ other ∈ later, calm other

section Since
variable {α : Type u} {calm mark other : α → Prop} {past : List α} {item : α}

theorem Since.now (marked : mark item) : Since calm mark (past ++ [item]) :=
  ⟨past, item, [], rfl, marked, fun _ member => absurd member List.not_mem_nil⟩

theorem Since.later (since : Since calm mark past) (quiet : calm item) : Since calm mark (past ++ [item]) := by
  obtain ⟨earlier, marked, later, rfl, shown, calmly⟩ := since
  refine ⟨earlier, marked, later ++ [item], by rw [List.append_assoc, List.cons_append], shown, ?_⟩
  intro next member
  rcases List.mem_append.mp member with before | last
  · exact calmly next before
  · rw [List.mem_singleton.mp last]
    exact quiet

end Since

namespace Runs
variable {σ : Type u} {ι : Type v} {ο : Type w} (step : σ → ι → σ × ο)
variable {state : σ} {inputs : List ι} {P : σ → Prop}

def take (state : σ) (input : ι) : Step σ ι ο := ⟨state, input, (step state input).2, (step state input).1⟩

def final : σ → List ι → σ
  | state, [] => state
  | state, input :: later => final (step state input).1 later

def history : σ → List ι → List (Step σ ι ο)
  | _, [] => []
  | state, input :: later => take step state input :: history (step state input).1 later

theorem final_append (state : σ) (first second : List ι) :
    final step state (first ++ second) = final step (final step state first) second := by
  induction first generalizing state with
  | nil => rfl
  | cons input first ih => exact ih _

theorem history_append (state : σ) (first second : List ι) :
    history step state (first ++ second) = history step state first ++ history step (final step state first) second := by
  induction first generalizing state with
  | nil => rfl
  | cons input first ih =>
    simp only [List.cons_append, history, final, ih]

theorem history_snoc (state : σ) (inputs : List ι) (input : ι) :
    history step state (inputs ++ [input]) = history step state inputs ++ [take step (final step state inputs) input] :=
  history_append step state inputs [input]

theorem history_inputs (state : σ) (inputs : List ι) : (history step state inputs).map Step.input = inputs := by
  induction inputs generalizing state with
  | nil => rfl
  | cons input inputs ih =>
    simp only [history, List.map_cons, ih]
    rfl

variable {step}

theorem induction_on {P : List (Step σ ι ο) → σ → Prop} {start : σ} (initial : P [] start)
    (extend : ∀ past state input, P past state → P (past ++ [take step state input]) (step state input).1)
    (inputs : List ι) : P (history step start inputs) (final step start inputs) := by
  induction inputs using List.reverseRecOn with
  | nil => exact initial
  | append_singleton inputs input ih =>
    rw [history_snoc, final_append]
    exact extend _ _ _ ih

/-- An inductive property of states holds at the end of every run. -/
theorem invariant (kept : ∀ state input, P state → P (step state input).1) (initial : P state) (inputs : List ι) :
    P (final step state inputs) :=
  induction_on (P := fun _ state => P state) initial (fun _ state input => kept state input) inputs

theorem history_split {past later : List (Step σ ι ο)} {here : Step σ ι ο}
    (split : history step state inputs = past ++ here :: later) :
    ∃ first last, inputs = first ++ here.input :: last ∧ past = history step state first ∧
      here = take step (final step state first) here.input ∧ later = history step here.after last := by
  induction inputs generalizing state past with
  | nil => simp [history] at split
  | cons input inputs ih =>
    cases past with
    | nil =>
      simp only [history, List.nil_append, List.cons.injEq] at split
      obtain ⟨rfl, rfl⟩ := split
      exact ⟨[], inputs, rfl, rfl, rfl, rfl⟩
    | cons first past =>
      simp only [history, List.cons_append, List.cons.injEq] at split
      obtain ⟨rfl, split⟩ := split
      obtain ⟨before, last, rfl, rfl, same, tail⟩ := ih split
      exact ⟨input :: before, last, rfl, rfl, same, tail⟩

theorem history_cut {past later : List (Step σ ι ο)} (split : history step state inputs = past ++ later) :
    ∃ first last, inputs = first ++ last ∧ past = history step state first ∧
      later = history step (final step state first) last := by
  induction past generalizing state inputs with
  | nil => exact ⟨[], inputs, rfl, rfl, split.symm⟩
  | cons here past ih =>
    cases inputs with
    | nil => simp [history] at split
    | cons input inputs =>
      simp only [history, List.cons_append, List.cons.injEq] at split
      obtain ⟨rfl, split⟩ := split
      obtain ⟨first, last, rfl, rfl, rest⟩ := ih split
      exact ⟨input :: first, last, rfl, rfl, rest⟩

theorem before_of_mem (kept : ∀ state input, P state → P (step state input).1) (initial : P state) {here : Step σ ι ο}
    (member : here ∈ history step state inputs) : P here.before ∧ here = take step here.before here.input := by
  obtain ⟨past, later, split⟩ := List.append_of_mem member
  obtain ⟨first, last, -, -, same, -⟩ := history_split split
  rw [same]
  exact ⟨invariant kept initial first, rfl⟩

/-- Identities drawn from a counter that every step keeps or raises come in increasing order. -/
theorem issued_increasing (kept : ∀ state input, P state → P (step state input).1) {start : σ} (initial : P start)
    (counter : σ → Nat) (issued : Step σ ι ο → Option Nat) (counts : ∀ state input, P state →
      (issued (take step state input) = none ∧ counter state ≤ counter (step state input).1) ∨
      ∃ id, issued (take step state input) = some id ∧ counter state < id ∧ counter (step state input).1 = id)
    (inputs : List ι) : ((history step start inputs).filterMap issued).Pairwise (· < ·) ∧
      ∀ id ∈ (history step start inputs).filterMap issued, id ≤ counter (final step start inputs) := by
  refine (induction_on (P := fun past state => P state ∧ (past.filterMap issued).Pairwise (· < ·) ∧
    ∀ id ∈ past.filterMap issued, id ≤ counter state) ⟨initial, List.Pairwise.nil, nofun⟩ ?_ inputs).2
  intro past state input ⟨holds, ascending, below⟩
  refine ⟨kept state input holds, ?_⟩
  rw [List.filterMap_append]
  rcases counts state input holds with ⟨silent, raised⟩ | ⟨id, said, above, reached⟩
  · rw [List.filterMap_cons_none silent, List.filterMap_nil, List.append_nil]
    exact ⟨ascending, fun id member => Nat.le_trans (below id member) raised⟩
  · rw [List.filterMap_cons_some said, List.filterMap_nil, reached]
    refine ⟨List.pairwise_append.mpr ⟨ascending, List.pairwise_singleton _ _, ?_⟩, ?_⟩
    · intro earlier member later last
      rw [List.mem_singleton.mp last]
      exact Nat.lt_of_le_of_lt (below earlier member) above
    · intro earlier member
      rcases List.mem_append.mp member with before | last
      · exact Nat.le_of_lt (Nat.lt_of_le_of_lt (below earlier before) above)
      · exact Nat.le_of_eq (List.mem_singleton.mp last)

end Runs

end Cutout.Library

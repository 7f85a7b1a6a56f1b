import Mathlib.Data.Set.Basic

/-! What evidence for one of several alternatives comes to. Nothing was seen, one
alternative alone was seen, or different ones were; sums of evidence depend on what was
seen and not on its order. -/

universe u

namespace Cutout.Library

inductive Finding (α : Type u) where
  | unknown
  | single (alternative : α)
  | conflict
  deriving Repr, DecidableEq

namespace Finding
variable {α : Type u} {first second : Finding α} {seen later : Set α}

def Sums : Finding α → Set α → Prop
  | unknown, seen => ∀ alternative, alternative ∉ seen
  | single alternative, seen => alternative ∈ seen ∧ ∀ other ∈ seen, other = alternative
  | conflict, seen => ∃ one ∈ seen, ∃ two ∈ seen, one ≠ two

theorem Sums.unique (sums : first.Sums seen) (also : second.Sums seen) : first = second := by
  cases first with
  | unknown =>
    cases second with
    | unknown => rfl
    | single alternative => exact absurd also.1 (sums alternative)
    | conflict =>
      obtain ⟨one, member, -⟩ := also
      exact absurd member (sums one)
  | single alternative =>
    cases second with
    | unknown => exact absurd sums.1 (also alternative)
    | single other => exact congrArg single (also.2 alternative sums.1)
    | conflict =>
      obtain ⟨one, member, two, there, apart⟩ := also
      exact absurd ((sums.2 one member).trans (sums.2 two there).symm) apart
  | conflict =>
    obtain ⟨one, member, two, there, apart⟩ := sums
    cases second with
    | unknown => exact absurd member (also one)
    | single other => exact absurd ((also.2 one member).trans (also.2 two there).symm) apart
    | conflict => rfl

theorem Sums.conflict_mono (sums : (conflict : Finding α).Sums seen) (more : seen ⊆ later) :
    (conflict : Finding α).Sums later := by
  obtain ⟨one, member, two, there, apart⟩ := sums
  exact ⟨one, more member, two, more there, apart⟩

variable [DecidableEq α]

def merge : Finding α → Finding α → Finding α
  | conflict, _ => conflict
  | _, conflict => conflict
  | current, unknown => current
  | unknown, observed => observed
  | single current, single observed => if current = observed then single current else conflict

theorem unknown_merge (finding : Finding α) : merge unknown finding = finding := by cases finding <;> rfl

theorem merge_unknown (finding : Finding α) : merge finding unknown = finding := by cases finding <;> rfl

theorem Sums.merge (sums : first.Sums seen) (also : second.Sums later) : (first.merge second).Sums (seen ∪ later) := by
  cases first with
  | conflict =>
    have merged : Finding.merge conflict second = conflict := by cases second <;> rfl
    rw [merged]
    exact sums.conflict_mono Set.subset_union_left
  | unknown =>
    have none : seen = ∅ := Set.eq_empty_iff_forall_notMem.mpr sums
    rw [unknown_merge, none, Set.empty_union]
    exact also
  | single alternative =>
    cases second with
    | conflict => exact also.conflict_mono Set.subset_union_right
    | unknown =>
      have none : later = ∅ := Set.eq_empty_iff_forall_notMem.mpr also
      rw [merge_unknown, none, Set.union_empty]
      exact sums
    | single observed =>
      by_cases same : alternative = observed
      · subst same
        have merged : Finding.merge (single alternative) (single alternative) = single alternative := if_pos rfl
        rw [merged]
        refine ⟨.inl sums.1, ?_⟩
        intro other member
        rcases member with before | after
        · exact sums.2 other before
        · exact also.2 other after
      · have merged : Finding.merge (single alternative) (single observed) = conflict := if_neg same
        rw [merged]
        exact ⟨alternative, .inl sums.1, observed, .inr also.1, same⟩

end Finding

end Cutout.Library

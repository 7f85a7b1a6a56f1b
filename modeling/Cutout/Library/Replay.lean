import Mathlib.Data.List.Basic
import Mathlib.Order.Basic

/-! Replaying a queue of updates over a base state. An operation that commutes with
every queued update may be applied to the base or to the replayed state; what an
update keeps is kept by the whole queue. -/

universe u v

namespace Cutout.Library.Replay
variable {σ : Type u} {α : Type v} {update : σ → α → σ}
variable {queue : List α} {P : σ → List α → Prop}

theorem induction_on (kept : ∀ {base next queue}, P base (next :: queue) → P (update base next) queue) {base : σ}
    (initial : P base queue) : P (queue.foldl update base) [] := by
  induction queue generalizing base with
  | nil => exact initial
  | cons next queue ih => exact ih (kept initial)

theorem commute {operation : σ → σ} (kept : ∀ {base next queue}, P base (next :: queue) → P (update base next) queue)
    (passes : ∀ {base next queue}, P base (next :: queue) →
      update (operation base) next = operation (update base next))
    {base : σ} (initial : P base queue) :
    queue.foldl update (operation base) = operation (queue.foldl update base) := by
  induction queue generalizing base with
  | nil => rfl
  | cons next queue ih =>
    rw [List.foldl_cons, passes initial]
    exact ih (kept initial)

theorem fixed {base : σ} (still : ∀ next ∈ queue, update base next = base) : queue.foldl update base = base := by
  induction queue with
  | nil => rfl
  | cons next queue ih =>
    rw [List.foldl_cons, still next List.mem_cons_self]
    exact ih fun other member => still other (List.mem_cons_of_mem _ member)

theorem monotone {β : Type*} [Preorder β] (measure : σ → β)
    (grows : ∀ base next, measure base ≤ measure (update base next)) (base : σ) (queue : List α) :
    measure base ≤ measure (queue.foldl update base) := by
  induction queue generalizing base with
  | nil => exact le_refl _
  | cons next queue ih => exact (grows base next).trans (ih _)

end Cutout.Library.Replay

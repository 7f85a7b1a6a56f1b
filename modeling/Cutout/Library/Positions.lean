import Mathlib.Data.List.Basic

/-! Lists edited at the position of the first element with a property. -/

universe u

namespace Cutout.Library
variable {α : Type u} {items : List α} {p : α → Bool} {index : Nat}

theorem findIdx?_split (found : items.findIdx? p = some index) :
    ∃ early item late, items = early ++ item :: late ∧ early.length = index ∧ p item = true ∧
      ∀ other ∈ early, p other = false := by
  induction items generalizing index with
  | nil => simp at found
  | cons first items ih =>
    rw [List.findIdx?_cons] at found
    by_cases here : p first = true
    · simp only [here, if_true, Option.some.injEq] at found
      exact ⟨[], first, items, rfl, found, here, nofun⟩
    · simp only [here, Bool.false_eq_true, if_false, Option.map_eq_some_iff] at found
      obtain ⟨position, later, rfl⟩ := found
      obtain ⟨early, item, late, rfl, length, holds, before⟩ := ih later
      refine ⟨first :: early, item, late, rfl, by simp [length], holds, ?_⟩
      intro other member
      rcases List.mem_cons.mp member with rfl | earlier
      · simpa using here
      · exact before other earlier

theorem findIdx?_none (absent : items.findIdx? p = none) : ∀ item ∈ items, p item = false := by
  intro item member
  simpa using List.findIdx?_eq_none_iff.mp absent item member

@[simp] theorem getElem?_middle (early : List α) (item : α) (late : List α) :
    (early ++ item :: late)[early.length]? = some item := by
  simp

@[simp] theorem modify_middle (early : List α) (item : α) (late : List α) (change : α → α) :
    (early ++ item :: late).modify early.length change = early ++ change item :: late := by
  induction early with
  | nil => rfl
  | cons first early ih => simp [ih]

@[simp] theorem eraseIdx_middle (early : List α) (item : α) (late : List α) :
    (early ++ item :: late).eraseIdx early.length = early ++ late := by
  induction early with
  | nil => rfl
  | cons first early ih => simp [ih]

theorem map_modify_same {β : Type*} (view : α → β) (change : α → α) (same : ∀ item, view (change item) = view item)
    (items : List α) (index : Nat) : (items.modify index change).map view = items.map view := by
  induction items generalizing index with
  | nil => cases index <;> rfl
  | cons first items ih =>
    cases index with
    | zero => simp [same]
    | succ index => simp [ih]

end Cutout.Library

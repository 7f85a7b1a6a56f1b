import Mathlib.Order.Interval.Finset.Nat

/-! Counting the instants of a stretch of time at which something holds. -/

namespace Cutout.Library

/-- How many instants from `first` on and before `last` satisfy `p`. -/
def tally (p : Nat → Bool) (first last : Nat) : Nat := ((Finset.Ico first last).filter fun time => p time = true).card

variable {p q : Nat → Bool} {first middle last : Nat}

@[simp] theorem tally_self (p : Nat → Bool) (time : Nat) : tally p time time = 0 := by simp [tally]

theorem tally_split (p : Nat → Bool) (early : first ≤ middle) (late : middle ≤ last) :
    tally p first last = tally p first middle + tally p middle last := by
  unfold tally
  rw [← Finset.Ico_union_Ico_eq_Ico early late, Finset.filter_union]
  apply Finset.card_union_of_disjoint
  exact Finset.disjoint_filter_filter (Finset.Ico_disjoint_Ico_consecutive first middle last)

theorem tally_all (holds : ∀ time, first ≤ time → time < last → p time = true) : tally p first last = last - first := by
  rw [tally, Finset.filter_true_of_mem, Nat.card_Ico]
  intro time member
  obtain ⟨early, late⟩ := Finset.mem_Ico.mp member
  exact holds time early late

theorem tally_none (fails : ∀ time, first ≤ time → time < last → p time = false) : tally p first last = 0 := by
  rw [tally, Finset.filter_false_of_mem, Finset.card_empty]
  intro time member
  obtain ⟨early, late⟩ := Finset.mem_Ico.mp member
  simp [fails time early late]

theorem tally_le (implies : ∀ time, p time = true → q time = true) : tally p first last ≤ tally q first last := by
  apply Finset.card_le_card
  apply Finset.monotone_filter_right
  exact fun time _ => implies time

theorem tally_add_not (p : Nat → Bool) (first last : Nat) :
    tally p first last + tally (fun time => !p time) first last = last - first := by
  have every := Finset.card_filter_add_card_filter_not (s := Finset.Ico first last) fun time => p time = true
  simpa [tally] using every

end Cutout.Library

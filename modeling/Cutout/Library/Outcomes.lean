/-! Fallible computations. A chain of checks returns a value when every check passes,
and what it returns is said check by check. -/

universe u v

namespace Cutout.Library
variable {ε : Type u} {α β : Type v} {first : Except ε α} {rest : α → Except ε β} {result : β}
variable {value : α}

theorem bind_eq_ok : (first >>= rest) = .ok result ↔ ∃ value, first = .ok value ∧ rest value = .ok result := by
  cases first with
  | error error =>
    constructor
    · intro never
      cases never
    · rintro ⟨value, never, -⟩
      cases never
  | ok value =>
    constructor
    · intro done
      exact ⟨value, rfl, done⟩
    · rintro ⟨other, same, done⟩
      cases same
      exact done

theorem ok_bind (done : (first >>= rest) = .ok result) : ∃ value, first = .ok value ∧ rest value = .ok result :=
  bind_eq_ok.mp done

theorem ok_then (value : α) : ((.ok value : Except ε α) >>= rest) = rest value := rfl

def Succeeds (outcome : Except ε α) : Prop := ∃ value, outcome = .ok value

theorem succeeds_ok (value : α) : Succeeds (.ok value : Except ε α) := ⟨value, rfl⟩

theorem succeeds_bind : Succeeds (first >>= rest) ↔ ∃ value, first = .ok value ∧ Succeeds (rest value) := by
  constructor
  · rintro ⟨final, done⟩
    obtain ⟨value, found, done⟩ := bind_eq_ok.mp done
    exact ⟨value, found, final, done⟩
  · rintro ⟨value, found, final, done⟩
    exact ⟨final, bind_eq_ok.mpr ⟨value, found, done⟩⟩

theorem succeeds_past (found : first = .ok value) : Succeeds (first >>= rest) ↔ Succeeds (rest value) := by
  rw [found]
  exact Iff.rfl

def okOr (found : Option α) (error : ε) : Except ε α :=
  match found with
  | some value => .ok value
  | none => .error error

theorem okOr_eq_ok {found : Option α} {error : ε} : okOr found error = .ok value ↔ found = some value := by
  cases found with
  | none => exact iff_of_false (fun never => by cases never) (fun never => by cases never)
  | some other => exact ⟨fun same => congrArg some (Except.ok.inj same), fun same => congrArg Except.ok (Option.some.inj same)⟩

theorem mapError_eq_ok {δ : Type u} {change : ε → δ} {outcome : Except ε α} :
    outcome.mapError change = .ok value ↔ outcome = .ok value := by
  cases outcome with
  | error error => exact iff_of_false (fun never => by cases never) (fun never => by cases never)
  | ok other => exact ⟨fun same => congrArg Except.ok (Except.ok.inj same), fun same => congrArg Except.ok (Except.ok.inj same)⟩

def demand (condition : Prop) [Decidable condition] (error : ε) : Except ε PUnit :=
  if condition then .ok ⟨⟩ else .error error

theorem demand_eq_ok {condition : Prop} [Decidable condition] {error : ε} {done : PUnit} :
    demand condition error = .ok done ↔ condition := by
  unfold demand
  split
  · next holds => exact iff_of_true rfl holds
  · next fails => exact iff_of_false (fun never => by cases never) fails

end Cutout.Library

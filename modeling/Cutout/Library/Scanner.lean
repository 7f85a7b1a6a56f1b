import Mathlib.Data.List.Basic

/-! Incremental scanners. A scanner inspects the pending input and either waits
for more of it or consumes a nonempty prefix, possibly producing a value. The
laws make a decision final: input arriving later never revises it, so any way
of cutting the input into pieces produces the values of one uninterrupted scan. -/

universe u v

namespace Cutout.Library

/-- What a scanner decides about its pending input. -/
inductive Verdict (β : Type v) where
  | wait
  | take (length : Nat) (value : Option β)
  deriving Repr, DecidableEq

/-- A decision procedure whose decisions consume existing input and survive extension. -/
structure Scanner (α : Type u) (β : Type v) where
  next : List α → Verdict β
  take_bounds : ∀ {input length value}, next input = .take length value →
    0 < length ∧ length ≤ input.length
  take_stable : ∀ {input length value} (later : List α), next input = .take length value →
    next (input ++ later) = .take length value

namespace Scanner
variable {α : Type u} {β : Type v} (scanner : Scanner α β)

/-- Finitely many consuming decisions, with the produced values and the input left over. -/
inductive Advance : List α → List β → List α → Prop where
  | refl (input) : Advance input [] input
  | take {input length value values rest} : scanner.next input = .take length value →
      Advance (input.drop length) values rest → Advance input (value.toList ++ values) rest

def Stuck (input : List α) : Prop := scanner.next input = .wait

/-- Scans until the scanner waits; every decision consumes input, so its length is enough fuel. -/
def scanFuel : Nat → List α → List β × List α
  | 0, input => ([], input)
  | fuel + 1, input =>
    match scanner.next input with
    | .wait => ([], input)
    | .take length value =>
      let (values, rest) := scanFuel fuel (input.drop length)
      (value.toList ++ values, rest)

def scan (input : List α) : List β × List α := scanner.scanFuel input.length input

variable {scanner}

theorem next_nil : scanner.next [] = .wait := by
  cases decision : scanner.next [] with
  | wait => rfl
  | take length value =>
    obtain ⟨positive, bounded⟩ := scanner.take_bounds decision
    simp only [List.length_nil, Nat.le_zero] at bounded
    omega

namespace Advance

theorem trans {input middle rest : List α} {first second : List β}
    (start : scanner.Advance input first middle) (finish : scanner.Advance middle second rest) :
    scanner.Advance input (first ++ second) rest := by
  induction start with
  | refl => exact finish
  | take decision _ ih =>
    rw [List.append_assoc]
    exact .take decision (ih finish)

theorem one {input : List α} {length : Nat} {value : Option β}
    (decision : scanner.next input = .take length value) :
    scanner.Advance input value.toList (input.drop length) := by
  simpa only [List.append_nil] using Advance.take decision (.refl _)

theorem append {input rest : List α} {values : List β} (run : scanner.Advance input values rest)
    (later : List α) : scanner.Advance (input ++ later) values (rest ++ later) := by
  induction run with
  | refl => exact .refl _
  | @take input length value values rest decision _ ih =>
    have bounded := (scanner.take_bounds decision).2
    refine .take (scanner.take_stable later decision) ?_
    rwa [List.drop_append_of_le_length bounded]

theorem length_le {input rest : List α} {values : List β} (run : scanner.Advance input values rest) :
    rest.length ≤ input.length := by
  induction run with
  | refl => exact Nat.le_refl _
  | take _ _ ih =>
    rw [List.length_drop] at ih
    omega

theorem length_lt {input rest : List α} {values : List β} (run : scanner.Advance input values rest)
    (produced : values ≠ []) : rest.length < input.length := by
  cases run with
  | refl => exact absurd rfl produced
  | take decision run =>
    have bounds := scanner.take_bounds decision
    have shorter := run.length_le
    rw [List.length_drop] at shorter
    omega

theorem deterministic {input left right : List α} {first second : List β}
    (one : scanner.Advance input first left) (leftStuck : scanner.Stuck left)
    (two : scanner.Advance input second right) (rightStuck : scanner.Stuck right) :
    first = second ∧ left = right := by
  induction one generalizing second right with
  | refl =>
    cases two with
    | refl => exact ⟨rfl, rfl⟩
    | take decision _ => exact absurd (decision.symm.trans leftStuck) (by simp)
  | take decision _ ih =>
    cases two with
    | refl => exact absurd (decision.symm.trans rightStuck) (by simp)
    | take decision' run =>
      obtain ⟨rfl, rfl⟩ := Verdict.take.inj (decision.symm.trans decision')
      obtain ⟨same, rfl⟩ := ih leftStuck run rightStuck
      exact ⟨by rw [same], rfl⟩

end Advance

theorem scanFuel_advance (fuel : Nat) (input : List α) :
    scanner.Advance input (scanner.scanFuel fuel input).1 (scanner.scanFuel fuel input).2 := by
  induction fuel generalizing input with
  | zero => exact .refl _
  | succ fuel ih =>
    rw [scanFuel]
    cases decision : scanner.next input with
    | wait => exact .refl _
    | take length value => exact .take decision (ih _)

theorem scanFuel_stuck {fuel : Nat} {input : List α} (enough : input.length ≤ fuel) :
    scanner.Stuck (scanner.scanFuel fuel input).2 := by
  induction fuel generalizing input with
  | zero =>
    obtain rfl : input = [] := List.length_eq_zero_iff.mp (Nat.le_zero.mp enough)
    exact next_nil
  | succ fuel ih =>
    rw [scanFuel]
    cases decision : scanner.next input with
    | wait => exact decision
    | take length value =>
      have positive := (scanner.take_bounds decision).1
      exact ih (by rw [List.length_drop]; omega)

theorem scan_advance (input : List α) :
    scanner.Advance input (scanner.scan input).1 (scanner.scan input).2 :=
  scanFuel_advance _ _

theorem scan_stuck (input : List α) : scanner.Stuck (scanner.scan input).2 :=
  scanFuel_stuck (Nat.le_refl _)

theorem Advance.eq_scan {input rest : List α} {values : List β}
    (run : scanner.Advance input values rest) (stuck : scanner.Stuck rest) :
    scanner.scan input = (values, rest) := by
  obtain ⟨sameValues, sameRest⟩ := (scan_advance input).deterministic (scan_stuck input) run stuck
  exact Prod.ext sameValues sameRest

end Scanner

end Cutout.Library

import Mathlib.Data.List.Basic
import Mathlib.Data.List.Chain

/-! Running peaks of a series of readings, newest first. A reading raises the peak only
when it lies far enough above it; rises may be asked to keep a distance in time. -/

universe u v

namespace Cutout.Library

/-- A value and the time it was read. -/
structure Reading (α : Type u) (τ : Type v) where
  value : α
  time : τ
  deriving Repr, DecidableEq

section RunningPeak
variable {α : Type u} {τ : Type v} (raises drops : α → α → Bool) (apart : τ → τ → Bool)

/-- The first value, replaced by every value that raises it. -/
def runningPeak : List (Reading α τ) → Option α
  | [] => none
  | reading :: older =>
    match runningPeak older with
    | none => some reading.value
    | some peak => if raises peak reading.value then some reading.value else some peak

/-- The reading is a rise over the peak of the older ones. -/
def isRise (reading : Reading α τ) (older : List (Reading α τ)) : Bool :=
  (runningPeak raises older).any fun peak => raises peak reading.value

/-- The readings that raised the peak of their time. -/
def risesOf : List (Reading α τ) → List (Reading α τ)
  | [] => []
  | reading :: older => if isRise raises reading older then reading :: risesOf older else risesOf older

/-- The rises that keep their distance from the one counted before them. -/
def spacedRises : List (Reading α τ) → List (Reading α τ)
  | [] => []
  | reading :: older =>
    if isRise raises reading older && (spacedRises older).head?.all fun last => apart last.time reading.time then
      reading :: spacedRises older
    else spacedRises older

/-- No reading dropped from the peak of its time. -/
def Sustained : List (Reading α τ) → Prop
  | [] => True
  | reading :: older => (∀ peak, runningPeak raises older = some peak → drops peak reading.value = false) ∧ Sustained older

variable {raises drops apart} {readings : List (Reading α τ)}

theorem runningPeak_eq_none : runningPeak raises readings = none ↔ readings = [] := by
  cases readings with
  | nil => exact iff_of_true rfl rfl
  | cons reading older =>
    refine iff_of_false ?_ (List.cons_ne_nil _ _)
    unfold runningPeak
    split
    · exact Option.some_ne_none _
    · split
      · exact Option.some_ne_none _
      · exact Option.some_ne_none _

variable {reading : Reading α τ}

theorem runningPeak_cons {peak : α} (held : runningPeak raises readings = some peak) :
    runningPeak raises (reading :: readings) = some (if raises peak reading.value then reading.value else peak) := by
  simp only [runningPeak, held]
  split
  · rfl
  · rfl

theorem isRise_eq {peak : α} (held : runningPeak raises readings = some peak) :
    isRise raises reading readings = raises peak reading.value := by
  rw [isRise, held, Option.any_some]

theorem spacedRises_sublist : (spacedRises raises apart readings).Sublist (risesOf raises readings) := by
  induction readings with
  | nil => exact List.Sublist.slnil
  | cons reading older ih =>
    unfold spacedRises risesOf
    by_cases rise : isRise raises reading older = true
    · rw [if_pos rise]
      split
      · exact ih.cons_cons reading
      · exact ih.cons reading
    · rw [if_neg rise, if_neg (by simp [rise])]
      exact ih

theorem spacedRises_apart :
    (spacedRises raises apart readings).IsChain fun newer older => apart older.time newer.time = true := by
  induction readings with
  | nil => exact List.IsChain.nil
  | cons reading older ih =>
    unfold spacedRises
    split
    · next counted =>
      have far := (Bool.and_eq_true_iff.mp counted).2
      rw [List.isChain_cons]
      refine ⟨?_, ih⟩
      intro last first
      rw [Option.mem_def.mp first] at far
      exact far
    · exact ih

theorem risesOf_sublist : (risesOf raises readings).Sublist readings := by
  induction readings with
  | nil => exact List.Sublist.slnil
  | cons reading older ih =>
    unfold risesOf
    split
    · exact ih.cons_cons reading
    · exact ih.cons reading

end RunningPeak

end Cutout.Library

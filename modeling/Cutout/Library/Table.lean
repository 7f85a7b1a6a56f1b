import Mathlib.Data.List.Nodup

/-! Tables with a primary key. Rows are pairs of a key and a value with no key twice;
what an operation does is said by `find`, so that no proof depends on the order of rows. -/

universe u v

namespace Cutout.Library

structure Table (κ : Type u) (ν : Type v) where
  rows : List (κ × ν) := []
  distinct : (rows.map Prod.fst).Nodup := by exact List.nodup_nil
  deriving DecidableEq

namespace Table
variable {κ : Type u} {ν : Type v} [DecidableEq κ] (table : Table κ ν) (key : κ)
variable {meets : κ → ν → Bool}

def find : Option ν := (table.rows.find? fun row => row.1 = key).map Prod.snd

/-- The key of some row that meets a condition. -/
def search (meets : κ → ν → Bool) : Option κ := (table.rows.find? fun row => meets row.1 row.2).map Prod.fst

def modify (change : ν → ν) : Table κ ν where
  rows := table.rows.map fun row => if row.1 = key then (row.1, change row.2) else row
  distinct := by
    have same : (table.rows.map fun row => if row.1 = key then (row.1, change row.2) else row).map Prod.fst =
        table.rows.map Prod.fst := by
      rw [List.map_map]
      apply List.map_congr_left
      intro row _
      simp only [Function.comp_apply]
      split <;> rfl
    rw [same]
    exact table.distinct

def mapValues (change : ν → ν) : Table κ ν where
  rows := table.rows.map fun row => (row.1, change row.2)
  distinct := by
    rw [List.map_map]
    exact table.distinct

/-- The rows that meet a condition. -/
def keep (meets : κ → ν → Bool) : Table κ ν where
  rows := table.rows.filter fun row => meets row.1 row.2
  distinct := table.distinct.sublist (List.filter_sublist.map _)

/-- A row under a key replaces the one that is there. -/
def put (value : ν) : Table κ ν where
  rows := (table.keep fun other _ => other ≠ key).rows ++ [(key, value)]
  distinct := by
    rw [List.map_append, List.nodup_append]
    refine ⟨(table.keep fun other _ => other ≠ key).distinct, List.nodup_singleton _, ?_⟩
    intro other kept new present same
    simp only [List.map_cons, List.map_nil, List.mem_singleton] at present
    obtain ⟨row, member, rfl⟩ := List.mem_map.mp kept
    have apart := (List.mem_filter.mp member).2
    exact of_decide_eq_true apart (same.trans present)

variable {table key}

theorem find_eq_some_iff {value : ν} : table.find key = some value ↔ (key, value) ∈ table.rows := by
  obtain ⟨rows, distinct⟩ := table
  unfold find
  induction rows with
  | nil => simp
  | cons row rows ih =>
    obtain ⟨apart, distinct⟩ := List.nodup_cons.mp distinct
    by_cases here : row.1 = key
    · have absent : (key, value) ∉ rows := by
        intro member
        exact apart (here ▸ List.mem_map_of_mem member)
      simp only [List.find?_cons, here, decide_true, Option.map_some, List.mem_cons, absent, or_false, Option.some.injEq]
      constructor
      · rintro rfl
        exact Prod.ext here.symm rfl
      · rintro rfl
        rfl
    · have other : (key, value) ≠ row := by
        rintro rfl
        exact here rfl
      simp only [List.find?_cons, here, decide_false, List.mem_cons, other, false_or]
      exact ih distinct

/-- Two tables agree at a key when they have the same rows under it. -/
theorem find_eq_of_iff {found : Option ν} (same : ∀ value, (key, value) ∈ table.rows ↔ found = some value) :
    table.find key = found := by
  apply Option.ext
  intro value
  rw [find_eq_some_iff, same]

@[simp] theorem find_modify (other : κ) (change : ν → ν) : (table.modify key change).find other =
    if other = key then (table.find other).map change else table.find other := by
  apply find_eq_of_iff
  intro value
  have rows : (other, value) ∈ (table.modify key change).rows ↔ ∃ old, (other, old) ∈ table.rows ∧
      (if other = key then change old else old) = value := by
    constructor
    · intro member
      obtain ⟨row, held, same⟩ := List.mem_map.mp member
      split at same
      · next here =>
        cases same
        exact ⟨row.2, held, if_pos here⟩
      · next there =>
        cases same
        exact ⟨value, held, if_neg there⟩
    · rintro ⟨old, held, same⟩
      apply List.mem_map.mpr
      refine ⟨(other, old), held, ?_⟩
      dsimp only
      split at same
      · next here => rw [if_pos here, same]
      · next there => rw [if_neg there, same]
  rw [rows]
  simp only [← find_eq_some_iff]
  by_cases here : other = key
  · simp [here]
  · simp [here]

@[simp] theorem find_mapValues (change : ν → ν) : (table.mapValues change).find key = (table.find key).map change := by
  apply find_eq_of_iff
  intro value
  simp only [mapValues, List.mem_map, Prod.mk.injEq, Prod.exists, Option.map_eq_some_iff, find_eq_some_iff]
  constructor
  · rintro ⟨other, old, held, rfl, same⟩
    exact ⟨old, held, same⟩
  · rintro ⟨old, held, same⟩
    exact ⟨key, old, held, rfl, same⟩

@[simp] theorem find_keep (other : κ) (meets : κ → ν → Bool) :
    (table.keep meets).find other = (table.find other).filter (meets other) := by
  apply find_eq_of_iff
  intro value
  rw [Option.filter_eq_some_iff, find_eq_some_iff]
  exact List.mem_filter

@[simp] theorem find_put (other : κ) (value : ν) :
    (table.put key value).find other = if other = key then some value else table.find other := by
  apply find_eq_of_iff
  intro found
  have rows : (other, found) ∈ (table.put key value).rows ↔
      ((other, found) ∈ table.rows ∧ other ≠ key) ∨ (other, found) = (key, value) := by
    simp [put, keep, List.mem_filter]
  rw [rows, ← find_eq_some_iff]
  by_cases here : other = key
  · simp [here, eq_comm]
  · simp [here]

@[simp] theorem find_empty : (({} : Table κ ν)).find key = none := rfl

theorem search_some (found : table.search meets = some key) :
    ∃ value, table.find key = some value ∧ meets key value = true := by
  obtain ⟨row, held, rfl⟩ := Option.map_eq_some_iff.mp found
  have met := List.find?_some held
  exact ⟨row.2, find_eq_some_iff.mpr (List.mem_of_find?_eq_some held), met⟩

theorem search_none (none : table.search meets = none) {value : ν} (held : table.find key = some value) :
    meets key value = false := by
  have absent := List.find?_eq_none.mp (Option.map_eq_none_iff.mp none) _ (find_eq_some_iff.mp held)
  simpa using absent

end Table

end Cutout.Library

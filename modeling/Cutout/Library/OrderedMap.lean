import Mathlib.Data.List.Nodup
import Mathlib.Logic.Embedding.Basic

/-! Maps as association lists in the order of their keys. `entry` changes the value
under a key and inserts one where there is none; what an operation leaves alone is
described by membership. -/

universe u v

namespace Cutout.Library

/-- A map whose keys are ordered by an embedding into the naturals. -/
structure OrderedMap (κ : Type u) (ν : Type v) (rank : κ ↪ Nat) where
  items : List (κ × ν)
  ordered : items.Pairwise fun first second => rank first.1 < rank second.1

namespace OrderedMap
variable {κ : Type u} {ν : Type v} [DecidableEq κ]
variable {value : ν}

/-- Changes the value under `key`; `change none` is inserted in the order of `rank`. -/
def entryItems (rank : κ ↪ Nat) (key : κ) (change : Option ν → ν) : List (κ × ν) → List (κ × ν)
  | [] => [(key, change none)]
  | first :: later =>
    if first.1 = key then (key, change (some first.2)) :: later
    else if rank key < rank first.1 then (key, change none) :: first :: later
    else first :: entryItems rank key change later

section Items
variable {rank : κ ↪ Nat} {key : κ} {change : Option ν → ν} {items : List (κ × ν)}

theorem mem_entryItems {item : κ × ν} (member : item ∈ entryItems rank key change items) :
    item ∈ items ∨ item = (key, change none) ∨ ∃ old, (key, old) ∈ items ∧ item = (key, change (some old)) := by
  induction items with
  | nil => exact .inr (.inl (List.mem_singleton.mp member))
  | cons first later ih =>
    unfold entryItems at member
    split at member
    · next same =>
      rcases List.mem_cons.mp member with here | there
      · refine .inr (.inr ⟨first.2, ?_, here⟩)
        rw [← same]
        exact List.mem_cons_self
      · exact .inl (List.mem_cons_of_mem _ there)
    · split at member
      · rcases List.mem_cons.mp member with here | there
        · exact .inr (.inl here)
        · exact .inl there
      · rcases List.mem_cons.mp member with here | there
        · exact .inl (here ▸ List.mem_cons_self)
        · rcases ih there with old | fresh | ⟨old, inside, same⟩
          · exact .inl (List.mem_cons_of_mem _ old)
          · exact .inr (.inl fresh)
          · exact .inr (.inr ⟨old, List.mem_cons_of_mem _ inside, same⟩)

theorem entryItems_same (ordered : items.Pairwise fun first second => rank first.1 < rank second.1)
    (known : (key, value) ∈ items) (kept : change (some value) = value) : entryItems rank key change items = items := by
  induction items with
  | nil => cases known
  | cons first later ih =>
    obtain ⟨below, ordered⟩ := List.pairwise_cons.mp ordered
    rcases List.mem_cons.mp known with here | there
    · cases here
      rw [entryItems, if_pos rfl, kept]
    · have before := below _ there
      have other : first.1 ≠ key := by
        rintro rfl
        exact absurd before (Nat.lt_irrefl _)
      rw [entryItems, if_neg other, if_neg (Nat.lt_asymm before), ih ordered there]

theorem entryItems_ordered
    (ordered : items.Pairwise fun first second => rank first.1 < rank second.1) :
    (entryItems rank key change items).Pairwise fun first second => rank first.1 < rank second.1 := by
  induction items with
  | nil => exact List.pairwise_singleton _ _
  | cons first later ih =>
    obtain ⟨below, rest⟩ := List.pairwise_cons.mp ordered
    unfold entryItems
    split
    · next same =>
      rw [← same]
      exact List.pairwise_cons.mpr ⟨below, rest⟩
    · next other =>
      split
      · next before =>
        refine List.pairwise_cons.mpr ⟨?_, ordered⟩
        intro item member
        rcases List.mem_cons.mp member with here | there
        · rw [here]
          exact before
        · exact Nat.lt_trans before (below item there)
      · next after =>
        refine List.pairwise_cons.mpr ⟨?_, ih rest⟩
        intro item member
        have later : rank first.1 < rank key := by
          have apart : rank first.1 ≠ rank key := fun same => other (rank.injective same)
          omega
        rcases mem_entryItems member with old | rfl | ⟨old, -, rfl⟩
        · exact below item old
        · exact later
        · exact later

/-- Changes the first value that meets a condition. -/
def updateItems (found : ν → Bool) (change : ν → ν) : List (κ × ν) → List (κ × ν)
  | [] => []
  | first :: later => if found first.2 then (first.1, change first.2) :: later else first :: updateItems found change later

omit [DecidableEq κ] in
theorem mem_updateItems {found : ν → Bool} {change : ν → ν} {item : κ × ν}
    (member : item ∈ updateItems found change items) :
    item ∈ items ∨ ∃ old, (item.1, old) ∈ items ∧ found old = true ∧ item.2 = change old := by
  induction items with
  | nil => cases member
  | cons first later ih =>
    unfold updateItems at member
    split at member
    · next here =>
      rcases List.mem_cons.mp member with same | there
      · rw [same]
        exact .inr ⟨first.2, List.mem_cons_self, here, rfl⟩
      · exact .inl (List.mem_cons_of_mem _ there)
    · rcases List.mem_cons.mp member with same | there
      · exact .inl (same ▸ List.mem_cons_self)
      · rcases ih there with old | ⟨old, inside, here, same⟩
        · exact .inl (List.mem_cons_of_mem _ old)
        · exact .inr ⟨old, List.mem_cons_of_mem _ inside, here, same⟩

omit [DecidableEq κ] in
theorem updateItems_keys (found : ν → Bool) (change : ν → ν) (items : List (κ × ν)) :
    (updateItems found change items).map Prod.fst = items.map Prod.fst := by
  induction items with
  | nil => rfl
  | cons first later ih =>
    unfold updateItems
    split
    · rfl
    · rw [List.map_cons, ih, List.map_cons]

end Items

variable {rank : κ ↪ Nat}

def empty : OrderedMap κ ν rank := ⟨[], List.Pairwise.nil⟩

/-- The value under `key`. -/
def get (map : OrderedMap κ ν rank) (key : κ) : Option ν := (map.items.find? fun item => item.1 = key).map Prod.snd

def entry (map : OrderedMap κ ν rank) (key : κ) (change : Option ν → ν) : OrderedMap κ ν rank :=
  ⟨entryItems rank key change map.items, entryItems_ordered map.ordered⟩

def mapValues (map : OrderedMap κ ν rank) (change : ν → ν) : OrderedMap κ ν rank :=
  ⟨map.items.map fun item => (item.1, change item.2), List.pairwise_map.mpr map.ordered⟩

omit [DecidableEq κ] in
theorem ordered_keys {items other : List (κ × ν)} (same : other.map Prod.fst = items.map Prod.fst)
    (ordered : items.Pairwise fun first second => rank first.1 < rank second.1) :
    other.Pairwise fun first second => rank first.1 < rank second.1 := by
  have keys : (items.map Prod.fst).Pairwise fun first second => rank first < rank second := List.pairwise_map.mpr ordered
  rw [← same, List.pairwise_map] at keys
  exact keys

def updateFirst (map : OrderedMap κ ν rank) (found : ν → Bool) (change : ν → ν) : OrderedMap κ ν rank :=
  ⟨updateItems found change map.items, ordered_keys (updateItems_keys found change map.items) map.ordered⟩

variable {map : OrderedMap κ ν rank}

theorem get_mem {key : κ} (known : map.get key = some value) : (key, value) ∈ map.items := by
  obtain ⟨item, found, rfl⟩ := Option.map_eq_some_iff.mp known
  have same := List.find?_some found
  rw [← of_decide_eq_true same]
  exact List.mem_of_find?_eq_some found

theorem get_put (map : OrderedMap κ ν rank) (key other : κ) (value : ν) :
    (map.entry key fun _ => value).get other = if other = key then some value else map.get other := by
  unfold entry get
  dsimp only
  generalize map.items = items
  induction items with
  | nil =>
    by_cases same : other = key
    · simp only [entryItems, same, List.find?_cons_of_pos, decide_true, Option.map_some, if_true]
    · simp only [entryItems, List.find?_cons, decide_eq_false (Ne.symm same), List.find?_nil, if_neg same]
  | cons first later ih =>
    rw [entryItems]
    by_cases here : first.1 = key
    · rw [if_pos here]
      by_cases same : other = key
      · simp only [same, List.find?_cons, decide_true, Option.map_some, if_true]
      · have differs : first.1 ≠ other := fun found => same (found.symm.trans here)
        simp only [List.find?_cons, decide_eq_false (Ne.symm same), decide_eq_false differs, if_neg same]
    · rw [if_neg here]
      split
      · by_cases same : other = key
        · simp only [same, List.find?_cons, decide_true, Option.map_some, if_true]
        · simp only [List.find?_cons, decide_eq_false (Ne.symm same), if_neg same]
      · by_cases found : first.1 = other
        · have differs : other ≠ key := fun same => here (found.trans same)
          simp only [List.find?_cons, decide_eq_true found, Option.map_some, if_neg differs]
        · simp only [List.find?_cons, decide_eq_false found]
          exact ih

/-- A map in which nothing is found is empty. -/
theorem items_eq_nil_iff : map.items = [] ↔ ∀ key, map.get key = none := by
  constructor
  · intro empty key
    rw [get, empty]
    rfl
  · intro nothing
    cases listed : map.items with
    | nil => rfl
    | cons first later =>
      have found := nothing first.1
      rw [get, listed, List.find?_cons_of_pos (by rw [decide_eq_true rfl])] at found
      cases found

theorem entry_same {key : κ} {change : Option ν → ν} (known : map.get key = some value)
    (kept : change (some value) = value) : map.entry key change = map := by
  obtain ⟨items, ordered⟩ := map
  have same := entryItems_same ordered (get_mem known) kept
  unfold entry
  congr

end OrderedMap

end Cutout.Library

import Mathlib.Data.List.Basic
import Mathlib.Data.Finset.Sort

/-!
# Dictionaries built from entries, and sorted sets

A dictionary keeps its keys in the order of their first insertion and the last value given for
each. On entries with distinct keys it is the entry list itself.
-/

namespace StockApi.Dict

universe u v

variable {κ : Type u} {ν : Type v} [DecidableEq κ]

/-- `d[key] = value`. -/
def insert (key : κ) (value : ν) : List (κ × ν) → List (κ × ν)
  | [] => [(key, value)]
  | (k, v) :: rest => if k = key then (k, value) :: rest else (k, v) :: insert key value rest

/-- `{key: value for key, value in entries}`. -/
def ofEntries (entries : List (κ × ν)) : List (κ × ν) :=
  entries.foldl (fun d e => insert e.1 e.2 d) []

theorem insert_of_notMem {key : κ} {value : ν} {d : List (κ × ν)} (h : key ∉ d.map Prod.fst) :
    insert key value d = d ++ [(key, value)] := by
  induction d with
  | nil => rfl
  | cons e rest ih =>
    obtain ⟨k, v⟩ := e
    simp only [List.map_cons, List.mem_cons, not_or] at h
    rw [insert, if_neg (Ne.symm h.1), ih h.2, List.cons_append]

theorem foldl_insert_of_nodup (entries d : List (κ × ν))
    (h : ((d ++ entries).map Prod.fst).Nodup) :
    entries.foldl (fun d e => insert e.1 e.2 d) d = d ++ entries := by
  induction entries generalizing d with
  | nil => simp
  | cons e rest ih =>
    have hNew : e.1 ∉ d.map Prod.fst := by
      rw [List.map_append, List.nodup_append] at h
      intro hMem
      exact h.2.2 _ hMem _ (by simp) rfl
    rw [List.foldl_cons, insert_of_notMem hNew, ih _ (by simpa using h)]
    simp

theorem ofEntries_of_nodup {entries : List (κ × ν)} (h : (entries.map Prod.fst).Nodup) :
    ofEntries entries = entries :=
  foldl_insert_of_nodup entries [] h

theorem lookup_eq_some_iff {entries : List (κ × ν)} (h : (entries.map Prod.fst).Nodup) {key : κ}
    {value : ν} : entries.lookup key = some value ↔ (key, value) ∈ entries := by
  induction entries with
  | nil => simp
  | cons e rest ih =>
    obtain ⟨k, v⟩ := e
    rw [List.map_cons, List.nodup_cons] at h
    by_cases hKey : key = k
    · subst hKey
      have hAbsent : (key, value) ∉ rest := by
        intro hMem
        exact h.1 (List.mem_map.mpr ⟨_, hMem, rfl⟩)
      simp [hAbsent, eq_comm]
    · have hTest : (key == k) = false := beq_eq_false_iff_ne.mpr hKey
      rw [List.lookup_cons, hTest]
      simp [ih h.2, hKey]

theorem keys_insert {key : κ} {value : ν} (d : List (κ × ν)) :
    (insert key value d).map Prod.fst =
      if key ∈ d.map Prod.fst then d.map Prod.fst else d.map Prod.fst ++ [key] := by
  induction d with
  | nil => rfl
  | cons e rest ih =>
    obtain ⟨k, v⟩ := e
    by_cases hKey : k = key
    · simp [insert, hKey]
    · have hOther : key ≠ k := Ne.symm hKey
      rw [insert, if_neg hKey, List.map_cons, ih]
      split_ifs with hMem hAll hAll
      · rfl
      · exact absurd (List.mem_cons_of_mem _ hMem) hAll
      · rcases List.mem_cons.mp hAll with hEq | hRest
        · exact absurd hEq hOther
        · exact absurd hRest hMem
      · rfl

theorem nodup_insert {key : κ} {value : ν} {d : List (κ × ν)} (h : (d.map Prod.fst).Nodup) :
    ((insert key value d).map Prod.fst).Nodup := by
  rw [keys_insert]
  split_ifs with hMem
  · exact h
  · rw [List.nodup_append]
    refine ⟨h, List.nodup_singleton key, ?_⟩
    rintro k hk other hOther rfl
    rw [List.mem_singleton] at hOther
    exact hMem (hOther ▸ hk)

theorem lookup_insert {key key' : κ} {value : ν} (d : List (κ × ν)) :
    (insert key value d).lookup key' = if key' = key then some value else d.lookup key' := by
  induction d with
  | nil =>
    by_cases hKey : key' = key
    · simp [insert, hKey]
    · have hTest : (key' == key) = false := beq_eq_false_iff_ne.mpr hKey
      rw [insert, List.lookup_cons, hTest, if_neg hKey]
  | cons e rest ih =>
    obtain ⟨k, v⟩ := e
    by_cases hFirst : k = key
    · subst hFirst
      by_cases hKey : key' = k
      · simp [insert, hKey]
      · have hTest : (key' == k) = false := beq_eq_false_iff_ne.mpr hKey
        rw [insert, if_pos rfl, List.lookup_cons, List.lookup_cons, hTest, if_neg hKey]
    · rw [insert, if_neg hFirst, List.lookup_cons, List.lookup_cons]
      by_cases hKey : key' = k
      · subst hKey
        simp [hFirst]
      · have hTest : (key' == k) = false := beq_eq_false_iff_ne.mpr hKey
        rw [hTest]
        exact ih

/-- `sorted(set(values))`. -/
def sortedSet {α : Type u} [LinearOrder α] (values : List α) : List α := values.toFinset.sort (· ≤ ·)

section SortedSet

variable {α : Type u} [LinearOrder α] {values : List α}

@[simp] theorem mem_sortedSet {a : α} : a ∈ sortedSet values ↔ a ∈ values := by
  simp [sortedSet]

theorem sortedSet_pairwise_lt (values : List α) : (sortedSet values).Pairwise (· < ·) := by
  exact (Finset.sortedLT_sort values.toFinset).pairwise

theorem sortedSet_eq_self_iff : sortedSet values = values ↔ values.Pairwise (· < ·) := by
  constructor
  · intro h
    rw [← h]
    exact sortedSet_pairwise_lt values
  · intro h
    have hNodup : values.Nodup := h.imp ne_of_lt
    exact (List.toFinset_sort (· ≤ ·) hNodup).mpr (h.imp le_of_lt)

end SortedSet

end StockApi.Dict

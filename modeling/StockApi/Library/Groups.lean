import StockApi.Library.Checked
import StockApi.Library.Dict
import Mathlib.Data.Finset.Union
import Mathlib.Data.List.Sort

/-!
# Sorting and grouping by a key

`sorted(values, key=..)` on values with distinct keys is determined by the values alone. Sets
collected under a key in a dictionary are the unions over the items of that key; listed in the order
of the keys they depend on the set of items only.
-/

namespace StockApi.Groups

open Checked

instance stringLe_trans : IsTrans String (· ≤ ·) := inferInstance

instance stringLe_antisymm : Std.Antisymm (α := String) (· ≤ ·) := inferInstance

universe u v

/-! ## Sorting -/

section Sorting

variable {α : Type u} {κ : Type v} [LinearOrder κ] (key : α → κ)

def NotLater (a b : α) : Prop := key a ≤ key b

instance : DecidableRel (NotLater key) := fun a b => inferInstanceAs (Decidable (key a ≤ key b))

instance : Std.Total (NotLater key) := ⟨fun a b => le_total (key a) (key b)⟩

instance : IsTrans α (NotLater key) := ⟨fun _ _ _ => le_trans⟩

/-- `sorted(values, key=key)`. -/
def sortOn (values : List α) : List α := values.insertionSort (NotLater key)

variable {key}

theorem sortOn_perm (values : List α) : (sortOn key values).Perm values :=
  List.perm_insertionSort (NotLater key) values

theorem sortOn_pairwise {values : List α} (distinct : (values.map key).Nodup) :
    (sortOn key values).Pairwise fun a b => key a < key b := by
  have hSorted : (sortOn key values).Pairwise (NotLater key) :=
    List.pairwise_insertionSort (NotLater key) values
  have hDistinct : ((sortOn key values).map key).Nodup :=
    ((sortOn_perm values).map key).nodup_iff.mpr distinct
  exact (hSorted.and (List.pairwise_map.mp hDistinct)).imp fun h => lt_of_le_of_ne h.1 h.2

/-- The one ascending arrangement of values with distinct keys. -/
theorem sortOn_eq_of_perm {values ordered : List α} (perm : values.Perm ordered)
    (ascending : ordered.Pairwise fun a b => key a < key b) : sortOn key values = ordered := by
  have hDistinct : (values.map key).Nodup :=
    (perm.map key).nodup_iff.mpr (List.pairwise_map.mpr (ascending.imp ne_of_lt))
  apply List.Perm.eq_of_pairwise (fun a b _ _ hLess hMore => absurd hMore hLess.asymm)
    (sortOn_pairwise hDistinct) ascending
  exact (sortOn_perm values).trans perm

theorem sortOn_ascending (values : List α) :
    (sortOn key values).Pairwise fun a b => key a ≤ key b :=
  List.pairwise_insertionSort (NotLater key) values

/-- Values that their keys tell apart are sorted into one arrangement. -/
theorem sortOn_congr {values others : List α} (perm : values.Perm others)
    (determined : ∀ a ∈ values, ∀ b ∈ values, key a = key b → a = b) :
    sortOn key values = sortOn key others := by
  have hMem : ∀ a ∈ sortOn key values, a ∈ values := fun a h => (sortOn_perm values).mem_iff.mp h
  have hOther : ∀ a ∈ sortOn key others, a ∈ values := fun a h =>
    perm.mem_iff.mpr ((sortOn_perm others).mem_iff.mp h)
  apply List.Perm.eq_of_pairwise (fun a b ha hb hLow hHigh =>
    determined a (hMem a ha) b (hOther b hb) (le_antisymm hLow hHigh))
    (sortOn_ascending values) (sortOn_ascending others)
  exact (sortOn_perm values).trans (perm.trans (sortOn_perm others).symm)

theorem sortOn_eq_self_iff {values : List α} :
    sortOn key values = values ↔ values.Pairwise fun a b => key a ≤ key b := by
  constructor
  · intro h
    rw [← h]
    exact sortOn_ascending values
  · exact List.Pairwise.insertionSort_eq

/-- Entries whose images are an arrangement of some values all have an image. -/
theorem exists_map_some_of_perm {β : Type v} {images : List (Option β)} {values : List β}
    (h : images.Perm (values.map some)) : ∃ items : List β, images = items.map some ∧ items.Perm values := by
  have hAll : ∀ image ∈ images, ∃ b, image = some b := by
    intro image hMem
    obtain ⟨b, -, hImage⟩ := List.mem_map.mp (h.mem_iff.mp hMem)
    exact ⟨b, hImage.symm⟩
  have hImages : ∀ images : List (Option β), (∀ image ∈ images, ∃ b, image = some b) →
      ∃ items : List β, images = items.map some := by
    intro images hAll
    induction images with
    | nil => exact ⟨[], rfl⟩
    | cons image rest ih =>
      obtain ⟨b, rfl⟩ := hAll image List.mem_cons_self
      obtain ⟨items, rfl⟩ := ih fun other hMem => hAll other (List.mem_cons_of_mem _ hMem)
      exact ⟨b :: items, rfl⟩
  obtain ⟨items, rfl⟩ := hImages images hAll
  exact ⟨items, rfl, (List.map_perm_map_iff (Option.some_injective β)).mp h⟩

/-- Converting an arrangement arranges what is converted. -/
theorem mapM_perm {ε β : Type v} {γ : Type v} {f : β → Except ε γ} {xs xs' : List β} {ys : List γ}
    (perm : xs.Perm xs') (h : xs.mapM f = .ok ys) : ∃ ys', xs'.mapM f = .ok ys' ∧ ys.Perm ys' := by
  have hOption : ∀ a b, f a = .ok b ↔ (f a).toOption = some b := by
    intro a b
    cases f a <;> simp [Except.toOption]
  have hImages : (xs'.map fun a => (f a).toOption).Perm (ys.map some) := by
    rw [← (mapM_eq_ok_iff hOption).mp h]
    exact (perm.map _).symm
  obtain ⟨ys', hImage, hPerm⟩ := exists_map_some_of_perm hImages
  exact ⟨ys', (mapM_eq_ok_iff hOption).mpr hImage, hPerm.symm⟩

/-- Lists that agree under a map agree under whatever the map determines. -/
theorem map_eq_of_determined {β γ : Type*} {f : α → β} {g : α → γ}
    (determined : ∀ a b, f a = f b → g a = g b) {xs ys : List α} (h : xs.map f = ys.map f) :
    xs.map g = ys.map g := by
  rw [← List.forall₂_eq_eq_eq, List.forall₂_map_left_iff, List.forall₂_map_right_iff] at h ⊢
  exact h.imp determined

end Sorting

/-! ## Grouping -/

section Grouping

variable {κ : Type u} {ν : Type v} [LinearOrder κ] [DecidableEq ν]

/-- `groups.setdefault(key, set()).update(values)`. -/
def collect (groups : List (κ × Finset ν)) (item : κ × Finset ν) : List (κ × Finset ν) :=
  Dict.insert item.1 ((groups.lookup item.1).getD ∅ ∪ item.2) groups

def collectAll (items : List (κ × Finset ν)) : List (κ × Finset ν) := items.foldl collect []

/-- The groups in the order of their keys. -/
def grouped (items : List (κ × Finset ν)) : List (κ × Finset ν) :=
  (Dict.sortedSet ((collectAll items).map Prod.fst)).map fun k =>
    (k, ((collectAll items).lookup k).getD ∅)

/-- What the items of one key hold together. -/
def union (items : List (κ × Finset ν)) (k : κ) : Finset ν :=
  (items.toFinset.filter fun i => i.1 = k).biUnion Prod.snd

@[simp] theorem mem_union {items : List (κ × Finset ν)} {k : κ} {v : ν} :
    v ∈ union items k ↔ ∃ i ∈ items, i.1 = k ∧ v ∈ i.2 := by
  simp only [union, Finset.mem_biUnion, Finset.mem_filter, List.mem_toFinset, and_assoc]

theorem lookup_collect (groups : List (κ × Finset ν)) (item : κ × Finset ν) (k : κ) :
    ((collect groups item).lookup k).getD ∅ =
      (groups.lookup k).getD ∅ ∪ if item.1 = k then item.2 else ∅ := by
  rw [collect, Dict.lookup_insert]
  by_cases hKey : k = item.1
  · rw [if_pos hKey, if_pos hKey.symm, Option.getD_some, hKey]
  · rw [if_neg hKey, if_neg (Ne.symm hKey), Finset.union_empty]

theorem lookup_foldl_collect (items groups : List (κ × Finset ν)) (k : κ) :
    ((items.foldl collect groups).lookup k).getD ∅ = (groups.lookup k).getD ∅ ∪ union items k := by
  induction items generalizing groups with
  | nil => simp [union]
  | cons item rest ih =>
    rw [List.foldl_cons, ih, lookup_collect, Finset.union_assoc]
    congr 1
    ext v
    by_cases hKey : item.1 = k <;> simp [hKey]

theorem lookup_collectAll (items : List (κ × Finset ν)) (k : κ) :
    ((collectAll items).lookup k).getD ∅ = union items k := by
  rw [collectAll, lookup_foldl_collect, List.lookup_nil, Option.getD_none, Finset.empty_union]

theorem mem_keys_foldl_collect (items groups : List (κ × Finset ν)) (k : κ) :
    k ∈ (items.foldl collect groups).map Prod.fst ↔
      k ∈ groups.map Prod.fst ∨ k ∈ items.map Prod.fst := by
  induction items generalizing groups with
  | nil => simp
  | cons item rest ih =>
    have hKeys : k ∈ (collect groups item).map Prod.fst ↔ k ∈ groups.map Prod.fst ∨ k = item.1 := by
      rw [collect, Dict.keys_insert]
      split_ifs with hMem
      · constructor
        · exact Or.inl
        · rintro (h | rfl)
          · exact h
          · exact hMem
      · rw [List.mem_append, List.mem_singleton]
    rw [List.foldl_cons, ih, hKeys, List.map_cons, List.mem_cons, or_assoc]

/-- The groups, from the items alone. -/
theorem grouped_eq (items : List (κ × Finset ν)) :
    grouped items = (Dict.sortedSet (items.map Prod.fst)).map fun k => (k, union items k) := by
  have hKeys : Dict.sortedSet ((collectAll items).map Prod.fst) =
      Dict.sortedSet (items.map Prod.fst) := by
    have hSame : ((collectAll items).map Prod.fst).toFinset = (items.map Prod.fst).toFinset := by
      ext k
      rw [List.mem_toFinset, List.mem_toFinset, collectAll, mem_keys_foldl_collect]
      simp
    rw [Dict.sortedSet, Dict.sortedSet, hSame]
  rw [grouped, hKeys]
  apply List.map_congr_left
  intro k _
  rw [lookup_collectAll]

theorem mem_grouped {items : List (κ × Finset ν)} {g : κ × Finset ν} :
    g ∈ grouped items ↔ g.1 ∈ items.map Prod.fst ∧ g.2 = union items g.1 := by
  rw [grouped_eq, List.mem_map]
  constructor
  · rintro ⟨k, hKey, rfl⟩
    exact ⟨Dict.mem_sortedSet.mp hKey, rfl⟩
  · rintro ⟨hKey, hUnion⟩
    exact ⟨g.1, Dict.mem_sortedSet.mpr hKey, Prod.ext rfl hUnion.symm⟩

theorem grouped_pairwise (items : List (κ × Finset ν)) :
    (grouped items).Pairwise fun a b => a.1 < b.1 := by
  rw [grouped_eq, List.pairwise_map]
  exact Dict.sortedSet_pairwise_lt _

theorem grouped_congr {items others : List (κ × Finset ν)} (same : ∀ i, i ∈ items ↔ i ∈ others) :
    grouped items = grouped others := by
  have hItems : items.toFinset = others.toFinset := by
    ext i
    rw [List.mem_toFinset, List.mem_toFinset, same]
  have hKeys : (items.map Prod.fst).toFinset = (others.map Prod.fst).toFinset := by
    ext k
    simp only [List.mem_toFinset, List.mem_map, same]
  have hUnion : ∀ k, union items k = union others k := fun k => by rw [union, union, hItems]
  rw [grouped_eq, grouped_eq, Dict.sortedSet, Dict.sortedSet, hKeys]
  exact List.map_congr_left fun k _ => by rw [hUnion]

theorem length_grouped_le (items : List (κ × Finset ν)) : (grouped items).length ≤ items.length := by
  rw [grouped_eq, List.length_map, Dict.sortedSet, Finset.length_sort]
  exact (List.toFinset_card_le _).trans (List.length_map _).le

theorem grouped_ne_nil {items : List (κ × Finset ν)} (h : items ≠ []) : grouped items ≠ [] := by
  obtain ⟨item, rest, rfl⟩ := List.exists_cons_of_ne_nil h
  have hMem : (item.1, union (item :: rest) item.1) ∈ grouped (item :: rest) :=
    mem_grouped.mpr ⟨by simp, rfl⟩
  exact List.ne_nil_of_mem hMem

/-- Groups are grouped already. -/
theorem grouped_of_pairwise {items : List (κ × Finset ν)}
    (ascending : items.Pairwise fun a b => a.1 < b.1) : grouped items = items := by
  have hKeys : Dict.sortedSet (items.map Prod.fst) = items.map Prod.fst :=
    Dict.sortedSet_eq_self_iff.mpr (List.pairwise_map.mpr ascending)
  rw [grouped_eq, hKeys, List.map_map]
  have hDistinct : (items.map Prod.fst).Nodup := List.pairwise_map.mpr (ascending.imp ne_of_lt)
  refine (List.map_congr_left fun item hItem => ?_).trans (List.map_id items)
  refine Prod.ext rfl ?_
  ext v
  rw [Function.comp_apply, mem_union]
  constructor
  · rintro ⟨other, hOther, hSame, hValue⟩
    rwa [List.inj_on_of_nodup_map hDistinct hOther hItem hSame] at hValue
  · intro hValue
    exact ⟨item, hItem, rfl, hValue⟩

end Grouping

end StockApi.Groups

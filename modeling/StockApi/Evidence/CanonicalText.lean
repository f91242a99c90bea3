import StockApi.Evidence.SelectionPolicy
import StockApi.Library.JsonbText

/-!
# The canonical text of the registry

`canonical_forecast_selection_json` undoes what the type does to the order of the keys, and it puts a
document together from the values that its schema names.
-/

namespace StockApi.Evidence

open Checked Documents Jsonb JsonText

theorem byKeyItems_eq_map (items : List Value) : byKeyItems items = items.map byKey := by
  induction items with
  | nil => rfl
  | cons x rest ih => rw [byKeyItems, List.map_cons, ih]

theorem byKeyEntries_eq_map (entries : List (String × Value)) :
    byKeyEntries entries = entries.map fun e => (e.1, byKey e.2) := by
  induction entries with
  | nil => rfl
  | cons e rest ih =>
    obtain ⟨k, x⟩ := e
    rw [byKeyEntries, List.map_cons, ih]

theorem byKey_str (s : String) : byKey (.str s) = .str s := by simp [byKey]

theorem byKey_number (n : NumberText) : byKey (.number n) = .number n := by simp [byKey]

/-- Sorting by distinct keys finds the ascending arrangement. -/
theorem sort_of_perm {entries ordered : List (String × Value)} (perm : entries.Perm ordered)
    (ascending : (ordered.map Prod.fst).Pairwise (· < ·)) :
    entries.insertionSort (fun a b => a.1 ≤ b.1) = ordered := by
  have hNodup : (ordered.map Prod.fst).Nodup := ascending.imp ne_of_lt
  have hSorted : Std.Total fun a b : String × Value => a.1 ≤ b.1 := ⟨fun a b => le_total a.1 b.1⟩
  have hTrans : IsTrans (String × Value) fun a b => a.1 ≤ b.1 := ⟨fun _ _ _ => le_trans⟩
  have hPerm := (List.perm_insertionSort (fun a b : String × Value => a.1 ≤ b.1) entries).trans perm
  refine List.Perm.eq_of_pairwise ?_ (List.pairwise_insertionSort _ _)
    ((List.pairwise_map.mp ascending).imp le_of_lt) hPerm
  intro a b ha hb hLe hGe
  exact (List.inj_on_of_nodup_map hNodup) (hPerm.mem_iff.mp ha) hb (le_antisymm hLe hGe)

mutual

/-- What the type makes of a kept value is put in order again. -/
theorem byKey_stored : (v : Value) → Kept v → byKey (stored v) = v
  | .null, _ => by simp [stored, byKey]
  | .bool b, _ => by simp [stored, byKey]
  | .number n, _ => by rw [stored, byKey_number]
  | .str s, _ => by rw [stored, byKey_str]
  | .arr items, h => by
    rw [Kept] at h
    rw [stored, byKey, byKeyItems_stored items h]
  | .obj entries, h => by
    rw [Kept] at h
    have hPerm := (List.perm_insertionSort keyLE (storedEntries entries)).map
      fun e : String × Value => (e.1, byKey e.2)
    rw [← byKeyEntries_eq_map, ← byKeyEntries_eq_map, byKeyEntries_stored entries h.2] at hPerm
    rw [stored, byKey, sort_of_perm hPerm h.1]

theorem byKeyItems_stored :
    (xs : List Value) → KeptItems xs → byKeyItems (storedItems xs) = xs
  | [], _ => rfl
  | x :: xs, h => by
    rw [KeptItems] at h
    rw [storedItems, byKeyItems, byKey_stored x h.1, byKeyItems_stored xs h.2]

theorem byKeyEntries_stored :
    (xs : List (String × Value)) → KeptEntries xs → byKeyEntries (storedEntries xs) = xs
  | [], _ => rfl
  | (k, x) :: xs, h => by
    rw [KeptEntries] at h
    rw [storedEntries, byKeyEntries, byKey_stored x h.2.1, byKeyEntries_stored xs h.2.2]

end

/-- An object in order is what its schema names. -/
theorem byKey_object {value : Value} (keyed : Keyed value) {schema : List String}
    (ascending : schema.Pairwise (· < ·)) (h : HasKeys (some value) schema) :
    byKey value = .obj (schema.map fun k => (k, ((get (some value) k).map byKey).getD .null)) := by
  obtain ⟨hObject, hAll, hOnly⟩ := h
  cases value with
  | obj entries =>
    rw [Keyed] at keyed
    have hMem : ∀ k, k ∈ entries.map Prod.fst ↔ k ∈ schema := fun k => ⟨hOnly k, hAll k⟩
    have hPerm : (entries.map Prod.fst).Perm schema :=
      (List.perm_ext_iff_of_nodup keyed.1 (ascending.imp ne_of_lt)).mpr hMem
    have hEntries : (byKeyEntries entries).Perm
        (schema.map fun k => (k, ((entries.lookup k).map byKey).getD .null)) := by
      rw [byKeyEntries_eq_map]
      refine List.Perm.trans (List.Perm.of_eq ?_) (hPerm.map _)
      rw [List.map_map]
      apply List.map_congr_left
      intro e he
      have hFound : entries.lookup e.1 = some e.2 := (Dict.lookup_eq_some_iff keyed.1).mpr he
      simp [hFound]
    have hKeys : (schema.map fun k => (k, ((entries.lookup k).map byKey).getD .null)).map Prod.fst =
        schema := by simp [Function.comp_def]
    rw [byKey, sort_of_perm hEntries (hKeys.symm ▸ ascending)]
    rfl
  | _ => cases hObject

end StockApi.Evidence

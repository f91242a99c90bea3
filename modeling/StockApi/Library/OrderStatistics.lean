import Mathlib.Data.List.Sort
import Mathlib.Data.List.FinRange
import Mathlib.Data.List.Count
import Mathlib.Data.List.Perm.Basic

/-!
# Order statistics and one value held out

The value of rank `k` of a list is characterised by counting: a value lies at or below it exactly
when fewer than `k` entries are smaller. An entry that is held out is not smaller than itself, so
the same count decides the order statistic of the list with it and without it.
-/

namespace StockApi.OrderStatistics

universe u

variable {α : Type u} [LinearOrder α]

def sorted (xs : List α) : List α := xs.insertionSort (· ≤ ·)

/-- The value of rank `k`, counted from one. -/
def ofRank (k : Nat) (xs : List α) : Option α := (sorted xs)[k - 1]?

/-- The entries below a value. -/
def below (xs : List α) (x : α) : Nat := xs.countP (· < x)

theorem sorted_pairwise (xs : List α) : (sorted xs).Pairwise (· ≤ ·) :=
  List.pairwise_insertionSort (· ≤ ·) xs

theorem sorted_perm (xs : List α) : (sorted xs).Perm xs := List.perm_insertionSort (· ≤ ·) xs

@[simp] theorem sorted_length (xs : List α) : (sorted xs).length = xs.length :=
  (sorted_perm xs).length_eq

theorem below_perm {xs ys : List α} (h : xs.Perm ys) (x : α) : below xs x = below ys x :=
  h.countP_eq _

theorem exists_ofRank {k : Nat} {xs : List α} (hPos : 0 < k) (hLe : k ≤ xs.length) :
    ∃ v, ofRank k xs = some v := by
  have hIndex : k - 1 < (sorted xs).length := by
    rw [sorted_length]
    omega
  exact ⟨(sorted xs)[k - 1], List.getElem?_eq_getElem hIndex⟩

theorem mem_of_ofRank {k : Nat} {xs : List α} {v : α} (h : ofRank k xs = some v) : v ∈ xs :=
  (sorted_perm xs).subset (List.mem_of_getElem? h)

/-! ## In an ascending list -/

section Ascending

variable {xs : List α} {i : Nat}

theorem take_le (ascending : xs.Pairwise (· ≤ ·)) (h : i < xs.length) :
    ∀ y ∈ xs.take (i + 1), y ≤ xs[i] := by
  intro y hy
  obtain ⟨j, hj, rfl⟩ := List.mem_iff_getElem.mp hy
  rw [List.length_take] at hj
  rw [List.getElem_take]
  rcases Nat.lt_or_eq_of_le (show j ≤ i by omega) with hLt | rfl
  · exact List.pairwise_iff_getElem.mp ascending j i (by omega) h hLt
  · exact le_rfl

theorem le_drop (ascending : xs.Pairwise (· ≤ ·)) (h : i < xs.length) :
    ∀ y ∈ xs.drop i, xs[i] ≤ y := by
  intro y hy
  obtain ⟨j, hj, rfl⟩ := List.mem_iff_getElem.mp hy
  rw [List.length_drop] at hj
  rw [List.getElem_drop]
  rcases Nat.eq_zero_or_pos j with rfl | hPos
  · exact le_rfl
  · exact List.pairwise_iff_getElem.mp ascending i (i + j) h (by omega) (by omega)

theorem below_eq_add (xs : List α) (i : Nat) (x : α) :
    below xs x = below (xs.take i) x + below (xs.drop i) x := by
  conv_lhs => rw [← List.take_append_drop i xs]
  exact List.countP_append

/-- The entry at a position has at most that many entries below it. -/
theorem below_getElem_le (ascending : xs.Pairwise (· ≤ ·)) (h : i < xs.length) :
    below xs xs[i] ≤ i := by
  have hRest : below (xs.drop i) xs[i] = 0 := by
    apply List.countP_eq_zero.mpr
    intro y hy
    simpa using le_drop ascending h y hy
  have hFirst : below (xs.take i) xs[i] ≤ i :=
    (List.countP_le_length).trans (List.length_take_le i xs)
  rw [below_eq_add xs i, hRest]
  exact hFirst

/-- A value lies at or below the entry at a position exactly when at most so many are below it. -/
theorem le_getElem_iff (ascending : xs.Pairwise (· ≤ ·)) (h : i < xs.length) (x : α) :
    x ≤ xs[i] ↔ below xs x ≤ i := by
  constructor
  · intro hLe
    refine le_trans ?_ (below_getElem_le ascending h)
    apply List.countP_mono_left
    intro y _ hy
    exact decide_eq_true ((of_decide_eq_true hy).trans_le hLe)
  · intro hBelow
    by_contra hLt
    have hAll : below (xs.take (i + 1)) x = (xs.take (i + 1)).length := by
      apply List.countP_eq_length.mpr
      intro y hy
      exact decide_eq_true ((take_le ascending h y hy).trans_lt (not_le.mp hLt))
    rw [below_eq_add xs (i + 1), hAll, List.length_take] at hBelow
    omega

end Ascending

theorem le_ofRank_iff {k : Nat} {xs : List α} {v : α} (hPos : 0 < k) (h : ofRank k xs = some v)
    (x : α) : x ≤ v ↔ below xs x < k := by
  obtain ⟨hIndex, rfl⟩ := List.getElem?_eq_some_iff.mp h
  rw [le_getElem_iff (sorted_pairwise xs) hIndex, below_perm (sorted_perm xs)]
  omega

/-! ## One entry held out -/

theorem below_eraseIdx (xs : List α) {i : Nat} (h : i < xs.length) :
    below (xs.eraseIdx i) xs[i] = below xs xs[i] := by
  have hPerm : xs.Perm (xs[i] :: xs.eraseIdx i) := (List.getElem_cons_eraseIdx_perm h).symm
  rw [below_perm hPerm xs[i], below, below, List.countP_cons_of_neg]
  simp

/-- The entries with fewer than `k` entries below them. -/
def lowest (k : Nat) (xs : List α) : Nat := xs.countP fun x => below xs x < k

theorem lowest_perm {k : Nat} {xs ys : List α} (h : xs.Perm ys) : lowest k xs = lowest k ys := by
  unfold lowest
  rw [h.countP_eq]
  apply List.countP_congr
  intro x _
  rw [below_perm h]

theorem le_lowest {k : Nat} {xs : List α} (h : k ≤ xs.length) : k ≤ lowest k xs := by
  rw [← lowest_perm (sorted_perm xs)]
  have hLength : k ≤ (sorted xs).length := by simpa using h
  have hAll : ((sorted xs).take k).countP (fun x => below (sorted xs) x < k) = k := by
    rw [List.countP_eq_length.mpr, List.length_take, Nat.min_eq_left hLength]
    intro x hx
    obtain ⟨j, hj, rfl⟩ := List.mem_iff_getElem.mp hx
    rw [List.length_take] at hj
    rw [List.getElem_take]
    have := below_getElem_le (sorted_pairwise xs) (show j < (sorted xs).length by omega)
    exact decide_eq_true (by omega)
  calc
    k = ((sorted xs).take k).countP (fun x => below (sorted xs) x < k) := hAll.symm
    _ ≤ lowest k (sorted xs) := (List.take_sublist k _).countP_le

/-- Without ties exactly `k` entries have fewer than `k` entries below them. -/
theorem lowest_of_nodup {k : Nat} {xs : List α} (h : k ≤ xs.length) (distinct : xs.Nodup) :
    lowest k xs = k := by
  apply le_antisymm _ (le_lowest h)
  rw [← lowest_perm (sorted_perm xs)]
  have hDistinct : (sorted xs).Nodup := (sorted_perm xs).nodup_iff.mpr distinct
  have hStrict : (sorted xs).Pairwise (· < ·) :=
    ((sorted_pairwise xs).and hDistinct).imp fun h => lt_of_le_of_ne h.1 h.2
  have hRest : ((sorted xs).drop k).countP (fun x => below (sorted xs) x < k) = 0 := by
    apply List.countP_eq_zero.mpr
    intro x hx
    obtain ⟨j, hj, rfl⟩ := List.mem_iff_getElem.mp hx
    rw [List.length_drop] at hj
    rw [List.getElem_drop]
    have hBelow : below ((sorted xs).take k) (sorted xs)[k + j] = ((sorted xs).take k).length := by
      apply List.countP_eq_length.mpr
      intro y hy
      obtain ⟨m, hm, rfl⟩ := List.mem_iff_getElem.mp hy
      rw [List.length_take] at hm
      rw [List.getElem_take]
      exact decide_eq_true (List.pairwise_iff_getElem.mp hStrict m (k + j) _ _ (by omega))
    rw [decide_eq_true_eq, not_lt, below_eq_add (sorted xs) k, hBelow, List.length_take]
    omega
  have hSplit : lowest k (sorted xs) =
      ((sorted xs).take k).countP (fun x => below (sorted xs) x < k) +
        ((sorted xs).drop k).countP (fun x => below (sorted xs) x < k) := by
    rw [← List.countP_append, List.take_append_drop]
    rfl
  rw [hSplit, hRest, Nat.add_zero]
  exact List.countP_le_length.trans (List.length_take_le k _)

/-- The positions whose entry lies at or below the value of rank `k` of the other entries. -/
def coveredPositions (k : Nat) (xs : List α) : Nat :=
  (List.finRange xs.length).countP fun i : Fin xs.length =>
    (ofRank k (xs.eraseIdx i)).any fun v => xs[i] ≤ v

theorem coveredPositions_eq {k : Nat} {xs : List α} (hPos : 0 < k) (h : k < xs.length) :
    coveredPositions k xs = lowest k xs := by
  have hEach : ∀ i : Fin xs.length,
      ((ofRank k (xs.eraseIdx i)).any fun v => decide (xs[i] ≤ v)) = decide (below xs xs[i] < k) := by
    intro i
    have hRest : k ≤ (xs.eraseIdx i).length := by
      rw [List.length_eraseIdx_of_lt i.isLt]
      omega
    obtain ⟨v, hv⟩ := exists_ofRank hPos hRest
    rw [hv, Option.any_some, decide_eq_decide, le_ofRank_iff hPos hv, Fin.getElem_fin,
      below_eraseIdx xs i.isLt]
  calc
    coveredPositions k xs
        = (List.finRange xs.length).countP fun i : Fin xs.length => decide (below xs xs[i] < k) := by
      apply List.countP_congr
      intro i _
      rw [hEach i]
    _ = ((List.finRange xs.length).map fun i => xs[i.1]).countP fun x => decide (below xs x < k) := by
      rw [List.countP_map]
      rfl
    _ = lowest k xs := by
      rw [List.map_getElem_finRange]
      rfl

end StockApi.OrderStatistics

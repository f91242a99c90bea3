import StockApi.Library.Numerals
import StockApi.Library.OrderStatistics
import Mathlib.Algebra.Order.Field.Basic
import Mathlib.Data.List.GetD
import Mathlib.Algebra.Order.Floor.Semiring
import Mathlib.Tactic.Linarith
import Mathlib.Tactic.Ring

/-!
# Interpolated order statistics

The quantile of an ascending list at a probability is interpolated between the two entries around
the position `(n - 1) * probability`. It does not fall when the probability rises.
-/

namespace StockApi.OrderStatistics

universe u

variable {K : Type u} [Field K] [LinearOrder K]

section Interpolation

variable [FloorSemiring K]

/-- Between two neighbouring entries of a sequence, in proportion. -/
def interpolate (f : Nat → K) (x : K) : K :=
  f ⌊x⌋₊ + (x - (⌊x⌋₊ : K)) * (f (⌊x⌋₊ + 1) - f ⌊x⌋₊)

variable [IsStrictOrderedRing K] {f : Nat → K} {x y : K}

theorem interpolate_le_next (mono : Monotone f) : interpolate f x ≤ f (⌊x⌋₊ + 1) := by
  have hStep : f ⌊x⌋₊ ≤ f (⌊x⌋₊ + 1) := mono (Nat.le_succ _)
  have hPart : x - (⌊x⌋₊ : K) ≤ 1 := by
    have := (Nat.lt_floor_add_one x).le
    linarith
  have hScaled := mul_le_mul_of_nonneg_right hPart (sub_nonneg.mpr hStep)
  unfold interpolate
  linarith

theorem le_interpolate (mono : Monotone f) (nonneg : 0 ≤ x) : f ⌊x⌋₊ ≤ interpolate f x := by
  have hStep : f ⌊x⌋₊ ≤ f (⌊x⌋₊ + 1) := mono (Nat.le_succ _)
  have hPart : 0 ≤ x - (⌊x⌋₊ : K) := sub_nonneg.mpr (Nat.floor_le nonneg)
  have hScaled := mul_nonneg hPart (sub_nonneg.mpr hStep)
  unfold interpolate
  linarith

theorem interpolate_mono (mono : Monotone f) (nonneg : 0 ≤ x) (h : x ≤ y) : interpolate f x ≤ interpolate f y := by
  rcases Nat.lt_or_eq_of_le (Nat.floor_mono h) with hLess | hSame
  · calc interpolate f x ≤ f (⌊x⌋₊ + 1) := interpolate_le_next mono
      _ ≤ f ⌊y⌋₊ := mono hLess
      _ ≤ interpolate f y := le_interpolate mono (nonneg.trans h)
  · have hStep : 0 ≤ f (⌊y⌋₊ + 1) - f ⌊y⌋₊ := sub_nonneg.mpr (mono (Nat.le_succ _))
    have hScaled := mul_le_mul_of_nonneg_right (sub_le_sub_right h (⌊y⌋₊ : K)) hStep
    unfold interpolate
    rw [hSame]
    linarith

end Interpolation

section Quantile

variable [FloorSemiring K]

/-- The quantile of an ascending list. -/
def linearQuantile (ordered : List K) (probability : K) : K :=
  let position := ((ordered.length - 1 : Nat) : K) * probability
  let lowerIndex := ⌊position⌋₊
  let fraction := position - (lowerIndex : K)
  if fraction = 0 then ordered.getD lowerIndex 0
  else (1 - fraction) * ordered.getD lowerIndex 0 + fraction * ordered.getD (lowerIndex + 1) 0

variable [IsStrictOrderedRing K] {ordered : List K} {p q : K}

/-- The entries as a sequence that stays at the last one. -/
def entry (ordered : List K) (i : Nat) : K := ordered.getD (min i (ordered.length - 1)) 0

omit [FloorSemiring K] [IsStrictOrderedRing K] in
theorem entry_monotone (nonempty : ordered ≠ []) (ascending : ordered.Pairwise (· ≤ ·)) :
    Monotone (entry ordered) := by
  have hPos := List.length_pos_iff.mpr nonempty
  have hEntry : ∀ i, entry ordered i = ordered[min i (ordered.length - 1)] := fun i =>
    List.getD_eq_getElem _ _ (by omega)
  intro i j h
  rw [hEntry, hEntry]
  rcases Nat.lt_or_eq_of_le (min_le_min_right (ordered.length - 1) h) with hLess | hSame
  · exact List.pairwise_iff_getElem.mp ascending _ _ (by omega) (by omega) hLess
  · exact (getElem_congr_idx hSame).le

theorem linearQuantile_eq (nonempty : ordered ≠ []) (range : 0 ≤ p ∧ p ≤ 1) :
    linearQuantile ordered p = interpolate (entry ordered) (((ordered.length - 1 : Nat) : K) * p) := by
  have hPos := List.length_pos_iff.mpr nonempty
  have hLast : (0 : K) ≤ ((ordered.length - 1 : Nat) : K) := Nat.cast_nonneg _
  have hNonneg : 0 ≤ ((ordered.length - 1 : Nat) : K) * p := mul_nonneg hLast range.1
  have hMost : ((ordered.length - 1 : Nat) : K) * p ≤ ((ordered.length - 1 : Nat) : K) :=
    mul_le_of_le_one_right hLast range.2
  have hIndex : ⌊((ordered.length - 1 : Nat) : K) * p⌋₊ ≤ ordered.length - 1 := by
    have hFloor := Nat.floor_mono hMost
    rwa [Nat.floor_natCast] at hFloor
  have hLower : entry ordered ⌊((ordered.length - 1 : Nat) : K) * p⌋₊ =
      ordered.getD ⌊((ordered.length - 1 : Nat) : K) * p⌋₊ 0 := by
    rw [entry, Nat.min_eq_left hIndex]
  unfold linearQuantile interpolate
  dsimp only
  split_ifs with hWhole
  · rw [hWhole, hLower, zero_mul, add_zero]
  · have hBelow : ⌊((ordered.length - 1 : Nat) : K) * p⌋₊ < ordered.length - 1 := by
      refine Nat.lt_of_le_of_ne hIndex fun hSame => hWhole ?_
      have hFloor := Nat.floor_le hNonneg
      rw [hSame] at hFloor ⊢
      exact sub_eq_zero.mpr (le_antisymm hMost hFloor)
    have hUpper : entry ordered (⌊((ordered.length - 1 : Nat) : K) * p⌋₊ + 1) =
        ordered.getD (⌊((ordered.length - 1 : Nat) : K) * p⌋₊ + 1) 0 := by
      rw [entry, Nat.min_eq_left (by omega)]
    rw [hLower, hUpper]
    ring

theorem linearQuantile_mono (nonempty : ordered ≠ []) (ascending : ordered.Pairwise (· ≤ ·)) (low : 0 ≤ p)
    (h : p ≤ q) (high : q ≤ 1) : linearQuantile ordered p ≤ linearQuantile ordered q := by
  have hLast : (0 : K) ≤ ((ordered.length - 1 : Nat) : K) := Nat.cast_nonneg _
  rw [linearQuantile_eq nonempty ⟨low, h.trans high⟩, linearQuantile_eq nonempty ⟨low.trans h, high⟩]
  exact interpolate_mono (entry_monotone nonempty ascending) (mul_nonneg hLast low)
    (mul_le_mul_of_nonneg_left h hLast)

/-! ## Another unit -/

omit [IsStrictOrderedRing K] in
theorem linearQuantile_scale (c : K) (ordered : List K) (p : K) :
    linearQuantile (ordered.map (c * ·)) p = c * linearQuantile ordered p := by
  have hGet : ∀ i, (ordered.map (c * ·)).getD i 0 = c * ordered.getD i 0 := by
    intro i
    rw [List.getD_eq_getElem?_getD, List.getD_eq_getElem?_getD, List.getElem?_map]
    cases ordered[i]? with
    | none => exact (mul_zero c).symm
    | some v => rfl
  simp only [linearQuantile, List.length_map, hGet]
  split_ifs
  · rfl
  · ring

omit [FloorSemiring K] in
theorem sorted_scale {c : K} (pos : 0 < c) (xs : List K) : sorted (xs.map (c * ·)) = (sorted xs).map (c * ·) := by
  have hAscending : ((sorted xs).map (c * ·)).Pairwise (· ≤ ·) := by
    rw [List.pairwise_map]
    exact (sorted_pairwise xs).imp fun h => mul_le_mul_of_nonneg_left h pos.le
  have hPerm : (sorted (xs.map (c * ·))).Perm ((sorted xs).map (c * ·)) :=
    (sorted_perm _).trans ((sorted_perm xs).symm.map _)
  exact hPerm.eq_of_pairwise (fun _ _ _ _ hLow hHigh => le_antisymm hLow hHigh) (sorted_pairwise _) hAscending

end Quantile

end StockApi.OrderStatistics

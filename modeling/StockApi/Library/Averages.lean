import StockApi.Library.Numerals
import Mathlib.Algebra.Order.Field.Basic
import Mathlib.Algebra.Order.BigOperators.Group.List
import Mathlib.Algebra.BigOperators.Ring.List
import Mathlib.Data.List.ProdSigma
import Mathlib.Tactic.FieldSimp
import Mathlib.Tactic.Linarith
import Mathlib.Tactic.Ring

/-!
# Averages of lists and tables

The average of the averages of the rows of a table is the average of all its cells, and may be taken by
columns as well. The square of an average is at most the average of the squares.
-/

namespace StockApi.Averages

universe u v

variable {K : Type*} [Field K] {α : Type u} {β : Type v}

def mean (xs : List K) : K := xs.sum / (xs.length : K)

theorem mean_nil : mean ([] : List K) = 0 := by rw [mean, List.sum_nil, zero_div]

theorem mean_mul_left (c : K) (f : α → K) (xs : List α) :
    mean (xs.map fun x => c * f x) = c * mean (xs.map f) := by
  rw [mean, mean, List.sum_map_mul_left, List.length_map, List.length_map, mul_div_assoc]

theorem mean_div (d : K) (f : α → K) (xs : List α) :
    mean (xs.map fun x => f x / d) = mean (xs.map f) / d := by
  have hScaled := mean_mul_left d⁻¹ f xs
  simp only [inv_mul_eq_div] at hScaled
  exact hScaled

/-! ## Tables -/

section Tables

variable (rows : List α) (columns : List β) (f : α → β → K)

theorem sum_product : ((rows ×ˢ columns).map fun p => f p.1 p.2).sum =
    (rows.map fun r => (columns.map (f r)).sum).sum := by
  induction rows with
  | nil => rfl
  | cons r rest ih =>
    rw [List.product_cons, List.map_append, List.sum_append, ih, List.map_map, List.map_cons, List.sum_cons]
    rfl

theorem sum_swap : (rows.map fun r => (columns.map (f r)).sum).sum =
    (columns.map fun c => (rows.map fun r => f r c).sum).sum := by
  induction rows with
  | nil =>
    symm
    apply List.sum_eq_zero
    intro x hx
    obtain ⟨c, -, rfl⟩ := List.mem_map.mp hx
    rfl
  | cons r rest ih =>
    simp only [List.map_cons, List.sum_cons]
    rw [ih, List.sum_map_add]

theorem mean_rows : mean (rows.map fun r => mean (columns.map (f r))) =
    (rows.map fun r => (columns.map (f r)).sum).sum / ((rows.length : K) * (columns.length : K)) := by
  have hRows : (rows.map fun r => mean (columns.map (f r))) =
      rows.map fun r => (columns.map (f r)).sum / (columns.length : K) := by
    apply List.map_congr_left
    intro r _
    rw [mean, List.length_map]
  rw [hRows, mean_div, mean, List.length_map, div_div]

/-- All cells at once, row by row. -/
theorem mean_product : mean ((rows ×ˢ columns).map fun p => f p.1 p.2) =
    mean (rows.map fun r => mean (columns.map (f r))) := by
  rw [mean_rows, mean, sum_product, List.length_map, List.length_product, Nat.cast_mul]

theorem mean_swap : mean (rows.map fun r => mean (columns.map (f r))) =
    mean (columns.map fun c => mean (rows.map fun r => f r c)) := by
  rw [mean_rows, mean_rows columns rows fun c r => f r c, sum_swap, mul_comm (rows.length : K)]

end Tables

/-! ## Order -/

section Order

variable [LinearOrder K] [IsStrictOrderedRing K]

theorem mean_nonneg {xs : List K} (h : ∀ x ∈ xs, 0 ≤ x) : 0 ≤ mean xs :=
  div_nonneg (List.sum_nonneg h) (Nat.cast_nonneg _)

omit [LinearOrder K] [IsStrictOrderedRing K] in
theorem sum_sq_deviation (m : K) (xs : List K) : (xs.map fun x => (x - m) ^ 2).sum =
    (xs.map (· ^ 2)).sum - 2 * m * xs.sum + (xs.length : K) * m ^ 2 := by
  induction xs with
  | nil => simp
  | cons x rest ih =>
    rw [List.map_cons, List.sum_cons, ih, List.map_cons, List.sum_cons, List.sum_cons, List.length_cons]
    push_cast
    ring

/-- The deviations from the average have a nonnegative square. -/
theorem sq_mean_le (xs : List K) : mean xs ^ 2 ≤ mean (xs.map (· ^ 2)) := by
  rcases Nat.eq_zero_or_pos xs.length with hNil | hSome
  · rw [List.eq_nil_of_length_eq_zero hNil, List.map_nil, mean_nil, zero_pow two_ne_zero]
  · have hPos : (0 : K) < (xs.length : K) := by exact_mod_cast hSome
    have hDeviation : 0 ≤ (xs.map fun x => (x - mean xs) ^ 2).sum := by
      apply List.sum_nonneg
      intro y hy
      obtain ⟨x, -, rfl⟩ := List.mem_map.mp hy
      exact sq_nonneg _
    have hSum : xs.sum = mean xs * (xs.length : K) := by
      rw [mean, div_mul_cancel₀ _ hPos.ne']
    have hSquares : mean (xs.map (· ^ 2)) = (xs.map (· ^ 2)).sum / (xs.length : K) := by
      rw [mean, List.length_map]
    rw [sum_sq_deviation, hSum] at hDeviation
    rw [hSquares, le_div_iff₀ hPos]
    linarith

end Order

end StockApi.Averages

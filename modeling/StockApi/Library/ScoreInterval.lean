import StockApi.Library.Numerals
import Mathlib.Analysis.Real.Sqrt
import Mathlib.Tactic.FieldSimp
import Mathlib.Tactic.Linarith
import Mathlib.Tactic.Positivity
import Mathlib.Tactic.Ring

/-!
# The interval of the score test

A rate `t` passes the score test of a proportion `p` observed in a sample of size `n` when
`(p - t) ^ 2 ≤ z ^ 2 * t * (1 - t) / n`. The rates that pass form the interval with `center` and
`margin`. Order, nesting and symmetry of the intervals are read from the test.
-/

namespace StockApi.ScoreInterval

/-- The score test. -/
def Passes (p n z t : ℝ) : Prop := (p - t) ^ 2 ≤ z ^ 2 * t * (1 - t) / n

noncomputable def center (p n z : ℝ) : ℝ := (p + z ^ 2 / (2 * n)) / (1 + z ^ 2 / n)

noncomputable def margin (p n z : ℝ) : ℝ :=
  z * √(p * (1 - p) / n + z ^ 2 / (4 * n * n)) / (1 + z ^ 2 / n)

noncomputable def lower (p n z : ℝ) : ℝ := center p n z - margin p n z

noncomputable def upper (p n z : ℝ) : ℝ := center p n z + margin p n z

section Interval

variable {p n z : ℝ}

theorem denominator_pos (hn : 0 < n) : 0 < 1 + z ^ 2 / n := by positivity

theorem radicand_nonneg (hp : 0 ≤ p ∧ p ≤ 1) (hn : 0 < n) :
    0 ≤ p * (1 - p) / n + z ^ 2 / (4 * n * n) := by
  have hProduct : 0 ≤ p * (1 - p) := mul_nonneg hp.1 (sub_nonneg.mpr hp.2)
  positivity

theorem margin_nonneg (hn : 0 < n) (hz : 0 ≤ z) : 0 ≤ margin p n z :=
  div_nonneg (mul_nonneg hz (Real.sqrt_nonneg _)) (denominator_pos hn).le

/-- The square of the margin is the discriminant of the test. -/
theorem margin_sq (hp : 0 ≤ p ∧ p ≤ 1) (hn : 0 < n) :
    margin p n z ^ 2 = center p n z ^ 2 - p ^ 2 / (1 + z ^ 2 / n) := by
  have hDenominator := (denominator_pos (z := z) hn).ne'
  rw [margin, center, div_pow, mul_pow, Real.sq_sqrt (radicand_nonneg hp hn)]
  field_simp
  ring

/-- The rates that pass are those within the margin of the center. -/
theorem passes_iff (hp : 0 ≤ p ∧ p ≤ 1) (hn : 0 < n) (hz : 0 ≤ z) (t : ℝ) :
    Passes p n z t ↔ lower p n z ≤ t ∧ t ≤ upper p n z := by
  have hDenominator : 0 < 1 + z ^ 2 / n := denominator_pos hn
  -- the test is a quadratic in the rate, completed to a square around the center
  have hSquare : z ^ 2 * t * (1 - t) / n - (p - t) ^ 2 =
      (1 + z ^ 2 / n) * (margin p n z ^ 2 - (t - center p n z) ^ 2) := by
    rw [margin_sq hp hn, center]
    field_simp
    ring
  calc
    Passes p n z t ↔ 0 ≤ z ^ 2 * t * (1 - t) / n - (p - t) ^ 2 := sub_nonneg.symm
    _ ↔ 0 ≤ margin p n z ^ 2 - (t - center p n z) ^ 2 := by
      rw [hSquare, mul_nonneg_iff_of_pos_left hDenominator]
    _ ↔ |t - center p n z| ≤ margin p n z := by
      rw [sub_nonneg, sq_le_sq, abs_of_nonneg (margin_nonneg hn hz)]
    _ ↔ lower p n z ≤ t ∧ t ≤ upper p n z := by
      rw [abs_le, neg_le_sub_iff_le_add, lower, upper, sub_le_iff_le_add, sub_le_iff_le_add,
        add_comm (margin p n z)]

theorem lower_le_upper (hn : 0 < n) (hz : 0 ≤ z) : lower p n z ≤ upper p n z := by
  have := margin_nonneg (p := p) hn hz
  rw [lower, upper]
  linarith

theorem lower_passes (hp : 0 ≤ p ∧ p ≤ 1) (hn : 0 < n) (hz : 0 ≤ z) :
    Passes p n z (lower p n z) :=
  (passes_iff hp hn hz _).mpr ⟨le_rfl, lower_le_upper hn hz⟩

theorem upper_passes (hp : 0 ≤ p ∧ p ≤ 1) (hn : 0 < n) (hz : 0 ≤ z) :
    Passes p n z (upper p n z) :=
  (passes_iff hp hn hz _).mpr ⟨lower_le_upper hn hz, le_rfl⟩

/-- The proportion itself passes. -/
theorem proportion_passes (hp : 0 ≤ p ∧ p ≤ 1) (hn : 0 < n) : Passes p n z p := by
  have hProduct : 0 ≤ z ^ 2 * p * (1 - p) :=
    mul_nonneg (mul_nonneg (sq_nonneg z) hp.1) (sub_nonneg.mpr hp.2)
  rw [Passes, sub_self, zero_pow two_ne_zero]
  exact div_nonneg hProduct hn.le

/-- Only rates pass. -/
theorem mem_of_passes (hp : 0 ≤ p ∧ p ≤ 1) (hn : 0 < n) {t : ℝ} (h : Passes p n z t) :
    0 ≤ t ∧ t ≤ 1 := by
  have hRight : 0 ≤ z ^ 2 * (t * (1 - t)) := by
    have hBound := (sq_nonneg (p - t)).trans h
    rw [le_div_iff₀ hn, zero_mul, mul_assoc] at hBound
    exact hBound
  rcases eq_or_ne z 0 with rfl | hz
  · have hZero : (p - t) ^ 2 ≤ 0 := by
      rw [Passes] at h
      simpa using h
    obtain rfl : p = t := sub_eq_zero.mp (pow_eq_zero_iff two_ne_zero |>.mp
      (le_antisymm hZero (sq_nonneg _)))
    exact hp
  · have hProduct : 0 ≤ t * (1 - t) := nonneg_of_mul_nonneg_right hRight (by positivity)
    constructor
    · by_contra hNeg
      exact absurd hProduct (not_le.mpr (mul_neg_of_neg_of_pos (not_le.mp hNeg) (by linarith)))
    · by_contra hBig
      exact absurd hProduct (not_le.mpr (mul_neg_of_pos_of_neg (by linarith) (by linarith)))

theorem bounds_mem (hp : 0 ≤ p ∧ p ≤ 1) (hn : 0 < n) (hz : 0 ≤ z) :
    0 ≤ lower p n z ∧ lower p n z ≤ p ∧ p ≤ upper p n z ∧ upper p n z ≤ 1 := by
  obtain ⟨hLow, hHigh⟩ := (passes_iff hp hn hz p).mp (proportion_passes hp hn)
  exact ⟨(mem_of_passes hp hn (lower_passes hp hn hz)).1, hLow, hHigh,
    (mem_of_passes hp hn (upper_passes hp hn hz)).2⟩

theorem lower_zero (hn : 0 < n) (hz : 0 ≤ z) : lower 0 n z = 0 := by
  have hp : (0 : ℝ) ≤ 0 ∧ (0 : ℝ) ≤ 1 := ⟨le_rfl, zero_le_one⟩
  obtain ⟨hNonneg, hLe, -, -⟩ := bounds_mem hp hn hz
  exact le_antisymm hLe hNonneg

theorem upper_one (hn : 0 < n) (hz : 0 ≤ z) : upper 1 n z = 1 := by
  have hp : (0 : ℝ) ≤ 1 ∧ (1 : ℝ) ≤ 1 := ⟨zero_le_one, le_rfl⟩
  obtain ⟨-, -, hLe, hOne⟩ := bounds_mem hp hn hz
  exact le_antisymm hOne hLe

end Interval

section Order

variable {p q n z w : ℝ}

/-- A greater proportion has a greater interval. -/
theorem bounds_mono (hp : 0 ≤ p ∧ p ≤ 1) (hq : 0 ≤ q ∧ q ≤ 1) (hn : 0 < n) (hz : 0 ≤ z)
    (h : p ≤ q) : lower p n z ≤ lower q n z ∧ upper p n z ≤ upper q n z := by
  obtain ⟨-, hLow, -, -⟩ := bounds_mem hp hn hz
  obtain ⟨-, -, hHigh, -⟩ := bounds_mem hq hn hz
  constructor
  · rcases le_total p (lower q n z) with hAbove | hBelow
    · exact hLow.trans hAbove
    · -- a rate below both proportions is nearer to the smaller one
      have hNearer : (p - lower q n z) ^ 2 ≤ (q - lower q n z) ^ 2 :=
        pow_le_pow_left₀ (sub_nonneg.mpr hBelow) (sub_le_sub_right h _) 2
      exact ((passes_iff hp hn hz _).mp (hNearer.trans (lower_passes hq hn hz))).1
  · rcases le_total (upper p n z) q with hBelow | hAbove
    · exact hBelow.trans hHigh
    · have hNearer : (q - upper p n z) ^ 2 ≤ (p - upper p n z) ^ 2 := by
        rw [← neg_sub, neg_sq, ← neg_sub (upper p n z) p, neg_sq]
        exact pow_le_pow_left₀ (sub_nonneg.mpr hAbove) (sub_le_sub_left h _) 2
      exact ((passes_iff hq hn hz _).mp (hNearer.trans (upper_passes hp hn hz))).2

/-- A rate that passes with a smaller score passes with a larger one. -/
theorem passes_mono (hp : 0 ≤ p ∧ p ≤ 1) (hn : 0 < n) (hz : 0 ≤ z) (h : z ≤ w) {t : ℝ}
    (passes : Passes p n z t) : Passes p n w t := by
  obtain ⟨hNonneg, hOne⟩ := mem_of_passes hp hn passes
  have hProduct : 0 ≤ t * (1 - t) := mul_nonneg hNonneg (sub_nonneg.mpr hOne)
  have hSquares : z ^ 2 ≤ w ^ 2 := pow_le_pow_left₀ hz h 2
  refine le_trans passes (div_le_div_of_nonneg_right ?_ hn.le)
  rw [mul_assoc, mul_assoc]
  exact mul_le_mul_of_nonneg_right hSquares hProduct

theorem bounds_nested (hp : 0 ≤ p ∧ p ≤ 1) (hn : 0 < n) (hz : 0 ≤ z) (h : z ≤ w) :
    lower p n w ≤ lower p n z ∧ upper p n z ≤ upper p n w :=
  ⟨((passes_iff hp hn (hz.trans h) _).mp (passes_mono hp hn hz h (lower_passes hp hn hz))).1,
    ((passes_iff hp hn (hz.trans h) _).mp (passes_mono hp hn hz h (upper_passes hp hn hz))).2⟩

/-- The complement of a proportion has the mirrored interval. -/
theorem bounds_mirror (hn : 0 < n) :
    lower (1 - p) n z = 1 - upper p n z ∧ upper (1 - p) n z = 1 - lower p n z := by
  have hDenominator := (denominator_pos (z := z) hn).ne'
  have hCenter : center (1 - p) n z = 1 - center p n z := by
    rw [center, center]
    field_simp
    ring
  have hMargin : margin (1 - p) n z = margin p n z := by
    rw [margin, margin, sub_sub_cancel, mul_comm (1 - p) p]
  rw [lower, upper, lower, upper, hCenter, hMargin]
  constructor <;> ring

end Order

end StockApi.ScoreInterval

import StockApi.Features.Causality
import Mathlib.Algebra.BigOperators.Ring.List
import Mathlib.Data.List.MinMax

/-!
# Bounds on the indicators

Averages lie between the least and the greatest of their values; deviations and ranges are not
negative.
-/

namespace StockApi.Features

open Checked Series

section Bounds

variable {K : Type} [Field K] [LinearOrder K] [IsStrictOrderedRing K]

/-! ## Magnitudes and means -/

omit [Field K] [IsStrictOrderedRing K] in
theorem foldl_max_le {xs : List K} {a b : K} : xs.foldl max a ≤ b ↔ a ≤ b ∧ ∀ x ∈ xs, x ≤ b := by
  induction xs generalizing a with
  | nil => simp
  | cons x rest ih => rw [List.foldl_cons, ih, max_le_iff, List.forall_mem_cons, and_assoc]

omit [IsStrictOrderedRing K] in
theorem greatestMagnitude_nonneg (values : List K) : 0 ≤ greatestMagnitude values :=
  (foldl_max_le.mp (le_refl (greatestMagnitude values))).1

omit [IsStrictOrderedRing K] in
theorem abs_le_greatestMagnitude {values : List K} {v : K} (h : v ∈ values) :
    |v| ≤ greatestMagnitude values :=
  (foldl_max_le.mp (le_refl (greatestMagnitude values))).2 _ (List.mem_map.mpr ⟨v, h, rfl⟩)

theorem eq_zero_of_greatestMagnitude {values : List K} (h : greatestMagnitude values = 0) :
    ∀ v ∈ values, v = 0 := by
  intro v hv
  have hAbs := abs_le_greatestMagnitude hv
  rw [h] at hAbs
  exact abs_eq_zero.mp (le_antisymm hAbs (abs_nonneg v))

/-- Scaling by the greatest magnitude and back is exact. -/
theorem meanValue_eq (values : List K) : meanValue values = values.sum / (values.length : K) := by
  unfold meanValue
  split_ifs with h
  · have hSum : values.sum = 0 := List.sum_eq_zero (eq_zero_of_greatestMagnitude h)
    rw [hSum, zero_div]
  · have hDivide : (values.map fun v => v / greatestMagnitude values).sum =
        values.sum / greatestMagnitude values := by
      simp only [div_eq_mul_inv, List.sum_map_mul_right, List.map_id']
    rw [hDivide, ← mul_div_assoc, mul_div_cancel₀ _ h]

theorem meanValue_mem {values : List K} (nonempty : values ≠ []) {lo hi : K}
    (h : ∀ v ∈ values, lo ≤ v ∧ v ≤ hi) : lo ≤ meanValue values ∧ meanValue values ≤ hi := by
  have hPos : (0 : K) < (values.length : K) := Nat.cast_pos.mpr (List.length_pos_iff.mpr nonempty)
  have hLow := List.card_nsmul_le_sum values lo fun v hv => (h v hv).1
  have hHigh := List.sum_le_card_nsmul values hi fun v hv => (h v hv).2
  rw [nsmul_eq_mul] at hLow hHigh
  rw [meanValue_eq, le_div_iff₀ hPos, div_le_iff₀ hPos]
  exact ⟨by linarith, by linarith⟩

/-- Some value is at most the mean and some value at least the mean. -/
def Between (values : List K) (v : K) : Prop := (∃ a ∈ values, a ≤ v) ∧ ∃ b ∈ values, v ≤ b

omit [Field K] [IsStrictOrderedRing K] in
theorem between_of_bounds {values : List K} (nonempty : values ≠ []) {v : K}
    (h : ∀ lo hi, (∀ x ∈ values, lo ≤ x ∧ x ≤ hi) → lo ≤ v ∧ v ≤ hi) : Between values v := by
  obtain ⟨least, hLeast⟩ := Option.ne_none_iff_exists'.mp (mt List.argmin_eq_none.mp nonempty : values.argmin id ≠ none)
  obtain ⟨greatest, hGreatest⟩ := Option.ne_none_iff_exists'.mp (mt List.argmax_eq_none.mp nonempty :
    values.argmax id ≠ none)
  obtain ⟨hLow, hHigh⟩ := h least greatest fun x hx =>
    ⟨List.le_of_mem_argmin hx hLeast, List.le_of_mem_argmax hx hGreatest⟩
  exact ⟨⟨least, List.argmin_mem hLeast, hLow⟩, greatest, List.argmax_mem hGreatest, hHigh⟩

theorem lastSma_between {window : Nat} (pos : 0 < window) {p : List K} {v : K} (h : lastSma window p = some v) :
    Between p v := by
  obtain ⟨hLong, rfl⟩ := windowed_eq_some h
  have hNonempty : p.drop (p.length - window) ≠ [] := by
    rw [← List.length_pos_iff, List.length_drop]
    omega
  apply between_of_bounds
  · intro hNil
    apply hNonempty
    rw [hNil, List.drop_nil]
  · intro lo hi hBounds
    exact meanValue_mem hNonempty fun x hx => hBounds x (List.mem_of_mem_drop hx)

theorem smooth_mem {span : Nat} (pos : 0 < span) {previous v lo hi : K} (hPrevious : lo ≤ previous ∧ previous ≤ hi)
    (hv : lo ≤ v ∧ v ≤ hi) : lo ≤ smooth span previous v ∧ smooth span previous v ≤ hi := by
  have hSpan : (1 : K) ≤ (span : K) := Nat.one_le_cast.mpr pos
  have hPos : (0 : K) < (span : K) + 1 := by linarith
  have hAlpha : 0 ≤ 2 / ((span : K) + 1) := by positivity
  have hRest : 0 ≤ 1 - 2 / ((span : K) + 1) := by
    rw [sub_nonneg, div_le_one hPos]
    linarith
  unfold smooth
  constructor
  · nlinarith [mul_le_mul_of_nonneg_left hv.1 hAlpha, mul_le_mul_of_nonneg_left hPrevious.1 hRest]
  · nlinarith [mul_le_mul_of_nonneg_left hv.2 hAlpha, mul_le_mul_of_nonneg_left hPrevious.2 hRest]

theorem lastEma_between {span : Nat} (pos : 0 < span) {p : List K} {v : K} (h : lastEma span p = some v) :
    Between p v := by
  have hLong : span ≤ p.length := by
    by_contra hShort
    rw [lastEma, settled, if_pos (not_le.mp hShort)] at h
    cases h
  apply between_of_bounds
  · rw [← List.length_pos_iff]
    omega
  · intro lo hi hBounds
    apply settled_invariant (fun s => lo ≤ s ∧ s ≤ hi) h
    · apply meanValue_mem
      · rw [← List.length_pos_iff, List.length_take]
        omega
      · exact fun x hx => hBounds x (List.mem_of_mem_take hx)
    · exact fun s hs x hx => smooth_mem pos hs (hBounds x hx)

/-! ## Signs -/

theorem meanValue_nonneg {values : List K} (h : ∀ v ∈ values, 0 ≤ v) : 0 ≤ meanValue values := by
  rw [meanValue_eq]
  exact div_nonneg (List.sum_nonneg h) (Nat.cast_nonneg _)

/-- A Wilder average of values that are not negative is not negative. -/
theorem smoothed_nonneg {window : Nat} (pos : 0 < window) {average v : K} (hAverage : 0 ≤ average) (hv : 0 ≤ v) :
    0 ≤ average + (v - average) / (window : K) := by
  have hWindow : (1 : K) ≤ (window : K) := Nat.one_le_cast.mpr pos
  have hPos : (0 : K) < (window : K) := by linarith
  have hSum : average + (v - average) / (window : K) = (average * ((window : K) - 1) + v) / (window : K) := by
    field_simp
    ring
  rw [hSum]
  have hRest : 0 ≤ (window : K) - 1 := by linarith
  positivity

theorem rsiValue_mem {gain loss : K} (hGain : 0 ≤ gain) (hLoss : 0 ≤ loss) :
    0 ≤ rsiValue gain loss ∧ rsiValue gain loss ≤ 100 := by
  unfold rsiValue
  split_ifs with hBoth hNoLoss hNoGain hLess
  · norm_num
  · norm_num
  · norm_num
  · have hRatio : 0 ≤ gain / loss := div_nonneg hGain hLoss
    dsimp only
    rw [div_le_iff₀ (by linarith)]
    exact ⟨by positivity, by linarith⟩
  · have hRatio : 0 ≤ loss / gain := div_nonneg hLoss hGain
    dsimp only
    rw [div_le_iff₀ (by linarith)]
    exact ⟨by positivity, by linarith⟩

theorem lastRsi_mem {window : Nat} (pos : 0 < window) {p : List K} {v : K} (h : lastRsi window p = some v) :
    0 ≤ v ∧ v ≤ 100 := by
  obtain ⟨averages, hAverages, rfl⟩ := Option.map_eq_some_iff.mp h
  have hNonneg : 0 ≤ averages.1 ∧ 0 ≤ averages.2 := by
    apply settled_invariant (fun s : K × K => 0 ≤ s.1 ∧ 0 ≤ s.2) hAverages
    · constructor
      · apply meanValue_nonneg
        intro x hx
        obtain ⟨change, -, rfl⟩ := List.mem_map.mp hx
        exact le_max_right _ _
      · apply meanValue_nonneg
        intro x hx
        obtain ⟨change, -, rfl⟩ := List.mem_map.mp hx
        exact le_max_right _ _
    · intro s hs change _
      exact ⟨smoothed_nonneg pos hs.1 (le_max_right _ _), smoothed_nonneg pos hs.2 (le_max_right _ _)⟩
  exact rsiValue_mem hNonneg.1 hNonneg.2

/-- What the bounds use of the functions of `math`, and what a change of unit uses. -/
structure MathFunctions.Lawful (m : MathFunctions K) : Prop where
  sqrt_nonneg : ∀ v, 0 ≤ m.sqrt v
  log_mul : ∀ {a b}, 0 < a → 0 < b → m.log (a * b) = m.log a + m.log b

variable {m : MathFunctions K}

theorem deviationValue_nonneg (lawful : m.Lawful) (ddof : Nat) (values : List K) :
    0 ≤ deviationValue m ddof values := by
  unfold deviationValue
  split_ifs
  · exact le_refl 0
  · exact mul_nonneg (greatestMagnitude_nonneg values) (lawful.sqrt_nonneg _)

theorem lastVolatility_nonneg (lawful : m.Lawful) {window : Nat} {p : List K} {v : K}
    (h : lastVolatility m window p = some v) : 0 ≤ v := by
  obtain ⟨-, rfl⟩ := windowed_eq_some h
  exact deviationValue_nonneg lawful 1 _

theorem trueRange_nonneg (previous current : Hlc K) : 0 ≤ trueRange previous current :=
  le_max_of_le_right (le_max_of_le_left (abs_nonneg _))

theorem pairs_nonneg {p : List (Hlc K)} : ∀ v ∈ pairs trueRange p, 0 ≤ v := by
  intro v hv
  unfold pairs at hv
  obtain ⟨i, hIndex, rfl⟩ := List.getElem_of_mem hv
  rw [List.getElem_zipWith]
  exact trueRange_nonneg _ _

theorem lastAtr_nonneg {window : Nat} (pos : 0 < window) {p : List (Hlc K)} {v : K} (h : lastAtr window p = some v) :
    0 ≤ v := by
  apply settled_invariant (fun s => 0 ≤ s) h
  · apply meanValue_nonneg
    exact fun x hx => pairs_nonneg x (List.mem_of_mem_take hx)
  · exact fun s hs x hx => smoothed_nonneg pos hs (pairs_nonneg x hx)

/-- The bands are where the average is, on both sides of it. -/
theorem bands_ordered (lawful : m.Lawful) {window : Nat} {width : K} (pos : 0 < width) {p : List K} {v : K}
    (h : lastSma window p = some v) : ∃ lower upper, lastLower m window width p = some lower ∧
      lastUpper m window width p = some upper ∧ lower ≤ v ∧ v ≤ upper := by
  obtain ⟨hLong, rfl⟩ := windowed_eq_some h
  have hShort : ¬ p.length < window := not_lt.mpr hLong
  have hWidth : 0 ≤ width * deviationValue m 0 (p.drop (p.length - window)) :=
    mul_nonneg pos.le (deviationValue_nonneg lawful 0 _)
  refine ⟨_, _, if_neg hShort, if_neg hShort, ?_, ?_⟩
  · exact sub_le_self _ hWidth
  · exact le_add_of_nonneg_right hWidth

/-! ## The bundle -/

/-- The bounds on the outputs for these closes. -/
structure TechnicalIndicators.Bounded (output : TechnicalIndicators K) (closes : List K) : Prop where
  rsi : ∀ (i : Nat) v, output.rsi[i]? = some (some v) → 0 ≤ v ∧ v ≤ 100
  bollinger : ∀ (i : Nat) v, output.bollinger.middle[i]? = some (some v) → ∃ lower upper,
    output.bollinger.lower[i]? = some (some lower) ∧ output.bollinger.upper[i]? = some (some upper) ∧
      lower ≤ v ∧ v ≤ upper
  returnVolatility : ∀ (i : Nat) v, output.returnVolatility[i]? = some (some v) → 0 ≤ v
  atr : ∀ (i : Nat) v, output.atr[i]? = some (some v) → 0 ≤ v
  sma : ∀ (i : Nat) v, output.sma[i]? = some (some v) → Between (closes.take (i + 1)) v
  ema : ∀ (i : Nat) v, output.ema[i]? = some (some v) → Between (closes.take (i + 1)) v
  histogram : ∀ (i : Nat) a b, output.macd.line[i]? = some (some a) → output.macd.signal[i]? = some (some b) →
    output.macd.histogram[i]? = some (some (a - b))

theorem bounded_bundleOf (lawful : m.Lawful) (policyHash : IndicatorConfig K → String) (config : IndicatorConfig K)
    (s : OhlcSeries K) : (bundleOf m policyHash config s).Bounded s.closes := by
  obtain ⟨-, hSma, hEma, hRsi, -, -, -, -, hAtr⟩ := config.positive
  constructor
  · intro i v h
    exact lastRsi_mem hRsi (exists_of_getElem?_running h).2
  · intro i v h
    obtain ⟨hIndex, hValue⟩ := exists_of_getElem?_running h
    obtain ⟨lower, upper, hLower, hUpper, hOrder⟩ := bands_ordered lawful config.deviations hValue
    refine ⟨lower, upper, ?_, ?_, hOrder⟩
    · rw [← hLower]
      exact getElem?_running hIndex
    · rw [← hUpper]
      exact getElem?_running hIndex
  · intro i v h
    exact lastVolatility_nonneg lawful (exists_of_getElem?_running h).2
  · intro i v h
    exact lastAtr_nonneg hAtr (exists_of_getElem?_running h).2
  · intro i v h
    exact lastSma_between hSma (exists_of_getElem?_running h).2
  · intro i v h
    exact lastEma_between hEma (exists_of_getElem?_running h).2
  · intro i a b hLine hSignal
    obtain ⟨hIndex, hLineValue⟩ := exists_of_getElem?_running hLine
    have hSignalValue := (exists_of_getElem?_running hSignal).2
    have hValue : lastHistogram config.macdFastPeriod config.macdSlowPeriod config.macdSignalPeriod
        (s.closes.take (i + 1)) = some (a - b) := by
      rw [lastHistogram, hLineValue, hSignalValue]
      rfl
    rw [← hValue]
    exact getElem?_running hIndex

end Bounds

end StockApi.Features

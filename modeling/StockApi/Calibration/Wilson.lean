import StockApi.Calibration.Conformal
import StockApi.Library.ScoreInterval

/-!
# The Wilson interval

`wilson_interval` in exact real arithmetic. The normal quantile is a parameter; what follows holds of
every score it may return.
-/

namespace StockApi.Calibration

open Checked ScoreInterval

inductive EvidenceError where
  | invalid (message : String)
  | insufficientFitData (message : String)
deriving DecidableEq

/-- `_finite` of the evidence. -/
def evidenceFinite (value : Scalar) (label : String) : Except EvidenceError ℚ :=
  match value with
  | .real q => .ok q
  | .notFinite => .error (.invalid (label ++ " must be finite"))
  | .notReal => .error (.invalid (label ++ " must be finite"))

/-- `_open_probability` of the evidence. -/
def evidenceProbability (value : Scalar) (label : String) : Except EvidenceError ℚ := do
  let converted ← evidenceFinite value label
  refuseIf (¬ (0 < converted ∧ converted < 1))
    (EvidenceError.invalid (label ++ " must be strictly between zero and one"))
  return converted

/-- What `NormalDist().inv_cdf` does. -/
inductive NormalQuantile where
  | statisticsError
  | notFinite
  | value (x : ℝ)

/-- `wilson_interval`, once the score is known. -/
noncomputable def wilsonBounds (successes sampleCount : Int) (z : ℝ) : ℝ × ℝ :=
  let proportion : ℝ := successes / sampleCount
  let z2 := z * z
  let denominator := 1 + z2 / sampleCount
  let center := (proportion + z2 / (2 * sampleCount)) / denominator
  let margin := z * √(proportion * (1 - proportion) / sampleCount +
    z2 / (4 * sampleCount * sampleCount)) / denominator
  let low := max 0 (center - margin)
  let high := min 1 (center + margin)
  let low := if successes = 0 then 0 else low
  let high := if successes = sampleCount then 1 else high
  (low, high)

/-- `wilson_interval`. -/
noncomputable def wilsonInterval (invCdf : ℝ → NormalQuantile) (successes sampleCount : Int)
    (confidenceLevel : Scalar) : Except EvidenceError (ℝ × ℝ) := do
  let confidence ← evidenceProbability confidenceLevel "confidence_level"
  refuseIf (¬ (0 ≤ successes ∧ successes ≤ sampleCount))
    (EvidenceError.invalid "Wilson counts are invalid")
  refuseIf (sampleCount ≤ 0) (EvidenceError.invalid "Wilson sample_count must be positive")
  match invCdf ((1 - confidence) / 2) with
  | .statisticsError => .error (.invalid "confidence_level is too close to a boundary")
  | .notFinite => .error (.invalid "confidence_level produces a nonfinite score")
  | .value x => .ok (wilsonBounds successes sampleCount (-x))

theorem wilsonInterval_eq {invCdf : ℝ → NormalQuantile} {k n : Int} {confidence : ℚ} {z : ℝ}
    (hConfidence : 0 < confidence ∧ confidence < 1) (hn : 1 ≤ n) (hk : 0 ≤ k ∧ k ≤ n)
    (hz : invCdf ((1 - confidence) / 2) = .value (-z)) :
    wilsonInterval invCdf k n (.real confidence) = .ok (wilsonBounds k n z) := by
  have hOpen : evidenceProbability (.real confidence) "confidence_level" = .ok confidence := by
    rw [evidenceProbability, evidenceFinite, ok_bind, refuseIf_of_not (not_not.mpr hConfidence)]
    rfl
  rw [wilsonInterval, hOpen, ok_bind, refuseIf_of_not (not_not.mpr hk), ok_bind,
    refuseIf_of_not (by omega), ok_bind, hz]
  simp only [neg_neg]

section Bounds

variable {k n : Int} {z : ℝ}

theorem proportion_mem (hn : 1 ≤ n) (hk : 0 ≤ k ∧ k ≤ n) :
    0 ≤ (k : ℝ) / n ∧ (k : ℝ) / n ≤ 1 := by
  have hPos : (0 : ℝ) < n := by exact_mod_cast hn
  have hLow : (0 : ℝ) ≤ k := by exact_mod_cast hk.1
  have hHigh : (k : ℝ) ≤ n := by exact_mod_cast hk.2
  exact ⟨div_nonneg hLow hPos.le, (div_le_one hPos).mpr hHigh⟩

/-- Neither the clamps nor the special cases change anything. -/
theorem wilsonBounds_eq (hn : 1 ≤ n) (hk : 0 ≤ k ∧ k ≤ n) (hz : 0 ≤ z) :
    wilsonBounds k n z = (lower (k / n) n z, upper (k / n) n z) := by
  have hPos : (0 : ℝ) < n := by exact_mod_cast hn
  obtain ⟨hLow, -, -, hHigh⟩ := bounds_mem (proportion_mem hn hk) hPos hz
  have hClampLow : max 0 (lower ((k : ℝ) / n) n z) = lower (k / n) n z := max_eq_right hLow
  have hClampHigh : min 1 (upper ((k : ℝ) / n) n z) = upper (k / n) n z := min_eq_right hHigh
  have hNone : (if k = 0 then 0 else lower ((k : ℝ) / n) n z) = lower (k / n) n z := by
    split
    · next h => rw [h, Int.cast_zero, zero_div, lower_zero hPos hz]
    · rfl
  have hAll : (if k = n then 1 else upper ((k : ℝ) / n) n z) = upper (k / n) n z := by
    split
    · next h => rw [h, div_self hPos.ne', upper_one hPos hz]
    · rfl
  have hUnclamped : wilsonBounds k n z =
      (if k = 0 then 0 else max 0 (lower ((k : ℝ) / n) n z),
        if k = n then 1 else min 1 (upper ((k : ℝ) / n) n z)) := by
    rw [lower, upper, center, margin, sq]
    rfl
  rw [hUnclamped, hClampLow, hClampHigh, hNone, hAll]

end Bounds

/-- The Wilson interval inverts the score test: it lies around the proportion, grows with the
successes and with the score, and is mirrored with them. -/
theorem wilson_inverts_score_test :
    (∀ (invCdf : ℝ → NormalQuantile) (confidence : ℚ) (k n : Int) (z : ℝ),
      0 < confidence ∧ confidence < 1 → 1 ≤ n → 0 ≤ k ∧ k ≤ n →
      invCdf ((1 - confidence) / 2) = .value (-z) →
      wilsonInterval invCdf k n (.real confidence) = .ok (wilsonBounds k n z)) ∧
    ∀ (k n : Int) (z : ℝ), 1 ≤ n → 0 ≤ k ∧ k ≤ n → 0 ≤ z →
      (∀ t : ℝ, 0 ≤ t → t ≤ 1 →
        ((wilsonBounds k n z).1 ≤ t ∧ t ≤ (wilsonBounds k n z).2 ↔
          ((k : ℝ) / n - t) ^ 2 ≤ z ^ 2 * t * (1 - t) / n)) ∧
      (0 ≤ (wilsonBounds k n z).1 ∧ (wilsonBounds k n z).1 ≤ (k : ℝ) / n ∧
        (k : ℝ) / n ≤ (wilsonBounds k n z).2 ∧ (wilsonBounds k n z).2 ≤ 1) ∧
      wilsonBounds k n z = (lower (k / n) n z, upper (k / n) n z) ∧
      (∀ k' : Int, k ≤ k' → k' ≤ n →
        (wilsonBounds k n z).1 ≤ (wilsonBounds k' n z).1 ∧
          (wilsonBounds k n z).2 ≤ (wilsonBounds k' n z).2) ∧
      (∀ w : ℝ, z ≤ w → (wilsonBounds k n w).1 ≤ (wilsonBounds k n z).1 ∧
        (wilsonBounds k n z).2 ≤ (wilsonBounds k n w).2) ∧
      (wilsonBounds (n - k) n z).1 = 1 - (wilsonBounds k n z).2 ∧
      (wilsonBounds (n - k) n z).2 = 1 - (wilsonBounds k n z).1 := by
  refine ⟨fun _ _ _ _ _ hConfidence hn hk hz => wilsonInterval_eq hConfidence hn hk hz, ?_⟩
  intro k n z hn hk hz
  have hPos : (0 : ℝ) < n := by exact_mod_cast hn
  have hp := proportion_mem hn hk
  rw [wilsonBounds_eq hn hk hz]
  refine ⟨?_, bounds_mem hp hPos hz, rfl, ?_, ?_, ?_⟩
  · intro t _ _
    exact (passes_iff hp hPos hz t).symm
  · intro k' hLe hTop
    have hk' : 0 ≤ k' ∧ k' ≤ n := ⟨hk.1.trans hLe, hTop⟩
    have hProportion : (k : ℝ) / n ≤ k' / n :=
      div_le_div_of_nonneg_right (by exact_mod_cast hLe) hPos.le
    rw [wilsonBounds_eq hn hk' hz]
    exact bounds_mono hp (proportion_mem hn hk') hPos hz hProportion
  · intro w hw
    rw [wilsonBounds_eq hn hk (hz.trans hw)]
    exact bounds_nested hp hPos hz hw
  · have hMirror : 0 ≤ n - k ∧ n - k ≤ n := ⟨by omega, by omega⟩
    have hComplement : ((n - k : Int) : ℝ) / n = 1 - k / n := by
      rw [Int.cast_sub, sub_div, div_self hPos.ne']
    rw [wilsonBounds_eq hn hMirror hz, hComplement]
    exact bounds_mirror hPos

/-- Three successes of ten. -/
theorem wilson_inverts_score_test_sample :
    wilsonInterval (fun _ => .value (-2)) 3 10 (.real (19 / 20)) = .ok (wilsonBounds 3 10 2) ∧
      (wilsonBounds 3 10 2).1 ≤ 3 / 10 := by
  obtain ⟨hComputed, hBounds⟩ := wilson_inverts_score_test
  refine ⟨hComputed _ _ _ _ _ (by norm_num) (by decide) (by decide) rfl, ?_⟩
  have h := (hBounds 3 10 2 (by decide) (by decide) (by norm_num)).2.1.2.1
  norm_num at h ⊢
  exact h

end StockApi.Calibration

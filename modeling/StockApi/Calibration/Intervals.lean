import StockApi.Calibration.Adaptive

/-!
# Calibrated intervals

A score, the interval calibrated with the fitted value and the test for a miss are three views of one
inequality. The arithmetic on the scores and the bounds is exact, so no result is refused as
nonfinite. A negative correction may leave no interval at all.
-/

namespace StockApi.Calibration

open Checked OrderStatistics

/-- `_ordered_interval`. -/
def orderedInterval (lower upper : Scalar) : Except ConformalError (ℚ × ℚ) := do
  let low ← finite lower "lower"
  let high ← finite upper "upper"
  refuseIf (high < low) (ConformalError.validation "lower cannot be greater than upper")
  return (low, high)

/-- `interval_missed`. -/
def intervalMissed (actual lower upper : Scalar) : Except ConformalError Bool := do
  let observed ← finite actual "actual"
  let (low, high) ← orderedInterval lower upper
  return !decide (low ≤ observed ∧ observed ≤ high)

/-! ## Absolute residuals -/

def absoluteResidualPolicyVersion : String := "absolute-residual-v1"

structure AbsoluteResidualCalibration where
  selection : QuantileSelection
  policyVersion : String
  nonnegative : 0 ≤ selection.value
  supported : policyVersion = absoluteResidualPolicyVersion

/-- `AbsoluteResidualCalibration.__post_init__`. -/
def absoluteResidualCalibration (selection : QuantileSelection) (policyVersion : String) :
    Except ConformalError AbsoluteResidualCalibration := do
  let hNonnegative ← ensure (0 ≤ selection.value) "absolute-residual radius cannot be negative"
  let hSupported ← ensure (policyVersion = absoluteResidualPolicyVersion)
    "absolute-residual policy_version is not supported"
  return ⟨selection, policyVersion, hNonnegative.down, hSupported.down⟩

/-- `AbsoluteResidualCalibration.interval`. -/
def AbsoluteResidualCalibration.interval (self : AbsoluteResidualCalibration) (point : Scalar) :
    Except ConformalError (ℚ × ℚ) := do
  let center ← finite point "point"
  let radius := self.selection.value
  let lower := center - radius
  let upper := center + radius
  return (lower, upper)

/-- `_paired`. -/
def paired (left right : List Scalar) (leftName rightName : String) :
    Except ConformalError (List ℚ × List ℚ) := do
  let leftValues ← finiteSequence left leftName
  let rightValues ← finiteSequence right rightName
  refuseIf (leftValues.length ≠ rightValues.length)
    (ConformalError.validation (leftName ++ " and " ++ rightName ++ " must have equal lengths"))
  return (leftValues, rightValues)

/-- `absolute_residual_scores`. -/
def absoluteResidualScores (actual point : List Scalar) : Except ConformalError (List ℚ) := do
  let (actualValues, pointValues) ← paired actual point "actual" "point"
  return (actualValues.zip pointValues).map fun (observed, predicted) => |observed - predicted|

/-- `fit_absolute_residual`. -/
def fitAbsoluteResidual (actual point : List Scalar) (coverage : Scalar) :
    Except ConformalError AbsoluteResidualCalibration := do
  let scores ← absoluteResidualScores actual point
  let selection ← finiteSampleQuantile (scores.map .real) coverage
  absoluteResidualCalibration selection absoluteResidualPolicyVersion

/-! ## Conformalized quantile regression -/

def cqrPolicyVersion : String := "signed-cqr-v1"

structure CQRCalibration where
  selection : QuantileSelection
  policyVersion : String
  supported : policyVersion = cqrPolicyVersion

/-- `CQRCalibration.__post_init__`. -/
def cqrCalibration (selection : QuantileSelection) (policyVersion : String) :
    Except ConformalError CQRCalibration := do
  let hSupported ← ensure (policyVersion = cqrPolicyVersion) "CQR policy_version is not supported"
  return ⟨selection, policyVersion, hSupported.down⟩

def emptyInterval : ConformalError := .validation "signed CQR correction produces an empty interval"

/-- `CQRCalibration.interval`. -/
def CQRCalibration.interval (self : CQRCalibration) (lower upper : Scalar) :
    Except ConformalError (ℚ × ℚ) := do
  let (rawLower, rawUpper) ← orderedInterval lower upper
  let correction := self.selection.value
  let calibratedLower := rawLower - correction
  let calibratedUpper := rawUpper + correction
  refuseIf (calibratedUpper < calibratedLower) emptyInterval
  return (calibratedLower, calibratedUpper)

/-- The loop of `cqr_scores`. -/
def cqrScore (entry : ℚ × ℚ × ℚ) : Except ConformalError ℚ := do
  let (observed, low, high) := entry
  refuseIf (high < low) (ConformalError.validation "lower cannot be greater than upper")
  let below := low - observed
  let above := observed - high
  return max below above

/-- `cqr_scores`. -/
def cqrScores (actual lower upper : List Scalar) : Except ConformalError (List ℚ) := do
  let actualValues ← finiteSequence actual "actual"
  let lowerValues ← finiteSequence lower "lower"
  let upperValues ← finiteSequence upper "upper"
  refuseIf (¬ (actualValues.length = lowerValues.length ∧ lowerValues.length = upperValues.length))
    (ConformalError.validation "actual, lower, and upper must have equal lengths")
  (actualValues.zip (lowerValues.zip upperValues)).mapM cqrScore

/-- `fit_cqr`. -/
def fitCqr (actual lower upper : List Scalar) (coverage : Scalar) :
    Except ConformalError CQRCalibration := do
  let scores ← cqrScores actual lower upper
  let selection ← finiteSampleQuantile (scores.map .real) coverage
  cqrCalibration selection cqrPolicyVersion

/-! ## One inequality -/

theorem orderedInterval_real {low high : ℚ} (h : low ≤ high) :
    orderedInterval (.real low) (.real high) = .ok (low, high) := by
  simp only [orderedInterval, finite, ok_bind]
  rw [refuseIf_of_not (not_lt.mpr h)]
  rfl

/-- The miss test on bounds in order. -/
theorem intervalMissed_real (y : ℚ) {low high : ℚ} (h : low ≤ high) :
    intervalMissed (.real y) (.real low) (.real high) = .ok (!decide (low ≤ y ∧ y ≤ high)) := by
  rw [intervalMissed, orderedInterval_real h]
  rfl

theorem not_missed_iff (y : ℚ) {low high : ℚ} (h : low ≤ high) :
    intervalMissed (.real y) (.real low) (.real high) = .ok false ↔ low ≤ y ∧ y ≤ high := by
  rw [intervalMissed_real y h, Except.ok.injEq, Bool.not_eq_false', decide_eq_true_eq]

theorem missed_iff (y : ℚ) {low high : ℚ} (h : low ≤ high) :
    intervalMissed (.real y) (.real low) (.real high) = .ok true ↔ ¬ (low ≤ y ∧ y ≤ high) := by
  rw [intervalMissed_real y h, Except.ok.injEq, Bool.not_eq_true', decide_eq_false_iff_not]

/-- The score of a point against its interval. -/
theorem score_le_iff (lo hi c y : ℚ) : max (lo - y) (y - hi) ≤ c ↔ lo - c ≤ y ∧ y ≤ hi + c := by
  rw [max_le_iff, sub_le_iff_le_add, sub_le_iff_le_add, sub_le_iff_le_add, add_comm c, add_comm c]

theorem abs_score_le_iff (p r y : ℚ) : |y - p| ≤ r ↔ p - r ≤ y ∧ y ≤ p + r := by
  rw [abs_sub_le_iff, and_comm, sub_le_iff_le_add, sub_le_iff_le_add, sub_le_iff_le_add, add_comm r,
    add_comm r]

/-- No point at all has a score so low exactly when the corrected bounds cross. -/
theorem forall_lt_score_iff (lo hi c : ℚ) :
    (∀ y, ¬ max (lo - y) (y - hi) ≤ c) ↔ hi + c < lo - c := by
  constructor
  · intro h
    by_contra hLe
    exact h (lo - c) ((score_le_iff lo hi c _).mpr ⟨le_rfl, not_lt.mp hLe⟩)
  · intro h y hScore
    obtain ⟨hLow, hHigh⟩ := (score_le_iff lo hi c y).mp hScore
    exact absurd (hLow.trans hHigh) (not_le.mpr h)

theorem AbsoluteResidualCalibration.interval_real (self : AbsoluteResidualCalibration) (p : ℚ) :
    self.interval (.real p) = .ok (p - self.selection.value, p + self.selection.value) := rfl

theorem AbsoluteResidualCalibration.bounds_le (self : AbsoluteResidualCalibration) (p : ℚ) :
    p - self.selection.value ≤ p + self.selection.value := by
  have := self.nonnegative
  linarith

section Corrected

variable (self : CQRCalibration) {lo hi : ℚ}

theorem CQRCalibration.interval_refused (h : lo ≤ hi)
    (empty : hi + self.selection.value < lo - self.selection.value) :
    self.interval (.real lo) (.real hi) = .error emptyInterval := by
  simp only [CQRCalibration.interval, orderedInterval_real h, ok_bind]
  rw [refuseIf_of empty]
  rfl

theorem CQRCalibration.interval_returned (h : lo ≤ hi)
    (ordered : lo - self.selection.value ≤ hi + self.selection.value) :
    self.interval (.real lo) (.real hi) =
      .ok (lo - self.selection.value, hi + self.selection.value) := by
  simp only [CQRCalibration.interval, orderedInterval_real h, ok_bind]
  rw [refuseIf_of_not (not_lt.mpr ordered)]
  rfl

end Corrected

/-! ## The pairs of a fit -/

/-- Whether a point lies in an interval that was returned for it. -/
def covers (interval : Except ConformalError (ℚ × ℚ)) (actual : Scalar) : Bool :=
  match interval with
  | .ok (lower, upper) => intervalMissed actual (.real lower) (.real upper) = .ok false
  | .error _ => false

/-- The pairs that the calibration fitted on them covers. -/
def AbsoluteResidualCalibration.coveredPairs (self : AbsoluteResidualCalibration)
    (actual point : List Scalar) : Nat :=
  (actual.zip point).countP fun (y, p) => covers (self.interval p) y

def CQRCalibration.coveredPairs (self : CQRCalibration) (actual lower upper : List Scalar) : Nat :=
  (actual.zip (lower.zip upper)).countP fun (y, lo, hi) => covers (self.interval lo hi) y

/-- The pairs whose own interval is refused as empty. -/
def CQRCalibration.refusedPairs (self : CQRCalibration) (lower upper : List Scalar) : Nat :=
  (lower.zip upper).countP fun (lo, hi) => self.interval lo hi = .error emptyInterval

theorem finiteSequence_eq_ok {values : List Scalar} {name : String} {normalized : List ℚ}
    (h : finiteSequence values name = .ok normalized) : values = normalized.map .real := by
  rw [finiteSequence, bind_eq_ok_iff] at h
  obtain ⟨read, hRead, h⟩ := h
  rw [refuseIf_bind_eq_ok_iff] at h
  cases h.2
  rw [← List.forall₂_eq_eq_eq, List.forall₂_map_right_iff]
  refine (forall₂_of_mapM hRead).imp ?_
  rintro (q | _ | _) r hFinite <;> cases hFinite
  rfl

/-- The selection of a sample is the order statistic of its rank. -/
theorem ofRank_of_selected {scores : List ℚ} {coverage : Scalar} {selection : QuantileSelection}
    (h : finiteSampleQuantile (scores.map .real) coverage = .ok selection) :
    ofRank selection.rank scores = some selection.value ∧ 0 < selection.rank ∧
      selection.rank ≤ scores.length := by
  have hRun := h
  rw [finiteSampleQuantile, bind_eq_ok_iff] at hRun
  obtain ⟨normalized, hFinite, hRun⟩ := hRun
  rw [bind_eq_ok_iff] at hRun
  obtain ⟨⟨canonical, millis⟩, hCoverage, hRun⟩ := hRun
  have hNonempty : scores ≠ [] := by
    rintro rfl
    cases hFinite
  rcases Nat.lt_or_ge scores.length (rank scores.length millis) with hSmall | hFits
  · rw [finiteSampleQuantile_refused hCoverage hNonempty hSmall] at h
    cases h
  · obtain ⟨v, hv, hFit⟩ := finiteSampleQuantile_fitted hCoverage hFits
    rw [hFit] at h
    cases h
    exact ⟨hv, rank_pos _ (canonical_of_coverageOf hCoverage).1.1, hFits⟩

/-- At least as many scores as the rank lie at or below the selected value. -/
theorem rank_le_countP {scores : List ℚ} {coverage : Scalar} {selection : QuantileSelection}
    (h : finiteSampleQuantile (scores.map .real) coverage = .ok selection) :
    selection.rank ≤ scores.countP (· ≤ selection.value) := by
  obtain ⟨hValue, hPos, hLe⟩ := ofRank_of_selected h
  calc
    selection.rank ≤ lowest selection.rank scores := le_lowest hLe
    _ = scores.countP (· ≤ selection.value) := by
      apply List.countP_congr
      intro x _
      simp only [decide_eq_true_eq, le_ofRank_iff hPos hValue]

theorem AbsoluteResidualCalibration.covers_iff (self : AbsoluteResidualCalibration) (y p : ℚ) :
    covers (self.interval (.real p)) (.real y) = true ↔ |y - p| ≤ self.selection.value := by
  rw [self.interval_real, covers, decide_eq_true_eq, not_missed_iff y (self.bounds_le p),
    abs_score_le_iff]

theorem CQRCalibration.covers_iff (self : CQRCalibration) (y : ℚ) {lo hi : ℚ} (h : lo ≤ hi) :
    covers (self.interval (.real lo) (.real hi)) (.real y) = true ↔
      max (lo - y) (y - hi) ≤ self.selection.value := by
  rcases lt_or_ge (hi + self.selection.value) (lo - self.selection.value) with hEmpty | hOrdered
  · rw [self.interval_refused h hEmpty, covers]
    exact iff_of_false Bool.false_ne_true ((forall_lt_score_iff lo hi _).mpr hEmpty y)
  · rw [self.interval_returned h hOrdered, covers, decide_eq_true_eq, not_missed_iff y hOrdered,
      score_le_iff]

theorem absoluteResidualScores_eq_ok {actual point : List Scalar} {scores : List ℚ}
    (h : absoluteResidualScores actual point = .ok scores) : ∃ ys ps : List ℚ,
      actual = ys.map .real ∧ point = ps.map .real ∧
        scores = (ys.zip ps).map fun (y, p) => |y - p| := by
  rw [absoluteResidualScores, bind_eq_ok_iff] at h
  obtain ⟨⟨ys, ps⟩, hPaired, h⟩ := h
  cases h
  rw [paired, bind_eq_ok_iff] at hPaired
  obtain ⟨ys', hActual, hPaired⟩ := hPaired
  rw [bind_eq_ok_iff] at hPaired
  obtain ⟨ps', hPoint, hPaired⟩ := hPaired
  rw [refuseIf_bind_eq_ok_iff] at hPaired
  cases hPaired.2
  exact ⟨ys, ps, finiteSequence_eq_ok hActual, finiteSequence_eq_ok hPoint, rfl⟩

theorem cqrScore_eq_ok {y lo hi score : ℚ} (h : cqrScore (y, lo, hi) = .ok score) :
    lo ≤ hi ∧ score = max (lo - y) (y - hi) := by
  rw [cqrScore, refuseIf_bind_eq_ok_iff] at h
  cases h.2
  exact ⟨not_lt.mp h.1, rfl⟩

theorem cqrScores_eq_ok {actual lower upper : List Scalar} {scores : List ℚ}
    (h : cqrScores actual lower upper = .ok scores) : ∃ ys ls us : List ℚ,
      actual = ys.map .real ∧ lower = ls.map .real ∧ upper = us.map .real ∧
        (ys.zip (ls.zip us)).mapM cqrScore = .ok scores := by
  rw [cqrScores, bind_eq_ok_iff] at h
  obtain ⟨ys, hActual, h⟩ := h
  rw [bind_eq_ok_iff] at h
  obtain ⟨ls, hLower, h⟩ := h
  rw [bind_eq_ok_iff] at h
  obtain ⟨us, hUpper, h⟩ := h
  rw [refuseIf_bind_eq_ok_iff] at h
  exact ⟨ys, ls, us, finiteSequence_eq_ok hActual, finiteSequence_eq_ok hLower,
    finiteSequence_eq_ok hUpper, h.2⟩

/-- Pairs are counted as their scores are. -/
theorem countP_eq_of_forall₂ {α β : Type} {covered : α → Bool} {low : β → Bool} {xs : List α}
    {ys : List β} (h : List.Forall₂ (fun x y => covered x = low y) xs ys) :
    xs.countP covered = ys.countP low := by
  induction h with
  | nil => rfl
  | cons hFirst _ ih => rw [List.countP_cons, List.countP_cons, ih, hFirst]

theorem AbsoluteResidualCalibration.coveredPairs_eq (self : AbsoluteResidualCalibration)
    {actual point : List Scalar} {scores : List ℚ}
    (h : absoluteResidualScores actual point = .ok scores) :
    self.coveredPairs actual point = scores.countP (· ≤ self.selection.value) := by
  obtain ⟨ys, ps, rfl, rfl, rfl⟩ := absoluteResidualScores_eq_ok h
  rw [AbsoluteResidualCalibration.coveredPairs, List.zip_map, List.countP_map, List.countP_map]
  apply List.countP_congr
  rintro ⟨y, p⟩ _
  rw [Function.comp_apply, Function.comp_apply, decide_eq_true_eq]
  exact self.covers_iff y p

theorem CQRCalibration.coveredPairs_eq (self : CQRCalibration) {actual lower upper : List Scalar}
    {scores : List ℚ} (h : cqrScores actual lower upper = .ok scores) :
    self.coveredPairs actual lower upper = scores.countP (· ≤ self.selection.value) := by
  obtain ⟨ys, ls, us, rfl, rfl, rfl, hScores⟩ := cqrScores_eq_ok h
  rw [CQRCalibration.coveredPairs, List.zip_map, List.zip_map, List.countP_map]
  apply countP_eq_of_forall₂
  refine (forall₂_of_mapM hScores).imp ?_
  rintro ⟨y, lo, hi⟩ score hScore
  obtain ⟨hOrdered, rfl⟩ := cqrScore_eq_ok hScore
  rw [Bool.eq_iff_iff, Function.comp_apply, decide_eq_true_eq]
  exact self.covers_iff y hOrdered

theorem fitAbsoluteResidual_eq_ok {actual point : List Scalar} {coverage : Scalar}
    {fitted : AbsoluteResidualCalibration} (h : fitAbsoluteResidual actual point coverage = .ok fitted) :
    ∃ scores, absoluteResidualScores actual point = .ok scores ∧
      finiteSampleQuantile (scores.map .real) coverage = .ok fitted.selection := by
  rw [fitAbsoluteResidual, bind_eq_ok_iff] at h
  obtain ⟨scores, hScores, h⟩ := h
  rw [bind_eq_ok_iff] at h
  obtain ⟨selection, hSelection, h⟩ := h
  rw [absoluteResidualCalibration, bind_eq_ok_iff] at h
  obtain ⟨_, _, h⟩ := h
  rw [bind_eq_ok_iff] at h
  obtain ⟨_, _, h⟩ := h
  cases h
  exact ⟨scores, hScores, hSelection⟩

theorem fitCqr_eq_ok {actual lower upper : List Scalar} {coverage : Scalar}
    {fitted : CQRCalibration} (h : fitCqr actual lower upper coverage = .ok fitted) :
    ∃ scores, cqrScores actual lower upper = .ok scores ∧
      finiteSampleQuantile (scores.map .real) coverage = .ok fitted.selection := by
  rw [fitCqr, bind_eq_ok_iff] at h
  obtain ⟨scores, hScores, h⟩ := h
  rw [bind_eq_ok_iff] at h
  obtain ⟨selection, hSelection, h⟩ := h
  rw [cqrCalibration, bind_eq_ok_iff] at h
  obtain ⟨_, _, h⟩ := h
  cases h
  exact ⟨scores, hScores, hSelection⟩

/-- A calibrated interval covers the points whose score is within the fitted value, no interval is
left exactly when no point has such a score, and a fit covers as many of its own pairs as there are
scores within the value, never fewer than the rank. -/
theorem calibrated_intervals :
    (∀ (fitted : AbsoluteResidualCalibration) (p y : ℚ), ∃ lower upper,
      fitted.interval (.real p) = .ok (lower, upper) ∧
      (intervalMissed (.real y) (.real lower) (.real upper) = .ok false ↔
        |y - p| ≤ fitted.selection.value) ∧
      (intervalMissed (.real y) (.real lower) (.real upper) = .ok true ↔
        ¬ |y - p| ≤ fitted.selection.value)) ∧
    (∀ (fitted : CQRCalibration) (lo hi : ℚ), lo ≤ hi →
      (∀ lower upper, fitted.interval (.real lo) (.real hi) = .ok (lower, upper) → ∀ y : ℚ,
        (intervalMissed (.real y) (.real lower) (.real upper) = .ok false ↔
          max (lo - y) (y - hi) ≤ fitted.selection.value) ∧
        (intervalMissed (.real y) (.real lower) (.real upper) = .ok true ↔
          ¬ max (lo - y) (y - hi) ≤ fitted.selection.value)) ∧
      (fitted.interval (.real lo) (.real hi) = .error emptyInterval ↔
        ∀ y : ℚ, ¬ max (lo - y) (y - hi) ≤ fitted.selection.value) ∧
      ((∃ bounds, fitted.interval (.real lo) (.real hi) = .ok bounds) ∨
        fitted.interval (.real lo) (.real hi) = .error emptyInterval)) ∧
    (∀ actual point coverage fitted, fitAbsoluteResidual actual point coverage = .ok fitted →
      ∃ scores, absoluteResidualScores actual point = .ok scores ∧
        fitted.coveredPairs actual point = scores.countP (· ≤ fitted.selection.value) ∧
        fitted.selection.rank ≤ fitted.coveredPairs actual point) ∧
    (∀ actual lower upper coverage fitted, fitCqr actual lower upper coverage = .ok fitted →
      ∃ scores, cqrScores actual lower upper = .ok scores ∧
        fitted.coveredPairs actual lower upper = scores.countP (· ≤ fitted.selection.value) ∧
        fitted.selection.rank ≤ fitted.coveredPairs actual lower upper) := by
  refine ⟨?_, ?_, ?_, ?_⟩
  · intro fitted p y
    refine ⟨_, _, fitted.interval_real p, ?_, ?_⟩
    · rw [not_missed_iff y (fitted.bounds_le p), abs_score_le_iff]
    · rw [missed_iff y (fitted.bounds_le p), abs_score_le_iff]
  · intro fitted lo hi hOrdered
    rcases lt_or_ge (hi + fitted.selection.value) (lo - fitted.selection.value) with hEmpty | hLe
    · rw [fitted.interval_refused hOrdered hEmpty]
      refine ⟨?_, iff_of_true rfl ((forall_lt_score_iff lo hi _).mpr hEmpty), Or.inr rfl⟩
      rintro lower upper ⟨⟩
    · rw [fitted.interval_returned hOrdered hLe]
      refine ⟨?_, iff_of_false (by rintro ⟨⟩) ?_, Or.inl ⟨_, rfl⟩⟩
      · rintro lower upper ⟨⟩ y
        rw [not_missed_iff y hLe, missed_iff y hLe, score_le_iff]
        exact ⟨Iff.rfl, Iff.rfl⟩
      · rw [forall_lt_score_iff]
        exact not_lt.mpr hLe
  · intro actual point coverage fitted h
    obtain ⟨scores, hScores, hSelection⟩ := fitAbsoluteResidual_eq_ok h
    have hCovered := fitted.coveredPairs_eq hScores
    refine ⟨scores, hScores, hCovered, ?_⟩
    rw [hCovered]
    exact rank_le_countP hSelection
  · intro actual lower upper coverage fitted h
    obtain ⟨scores, hScores, hSelection⟩ := fitCqr_eq_ok h
    have hCovered := fitted.coveredPairs_eq hScores
    refine ⟨scores, hScores, hCovered, ?_⟩
    rw [hCovered]
    exact rank_le_countP hSelection

/-! ## A pair without an interval -/

def sampleActual : List Scalar := [.real 5, .real 5, .real 0]
def sampleLower : List Scalar := [.real 0, .real 0, .real 0]
def sampleUpper : List Scalar := [.real 10, .real 10, .real 0]

theorem sample_scores : cqrScores sampleActual sampleLower sampleUpper = .ok [-5, -5, 0] := by
  have hWide : cqrScore (5, 0, 10) = .ok (-5) := by
    rw [cqrScore, refuseIf_of_not (by norm_num)]
    norm_num
  have hPoint : cqrScore (0, 0, 0) = .ok 0 := by
    rw [cqrScore, refuseIf_of_not (by norm_num)]
    norm_num
  have hActual : finiteSequence sampleActual "actual" = .ok [5, 5, 0] := rfl
  have hLower : finiteSequence sampleLower "lower" = .ok [0, 0, 0] := rfl
  have hUpper : finiteSequence sampleUpper "upper" = .ok [10, 10, 0] := rfl
  rw [cqrScores, hActual, ok_bind, hLower, ok_bind, hUpper, ok_bind, refuseIf_of_not (by decide),
    ok_bind]
  exact mapM_of_forall₂ (.cons hWide (.cons hWide (.cons hPoint .nil)))

theorem sample_fit : ∃ fitted,
    fitCqr sampleActual sampleLower sampleUpper (.real (thousandth (500 : ℕ))) = .ok fitted ∧
      fitted.selection.value = -5 ∧ fitted.selection.rank = 2 := by
  have hCoverage := coverageOf_thousandth (show 1 ≤ 500 ∧ 500 ≤ 999 by decide)
  have hFits : rank ([-5, -5, 0] : List ℚ).length 500 ≤ ([-5, -5, 0] : List ℚ).length := by decide
  obtain ⟨v, hv, hFit⟩ := finiteSampleQuantile_fitted hCoverage hFits
  have hValue : ofRank (rank ([-5, -5, 0] : List ℚ).length 500) [-5, -5, 0] = some (-5 : ℚ) := by
    decide
  obtain rfl : v = -5 := Option.some.inj (hv.symm.trans hValue)
  refine ⟨⟨⟨thousandth (500 : ℕ), 3, 2, -5, finiteSamplePolicyVersion⟩, cqrPolicyVersion, rfl⟩, ?_,
    rfl, rfl⟩
  rw [fitCqr, sample_scores, ok_bind, hFit, ok_bind, cqrCalibration, ensure_of rfl]
  rfl

/-- Two pairs are covered and the third is refused, but only two scores are within the value. -/
theorem refused_pair_uncounted : ∃ fitted scores,
    fitCqr sampleActual sampleLower sampleUpper (.real (thousandth (500 : ℕ))) = .ok fitted ∧
      cqrScores sampleActual sampleLower sampleUpper = .ok scores ∧
      fitted.coveredPairs sampleActual sampleLower sampleUpper +
        fitted.refusedPairs sampleLower sampleUpper ≠ scores.countP (· ≤ fitted.selection.value) := by
  obtain ⟨fitted, hFit, hValue, -⟩ := sample_fit
  refine ⟨fitted, _, hFit, sample_scores, ?_⟩
  have hRefused : 0 < fitted.refusedPairs sampleLower sampleUpper := by
    apply List.countP_pos_iff.mpr
    refine ⟨(.real 0, .real 0), by decide, ?_⟩
    rw [decide_eq_true_eq]
    apply fitted.interval_refused le_rfl
    rw [hValue]
    norm_num
  rw [fitted.coveredPairs_eq sample_scores]
  omega

theorem calibrated_intervals_sample : ∃ fitted,
    fitCqr sampleActual sampleLower sampleUpper (.real (thousandth (500 : ℕ))) = .ok fitted ∧
      2 ≤ fitted.coveredPairs sampleActual sampleLower sampleUpper ∧
      fitted.interval (.real 0) (.real 0) = .error emptyInterval := by
  obtain ⟨fitted, hFit, hValue, hRank⟩ := sample_fit
  obtain ⟨_, hCqr, _, hFits⟩ := calibrated_intervals
  obtain ⟨_, _, _, hCovered⟩ := hFits _ _ _ _ fitted hFit
  refine ⟨fitted, hFit, hRank ▸ hCovered, (hCqr fitted 0 0 le_rfl).2.1.mpr ?_⟩
  intro y hScore
  rw [hValue] at hScore
  obtain ⟨hLow, hHigh⟩ := max_le_iff.mp hScore
  linarith

end StockApi.Calibration

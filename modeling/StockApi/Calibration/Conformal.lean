import StockApi.Adjustment.Decimal
import StockApi.Library.OrderStatistics

/-!
# The finite-sample quantile

`finite_sample_quantile` picks rank `ceil((n + 1) * coverage)` of the sorted scores. Numbers are the
exact values of floats; the arithmetic on the coverage is rounded as floats are. Whatever scores are
given, the value fitted with one score held out covers that score in at least the promised number of
ways, and in exactly that number where no two scores are equal.
-/

namespace StockApi.Calibration

open Checked OrderStatistics
open Adjustment (binary64)

inductive ConformalError where
  | validation (message : String)
  | insufficientData (message : String)
  | indexError
deriving DecidableEq

/-- What a caller passes for a number: `True`, a text and so on are no reals. -/
inductive Scalar where
  | real (value : ℚ)
  | notFinite
  | notReal
deriving DecidableEq

/-- `_finite`. -/
def finite (value : Scalar) (name : String) : Except ConformalError ℚ :=
  match value with
  | .real q => .ok q
  | .notFinite => .error (.validation (name ++ " must contain only finite real numbers"))
  | .notReal => .error (.validation (name ++ " must contain only finite real numbers"))

/-- `_finite_sequence`. -/
def finiteSequence (values : List Scalar) (name : String) : Except ConformalError (List ℚ) := do
  let normalized ← values.mapM fun value => finite value name
  refuseIf (normalized = []) (ConformalError.validation (name ++ " must be a nonempty sequence"))
  return normalized

/-- `_COVERAGE_TOLERANCE`. -/
def coverageTolerance : ℚ := binary64.round (1 / 10 ^ 12)

/-- The float `millis / 1_000`. -/
def thousandth (millis : Int) : ℚ := binary64.round (millis / 1000)

/-- `_coverage`. -/
def coverageOf (value : Scalar) : Except ConformalError (ℚ × Nat) := do
  let coverage ← finite value "coverage"
  refuseIf (¬ (0 < coverage ∧ coverage < 1))
    (ConformalError.validation "coverage must be strictly between zero and one")
  let millis := Rounding.roundEven (binary64.round (coverage * 1000))
  let canonical := thousandth millis
  refuseIf (¬ (1 ≤ millis ∧ millis ≤ 999) ∨
      coverageTolerance < binary64.round |coverage - canonical|)
    (ConformalError.validation "coverage must be a canonical thousandth")
  return (canonical, millis.toNat)

/-- `_rank`. -/
def rank (sampleCount coverageMillis : Nat) : Nat :=
  ((sampleCount + 1) * coverageMillis + 1000 - 1) / 1000

def finiteSamplePolicyVersion : String := "finite-sample-nearest-rank-v1"

structure QuantileSelection where
  coverage : ℚ
  sampleCount : Nat
  rank : Nat
  value : ℚ
  policyVersion : String
deriving DecidableEq

/-- `_positive_integer`. -/
def positiveInteger (value : Nat) (name : String) : Except ConformalError Nat := do
  refuseIf (value < 1) (ConformalError.validation (name ++ " must be a positive integer"))
  return value

def noOrderStatistic : ConformalError :=
  .insufficientData "the requested coverage has no finite order statistic for this sample"

/-- `QuantileSelection.__post_init__`. -/
def quantileSelection (selection : QuantileSelection) : Except ConformalError QuantileSelection := do
  let (coverage, coverageMillis) ← coverageOf (.real selection.coverage)
  let sampleCount ← positiveInteger selection.sampleCount "sample_count"
  let selected ← positiveInteger selection.rank "rank"
  let expectedRank := rank sampleCount coverageMillis
  refuseIf (sampleCount < expectedRank) noOrderStatistic
  refuseIf (selected ≠ expectedRank)
    (ConformalError.validation "rank does not match the finite-sample policy")
  let value ← finite (.real selection.value) "value"
  refuseIf (selection.policyVersion ≠ finiteSamplePolicyVersion)
    (ConformalError.validation "quantile policy_version is not supported")
  return ⟨coverage, sampleCount, selected, value, selection.policyVersion⟩

/-- `finite_sample_quantile`. -/
def finiteSampleQuantile (scores : List Scalar) (coverage : Scalar) :
    Except ConformalError QuantileSelection := do
  let normalized ← finiteSequence scores "scores"
  let (canonicalCoverage, coverageMillis) ← coverageOf coverage
  let selected := rank normalized.length coverageMillis
  refuseIf (normalized.length < selected) noOrderStatistic
  let value ← orRefuse (ofRank selected normalized) .indexError
  quantileSelection
    ⟨canonicalCoverage, normalized.length, selected, value, finiteSamplePolicyVersion⟩

/-! ## The coverage -/

/-- A thousandth survives the multiplication by a thousand. -/
theorem roundEven_thousandth {millis : Nat} (h : 1 ≤ millis ∧ millis ≤ 999) :
    Rounding.roundEven (binary64.round (thousandth millis * 1000)) = millis := by
  have hLow : (1 : ℚ) ≤ millis := by exact_mod_cast h.1
  have hHigh : (millis : ℚ) ≤ 999 := by exact_mod_cast h.2
  have hFirst : |thousandth millis - millis / 1000| ≤ (2 : ℚ) ^ ((-1 : ℤ) - (53 - 1)) / 2 := by
    apply binary64.abs_round_sub_le (by decide) (by positivity) _ (by decide)
    norm_num [binary64]
    linarith
  norm_num at hFirst
  obtain ⟨hAbove, hBelow⟩ := abs_le.mp hFirst
  have hSecond : |binary64.round (thousandth millis * 1000) - thousandth millis * 1000| ≤
      (2 : ℚ) ^ ((9 : ℤ) - (53 - 1)) / 2 := by
    apply binary64.abs_round_sub_le (by decide) (by linarith) _ (by decide)
    norm_num [binary64]
    linarith
  norm_num at hSecond
  obtain ⟨hFrom, hTo⟩ := abs_le.mp hSecond
  apply Rounding.roundEven_eq_of_near
  rw [abs_lt]
  push_cast
  constructor <;> linarith

theorem thousandth_between {millis : Nat} (h : 1 ≤ millis ∧ millis ≤ 999) :
    0 < thousandth millis ∧ thousandth millis < 1 := by
  have hLow : (1 : ℚ) ≤ millis := by exact_mod_cast h.1
  have hHigh : (millis : ℚ) ≤ 999 := by exact_mod_cast h.2
  have hNear : |thousandth millis - millis / 1000| ≤ (2 : ℚ) ^ ((-1 : ℤ) - (53 - 1)) / 2 := by
    apply binary64.abs_round_sub_le (by decide) (by positivity) _ (by decide)
    norm_num [binary64]
    linarith
  norm_num at hNear
  obtain ⟨hAbove, hBelow⟩ := abs_le.mp hNear
  constructor <;> linarith

theorem coverageTolerance_pos : 0 < coverageTolerance := by
  have hNear : |coverageTolerance - 1 / 10 ^ 12| ≤ (2 : ℚ) ^ ((-39 : ℤ) - (53 - 1)) / 2 := by
    apply binary64.abs_round_sub_le (by decide) (by positivity) _ (by decide)
    norm_num [binary64]
  norm_num at hNear
  obtain ⟨hAbove, hBelow⟩ := abs_le.mp hNear
  linarith

/-- Every canonical thousandth is accepted as itself. -/
theorem coverageOf_thousandth {millis : Nat} (h : 1 ≤ millis ∧ millis ≤ 999) :
    coverageOf (.real (thousandth millis)) = .ok (thousandth millis, millis) := by
  have hBetween := thousandth_between h
  simp only [coverageOf, finite, ok_bind]
  rw [refuseIf_of_not (not_not.mpr hBetween), ok_bind, roundEven_thousandth h, refuseIf_of_not]
  · simp
  · rw [sub_self, abs_zero, binary64.round_zero]
    rintro (hRange | hFar)
    · exact hRange ⟨by exact_mod_cast h.1, by exact_mod_cast h.2⟩
    · exact absurd hFar (not_lt.mpr coverageTolerance_pos.le)

/-- An accepted coverage is turned into a thousandth. -/
theorem canonical_of_coverageOf {value : Scalar} {canonical : ℚ} {millis : Nat}
    (h : coverageOf value = .ok (canonical, millis)) :
    (1 ≤ millis ∧ millis ≤ 999) ∧ canonical = thousandth millis := by
  rw [coverageOf, bind_eq_ok_iff] at h
  obtain ⟨coverage, _, h⟩ := h
  rw [refuseIf_bind_eq_ok_iff] at h
  obtain ⟨_, h⟩ := h
  rw [refuseIf_bind_eq_ok_iff, not_or, not_not] at h
  obtain ⟨⟨hRange, _⟩, h⟩ := h
  cases h
  have hMillis : ((Rounding.roundEven (binary64.round (coverage * 1000))).toNat : ℤ) =
      Rounding.roundEven (binary64.round (coverage * 1000)) := Int.toNat_of_nonneg (by omega)
  refine ⟨by omega, ?_⟩
  rw [hMillis]

/-! ## The rank -/

theorem rank_eq_ceil (sampleCount millis : Nat) :
    rank sampleCount millis = ⌈((sampleCount : ℚ) + 1) * millis / 1000⌉₊ := by
  apply eq_of_forall_ge_iff
  intro k
  have hReal : ((sampleCount : ℚ) + 1) * millis / 1000 ≤ k ↔ (sampleCount + 1) * millis ≤ 1000 * k := by
    rw [div_le_iff₀ (by norm_num), mul_comm (k : ℚ)]
    norm_cast
  rw [Nat.ceil_le, hReal, rank]
  omega

theorem rank_pos (sampleCount : Nat) {millis : Nat} (h : 1 ≤ millis) : 0 < rank sampleCount millis := by
  have : 1 ≤ (sampleCount + 1) * millis := Nat.one_le_iff_ne_zero.mpr (by positivity)
  unfold rank
  omega

/-! ## The quantile -/

theorem finiteSequence_real (scores : List ℚ) (name : String) (h : scores ≠ []) :
    finiteSequence (scores.map .real) name = .ok scores := by
  have hAll : (scores.map Scalar.real).mapM (fun value => finite value name) = .ok scores := by
    apply mapM_of_forall₂
    rw [List.forall₂_map_left_iff]
    exact List.forall₂_same.mpr fun _ _ => rfl
  rw [finiteSequence, hAll, ok_bind, refuseIf_of_not h]
  rfl

section Fit

variable {coverage : Scalar} {canonical : ℚ} {millis : Nat} {scores : List ℚ}

/-- A sample that is too small is refused. -/
theorem finiteSampleQuantile_refused (hCoverage : coverageOf coverage = .ok (canonical, millis))
    (h : scores ≠ []) (small : scores.length < rank scores.length millis) :
    finiteSampleQuantile (scores.map .real) coverage = .error noOrderStatistic := by
  rw [finiteSampleQuantile, finiteSequence_real scores _ h, ok_bind, hCoverage, ok_bind]
  simp only [refuseIf_of small, error_bind]

/-- Any other sample gives its order statistic. -/
theorem finiteSampleQuantile_fitted (hCoverage : coverageOf coverage = .ok (canonical, millis))
    (h : rank scores.length millis ≤ scores.length) :
    ∃ v, ofRank (rank scores.length millis) scores = some v ∧
      finiteSampleQuantile (scores.map .real) coverage =
        .ok ⟨canonical, scores.length, rank scores.length millis, v, finiteSamplePolicyVersion⟩ := by
  obtain ⟨hMillis, rfl⟩ := canonical_of_coverageOf hCoverage
  have hRank := rank_pos scores.length hMillis.1
  obtain ⟨v, hv⟩ := exists_ofRank hRank h
  refine ⟨v, hv, ?_⟩
  have hNonempty : scores ≠ [] := by
    rintro rfl
    exact absurd (hRank.trans_le h) (Nat.lt_irrefl 0)
  have hSelection : quantileSelection ⟨thousandth millis, scores.length,
      rank scores.length millis, v, finiteSamplePolicyVersion⟩ =
      .ok ⟨thousandth millis, scores.length, rank scores.length millis, v,
        finiteSamplePolicyVersion⟩ := by
    simp only [quantileSelection, coverageOf_thousandth hMillis, ok_bind, positiveInteger, finite]
    rw [refuseIf_of_not (by omega), ok_bind, pure_eq_ok, ok_bind, refuseIf_of_not (by omega), ok_bind,
      pure_eq_ok, ok_bind, refuseIf_of_not (by omega), ok_bind, refuseIf_of_not (not_not.mpr rfl),
      ok_bind, refuseIf_of_not (not_not.mpr rfl), ok_bind, pure_eq_ok]
  rw [finiteSampleQuantile, finiteSequence_real scores _ hNonempty, ok_bind, hCoverage, ok_bind]
  simp only [refuseIf_of_not (not_lt.mpr h), ok_bind, hv, orRefuse_some, hSelection]

end Fit

/-! ## One score held out -/

/-- Whether the value fitted without a score is at least that score. -/
def coversHeldOut (scores : List ℚ) (coverage : Scalar) (i : Fin scores.length) : Bool :=
  match finiteSampleQuantile ((scores.eraseIdx i).map .real) coverage with
  | .ok selection => scores[i] ≤ selection.value
  | .error _ => false

def coveredSplits (scores : List ℚ) (coverage : Scalar) : Nat :=
  (List.finRange scores.length).countP (coversHeldOut scores coverage)

theorem coveredSplits_eq {scores : List ℚ} {coverage : Scalar} {canonical : ℚ} {millis n : Nat}
    (hCoverage : coverageOf coverage = .ok (canonical, millis)) (hLength : scores.length = n + 1)
    (h : rank n millis ≤ n) : coveredSplits scores coverage = coveredPositions (rank n millis) scores := by
  apply List.countP_congr
  intro i _
  have hRest : (scores.eraseIdx i).length = n := by
    rw [List.length_eraseIdx_of_lt i.isLt, hLength, Nat.add_sub_cancel]
  have hFits : rank (scores.eraseIdx i).length millis ≤ (scores.eraseIdx i).length := by
    rw [hRest]
    exact h
  obtain ⟨v, hv, hFit⟩ := finiteSampleQuantile_fitted hCoverage hFits
  rw [hRest] at hv
  rw [coversHeldOut, hFit, hv, Option.any_some]

section HeldOut

variable {coverage : Scalar} {canonical : ℚ} {millis n : Nat}

theorem fitted_without (hCoverage : coverageOf coverage = .ok (canonical, millis))
    {scores : List ℚ} (hLength : scores.length = n + 1) (h : rank n millis ≤ n)
    (i : Fin scores.length) : ∃ selection,
      finiteSampleQuantile ((scores.eraseIdx i).map .real) coverage = .ok selection := by
  have hRest : (scores.eraseIdx i).length = n := by
    rw [List.length_eraseIdx_of_lt i.isLt, hLength, Nat.add_sub_cancel]
  have hFits : rank (scores.eraseIdx i).length millis ≤ (scores.eraseIdx i).length := by
    rw [hRest]
    exact h
  obtain ⟨v, _, hFit⟩ := finiteSampleQuantile_fitted hCoverage hFits
  exact ⟨_, hFit⟩

theorem finiteSampleQuantile_eq_error_iff
    (hCoverage : coverageOf coverage = .ok (canonical, millis)) {sample : List ℚ}
    (hSample : sample ≠ []) (e : ConformalError) :
    finiteSampleQuantile (sample.map .real) coverage = .error e ↔
      e = noOrderStatistic ∧ sample.length < rank sample.length millis := by
  constructor
  · intro hError
    rcases Nat.lt_or_ge sample.length (rank sample.length millis) with hSmall | hFits
    · rw [finiteSampleQuantile_refused hCoverage hSample hSmall] at hError
      cases hError
      exact ⟨rfl, hSmall⟩
    · obtain ⟨v, _, hFit⟩ := finiteSampleQuantile_fitted hCoverage hFits
      rw [hFit] at hError
      cases hError
  · rintro ⟨rfl, hSmall⟩
    exact finiteSampleQuantile_refused hCoverage hSample hSmall

/-- On distinct scores the order statistic of rank `k` covers no more than `k` of the splits. -/
theorem no_rank_covers (n : Nat) {needed : Nat} (h : n < needed) :
    ¬ ∃ k, 1 ≤ k ∧ k ≤ n ∧ ∀ scores : List ℚ, scores.length = n + 1 →
      needed ≤ coveredPositions k scores := by
  rintro ⟨k, hPos, hLe, hCovers⟩
  have hDistinct : ((List.range (n + 1)).map (Nat.cast : ℕ → ℚ)).Nodup :=
    List.nodup_range.map Nat.cast_injective
  have hLength : ((List.range (n + 1)).map (Nat.cast : ℕ → ℚ)).length = n + 1 := by simp
  have hNeeded := hCovers _ hLength
  rw [coveredPositions_eq hPos (by omega), lowest_of_nodup (by omega) hDistinct] at hNeeded
  omega

end HeldOut

/-- Split-conformal validity: the held-out score of `n + 1` scores is covered in at least
`ceil((n + 1) * millis / 1000)` of the splits, and a sample is refused when no order statistic of
`n` scores can promise that. -/
theorem held_out_coverage {millis n : Nat} (hMillis : 1 ≤ millis ∧ millis ≤ 999) (hSample : 1 ≤ n) :
    coverageOf (.real (thousandth millis)) = .ok (thousandth millis, millis) ∧
    ∀ coverage canonical, coverageOf coverage = .ok (canonical, millis) →
      (∀ scores : List ℚ, scores.length = n + 1 → rank n millis ≤ n →
        (∀ i : Fin scores.length, ∃ selection,
          finiteSampleQuantile ((scores.eraseIdx i).map .real) coverage = .ok selection) ∧
        ⌈((n : ℚ) + 1) * millis / 1000⌉₊ ≤ coveredSplits scores coverage ∧
        (scores.Nodup → coveredSplits scores coverage = ⌈((n : ℚ) + 1) * millis / 1000⌉₊)) ∧
      (∀ sample : List ℚ, sample.length = n → ∀ e,
        finiteSampleQuantile (sample.map .real) coverage = .error e ↔
          e = noOrderStatistic ∧ n < ⌈((n : ℚ) + 1) * millis / 1000⌉₊) ∧
      (n < ⌈((n : ℚ) + 1) * millis / 1000⌉₊ ↔
        ¬ ∃ k, 1 ≤ k ∧ k ≤ n ∧ ∀ scores : List ℚ, scores.length = n + 1 →
          ⌈((n : ℚ) + 1) * millis / 1000⌉₊ ≤ coveredPositions k scores) := by
  have hRank := rank_pos n hMillis.1
  rw [← rank_eq_ceil]
  refine ⟨coverageOf_thousandth hMillis, fun coverage canonical hCoverage => ⟨?_, ?_, ?_⟩⟩
  · intro scores hLength hLe
    refine ⟨fitted_without hCoverage hLength hLe, ?_⟩
    rw [coveredSplits_eq hCoverage hLength hLe, coveredPositions_eq hRank (by omega)]
    exact ⟨le_lowest (by omega), lowest_of_nodup (by omega)⟩
  · rintro sample rfl e
    exact finiteSampleQuantile_eq_error_iff hCoverage (List.ne_nil_of_length_pos hSample) e
  · refine ⟨no_rank_covers n, fun hNone => ?_⟩
    by_contra hLe
    refine hNone ⟨rank n millis, hRank, not_lt.mp hLe, fun scores hLength => ?_⟩
    rw [coveredPositions_eq hRank (by omega)]
    exact le_lowest (by omega)

/-- Nine of ten, twenty scores: eighteen of the splits. -/
theorem held_out_coverage_ninety :
    coveredSplits ((List.range 20).map Nat.cast) (.real (thousandth (900 : ℕ))) = 18 := by
  have h := held_out_coverage (show 1 ≤ 900 ∧ 900 ≤ 999 by decide) (show 1 ≤ 19 by decide)
  have hDistinct : ((List.range 20).map (Nat.cast : ℕ → ℚ)).Nodup :=
    List.nodup_range.map Nat.cast_injective
  rw [((h.2 _ _ h.1).1 _ (by simp) (by decide)).2.2 hDistinct, ← rank_eq_ceil]
  rfl

end StockApi.Calibration

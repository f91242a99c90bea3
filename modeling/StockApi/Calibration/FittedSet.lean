import StockApi.Calibration.Intervals
import StockApi.Library.CivilTime
import StockApi.Library.FloatValue
import StockApi.Library.Groups
import Mathlib.Data.Prod.Lex

/-!
# Fitted calibration sets

A set binds one fitted correction for each pair of horizon and coverage to the model, the window and
the provenance of its fit. `_normalized_set` is described as a relation between a set and its normal
form, which is accepted again and returned unchanged.
-/

namespace StockApi.Calibration

open Checked CivilTime Groups Text
open Adjustment (binary64)

/-! ## Field validators -/

/-- `unicodedata`: the normal form, the categories of no text, and the decimal digits. -/
structure UnicodeData extends NormalForm where
  isOther : Char → Bool
  isDecimal : Char → Bool
  decimal_of_digit : ∀ c, Digits.isDigit c = true → isDecimal c = true

section Validators

variable (unicode : UnicodeData)

/-- A nonempty trimmed text without control and format characters. -/
def IsSemantic (maxLength : Nat) (s : String) : Prop :=
  s ≠ "" ∧ s.length ≤ maxLength ∧ Trimmed s ∧ s.toList.all (fun c => !unicode.isOther c) = true

instance (maxLength : Nat) (s : String) : Decidable (IsSemantic unicode maxLength s) :=
  inferInstanceAs (Decidable (_ ∧ _))

/-- `_semantic_text`. -/
def semanticText (value label : String) (maxLength : Nat) : Except String String := do
  let normalized := unicode.nfc value
  refuseIf (¬ IsSemantic unicode maxLength normalized)
    (label ++ " is empty, too long, or not canonical text")
  return normalized

def IsModelVersion (s : String) : Prop := s ≠ "" ∧ s.length ≤ 128

instance (s : String) : Decidable (IsModelVersion s) := inferInstanceAs (Decidable (_ ∧ _))

/-- `_model_version`. -/
def modelVersionText (value : String) : Except String String := do
  let normalized := unicode.nfc value
  refuseIf (¬ IsModelVersion normalized) "model_version is empty, too long, or invalid"
  return normalized

/-- The pattern `^[A-Z0-9][A-Z0-9.\-_:]{0,31}$`. -/
def IsTicker (s : String) : Prop :=
  (∃ c ∈ s.toList.head?, (('A' ≤ c && c ≤ 'Z') || ('0' ≤ c && c ≤ '9')) = true) ∧
    s.toList.all symbolChar = true ∧ s.length ≤ 32

instance (s : String) : Decidable (IsTicker s) := inferInstanceAs (Decidable (_ ∧ _))

/-- `_symbol`. A text of the pattern is in upper case. -/
def symbolText (value : String) : Except String String := do
  let symbol ← semanticText unicode value "symbol" 32
  refuseIf (¬ IsTicker symbol) "symbol must be uppercase and canonical"
  return symbol

/-- `_sha256`. -/
def sha256Text (value label : String) : Except String PUnit :=
  refuseIf (¬ IsHash value) (label ++ " must be a canonical sha256 hash")

/-- `_policy_version`. -/
def policyVersion (value expected label : String) : Except String PUnit :=
  refuseIf (value ≠ expected) (label ++ " is not supported")

variable {unicode} {β : Type} {b : β}

theorem semanticText_bind_eq_ok_iff {value label : String} {maxLength : Nat}
    {f : String → Except String β} : (semanticText unicode value label maxLength >>= f) = .ok b ↔
      IsSemantic unicode maxLength (unicode.nfc value) ∧ f (unicode.nfc value) = .ok b := by
  simp only [semanticText, bind_assoc, refuseIf_bind_eq_ok_iff, not_not, pure_bind]

theorem modelVersionText_bind_eq_ok_iff {value : String} {f : String → Except String β} :
    (modelVersionText unicode value >>= f) = .ok b ↔
      IsModelVersion (unicode.nfc value) ∧ f (unicode.nfc value) = .ok b := by
  simp only [modelVersionText, bind_assoc, refuseIf_bind_eq_ok_iff, not_not, pure_bind]

theorem symbolText_bind_eq_ok_iff {value : String} {f : String → Except String β} :
    (symbolText unicode value >>= f) = .ok b ↔
      IsSemantic unicode 32 (unicode.nfc value) ∧ IsTicker (unicode.nfc value) ∧
        f (unicode.nfc value) = .ok b := by
  simp only [symbolText, bind_assoc, semanticText_bind_eq_ok_iff, refuseIf_bind_eq_ok_iff, not_not,
    pure_bind]

theorem sha256Text_bind_eq_ok_iff {value label : String} {f : PUnit → Except String β} :
    (sha256Text value label >>= f) = .ok b ↔ IsHash value ∧ f ⟨⟩ = .ok b := by
  rw [sha256Text, refuseIf_bind_eq_ok_iff, not_not]

theorem policyVersion_bind_eq_ok_iff {value expected label : String} {f : PUnit → Except String β} :
    (policyVersion value expected label >>= f) = .ok b ↔ value = expected ∧ f ⟨⟩ = .ok b := by
  rw [policyVersion, refuseIf_bind_eq_ok_iff, not_not]

end Validators

/-! ## Corrections and sets -/

inductive CalibrationMethod where
  | empiricalResidual
  | conformalQuantileRegression
deriving DecidableEq

/-- `_CORRECTION_POLICY_VERSIONS`. -/
def CalibrationMethod.correctionPolicyVersion : CalibrationMethod → String
  | .empiricalResidual => absoluteResidualPolicyVersion
  | .conformalQuantileRegression => cqrPolicyVersion

/-- A selection whose value is a float. -/
abbrev FloatSelection := {selection : QuantileSelection // Float64.IsDouble selection.value}

/-- An `AbsoluteResidualCalibration` or a `CQRCalibration`, by its method. -/
structure FittedCorrection where
  method : CalibrationMethod
  selection : FloatSelection
  policyVersion : String
  nonnegative : method = .empiricalResidual → 0 ≤ selection.1.value
  supported : policyVersion = method.correctionPolicyVersion

structure FittedCalibrationBucket where
  horizon : Int
  calibration : FittedCorrection

/-- The fields of a set other than its buckets. -/
structure CalibrationTerms where
  modelVersion : String
  symbol : String
  target : String
  seriesBasis : String
  horizonUnit : String
  currency : String
  sourceCalibrationSetVersion : String
  sourceCalibrationMethod : String
  forecastResolutionPolicyHash : String
  forecastAvailabilityRuleSetHash : String
  fitEvidenceDigest : String
  method : CalibrationMethod
  windowStart : Date
  windowEnd : Date
  sampleCount : Int
  cohortId : String
  selectionPolicyHash : String
  outcomeResolutionPolicyHash : String
  outcomeAvailabilityRuleSetHash : String
  intervalPolicyVersion : String
  windowDatePolicyVersion : String
  schemaVersion : Int
deriving DecidableEq

structure FittedCalibrationSet extends CalibrationTerms where
  buckets : List FittedCalibrationBucket

/-! ## Terms -/

section Terms

variable (unicode : UnicodeData)

def CalibrationTerms.normal (t : CalibrationTerms) : CalibrationTerms :=
  { t with
    modelVersion := unicode.nfc t.modelVersion
    symbol := unicode.nfc t.symbol
    target := unicode.nfc t.target
    seriesBasis := unicode.nfc t.seriesBasis
    horizonUnit := unicode.nfc t.horizonUnit
    currency := unicode.nfc t.currency
    sourceCalibrationSetVersion := unicode.nfc t.sourceCalibrationSetVersion
    sourceCalibrationMethod := unicode.nfc t.sourceCalibrationMethod }

/-- The part of `_normalized_set` up to the buckets. -/
def normalizedTerms (t : CalibrationTerms) : Except String CalibrationTerms := do
  refuseIf (t.schemaVersion ≠ 2) "calibration set schema_version is not supported"
  let modelVersion ← modelVersionText unicode t.modelVersion
  let symbol ← symbolText unicode t.symbol
  let target ← semanticText unicode t.target "target" 32
  let seriesBasis ← semanticText unicode t.seriesBasis "series_basis" 32
  let horizonUnit ← semanticText unicode t.horizonUnit "horizon_unit" 32
  let currency ← semanticText unicode t.currency "currency" 16
  let sourceCalibrationSetVersion ←
    semanticText unicode t.sourceCalibrationSetVersion "source_calibration_set_version" 128
  let sourceCalibrationMethod ←
    semanticText unicode t.sourceCalibrationMethod "source_calibration_method" 32
  sha256Text t.forecastResolutionPolicyHash "forecast_resolution_policy_hash"
  sha256Text t.forecastAvailabilityRuleSetHash "forecast_availability_rule_set_hash"
  sha256Text t.fitEvidenceDigest "fit_evidence_digest"
  refuseIf (sourceCalibrationMethod ≠ "none" ∨
      sourceCalibrationSetVersion ≠ "uncalibrated:" ++ modelVersion)
    "this calibration-set format requires uncalibrated source forecasts"
  policyVersion t.intervalPolicyVersion "central-equal-tailed-v1" "interval_policy_version"
  policyVersion t.windowDatePolicyVersion "utc-target-date-v1" "window_date_policy_version"
  refuseIf (t.windowEnd < t.windowStart) "window_end must be on or after window_start"
  refuseIf (t.sampleCount ≤ 0) "sample_count must be a positive integer"
  return { t with
    modelVersion, symbol, target, seriesBasis, horizonUnit, currency, sourceCalibrationSetVersion,
    sourceCalibrationMethod }

structure CalibrationTerms.Valid (t : CalibrationTerms) : Prop where
  version : t.schemaVersion = 2
  modelText : IsModelVersion t.modelVersion
  symbolText : IsSemantic unicode 32 t.symbol
  isTicker : IsTicker t.symbol
  targetText : IsSemantic unicode 32 t.target
  basisText : IsSemantic unicode 32 t.seriesBasis
  unitText : IsSemantic unicode 32 t.horizonUnit
  currencyText : IsSemantic unicode 16 t.currency
  sourceVersionText : IsSemantic unicode 128 t.sourceCalibrationSetVersion
  sourceMethodText : IsSemantic unicode 32 t.sourceCalibrationMethod
  resolutionHash : IsHash t.forecastResolutionPolicyHash
  availabilityHash : IsHash t.forecastAvailabilityRuleSetHash
  digestHash : IsHash t.fitEvidenceDigest
  uncalibrated : ¬ (t.sourceCalibrationMethod ≠ "none" ∨
    t.sourceCalibrationSetVersion ≠ "uncalibrated:" ++ t.modelVersion)
  intervalPolicy : t.intervalPolicyVersion = "central-equal-tailed-v1"
  windowPolicy : t.windowDatePolicyVersion = "utc-target-date-v1"
  window : t.windowStart ≤ t.windowEnd
  counted : 0 < t.sampleCount

variable {unicode}

theorem normalizedTerms_eq_ok_iff {t u : CalibrationTerms} :
    normalizedTerms unicode t = .ok u ↔ t.normal unicode = u ∧ u.Valid unicode := by
  rw [normalizedTerms, refuseIf_bind_eq_ok_iff, modelVersionText_bind_eq_ok_iff,
    symbolText_bind_eq_ok_iff, semanticText_bind_eq_ok_iff, semanticText_bind_eq_ok_iff,
    semanticText_bind_eq_ok_iff, semanticText_bind_eq_ok_iff, semanticText_bind_eq_ok_iff,
    semanticText_bind_eq_ok_iff, sha256Text_bind_eq_ok_iff, sha256Text_bind_eq_ok_iff,
    sha256Text_bind_eq_ok_iff, refuseIf_bind_eq_ok_iff, policyVersion_bind_eq_ok_iff,
    policyVersion_bind_eq_ok_iff, refuseIf_bind_eq_ok_iff, refuseIf_bind_eq_ok_iff, not_not, not_lt,
    not_le, pure_eq_ok]
  constructor
  · rintro ⟨hVersion, hModel, hSymbol, hTicker, hTarget, hBasis, hUnit, hCurrency, hSourceVersion,
      hSourceMethod, hResolution, hAvailability, hDigest, hUncalibrated, hInterval, hWindowPolicy,
      hWindow, hCount, h⟩
    cases h
    exact ⟨rfl, hVersion, hModel, hSymbol, hTicker, hTarget, hBasis, hUnit, hCurrency, hSourceVersion,
      hSourceMethod, hResolution, hAvailability, hDigest, hUncalibrated, hInterval, hWindowPolicy,
      hWindow, hCount⟩
  · rintro ⟨rfl, v⟩
    exact ⟨v.version, v.modelText, v.symbolText, v.isTicker, v.targetText, v.basisText, v.unitText,
      v.currencyText, v.sourceVersionText, v.sourceMethodText, v.resolutionHash, v.availabilityHash,
      v.digestHash, v.uncalibrated, v.intervalPolicy, v.windowPolicy, v.window, v.counted, rfl⟩

theorem CalibrationTerms.normal_normal (t : CalibrationTerms) :
    (t.normal unicode).normal unicode = t.normal unicode := by
  simp [CalibrationTerms.normal, unicode.idempotent]

end Terms

/-! ## Selections of a normal form -/

/-- The selection of a rank at a thousandth. -/
structure Selected (selection : QuantileSelection) (millis : Nat) : Prop where
  range : 1 ≤ millis ∧ millis ≤ 999
  coverage : selection.coverage = thousandth millis
  ranked : selection.rank = rank selection.sampleCount millis
  fits : selection.rank ≤ selection.sampleCount
  version : selection.policyVersion = finiteSamplePolicyVersion

theorem quantileSelection_eq_ok {s t : QuantileSelection} (h : quantileSelection s = .ok t) :
    t.value = s.value ∧ ∃ millis, Selected t millis := by
  simp only [quantileSelection, positiveInteger, finite, bind_assoc, pure_bind, ok_bind] at h
  rw [bind_eq_ok_iff] at h
  obtain ⟨⟨coverage, millis⟩, hCoverage, h⟩ := h
  obtain ⟨hMillis, rfl⟩ := canonical_of_coverageOf hCoverage
  simp only [refuseIf_bind_eq_ok_iff, not_not, not_lt] at h
  obtain ⟨-, -, hFits, hRank, hVersion, h⟩ := h
  cases h
  exact ⟨rfl, millis, hMillis, rfl, hRank, hRank.trans_le hFits, hVersion⟩

theorem Selected.again {t : QuantileSelection} {millis : Nat} (h : Selected t millis) :
    quantileSelection t = .ok t := by
  have hRank := rank_pos t.sampleCount h.range.1
  have hFits := h.fits
  have hRanked := h.ranked
  simp only [quantileSelection, h.coverage, coverageOf_thousandth h.range, positiveInteger, finite,
    ok_bind, bind_assoc, pure_bind]
  rw [refuseIf_of_not (by omega), ok_bind, refuseIf_of_not (by omega), ok_bind,
    refuseIf_of_not (by omega), ok_bind, refuseIf_of_not (not_not.mpr hRanked), ok_bind,
    refuseIf_of_not (not_not.mpr h.version), ok_bind, pure_eq_ok, ← h.coverage]

/-- The product of a canonical thousandth lies close to its thousandths. -/
theorem product_near {millis : Nat} (h : 1 ≤ millis ∧ millis ≤ 999) :
    |binary64.round (thousandth millis * 1000) - millis| ≤ 1 / 10 ^ 12 := by
  have hHigh : (millis : ℚ) ≤ 999 := by exact_mod_cast h.2
  have hLow : (1 : ℚ) ≤ millis := by exact_mod_cast h.1
  have hFirst : |thousandth millis - millis / 1000| ≤ (2 : ℚ) ^ ((-1 : ℤ) - (53 - 1)) / 2 := by
    apply binary64.abs_round_sub_le (by decide) (by positivity) _ (by decide)
    norm_num [binary64]
    linarith
  norm_num at hFirst
  obtain ⟨hAbove, hBelow⟩ := abs_le.mp hFirst
  have hSecond : |binary64.round (thousandth millis * 1000) - thousandth millis * 1000| ≤
      (2 : ℚ) ^ ((9 : ℤ) - (53 - 1)) / 2 := by
    apply binary64.abs_round_sub_le (by decide) (by linarith) _ (by decide)
    norm_num [binary64]
    linarith
  norm_num at hSecond
  obtain ⟨hFrom, hTo⟩ := abs_le.mp hSecond
  rw [abs_le]
  constructor <;> linarith

theorem binary64_round_small {x : ℚ} (h : 0 ≤ x) (hSmall : x ≤ 1 / 10 ^ 12) :
    binary64.round x ≤ 1 / 10 ^ 11 := by
  rcases h.eq_or_lt with rfl | hPos
  · rw [binary64.round_zero]
    positivity
  · have hNear : |binary64.round x - x| ≤ (2 : ℚ) ^ ((-39 : ℤ) - (53 - 1)) / 2 := by
      apply binary64.abs_round_sub_le (by decide) hPos _ (by decide)
      norm_num [binary64]
      linarith
    norm_num at hNear
    obtain ⟨-, hBelow⟩ := abs_le.mp hNear
    linarith

/-- `round(value * 1000)`. -/
def nearestMillis (value : ℚ) : Int := Rounding.roundEven (binary64.round (value * 1000))

/-- `_coverage_millis` of the set. -/
def coverageMillis (value : ℚ) : Except String Int := do
  let product := binary64.round (value * 1000)
  let converted := nearestMillis value
  refuseIf (binary64.round (1 / 10 ^ 9) < binary64.round |product - converted| ∨
    ¬ (1 ≤ converted ∧ converted ≤ 999)) "coverage cannot be represented canonically"
  return converted

theorem coverageMillis_thousandth {millis : Nat} (h : 1 ≤ millis ∧ millis ≤ 999) :
    coverageMillis (thousandth millis) = .ok millis := by
  have hNearest : nearestMillis (thousandth millis) = millis := roundEven_thousandth h
  have hNear := product_near h
  have hClose : ¬ binary64.round (1 / 10 ^ 9) <
      binary64.round |binary64.round (thousandth millis * 1000) - millis| := by
    have hBound := binary64_round_small (abs_nonneg _) hNear
    have hTolerance : |binary64.round (1 / 10 ^ 9) - 1 / 10 ^ 9| ≤
        (2 : ℚ) ^ ((-29 : ℤ) - (53 - 1)) / 2 := by
      apply binary64.abs_round_sub_le (by decide) (by positivity) _ (by decide)
      norm_num [binary64]
    norm_num at hTolerance
    obtain ⟨hAbove, -⟩ := abs_le.mp hTolerance
    rw [not_lt]
    linarith
  simp only [coverageMillis, hNearest]
  rw [refuseIf_of_not, ok_bind, pure_eq_ok]
  rintro (hFar | hRange)
  · exact hClose (by exact_mod_cast hFar)
  · exact hRange ⟨by exact_mod_cast h.1, by exact_mod_cast h.2⟩

/-! ## Buckets -/

theorem value_of_quantileSelection {s t : QuantileSelection} (h : quantileSelection s = .ok t) :
    t.value = s.value := (quantileSelection_eq_ok h).1

/-- `QuantileSelection(..)` of a float. -/
def floatSelection (selection : FloatSelection) : Except ConformalError FloatSelection :=
  match h : quantileSelection selection.1 with
  | .error e => .error e
  | .ok t => .ok ⟨t, (value_of_quantileSelection h).symm ▸ selection.2⟩

theorem floatSelection_eq_ok_iff {s t : FloatSelection} :
    floatSelection s = .ok t ↔ quantileSelection s.1 = .ok t.1 := by
  rw [floatSelection]
  split
  · next h => rw [h]; exact iff_of_false (by rintro ⟨⟩) (by rintro ⟨⟩)
  · next h => simp only [h, Except.ok.injEq, ← Subtype.val_inj]

def CalibrationMethod.unsupported : CalibrationMethod → String
  | .empiricalResidual => "absolute-residual policy_version is not supported"
  | .conformalQuantileRegression => "CQR policy_version is not supported"

/-- The constructor of the correction of a method. -/
def fittedCorrection (method : CalibrationMethod) (selection : FloatSelection)
    (policyVersion : String) : Except ConformalError FittedCorrection := do
  let hNonnegative ← ensure (method = .empiricalResidual → 0 ≤ selection.1.value)
    "absolute-residual radius cannot be negative"
  let hSupported ← ensure (policyVersion = method.correctionPolicyVersion) method.unsupported
  return ⟨method, selection, policyVersion, hNonnegative.down, hSupported.down⟩

theorem fittedCorrection_self (c : FittedCorrection) :
    fittedCorrection c.method c.selection c.policyVersion = .ok c := by
  rw [fittedCorrection, ensure_of c.nonnegative, ok_bind, ensure_of c.supported, ok_bind, pure_eq_ok]

theorem fittedCorrection_eq_ok {method : CalibrationMethod} {selection : FloatSelection}
    {version : String} {c : FittedCorrection} (h : fittedCorrection method selection version = .ok c) :
    c.method = method ∧ c.selection = selection ∧ c.policyVersion = version := by
  rw [fittedCorrection, bind_eq_ok_iff] at h
  obtain ⟨_, -, h⟩ := h
  rw [bind_eq_ok_iff] at h
  obtain ⟨_, -, h⟩ := h
  cases h
  exact ⟨rfl, rfl, rfl⟩

/-- The corrections of `_normalized_bucket`. -/
def refitted (method : CalibrationMethod) (c : FittedCorrection) :
    Except ConformalError FittedCorrection := do
  let normalizedSelection ← floatSelection c.selection
  fittedCorrection method normalizedSelection c.policyVersion

/-- `_normalized_bucket`. -/
def normalizedBucket (method : CalibrationMethod) (sampleCount : Int)
    (bucket : FittedCalibrationBucket) : Except String FittedCalibrationBucket := do
  refuseIf (¬ (1 ≤ bucket.horizon ∧ bucket.horizon ≤ 252))
    "calibration bucket horizon must be within 1..252"
  refuseIf (bucket.calibration.method ≠ method)
    "calibration bucket type does not match the set method"
  policyVersion bucket.calibration.selection.1.policyVersion finiteSamplePolicyVersion
    "calibration bucket quantile selection policy_version"
  policyVersion bucket.calibration.policyVersion method.correctionPolicyVersion
    "calibration bucket correction policy_version"
  let calibration ← (refitted method bucket.calibration).mapError fun _ =>
    "calibration bucket is not a valid fitted conformal correction"
  refuseIf (¬ (1 ≤ (calibration.selection.1.sampleCount : Int) ∧
      calibration.selection.1.sampleCount ≤ sampleCount))
    "calibration bucket fit sample count is outside the set sample count"
  return ⟨bucket.horizon, calibration⟩

/-- What `_normalized_bucket` returns: a rank within the sample of a set, at a thousandth. -/
structure FittedBucket (method : CalibrationMethod) (sampleCount : Int)
    (bucket : FittedCalibrationBucket) (millis : Nat) : Prop where
  horizonRange : 1 ≤ bucket.horizon ∧ bucket.horizon ≤ 252
  sameMethod : bucket.calibration.method = method
  selected : Selected bucket.calibration.selection.1 millis
  counted : (bucket.calibration.selection.1.sampleCount : Int) ≤ sampleCount

section Bucket

variable {method : CalibrationMethod} {sampleCount : Int} {bucket fitted : FittedCalibrationBucket}
  {millis : Nat}

theorem normalizedBucket_eq_ok (h : normalizedBucket method sampleCount bucket = .ok fitted) :
    fitted.horizon = bucket.horizon ∧
      fitted.calibration.selection.1.value = bucket.calibration.selection.1.value ∧
      ∃ millis, FittedBucket method sampleCount fitted millis := by
  rw [normalizedBucket, refuseIf_bind_eq_ok_iff] at h
  obtain ⟨hHorizon, h⟩ := h
  rw [refuseIf_bind_eq_ok_iff, policyVersion_bind_eq_ok_iff, policyVersion_bind_eq_ok_iff,
    bind_eq_ok_iff] at h
  obtain ⟨-, -, -, calibration, hRefitted, h⟩ := h
  rw [refuseIf_bind_eq_ok_iff, not_not] at h
  obtain ⟨hCount, h⟩ := h
  cases h
  rw [mapError_eq_ok_iff, refitted, bind_eq_ok_iff] at hRefitted
  obtain ⟨selection, hSelection, hCorrection⟩ := hRefitted
  obtain ⟨hMethod, hSame, -⟩ := fittedCorrection_eq_ok hCorrection
  obtain ⟨hValue, millis, hSelected⟩ :=
    quantileSelection_eq_ok (floatSelection_eq_ok_iff.mp hSelection)
  rw [← hSame] at hValue hSelected
  exact ⟨rfl, hValue, millis, not_not.mp hHorizon, hMethod, hSelected, hCount.2⟩

theorem FittedBucket.refitted (h : FittedBucket method sampleCount fitted millis) :
    refitted method fitted.calibration = .ok fitted.calibration := by
  have hSelection : floatSelection fitted.calibration.selection = .ok fitted.calibration.selection :=
    floatSelection_eq_ok_iff.mpr h.selected.again
  rw [Calibration.refitted, hSelection, ok_bind, ← h.sameMethod, fittedCorrection_self]

/-- A bucket of a normal form is accepted again and left as it is. -/
theorem FittedBucket.again (h : FittedBucket method sampleCount fitted millis) :
    normalizedBucket method sampleCount fitted = .ok fitted := by
  have hPos : 1 ≤ (fitted.calibration.selection.1.sampleCount : Int) := by
    have := rank_pos fitted.calibration.selection.1.sampleCount h.selected.range.1
    have := h.selected.ranked
    have := h.selected.fits
    omega
  have hVersion : fitted.calibration.policyVersion = method.correctionPolicyVersion := by
    rw [← h.sameMethod]
    exact fitted.calibration.supported
  rw [normalizedBucket, refuseIf_of_not (not_not.mpr h.horizonRange), ok_bind,
    refuseIf_of_not (not_not.mpr h.sameMethod), ok_bind, policyVersion,
    refuseIf_of_not (not_not.mpr h.selected.version), ok_bind, policyVersion,
    refuseIf_of_not (not_not.mpr hVersion), ok_bind, mapError_eq_ok_iff.mpr h.refitted, ok_bind,
    refuseIf_of_not (not_not.mpr ⟨hPos, h.counted⟩), ok_bind, pure_eq_ok]

end Bucket

/-- The key that buckets are sorted by. -/
def bucketKey (bucket : FittedCalibrationBucket) : Int ×ₗ Int :=
  toLex (bucket.horizon, nearestMillis bucket.calibration.selection.1.coverage)

theorem FittedBucket.nearest {method : CalibrationMethod} {sampleCount : Int}
    {bucket : FittedCalibrationBucket} {millis : Nat}
    (h : FittedBucket method sampleCount bucket millis) :
    nearestMillis bucket.calibration.selection.1.coverage = millis := by
  rw [h.selected.coverage]
  exact roundEven_thousandth h.selected.range

theorem FittedBucket.key {method : CalibrationMethod} {sampleCount : Int}
    {bucket : FittedCalibrationBucket} {millis : Nat}
    (h : FittedBucket method sampleCount bucket millis) :
    coverageMillis bucket.calibration.selection.1.coverage = .ok (millis : Int) ∧
      bucketKey bucket = toLex (bucket.horizon, (millis : Int)) := by
  rw [bucketKey, h.nearest, h.selected.coverage]
  exact ⟨coverageMillis_thousandth h.selected.range, rfl⟩

/-! ## The normal form -/

section NormalSet

variable (unicode : UnicodeData)

/-- `_normalized_set`. -/
def normalizedSet (s : FittedCalibrationSet) : Except String FittedCalibrationSet := do
  let terms ← normalizedTerms unicode s.toCalibrationTerms
  refuseIf (¬ (1 ≤ s.buckets.length ∧ s.buckets.length ≤ 10000))
    "calibration bucket count is outside the supported bounds"
  let normalizedBuckets ← s.buckets.mapM (normalizedBucket terms.method terms.sampleCount)
  let keys ← normalizedBuckets.mapM fun bucket => do
    let millis ← coverageMillis bucket.calibration.selection.1.coverage
    return (bucket.horizon, millis)
  refuseIf (¬ keys.Nodup) "calibration set contains a duplicate horizon/coverage bucket"
  let ordered := sortOn bucketKey normalizedBuckets
  sha256Text s.cohortId "cohort_id"
  sha256Text s.selectionPolicyHash "selection_policy_hash"
  sha256Text s.outcomeResolutionPolicyHash "outcome_resolution_policy_hash"
  sha256Text s.outcomeAvailabilityRuleSetHash "outcome_availability_rule_set_hash"
  return { toCalibrationTerms := terms, buckets := ordered }

/-- What a normal form is. -/
structure NormalSet (n : FittedCalibrationSet) : Prop where
  terms : n.toCalibrationTerms.Valid unicode
  composed : n.toCalibrationTerms.normal unicode = n.toCalibrationTerms
  hashes : IsHash n.cohortId ∧ IsHash n.selectionPolicyHash ∧
    IsHash n.outcomeResolutionPolicyHash ∧ IsHash n.outcomeAvailabilityRuleSetHash
  size : 1 ≤ n.buckets.length ∧ n.buckets.length ≤ 10000
  fitted : ∀ bucket ∈ n.buckets, ∃ millis, FittedBucket n.method n.sampleCount bucket millis
  ascending : n.buckets.Pairwise fun a b => bucketKey a < bucketKey b

/-- The keys as the duplicate check has them. -/
theorem keys_eq {method : CalibrationMethod} {sampleCount : Int}
    {buckets : List FittedCalibrationBucket}
    (fitted : ∀ bucket ∈ buckets, ∃ millis, FittedBucket method sampleCount bucket millis) :
    (buckets.mapM fun bucket => do
      let millis ← coverageMillis bucket.calibration.selection.1.coverage
      return (bucket.horizon, millis)) = .ok (buckets.map fun bucket => ofLex (bucketKey bucket)) := by
  apply mapM_of_forall₂
  rw [List.forall₂_map_right_iff, List.forall₂_same]
  intro bucket hMem
  obtain ⟨millis, hFitted⟩ := fitted bucket hMem
  obtain ⟨hMillis, hKey⟩ := hFitted.key
  rw [hMillis, hKey]
  rfl

theorem nodup_keys_iff (buckets : List FittedCalibrationBucket) :
    (buckets.map fun bucket => ofLex (bucketKey bucket)).Nodup ↔ (buckets.map bucketKey).Nodup := by
  have hMap : (buckets.map fun bucket => ofLex (bucketKey bucket)) = (buckets.map bucketKey).map ofLex :=
    (List.map_map).symm
  rw [hMap, List.nodup_map_iff ofLex.injective]

variable {unicode}

theorem fitted_of_mapM {method : CalibrationMethod} {sampleCount : Int}
    {buckets fitted : List FittedCalibrationBucket}
    (h : buckets.mapM (normalizedBucket method sampleCount) = .ok fitted) :
    ∀ bucket ∈ fitted, ∃ millis, FittedBucket method sampleCount bucket millis := by
  intro bucket hMem
  obtain ⟨_, -, hBucket⟩ := exists_left_of_forall₂ (forall₂_of_mapM h) hMem
  exact (normalizedBucket_eq_ok hBucket).2.2

theorem normalizedSet_eq_ok_iff {s n : FittedCalibrationSet} :
    normalizedSet unicode s = .ok n ↔
      s.toCalibrationTerms.normal unicode = n.toCalibrationTerms ∧ NormalSet unicode n ∧
        ∃ fitted, s.buckets.mapM (normalizedBucket n.method n.sampleCount) = .ok fitted ∧
          fitted.Perm n.buckets := by
  rw [normalizedSet, bind_eq_ok_iff]
  constructor
  · rintro ⟨terms, hTerms, h⟩
    obtain ⟨rfl, hValid⟩ := normalizedTerms_eq_ok_iff.mp hTerms
    rw [refuseIf_bind_eq_ok_iff, not_not, bind_eq_ok_iff] at h
    obtain ⟨hSize, fitted, hFitted, h⟩ := h
    rw [keys_eq (fitted_of_mapM hFitted), ok_bind, refuseIf_bind_eq_ok_iff, not_not,
      nodup_keys_iff] at h
    obtain ⟨hDistinct, h⟩ := h
    dsimp only at h
    rw [sha256Text_bind_eq_ok_iff, sha256Text_bind_eq_ok_iff, sha256Text_bind_eq_ok_iff,
      sha256Text_bind_eq_ok_iff] at h
    obtain ⟨hCohort, hSelection, hResolution, hAvailability, h⟩ := h
    cases h
    have hPerm : (sortOn bucketKey fitted).Perm fitted := sortOn_perm fitted
    refine ⟨rfl, ⟨hValid, CalibrationTerms.normal_normal _,
      ⟨hCohort, hSelection, hResolution, hAvailability⟩, ?_, ?_, sortOn_pairwise hDistinct⟩,
      fitted, hFitted, hPerm.symm⟩
    · rw [hPerm.length_eq, ← (forall₂_of_mapM hFitted).length_eq]
      exact hSize
    · intro bucket hMem
      exact fitted_of_mapM hFitted bucket (hPerm.mem_iff.mp hMem)
  · rintro ⟨hTerms, hNormal, fitted, hFitted, hPerm⟩
    have hDistinct : (fitted.map bucketKey).Nodup :=
      (hPerm.map bucketKey).nodup_iff.mpr (List.pairwise_map.mpr (hNormal.ascending.imp ne_of_lt))
    have hSize : 1 ≤ s.buckets.length ∧ s.buckets.length ≤ 10000 := by
      rw [(forall₂_of_mapM hFitted).length_eq, hPerm.length_eq]
      exact hNormal.size
    obtain ⟨hCohort, hSelection, hResolution, hAvailability⟩ := hNormal.hashes
    have hHashes : s.cohortId = n.cohortId ∧ s.selectionPolicyHash = n.selectionPolicyHash ∧
        s.outcomeResolutionPolicyHash = n.outcomeResolutionPolicyHash ∧
        s.outcomeAvailabilityRuleSetHash = n.outcomeAvailabilityRuleSetHash := by
      rw [← hTerms]
      exact ⟨rfl, rfl, rfl, rfl⟩
    refine ⟨n.toCalibrationTerms, normalizedTerms_eq_ok_iff.mpr ⟨hTerms, hNormal.terms⟩, ?_⟩
    rw [refuseIf_of_not (not_not.mpr hSize), ok_bind, hFitted, ok_bind,
      keys_eq (fitted_of_mapM hFitted), ok_bind,
      refuseIf_of_not (not_not.mpr ((nodup_keys_iff fitted).mpr hDistinct)), ok_bind]
    dsimp only
    rw [sha256Text_bind_eq_ok_iff, sha256Text_bind_eq_ok_iff, sha256Text_bind_eq_ok_iff,
      sha256Text_bind_eq_ok_iff, hHashes.1, hHashes.2.1, hHashes.2.2.1, hHashes.2.2.2,
      sortOn_eq_of_perm hPerm hNormal.ascending]
    exact ⟨hCohort, hSelection, hResolution, hAvailability, rfl⟩

/-- A normal form is accepted again and returned unchanged. -/
theorem NormalSet.again {n : FittedCalibrationSet} (h : NormalSet unicode n) :
    normalizedSet unicode n = .ok n := by
  refine normalizedSet_eq_ok_iff.mpr ⟨h.composed, h, n.buckets, ?_, List.Perm.refl _⟩
  apply mapM_of_forall₂
  rw [List.forall₂_same]
  intro bucket hMem
  obtain ⟨millis, hFitted⟩ := h.fitted bucket hMem
  exact hFitted.again

/-- The order of the buckets does not matter. -/
theorem normalizedSet_perm {s s' n : FittedCalibrationSet}
    (terms : s.toCalibrationTerms = s'.toCalibrationTerms) (perm : s.buckets.Perm s'.buckets)
    (h : normalizedSet unicode s = .ok n) : normalizedSet unicode s' = .ok n := by
  obtain ⟨hTerms, hNormal, fitted, hFitted, hPerm⟩ := normalizedSet_eq_ok_iff.mp h
  obtain ⟨fitted', hFitted', hPerm'⟩ := mapM_perm perm hFitted
  exact normalizedSet_eq_ok_iff.mpr
    ⟨terms ▸ hTerms, hNormal, fitted', hFitted', hPerm'.symm.trans hPerm⟩

end NormalSet

end StockApi.Calibration

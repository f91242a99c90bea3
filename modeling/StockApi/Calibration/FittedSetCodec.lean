import StockApi.Calibration.FittedSet
import StockApi.Library.DocumentSize

/-!
# The canonical bytes of a fitted set

`canonical_calibration_set` and `parse_calibration_set`. The bytes stand for the normal form of a set;
the parser accepts these bytes and no others.
-/

namespace StockApi.Calibration

open Checked CivilTime Documents Groups Text
open Adjustment (binary64)

/-! ## Writing -/

def CalibrationMethod.text : CalibrationMethod → String
  | .empiricalResidual => "empirical_residual"
  | .conformalQuantileRegression => "conformal_quantile_regression"

/-- `_float_bits`. -/
def floatBits (value : ℚ) : String := (Float64.ofValue value).hex

def bucketRow (bucket : FittedCalibrationBucket) (millis : Int) : Document :=
  .obj [("correction_policy_version", .plain bucket.calibration.policyVersion),
    ("coverage_millis", .int millis),
    ("fit_sample_count", .int bucket.calibration.selection.1.sampleCount),
    ("horizon", .int bucket.horizon),
    ("quantile_selection_policy_version", .plain bucket.calibration.selection.1.policyVersion),
    ("rank", .int bucket.calibration.selection.1.rank),
    ("value_f64_be", .plain (floatBits bucket.calibration.selection.1.value))]

/-- The document of a normal form, its keys in order. -/
def setDocument (t : CalibrationTerms) (rows : List Document) : Document :=
  .obj [("buckets", .arr rows), ("cohort_id", .plain t.cohortId), ("currency", .plain t.currency),
    ("fit_evidence_digest", .plain t.fitEvidenceDigest),
    ("forecast_availability_rule_set_hash", .plain t.forecastAvailabilityRuleSetHash),
    ("forecast_resolution_policy_hash", .plain t.forecastResolutionPolicyHash),
    ("format", .plain "forecast-calibration-set-v2"), ("horizon_unit", .plain t.horizonUnit),
    ("interval_policy_version", .plain t.intervalPolicyVersion), ("method", .plain t.method.text),
    ("model_version", .plain t.modelVersion),
    ("outcome_availability_rule_set_hash", .plain t.outcomeAvailabilityRuleSetHash),
    ("outcome_resolution_policy_hash", .plain t.outcomeResolutionPolicyHash),
    ("sample_count", .int t.sampleCount), ("schema_version", .int t.schemaVersion),
    ("selection_policy_hash", .plain t.selectionPolicyHash), ("series_basis", .plain t.seriesBasis),
    ("source_calibration_method", .plain t.sourceCalibrationMethod),
    ("source_calibration_set_version", .plain t.sourceCalibrationSetVersion),
    ("symbol", .plain t.symbol), ("target", .plain t.target),
    ("window_date_policy_version", .plain t.windowDatePolicyVersion),
    ("window_end", .plain t.windowEnd.isoformat), ("window_start", .plain t.windowStart.isoformat)]

/-- `MAX_CANONICAL_BYTES`. -/
def maxCanonicalBytes : Nat := 4 * 1024 * 1024

section Writer

variable (unicode : UnicodeData) (floats : FloatText)

def canonicalCalibrationSet (s : FittedCalibrationSet) : Except String Bytes := do
  let normalized ← normalizedSet unicode s
  let rows ← normalized.buckets.mapM fun bucket => do
    let millis ← coverageMillis bucket.calibration.selection.1.coverage
    return bucketRow bucket millis
  let canonical := dumps floats (setDocument normalized.toCalibrationTerms rows)
  refuseIf (canonical = [] ∨ maxCanonicalBytes < canonical.length)
    "canonical fitted calibration set exceeds the storage limit"
  return canonical

end Writer

/-! ## Reading -/

/-- A text, or the refusal of whatever else is there. -/
def textOr (value : Document) (message : String) : Except String String :=
  match value with
  | .str (.plain s) => .ok s
  | _ => .error message

/-- `_integer`. -/
def integerField (value : Document) (label : String) : Except String Int :=
  orRefuse value.int? (label ++ " must be an integer")

def readMethod (value : Document) : Except String CalibrationMethod :=
  if value = .plain "empirical_residual" then .ok .empiricalResidual
  else if value = .plain "conformal_quantile_regression" then .ok .conformalQuantileRegression
  else .error "calibration method is not supported"

/-- `_sha256` of a field. -/
def readHash (value : Document) (label : String) : Except String String := do
  let text ← textOr value (label ++ " must be a canonical sha256 hash")
  sha256Text text label
  return text

/-- `_policy_version` of a field. -/
def readPolicyVersion (value : Document) (expected label : String) : Except String String := do
  let text ← textOr value (label ++ " is not supported")
  policyVersion text expected label
  return text

/-- An integer above zero. -/
def positive? (value : Document) : Option Nat :=
  value.int?.bind fun n => if 0 < n then some n.toNat else none

/-- `_parse_float_bits`, by the value of the float. -/
def floatOfBits? : Document → Option {q : ℚ // Float64.IsDouble q}
  | .str (.plain s) =>
    (Float64.ofHex s).bind fun x => if h : x.isFinite = true then some ⟨x.value, x, h, rfl⟩ else none
  | _ => none

/-- The `try` block of `_bucket`, all of whose refusals have one text. -/
def readCorrection (method : CalibrationMethod) (millis : Int) (row : Document)
    (quantilePolicy correctionPolicy invalid : String) : Except String FittedCorrection := do
  let sampleCount ← orRefuse (positive? (row.field "fit_sample_count")) invalid
  let rank ← orRefuse (positive? (row.field "rank")) invalid
  let value ← orRefuse (floatOfBits? (row.field "value_f64_be")) invalid
  let selection ← (floatSelection
    ⟨⟨thousandth millis, sampleCount, rank, value.1, quantilePolicy⟩, value.2⟩).mapError fun _ => invalid
  (fittedCorrection method selection correctionPolicy).mapError fun _ => invalid

/-- `_bucket` and the check before it. -/
def readBucket (method : CalibrationMethod) (entry : Document × Nat) :
    Except String FittedCalibrationBucket := do
  let (row, index) := entry
  let label := "buckets[" ++ toString index ++ "]"
  refuseIf (¬ row.HasKeys ["correction_policy_version", "coverage_millis", "fit_sample_count", "horizon",
      "quantile_selection_policy_version", "rank", "value_f64_be"])
    ("calibration bucket " ++ toString index ++ " has unknown or missing keys")
  let millis ← integerField (row.field "coverage_millis") (label ++ ".coverage_millis")
  refuseIf (¬ (1 ≤ millis ∧ millis ≤ 999)) (label ++ ".coverage_millis must be within 1..999")
  let quantilePolicy ← readPolicyVersion (row.field "quantile_selection_policy_version")
    finiteSamplePolicyVersion (label ++ ".quantile_selection_policy_version")
  let correctionPolicy ← readPolicyVersion (row.field "correction_policy_version")
    method.correctionPolicyVersion (label ++ ".correction_policy_version")
  let calibration ← readCorrection method millis row quantilePolicy correctionPolicy
    (label ++ " is not a valid fitted conformal correction")
  let horizon ← integerField (row.field "horizon") (label ++ ".horizon")
  return ⟨horizon, calibration⟩

section Reader

variable (unicode : UnicodeData) (floats : FloatText)

/-- The pattern `^\d{4}-\d{2}-\d{2}$`. -/
def IsDatePattern (s : String) : Prop :=
  s.toList.length = 10 ∧ ∀ entry ∈ s.toList.zipIdx,
    if entry.2 = 4 ∨ entry.2 = 7 then entry.1 = '-' else unicode.isDecimal entry.1 = true

instance (s : String) : Decidable (IsDatePattern unicode s) := inferInstanceAs (Decidable (_ ∧ _))

/-- `_parse_date`. -/
def parseDate (value : Document) (label : String) : Except String Date := do
  let text ← textOr value (label ++ " must be a canonical ISO date")
  refuseIf (¬ IsDatePattern unicode text) (label ++ " must be a canonical ISO date")
  let parsed ← orRefuse (Date.fromisoformat text) (label ++ " is not a valid date")
  refuseIf (parsed.isoformat ≠ text) (label ++ " must be a canonical ISO date")
  return parsed

/-- `_semantic_text` of a field. -/
def readSemantic (value : Document) (label : String) (maxLength : Nat) : Except String String := do
  let text ← textOr value (label ++ " must be a string")
  semanticText unicode text label maxLength

/-- The part of `parse_calibration_set` between the JSON reader and the normalization. -/
def readSet (document : Document) : Except String FittedCalibrationSet := do
  refuseIf (document.isObject = false) "fitted calibration set must be a JSON object"
  refuseIf (¬ document.HasKeys ["buckets", "cohort_id", "currency", "fit_evidence_digest",
      "forecast_availability_rule_set_hash", "forecast_resolution_policy_hash", "format",
      "horizon_unit", "interval_policy_version", "method", "model_version",
      "outcome_availability_rule_set_hash", "outcome_resolution_policy_hash", "sample_count",
      "schema_version", "selection_policy_hash", "series_basis", "source_calibration_method",
      "source_calibration_set_version", "symbol", "target", "window_end",
      "window_date_policy_version", "window_start"])
    "fitted calibration set has unknown or missing keys"
  refuseIf (document.field "format" ≠ .plain "forecast-calibration-set-v2")
    "fitted calibration set format is not supported"
  let method ← readMethod (document.field "method")
  let rawBuckets ← orRefuse (document.field "buckets").items?
    "calibration buckets must be a JSON array"
  let buckets ← rawBuckets.zipIdx.mapM (readBucket method)
  let schemaVersion ← integerField (document.field "schema_version") "schema_version"
  let modelText ← textOr (document.field "model_version") "model_version must be a string"
  let modelVersion ← modelVersionText unicode modelText
  let symbolValue ← textOr (document.field "symbol") "symbol must be a string"
  let symbol ← symbolText unicode symbolValue
  let target ← readSemantic unicode (document.field "target") "target" 32
  let seriesBasis ← readSemantic unicode (document.field "series_basis") "series_basis" 32
  let horizonUnit ← readSemantic unicode (document.field "horizon_unit") "horizon_unit" 32
  let currency ← readSemantic unicode (document.field "currency") "currency" 16
  let sourceCalibrationSetVersion ← readSemantic unicode
    (document.field "source_calibration_set_version") "source_calibration_set_version" 128
  let sourceCalibrationMethod ← readSemantic unicode (document.field "source_calibration_method")
    "source_calibration_method" 32
  let forecastResolutionPolicyHash ← readHash (document.field "forecast_resolution_policy_hash")
    "forecast_resolution_policy_hash"
  let forecastAvailabilityRuleSetHash ← readHash
    (document.field "forecast_availability_rule_set_hash") "forecast_availability_rule_set_hash"
  let fitEvidenceDigest ← readHash (document.field "fit_evidence_digest") "fit_evidence_digest"
  let windowStart ← parseDate unicode (document.field "window_start") "window_start"
  let windowEnd ← parseDate unicode (document.field "window_end") "window_end"
  let sampleCount ← orRefuse (positive? (document.field "sample_count"))
    "sample_count must be a positive integer"
  let cohortId ← readHash (document.field "cohort_id") "cohort_id"
  let selectionPolicyHash ← readHash (document.field "selection_policy_hash") "selection_policy_hash"
  let outcomeResolutionPolicyHash ← readHash (document.field "outcome_resolution_policy_hash")
    "outcome_resolution_policy_hash"
  let outcomeAvailabilityRuleSetHash ← readHash (document.field "outcome_availability_rule_set_hash")
    "outcome_availability_rule_set_hash"
  let intervalPolicyVersion ← readPolicyVersion (document.field "interval_policy_version")
    "central-equal-tailed-v1" "interval_policy_version"
  let windowDatePolicyVersion ← readPolicyVersion (document.field "window_date_policy_version")
    "utc-target-date-v1" "window_date_policy_version"
  return {
    modelVersion, symbol, target, seriesBasis, horizonUnit, currency, sourceCalibrationSetVersion,
    sourceCalibrationMethod, forecastResolutionPolicyHash, forecastAvailabilityRuleSetHash,
    fitEvidenceDigest, method, windowStart, windowEnd, cohortId, selectionPolicyHash,
    outcomeResolutionPolicyHash, outcomeAvailabilityRuleSetHash, intervalPolicyVersion,
    windowDatePolicyVersion, schemaVersion, buckets
    sampleCount := sampleCount }

def unreadableSet : Unreadable → String
  | .malformed => "canonical fitted calibration set is not strict UTF-8 JSON"
  | .duplicateKey _ => "canonical fitted calibration set contains a duplicate JSON key"

def parseCalibrationSet (canonicalSet : Bytes) : Except String FittedCalibrationSet := do
  refuseIf (canonicalSet = [] ∨ maxCanonicalBytes < canonicalSet.length)
    "canonical fitted calibration set must be non-empty bounded bytes"
  let document ← (loads floats canonicalSet).mapError unreadableSet
  let calibrationSet ← readSet unicode document
  let normalized ← normalizedSet unicode calibrationSet
  let canonical ← canonicalCalibrationSet unicode floats normalized
  refuseIf (canonical ≠ canonicalSet) "fitted calibration set bytes are not canonical"
  return normalized

/-- `calibration_set_version_for` of a set. -/
def calibrationSetVersionFor (sha256 : Bytes → String) (s : FittedCalibrationSet) :
    Except String String := do
  let canonical ← canonicalCalibrationSet unicode floats s
  return "sha256:" ++ sha256 canonical

end Reader

/-! ## The reader inverts the writer -/

section RoundTrip

variable {unicode : UnicodeData} {floats : FloatText}

theorem readHash_plain {s : String} (h : IsHash s) (label : String) :
    readHash (.plain s) label = .ok s := by
  rw [readHash, Json.plain, textOr, ok_bind, sha256Text, refuseIf_of_not (not_not.mpr h), ok_bind,
    pure_eq_ok]

theorem readPolicyVersion_plain {s expected : String} (h : s = expected) (label : String) :
    readPolicyVersion (.plain s) expected label = .ok s := by
  rw [readPolicyVersion, Json.plain, textOr, ok_bind, policyVersion, refuseIf_of_not (not_not.mpr h),
    ok_bind, pure_eq_ok]

theorem readSemantic_plain {s : String} {maxLength : Nat} (h : IsSemantic unicode maxLength s)
    (composed : unicode.nfc s = s) (label : String) :
    readSemantic unicode (.plain s) label maxLength = .ok s := by
  rw [readSemantic, Json.plain, textOr, ok_bind, semanticText, composed,
    refuseIf_of_not (not_not.mpr h), ok_bind, pure_eq_ok]

theorem readMethod_text (method : CalibrationMethod) :
    readMethod (.plain method.text) = .ok method := by
  cases method <;> rfl

theorem positive?_natCast {n : Nat} (h : 0 < n) : positive? (.int n) = some n := by
  rw [positive?, Json.int?, Option.bind_some, if_pos (by exact_mod_cast h), Int.toNat_natCast]

theorem isDatePattern_isoformat (d : Date) : IsDatePattern unicode d.isoformat := by
  have hDigit : ∀ n, unicode.isDecimal (Digits.digit n) = true := fun n =>
    unicode.decimal_of_digit _ (Digits.isDigit_digit n)
  rw [IsDatePattern, Date.isoformat, String.toList_ofList]
  refine ⟨Date.length_isoChars d, ?_⟩
  simp [Date.isoChars, Digits.pad, hDigit]

theorem parseDate_isoformat (d : Date) (label : String) :
    parseDate unicode (.plain d.isoformat) label = .ok d := by
  rw [parseDate, Json.plain, textOr, ok_bind,
    refuseIf_of_not (not_not.mpr (isDatePattern_isoformat d)), ok_bind, Date.fromisoformat_isoformat,
    orRefuse_some, ok_bind, refuseIf_of_not (not_not.mpr rfl), ok_bind, pure_eq_ok]

theorem floatOfBits?_floatBits {q : ℚ} (h : Float64.IsDouble q) :
    floatOfBits? (.plain (floatBits q)) = some ⟨q, h⟩ := by
  obtain ⟨hValue, hFinite⟩ := h.ofValue
  simp only [floatOfBits?, Json.plain, floatBits, Float64.ofHex_hex, Option.bind_some, dif_pos hFinite,
    Option.some.injEq]
  exact Subtype.ext hValue

section Bucket

variable {method : CalibrationMethod} {sampleCount : Int} {bucket : FittedCalibrationBucket}
  {millis : Nat}

theorem readCorrection_row (h : FittedBucket method sampleCount bucket millis) (invalid : String) :
    readCorrection method millis (bucketRow bucket millis) bucket.calibration.selection.1.policyVersion
      bucket.calibration.policyVersion invalid = .ok bucket.calibration := by
  have hRank := rank_pos bucket.calibration.selection.1.sampleCount h.selected.range.1
  have hRanked := h.selected.ranked
  have hFits := h.selected.fits
  have hCount : positive? ((bucketRow bucket millis).field "fit_sample_count") =
      some bucket.calibration.selection.1.sampleCount := positive?_natCast (by omega)
  have hPosition : positive? ((bucketRow bucket millis).field "rank") =
      some bucket.calibration.selection.1.rank := positive?_natCast (by omega)
  have hValue : floatOfBits? ((bucketRow bucket millis).field "value_f64_be") =
      some ⟨_, bucket.calibration.selection.2⟩ := floatOfBits?_floatBits bucket.calibration.selection.2
  have hSelection : floatSelection bucket.calibration.selection = .ok bucket.calibration.selection :=
    floatSelection_eq_ok_iff.mpr h.selected.again
  rw [readCorrection, hCount, orRefuse_some, ok_bind, hPosition, orRefuse_some, ok_bind, hValue,
    orRefuse_some, ok_bind]
  dsimp only
  rw [← Nat.cast_id millis, Nat.cast_id, ← h.selected.coverage, hSelection, ← h.sameMethod]
  exact mapError_eq_ok_iff.mpr (fittedCorrection_self bucket.calibration)

theorem readBucket_row (h : FittedBucket method sampleCount bucket millis) (index : Nat) :
    readBucket method (bucketRow bucket millis, index) = .ok bucket := by
  have hKeys : (bucketRow bucket millis).HasKeys ["correction_policy_version", "coverage_millis",
      "fit_sample_count", "horizon", "quantile_selection_policy_version", "rank", "value_f64_be"] :=
    ⟨rfl, fun _ hMem => hMem, fun _ hMem => hMem⟩
  have hMillis : ∀ label, integerField ((bucketRow bucket millis).field "coverage_millis") label =
      .ok (millis : Int) := fun _ => rfl
  have hHorizon : ∀ label, integerField ((bucketRow bucket millis).field "horizon") label =
      .ok bucket.horizon := fun _ => rfl
  have hQuantile : ∀ label, readPolicyVersion
      ((bucketRow bucket millis).field "quantile_selection_policy_version")
      finiteSamplePolicyVersion label = .ok bucket.calibration.selection.1.policyVersion :=
    readPolicyVersion_plain h.selected.version
  have hSupported : bucket.calibration.policyVersion = method.correctionPolicyVersion :=
    h.sameMethod ▸ bucket.calibration.supported
  have hCorrection : ∀ label, readPolicyVersion
      ((bucketRow bucket millis).field "correction_policy_version") method.correctionPolicyVersion
      label = .ok bucket.calibration.policyVersion := readPolicyVersion_plain hSupported
  have hRange : 1 ≤ (millis : Int) ∧ (millis : Int) ≤ 999 := by
    have := h.selected.range
    omega
  simp only [readBucket, hMillis, hHorizon, hQuantile, hCorrection, readCorrection_row h, ok_bind,
    refuseIf_of_not (not_not.mpr hKeys), refuseIf_of_not (not_not.mpr hRange), pure_eq_ok]

end Bucket

/-- The rows of a normal form. -/
def rowsOf (n : FittedCalibrationSet) : List Document :=
  n.buckets.map fun bucket =>
    bucketRow bucket (nearestMillis bucket.calibration.selection.1.coverage)

variable {n : FittedCalibrationSet}

theorem NormalSet.rows (h : NormalSet unicode n) :
    (n.buckets.mapM fun bucket => do
      let millis ← coverageMillis bucket.calibration.selection.1.coverage
      return bucketRow bucket millis) = .ok (rowsOf n) := by
  apply mapM_of_forall₂
  rw [rowsOf, List.forall₂_map_right_iff, List.forall₂_same]
  intro bucket hMem
  obtain ⟨millis, hFitted⟩ := h.fitted bucket hMem
  rw [hFitted.key.1, hFitted.nearest]
  rfl

theorem NormalSet.readBuckets (h : NormalSet unicode n) :
    (rowsOf n).zipIdx.mapM (readBucket n.method) = .ok n.buckets := by
  refine mapM_zipIdx (fun bucket hMem index => ?_) 0
  obtain ⟨millis, hFitted⟩ := h.fitted bucket hMem
  rw [hFitted.nearest]
  exact readBucket_row hFitted index

/-- The document of a normal form. -/
def documentOf (n : FittedCalibrationSet) : Document := setDocument n.toCalibrationTerms (rowsOf n)

theorem documentOf_keys (n : FittedCalibrationSet) :
    (documentOf n).HasKeys ["buckets", "cohort_id", "currency", "fit_evidence_digest",
      "forecast_availability_rule_set_hash", "forecast_resolution_policy_hash", "format",
      "horizon_unit", "interval_policy_version", "method", "model_version",
      "outcome_availability_rule_set_hash", "outcome_resolution_policy_hash", "sample_count",
      "schema_version", "selection_policy_hash", "series_basis", "source_calibration_method",
      "source_calibration_set_version", "symbol", "target", "window_end",
      "window_date_policy_version", "window_start"] := by
  refine ⟨rfl, ?_, ?_⟩ <;> simp [documentOf, setDocument, Json.keys]

theorem readSet_document (h : NormalSet unicode n) : readSet unicode (documentOf n) = .ok n := by
  have hObject : ¬ (documentOf n).isObject = false := Bool.true_eq_false_eq_False
  have hFormat : ¬ (documentOf n).field "format" ≠ .plain "forecast-calibration-set-v2" :=
    not_not.mpr rfl
  have hMethod : readMethod ((documentOf n).field "method") = .ok n.method := readMethod_text n.method
  have hRows : ((documentOf n).field "buckets").items? = some (rowsOf n) := rfl
  have hVersion : integerField ((documentOf n).field "schema_version") "schema_version" =
      .ok n.schemaVersion := rfl
  have hModel : textOr ((documentOf n).field "model_version") "model_version must be a string" =
      .ok n.modelVersion := rfl
  have hModelText : modelVersionText unicode n.modelVersion = .ok n.modelVersion := by
    have hComposed : unicode.nfc n.modelVersion = n.modelVersion :=
      congrArg CalibrationTerms.modelVersion h.composed
    rw [modelVersionText, hComposed, refuseIf_of_not (not_not.mpr h.terms.modelText)]
    rfl
  have hSymbol : textOr ((documentOf n).field "symbol") "symbol must be a string" = .ok n.symbol := rfl
  have hSymbolText : symbolText unicode n.symbol = .ok n.symbol := by
    have hComposed : unicode.nfc n.symbol = n.symbol := congrArg CalibrationTerms.symbol h.composed
    rw [symbolText, semanticText_bind_eq_ok_iff, hComposed,
      refuseIf_of_not (not_not.mpr h.terms.isTicker)]
    exact ⟨h.terms.symbolText, rfl⟩
  have hTarget : readSemantic unicode ((documentOf n).field "target") "target" 32 =
      .ok n.target := readSemantic_plain h.terms.targetText (congrArg CalibrationTerms.target h.composed) _
  have hBasis : readSemantic unicode ((documentOf n).field "series_basis") "series_basis" 32 =
      .ok n.seriesBasis := readSemantic_plain h.terms.basisText (congrArg CalibrationTerms.seriesBasis h.composed) _
  have hUnit : readSemantic unicode ((documentOf n).field "horizon_unit") "horizon_unit" 32 =
      .ok n.horizonUnit := readSemantic_plain h.terms.unitText (congrArg CalibrationTerms.horizonUnit h.composed) _
  have hCurrency : readSemantic unicode ((documentOf n).field "currency") "currency" 16 =
      .ok n.currency := readSemantic_plain h.terms.currencyText (congrArg CalibrationTerms.currency h.composed) _
  have hSourceVersion : readSemantic unicode ((documentOf n).field "source_calibration_set_version")
    "source_calibration_set_version" 128 =
      .ok n.sourceCalibrationSetVersion := readSemantic_plain h.terms.sourceVersionText
        (congrArg CalibrationTerms.sourceCalibrationSetVersion h.composed) _
  have hSourceMethod : readSemantic unicode ((documentOf n).field "source_calibration_method")
    "source_calibration_method" 32 =
      .ok n.sourceCalibrationMethod := readSemantic_plain h.terms.sourceMethodText
        (congrArg CalibrationTerms.sourceCalibrationMethod h.composed) _
  have hResolution : readHash ((documentOf n).field "forecast_resolution_policy_hash")
    "forecast_resolution_policy_hash" =
      .ok n.forecastResolutionPolicyHash := readHash_plain h.terms.resolutionHash _
  have hAvailability : readHash ((documentOf n).field "forecast_availability_rule_set_hash")
    "forecast_availability_rule_set_hash" =
      .ok n.forecastAvailabilityRuleSetHash := readHash_plain h.terms.availabilityHash _
  have hDigest : readHash ((documentOf n).field "fit_evidence_digest") "fit_evidence_digest" =
      .ok n.fitEvidenceDigest := readHash_plain h.terms.digestHash _
  have hCohort : readHash ((documentOf n).field "cohort_id") "cohort_id" =
      .ok n.cohortId := readHash_plain h.hashes.1 _
  have hSelection : readHash ((documentOf n).field "selection_policy_hash") "selection_policy_hash" =
      .ok n.selectionPolicyHash := readHash_plain h.hashes.2.1 _
  have hOutcomeResolution : readHash ((documentOf n).field "outcome_resolution_policy_hash")
    "outcome_resolution_policy_hash" =
      .ok n.outcomeResolutionPolicyHash := readHash_plain h.hashes.2.2.1 _
  have hOutcomeAvailability : readHash ((documentOf n).field "outcome_availability_rule_set_hash")
    "outcome_availability_rule_set_hash" =
      .ok n.outcomeAvailabilityRuleSetHash := readHash_plain h.hashes.2.2.2 _
  have hStart : parseDate unicode ((documentOf n).field "window_start") "window_start" =
      .ok n.windowStart := parseDate_isoformat n.windowStart _
  have hEnd : parseDate unicode ((documentOf n).field "window_end") "window_end" =
      .ok n.windowEnd := parseDate_isoformat n.windowEnd _
  have hCounted : (n.sampleCount.toNat : Int) = n.sampleCount := Int.toNat_of_nonneg h.terms.counted.le
  have hCount : positive? ((documentOf n).field "sample_count") = some n.sampleCount.toNat := by
    have hPos : 0 < n.sampleCount.toNat := by
      have := h.terms.counted
      omega
    rw [← positive?_natCast hPos, hCounted]
    rfl
  have hInterval : readPolicyVersion ((documentOf n).field "interval_policy_version")
      "central-equal-tailed-v1" "interval_policy_version" = .ok n.intervalPolicyVersion :=
    readPolicyVersion_plain h.terms.intervalPolicy _
  have hWindow : readPolicyVersion ((documentOf n).field "window_date_policy_version")
      "utc-target-date-v1" "window_date_policy_version" = .ok n.windowDatePolicyVersion :=
    readPolicyVersion_plain h.terms.windowPolicy _
  rw [readSet, refuseIf_of_not hObject, ok_bind, refuseIf_of_not (not_not.mpr (documentOf_keys n)),
    ok_bind, refuseIf_of_not hFormat, ok_bind, hMethod, ok_bind, hRows, orRefuse_some, ok_bind,
    h.readBuckets, ok_bind, hVersion, ok_bind, hModel, ok_bind, hModelText, ok_bind, hSymbol, ok_bind,
    hSymbolText, ok_bind, hTarget, ok_bind, hBasis, ok_bind, hUnit, ok_bind, hCurrency, ok_bind,
    hSourceVersion, ok_bind, hSourceMethod, ok_bind, hResolution, ok_bind, hAvailability, ok_bind,
    hDigest, ok_bind, hStart, ok_bind, hEnd, ok_bind, hCount, orRefuse_some, ok_bind, hCohort, ok_bind,
    hSelection, ok_bind, hOutcomeResolution, ok_bind, hOutcomeAvailability, ok_bind, hInterval, ok_bind,
    hWindow, ok_bind, hCounted, pure_eq_ok]

theorem ordered_documentOf (n : FittedCalibrationSet) : Ordered (documentOf n) := by
  have hRow : ∀ bucket : FittedCalibrationBucket, Ordered
      (bucketRow bucket (nearestMillis bucket.calibration.selection.1.coverage)) := fun bucket =>
    ⟨(by decide : ["correction_policy_version", "coverage_millis", "fit_sample_count", "horizon",
      "quantile_selection_policy_version", "rank", "value_f64_be"].Pairwise (· < ·)), trivial, trivial,
      trivial, trivial, trivial, trivial, trivial, trivial⟩
  rw [documentOf, setDocument, Ordered]
  refine ⟨(by decide : ["buckets", "cohort_id", "currency", "fit_evidence_digest",
    "forecast_availability_rule_set_hash", "forecast_resolution_policy_hash", "format", "horizon_unit",
    "interval_policy_version", "method", "model_version", "outcome_availability_rule_set_hash",
    "outcome_resolution_policy_hash", "sample_count", "schema_version", "selection_policy_hash",
    "series_basis", "source_calibration_method", "source_calibration_set_version", "symbol", "target",
    "window_date_policy_version", "window_end", "window_start"].Pairwise (· < ·)),
    ordered_items hRow _, ?_⟩
  simp [OrderedEntries, Ordered, Json.plain]

theorem canonicalCalibrationSet_eq_ok_iff {s : FittedCalibrationSet} {bytes : Bytes} :
    canonicalCalibrationSet unicode floats s = .ok bytes ↔
      ∃ n, normalizedSet unicode s = .ok n ∧ bytes = dumps floats (documentOf n) ∧
        bytes.length ≤ maxCanonicalBytes := by
  rw [canonicalCalibrationSet, bind_eq_ok_iff]
  constructor
  · rintro ⟨n, hNormal, h⟩
    rw [(normalizedSet_eq_ok_iff.mp hNormal).2.1.rows, ok_bind] at h
    dsimp only at h
    rw [refuseIf_bind_eq_ok_iff, not_or, not_lt, pure_eq_ok] at h
    obtain ⟨⟨-, hSize⟩, h⟩ := h
    have hBytes := (Except.ok.inj h).symm
    exact ⟨n, hNormal, hBytes, hBytes ▸ hSize⟩
  · rintro ⟨n, hNormal, hBytes, hSize⟩
    have hBounds : ¬ (dumps floats (documentOf n) = [] ∨
        maxCanonicalBytes < (dumps floats (documentOf n)).length) :=
      not_or.mpr ⟨dumps_ne_nil _ _, not_lt.mpr (hBytes ▸ hSize)⟩
    refine ⟨n, hNormal, ?_⟩
    rw [(normalizedSet_eq_ok_iff.mp hNormal).2.1.rows, ok_bind]
    dsimp only
    rw [← documentOf, refuseIf_of_not hBounds, ok_bind, pure_eq_ok, hBytes]

/-- Normal forms with the same bytes are the same. -/
theorem dumps_documentOf_inj {m : FittedCalibrationSet} (hn : NormalSet unicode n)
    (hm : NormalSet unicode m) (h : dumps floats (documentOf n) = dumps floats (documentOf m)) :
    n = m := by
  have hLoads := congrArg (loads floats) h
  rw [loads_dumps floats (ordered_documentOf n), loads_dumps floats (ordered_documentOf m)] at hLoads
  have hRead := readSet_document hn
  rw [Except.ok.inj hLoads, readSet_document hm] at hRead
  exact (Except.ok.inj hRead).symm

/-- The canonical bytes are parsed to the normal form, which is encoded to them again. -/
theorem parse_canonicalCalibrationSet {s : FittedCalibrationSet} {bytes : Bytes}
    (h : canonicalCalibrationSet unicode floats s = .ok bytes) :
    ∃ n, normalizedSet unicode s = .ok n ∧ parseCalibrationSet unicode floats bytes = .ok n ∧
      canonicalCalibrationSet unicode floats n = .ok bytes := by
  obtain ⟨n, hNormal, hBytes, hSize⟩ := canonicalCalibrationSet_eq_ok_iff.mp h
  have hSet := (normalizedSet_eq_ok_iff.mp hNormal).2.1
  have hAgain : canonicalCalibrationSet unicode floats n = .ok bytes :=
    canonicalCalibrationSet_eq_ok_iff.mpr ⟨n, hSet.again, hBytes, hSize⟩
  have hBounds : ¬ (bytes = [] ∨ maxCanonicalBytes < bytes.length) := by
    refine not_or.mpr ⟨?_, not_lt.mpr hSize⟩
    rw [hBytes]
    exact dumps_ne_nil _ _
  have hLoads : (loads floats bytes).mapError unreadableSet = .ok (documentOf n) := by
    rw [hBytes, loads_dumps floats (ordered_documentOf n)]
    rfl
  refine ⟨n, hNormal, ?_, hAgain⟩
  rw [parseCalibrationSet, refuseIf_of_not hBounds, ok_bind, hLoads, ok_bind, readSet_document hSet,
    ok_bind, hSet.again, ok_bind, hAgain, ok_bind, refuseIf_of_not (not_not.mpr rfl), ok_bind,
    pure_eq_ok]

/-- Whatever the parser accepts is the encoding of what it returns. -/
theorem canonical_of_parseCalibrationSet {bytes : Bytes}
    (h : parseCalibrationSet unicode floats bytes = .ok n) :
    canonicalCalibrationSet unicode floats n = .ok bytes := by
  rw [parseCalibrationSet, refuseIf_bind_eq_ok_iff, bind_eq_ok_iff] at h
  obtain ⟨-, document, -, h⟩ := h
  rw [bind_eq_ok_iff] at h
  obtain ⟨calibrationSet, -, h⟩ := h
  rw [bind_eq_ok_iff] at h
  obtain ⟨normalized, -, h⟩ := h
  rw [bind_eq_ok_iff] at h
  obtain ⟨canonical, hCanonical, h⟩ := h
  rw [refuseIf_bind_eq_ok_iff, not_not, pure_eq_ok] at h
  obtain ⟨rfl, h⟩ := h
  cases h
  exact hCanonical

theorem canonical_eq_iff {s s' : FittedCalibrationSet} {bytes bytes' : Bytes}
    (h : canonicalCalibrationSet unicode floats s = .ok bytes)
    (h' : canonicalCalibrationSet unicode floats s' = .ok bytes') :
    bytes = bytes' ↔ normalizedSet unicode s = normalizedSet unicode s' := by
  obtain ⟨n, hNormal, hBytes, -⟩ := canonicalCalibrationSet_eq_ok_iff.mp h
  obtain ⟨n', hNormal', hBytes', -⟩ := canonicalCalibrationSet_eq_ok_iff.mp h'
  constructor
  · intro hSame
    rw [hBytes, hBytes'] at hSame
    rw [hNormal, hNormal', dumps_documentOf_inj (normalizedSet_eq_ok_iff.mp hNormal).2.1
      (normalizedSet_eq_ok_iff.mp hNormal').2.1 hSame]
  · intro hSame
    rw [hNormal, hNormal'] at hSame
    rw [hBytes, hBytes', Except.ok.inj hSame]

theorem versionFor_eq {sha256 : Bytes → String} {s : FittedCalibrationSet} {bytes : Bytes}
    (h : canonicalCalibrationSet unicode floats s = .ok bytes) :
    calibrationSetVersionFor unicode floats sha256 s = .ok ("sha256:" ++ sha256 bytes) := by
  rw [calibrationSetVersionFor, h, ok_bind, pure_eq_ok]

theorem NormalSet.distinct (h : NormalSet unicode n) :
    n.buckets.Pairwise fun a b => (a.horizon, a.calibration.selection.1.coverage) ≠
      (b.horizon, b.calibration.selection.1.coverage) := by
  refine h.ascending.imp fun {a b} hLess hSame => ?_
  obtain ⟨hHorizon, hCoverage⟩ := Prod.mk.inj hSame
  rw [bucketKey, bucketKey, hHorizon, hCoverage] at hLess
  exact hLess.ne rfl

/-- The calibration-set codec is exact: the bytes stand for the normal form, the parser accepts them
and no others, and what is accepted has a rank within its samples in every bucket. -/
theorem calibration_set_codec (unicode : UnicodeData) (floats : FloatText)
    (sha256 : Bytes → String) :
    (∀ s bytes, canonicalCalibrationSet unicode floats s = .ok bytes →
      ∃ n, normalizedSet unicode s = .ok n ∧ parseCalibrationSet unicode floats bytes = .ok n ∧
        canonicalCalibrationSet unicode floats n = .ok bytes) ∧
    (∀ s bytes buckets, s.buckets.Perm buckets →
      canonicalCalibrationSet unicode floats s = .ok bytes →
      canonicalCalibrationSet unicode floats { s with buckets := buckets } = .ok bytes) ∧
    (∀ s s' bytes bytes', canonicalCalibrationSet unicode floats s = .ok bytes →
      canonicalCalibrationSet unicode floats s' = .ok bytes' →
      (bytes = bytes' ↔ normalizedSet unicode s = normalizedSet unicode s') ∧
      (bytes = bytes' ∧ calibrationSetVersionFor unicode floats sha256 s =
        calibrationSetVersionFor unicode floats sha256 s' ↔
          normalizedSet unicode s = normalizedSet unicode s')) ∧
    (∀ bytes, (∃ n, parseCalibrationSet unicode floats bytes = .ok n) ↔
      ∃ s, canonicalCalibrationSet unicode floats s = .ok bytes) ∧
    ∀ bytes n, parseCalibrationSet unicode floats bytes = .ok n →
      (n.buckets.Pairwise fun a b => (a.horizon, a.calibration.selection.1.coverage) ≠
        (b.horizon, b.calibration.selection.1.coverage)) ∧
      ∀ bucket ∈ n.buckets, ∃ millis : ℕ, (1 ≤ millis ∧ millis ≤ 999) ∧
        bucket.calibration.selection.1.coverage = thousandth millis ∧
        bucket.calibration.selection.1.rank =
          ⌈((bucket.calibration.selection.1.sampleCount : ℚ) + 1) * millis / 1000⌉₊ ∧
        bucket.calibration.selection.1.rank ≤ bucket.calibration.selection.1.sampleCount ∧
        (bucket.calibration.selection.1.sampleCount : ℤ) ≤ n.sampleCount ∧
        (n.method = .empiricalResidual → 0 ≤ bucket.calibration.selection.1.value) := by
  refine ⟨fun s bytes h => parse_canonicalCalibrationSet h, ?_, ?_, ?_, ?_⟩
  · intro s bytes buckets hPerm h
    obtain ⟨n, hNormal, hBytes⟩ := canonicalCalibrationSet_eq_ok_iff.mp h
    refine canonicalCalibrationSet_eq_ok_iff.mpr ⟨n, ?_, hBytes⟩
    have hTerms : s.toCalibrationTerms =
        ({ s with buckets := buckets } : FittedCalibrationSet).toCalibrationTerms := rfl
    exact normalizedSet_perm hTerms hPerm hNormal
  · intro s s' bytes bytes' h h'
    have hIff := canonical_eq_iff h h'
    refine ⟨hIff, ?_⟩
    rw [versionFor_eq h, versionFor_eq h', ← hIff]
    exact and_iff_left_of_imp fun hSame => by rw [hSame]
  · intro bytes
    constructor
    · rintro ⟨n, h⟩
      exact ⟨n, canonical_of_parseCalibrationSet h⟩
    · rintro ⟨s, h⟩
      obtain ⟨n, -, hParsed, -⟩ := parse_canonicalCalibrationSet h
      exact ⟨n, hParsed⟩
  · intro bytes n h
    obtain ⟨m, hNormal, hParsed, -⟩ :=
      parse_canonicalCalibrationSet (canonical_of_parseCalibrationSet h)
    rw [h] at hParsed
    obtain rfl := Except.ok.inj hParsed
    have hSet := (normalizedSet_eq_ok_iff.mp hNormal).2.1
    refine ⟨hSet.distinct, fun bucket hMem => ?_⟩
    obtain ⟨millis, hFitted⟩ := hSet.fitted bucket hMem
    refine ⟨millis, hFitted.selected.range, hFitted.selected.coverage, ?_, hFitted.selected.fits,
      hFitted.counted, fun hMethod => ?_⟩
    · rw [hFitted.selected.ranked, rank_eq_ceil]
    · exact bucket.calibration.nonnegative (hFitted.sameMethod.trans hMethod)

end RoundTrip

/-! ### A sample -/

def sampleUnicode : UnicodeData := ⟨⟨id, fun _ => rfl⟩, fun _ => false, Digits.isDigit, fun _ h => h⟩

def sampleFloats : FloatText := ⟨fun _ => 0, fun _ => ⟨false, 0, none, none⟩⟩

def sampleDigest : String := "sha256:" ++ String.ofList (List.replicate 64 '0')

theorem sampleDigest_isHash : IsHash sampleDigest :=
  isHash_append List.length_replicate (by decide)

def sampleStart : Date := ⟨2026, 1, 2, by decide, by decide, by decide⟩

def sampleEnd : Date := ⟨2026, 1, 30, by decide, by decide, by decide⟩

def sampleTerms : CalibrationTerms where
  modelVersion := "m"
  symbol := "SPY"
  target := "return"
  seriesBasis := "raw"
  horizonUnit := "week"
  currency := "USD"
  sourceCalibrationSetVersion := "uncalibrated:m"
  sourceCalibrationMethod := "none"
  forecastResolutionPolicyHash := sampleDigest
  forecastAvailabilityRuleSetHash := sampleDigest
  fitEvidenceDigest := sampleDigest
  method := .empiricalResidual
  windowStart := sampleStart
  windowEnd := sampleEnd
  sampleCount := 7
  cohortId := sampleDigest
  selectionPolicyHash := sampleDigest
  outcomeResolutionPolicyHash := sampleDigest
  outcomeAvailabilityRuleSetHash := sampleDigest
  intervalPolicyVersion := "central-equal-tailed-v1"
  windowDatePolicyVersion := "utc-target-date-v1"
  schemaVersion := 2

/-- A residual of three samples, for a coverage in thousandths. -/
def sampleBucket (horizon coverage rank : ℕ) : FittedCalibrationBucket where
  horizon := horizon
  calibration := {
    method := .empiricalResidual
    selection := ⟨⟨thousandth coverage, 3, rank, 0, finiteSamplePolicyVersion⟩, Float64.isDouble_zero⟩
    policyVersion := absoluteResidualPolicyVersion
    nonnegative := fun _ => le_rfl
    supported := rfl }

def sampleSet : FittedCalibrationSet :=
  ⟨sampleTerms, [sampleBucket 1 500 2, sampleBucket 1 750 3, sampleBucket 2 500 2]⟩

/-- The buckets from the last to the first. -/
def reversedSet : FittedCalibrationSet := { sampleSet with buckets := sampleSet.buckets.reverse }

theorem sampleBucket_fitted {horizon coverage k : ℕ} (hHorizon : 1 ≤ horizon ∧ horizon ≤ 252)
    (hCoverage : 1 ≤ coverage ∧ coverage ≤ 999) (hRank : k = rank 3 coverage ∧ k ≤ 3) :
    FittedBucket .empiricalResidual 7 (sampleBucket horizon coverage k) coverage where
  horizonRange := ⟨Int.ofNat_le.mpr hHorizon.1, Int.ofNat_le.mpr hHorizon.2⟩
  sameMethod := rfl
  selected := ⟨hCoverage, rfl, hRank.1, hRank.2, rfl⟩
  counted := (by decide : (3 : ℤ) ≤ 7)

theorem sampleSet_fitted : List.Forall₂ (FittedBucket .empiricalResidual 7) sampleSet.buckets [500, 750, 500] :=
  .cons (sampleBucket_fitted (by decide) (by decide) (by decide))
    (.cons (sampleBucket_fitted (by decide) (by decide) (by decide))
      (.cons (sampleBucket_fitted (by decide) (by decide) (by decide)) .nil))

theorem isSemantic_ofList {maxLength : Nat} {cs : List Char} (nonempty : cs ≠ [])
    (short : cs.length ≤ maxLength)
    (ends : (cs.head?.all (fun c => !isSpace c) && cs.getLast?.all fun c => !isSpace c) = true) :
    IsSemantic sampleUnicode maxLength (String.ofList cs) := by
  refine ⟨?_, ?_, ?_, ?_⟩
  · intro h
    have hChars := congrArg String.toList h
    rw [String.toList_ofList] at hChars
    exact nonempty hChars
  · rwa [String.length_ofList]
  · rw [Trimmed, String.toList_ofList]
    simpa [Option.all_eq_true] using ends
  · simp [sampleUnicode]

theorem sampleTerms_valid : sampleTerms.Valid sampleUnicode where
  version := rfl
  modelText := by
    refine ⟨by simp [sampleTerms], ?_⟩
    rw [show sampleTerms.modelVersion = String.ofList ['m'] from rfl, String.length_ofList]
    decide
  symbolText := (isSemantic_ofList (by decide) (by decide) (by decide) :
    IsSemantic sampleUnicode 32 (String.ofList ['S', 'P', 'Y']))
  isTicker := by
    have hSymbol : sampleTerms.symbol = String.ofList ['S', 'P', 'Y'] := rfl
    rw [hSymbol, IsTicker, String.toList_ofList, String.length_ofList]
    exact ⟨⟨'S', rfl, by decide⟩, by decide, by decide⟩
  targetText := (isSemantic_ofList (by decide) (by decide) (by decide) :
    IsSemantic sampleUnicode 32 (String.ofList ['r', 'e', 't', 'u', 'r', 'n']))
  basisText := (isSemantic_ofList (by decide) (by decide) (by decide) :
    IsSemantic sampleUnicode 32 (String.ofList ['r', 'a', 'w']))
  unitText := (isSemantic_ofList (by decide) (by decide) (by decide) :
    IsSemantic sampleUnicode 32 (String.ofList ['w', 'e', 'e', 'k']))
  currencyText := (isSemantic_ofList (by decide) (by decide) (by decide) :
    IsSemantic sampleUnicode 16 (String.ofList ['U', 'S', 'D']))
  sourceVersionText := (isSemantic_ofList (by decide) (by decide) (by decide) :
    IsSemantic sampleUnicode 128 (String.ofList ['u', 'n', 'c', 'a', 'l', 'i', 'b', 'r', 'a', 't',
      'e', 'd', ':', 'm']))
  sourceMethodText := (isSemantic_ofList (by decide) (by decide) (by decide) :
    IsSemantic sampleUnicode 32 (String.ofList ['n', 'o', 'n', 'e']))
  resolutionHash := sampleDigest_isHash
  availabilityHash := sampleDigest_isHash
  digestHash := sampleDigest_isHash
  uncalibrated := by
    rintro (h | h)
    · exact h rfl
    · exact h (by simp [sampleTerms])
  intervalPolicy := rfl
  windowPolicy := rfl
  window := by decide
  counted := by decide

theorem sampleSet_keys : sampleSet.buckets.map bucketKey = [toLex (1, 500), toLex (1, 750), toLex (2, 500)] := by
  obtain ⟨hFirst, hRest⟩ := List.forall₂_cons.mp sampleSet_fitted
  obtain ⟨hSecond, hRest⟩ := List.forall₂_cons.mp hRest
  obtain ⟨hThird, -⟩ := List.forall₂_cons.mp hRest
  rw [sampleSet, List.map_cons, List.map_cons, List.map_singleton, hFirst.key.2, hSecond.key.2, hThird.key.2]
  rfl

theorem sampleSet_normal : NormalSet sampleUnicode sampleSet where
  terms := sampleTerms_valid
  composed := rfl
  hashes := ⟨sampleDigest_isHash, sampleDigest_isHash, sampleDigest_isHash, sampleDigest_isHash⟩
  size := by decide
  fitted := by
    intro bucket hMem
    obtain ⟨millis, -, hFitted⟩ := exists_right_of_forall₂ sampleSet_fitted hMem
    exact ⟨millis, hFitted⟩
  ascending := by
    rw [← List.pairwise_map, sampleSet_keys]
    decide

theorem sampleSet_rows : documentOf sampleSet = setDocument sampleTerms
    [bucketRow (sampleBucket 1 500 2) 500, bucketRow (sampleBucket 1 750 3) 750,
      bucketRow (sampleBucket 2 500 2) 500] := by
  obtain ⟨hFirst, hRest⟩ := List.forall₂_cons.mp sampleSet_fitted
  obtain ⟨hSecond, hRest⟩ := List.forall₂_cons.mp hRest
  obtain ⟨hThird, -⟩ := List.forall₂_cons.mp hRest
  rw [documentOf, rowsOf, sampleSet, List.map_cons, List.map_cons, List.map_singleton, hFirst.nearest,
    hSecond.nearest, hThird.nearest]
  rfl

theorem size_sampleSet : 24 * size sampleFloats (documentOf sampleSet) ≤ maxCanonicalBytes := by
  rw [sampleSet_rows]
  simp only [setDocument, bucketRow, sampleTerms, sampleBucket, size, sizeItems, sizeEntries, Json.plain,
    length_isoformat, sampleDigest_isHash.2.1, floatBits, Float64.hex, String.toList_ofList, Float64.length_hexChars,
    absoluteResidualPolicyVersion, finiteSamplePolicyVersion, CalibrationMethod.text, String.reduceToList,
    List.length_cons, List.length_nil, Nat.reduceAdd]
  decide

theorem sampleSet_canonical : canonicalCalibrationSet sampleUnicode sampleFloats sampleSet =
    .ok (dumps sampleFloats (documentOf sampleSet)) :=
  canonicalCalibrationSet_eq_ok_iff.mpr
    ⟨sampleSet, sampleSet_normal.again, rfl, (length_dumps_le sampleFloats _).trans size_sampleSet⟩

/-- Buckets in any order have the bytes of the ordered set, and these are read back as it. -/
theorem calibration_set_codec_sample : ∃ bytes,
    canonicalCalibrationSet sampleUnicode sampleFloats reversedSet = .ok bytes ∧
      parseCalibrationSet sampleUnicode sampleFloats bytes = .ok sampleSet ∧
      ∀ bucket ∈ sampleSet.buckets,
        bucket.calibration.selection.1.rank ≤ bucket.calibration.selection.1.sampleCount := by
  obtain ⟨hRead, hOrder, -, -, hRanked⟩ := calibration_set_codec sampleUnicode sampleFloats (fun _ => "")
  obtain ⟨n, hNormal, hParsed, -⟩ := hRead _ _ sampleSet_canonical
  rw [sampleSet_normal.again] at hNormal
  obtain rfl := Except.ok.inj hNormal
  refine ⟨_, hOrder _ _ _ (List.reverse_perm _).symm sampleSet_canonical, hParsed, ?_⟩
  intro bucket hMem
  obtain ⟨-, -, -, -, hRank, -⟩ := (hRanked _ _ hParsed).2 bucket hMem
  exact hRank

end StockApi.Calibration

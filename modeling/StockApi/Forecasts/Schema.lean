import StockApi.Forecasts.Fields
import StockApi.Library.Uuid

/-!
# The forecast schema

`ForecastRequest` and `ForecastResponse` with the models inside them. A validator returns the model
as the schema library stores it; what it returns meets the clauses of its model, and a model that meets
them is returned as it is.
-/

namespace StockApi.Forecasts

open Checked CivilTime Groups
open Adjustment (binary64)

/-! ## Literals -/

inductive ForecastTarget where
  | close
  | adjustedClose
  | returns
  | logReturn
deriving DecidableEq

instance : Literal ForecastTarget where
  text
    | .close => "close"
    | .adjustedClose => "adjusted_close"
    | .returns => "return"
    | .logReturn => "log_return"
  ofText
    | "close" => some .close
    | "adjusted_close" => some .adjustedClose
    | "return" => some .returns
    | "log_return" => some .logReturn
    | _ => none
  ofText_text a := by cases a <;> rfl
  ascii a := by cases a <;> decide

inductive ForecastSeriesBasis where
  | raw
  | splitAdjusted
  | splitDividendAdjusted
deriving DecidableEq

instance : Literal ForecastSeriesBasis where
  text
    | .raw => "raw"
    | .splitAdjusted => "split_adjusted"
    | .splitDividendAdjusted => "split_dividend_adjusted"
  ofText
    | "raw" => some .raw
    | "split_adjusted" => some .splitAdjusted
    | "split_dividend_adjusted" => some .splitDividendAdjusted
    | _ => none
  ofText_text a := by cases a <;> rfl
  ascii a := by cases a <;> decide

inductive ForecastHorizonUnit where
  | tradingDay
  | calendarDay
  | minute
  | hour
  | week
deriving DecidableEq

instance : Literal ForecastHorizonUnit where
  text
    | .tradingDay => "trading_day"
    | .calendarDay => "calendar_day"
    | .minute => "minute"
    | .hour => "hour"
    | .week => "week"
  ofText
    | "trading_day" => some .tradingDay
    | "calendar_day" => some .calendarDay
    | "minute" => some .minute
    | "hour" => some .hour
    | "week" => some .week
    | _ => none
  ofText_text a := by cases a <;> rfl
  ascii a := by cases a <;> decide

inductive ForecastModelSelector where
  | auto
  | baselineNaive
  | baselineDrift
  | baselineSeasonalNaive
  | arima
  | chronos
deriving DecidableEq

instance : Literal ForecastModelSelector where
  text
    | .auto => "auto"
    | .baselineNaive => "baseline_naive"
    | .baselineDrift => "baseline_drift"
    | .baselineSeasonalNaive => "baseline_seasonal_naive"
    | .arima => "arima"
    | .chronos => "chronos"
  ofText
    | "auto" => some .auto
    | "baseline_naive" => some .baselineNaive
    | "baseline_drift" => some .baselineDrift
    | "baseline_seasonal_naive" => some .baselineSeasonalNaive
    | "arima" => some .arima
    | "chronos" => some .chronos
    | _ => none
  ofText_text a := by cases a <;> rfl
  ascii a := by cases a <;> decide

inductive LookaheadStatus where
  | passed
  | failed
  | notRun
deriving DecidableEq

instance : Literal LookaheadStatus where
  text
    | .passed => "passed"
    | .failed => "failed"
    | .notRun => "not_run"
  ofText
    | "passed" => some .passed
    | "failed" => some .failed
    | "not_run" => some .notRun
    | _ => none
  ofText_text a := by cases a <;> rfl
  ascii a := by cases a <;> decide

inductive CalibrationMethod where
  | conformalQuantileRegression
  | adaptiveConformal
  | empiricalResidual
  | none
deriving DecidableEq

instance : Literal CalibrationMethod where
  text
    | .conformalQuantileRegression => "conformal_quantile_regression"
    | .adaptiveConformal => "adaptive_conformal"
    | .empiricalResidual => "empirical_residual"
    | .none => "none"
  ofText
    | "conformal_quantile_regression" => some .conformalQuantileRegression
    | "adaptive_conformal" => some .adaptiveConformal
    | "empirical_residual" => some .empiricalResidual
    | "none" => some .none
    | _ => .none
  ofText_text a := by cases a <;> rfl
  ascii a := by cases a <;> decide

/-! ## Models -/

structure ForecastRequest where
  symbol : String
  horizon : Int
  horizonUnit : ForecastHorizonUnit
  target : ForecastTarget
  asOf : Option ParsedDateTime
  snapshotId : Option String
  model : ForecastModelSelector
  intervalCoverages : List Double
deriving DecidableEq

structure ForecastQuantile where
  level : Double
  value : Double
deriving DecidableEq

structure ForecastInterval where
  coverage : Double
  lowerQuantile : Double
  upperQuantile : Double
  lower : Double
  upper : Double
deriving DecidableEq

structure ForecastStep where
  step : Int
  targetTime : ParsedDateTime
  point : Double
  quantiles : List ForecastQuantile
  intervals : List ForecastInterval
deriving DecidableEq

structure LookaheadCheck where
  status : LookaheadStatus
  checkedAt : ParsedDateTime
  maxFeatureAvailableAt : ParsedDateTime
  violations : List String
deriving DecidableEq

structure DataSourceLineage where
  name : String
  snapshotId : String
  maxAvailableAt : ParsedDateTime
  fields : List String
deriving DecidableEq

structure ForecastProvenance where
  forecastId : Uuid
  snapshotId : String
  modelVersion : String
  seriesBasis : ForecastSeriesBasis
  featureSetHash : String
  maxAvailableAt : ParsedDateTime
  generatedAt : ParsedDateTime
  codeVersion : Option String
  dataSources : List DataSourceLineage
  lookaheadCheck : LookaheadCheck
deriving DecidableEq

structure IntervalCalibration where
  horizon : Int
  nominalCoverage : Double
  empiricalCoverage : Option Double
  sampleCount : Int
  confidenceLow : Option Double
  confidenceHigh : Option Double
deriving DecidableEq

structure ForecastCalibration where
  calibrationSetVersion : String
  method : CalibrationMethod
  windowStart : Option Date
  windowEnd : Option Date
  sampleCount : Int
  byInterval : List IntervalCalibration
deriving DecidableEq

structure ForecastResponse where
  symbol : String
  target : ForecastTarget
  horizon : Int
  horizonUnit : ForecastHorizonUnit
  asOf : ParsedDateTime
  currency : Option String
  forecasts : List ForecastStep
  provenance : ForecastProvenance
  calibration : ForecastCalibration
  disclaimer : String
deriving DecidableEq

section Validators

variable (rules : TextRules)

/-! ## Steps -/

def validateQuantile (q : ForecastQuantile) : Except SchemaError ForecastQuantile := do
  refuseIf (¬ IsLevel q.level) (.field "level")
  return q

def validateInterval (i : ForecastInterval) : Except SchemaError ForecastInterval := do
  let nominal ← coverage rules i.coverage "coverage"
  refuseIf (¬ IsLevel i.lowerQuantile) (.field "lower_quantile")
  refuseIf (¬ IsLevel i.upperQuantile) (.field "upper_quantile")
  -- `validate_ordering`
  refuseIf (i.upperQuantile.1 ≤ i.lowerQuantile.1)
    (.invariant "upper_quantile must be greater than lower_quantile")
  refuseIf (floatTolerance < gap (binary64.round (i.upperQuantile.1 - i.lowerQuantile.1)) nominal.1)
    (.invariant "coverage must equal upper_quantile minus lower_quantile")
  refuseIf (i.upper.1 < i.lower.1) (.invariant "upper must be greater than or equal to lower")
  return { i with coverage := nominal }

/-- `_quantile_value`. -/
def quantileValue (quantiles : List ForecastQuantile) (level : ℚ) : Option Double :=
  (quantiles.find? fun q => gap q.level.1 level ≤ floatTolerance).map ForecastQuantile.value

/-- A bound or a point that is some quantile's value. -/
def Meets (value : Double) (found : Option Double) : Prop :=
  ∃ v ∈ found, gap value.1 v.1 ≤ floatTolerance

instance (value : Double) : (found : Option Double) → Decidable (Meets value found)
  | none => isFalse (by simp [Meets])
  | some v => decidable_of_iff (gap value.1 v.1 ≤ floatTolerance) (by simp [Meets])

/-- `validate_distribution`. -/
def validateDistribution (quantiles : List ForecastQuantile) (point : Double)
    (intervals : List ForecastInterval) : Except SchemaError Unit := do
  refuseIf (¬ quantiles.IsChain fun lower upper => lower.value.1 ≤ upper.value.1)
    (.invariant "quantile values must be nondecreasing by level")
  refuseIf (¬ Meets point (quantileValue quantiles (1 / 2)))
    (.invariant "point must equal the 0.5 quantile")
  refuseIf (¬ (intervals.map ForecastInterval.coverage).Nodup)
    (.invariant "interval coverages must be unique per forecast step")
  intervals.forM fun interval => do
    let lower := quantileValue quantiles interval.lowerQuantile.1
    let upper := quantileValue quantiles interval.upperQuantile.1
    refuseIf (lower = none ∨ upper = none)
      (.invariant "interval bounds must reference included quantile levels")
    refuseIf (¬ Meets interval.lower lower ∨ ¬ Meets interval.upper upper)
      (.invariant "interval bounds must equal their referenced quantile values")

def validateStep (s : ForecastStep) : Except SchemaError ForecastStep := do
  refuseIf (¬ 1 ≤ s.step) (.field "step")
  aware s.targetTime "target_time"
  refuseIf (s.quantiles.length < 1) (.field "quantiles")
  let quantiles ← s.quantiles.mapM validateQuantile
  -- `quantiles_are_unique`
  refuseIf (¬ (quantiles.map ForecastQuantile.level).Nodup)
    (.invariant "quantile levels must be unique per forecast step")
  let ordered := sortOn (fun q => q.level.1) quantiles
  refuseIf (s.intervals.length < 1) (.field "intervals")
  let intervals ← s.intervals.mapM (validateInterval rules)
  validateDistribution ordered s.point intervals
  return { s with quantiles := ordered, intervals }

/-! ## Provenance -/

def validateLookahead (l : LookaheadCheck) : Except SchemaError LookaheadCheck := do
  aware l.checkedAt "checked_at"
  aware l.maxFeatureAvailableAt "max_feature_available_at"
  -- `passed_has_no_violations`
  refuseIf (l.status = .passed ∧ l.violations ≠ [])
    (.invariant "passed lookahead_check cannot include violations")
  return { l with violations := l.violations.map rules.strip }

def validateSource (s : DataSourceLineage) : Except SchemaError DataSourceLineage := do
  let name ← boundedText rules s.name "name" 1 64
  let snapshotId ← boundedText rules s.snapshotId "snapshot_id" 1 128
  aware s.maxAvailableAt "max_available_at"
  return { s with name, snapshotId, fields := s.fields.map rules.strip }

/-- `sha256:`. -/
def hashMark : List Char := ['s', 'h', 'a', '2', '5', '6', ':']

/-- The letters and digits after the mark, which may be left out. -/
def hashDigits (s : String) : List Char :=
  if s.toList.take 7 = hashMark then s.toList.drop 7 else s.toList

def hexLetter (c : Char) : Bool :=
  ('0' ≤ c && c ≤ '9') || ('A' ≤ c && c ≤ 'F') || ('a' ≤ c && c ≤ 'f')

/-- The pattern `^(sha256:)?[A-Fa-f0-9]{64}$`. -/
def IsFeatureHash (s : String) : Prop :=
  (hashDigits s).length = 64 ∧ (hashDigits s).all hexLetter = true

instance (s : String) : Decidable (IsFeatureHash s) := inferInstanceAs (Decidable (_ ∧ _))

def validateProvenance (p : ForecastProvenance) : Except SchemaError ForecastProvenance := do
  let snapshotId ← boundedText rules p.snapshotId "snapshot_id" 1 128
  let modelVersion ← boundedText rules p.modelVersion "model_version" 1 128
  let featureSetHash ← boundedText rules p.featureSetHash "feature_set_hash" 64 71
  refuseIf (¬ IsFeatureHash featureSetHash) (.field "feature_set_hash")
  aware p.maxAvailableAt "max_available_at"
  aware p.generatedAt "generated_at"
  let codeVersion ← optionally (boundedText rules · "code_version" 0 64) p.codeVersion
  let dataSources ← p.dataSources.mapM (validateSource rules)
  let lookaheadCheck ← validateLookahead rules p.lookaheadCheck
  return { p with snapshotId, modelVersion, featureSetHash, codeVersion, dataSources, lookaheadCheck }

/-! ## Calibration -/

/-- `validate_confidence_band`. -/
def validateConfidenceBand (empirical low high : Option Double) : Except SchemaError Unit :=
  match empirical, low, high with
  | none, _, _ => .error (.invariant "calibration evidence rows require empirical_coverage")
  | some _, none, none => .ok ⟨⟩
  | some e, some l, some h => do
    refuseIf (h.1 < l.1)
      (.invariant "confidence_high must be greater than or equal to confidence_low")
    refuseIf (¬ (l.1 ≤ e.1 ∧ e.1 ≤ h.1))
      (.invariant "confidence bounds must contain empirical_coverage")
  | some _, _, _ =>
    .error (.invariant "confidence_low and confidence_high must be supplied together")

def validateBucket (b : IntervalCalibration) : Except SchemaError IntervalCalibration := do
  refuseIf (¬ 1 ≤ b.horizon) (.field "horizon")
  let nominal ← coverage rules b.nominalCoverage "nominal_coverage"
  refuseIf (¬ ∀ e ∈ b.empiricalCoverage, IsProbability e) (.field "empirical_coverage")
  refuseIf (¬ 0 ≤ b.sampleCount) (.field "sample_count")
  refuseIf (¬ ∀ l ∈ b.confidenceLow, IsProbability l) (.field "confidence_low")
  refuseIf (¬ ∀ h ∈ b.confidenceHigh, IsProbability h) (.field "confidence_high")
  validateConfidenceBand b.empiricalCoverage b.confidenceLow b.confidenceHigh
  return { b with nominalCoverage := nominal }

def buckets (rows : List IntervalCalibration) : List (Int × Double) :=
  rows.map fun row => (row.horizon, row.nominalCoverage)

/-- `validate_window`. -/
def validateWindow (c : ForecastCalibration) : Except SchemaError Unit := do
  refuseIf (∃ start ∈ c.windowStart, ∃ last ∈ c.windowEnd, last < start)
    (.invariant "window_end must be on or after window_start")
  refuseIf (c.method = .none ∧ (c.windowStart ≠ none ∨ c.windowEnd ≠ none ∨ c.sampleCount ≠ 0 ∨
      c.byInterval.length ≠ 0))
    (.invariant "uncalibrated forecasts cannot claim calibration evidence")
  refuseIf (c.method ≠ .none ∧ (c.windowStart = none ∨ c.windowEnd = none ∨ c.sampleCount ≤ 0 ∨
      c.byInterval.length = 0 ∨
      ∃ row ∈ c.byInterval, row.sampleCount ≤ 0 ∨ c.sampleCount < row.sampleCount))
    (.invariant "calibrated forecasts require coherent nonzero evidence")
  refuseIf (¬ (buckets c.byInterval).Nodup)
    (.invariant "calibration horizon/coverage buckets must be unique")

def validateCalibration (c : ForecastCalibration) : Except SchemaError ForecastCalibration := do
  let calibrationSetVersion ← boundedText rules c.calibrationSetVersion "calibration_set_version" 1 128
  refuseIf (¬ 0 ≤ c.sampleCount) (.field "sample_count")
  let byInterval ← c.byInterval.mapM (validateBucket rules)
  let stored := { c with calibrationSetVersion, byInterval }
  validateWindow stored
  return stored

/-! ## Responses and requests -/

/-- The pattern `^[A-Z]{3}$`. -/
def IsCurrencyCode (s : String) : Prop :=
  s.length = 3 ∧ s.toList.all (fun c => 'A' ≤ c && c ≤ 'Z') = true

instance (s : String) : Decidable (IsCurrencyCode s) := inferInstanceAs (Decidable (_ ∧ _))

/-- A stripped currency code. -/
def currencyCode (value : String) : Except SchemaError String := do
  let stripped := rules.strip value
  refuseIf (¬ IsCurrencyCode stripped) (.field "currency")
  return stripped

/-- The pairs of a step and a coverage that some interval was emitted for. -/
def emittedBuckets (steps : List ForecastStep) : List (Int × Double) :=
  steps.flatMap fun s => s.intervals.map fun i => (s.step, i.coverage)

/-- `validate_response_invariants`. -/
def validateInvariants (r : ForecastResponse) : Except SchemaError Unit := do
  let cutoff := micros r.provenance.maxAvailableAt
  refuseIf (r.horizon ≠ r.forecasts.length)
    (.invariant "horizon must match the number of forecast steps")
  refuseIf (r.forecasts.map ForecastStep.step ≠ (List.range r.horizon.toNat).map fun n : Nat => (n : Int) + 1)
    (.invariant "forecast steps must be contiguous and one-indexed")
  refuseIf (∃ s ∈ r.forecasts, micros s.targetTime ≤ micros r.asOf)
    (.invariant "forecast target times must be later than as_of")
  refuseIf (¬ r.forecasts.IsChain fun s t => micros s.targetTime < micros t.targetTime)
    (.invariant "forecast target times must be strictly increasing")
  refuseIf (micros r.asOf < cutoff)
    (.invariant "provenance max_available_at must not be later than as_of")
  refuseIf (micros r.provenance.generatedAt < micros r.asOf)
    (.invariant "provenance generated_at must not be earlier than as_of")
  refuseIf (∃ source ∈ r.provenance.dataSources, cutoff < micros source.maxAvailableAt)
    (.invariant "data-source availability must not exceed provenance cutoff")
  refuseIf (micros r.provenance.lookaheadCheck.maxFeatureAvailableAt ≠ cutoff)
    (.invariant "lookahead and provenance availability cutoffs must match")
  refuseIf (r.target = .close ∧ r.provenance.seriesBasis ≠ .raw)
    (.invariant "close forecasts require raw series provenance")
  refuseIf (r.target = .adjustedClose ∧ r.provenance.seriesBasis = .raw)
    (.invariant "adjusted_close forecasts require adjusted series provenance")
  refuseIf (r.calibration.method ≠ .none ∧
      (buckets r.calibration.byInterval).toFinset ≠ (emittedBuckets r.forecasts).toFinset)
    (.invariant "calibration evidence must match every emitted interval bucket")
  refuseIf ((r.target = .returns ∨ r.target = .logReturn) ∧ r.currency ≠ none)
    (.invariant "currency must be null for return targets")
  refuseIf ((r.target = .close ∨ r.target = .adjustedClose) ∧ r.currency = none)
    (.invariant "currency is required for price targets")

/-- `ForecastResponse.model_validate`. -/
def validateResponse (r : ForecastResponse) : Except SchemaError ForecastResponse := do
  -- `uppercase_symbol` of the stripped text
  let symbol := rules.upper (rules.strip r.symbol)
  refuseIf (¬ 1 ≤ r.horizon) (.field "horizon")
  aware r.asOf "as_of"
  let currency ← optionally (currencyCode rules) r.currency
  refuseIf (r.forecasts.length < 1) (.field "forecasts")
  let forecasts ← r.forecasts.mapM (validateStep rules)
  let provenance ← validateProvenance rules r.provenance
  let calibration ← validateCalibration rules r.calibration
  let stored := { r with
    symbol, currency, forecasts, provenance, calibration, disclaimer := rules.strip r.disclaimer }
  validateInvariants stored
  return stored

/-- The pattern `^[A-Za-z0-9.\-_:]+$`. -/
def IsRequestSymbol (s : String) : Prop :=
  s.toList.all (fun c => Text.symbolChar c || ('a' ≤ c && c ≤ 'z')) = true

instance (s : String) : Decidable (IsRequestSymbol s) := inferInstanceAs (Decidable (_ = _))

/-- `ForecastRequest.model_validate`. -/
def validateRequest (r : ForecastRequest) : Except SchemaError ForecastRequest := do
  let stripped ← boundedText rules r.symbol "symbol" 1 32
  refuseIf (¬ IsRequestSymbol stripped) (.field "symbol")
  refuseIf (¬ (1 ≤ r.horizon ∧ r.horizon ≤ 252)) (.field "horizon")
  refuseIf (∃ t ∈ r.asOf, t.offset = none) (.field "as_of")
  let snapshotId ← optionally (boundedText rules · "snapshot_id" 1 128) r.snapshotId
  refuseIf (¬ (1 ≤ r.intervalCoverages.length ∧ r.intervalCoverages.length ≤ 9))
    (.field "interval_coverages")
  let coverages ← r.intervalCoverages.mapM (coverage rules · "interval_coverages")
  -- `sort_unique_coverages`
  let ordered := sortOn (fun q => q.1) coverages
  refuseIf (¬ ordered.Nodup) (.invariant "interval_coverages must not contain duplicates")
  return { r with symbol := rules.upper stripped, snapshotId, intervalCoverages := ordered }

/-! ## The clauses of the models -/

structure SoundInterval (i : ForecastInterval) : Prop where
  nominal : IsThousandth i.coverage
  levels : IsLevel i.lowerQuantile ∧ IsLevel i.upperQuantile
  ordered : i.lowerQuantile.1 < i.upperQuantile.1
  width : gap (binary64.round (i.upperQuantile.1 - i.lowerQuantile.1)) i.coverage.1 ≤ floatTolerance
  bounds : i.lower.1 ≤ i.upper.1

structure SoundStep (s : ForecastStep) : Prop where
  first : 1 ≤ s.step
  time : s.targetTime.offset ≠ none
  someQuantile : 1 ≤ s.quantiles.length
  levels : ∀ q ∈ s.quantiles, IsLevel q.level
  ascending : s.quantiles.Pairwise fun p q => p.level.1 < q.level.1
  someInterval : 1 ≤ s.intervals.length
  intervals : ∀ i ∈ s.intervals, SoundInterval i
  distribution : validateDistribution s.quantiles s.point s.intervals = .ok ⟨⟩

structure SoundLookahead (l : LookaheadCheck) : Prop where
  checked : l.checkedAt.offset ≠ none
  available : l.maxFeatureAvailableAt.offset ≠ none
  stripped : ∀ v ∈ l.violations, rules.strip v = v
  passed : l.status = .passed → l.violations = []

structure SoundSource (s : DataSourceLineage) : Prop where
  named : IsBounded rules s.name 1 64
  snapshot : IsBounded rules s.snapshotId 1 128
  available : s.maxAvailableAt.offset ≠ none
  stripped : ∀ f ∈ s.fields, rules.strip f = f

structure SoundProvenance (p : ForecastProvenance) : Prop where
  snapshot : IsBounded rules p.snapshotId 1 128
  model : IsBounded rules p.modelVersion 1 128
  hashLength : IsBounded rules p.featureSetHash 64 71
  hash : IsFeatureHash p.featureSetHash
  available : p.maxAvailableAt.offset ≠ none
  generated : p.generatedAt.offset ≠ none
  code : ∀ v ∈ p.codeVersion, IsBounded rules v 0 64
  sources : ∀ s ∈ p.dataSources, SoundSource rules s
  lookahead : SoundLookahead rules p.lookaheadCheck

structure SoundBucket (b : IntervalCalibration) : Prop where
  first : 1 ≤ b.horizon
  nominal : IsThousandth b.nominalCoverage
  empirical : ∀ e ∈ b.empiricalCoverage, IsProbability e
  samples : 0 ≤ b.sampleCount
  low : ∀ l ∈ b.confidenceLow, IsProbability l
  high : ∀ h ∈ b.confidenceHigh, IsProbability h
  band : validateConfidenceBand b.empiricalCoverage b.confidenceLow b.confidenceHigh = .ok ⟨⟩

structure SoundCalibration (c : ForecastCalibration) : Prop where
  version : IsBounded rules c.calibrationSetVersion 1 128
  samples : 0 ≤ c.sampleCount
  rows : ∀ b ∈ c.byInterval, SoundBucket b
  window : validateWindow c = .ok ⟨⟩

structure SoundResponse (r : ForecastResponse) : Prop where
  symbolStripped : rules.strip r.symbol = r.symbol
  symbolUpper : rules.upper r.symbol = r.symbol
  horizon : 1 ≤ r.horizon
  time : r.asOf.offset ≠ none
  currency : ∀ c ∈ r.currency, rules.strip c = c ∧ IsCurrencyCode c
  someStep : 1 ≤ r.forecasts.length
  steps : ∀ s ∈ r.forecasts, SoundStep s
  provenance : SoundProvenance rules r.provenance
  calibration : SoundCalibration rules r.calibration
  disclaimer : rules.strip r.disclaimer = r.disclaimer
  invariants : validateInvariants r = .ok ⟨⟩

structure SoundRequest (r : ForecastRequest) : Prop where
  symbol : IsBounded rules r.symbol 1 32
  symbolUpper : rules.upper r.symbol = r.symbol
  pattern : IsRequestSymbol r.symbol
  horizon : 1 ≤ r.horizon ∧ r.horizon ≤ 252
  time : ∀ t ∈ r.asOf, t.offset ≠ none
  snapshot : ∀ s ∈ r.snapshotId, IsBounded rules s 1 128
  count : 1 ≤ r.intervalCoverages.length ∧ r.intervalCoverages.length ≤ 9
  coverages : ∀ q ∈ r.intervalCoverages, IsThousandth q
  ascending : r.intervalCoverages.Pairwise fun p q => p.1 < q.1

end Validators

section Soundness

variable {rules : TextRules}

theorem validateQuantile_eq_ok_iff {q r : ForecastQuantile} :
    validateQuantile q = .ok r ↔ IsLevel q.level ∧ q = r := by
  rw [validateQuantile, refuseIf_bind_eq_ok_iff, not_not, pure_eq_ok, Except.ok.injEq]

theorem validateInterval_sound {i j : ForecastInterval} (h : validateInterval rules i = .ok j) :
    SoundInterval j := by
  rw [validateInterval, bind_eq_ok_iff] at h
  obtain ⟨nominal, hNominal, h⟩ := h
  simp only [refuseIf_bind_eq_ok_iff, not_not, not_le, not_lt, pure_eq_ok] at h
  obtain ⟨hLower, hUpper, hOrder, hWidth, hBounds, h⟩ := h
  cases h
  exact ⟨isThousandth_of_coverage hNominal, ⟨hLower, hUpper⟩, hOrder, hWidth, hBounds⟩

theorem SoundInterval.validate {i : ForecastInterval} (h : SoundInterval i) :
    validateInterval rules i = .ok i := by
  rw [validateInterval, coverage_of_isThousandth h.nominal, ok_bind, refuseIf_of_not (not_not.mpr h.levels.1),
    ok_bind, refuseIf_of_not (not_not.mpr h.levels.2), ok_bind, refuseIf_of_not (not_le.mpr h.ordered),
    ok_bind, refuseIf_of_not (not_lt.mpr h.width), ok_bind, refuseIf_of_not (not_lt.mpr h.bounds), ok_bind,
    pure_eq_ok]

theorem validateStep_sound {s t : ForecastStep} (h : validateStep rules s = .ok t) : SoundStep t := by
  simp only [validateStep, bind_eq_ok_iff, refuseIf_eq_ok_iff, aware_eq_ok_iff, exists_const, not_not,
    not_lt, pure_eq_ok, Except.ok.injEq] at h
  obtain ⟨hStep, hTime, hSome, quantiles, hQuantiles, hDistinct, hInterval, intervals, hIntervals, ⟨⟩,
    hDistribution, rfl⟩ := h
  have hPerm : (sortOn (fun q : ForecastQuantile => q.level.1) quantiles).Perm quantiles := sortOn_perm _
  have hLevels : ∀ q ∈ quantiles, IsLevel q.level :=
    mapM_sound (fun a b hValue => (validateQuantile_eq_ok_iff.mp hValue).2 ▸
      (validateQuantile_eq_ok_iff.mp hValue).1) hQuantiles
  have hKeys : (quantiles.map fun q => q.level.1).Nodup := by
    have hMap := hDistinct.map Subtype.val_injective
    rwa [List.map_map] at hMap
  exact {
    first := hStep
    time := hTime
    someQuantile := by
      rw [hPerm.length_eq, ← (forall₂_of_mapM hQuantiles).length_eq]
      exact hSome
    levels := fun q hMem => hLevels q (hPerm.mem_iff.mp hMem)
    ascending := sortOn_pairwise hKeys
    someInterval := by
      rw [← (forall₂_of_mapM hIntervals).length_eq]
      exact hInterval
    intervals := mapM_sound (fun _ _ => validateInterval_sound) hIntervals
    distribution := hDistribution }

theorem SoundStep.validate {s : ForecastStep} (h : SoundStep s) : validateStep rules s = .ok s := by
  have hQuantiles : s.quantiles.mapM validateQuantile = .ok s.quantiles :=
    mapM_self fun q hMem => validateQuantile_eq_ok_iff.mpr ⟨h.levels q hMem, rfl⟩
  have hIntervals : s.intervals.mapM (validateInterval rules) = .ok s.intervals :=
    mapM_self fun i hMem => (h.intervals i hMem).validate
  have hOrder : sortOn (fun q => q.level.1) s.quantiles = s.quantiles :=
    sortOn_eq_self_iff.mpr (h.ascending.imp le_of_lt)
  have hDistinct : (s.quantiles.map ForecastQuantile.level).Nodup :=
    List.pairwise_map.mpr (h.ascending.imp fun hLess hSame => hLess.ne (congrArg Subtype.val hSame))
  rw [validateStep, refuseIf_of_not (not_not.mpr h.first), ok_bind, aware_of h.time, ok_bind,
    refuseIf_of_not (not_lt.mpr h.someQuantile), ok_bind, hQuantiles, ok_bind,
    refuseIf_of_not (not_not.mpr hDistinct), ok_bind]
  dsimp only
  rw [refuseIf_of_not (not_lt.mpr h.someInterval), ok_bind, hIntervals, ok_bind, hOrder, h.distribution,
    ok_bind, pure_eq_ok]

theorem validateLookahead_sound {l m : LookaheadCheck} (h : validateLookahead rules l = .ok m) :
    SoundLookahead rules m := by
  simp only [validateLookahead, bind_eq_ok_iff, refuseIf_eq_ok_iff, aware_eq_ok_iff, exists_const,
    pure_eq_ok, Except.ok.injEq] at h
  obtain ⟨hChecked, hAvailable, hPassed, rfl⟩ := h
  refine ⟨hChecked, hAvailable, ?_, ?_⟩
  · intro v hMem
    obtain ⟨w, -, rfl⟩ := List.mem_map.mp hMem
    exact rules.strip_strip w
  · intro hStatus
    have hNone : l.violations = [] := not_not.mp fun hSome => hPassed ⟨hStatus, hSome⟩
    simp [hNone]

theorem map_strip {texts : List String} (h : ∀ v ∈ texts, rules.strip v = v) :
    texts.map rules.strip = texts :=
  (List.map_congr_left h).trans (List.map_id texts)

theorem SoundLookahead.validate {l : LookaheadCheck} (h : SoundLookahead rules l) :
    validateLookahead rules l = .ok l := by
  have hPassed : ¬ (l.status = .passed ∧ l.violations ≠ []) := fun hBoth => hBoth.2 (h.passed hBoth.1)
  rw [validateLookahead, aware_of h.checked, ok_bind, aware_of h.available, ok_bind,
    refuseIf_of_not hPassed, ok_bind, map_strip h.stripped, pure_eq_ok]

theorem validateSource_sound {s t : DataSourceLineage} (h : validateSource rules s = .ok t) :
    SoundSource rules t := by
  simp only [validateSource, bind_eq_ok_iff, aware_eq_ok_iff, exists_const, pure_eq_ok,
    Except.ok.injEq] at h
  obtain ⟨name, hName, snapshotId, hSnapshot, hAvailable, rfl⟩ := h
  refine ⟨boundedText_sound hName, boundedText_sound hSnapshot, hAvailable, ?_⟩
  intro f hMem
  obtain ⟨g, -, rfl⟩ := List.mem_map.mp hMem
  exact rules.strip_strip g

theorem SoundSource.validate {s : DataSourceLineage} (h : SoundSource rules s) :
    validateSource rules s = .ok s := by
  rw [validateSource, boundedText_self h.named, ok_bind, boundedText_self h.snapshot, ok_bind,
    aware_of h.available, ok_bind, map_strip h.stripped, pure_eq_ok]

theorem validateProvenance_sound {p q : ForecastProvenance} (h : validateProvenance rules p = .ok q) :
    SoundProvenance rules q := by
  simp only [validateProvenance, bind_eq_ok_iff, refuseIf_eq_ok_iff, aware_eq_ok_iff, exists_const,
    not_not, pure_eq_ok, Except.ok.injEq] at h
  obtain ⟨snapshotId, hSnapshot, modelVersion, hModel, featureSetHash, hLength, hHash, hAvailable,
    hGenerated, codeVersion, hCode, dataSources, hSources, lookaheadCheck, hLookahead, rfl⟩ := h
  exact {
    snapshot := boundedText_sound hSnapshot
    model := boundedText_sound hModel
    hashLength := boundedText_sound hLength
    hash := hHash
    available := hAvailable
    generated := hGenerated
    code := optionally_sound (fun _ _ => boundedText_sound) hCode
    sources := mapM_sound (fun _ _ => validateSource_sound) hSources
    lookahead := validateLookahead_sound hLookahead }

theorem SoundProvenance.validate {p : ForecastProvenance} (h : SoundProvenance rules p) :
    validateProvenance rules p = .ok p := by
  have hCode : optionally (boundedText rules · "code_version" 0 64) p.codeVersion = .ok p.codeVersion :=
    optionally_self fun v hMem => boundedText_self (h.code v hMem)
  have hSources : p.dataSources.mapM (validateSource rules) = .ok p.dataSources :=
    mapM_self fun s hMem => (h.sources s hMem).validate
  rw [validateProvenance, boundedText_self h.snapshot, ok_bind, boundedText_self h.model, ok_bind,
    boundedText_self h.hashLength, ok_bind, refuseIf_of_not (not_not.mpr h.hash), ok_bind,
    aware_of h.available, ok_bind, aware_of h.generated, ok_bind, hCode, ok_bind,
    hSources, ok_bind, h.lookahead.validate, ok_bind, pure_eq_ok]

theorem validateBucket_sound {b c : IntervalCalibration} (h : validateBucket rules b = .ok c) :
    SoundBucket c := by
  simp only [validateBucket, bind_eq_ok_iff, refuseIf_eq_ok_iff, exists_const, not_not, pure_eq_ok,
    Except.ok.injEq] at h
  obtain ⟨hFirst, nominal, hNominal, hEmpirical, hSamples, hLow, hHigh, ⟨⟩, hBand, rfl⟩ := h
  exact ⟨hFirst, isThousandth_of_coverage hNominal, hEmpirical, hSamples, hLow, hHigh, hBand⟩

theorem SoundBucket.validate {b : IntervalCalibration} (h : SoundBucket b) :
    validateBucket rules b = .ok b := by
  rw [validateBucket, refuseIf_of_not (not_not.mpr h.first), ok_bind, coverage_of_isThousandth h.nominal,
    ok_bind, refuseIf_of_not (not_not.mpr h.empirical), ok_bind, refuseIf_of_not (not_not.mpr h.samples),
    ok_bind, refuseIf_of_not (not_not.mpr h.low), ok_bind, refuseIf_of_not (not_not.mpr h.high), ok_bind,
    h.band, ok_bind, pure_eq_ok]

theorem validateCalibration_sound {c d : ForecastCalibration} (h : validateCalibration rules c = .ok d) :
    SoundCalibration rules d := by
  simp only [validateCalibration, bind_eq_ok_iff, refuseIf_eq_ok_iff, exists_const, not_not, pure_eq_ok,
    Except.ok.injEq] at h
  obtain ⟨version, hVersion, hSamples, byInterval, hRows, ⟨⟩, hWindow, rfl⟩ := h
  exact ⟨boundedText_sound hVersion, hSamples, mapM_sound (fun _ _ => validateBucket_sound) hRows, hWindow⟩

theorem SoundCalibration.validate {c : ForecastCalibration} (h : SoundCalibration rules c) :
    validateCalibration rules c = .ok c := by
  have hRows : c.byInterval.mapM (validateBucket rules) = .ok c.byInterval :=
    mapM_self fun b hMem => (h.rows b hMem).validate
  rw [validateCalibration, boundedText_self h.version, ok_bind, refuseIf_of_not (not_not.mpr h.samples),
    ok_bind, hRows, ok_bind]
  dsimp only
  rw [h.window, ok_bind, pure_eq_ok]

theorem currencyCode_eq_ok_iff {value c : String} :
    currencyCode rules value = .ok c ↔ IsCurrencyCode (rules.strip value) ∧ rules.strip value = c := by
  rw [currencyCode, refuseIf_bind_eq_ok_iff, not_not, pure_eq_ok, Except.ok.injEq]

/-- What is returned meets its clauses. -/
theorem validateResponse_sound {r s : ForecastResponse} (h : validateResponse rules r = .ok s) :
    SoundResponse rules s := by
  simp only [validateResponse, bind_eq_ok_iff, refuseIf_eq_ok_iff, aware_eq_ok_iff, exists_const, not_not,
    not_lt, pure_eq_ok, Except.ok.injEq] at h
  obtain ⟨hHorizon, hTime, currency, hCurrency, hSome, forecasts, hSteps, provenance, hProvenance,
    calibration, hCalibration, ⟨⟩, hInvariants, rfl⟩ := h
  have hCode : ∀ a c, currencyCode rules a = .ok c → rules.strip c = c ∧ IsCurrencyCode c := by
    intro a c hValue
    obtain ⟨hPattern, rfl⟩ := currencyCode_eq_ok_iff.mp hValue
    exact ⟨rules.strip_strip a, hPattern⟩
  exact {
    symbolStripped := rules.strip_upper _ (rules.strip_strip _)
    symbolUpper := rules.upper_upper _
    horizon := hHorizon
    time := hTime
    currency := optionally_sound hCode hCurrency
    someStep := by
      rw [← (forall₂_of_mapM hSteps).length_eq]
      exact hSome
    steps := mapM_sound (fun _ _ => validateStep_sound) hSteps
    provenance := validateProvenance_sound hProvenance
    calibration := validateCalibration_sound hCalibration
    disclaimer := rules.strip_strip _
    invariants := hInvariants }

/-- A response whose parts meet their clauses is returned with its steps as they are stored, unless an
invariant refuses it. -/
theorem validateResponse_of_parts {r : ForecastResponse} {steps : List ForecastStep}
    (symbolStripped : rules.strip r.symbol = r.symbol) (symbolUpper : rules.upper r.symbol = r.symbol)
    (horizon : 1 ≤ r.horizon) (time : r.asOf.offset ≠ none)
    (currency : ∀ c ∈ r.currency, rules.strip c = c ∧ IsCurrencyCode c) (someStep : 1 ≤ steps.length)
    (stored : r.forecasts.mapM (validateStep rules) = .ok steps) (provenance : SoundProvenance rules r.provenance)
    (calibration : SoundCalibration rules r.calibration) (disclaimer : rules.strip r.disclaimer = r.disclaimer) :
    validateResponse rules r =
      validateInvariants { r with forecasts := steps } >>= fun _ => .ok { r with forecasts := steps } := by
  have hCurrency : optionally (currencyCode rules) r.currency = .ok r.currency := by
    apply optionally_self
    intro c hMem
    obtain ⟨hStrip, hPattern⟩ := currency c hMem
    exact currencyCode_eq_ok_iff.mpr ⟨hStrip.symm ▸ hPattern, hStrip⟩
  have hSome : ¬ r.forecasts.length < 1 := by
    rw [(forall₂_of_mapM stored).length_eq]
    exact not_lt.mpr someStep
  rw [validateResponse]
  dsimp only
  rw [refuseIf_of_not (not_not.mpr horizon), ok_bind, aware_of time, ok_bind, hCurrency, ok_bind,
    refuseIf_of_not hSome, ok_bind, stored, ok_bind, provenance.validate, ok_bind, calibration.validate,
    ok_bind, symbolStripped, symbolUpper, disclaimer]
  rfl

/-- A response is returned with its steps as they are stored. -/
theorem validateResponse_of_steps {r : ForecastResponse} {steps : List ForecastStep}
    (stored : r.forecasts.mapM (validateStep rules) = .ok steps)
    (h : SoundResponse rules { r with forecasts := steps }) :
    validateResponse rules r = .ok { r with forecasts := steps } := by
  have hParts : validateResponse rules r =
      validateInvariants { r with forecasts := steps } >>= fun _ => .ok { r with forecasts := steps } :=
    validateResponse_of_parts h.symbolStripped h.symbolUpper h.horizon h.time h.currency h.someStep stored
      h.provenance h.calibration h.disclaimer
  rw [hParts, h.invariants, ok_bind]

/-- What meets its clauses is returned as it is. -/
theorem SoundResponse.validate {r : ForecastResponse} (h : SoundResponse rules r) :
    validateResponse rules r = .ok r :=
  validateResponse_of_steps (mapM_self fun s hMem => (h.steps s hMem).validate) h

/-! ## Requests -/

theorem requestSymbol_char {c : Char} (h : (Text.symbolChar c || ('a' ≤ c && c ≤ 'z')) = true) :
    c.toNat < 128 ∧ (Text.symbolChar c.toUpper || ('a' ≤ c.toUpper && c.toUpper ≤ 'z')) = true := by
  have hAll : ∀ n < 128, (Text.symbolChar (Char.ofNat n) || ('a' ≤ Char.ofNat n && Char.ofNat n ≤ 'z')) = true →
      (Text.symbolChar (Char.ofNat n).toUpper ||
        ('a' ≤ (Char.ofNat n).toUpper && (Char.ofNat n).toUpper ≤ 'z')) = true := by decide
  have hBelow : ∀ d : Char, d.toNat < 128 → c ≤ d → c.toNat < 128 :=
    fun d hSmall hLe => lt_of_le_of_lt hLe hSmall
  have hSmall : c.toNat < 128 := by
    simp only [Text.symbolChar, Bool.or_eq_true, Bool.and_eq_true, decide_eq_true_eq] at h
    rcases h with (((((⟨-, h⟩ | ⟨-, h⟩) | rfl) | rfl) | rfl) | rfl) | ⟨-, h⟩
    · exact hBelow 'Z' (by decide) h
    · exact hBelow '9' (by decide) h
    · decide
    · decide
    · decide
    · decide
    · exact hBelow 'z' (by decide) h
  refine ⟨hSmall, ?_⟩
  have hSelf := hAll c.toNat hSmall
  rw [Char.ofNat_toNat] at hSelf
  exact hSelf h

theorem IsRequestSymbol.ascii {s : String} (h : IsRequestSymbol s) : IsAscii s :=
  fun c hMem => (requestSymbol_char (List.all_eq_true.mp h c hMem)).1

theorem validateRequest_sound {r s : ForecastRequest} (h : validateRequest rules r = .ok s) :
    SoundRequest rules s := by
  simp only [validateRequest, bind_eq_ok_iff, refuseIf_eq_ok_iff, exists_const, not_not, pure_eq_ok,
    Except.ok.injEq] at h
  obtain ⟨symbol, hSymbol, hPattern, hHorizon, hTime, snapshotId, hSnapshot, hCount, coverages,
    hCoverages, hDistinct, rfl⟩ := h
  have hPerm : (sortOn (fun q : Double => q.1) coverages).Perm coverages := sortOn_perm _
  have hKeys : (coverages.map fun q => q.1).Nodup :=
    (hPerm.nodup_iff.mp hDistinct).map Subtype.val_injective
  obtain ⟨hStripped, hLength⟩ := boundedText_sound hSymbol
  have hUpper := rules.upper_ascii symbol hPattern.ascii
  exact {
    symbol := by
      refine ⟨rules.strip_upper symbol hStripped, ?_⟩
      rw [hUpper, String.length_ofList, List.length_map]
      exact hLength
    symbolUpper := rules.upper_upper _
    pattern := by
      rw [hUpper, IsRequestSymbol, String.toList_ofList, List.all_map, List.all_eq_true]
      intro c hMem
      exact (requestSymbol_char (List.all_eq_true.mp hPattern c hMem)).2
    horizon := hHorizon
    time := fun t hMem hNone => hTime ⟨t, hMem, hNone⟩
    snapshot := optionally_sound (fun _ _ => boundedText_sound) hSnapshot
    count := by
      rw [hPerm.length_eq, ← (forall₂_of_mapM hCoverages).length_eq]
      exact hCount
    coverages := fun q hMem =>
      mapM_sound (fun _ _ => isThousandth_of_coverage) hCoverages q (hPerm.mem_iff.mp hMem)
    ascending := sortOn_pairwise hKeys }

/-- A request is returned with its coverages in order. -/
theorem SoundRequest.validate_perm {r : ForecastRequest} (h : SoundRequest rules r) {coverages : List Double}
    (perm : coverages.Perm r.intervalCoverages) :
    validateRequest rules { r with intervalCoverages := coverages } = .ok r := by
  have hTime : ¬ ∃ t ∈ r.asOf, t.offset = none := by
    rintro ⟨t, hMem, hNone⟩
    exact h.time t hMem hNone
  have hSnapshot : optionally (boundedText rules · "snapshot_id" 1 128) r.snapshotId = .ok r.snapshotId :=
    optionally_self fun s hMem => boundedText_self (h.snapshot s hMem)
  have hCount : 1 ≤ coverages.length ∧ coverages.length ≤ 9 := perm.length_eq ▸ h.count
  have hCoverages : coverages.mapM (coverage rules · "interval_coverages") = .ok coverages :=
    mapM_self fun q hMem => coverage_of_isThousandth (h.coverages q (perm.mem_iff.mp hMem)) _
  have hOrder : sortOn (fun q : Double => q.1) coverages = r.intervalCoverages := by
    have hSelf : sortOn (fun q : Double => q.1) r.intervalCoverages = r.intervalCoverages :=
      sortOn_eq_self_iff.mpr (h.ascending.imp le_of_lt)
    rw [← hSelf]
    exact sortOn_congr perm fun a _ b _ hSame => Subtype.ext hSame
  have hDistinct : r.intervalCoverages.Nodup :=
    h.ascending.imp fun hLess hSame => hLess.ne (congrArg Subtype.val hSame)
  rw [validateRequest, boundedText_self h.symbol, ok_bind, refuseIf_of_not (not_not.mpr h.pattern), ok_bind,
    refuseIf_of_not (not_not.mpr h.horizon), ok_bind, refuseIf_of_not hTime, ok_bind, hSnapshot, ok_bind,
    refuseIf_of_not (not_not.mpr hCount), ok_bind, hCoverages, ok_bind]
  dsimp only
  rw [hOrder, refuseIf_of_not (not_not.mpr hDistinct), ok_bind, pure_eq_ok, h.symbolUpper]

theorem SoundRequest.validate {r : ForecastRequest} (h : SoundRequest rules r) : validateRequest rules r = .ok r :=
  h.validate_perm (List.Perm.refl _)

end Soundness

end StockApi.Forecasts

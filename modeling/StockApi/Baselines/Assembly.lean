import StockApi.Baselines.Models
import StockApi.Forecasts.Schema
import StockApi.Snapshots.Payload

/-!
# Assembling a forecast from a baseline

`assemble_baseline_forecast_response` up to the call of the response model. Arithmetic is exact: a
coverage is the thousandth that its float stands for, and so are the levels of its bounds.
-/

namespace StockApi.Baselines

open Checked CivilTime Groups
open Forecasts (ForecastRequest ForecastTarget ForecastHorizonUnit ForecastSeriesBasis ForecastModelSelector
  DataSourceLineage ForecastProvenance LookaheadCheck SchemaError TextRules Double Literal)
open Snapshots (SourceKey)

inductive AssemblyError where
  | valueError (message : String)
  | omittedQuantile (level : ℚ)
  | keyError (level : ℚ)
  | overflowError
  | schema (error : SchemaError)
deriving DecidableEq

/-! ## The steps of the response -/

/-- `round(value, places)`. -/
def roundPlaces (places : Nat) (value : ℚ) : ℚ := Rounding.roundEven (value * 10 ^ places) / 10 ^ places

/-- `FLOAT_TOLERANCE`. -/
def floatTolerance : ℚ := 1 / 10 ^ 9

structure ForecastQuantile where
  level : ℚ
  value : ℚ
deriving DecidableEq

structure ForecastInterval where
  coverage : ℚ
  lowerQuantile : ℚ
  upperQuantile : ℚ
  lower : ℚ
  upper : ℚ
deriving DecidableEq

structure ForecastStep where
  step : Nat
  targetTime : ParsedDateTime
  point : ℚ
  quantiles : List ForecastQuantile
  intervals : List ForecastInterval
deriving DecidableEq

/-- A `Coverage`. -/
def coverage (value : ℚ) : Except SchemaError ℚ := do
  refuseIf (¬ (1 / 1000 ≤ value ∧ value ≤ 999 / 1000)) (.field "coverage")
  refuseIf ((value * 1000).den ≠ 1) (.field "coverage")
  let rounded := roundPlaces 3 value
  refuseIf (1 / 10 ^ 12 < |value - rounded|) (.invariant "coverage supports at most three decimal places")
  return rounded

/-- A `QuantileLevel`. -/
def quantileLevel (value : ℚ) (name : String) : Except SchemaError PUnit :=
  refuseIf (¬ (0 < value ∧ value < 1)) (.field name)

def validateQuantile (q : ForecastQuantile) : Except SchemaError ForecastQuantile := do
  quantileLevel q.level "level"
  return q

def validateInterval (i : ForecastInterval) : Except SchemaError ForecastInterval := do
  let nominal ← coverage i.coverage
  quantileLevel i.lowerQuantile "lower_quantile"
  quantileLevel i.upperQuantile "upper_quantile"
  -- `validate_ordering`
  refuseIf (i.upperQuantile ≤ i.lowerQuantile) (.invariant "upper_quantile must be greater than lower_quantile")
  refuseIf (floatTolerance < |i.upperQuantile - i.lowerQuantile - nominal|)
    (.invariant "coverage must equal upper_quantile minus lower_quantile")
  refuseIf (i.upper < i.lower) (.invariant "upper must be greater than or equal to lower")
  return { i with coverage := nominal }

/-- `_quantile_value`. -/
def quantileValue (quantiles : List ForecastQuantile) (level : ℚ) : Option ℚ :=
  (quantiles.find? fun q => |q.level - level| ≤ floatTolerance).map ForecastQuantile.value

/-- A bound or a point that is some quantile's value. -/
def Meets (value : ℚ) (found : Option ℚ) : Prop := ∃ v ∈ found, |value - v| ≤ floatTolerance

instance (value : ℚ) : (found : Option ℚ) → Decidable (Meets value found)
  | none => isFalse (by simp [Meets])
  | some v => decidable_of_iff (|value - v| ≤ floatTolerance) (by simp [Meets])

/-- `validate_distribution`. -/
def validateDistribution (quantiles : List ForecastQuantile) (point : ℚ) (intervals : List ForecastInterval) :
    Except SchemaError Unit := do
  refuseIf (¬ quantiles.IsChain fun lower upper => lower.value ≤ upper.value)
    (.invariant "quantile values must be nondecreasing by level")
  refuseIf (¬ Meets point (quantileValue quantiles (1 / 2))) (.invariant "point must equal the 0.5 quantile")
  refuseIf (¬ (intervals.map ForecastInterval.coverage).Nodup)
    (.invariant "interval coverages must be unique per forecast step")
  intervals.forM fun interval => do
    let lower := quantileValue quantiles interval.lowerQuantile
    let upper := quantileValue quantiles interval.upperQuantile
    refuseIf (lower = none ∨ upper = none)
      (.invariant "interval bounds must reference included quantile levels")
    refuseIf (¬ Meets interval.lower lower ∨ ¬ Meets interval.upper upper)
      (.invariant "interval bounds must equal their referenced quantile values")

def validateStep (s : ForecastStep) : Except SchemaError ForecastStep := do
  refuseIf (¬ 1 ≤ s.step) (.field "step")
  Forecasts.aware s.targetTime "target_time"
  refuseIf (s.quantiles.length < 1) (.field "quantiles")
  let quantiles ← s.quantiles.mapM validateQuantile
  -- `quantiles_are_unique`
  refuseIf (¬ (quantiles.map ForecastQuantile.level).Nodup)
    (.invariant "quantile levels must be unique per forecast step")
  let ordered := sortOn ForecastQuantile.level quantiles
  refuseIf (s.intervals.length < 1) (.field "intervals")
  let intervals ← s.intervals.mapM validateInterval
  validateDistribution ordered s.point intervals
  return { s with quantiles := ordered, intervals }

/-! ## Inputs -/

structure ForecastObservation (τ : Type) where
  observedAt : τ
  availableAt : τ
  value : ℚ

structure ResolvedForecastInput where
  symbol : String
  target : ForecastTarget
  horizonUnit : ForecastHorizonUnit
  seriesBasis : String
  snapshotId : String
  asOf : ParsedDateTime
  observations : List (ForecastObservation ParsedDateTime)
  targetTimes : List ParsedDateTime
  dataSources : List DataSourceLineage
  currency : Option String
  availabilityVerified : Bool

structure ForecastRunIdentity where
  forecastId : Uuid
  generatedAt : ParsedDateTime
  modelVersion : String
  featureSetHash : String
  codeVersion : Option String

/-- What `_validated_inputs` returns. -/
structure ValidatedInputs where
  observations : List (ForecastObservation Instant)
  targetTimes : List Instant
  dataSources : List (Instant × DataSourceLineage)
  asOf : Instant
  generatedAt : Instant

def IsPriceTarget (target : ForecastTarget) : Prop := target = .close ∨ target = .adjustedClose

instance (target : ForecastTarget) : Decidable (IsPriceTarget target) := inferInstanceAs (Decidable (_ ∨ _))

def asUtc (value : ParsedDateTime) (label : String) : Except AssemblyError Instant := do
  refuseIf (value.offset = none) (.valueError (label ++ " must be timezone-aware"))
  orRefuse value.toInstant .overflowError

def utcObservation (o : ForecastObservation ParsedDateTime) : Except AssemblyError (ForecastObservation Instant) := do
  let observedAt ← asUtc o.observedAt "observation observed_at"
  let availableAt ← asUtc o.availableAt "observation available_at"
  return ⟨observedAt, availableAt, o.value⟩

def checkObservation (asOf : Instant) (o : ForecastObservation Instant) : Except AssemblyError PUnit := do
  refuseIf (asOf < o.observedAt) (.valueError "observation time must not be later than as_of")
  refuseIf (o.availableAt < o.observedAt) (.valueError "available_at must not be earlier than observed_at")
  refuseIf (asOf < o.availableAt) (.valueError "observation availability must not be later than as_of")

section Assembly

variable (rules : TextRules)

def sourceItem (source : DataSourceLineage) : Except AssemblyError (SourceKey × Finset String) := do
  let maxAvailableAt ← asUtc source.maxAvailableAt "source max_available_at"
  return (⟨source.name, source.snapshotId, maxAvailableAt⟩, source.fields.toFinset)

def sourceLine (group : SourceKey × Finset String) : Except AssemblyError (Instant × DataSourceLineage) := do
  let line ← (Forecasts.validateSource rules ⟨group.1.name, group.1.snapshotId, group.1.maxAvailableAt.inUtc,
    group.2.sort (· ≤ ·)⟩).mapError .schema
  return (group.1.maxAvailableAt, line)

def canonicalDataSources (sources : List DataSourceLineage) :
    Except AssemblyError (List (Instant × DataSourceLineage)) := do
  let items ← sources.mapM sourceItem
  (grouped items).mapM (sourceLine rules)

/-- The `as_of` of a request that pins no snapshot. -/
def requestedCutoff (request : ForecastRequest) : Except AssemblyError (Option Instant) :=
  match request.snapshotId, request.asOf with
  | none, some requested => (asUtc requested "as_of").map some
  | _, _ => .ok none

def validatedInputs (request : ForecastRequest) (resolved : ResolvedForecastInput) (identity : ForecastRunIdentity) :
    Except AssemblyError ValidatedInputs := do
  refuseIf (rules.upper (rules.strip resolved.symbol) ≠ request.symbol)
    (.valueError "resolved symbol must match the requested symbol")
  refuseIf (resolved.target ≠ request.target) (.valueError "resolved target must match the requested target")
  refuseIf (resolved.horizonUnit ≠ request.horizonUnit) (.valueError "resolved horizon_unit must match the request")
  refuseIf (resolved.seriesBasis ∉ ["raw", "split_adjusted", "split_dividend_adjusted"])
    (.valueError "resolved series_basis is not supported")
  refuseIf (request.target = .close ∧ resolved.seriesBasis ≠ "raw")
    (.valueError "close forecasts require a raw resolved series")
  refuseIf (request.target = .adjustedClose ∧ resolved.seriesBasis = "raw")
    (.valueError "adjusted_close forecasts require an adjusted resolved series")
  refuseIf (rules.strip resolved.snapshotId = "") (.valueError "snapshot_id must not be empty")
  refuseIf (∃ snapshotId ∈ request.snapshotId, snapshotId ≠ resolved.snapshotId)
    (.valueError "resolved snapshot_id does not match the requested snapshot")
  let asOf ← asUtc resolved.asOf "as_of"
  let cutoff ← requestedCutoff request
  refuseIf (∃ requested ∈ cutoff, requested < asOf)
    (.valueError "resolved snapshot is later than the requested as_of cutoff")
  let generatedAt ← asUtc identity.generatedAt "generated_at"
  refuseIf (generatedAt < asOf) (.valueError "generated_at must not be earlier than as_of")
  refuseIf (resolved.observations.isEmpty = true) (.valueError "at least one forecast observation is required")
  refuseIf (resolved.dataSources.isEmpty = true) (.valueError "at least one data source lineage row is required")
  refuseIf (resolved.targetTimes.length ≠ request.horizon.toNat)
    (.valueError "target_times length must match the requested horizon")
  let observations ← resolved.observations.mapM utcObservation
  refuseIf (¬ observations.IsChain fun previous current => previous.observedAt < current.observedAt)
    (.valueError "observation times must be strictly increasing")
  observations.forM (checkObservation asOf)
  let dataSources ← canonicalDataSources rules resolved.dataSources
  refuseIf (∃ source ∈ dataSources, asOf < source.1)
    (.valueError "source availability must not be later than as_of")
  let targetTimes ← resolved.targetTimes.mapM fun value => asUtc value "target_time"
  refuseIf (∃ first ∈ targetTimes.head?, first ≤ asOf) (.valueError "target times must be later than as_of")
  refuseIf (¬ targetTimes.IsChain fun current following => current < following)
    (.valueError "target times must be strictly increasing")
  refuseIf (IsPriceTarget request.target ∧ resolved.currency = none)
    (.valueError "currency is required for price targets")
  refuseIf (¬ IsPriceTarget request.target ∧ resolved.currency ≠ none)
    (.valueError "currency must be null for return targets")
  return ⟨observations, targetTimes, dataSources, asOf, generatedAt⟩

/-! ## The loop over the steps -/

def coverageLevels (coverage : ℚ) : ℚ × ℚ :=
  (roundPlaces 12 ((1 - coverage) / 2), roundPlaces 12 ((1 + coverage) / 2))

def requestedQuantileLevels (coverages : List ℚ) : List ℚ :=
  Dict.sortedSet (1 / 2 :: coverages.flatMap fun c => [(coverageLevels c).1, (coverageLevels c).2])

def quantilePath (paths : List (ℚ × List ℚ)) (requested : ℚ) (horizon : Nat) : Except AssemblyError (List ℚ) := do
  let found ← orRefuse (paths.find? fun path => |path.1 - requested| ≤ 1 / 10 ^ 12) (.omittedQuantile requested)
  refuseIf (found.2.length ≠ horizon) (.valueError "quantile forecast length must match the requested horizon")
  return found.2

def targetValue (target : ForecastTarget) (value : ℚ) : ℚ := if IsPriceTarget target then max 0 value else value

def forecastInterval (values : List (ℚ × ℚ)) (coverage : ℚ) : Except AssemblyError ForecastInterval := do
  let levels := coverageLevels coverage
  let lower ← orRefuse (values.lookup levels.1) (.keyError levels.1)
  let upper ← orRefuse (values.lookup levels.2) (.keyError levels.2)
  (validateInterval ⟨coverage, levels.1, levels.2, lower, upper⟩).mapError .schema

def forecastStep (target : ForecastTarget) (coverages rawPoints : List ℚ) (paths : List (ℚ × List ℚ))
    (position : Instant × Nat) : Except AssemblyError ForecastStep := do
  let point := targetValue target (rawPoints.getD position.2 0)
  let values := paths.map fun path => (path.1, targetValue target (path.2.getD position.2 0))
  refuseIf (¬ (values.map Prod.snd).IsChain fun current following => current ≤ following + floatTolerance)
    (.valueError "forecaster returned crossing quantiles")
  let median ← orRefuse (values.lookup (1 / 2)) (.keyError (1 / 2))
  refuseIf (floatTolerance < |median - point|) (.valueError "forecaster point must equal its median quantile")
  let quantiles ← values.mapM fun v => (validateQuantile ⟨v.1, v.2⟩).mapError .schema
  let intervals ← coverages.mapM (forecastInterval values)
  (validateStep ⟨position.2 + 1, position.1.inUtc, point, quantiles, intervals⟩).mapError .schema

/-! ## The response -/

/-- `_BASELINE_MODEL_PREFIXES`. -/
def baselineModelStart : ForecastModelSelector → Option String
  | .baselineNaive => some "baseline-naive@"
  | .baselineDrift => some "baseline-drift@"
  | .baselineSeasonalNaive => some "baseline-seasonal-naive-s"
  | _ => none

def validateModelSelection (request : ForecastRequest) (modelVersion : String) : Except AssemblyError PUnit :=
  if request.model = .auto then .ok ⟨⟩
  else do
    let start ← orRefuse (baselineModelStart request.model)
      (.valueError (Literal.text request.model ++ " is not a baseline model selector"))
    refuseIf (start.toList.isPrefixOf modelVersion.toList = false)
      (.valueError "resolved baseline model does not match the requested model")

/-- What the response model is called with. -/
structure AssembledResponse where
  symbol : String
  target : ForecastTarget
  horizon : Nat
  horizonUnit : ForecastHorizonUnit
  asOf : Instant
  currency : Option String
  forecasts : List ForecastStep
  snapshotId : String
  modelVersion : String
  seriesBasis : String
  featureSetHash : String
  maxAvailableAt : Instant
  generatedAt : Instant
  codeVersion : Option String
  dataSources : List DataSourceLineage
  lookaheadCheck : LookaheadCheck
  forecastId : Uuid
  calibrationSetVersion : String

/-- The latest of the availability times; there is an observation. -/
def maxAvailableAt (inputs : ValidatedInputs) : Instant :=
  let times := inputs.observations.map ForecastObservation.availableAt ++ inputs.dataSources.map Prod.fst
  times.tail.foldl max (times.headD inputs.asOf)

/-- The coverages of a request, each the thousandth that its float stands for. -/
def requestedCoverages (request : ForecastRequest) : List ℚ :=
  request.intervalCoverages.map fun c => roundPlaces 3 c.1

/-- The steps, from the outputs of the fitted forecaster. -/
def forecastSteps (request : ForecastRequest) (targetTimes : List Instant) (rawPoints : List ℚ)
    (rawQuantiles : List (ℚ × List ℚ)) : Except AssemblyError (List ForecastStep) := do
  let paths ← (requestedQuantileLevels (requestedCoverages request)).mapM fun level => do
    let path ← quantilePath rawQuantiles level request.horizon.toNat
    return (level, path)
  refuseIf (rawPoints.length ≠ request.horizon.toNat)
    (.valueError "point forecast length must match the requested horizon")
  targetTimes.zipIdx.mapM (forecastStep request.target (requestedCoverages request) rawPoints paths)

def assembleBaselineForecastResponse (baseline : Baseline) (request : ForecastRequest)
    (resolved : ResolvedForecastInput) (identity : ForecastRunIdentity) : Except AssemblyError AssembledResponse := do
  let inputs ← validatedInputs rules request resolved identity
  let fitted ← (baseline.fit (inputs.observations.map ForecastObservation.value)).mapError .valueError
  refuseIf (baseline.modelVersion ≠ identity.modelVersion)
    (.valueError "run identity model_version must match the fitted forecaster")
  validateModelSelection request identity.modelVersion
  let rawPoints ← (fitted.predict request.horizon.toNat).mapError .valueError
  let rawQuantiles ← (fitted.predictQuantiles request.horizon.toNat
    (requestedQuantileLevels (requestedCoverages request))).mapError .valueError
  let forecasts ← forecastSteps request inputs.targetTimes rawPoints rawQuantiles
  return {
    symbol := request.symbol
    target := request.target
    horizon := request.horizon.toNat
    horizonUnit := request.horizonUnit
    asOf := inputs.asOf
    currency := resolved.currency
    forecasts := forecasts
    snapshotId := resolved.snapshotId
    modelVersion := identity.modelVersion
    seriesBasis := resolved.seriesBasis
    featureSetHash := identity.featureSetHash
    maxAvailableAt := maxAvailableAt inputs
    generatedAt := inputs.generatedAt
    codeVersion := identity.codeVersion
    dataSources := inputs.dataSources.map Prod.snd
    lookaheadCheck := {
      status := if resolved.availabilityVerified then .passed else .notRun
      checkedAt := inputs.generatedAt.inUtc
      maxFeatureAvailableAt := (maxAvailableAt inputs).inUtc
      violations := if resolved.availabilityVerified then []
        else ["availability timestamps were not verified by the snapshot resolver"] }
    forecastId := identity.forecastId
    calibrationSetVersion := "uncalibrated:" ++ identity.modelVersion }

end Assembly

end StockApi.Baselines

import StockApi.Evaluation.Metrics
import StockApi.Baselines.Contract
import StockApi.Library.Text
import Mathlib.Data.Prod.Lex
import Mathlib.Data.String.Basic

/-!
# Expanding-window evaluation

A candidate is fitted at every origin to the values before it and scored against the values after it. The
scores of a horizon step are averaged over the origins, and the averages over the steps.
-/

namespace StockApi.Evaluation

open Checked
open Baselines (IsCoverage coverageLevels requestedQuantileLevels)

/-- The parameters `__post_init__` accepts. -/
structure WalkForwardConfig where
  initialTrainSize : Nat
  horizon : Nat
  stride : Nat
  intervalCoverages : List ℚ
  positive : 0 < initialTrainSize ∧ 0 < horizon ∧ 0 < stride
  nonempty : intervalCoverages ≠ []
  canonical : ∀ c ∈ intervalCoverages, IsCoverage c
  ascending : intervalCoverages.Pairwise (· < ·)

/-- The median and both ends of each interval. -/
def WalkForwardConfig.quantileLevels (config : WalkForwardConfig) : List ℚ :=
  requestedQuantileLevels config.intervalCoverages

/-- What a fitted forecaster answers. -/
structure Forecaster (K : Type) where
  modelVersion : String
  predict : Nat → Except String (List K)
  predictQuantiles : Nat → List K → Except String (List (K × List K))

/-- A candidate whose fitted output is a function of the training values. -/
structure BaselineCandidate (K : Type) where
  name : String
  trimmed : name ≠ "" ∧ Text.Trimmed name
  fit : List K → Except String (Forecaster K)

structure QuantileScore (K : Type) where
  level : ℚ
  pinballLoss : K

structure CoverageScore (K : Type) where
  nominalCoverage : ℚ
  empiricalCoverage : K

inductive Aggregation where
  | withinHorizon
  | equalHorizonMacro

structure MetricSummary (K : Type) where
  sampleCount : Nat
  mae : K
  rmse : K
  meanPinballLoss : K
  byQuantile : List (QuantileScore K)
  byCoverage : List (CoverageScore K)
  aggregation : Aggregation

structure HorizonMetrics (K : Type) where
  horizonStep : Nat
  metrics : MetricSummary K

structure QuantilePath (K : Type) where
  level : ℚ
  values : List K

structure OriginForecast (K : Type) where
  trainEndExclusive : Nat
  originIndex : Nat
  targetStartIndex : Nat
  actual : List K
  point : List K
  quantiles : List (QuantilePath K)

structure ModelEvaluation (K : Type) where
  candidateName : String
  modelVersion : String
  origins : List (OriginForecast K)
  byHorizon : List (HorizonMetrics K)
  aggregate : MetricSummary K

structure LeaderboardEntry (K : Type) where
  rank : Nat
  evaluation : ModelEvaluation K

structure BaselineLeaderboard (K : Type) where
  config : WalkForwardConfig
  entries : List (LeaderboardEntry K)

/-- The messages raised at an origin, with the level they name. -/
inductive OriginError (K : Type) where
  | valueError (message : String)
  | unexpectedQuantile (level : K)
  | duplicateQuantile (level : ℚ)
  | quantileLength (level : ℚ)
  | omittedQuantiles (missing : List ℚ)

inductive EvaluationError (K : Type) where
  | valueError (message : String)
  | runtimeError (message : String)
  | walkForward (candidate : String) (trainSize : Nat) (cause : OriginError K)

section Origins

variable {K : Type} [Field K] [LinearOrder K]

def validModelVersion (value : String) : Except (OriginError K) String := do
  refuseIf (¬ (value ≠ "" ∧ Text.Trimmed value)) (.valueError "model_version must be a non-empty trimmed string")
  return value

def forecastPath (values : List K) (horizon : Nat) (error : OriginError K) : Except (OriginError K) (List K) := do
  refuseIf (values.length ≠ horizon) error
  return values

/-- One item of the returned dictionary, under the requested level within the tolerance. -/
def addPath (levels : List ℚ) (horizon : Nat) (normalized : List (ℚ × List K)) (path : K × List K) :
    Except (OriginError K) (List (ℚ × List K)) := do
  refuseIf (¬ (0 < path.1 ∧ path.1 < 1))
    (.valueError "quantile levels must contain probabilities strictly between 0 and 1")
  let found ← orRefuse (levels.find? fun requested : ℚ => |(requested : K) - path.1| ≤ 1 / 10 ^ 12)
    (.unexpectedQuantile path.1)
  refuseIf (found ∈ normalized.map Prod.fst) (.duplicateQuantile found)
  let values ← forecastPath path.2 horizon (.quantileLength found)
  return normalized ++ [(found, values)]

def quantilePaths (paths : List (K × List K)) (levels : List ℚ) (horizon : Nat) :
    Except (OriginError K) (List (ℚ × List K)) := do
  let normalized ← paths.foldlM (addPath levels horizon) []
  let missing := levels.filter fun level => level ∉ normalized.map Prod.fst
  refuseIf (missing ≠ []) (.omittedQuantiles missing)
  return normalized

/-- `quantiles[level]`, of a level that is there. -/
def pathOf (quantiles : List (ℚ × List K)) (level : ℚ) : List K := (quantiles.lookup level).getD []

def validateDistribution (point : List K) (quantiles : List (ℚ × List K)) (levels : List ℚ) :
    Except (OriginError K) PUnit :=
  point.zipIdx.forM fun p => do
    refuseIf (¬ (levels.map fun level => (pathOf quantiles level).getD p.2 0).IsChain (· ≤ ·))
      (.valueError "forecaster returned crossing quantiles")
    refuseIf (1 / 10 ^ 9 < |(pathOf quantiles (1 / 2)).getD p.2 0 - p.1|)
      (.valueError "forecaster point must equal its median quantile")

variable (candidate : BaselineCandidate K) (config : WalkForwardConfig)

/-- What is computed at an origin, from the values before it. -/
def forecastOrigin (known : Option String) (training : List K) :
    Except (OriginError K) (String × List K × List (QuantilePath K)) := do
  let fitted ← (candidate.fit training).mapError .valueError
  let currentVersion ← validModelVersion fitted.modelVersion
  refuseIf (∃ v ∈ known, currentVersion ≠ v) (.valueError "model_version must remain stable across origins")
  let rawPoint ← (fitted.predict config.horizon).mapError .valueError
  let point ← forecastPath rawPoint config.horizon (.valueError "point forecast length must match horizon")
  let rawQuantiles ← (fitted.predictQuantiles config.horizon
    (config.quantileLevels.map fun level : ℚ => (level : K))).mapError .valueError
  let quantiles ← quantilePaths rawQuantiles config.quantileLevels config.horizon
  validateDistribution point quantiles config.quantileLevels
  return (currentVersion, point, config.quantileLevels.map fun level => ⟨level, pathOf quantiles level⟩)

def originForecast (series : List K) (trainSize : Nat) (point : List K) (quantiles : List (QuantilePath K)) :
    OriginForecast K where
  trainEndExclusive := trainSize
  originIndex := trainSize - 1
  targetStartIndex := trainSize
  actual := (series.drop trainSize).take config.horizon
  point := point
  quantiles := quantiles

/-- The round of the loop for an origin. -/
def addOrigin (series : List K) (state : Option String × List (OriginForecast K)) (trainSize : Nat) :
    Except (EvaluationError K) (Option String × List (OriginForecast K)) := do
  let (version, point, quantiles) ← (forecastOrigin candidate config state.1 (series.take trainSize)).mapError
    (.walkForward candidate.name trainSize)
  return (some version, state.2 ++ [originForecast config series trainSize point quantiles])

/-- `range(initial_train_size, length - horizon + 1, stride)`. -/
def trainSizes (length : Nat) : List Nat :=
  List.range' config.initialTrainSize
    ((length - config.horizon + 1 - config.initialTrainSize + config.stride - 1) / config.stride) config.stride

end Origins

section Scores

variable {K : Type} [Field K] [LinearOrder K]

/-- `path.values[offset]` of the first path of the level. -/
def OriginForecast.quantile (origin : OriginForecast K) (level : ℚ) (offset : Nat) : K :=
  (((origin.quantiles.find? fun path => path.level = level).map QuantilePath.values).getD []).getD offset 0

def quantileScore (origins : List (OriginForecast K)) (offset : Nat) (level : ℚ) :
    Except String (QuantileScore K) := do
  let loss ← pinballLoss (origins.map fun o => o.actual.getD offset 0) (origins.map fun o => o.quantile level offset)
    (level : K)
  return ⟨level, loss⟩

def coverageScore (origins : List (OriginForecast K)) (offset : Nat) (coverage : ℚ) :
    Except String (CoverageScore K) := do
  let empirical ← empiricalIntervalCoverage (origins.map fun o => o.actual.getD offset 0)
    (origins.map fun o => o.quantile (coverageLevels coverage).1 offset)
    (origins.map fun o => o.quantile (coverageLevels coverage).2 offset)
  return ⟨coverage, empirical⟩

variable (sqrt : K → K)

def horizonMetrics (origins : List (OriginForecast K)) (levels coverages : List ℚ) (offset : Nat) :
    Except String (HorizonMetrics K) := do
  let quantileScores ← levels.mapM (quantileScore origins offset)
  let coverageScores ← coverages.mapM (coverageScore origins offset)
  let mae ← meanAbsoluteError (origins.map fun o => o.actual.getD offset 0)
    (origins.map fun o => o.point.getD offset 0)
  let rmse ← rootMeanSquaredError sqrt (origins.map fun o => o.actual.getD offset 0)
    (origins.map fun o => o.point.getD offset 0)
  return {
    horizonStep := offset + 1
    metrics := {
      sampleCount := origins.length
      mae := mae
      rmse := rmse
      meanPinballLoss := safeMean (quantileScores.map QuantileScore.pinballLoss)
      byQuantile := quantileScores
      byCoverage := coverageScores
      aggregation := .withinHorizon } }

def scoreByHorizon (origins : List (OriginForecast K)) (levels coverages : List ℚ) :
    Except String (List (HorizonMetrics K)) :=
  (List.range ((origins.head?.map fun o => o.actual.length).getD 0)).mapM (horizonMetrics sqrt origins levels coverages)

/-- The score of the first entry of the level, which every step has. -/
def lossAt (level : ℚ) (metric : MetricSummary K) : K :=
  ((metric.byQuantile.find? fun score => score.level = level).map QuantileScore.pinballLoss).getD 0

def coverageAt (coverage : ℚ) (metric : MetricSummary K) : K :=
  ((metric.byCoverage.find? fun score => score.nominalCoverage = coverage).map CoverageScore.empiricalCoverage).getD 0

def macroSummary (byHorizon : List (HorizonMetrics K)) : MetricSummary K :=
  let metrics := byHorizon.map HorizonMetrics.metrics
  let levels := ((metrics.head?.map MetricSummary.byQuantile).getD []).map QuantileScore.level
  let coverages := ((metrics.head?.map MetricSummary.byCoverage).getD []).map CoverageScore.nominalCoverage
  { sampleCount := (metrics.map MetricSummary.sampleCount).sum
    mae := safeMean (metrics.map MetricSummary.mae)
    rmse := safeMean (metrics.map MetricSummary.rmse)
    meanPinballLoss := safeMean (metrics.map MetricSummary.meanPinballLoss)
    byQuantile := levels.map fun level => ⟨level, safeMean (metrics.map (lossAt level))⟩
    byCoverage := coverages.map fun coverage => ⟨coverage, safeMean (metrics.map (coverageAt coverage))⟩
    aggregation := .equalHorizonMacro }

def evaluateWalkForward (series : List K) (candidate : BaselineCandidate K) (config : WalkForwardConfig) :
    Except (EvaluationError K) (ModelEvaluation K) := do
  refuseIf (series.length < config.initialTrainSize + config.horizon)
    (.valueError "values must contain initial_train_size plus a complete forecast horizon")
  let (modelVersion, origins) ← (trainSizes config series.length).foldlM (addOrigin candidate config series) (none, [])
  let version ← orRefuse modelVersion (.runtimeError "walk-forward evaluation produced no origins")
  let byHorizon ← (scoreByHorizon sqrt origins config.quantileLevels config.intervalCoverages).mapError .valueError
  return {
    candidateName := candidate.name
    modelVersion := version
    origins := origins
    byHorizon := byHorizon
    aggregate := macroSummary byHorizon }

/-- The order of the ranking. -/
def rankingKey (evaluation : ModelEvaluation K) : K ×ₗ K ×ₗ K ×ₗ String ×ₗ String :=
  toLex (evaluation.aggregate.meanPinballLoss, toLex (evaluation.aggregate.rmse, toLex (evaluation.aggregate.mae,
    toLex (evaluation.candidateName, evaluation.modelVersion))))

def buildBaselineLeaderboard (values : List K) (candidates : List (BaselineCandidate K)) (config : WalkForwardConfig) :
    Except (EvaluationError K) (BaselineLeaderboard K) := do
  refuseIf (candidates = []) (.valueError "candidates must be a non-empty sequence")
  refuseIf (¬ (candidates.map BaselineCandidate.name).Nodup) (.valueError "candidate names must be unique")
  let evaluations ← candidates.mapM fun candidate => evaluateWalkForward sqrt values candidate config
  refuseIf (¬ (evaluations.map ModelEvaluation.modelVersion).Nodup)
    (.valueError "candidate model_version identities must be unique")
  let ordered := Groups.sortOn rankingKey evaluations
  return { config, entries := (ordered.zipIdx 1).map fun e => ⟨e.2, e.1⟩ }

end Scores

end StockApi.Evaluation

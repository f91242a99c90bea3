import StockApi.Baselines.Assembly
import StockApi.Library.FloatValue
import StockApi.Snapshots.Table

/-!
# Serving forecasts from snapshots

`SnapshotForecastService` between the snapshot table and the baselines: a request is answered from one
row, which has to validate and whose availability has to be proved by the trusted rules.
-/

namespace StockApi.Serving

open Checked CivilTime Documents Relational Text
open Baselines (AssemblyError AssembledResponse Baseline ForecastRunIdentity assembleBaselineForecastResponse)
open Forecasts (ForecastRequest ForecastTarget ForecastModelSelector Literal SoundRequest TextRules)
open Snapshots (ForecastInputSnapshot ResolvedForecastInput SnapshotExpectation validateAndResolveSnapshot)

structure AppError where
  message : String
  code : String
  statusCode : Nat
  details : List (String × Option String) := []
deriving DecidableEq

/-- What a request for a forecast raises. -/
inductive ServingError where
  | app (error : AppError)
  /-- `forecast_not_computable`, with the text of its cause. -/
  | notComputable (cause : AssemblyError) (snapshotId : String)
  /-- Everything that no handler translates. -/
  | unhandled (cause : AssemblyError)
deriving DecidableEq

/-- The repr of a text that needs no escapes. -/
def quoted (s : String) : String := "'" ++ s ++ "'"

structure ServingRuntime where
  rules : TextRules
  floats : FloatText
  sha256 : Bytes → String

/-- A `ForecastRequest` as its validators return it. -/
structure AcceptedRequest (rules : TextRules) extends ForecastRequest where
  sound : SoundRequest rules toForecastRequest

/-! ## Policies -/

structure PolicyArguments where
  resolutionPolicyHash : String
  trustedAvailabilityRuleSetHash : String
  target : String := "close"
  seriesBasis : String := "raw"
  inputTimespan : String := "day"
  inputMultiplier : Int := 1
  seasonalPeriod : Nat := 5
deriving DecidableEq

/-- The bases of the supported targets. -/
def expectedBasis : String → Option String
  | "close" => some "raw"
  | "adjusted_close" => some "split_dividend_adjusted"
  | _ => none

/-- A policy that `__post_init__` let through. -/
structure ForecastServingPolicy extends PolicyArguments where
  supported : expectedBasis target = some seriesBasis
  isHash : IsHash resolutionPolicyHash
  isTrustedHash : IsHash trustedAvailabilityRuleSetHash

def forecastServingPolicy (p : PolicyArguments) : Except String ForecastServingPolicy :=
  if supported : expectedBasis p.target = some p.seriesBasis then
    if hashes : IsHash p.resolutionPolicyHash ∧ IsHash p.trustedAvailabilityRuleSetHash then
      .ok ⟨p, supported, hashes.1, hashes.2⟩
    else .error "forecast policy identities must be SHA-256 content addresses"
  else .error "forecast target and series basis are not one supported epoch"

def ForecastServingPolicy.seriesBasisFor (policy : ForecastServingPolicy) (target : String) :
    Except ServingError String := do
  refuseIf (target ≠ policy.target) (ServingError.app
    ⟨"target " ++ quoted target ++ " has no servable series basis", "target_not_servable", 409, []⟩)
  return policy.seriesBasis

/-! ## The repository -/

structure ForecastInputSnapshotSelector where
  resolutionPolicyHash : String
  symbol : String
  target : String
  horizonUnit : String
  seriesBasis : String
  inputTimespan : String
  inputMultiplier : Int
  cutoff : Option ParsedDateTime

/-- The columns of a series that a selector compares. -/
def ForecastInputSnapshotSelector.InSeries (selector : ForecastInputSnapshotSelector)
    (row : ForecastInputSnapshot) : Prop :=
  row.schemaVersion = 1 ∧ row.resolutionPolicyHash = selector.resolutionPolicyHash ∧
  row.symbol = selector.symbol ∧ row.target = selector.target ∧ row.horizonUnit = selector.horizonUnit ∧
  row.seriesBasis = selector.seriesBasis ∧ row.inputTimespan = selector.inputTimespan ∧
  row.inputMultiplier = selector.inputMultiplier

/-- The rows that the statement may return, for a cutoff and trusted rules that may be missing. -/
def ForecastInputSnapshotSelector.Selects (selector : ForecastInputSnapshotSelector) (cutoff : Option Instant)
    (trusted : Option String) (row : ForecastInputSnapshot) : Prop :=
  selector.InSeries row ∧ (∀ t ∈ cutoff, row.asOf ≤ t) ∧
  ∀ rules ∈ trusted, row.availabilityStatus = "passed" ∧ row.availabilityRuleSetHash = some rules

instance (selector : ForecastInputSnapshotSelector) (cutoff : Option Instant) (trusted : Option String)
    (row : ForecastInputSnapshot) : Decidable (selector.Selects cutoff trusted row) :=
  inferInstanceAs (Decidable ((_ ∧ _) ∧ _))

/-- `build_latest_snapshot_statement`, executed. -/
def latestSnapshot (selector : ForecastInputSnapshotSelector) (cutoff : Option Instant) (trusted : Option String)
    (table : List ForecastInputSnapshot) : Option ForecastInputSnapshot :=
  latestBy (·.asOf) (table.filter fun row => decide (selector.Selects cutoff trusted row))

/-- `latest`; the driver converts the cutoff. -/
def latest (selector : ForecastInputSnapshotSelector) (trusted : Option String)
    (table : List ForecastInputSnapshot) : Except ServingError (Option ForecastInputSnapshot) :=
  match selector.cutoff with
  | none => .ok (latestSnapshot selector none trusted table)
  | some requested => do
    let cutoff ← orRefuse requested.toInstant (.unhandled .overflowError)
    return latestSnapshot selector (some cutoff) trusted table

/-- `get`. -/
def getSnapshot (snapshotId : String) (table : List ForecastInputSnapshot) : Option ForecastInputSnapshot :=
  table.find? fun row => row.snapshotId = snapshotId

/-! ## The service -/

structure SnapshotForecastService where
  /-- The rules that the repository trusts. -/
  repositoryTrusted : Option String
  policy : ForecastServingPolicy
  codeVersion : Option String

namespace SnapshotForecastService

variable (service : SnapshotForecastService)

section Service

variable {rules : TextRules} (request : AcceptedRequest rules)

def selector (seriesBasis : String) : ForecastInputSnapshotSelector where
  resolutionPolicyHash := service.policy.resolutionPolicyHash
  symbol := request.symbol
  target := Literal.text request.target
  horizonUnit := Literal.text request.horizonUnit
  seriesBasis := seriesBasis
  inputTimespan := service.policy.inputTimespan
  inputMultiplier := service.policy.inputMultiplier
  cutoff := request.asOf

/-- The row that the repository returns for the request. -/
def findRecord (seriesBasis : String) (table : List ForecastInputSnapshot) :
    Except ServingError (Option ForecastInputSnapshot) :=
  match request.snapshotId with
  | some snapshotId => .ok (getSnapshot snapshotId table)
  | none => latest (service.selector request seriesBasis) service.repositoryTrusted table

/-- `_load_record`. -/
def loadRecord (seriesBasis : String) (table : List ForecastInputSnapshot) :
    Except ServingError ForecastInputSnapshot := do
  let record ← service.findRecord request seriesBasis table
  orRefuse record (.app ⟨"no sealed forecast-input snapshot is available for " ++ request.symbol, "not_found", 404,
    [("symbol", some request.symbol), ("target", some (Literal.text request.target)),
      ("pinned_snapshot_id", request.snapshotId)]⟩)

/-- The fields of the request that the resolver reads. -/
def resolverRequest : Snapshots.ForecastRequest where
  symbol := request.symbol
  horizon := request.horizon.toNat
  horizonUnit := Literal.text request.horizonUnit
  target := Literal.text request.target
  asOf := request.asOf
  snapshotId := request.snapshotId
  horizonRange := by
    have := request.sound.horizon
    omega

def expectation (seriesBasis : String) : SnapshotExpectation where
  seriesBasis := seriesBasis
  resolutionPolicyHash := service.policy.resolutionPolicyHash
  inputTimespan := service.policy.inputTimespan
  inputMultiplier := service.policy.inputMultiplier
  trustedAvailabilityRuleSetHash := some service.policy.trustedAvailabilityRuleSetHash

end Service

/-- `_forecaster_factory`, called. -/
def forecaster (model : ForecastModelSelector) : Except ServingError Baseline :=
  match model with
  | .auto | .baselineNaive => .ok .naive
  | .baselineDrift => .ok .drift
  | .baselineSeasonalNaive =>
    if positive : 0 < service.policy.seasonalPeriod then .ok (.seasonalNaive service.policy.seasonalPeriod positive)
    else .error (.unhandled (.valueError "season_length must be a positive integer"))
  | .arima | .chronos => .error (.app ⟨"model selector " ++ quoted (Literal.text model) ++
      " is not implemented for serving yet", "not_implemented", 501, [("model", some (Literal.text model))]⟩)

end SnapshotForecastService

/-- A resolved input with its values as numbers. Its target and unit are those of a request. -/
def assemblyInput (resolved : ResolvedForecastInput) : Except AssemblyError Baselines.ResolvedForecastInput := do
  let target ← orRefuse (Literal.ofText resolved.target)
    (.valueError "resolved target must match the requested target")
  let horizonUnit ← orRefuse (Literal.ofText resolved.horizonUnit)
    (.valueError "resolved horizon_unit must match the request")
  return {
    symbol := resolved.symbol
    target := target
    horizonUnit := horizonUnit
    seriesBasis := resolved.seriesBasis
    snapshotId := resolved.snapshotId
    asOf := resolved.asOf.inUtc
    observations := resolved.observations.map fun o => ⟨o.observedAt.inUtc, o.availableAt.inUtc, o.value.value⟩
    targetTimes := resolved.targetTimes.map Instant.inUtc
    dataSources := resolved.dataSources.map fun s => ⟨s.name, s.snapshotId, s.maxAvailableAt.inUtc, s.fields⟩
    currency := resolved.currency
    availabilityVerified := resolved.availabilityVerified }

/-- `except ValueError` around the assembly; a validation error of the schema is one. -/
def translate (snapshotId : String) : AssemblyError → ServingError
  | .keyError level => .unhandled (.keyError level)
  | .overflowError => .unhandled .overflowError
  | cause => .notComputable cause snapshotId

namespace SnapshotForecastService

variable (runtime : ServingRuntime) (service : SnapshotForecastService)

/-- The readings that a run takes: the clock of the host, and a new identity. -/
structure RunReadings where
  now : Instant
  forecastId : Uuid

/-- The gates between the row and the forecaster. -/
def resolve (request : AcceptedRequest runtime.rules) (seriesBasis : String) (record : ForecastInputSnapshot) :
    Except ServingError ResolvedForecastInput := do
  let resolved ← (validateAndResolveSnapshot runtime.rules.toNormalForm runtime.floats runtime.sha256
    (record.map Instant.inUtc) (resolverRequest request) (service.expectation seriesBasis)).mapError fun message =>
      .app ⟨message, "snapshot_validation_failed", 409, [("snapshot_id", some record.snapshotId)]⟩
  refuseIf (resolved.availabilityVerified = false) (ServingError.app
    ⟨"snapshot availability evidence is not verified by the trusted rule set", "snapshot_not_verified", 503,
      [("snapshot_id", some record.snapshotId)]⟩)
  return resolved

/-- `_produce`. -/
def produce (request : AcceptedRequest runtime.rules) (readings : RunReadings)
    (table : List ForecastInputSnapshot) : Except ServingError AssembledResponse := do
  refuseIf (request.horizonUnit ≠ .tradingDay) (ServingError.app
    ⟨"only trading_day forecast horizons are servable by policy v1", "horizon_unit_not_servable", 409, []⟩)
  let seriesBasis ← service.policy.seriesBasisFor (Literal.text request.target)
  let record ← service.loadRecord request seriesBasis table
  let resolved ← service.resolve runtime request seriesBasis record
  let baseline ← service.forecaster request.model
  let identity : ForecastRunIdentity := {
    forecastId := readings.forecastId
    generatedAt := (max readings.now resolved.asOf).inUtc
    modelVersion := baseline.modelVersion
    featureSetHash := record.snapshotId
    codeVersion := service.codeVersion }
  (do
    let input ← assemblyInput resolved
    assembleBaselineForecastResponse runtime.rules baseline request.toForecastRequest input identity).mapError
      (translate record.snapshotId)

end SnapshotForecastService

/-! ## Configuration and routing -/

structure Settings where
  forecastResolutionPolicyHash : Option String
  forecastTrustedAvailabilityRuleSetHash : Option String
  forecastAdjustedCloseResolutionPolicyHash : Option String
  forecastAdjustedCloseTrustedAvailabilityRuleSetHash : Option String
  forecastSeasonalPeriod : Nat
  seasonal : 2 ≤ forecastSeasonalPeriod

def misconfigured (target : String) : AppError where
  message := "forecast serving for " ++ target ++ " is misconfigured: both the resolution-policy hash and trusted " ++
    "availability rule-set hash must be sha256:<hex64>"
  code := "forecast_serving_misconfigured"
  statusCode := 503
  details := [("target", some target)]

/-- `_configured_policy_pair`. -/
def configuredPolicyPair (resolutionHash availabilityHash : Option String) (target : String) :
    Except AppError (Option (String × String)) :=
  match resolutionHash, availabilityHash with
  | none, none => .ok none
  | some resolution, some availability => do
    refuseIf (¬ (IsHash resolution ∧ IsHash availability)) (misconfigured target)
    return some (resolution, availability)
  | _, _ => .error (misconfigured target)

/-- The characters of `_BUILD_REVISION_PATTERN`. -/
def isRevision (s : String) : Bool :=
  let word := fun c : Char => ('a' ≤ c && c ≤ 'z') || ('A' ≤ c && c ≤ 'Z') || ('0' ≤ c && c ≤ '9')
  s.toList.length ≤ 64 && s.toList.head?.any word && s.toList.all fun c => word c || c ∈ ['.', '_', '-']

def revisionInvalid (message : String) : AppError where
  message := message
  code := "forecast_build_revision_invalid"
  statusCode := 503

/-- `read_build_revision`, of a file that may be missing and whose text may be unreadable. -/
def readBuildRevision (rules : TextRules) : Option (Option String) → Except AppError (Option String)
  | none => .ok none
  | some none => .error (revisionInvalid "Forecast build revision cannot be read.")
  | some (some text) => do
    let revision := rules.strip text
    refuseIf (¬ (revision = "" ∨ revision = "unattested" ∨ isRevision revision = true))
      (revisionInvalid "Forecast build revision is malformed.")
    return if revision = "" ∨ revision = "unattested" then none else some revision

/-- What building a service raises. -/
inductive ConfigurationError where
  | app (error : AppError)
  | valueError (message : String)
deriving DecidableEq

/-- `_build_target_service`. -/
def buildTargetService (settings : Settings) (target seriesBasis : String) (hashes : String × String)
    (codeVersion : Option String) : Except ConfigurationError SnapshotForecastService := do
  let policy ← (forecastServingPolicy {
    resolutionPolicyHash := hashes.1
    trustedAvailabilityRuleSetHash := hashes.2
    target := target
    seriesBasis := seriesBasis
    seasonalPeriod := settings.forecastSeasonalPeriod }).mapError .valueError
  return ⟨some hashes.2, policy, codeVersion⟩

/-- The children of `build_forecast_service`, in their order. -/
def childServices (settings : Settings) (rawHashes adjustedHashes : Option (String × String))
    (codeVersion : Option String) : Except ConfigurationError (List SnapshotForecastService) := do
  let raw ← rawHashes.toList.mapM fun hashes => buildTargetService settings "close" "raw" hashes codeVersion
  let adjusted ← adjustedHashes.toList.mapM fun hashes =>
    buildTargetService settings "adjusted_close" "split_dividend_adjusted" hashes codeVersion
  return raw ++ adjusted

/-- `build_forecast_service`; there are no services where serving is not enabled. -/
def buildForecastServices (rules : TextRules) (settings : Settings) (revision : Option (Option String)) :
    Except ConfigurationError (List SnapshotForecastService) := do
  let rawHashes ← (configuredPolicyPair settings.forecastResolutionPolicyHash
    settings.forecastTrustedAvailabilityRuleSetHash "close").mapError .app
  let adjustedHashes ← (configuredPolicyPair settings.forecastAdjustedCloseResolutionPolicyHash
    settings.forecastAdjustedCloseTrustedAvailabilityRuleSetHash "adjusted_close").mapError .app
  if rawHashes = none ∧ adjustedHashes = none then .ok []
  else do
    let codeVersion ← (readBuildRevision rules revision).mapError .app
    let services ← childServices settings rawHashes adjustedHashes codeVersion
    -- `TargetRoutedForecastService.__post_init__`
    refuseIf (2 ≤ services.length ∧ ¬ (services.map fun service => service.policy.target).Nodup)
      (ConfigurationError.valueError "target-routed forecast services must be nonempty and unique")
    return services

/-- The service that answers a request: none, the only one, or the one of its target. -/
def route (services : List SnapshotForecastService) (symbol target : String) :
    Except ServingError SnapshotForecastService :=
  match services with
  | [] => .error (.app ⟨"Verified snapshot serving is not enabled for " ++ symbol ++ ".", "not_implemented", 501, []⟩)
  | [service] => .ok service
  | services => orRefuse (services.find? fun service => service.policy.target = target)
    (.app ⟨"verified snapshot serving is not configured for target " ++ quoted target, "not_implemented", 501,
      [("target", some target)]⟩)

end StockApi.Serving

import StockApi.Library.Postgres
import StockApi.Library.Text

/-!
# The evidence tables

The rows of the policy registries, the archived snapshots and runs, the cohorts, the outcomes and
their publications. A row carries its `CHECK` constraints.
-/

namespace StockApi.Evidence

open CivilTime Text

variable (pg : Postgres)

inductive Purpose where
  | calibrationFit
  | heldoutEvaluation
deriving DecidableEq

def Purpose.name : Purpose → String
  | .calibrationFit => "calibration_fit"
  | .heldoutEvaluation => "heldout_evaluation"

def Purpose.ofName (name : String) : Option Purpose :=
  if name = Purpose.calibrationFit.name then some .calibrationFit
  else if name = Purpose.heldoutEvaluation.name then some .heldoutEvaluation
  else none

inductive Origin where
  | api
  | scheduledEvaluation
deriving DecidableEq

/-! ## Policies -/

/-- `forecast_outcome_resolution_policies`. -/
structure OutcomePolicyColumns where
  policyHash : String
  availabilityRuleSetHash : String
  resolutionLagSeconds : Int
  canonicalPolicy : Bytes
  recordedAt : Int
  creatorXid : Nat

def OutcomePolicyColumns.Checks (c : OutcomePolicyColumns) : Prop :=
  IsHash c.policyHash ∧ IsHash c.availabilityRuleSetHash ∧
  (1 ≤ c.resolutionLagSeconds ∧ c.resolutionLagSeconds ≤ 31622400) ∧ 0 < c.creatorXid ∧
  (1 ≤ c.canonicalPolicy.length ∧ c.canonicalPolicy.length ≤ 262144) ∧
  c.policyHash = pg.sha256 c.canonicalPolicy

instance (c : OutcomePolicyColumns) : Decidable (c.Checks pg) := inferInstanceAs (Decidable (_ ∧ _))

structure OutcomePolicyRow extends OutcomePolicyColumns where
  checks : toOutcomePolicyColumns.Checks pg

/-- `forecast_selection_policies`. -/
structure SelectionPolicyColumns where
  policyHash : String
  forecastResolutionPolicyHash : String
  forecastAvailabilityRuleSetHash : String
  outcomeResolutionPolicyHash : String
  outcomeAvailabilityRuleSetHash : String
  resolutionLagSeconds : Int
  fitWindowStart : Date
  fitWindowEnd : Date
  heldoutWindowStart : Date
  heldoutWindowEnd : Date
  minimumFitMemberCount : Int
  minimumHeldoutMemberCount : Int
  minimumSealLeadSeconds : Int
  selectedSteps : List Int
  canonicalPolicy : Bytes
  recordedAt : Int
  creatorXid : Nat
deriving DecidableEq

def SelectionPolicyColumns.Checks (c : SelectionPolicyColumns) : Prop :=
  (IsHash c.policyHash ∧ IsHash c.forecastResolutionPolicyHash ∧
    IsHash c.forecastAvailabilityRuleSetHash ∧ IsHash c.outcomeResolutionPolicyHash ∧
    IsHash c.outcomeAvailabilityRuleSetHash) ∧
  (1 ≤ c.resolutionLagSeconds ∧ c.resolutionLagSeconds ≤ 31622400) ∧
  (c.fitWindowStart ≤ c.fitWindowEnd ∧ c.fitWindowEnd < c.heldoutWindowStart ∧
    c.heldoutWindowStart ≤ c.heldoutWindowEnd) ∧
  (1 ≤ c.minimumFitMemberCount ∧ c.minimumFitMemberCount ≤ 1000000 ∧
    1 ≤ c.minimumHeldoutMemberCount ∧ c.minimumHeldoutMemberCount ≤ 1000000) ∧
  (14400 ≤ c.minimumSealLeadSeconds ∧ c.minimumSealLeadSeconds ≤ 31622400) ∧
  (1 ≤ c.selectedSteps.length ∧ c.selectedSteps.length ≤ 252) ∧
  (1 ≤ c.canonicalPolicy.length ∧ c.canonicalPolicy.length ≤ 262144) ∧
  c.policyHash = pg.sha256 c.canonicalPolicy ∧ 0 < c.creatorXid

instance (c : SelectionPolicyColumns) : Decidable (c.Checks pg) :=
  inferInstanceAs (Decidable (_ ∧ _))

structure SelectionPolicyRow extends SelectionPolicyColumns where
  checks : toSelectionPolicyColumns.Checks pg

/-! ## Snapshots and runs -/

/-- The columns of `forecast_input_snapshots` that later functions read. -/
structure SnapshotRow where
  snapshotId : String
  resolutionPolicyHash : String
  symbol : String
  target : String
  horizonUnit : String
  seriesBasis : String
  currency : Option String
  targetTimeCount : Int
  availabilityStatus : String
  availabilityRuleSetHash : Option String
  canonicalPayload : Bytes

/-- `forecast_runs`. -/
structure RunColumns where
  forecastId : Uuid
  originKind : Origin
  idempotencyTokenDigest : Option String
  requestHash : String
  opportunityHash : String
  outputHash : String
  snapshotId : String
  resolutionPolicyHash : String
  availabilityRuleSetHash : String
  symbol : String
  target : String
  horizon : Int
  horizonUnit : String
  seriesBasis : String
  asOf : Int
  maxAvailableAt : Int
  modelVersion : String
  featureSetHash : String
  generatedAt : Int
  recordedAt : Int
  canonicalRequest : Bytes
  canonicalOutput : Bytes

/-- A target and the basis of its series. -/
def TargetSeriesBasis (target seriesBasis : String) : Prop :=
  (target = "close" ∧ seriesBasis = "raw") ∨ (target = "adjusted_close" ∧ seriesBasis ≠ "raw") ∨
    target = "return" ∨ target = "log_return"

instance (target seriesBasis : String) : Decidable (TargetSeriesBasis target seriesBasis) :=
  inferInstanceAs (Decidable (_ ∨ _))

def RunColumns.Checks (c : RunColumns) : Prop :=
  (IsHash c.requestHash ∧ IsHash c.opportunityHash ∧ IsHash c.outputHash ∧ IsHash c.snapshotId ∧
    IsHash c.resolutionPolicyHash ∧ IsHash c.availabilityRuleSetHash ∧ IsHash c.featureSetHash) ∧
  (∀ d ∈ c.idempotencyTokenDigest, d.toList.take 12 = "hmac-sha256:".toList ∧
    d.toList.length = 76 ∧ (d.toList.drop 12).all hexChar = true) ∧
  IsSymbol c.symbol ∧ (1 ≤ c.horizon ∧ c.horizon ≤ 252) ∧
  c.horizonUnit ∈ ["trading_day", "calendar_day", "minute", "hour", "week"] ∧
  c.seriesBasis ∈ ["raw", "split_adjusted", "split_dividend_adjusted"] ∧
  TargetSeriesBasis c.target c.seriesBasis ∧
  (c.maxAvailableAt ≤ c.asOf ∧ c.asOf ≤ c.generatedAt ∧ c.generatedAt ≤ c.recordedAt) ∧
  (1 ≤ c.canonicalRequest.length ∧ c.canonicalRequest.length ≤ 1048576) ∧
  (1 ≤ c.canonicalOutput.length ∧ c.canonicalOutput.length ≤ 4194304) ∧
  c.requestHash = pg.sha256 c.canonicalRequest ∧ c.outputHash = pg.sha256 c.canonicalOutput

instance (c : RunColumns) : Decidable (c.Checks pg) := inferInstanceAs (Decidable (_ ∧ _))

structure RunRow extends RunColumns where
  checks : toRunColumns.Checks pg

/-! ## Cohorts -/

/-- `forecast_outcome_cohort_manifests`. -/
structure ManifestColumns where
  cohortId : String
  selectionPolicyHash : String
  outcomeResolutionPolicyHash : String
  availabilityRuleSetHash : String
  purpose : Purpose
  memberCount : Int
  earliestTargetTime : Int
  latestTargetTime : Int
  recordedAt : Int
  creatorXid : Nat
  canonicalManifest : Bytes

def ManifestColumns.Checks (c : ManifestColumns) : Prop :=
  (IsHash c.cohortId ∧ IsHash c.selectionPolicyHash ∧ IsHash c.outcomeResolutionPolicyHash ∧
    IsHash c.availabilityRuleSetHash) ∧
  (1 ≤ c.memberCount ∧ c.memberCount ≤ 10000) ∧
  (0 < c.creatorXid ∧ c.recordedAt < c.earliestTargetTime ∧
    c.earliestTargetTime ≤ c.latestTargetTime) ∧
  (1 ≤ c.canonicalManifest.length ∧ c.canonicalManifest.length ≤ 4194304) ∧
  c.cohortId = pg.sha256 c.canonicalManifest

instance (c : ManifestColumns) : Decidable (c.Checks pg) := inferInstanceAs (Decidable (_ ∧ _))

structure ManifestRow extends ManifestColumns where
  checks : toManifestColumns.Checks pg

/-- `forecast_outcome_cohort_members`. -/
structure MemberColumns where
  cohortId : String
  forecastId : Uuid
  step : Int
  targetTime : Int
  opportunityHash : String
  outputHash : String
  selectionPolicyHash : String
  purpose : Purpose
deriving DecidableEq

def MemberColumns.Checks (c : MemberColumns) : Prop :=
  (1 ≤ c.step ∧ c.step ≤ 252) ∧ IsHash c.opportunityHash ∧ IsHash c.outputHash ∧
    IsHash c.selectionPolicyHash

instance (c : MemberColumns) : Decidable c.Checks := inferInstanceAs (Decidable (_ ∧ _))

structure MemberRow extends MemberColumns where
  checks : toMemberColumns.Checks
deriving DecidableEq

/-- `forecast_outcome_cohort_availability`. -/
structure SealColumns where
  cohortId : String
  manifestRecordedAt : Int
  sealedAt : Int
  sealerXid : Nat

def SealColumns.Checks (c : SealColumns) : Prop := c.manifestRecordedAt ≤ c.sealedAt ∧ 0 < c.sealerXid

instance (c : SealColumns) : Decidable c.Checks := inferInstanceAs (Decidable (_ ∧ _))

structure SealRow extends SealColumns where
  checks : toSealColumns.Checks

/-! ## Outcomes -/

/-- `forecast_realized_outcomes`. -/
structure OutcomeColumns where
  outcomeId : String
  outcomeResolutionPolicyHash : String
  availabilityRuleSetHash : String
  symbol : String
  target : String
  seriesBasis : String
  currency : String
  targetTime : Int
  resolutionCutoff : Int
  barTimespan : String
  barMultiplier : Int
  barObservedAt : Int
  barSource : String
  barAdjustmentBasis : String
  barVersionRecordedAt : Int
  barFetchedAt : Int
  barSourceAsOf : Int
  barAvailableAt : Int
  barField : String
  barValue : Rat
  realizedValue : Rat
  sealedAt : Int
  canonicalEvidence : Bytes
deriving DecidableEq

def OutcomeColumns.Checks (c : OutcomeColumns) : Prop :=
  (IsHash c.outcomeId ∧ IsHash c.outcomeResolutionPolicyHash ∧ IsHash c.availabilityRuleSetHash) ∧
  IsSymbol c.symbol ∧ c.target = "close" ∧ c.seriesBasis = "raw" ∧ c.currency = "USD" ∧
  (c.barTimespan = "day" ∧ c.barMultiplier = 1 ∧ c.barSource = "polygon_open_close" ∧
    c.barAdjustmentBasis = "raw" ∧ c.barField = "close") ∧
  (0 ≤ c.barValue ∧ 0 ≤ c.realizedValue ∧ c.barValue = c.realizedValue) ∧
  (c.barObservedAt = c.targetTime ∧ c.barObservedAt ≤ c.barFetchedAt ∧
    c.barFetchedAt ≤ c.barSourceAsOf ∧ c.barSourceAsOf ≤ c.barVersionRecordedAt ∧
    c.barVersionRecordedAt ≤ c.barAvailableAt ∧ c.barAvailableAt ≤ c.resolutionCutoff ∧
    c.resolutionCutoff ≤ c.sealedAt) ∧
  (1 ≤ c.canonicalEvidence.length ∧ c.canonicalEvidence.length ≤ 262144) ∧
  c.outcomeId = pg.sha256 c.canonicalEvidence

instance (c : OutcomeColumns) : Decidable (c.Checks pg) := inferInstanceAs (Decidable (_ ∧ _))

structure OutcomeRow extends OutcomeColumns where
  checks : toOutcomeColumns.Checks pg

/-- `forecast_realized_outcome_publications`. -/
structure PublicationRow where
  outcomeId : String
  cohortId : String
  forecastId : Uuid
  step : Int
  publishedAt : Int
  publisherXid : Nat

end StockApi.Evidence

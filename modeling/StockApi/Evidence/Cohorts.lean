import StockApi.Evidence.SelectionPolicy

/-!
# Cohorts

The triggers of the cohort tables: a manifest is stamped, validated against its selection policy and
its archived runs, and taken apart into its members; a later transaction seals it.
-/

namespace StockApi.Evidence

open Checked CivilTime Jsonb JsonText Postgres Relational Text

variable {pg : Postgres}

def noRows : SqlError := ⟨"P0002", "query returned no rows"⟩

/-- `jsonb_array_elements(value)`, which refuses what is no array. -/
def arrayElements : Option Value → Except SqlError (List Value)
  | none => .ok []
  | some (.arr items) => .ok items
  | some _ => .error ⟨"22023", "cannot extract elements from a scalar"⟩

def isNull : Option Value → Bool
  | some .null => true
  | _ => false

/-- `value ->> index`. -/
def getIndexText (value : Option Value) (index : Int) : Option String :=
  match value with
  | some (.arr items) =>
    if 0 ≤ index then asText items[index.toNat]?
    else if -index ≤ items.length then asText items[(items.length + index).toNat]?
    else none
  | _ => none

/-! ## The manifest as it is stamped -/

/-- A manifest between its triggers. -/
structure ManifestDraft where
  cohortId : String
  selectionPolicyHash : Option String
  outcomeResolutionPolicyHash : Option String
  availabilityRuleSetHash : Option String
  purpose : Option String
  memberCount : Int
  earliestTargetTime : Option Int
  latestTargetTime : Option Int
  recordedAt : Int
  creatorXid : Nat
  canonicalManifest : Bytes

def manifestKeys : List String :=
  ["availability_rule_set_hash", "format", "members", "outcome_resolution_policy_hash", "purpose",
    "schema_version", "selection_policy_hash"]

def memberKeys : List String :=
  ["forecast_id", "opportunity_hash", "output_hash", "step", "target_time"]

def ManifestSupported (document : Option Value) : Prop :=
  HasKeys document manifestKeys ∧ getText document "format" = some "forecast-outcome-cohort-v1" ∧
  (isNumber (get document "schema_version") = true ∧ getText document "schema_version" = some "1") ∧
  isArray (get document "members") = true

instance (document : Option Value) : Decidable (ManifestSupported document) :=
  inferInstanceAs (Decidable (_ ∧ _))

def MemberWellFormed (member : Value) : Prop :=
  HasKeys (some member) memberKeys ∧
  ∃ n ∈ digitsOf 3 (get (some member) "step"), 1 ≤ n ∧ n ≤ 252

instance (member : Value) : Decidable (MemberWellFormed member) := inferInstanceAs (Decidable (_ ∧ _))

def memberTargetTime (session : pg.Session) (member : Value) : Except SqlError (Option Int) :=
  castText (pg.timestamptz session) castError (getText (some member) "target_time")

/-- One round of the loop over the members. -/
def stampMember (session : pg.Session) (member : Value) : Except SqlError (Option Int) := do
  refuseIf (¬ MemberWellFormed member)
    (SqlError.mk "22023" "cohort member evidence is malformed")
  castText (pg.timestamptz session) ⟨"22023", "cohort member target_time is invalid"⟩
    (getText (some member) "target_time")

def stampForecastOutcomeCohortManifest (session : pg.Session) (clock : Int) (xid : Nat)
    (cohortId : String) (canonicalManifest : Bytes) : Except SqlError ManifestDraft := do
  refuseIf (¬ (1 ≤ canonicalManifest.length ∧ canonicalManifest.length ≤ 4194304))
    (SqlError.mk "22023" "cohort manifest exceeds the storage bound")
  let document ← orRefuse (Jsonb.read canonicalManifest)
    ⟨"22023", "cohort manifest is not valid UTF-8 JSON"⟩
  refuseIf (¬ ManifestSupported (some document))
    (SqlError.mk "22023" "cohort manifest envelope is not supported")
  let members := elements (get (some document) "members")
  refuseIf (¬ (1 ≤ members.length ∧ members.length ≤ 10000))
    (SqlError.mk "22023" "cohort member count is outside supported bounds")
  let targets ← members.mapM (stampMember session)
  return {
    cohortId
    selectionPolicyHash := getText (some document) "selection_policy_hash"
    outcomeResolutionPolicyHash := getText (some document) "outcome_resolution_policy_hash"
    availabilityRuleSetHash := getText (some document) "availability_rule_set_hash"
    purpose := getText (some document) "purpose"
    memberCount := members.length
    earliestTargetTime := targets.foldl (Option.merge min) none
    latestTargetTime := targets.foldl (Option.merge max) none
    recordedAt := clock
    creatorXid := xid
    canonicalManifest }

/-! ## The manifest against its policy -/

/-- The UTC date of a target is not between the bounds of the purpose. -/
def OutsideWindow (policy : SelectionPolicyRow pg) (purpose : Option String) (target : Option Int) :
    Prop :=
  let outside := fun first last : Date =>
    ∃ t ∈ target, ¬ ((first.days : Int) ≤ utcDay t ∧ utcDay t ≤ last.days)
  match purpose.bind Purpose.ofName with
  | some .calibrationFit => outside policy.fitWindowStart policy.fitWindowEnd
  | some .heldoutEvaluation => outside policy.heldoutWindowStart policy.heldoutWindowEnd
  | none => True

instance (policy : SelectionPolicyRow pg) (purpose : Option String) (target : Option Int) :
    Decidable (OutsideWindow policy purpose target) := by
  unfold OutsideWindow
  dsimp only
  split <;> infer_instance

def memberStep (pg : Postgres) (member : Value) : Except SqlError (Option Int) :=
  castText pg.smallint castError (getText (some member) "step")

/-- An opportunity and a step of it. -/
def memberBundle (pg : Postgres) (member : Value) : Except SqlError (Option String × Option Int) := do
  return (getText (some member) "opportunity_hash", ← memberStep pg member)

/-- The steps of one opportunity in ascending order. -/
def opportunitySteps (bundles : List (Option String × Option Int)) (opportunity : Option String) :
    Option (List Int) :=
  (((bundles.filter fun b => decide (b.1 = opportunity)).map Prod.snd).mapM id).map
    (List.insertionSort (· ≤ ·))

def CompleteBundles (policy : SelectionPolicyRow pg) (bundles : List (Option String × Option Int)) :
    Prop :=
  ∀ b ∈ bundles, opportunitySteps bundles b.1 = some policy.selectedSteps

instance (policy : SelectionPolicyRow pg) (bundles : List (Option String × Option Int)) :
    Decidable (CompleteBundles policy bundles) := inferInstanceAs (Decidable (∀ b ∈ _, _))

/-! ## The archived runs of a manifest -/

/-- The columns of a run and of its snapshot against the study. -/
def ColumnsMatch (policy : SelectionPolicyRow pg) (study : Option Value) (member : Value) (run : RunRow pg)
    (snapshot : SnapshotRow) : Prop :=
  (run.originKind = .scheduledEvaluation ∧
    some run.opportunityHash = getText (some member) "opportunity_hash" ∧
    some run.outputHash = getText (some member) "output_hash") ∧
  (∃ s ∈ elements (get study "symbols"), asText (some s) = some run.symbol ∧ isString (some s) = true) ∧
  (some run.target = getText study "target" ∧ some run.seriesBasis = getText study "series_basis" ∧
    some run.horizonUnit = getText study "horizon_unit" ∧
    some (toString run.horizon) = getText study "horizon" ∧
    some run.modelVersion = getText study "model_version") ∧
  (run.resolutionPolicyHash = policy.forecastResolutionPolicyHash ∧
    run.availabilityRuleSetHash = policy.forecastAvailabilityRuleSetHash) ∧
  (snapshot.symbol = run.symbol ∧ some snapshot.target = getText study "target" ∧
    some snapshot.horizonUnit = getText study "horizon_unit" ∧
    some snapshot.seriesBasis = getText study "series_basis" ∧
    snapshot.currency = getText study "currency") ∧
  (snapshot.resolutionPolicyHash = policy.forecastResolutionPolicyHash ∧
    snapshot.availabilityStatus = "passed" ∧
    snapshot.availabilityRuleSetHash = some policy.forecastAvailabilityRuleSetHash) ∧
  run.horizon ≤ snapshot.targetTimeCount

instance (policy : SelectionPolicyRow pg) (study : Option Value) (member : Value) (run : RunRow pg)
    (snapshot : SnapshotRow) : Decidable (ColumnsMatch policy study member run snapshot) :=
  inferInstanceAs (Decidable (_ ∧ _))

/-- The request, the output and the snapshot of a run against the study. -/
def DocumentsMatch (policy : SelectionPolicyRow pg) (study : Option Value) (run : RunRow pg)
    (request output snapshot : Option Value) : Prop :=
  let asked := get request "payload"
  let answered := get output "payload"
  let provenance := get answered "provenance"
  (getText request "format" = some "forecast-run-request-v1" ∧
    getText request "schema_version" = some "1" ∧ getText asked "symbol" = some run.symbol ∧
    getText asked "target" = getText study "target" ∧
    getText asked "horizon_unit" = getText study "horizon_unit" ∧
    getText asked "horizon" = getText study "horizon" ∧
    getText asked "model" = getText study "model_selector" ∧ isNull (get asked "as_of") = true ∧
    getText asked "snapshot_id" = some run.snapshotId) ∧
  (getText output "format" = some "forecast-run-output-v1" ∧
    getText output "schema_version" = some "1" ∧ getText answered "symbol" = some run.symbol ∧
    getText answered "target" = getText study "target" ∧
    getText answered "horizon_unit" = getText study "horizon_unit" ∧
    getText answered "horizon" = getText study "horizon" ∧
    getText answered "currency" = getText study "currency" ∧
    getText provenance "model_version" = getText study "model_version" ∧
    getText provenance "series_basis" = getText study "series_basis" ∧
    getText provenance "snapshot_id" = some run.snapshotId) ∧
  (getText snapshot "format" = some "forecast-input-snapshot-v1" ∧
    getText snapshot "schema_version" = some "1" ∧ getText snapshot "symbol" = some run.symbol ∧
    getText snapshot "target" = getText study "target" ∧
    getText snapshot "horizon_unit" = getText study "horizon_unit" ∧
    getText snapshot "series_basis" = getText study "series_basis" ∧
    getText snapshot "currency" = getText study "currency" ∧
    getText snapshot "resolution_policy_hash" = some policy.forecastResolutionPolicyHash ∧
    getText (get snapshot "availability") "status" = some "passed" ∧
    getText (get snapshot "availability") "rule_set_hash" =
      some policy.forecastAvailabilityRuleSetHash)

instance (policy : SelectionPolicyRow pg) (study : Option Value) (run : RunRow pg)
    (request output snapshot : Option Value) :
    Decidable (DocumentsMatch policy study run request output snapshot) :=
  inferInstanceAs (Decidable (_ ∧ _))

/-- The elements of an array cast to `numeric`. -/
def numericElements (pg : Postgres) (value : Option Value) : Except SqlError (List (Option Rat)) := do
  (← arrayElements value).mapM fun item => castText pg.numeric castError (asText (some item))

/-- The coverages of the study in thousandths. -/
def policyCoverages (pg : Postgres) (study : Option Value) : Except SqlError (List (Option Rat)) := do
  return (← numericElements pg (get study "interval_coverages_millis")).map
    (Option.map (· / 1000))

/-- The coverages of one forecast step, in ascending order. -/
def forecastCoverages (pg : Postgres) (forecast : Value) : Except SqlError (Option (List Rat)) := do
  let coverages ← (← arrayElements (get (some forecast) "intervals")).mapM fun interval =>
    castText pg.numeric castError (getText (some interval) "coverage")
  return (coverages.mapM id).map (List.insertionSort (· ≤ ·))

def mismatch : SqlError := ⟨"23000", "scheduled run does not match its registered selection policy"⟩

/-- The third query of the validator, for one member. -/
def checkRunEvidence (session : pg.Session) (policy : SelectionPolicyRow pg) (study : Option Value)
    (runs : List (RunRow pg)) (snapshots : List SnapshotRow) (member : Value) : Except SqlError PUnit := do
  let forecastId ← castText pg.uuid castError (getText (some member) "forecast_id")
  let run ← orRefuse (runs.find? fun r => decide (some r.forecastId = forecastId)) mismatch
  let snapshot ← orRefuse (snapshots.find? fun s => decide (s.snapshotId = run.snapshotId)) mismatch
  refuseIf (¬ ColumnsMatch policy study member run snapshot) mismatch
  let request ← orRefuse (Jsonb.read run.canonicalRequest) castError
  let output ← orRefuse (Jsonb.read run.canonicalOutput) castError
  let payload ← orRefuse (Jsonb.read snapshot.canonicalPayload) castError
  refuseIf (¬ DocumentsMatch policy study run (some request) (some output) (some payload)) mismatch
  let asked ← numericElements pg (get (get (some request) "payload") "interval_coverages")
  let coverages ← policyCoverages pg study
  refuseIf (asked ≠ coverages) mismatch
  let step ← castText pg.integer castError (getText (some member) "step")
  let listed ← castText (pg.timestamptz session) castError
    (step.bind fun s => getIndexText (get (some payload) "target_times") (s - 1))
  refuseIf (listed ≠ (← memberTargetTime session member)) mismatch
  let forecasts ← arrayElements (get (get (some output) "payload") "forecasts")
  let intervals ← forecasts.mapM (forecastCoverages pg)
  refuseIf (∃ c ∈ intervals, c ≠ (coverages.mapM id).map (List.insertionSort (· ≤ ·))) mismatch

def validateForecastCohortSelectionPolicy (session : pg.Session) (policies : List (SelectionPolicyRow pg))
    (runs : List (RunRow pg)) (snapshots : List SnapshotRow) (new : ManifestDraft) :
    Except SqlError PUnit := do
  let policy ← orRefuse (policies.find? fun p => decide (some p.policyHash = new.selectionPolicyHash))
    ⟨"23503", "cohort selection policy is not registered"⟩
  refuseIf (new.outcomeResolutionPolicyHash ≠ some policy.outcomeResolutionPolicyHash ∨
      new.availabilityRuleSetHash ≠ some policy.outcomeAvailabilityRuleSetHash)
    (SqlError.mk "23000" "cohort outcome epoch differs from its selection policy")
  let manifest ← orRefuse (Jsonb.read new.canonicalManifest) castError
  let document ← orRefuse (Jsonb.read policy.canonicalPolicy) castError
  let members ← arrayElements (get (some manifest) "members")
  let targets ← members.mapM (memberTargetTime session)
  refuseIf (∃ t ∈ targets, OutsideWindow policy new.purpose t)
    (SqlError.mk "23000" "cohort target lies outside its policy purpose window")
  let bundles ← members.mapM (memberBundle pg)
  refuseIf (¬ CompleteBundles policy bundles)
    (SqlError.mk "23000" "each cohort opportunity must contain the exact selected-step bundle")
  members.forM (checkRunEvidence session policy (get (some document) "study") runs snapshots)

/-- The row that the table accepts. -/
def ManifestDraft.toRow (new : ManifestDraft) : Except SqlError (ManifestRow pg) := do
  let selectionPolicyHash ← notNull new.selectionPolicyHash
  let outcomeResolutionPolicyHash ← notNull new.outcomeResolutionPolicyHash
  let availabilityRuleSetHash ← notNull new.availabilityRuleSetHash
  let purposeName ← notNull new.purpose
  let earliestTargetTime ← notNull new.earliestTargetTime
  let latestTargetTime ← notNull new.latestTargetTime
  let purpose ← orRefuse (Purpose.ofName purposeName) checkViolation
  let columns : ManifestColumns := {
    cohortId := new.cohortId
    selectionPolicyHash
    outcomeResolutionPolicyHash
    availabilityRuleSetHash
    purpose
    memberCount := new.memberCount
    earliestTargetTime
    latestTargetTime
    recordedAt := new.recordedAt
    creatorXid := new.creatorXid
    canonicalManifest := new.canonicalManifest }
  if h : columns.Checks pg then return ⟨columns, h⟩ else .error checkViolation

/-! ## Members -/

/-- A member as the materializer proposes it. -/
structure MemberDraft where
  cohortId : String
  forecastId : Option Uuid
  step : Option Int
  targetTime : Option Int
  opportunityHash : Option String
  outputHash : Option String
  selectionPolicyHash : String
  purpose : Purpose

/-- One round of `materialize_forecast_outcome_cohort_members`. -/
def proposeMember (session : pg.Session) (manifest : ManifestRow pg) (member : Value) :
    Except SqlError MemberDraft := do
  let invalid : SqlError := ⟨"22023", "cohort member contains an invalid scalar"⟩
  let forecastId ← castText pg.uuid invalid (getText (some member) "forecast_id")
  let step ← castText pg.smallint invalid (getText (some member) "step")
  let targetTime ← castText (pg.timestamptz session) invalid (getText (some member) "target_time")
  return {
    cohortId := manifest.cohortId
    forecastId
    step
    targetTime
    opportunityHash := getText (some member) "opportunity_hash"
    outputHash := getText (some member) "output_hash"
    selectionPolicyHash := manifest.selectionPolicyHash
    purpose := manifest.purpose }

/-- Whether a forecast of an output is the one at a step and a time. -/
def forecastAt (session : pg.Session) (castStep : String → Option Int) (step targetTime : Option Int)
    (forecast : Value) : Except SqlError Bool := do
  let ownStep ← castText castStep castError (getText (some forecast) "step")
  if ownStep.isSome && ownStep = step then
    let ownTime ← castText (pg.timestamptz session) castError (getText (some forecast) "target_time")
    return ownTime.isSome && ownTime = targetTime
  else return false

/-- The number of forecasts at a step and a time. -/
def countForecastsAt (session : pg.Session) (castStep : String → Option Int) (step targetTime : Option Int)
    (forecasts : List Value) : Except SqlError Nat := do
  return (← forecasts.mapM (forecastAt session castStep step targetTime)).count true

/-- An archived run that a member names. -/
def MemberDraft.Names (new : MemberDraft) (run : RunRow pg) : Prop :=
  some run.forecastId = new.forecastId ∧ run.originKind = .scheduledEvaluation ∧
  some run.opportunityHash = new.opportunityHash ∧ some run.outputHash = new.outputHash

instance (new : MemberDraft) (run : RunRow pg) : Decidable (new.Names run) :=
  inferInstanceAs (Decidable (_ ∧ _))

def validateForecastOutcomeCohortMember (session : pg.Session) (xid : Nat)
    (manifests : List (ManifestRow pg)) (runs : List (RunRow pg)) (new : MemberDraft) :
    Except SqlError PUnit := do
  let manifest ← orRefuse (manifests.find? fun m => decide (m.cohortId = new.cohortId)) noRows
  refuseIf (manifest.creatorXid ≠ xid)
    (SqlError.mk "55000" "cohort membership is immutable after manifest commit")
  let run ← orRefuse (runs.find? fun r => decide (new.Names r))
    ⟨"23503", "cohort member is not an exact scheduled forecast run"⟩
  let unreadable : SqlError := ⟨"23000", "scheduled forecast output cannot validate cohort member"⟩
  let output ← orRefuse (Jsonb.read run.canonicalOutput) unreadable
  let payload := get (some output) "payload"
  let matching ← ((arrayElements (get payload "forecasts")) >>= fun forecasts =>
    countForecastsAt session pg.integer new.step new.targetTime
      (forecasts.filter fun f => isObject (some f))).mapError fun _ => unreadable
  refuseIf (matching ≠ 1 ∨
      getText (get payload "provenance") "forecast_id" ≠ new.forecastId.map pg.uuidText)
    (SqlError.mk "23000" "cohort member step does not match scheduled output")

def MemberDraft.toRow (new : MemberDraft) : Except SqlError MemberRow := do
  let forecastId ← notNull new.forecastId
  let step ← notNull new.step
  let targetTime ← notNull new.targetTime
  let opportunityHash ← notNull new.opportunityHash
  let outputHash ← notNull new.outputHash
  let columns : MemberColumns := {
    cohortId := new.cohortId
    forecastId
    step
    targetTime
    opportunityHash
    outputHash
    selectionPolicyHash := new.selectionPolicyHash
    purpose := new.purpose }
  if h : columns.Checks then return ⟨columns, h⟩ else .error checkViolation

/-! ## Seals -/

def stampForecastOutcomeCohortAvailability (manifests : List (ManifestRow pg)) (members : List MemberRow)
    (clock : Int) (xid : Nat) (cohortId : String) : Except SqlError SealColumns := do
  let manifest ← orRefuse (manifests.find? fun m => decide (m.cohortId = cohortId)) noRows
  let firstTarget ← orRefuse
    ((members.filter fun m => decide (m.cohortId = cohortId)).map fun m => m.targetTime).min? noRows
  refuseIf (manifest.creatorXid = xid)
    (SqlError.mk "55000" "cohort availability requires a later transaction")
  refuseIf (firstTarget ≤ clock)
    (SqlError.mk "55000" "cohort was not committed before its first target")
  return ⟨cohortId, manifest.recordedAt, clock, xid⟩

def SealColumns.toRow (c : SealColumns) : Except SqlError SealRow :=
  if h : c.Checks then .ok ⟨c, h⟩ else .error checkViolation

end StockApi.Evidence

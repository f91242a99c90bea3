import StockApi.Bars.Tables
import StockApi.Evidence.Cohorts

/-!
# The outcome publisher

`publish_forecast_realized_outcome` and the two triggers of the outcome table. The statements of the
publisher are separate definitions, since other transactions commit between them.
-/

namespace StockApi.Evidence

open Bars Checked CivilTime Documents Jsonb JsonText Relational Text

variable {pg : Postgres}

/-! ## The stamp -/

/-- An outcome between its triggers. -/
structure OutcomeDraft where
  outcomeId : String
  outcomeResolutionPolicyHash : Option String
  availabilityRuleSetHash : Option String
  symbol : Option String
  target : Option String
  seriesBasis : Option String
  currency : Option String
  targetTime : Option Int
  resolutionCutoff : Option Int
  barTimespan : Option String
  barMultiplier : Option Int
  barObservedAt : Option Int
  barSource : Option String
  barAdjustmentBasis : Option String
  barVersionRecordedAt : Option Int
  barFetchedAt : Option Int
  barSourceAsOf : Option Int
  barAvailableAt : Option Int
  barField : Option String
  barValue : Rat
  sealedAt : Int
  canonicalEvidence : Bytes

def outcomeKeys : List String := ["format", "payload", "schema_version"]

def outcomePayloadKeys : List String :=
  ["availability_rule_set_hash", "currency", "outcome_resolution_policy_hash", "realized_value_f64",
    "resolution_cutoff", "series_basis", "source_version", "symbol", "target", "target_time"]

def sourceVersionKeys : List String :=
  ["adjustment_basis", "available_at", "fetched_at", "field", "multiplier", "observed_at", "source",
    "source_as_of", "symbol", "timespan", "value_f64", "version_recorded_at"]

def OutcomeEnvelope (document : Option Value) : Prop :=
  HasKeys document outcomeKeys ∧ getText document "format" = some "forecast-realized-outcome-v1" ∧
  isNumber (get document "schema_version") = true ∧ getText document "schema_version" = some "1"

instance (document : Option Value) : Decidable (OutcomeEnvelope document) :=
  inferInstanceAs (Decidable (_ ∧ _))

/-- The pattern `^[0-9a-f]{16}$`. -/
def IsFloatBits (s : String) : Prop := s.toList.length = 16 ∧ s.toList.all hexChar = true

instance (s : String) : Decidable (IsFloatBits s) := inferInstanceAs (Decidable (_ ∧ _))

/-- A missing value passes the patterns, as `NULL` does. -/
def SourceVersionWellFormed (payload source : Option Value) : Prop :=
  HasKeys source sourceVersionKeys ∧
  (isNumber (get source "multiplier") = true ∧ getText source "multiplier" = some "1") ∧
  (∀ bits ∈ getText source "value_f64", IsFloatBits bits) ∧
  ∀ bits ∈ getText payload "realized_value_f64", IsFloatBits bits

instance (payload source : Option Value) : Decidable (SourceVersionWellFormed payload source) :=
  inferInstanceAs (Decidable (_ ∧ _))

/-- The key of the bar that an outcome names. -/
def OutcomeDraft.barKey (new : OutcomeDraft) : Option BarKey := do
  return ⟨← new.symbol, ← new.barTimespan, ← new.barMultiplier, ← new.barObservedAt, ← new.barSource,
    ← new.barAdjustmentBasis⟩

/-- The scalars of the evidence, without what the tables decide. -/
def readOutcome (session : pg.Session) (clock : Int) (outcomeId : String) (evidence : Bytes)
    (payload source : Option Value) : Except SqlError OutcomeDraft := do
  let time := Postgres.castText (pg.timestamptz session) ⟨"22023", "outcome evidence contains an invalid scalar"⟩
  let targetTime ← time (getText payload "target_time")
  let resolutionCutoff ← time (getText payload "resolution_cutoff")
  let barMultiplier ← Postgres.castText pg.integer ⟨"22023", "outcome evidence contains an invalid scalar"⟩
    (getText source "multiplier")
  let barObservedAt ← time (getText source "observed_at")
  let barVersionRecordedAt ← time (getText source "version_recorded_at")
  let barFetchedAt ← time (getText source "fetched_at")
  let barSourceAsOf ← time (getText source "source_as_of")
  let barAvailableAt ← time (getText source "available_at")
  return {
    outcomeId
    outcomeResolutionPolicyHash := getText payload "outcome_resolution_policy_hash"
    availabilityRuleSetHash := getText payload "availability_rule_set_hash"
    symbol := getText payload "symbol"
    target := getText payload "target"
    seriesBasis := getText payload "series_basis"
    currency := getText payload "currency"
    targetTime
    resolutionCutoff
    barTimespan := getText source "timespan"
    barMultiplier
    barObservedAt
    barSource := getText source "source"
    barAdjustmentBasis := getText source "adjustment_basis"
    barVersionRecordedAt
    barFetchedAt
    barSourceAsOf
    barAvailableAt
    barField := getText source "field"
    barValue := 0
    sealedAt := clock
    canonicalEvidence := evidence }

/-- The close, the fetch time and the source time of a stored version. -/
def storedVersions (tables : BarTables) (key : BarKey) (recordedAt : Int) : List (Rat × Int × Int) :=
  ((tables.lanes.filter fun v => decide (v.key = key ∧ v.recordedAt = recordedAt)).map fun v =>
    (v.values.close, v.fetchedAt, v.asOf)).dedup

def stampForecastRealizedOutcome (session : pg.Session) (tables : BarTables) (clock : Int)
    (outcomeId : String) (evidence : Bytes) : Except SqlError OutcomeDraft := do
  refuseIf (¬ (1 ≤ evidence.length ∧ evidence.length ≤ 262144))
    (SqlError.mk "22023" "outcome evidence exceeds the storage bound")
  let document ← orRefuse (Jsonb.read evidence) ⟨"22023", "outcome evidence is not valid UTF-8 JSON"⟩
  refuseIf (¬ OutcomeEnvelope (some document))
    (SqlError.mk "22023" "outcome evidence envelope is not supported")
  let payload := get (some document) "payload"
  refuseIf (¬ HasKeys payload outcomePayloadKeys)
    (SqlError.mk "22023" "outcome evidence payload has invalid keys")
  let source := get payload "source_version"
  refuseIf (¬ SourceVersionWellFormed payload source)
    (SqlError.mk "22023" "outcome source-version evidence is malformed")
  let new ← readOutcome session clock outcomeId evidence payload source
  refuseIf (getText source "symbol" ≠ new.symbol)
    (SqlError.mk "23000" "outcome source symbol does not match payload")
  let key ← orRefuse new.barKey ⟨"23503", "outcome does not identify a stored bar version"⟩
  let recordedAt ← orRefuse new.barVersionRecordedAt
    ⟨"23503", "outcome does not identify a stored bar version"⟩
  let (close, fetchedAt, sourceAsOf) ←
    match storedVersions tables key recordedAt with
    | [] => .error ⟨"23503", "outcome does not identify a stored bar version"⟩
    | [version] => .ok version
    | _ => .error (SqlError.mk "23000" "stored bar-version evidence is inconsistent")
  refuseIf (new.barFetchedAt ≠ some fetchedAt ∨ new.barSourceAsOf ≠ some sourceAsOf ∨
      getText source "value_f64" ≠ some (pg.float8hex close) ∨
      getText payload "realized_value_f64" ≠ some (pg.float8hex close))
    (SqlError.mk "23000" "outcome value does not match its exact bar version")
  refuseIf (¬ ∃ r ∈ tables.receipts, r.key = key ∧ r.versionRecordedAt = recordedAt ∧
      some r.availableAt = new.barAvailableAt)
    (SqlError.mk "23503" "outcome does not identify a stored availability receipt")
  return { new with barValue := close }

/-! ## The cutoff policy -/

/-- The stored versions of a key with a receipt by the cutoff, and the times of the receipts. -/
def eligibleVersions (tables : BarTables) (key : BarKey) (cutoff : Int) : List (Int × Int) :=
  ((tables.lanes.filter fun v => decide (v.key = key)).map fun v => v.recordedAt).dedup.flatMap
    fun recordedAt => (tables.receipts.filter fun r =>
      decide (r.key = key ∧ r.versionRecordedAt = recordedAt ∧ r.availableAt ≤ cutoff)).map fun r =>
        (recordedAt, r.availableAt)

/-- The eligible versions that no other one is newer than. -/
def maximumVersions (eligible : List (Int × Int)) : List (Int × Int) :=
  eligible.filter fun e => decide (∀ other ∈ eligible, other.1 ≤ e.1)

def validateForecastRealizedOutcomePolicy (readCommitted fenced : Bool)
    (policies : List (OutcomePolicyRow pg)) (tables : BarTables) (clock : Int) (new : OutcomeDraft) :
    Except SqlError PUnit := do
  refuseIf (readCommitted = false)
    (SqlError.mk "55000" "outcome publication requires READ COMMITTED isolation")
  refuseIf (fenced = false)
    (SqlError.mk "55000" "outcome publication does not hold the bar-series fence")
  let policy ← orRefuse (policies.find? fun p =>
      decide (some p.policyHash = new.outcomeResolutionPolicyHash ∧
        some p.availabilityRuleSetHash = new.availabilityRuleSetHash))
    ⟨"23503", "outcome policy is not registered"⟩
  refuseIf (new.currency ≠ some "USD" ∨
      new.resolutionCutoff ≠ new.targetTime.map (· + policy.resolutionLagSeconds * 1000000) ∨
      ∃ cutoff ∈ new.resolutionCutoff, clock < cutoff)
    (SqlError.mk "23514" "outcome does not satisfy its registered cutoff policy")
  let maximum := ((do return maximumVersions (eligibleVersions tables (← new.barKey) (← new.resolutionCutoff)) :
    Option (List (Int × Int)))).getD []
  refuseIf (maximum.length ≠ 1 ∨ (maximum.countP fun e =>
      decide (some e.1 = new.barVersionRecordedAt ∧ some e.2 = new.barAvailableAt)) ≠ 1)
    (SqlError.mk "23000" "outcome source is not the unique newest cutoff-visible version")

/-- The row that the table accepts. -/
def OutcomeDraft.toRow (new : OutcomeDraft) : Except SqlError (OutcomeRow pg) := do
  let columns : OutcomeColumns := {
    outcomeId := new.outcomeId
    outcomeResolutionPolicyHash := ← Postgres.notNull new.outcomeResolutionPolicyHash
    availabilityRuleSetHash := ← Postgres.notNull new.availabilityRuleSetHash
    symbol := ← Postgres.notNull new.symbol
    target := ← Postgres.notNull new.target
    seriesBasis := ← Postgres.notNull new.seriesBasis
    currency := ← Postgres.notNull new.currency
    targetTime := ← Postgres.notNull new.targetTime
    resolutionCutoff := ← Postgres.notNull new.resolutionCutoff
    barTimespan := ← Postgres.notNull new.barTimespan
    barMultiplier := ← Postgres.notNull new.barMultiplier
    barObservedAt := ← Postgres.notNull new.barObservedAt
    barSource := ← Postgres.notNull new.barSource
    barAdjustmentBasis := ← Postgres.notNull new.barAdjustmentBasis
    barVersionRecordedAt := ← Postgres.notNull new.barVersionRecordedAt
    barFetchedAt := ← Postgres.notNull new.barFetchedAt
    barSourceAsOf := ← Postgres.notNull new.barSourceAsOf
    barAvailableAt := ← Postgres.notNull new.barAvailableAt
    barField := ← Postgres.notNull new.barField
    barValue := new.barValue
    realizedValue := new.barValue
    sealedAt := new.sealedAt
    canonicalEvidence := new.canonicalEvidence }
  if h : columns.Checks pg then return ⟨columns, h⟩ else .error checkViolation

/-! ## The arguments of the publisher -/

structure PublishCall where
  cohortId : String
  forecastId : Uuid
  step : Int
  outcomeId : String
  evidence : Bytes
deriving DecidableEq

/-- `^[0-9]{4}-[0-9]{2}-[0-9]{2}T[0-9]{2}:[0-9]{2}:[0-9]{2}\.[0-9]{6}Z$`. -/
def timestampPattern : List (Char → Bool) :=
  let d := Digits.isDigit
  let is := fun c : Char => fun x : Char => decide (x = c)
  [d, d, d, d, is '-', d, d, is '-', d, d, is 'T', d, d, is ':', d, d, is ':', d, d, is '.',
    d, d, d, d, d, d, is 'Z']

def IsTimestamp (s : String) : Prop :=
  List.Forall₂ (fun p c => p c = true) timestampPattern s.toList

instance (s : String) : Decidable (IsTimestamp s) := inferInstanceAs (Decidable (List.Forall₂ _ _ _))

/-- The canonical bytes, put together from the fields of the evidence; nothing where one is missing. -/
def expectedEvidence (payload source : Option Value) : Option (List Char) := do
  let p := fun key => (getText payload key).map String.toList
  let s := fun key => (getText source key).map String.toList
  return "\x7b\"format\":\"forecast-realized-outcome-v1\",\"payload\":".toList
    ++ "\x7b\"availability_rule_set_hash\":\"".toList ++ (← p "availability_rule_set_hash")
    ++ "\",\"currency\":\"".toList ++ (← p "currency")
    ++ "\",\"outcome_resolution_policy_hash\":\"".toList ++ (← p "outcome_resolution_policy_hash")
    ++ "\",\"realized_value_f64\":\"".toList ++ (← p "realized_value_f64")
    ++ "\",\"resolution_cutoff\":\"".toList ++ (← p "resolution_cutoff")
    ++ "\",\"series_basis\":\"".toList ++ (← p "series_basis")
    ++ "\",\"source_version\":\x7b\"adjustment_basis\":\"".toList ++ (← s "adjustment_basis")
    ++ "\",\"available_at\":\"".toList ++ (← s "available_at")
    ++ "\",\"fetched_at\":\"".toList ++ (← s "fetched_at")
    ++ "\",\"field\":\"".toList ++ (← s "field")
    ++ "\",\"multiplier\":".toList ++ (← s "multiplier")
    ++ ",\"observed_at\":\"".toList ++ (← s "observed_at")
    ++ "\",\"source\":\"".toList ++ (← s "source")
    ++ "\",\"source_as_of\":\"".toList ++ (← s "source_as_of")
    ++ "\",\"symbol\":\"".toList ++ (← s "symbol")
    ++ "\",\"timespan\":\"".toList ++ (← s "timespan")
    ++ "\",\"value_f64\":\"".toList ++ (← s "value_f64")
    ++ "\",\"version_recorded_at\":\"".toList ++ (← s "version_recorded_at")
    ++ "\"\x7d,\"symbol\":\"".toList ++ (← p "symbol")
    ++ "\",\"target\":\"".toList ++ (← p "target")
    ++ "\",\"target_time\":\"".toList ++ (← p "target_time")
    ++ "\"\x7d,\"schema_version\":1\x7d".toList

def TimestampsCanonical (payload source : Option Value) : Prop :=
  (∀ k ∈ ["resolution_cutoff", "target_time"], ∀ t ∈ getText payload k, IsTimestamp t) ∧
  ∀ k ∈ ["available_at", "fetched_at", "observed_at", "source_as_of", "version_recorded_at"],
    ∀ t ∈ getText source k, IsTimestamp t

instance (payload source : Option Value) : Decidable (TimestampsCanonical payload source) :=
  inferInstanceAs (Decidable (_ ∧ _))

/-- The publisher up to its advisory lock. -/
def checkPublishCall (readCommitted : Bool) (call : PublishCall) : Except SqlError PUnit := do
  refuseIf (¬ (IsHash call.cohortId ∧ (1 ≤ call.step ∧ call.step ≤ 252) ∧ IsHash call.outcomeId ∧
      (1 ≤ call.evidence.length ∧ call.evidence.length ≤ 262144)))
    (SqlError.mk "22023" "outcome publication input is invalid or exceeds its bound")
  refuseIf (readCommitted = false)
    (SqlError.mk "55000" "outcome publication requires READ COMMITTED isolation")
  let document ← orRefuse (Jsonb.read call.evidence)
    ⟨"22023", "outcome evidence is not valid UTF-8 JSON"⟩
  let payload := get (some document) "payload"
  let source := get payload "source_version"
  refuseIf (¬ TimestampsCanonical payload source)
    (SqlError.mk "22023" "outcome evidence timestamps are not canonical UTC values")
  refuseIf ((expectedEvidence payload source).map encode ≠ some call.evidence)
    (SqlError.mk "22023" "outcome evidence bytes are not the exact canonical form")
  refuseIf (getText payload "symbol" = some "" ∨ getText source "source" = some "" ∨
      getText source "timespan" = some "")
    (SqlError.mk "22023" "bar-series fence identity contains an empty part")

/-! ## Provenance -/

/-- The evidence tables as one statement sees them. -/
structure EvidenceTables (pg : Postgres) where
  manifests : List (ManifestRow pg)
  seals : List SealRow
  members : List MemberRow
  runs : List (RunRow pg)
  snapshots : List SnapshotRow

structure Provenance (pg : Postgres) where
  manifest : ManifestRow pg
  sealing : SealRow
  member : MemberRow
  run : RunRow pg
  snapshot : SnapshotRow

/-- The joins and the conditions of the provenance query. -/
def Provenance.Backs (p : Provenance pg) (call : PublishCall) (outcome : OutcomeRow pg) : Prop :=
  (p.sealing.cohortId = p.manifest.cohortId ∧ p.sealing.manifestRecordedAt = p.manifest.recordedAt) ∧
  p.member.cohortId = p.manifest.cohortId ∧
  (p.run.forecastId = p.member.forecastId ∧ p.run.originKind = .scheduledEvaluation ∧
    p.run.opportunityHash = p.member.opportunityHash ∧ p.run.outputHash = p.member.outputHash) ∧
  p.snapshot.snapshotId = p.run.snapshotId ∧ p.manifest.cohortId = call.cohortId ∧
  (p.member.forecastId = call.forecastId ∧ p.member.step = call.step ∧
    p.member.targetTime = outcome.targetTime) ∧
  p.sealing.sealedAt < p.member.targetTime ∧
  (p.manifest.outcomeResolutionPolicyHash = outcome.outcomeResolutionPolicyHash ∧
    p.manifest.availabilityRuleSetHash = outcome.availabilityRuleSetHash) ∧
  (p.run.symbol = outcome.symbol ∧ p.run.target = outcome.target ∧
    p.run.seriesBasis = outcome.seriesBasis) ∧
  (p.snapshot.symbol = outcome.symbol ∧ p.snapshot.target = outcome.target ∧
    p.snapshot.seriesBasis = outcome.seriesBasis ∧ p.snapshot.currency = some outcome.currency)

instance (p : Provenance pg) (call : PublishCall) (outcome : OutcomeRow pg) :
    Decidable (p.Backs call outcome) := inferInstanceAs (Decidable (_ ∧ _))

def EvidenceTables.joined (t : EvidenceTables pg) : List (Provenance pg) :=
  t.manifests.flatMap fun manifest => t.seals.flatMap fun sealing => t.members.flatMap fun member =>
    t.runs.flatMap fun run => t.snapshots.map fun snapshot =>
      ⟨manifest, sealing, member, run, snapshot⟩

def provenanceRows (t : EvidenceTables pg) (call : PublishCall) (outcome : OutcomeRow pg) :
    List (Provenance pg) := t.joined.filter fun p => decide (p.Backs call outcome)

/-- The documents of the run and of its snapshot against the outcome. -/
def DocumentsBack (call : PublishCall) (outcome : OutcomeRow pg) (p : Provenance pg)
    (output snapshot : Option Value) : Prop :=
  let payload := get output "payload"
  let provenance := get payload "provenance"
  (getText output "format" = some "forecast-run-output-v1" ∧
    getText output "schema_version" = some "1" ∧ getText payload "symbol" = some outcome.symbol ∧
    getText payload "target" = some outcome.target ∧
    getText payload "currency" = some outcome.currency ∧
    getText provenance "series_basis" = some outcome.seriesBasis ∧
    getText provenance "forecast_id" = some (pg.uuidText call.forecastId) ∧
    getText provenance "snapshot_id" = some p.run.snapshotId ∧
    getText provenance "feature_set_hash" = some p.run.featureSetHash ∧
    isArray (get payload "forecasts") = true) ∧
  (getText snapshot "format" = some "forecast-input-snapshot-v1" ∧
    getText snapshot "symbol" = some outcome.symbol ∧
    getText snapshot "target" = some outcome.target ∧
    getText snapshot "series_basis" = some outcome.seriesBasis ∧
    getText snapshot "currency" = some outcome.currency ∧
    isArray (get snapshot "target_times") = true ∧
    call.step ≤ (elements (get snapshot "target_times")).length)

instance (call : PublishCall) (outcome : OutcomeRow pg) (p : Provenance pg)
    (output snapshot : Option Value) : Decidable (DocumentsBack call outcome p output snapshot) :=
  inferInstanceAs (Decidable (_ ∧ _))

/-- The provenance of a publication: the joined row, and its documents. -/
def checkProvenance (session : pg.Session) (t : EvidenceTables pg) (call : PublishCall)
    (outcome : OutcomeRow pg) : Except SqlError (Provenance pg) := do
  let p ←
    match provenanceRows t call outcome with
    | [] => .error ⟨"23503", "outcome publication is not backed by an exact sealed cohort member"⟩
    | [p] => .ok p
    | _ => .error (SqlError.mk "23000" "outcome publication provenance is ambiguous")
  let invalid : SqlError := ⟨"23000", "outcome publication provenance is invalid"⟩
  let output ← orRefuse (Jsonb.read p.run.canonicalOutput) invalid
  let snapshot ← orRefuse (Jsonb.read p.snapshot.canonicalPayload) invalid
  let differs : SqlError :=
    ⟨"23000", "outcome publication does not match its forecast and snapshot provenance"⟩
  refuseIf (¬ DocumentsBack call outcome p (some output) (some snapshot)) differs
  let matching ← countForecastsAt session pg.smallint (some call.step) (some outcome.targetTime)
    (elements (get (get (some output) "payload") "forecasts"))
  refuseIf (matching ≠ 1) differs
  let listed ← Postgres.castText (pg.timestamptz session) Postgres.castError
    (getIndexText (get (some snapshot) "target_times") (call.step - 1))
  refuseIf (listed ≠ some outcome.targetTime) differs
  return p

end StockApi.Evidence

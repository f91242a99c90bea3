import StockApi.Bars.PointInTime
import StockApi.Forecasts.Fields
import StockApi.Library.FloatValue
import StockApi.Snapshots.History
import StockApi.Snapshots.Table

/-!
# The snapshot builder

`ForecastSnapshotBuilder.build` between the bar tables and the snapshot table. A build either stores a
new snapshot or reconstructs the one that occupies its semantic key and compares the bytes.
-/

namespace StockApi.Snapshots.Builder

open Checked CivilTime SessionCalendar Documents Relational Text
open Bars (SnapshotBuildSpec SpecArgument SpecError SymbolText)
open Forecasts (TextRules)

inductive BuildError where
  | build (message : String)
  | outsideUniverse (symbol : String)
  | misconfigured (message : String)
  | verification (error : SnapshotBuildError)
  | semanticConflict (message : String)
  | validation (message : String)
  | valueError (message : String)
  | multipleResults
  | sql (error : SqlError)
deriving DecidableEq

/-- The exceptions that derive from `SnapshotBuildError`; those of the calendar do not. -/
def BuildError.isSnapshotBuildError : BuildError → Bool
  | .build _ | .outsideUniverse _ | .misconfigured _ | .semanticConflict _ => true
  | .verification (.calendar _) => false
  | .verification _ => true
  | .validation _ | .valueError _ | .multipleResults | .sql _ => false

/-- What the builder calls: the text functions and the calendars, with the versions of the packages. -/
structure BuildRuntime where
  rules : TextRules
  floats : FloatText
  sha256 : Bytes → String
  calendars : String → Option Calendar
  calendarVersion : String
  tzdataVersion : String
  pandasVersion : String

structure ForecastSnapshotBuildPolicy extends Bars.ForecastSnapshotBuildPolicy where
  calendarName : String := "XNYS"

/-- `DEFAULT_SNAPSHOT_BUILD_POLICY`. -/
def defaultSnapshotBuildPolicy : ForecastSnapshotBuildPolicy := {}

/-- The part of a policy that the verification of the rows reads. -/
def ForecastSnapshotBuildPolicy.verified (policy : ForecastSnapshotBuildPolicy) :
    Snapshots.ForecastSnapshotBuildPolicy :=
  ⟨policy.source, policy.inputTimespan, policy.inputMultiplier, policy.seriesBasis,
    policy.minimumObservations, policy.targetTimeCount⟩

/-- A validated specification as an argument of a further call. -/
def argument (spec : SnapshotBuildSpec) : SpecArgument :=
  ⟨spec.symbol, spec.target, spec.horizonUnit, spec.asOf.inUtc⟩

/-! ## Policy identities -/

/-- `AVAILABILITY_RULE_SET_DOCUMENT`. -/
def availabilityRuleSetDocument : Document :=
  .obj [("format", .plain "forecast-snapshot-availability-rules-v1"),
    ("rules", .arr ([
      "exact_source_key",
      "post_commit_receipt_for_exact_bar_version",
      "newest_finalized_exact_version_per_bar_at_cutoff",
      "observed_at<=session_close<=fetched_at<=source_as_of<=recorded_at<=post_commit_available_at<=cutoff",
      "finite_nonnegative_raw_close",
      "xnys_session_label",
      "source_fetch_not_before_regular_session_close",
      "newest_contiguous_finalized_suffix_through_completed_session",
      "newest_completed_session_present",
      "db_clock_checked_at_not_before_cutoff"].map .plain)),
    ("version_visibility", .obj [
      ("legacy_or_unfinalized_version", .plain "not_visible"),
      ("receipt_order", .plain "irrelevant_to_version_selection"),
      ("same_transaction_receipt", .plain "rejected_by_database"),
      ("selection", .plain
        "maximum version_recorded_at whose exact-version receipt.available_at<=cutoff")])]

section Runtime

variable (runtime : BuildRuntime)

/-- `_hash_document` of a document whose keys are in order. -/
def hashDocument (document : Document) : String :=
  "sha256:" ++ runtime.sha256 (dumps runtime.floats document)

/-- `DEFAULT_AVAILABILITY_RULE_SET_HASH`. -/
def availabilityRuleSetHash : String := hashDocument runtime availabilityRuleSetDocument

def resolutionPolicyDocument (policy : ForecastSnapshotBuildPolicy) : Document :=
  .obj [("availability_rule_set_hash", .plain (availabilityRuleSetHash runtime)),
    ("calendar", .obj [
      ("engine", .plain "exchange_calendars"),
      ("engine_version", .plain "4.13.2"),
      ("name", .plain policy.calendarName),
      ("pandas_version", .plain runtime.pandasVersion),
      ("schedule_end", .plain "2100-12-31"),
      ("schedule_start", .plain "1990-01-01"),
      ("target_timestamp", .plain "session_close_utc"),
      ("tzdata_version", .plain runtime.tzdataVersion)]),
    ("currency", .obj [
      ("resolver", .plain "fixed_us_equity_universe_v1"),
      ("value", .plain policy.currency)]),
    ("cutoff", .obj [
      ("admissible", .plain "operator_selected_utc_instant_not_after_database_clock"),
      ("scheduled_default", .plain "most_recent_daily_17:00:00Z")]),
    ("format", .plain "forecast-snapshot-resolution-policy-v1"),
    ("horizon_units", .arr [.plain "trading_day"]),
    ("input", .obj [
      ("adjustment_basis", .plain policy.seriesBasis),
      ("field", .plain "close"),
      ("multiplier", .int policy.inputMultiplier),
      ("provider_endpoint", .plain "/v1/open-close/\x7bticker\x7d/\x7bdate\x7d?adjusted=false"),
      ("provider_semantics", .plain
        "regular_session_close; preMarket and afterHours are separate fields"),
      ("source", .plain policy.source),
      ("timespan", .plain policy.inputTimespan)]),
    ("minimum_observations", .int policy.minimumObservations),
    ("observation_limit", .int policy.observationLimit),
    ("symbols", .arr (policy.allowedSymbols.map .plain)),
    ("target_time_count", .int policy.targetTimeCount),
    ("targets", .obj [("close", .obj [
      ("series_basis", .plain policy.seriesBasis),
      ("transform", .plain "identity")])])]

def resolutionPolicyHash (policy : ForecastSnapshotBuildPolicy) : String :=
  hashDocument runtime (resolutionPolicyDocument runtime policy)

def validateConfiguredHashes (policy : ForecastSnapshotBuildPolicy) (configuredPolicyHash : Option String)
    (configuredRuleSetHash : Option String) : Except BuildError PUnit := do
  refuseIf (configuredPolicyHash ≠ some (resolutionPolicyHash runtime policy))
    (BuildError.misconfigured "configured resolution-policy hash does not match the snapshot builder")
  refuseIf (configuredRuleSetHash ≠ some (availabilityRuleSetHash runtime))
    (BuildError.misconfigured "configured availability rule-set hash does not match the snapshot builder")

/-! ## The payload -/

def BuildError.ofSpec : SpecError → BuildError
  | .outsideUniverse symbol => .outsideUniverse symbol
  | .build message => .build message
  | .availability message => .verification (.availability message)

def BuildRuntime.symbolText (runtime : BuildRuntime) : SymbolText := ⟨runtime.rules.strip, runtime.rules.upper⟩

def validateSpec (policy : ForecastSnapshotBuildPolicy) (spec : SpecArgument) :
    Except BuildError SnapshotBuildSpec :=
  (policy.toForecastSnapshotBuildPolicy.validateSpec runtime.symbolText spec).mapError .ofSpec

/-- `_calendar`. -/
def calendarOf (policy : ForecastSnapshotBuildPolicy) : Except BuildError Calendar := do
  refuseIf (runtime.calendarVersion ≠ "4.13.2")
    (BuildError.misconfigured "exchange_calendars version differs from the hashed resolution policy")
  orRefuse (runtime.calendars policy.calendarName)
    (BuildError.misconfigured "the pinned exchange calendar is unavailable")

def versionDocument (row : PointInTimeBar) : Document :=
  .obj [("available_at", timeDocument row.availableAt), ("close_f64", .plain row.close.hex),
    ("fetched_at", timeDocument row.fetchedAt), ("observed_at", timeDocument row.observedAt),
    ("recorded_at", timeDocument row.recordedAt), ("source_as_of", timeDocument row.sourceAsOf)]

/-- `_source_snapshot_id`. -/
def sourceSnapshotId (rows : List PointInTimeBar) (spec : SnapshotBuildSpec)
    (policy : ForecastSnapshotBuildPolicy) : String :=
  hashDocument runtime (.obj [("format", .plain "forecast-source-bar-manifest-v1"),
    ("selector", .obj [
      ("adjustment_basis", .plain policy.seriesBasis),
      ("cutoff", timeDocument spec.asOf),
      ("field", .plain "close"),
      ("multiplier", .int policy.inputMultiplier),
      ("source", .plain policy.source),
      ("symbol", .plain spec.symbol),
      ("timespan", .plain policy.inputTimespan)]),
    ("versions", .arr (rows.map versionDocument))])

/-- The payload of verified rows. -/
def payloadOf (spec : SnapshotBuildSpec) (checkedAt : Instant) (policy : ForecastSnapshotBuildPolicy)
    (ordered : List PointInTimeBar) (targetTimes : List Instant) (maxAvailableAt : Instant) :
    ForecastInputSnapshotPayload Instant where
  resolutionPolicyHash := resolutionPolicyHash runtime policy
  symbol := spec.symbol
  target := spec.target
  horizonUnit := spec.horizonUnit
  seriesBasis := policy.seriesBasis
  inputTimespan := policy.inputTimespan
  inputMultiplier := policy.inputMultiplier
  currency := some policy.currency
  schemaVersion := 1
  asOf := spec.asOf
  observations := ordered.map fun row => ⟨row.observedAt, row.availableAt, row.close⟩
  targetTimes := targetTimes
  dataSources := [⟨policy.source, sourceSnapshotId runtime ordered spec policy, maxAvailableAt, ["close"]⟩]
  availability := ⟨"passed", some (availabilityRuleSetHash runtime), some checkedAt⟩

def assembleVerifiedSnapshotPayload (rows : List PointInTimeBar) (spec : SpecArgument)
    (checkedAt : Instant) (policy : ForecastSnapshotBuildPolicy) :
    Except BuildError (ForecastInputSnapshotPayload Instant) := do
  let spec ← validateSpec runtime policy spec
  refuseIf (checkedAt < spec.asOf)
    (BuildError.verification (.availability "availability check predates the snapshot cutoff"))
  let calendar ← calendarOf runtime policy
  let ordered ← (verifyAndOrderBars calendar rows spec policy.verified).mapError .verification
  let closes ← (targetTimes spec.asOf policy.verified calendar).mapError .verification
  let maxAvailableAt ← orRefuse (ordered.map PointInTimeBar.availableAt).max?
    (BuildError.valueError "max() iterable argument is empty")
  return payloadOf runtime spec checkedAt policy ordered closes maxAvailableAt

/-! ## Rows of the tables -/

/-- A timestamp of the database as a datetime. -/
def datetime (micros : Int) : Except BuildError Instant :=
  orRefuse (Instant.ofMicros micros) (BuildError.valueError "date value out of range")

/-- `PointInTimeBar(**dict(row))`. -/
def pointInTimeBar (row : Bars.Visible Bars.CloseVersion) : Except BuildError PointInTimeBar := do
  let observedAt ← datetime row.version.key.ts
  let fetchedAt ← datetime row.version.fetchedAt
  let sourceAsOf ← datetime row.version.sourceAsOf
  let recordedAt ← datetime row.version.recordedAt
  let availableAt ← datetime row.availableAt
  return {
    symbol := row.version.key.symbol
    timespan := row.version.key.timespan
    multiplier := row.version.key.multiplier
    source := row.version.key.source
    adjustmentBasis := row.version.key.adjustmentBasis
    close := Float64.ofValue row.version.close
    activeVersionCount := 1
    observedAt, fetchedAt, sourceAsOf, recordedAt, availableAt }

/-- `build_point_in_time_bars_statement`, executed. -/
def pointInTimeRows (spec : SpecArgument) (policy : ForecastSnapshotBuildPolicy) (tables : Bars.BarTables) :
    Except BuildError (List PointInTimeBar) := do
  let rows ← (Bars.pointInTimeBars runtime.symbolText spec policy.toForecastSnapshotBuildPolicy tables).mapError
    .ofSpec
  rows.mapM pointInTimeBar

/-- The checks of `_validate_existing_record` whose failure is a `SnapshotValidationError`. -/
def checkExistingRecord (record : ForecastInputSnapshot) :
    Except String (ForecastInputSnapshotPayload Instant) := do
  let payload ← parseSnapshotPayload runtime.rules.toNormalForm runtime.floats record.canonicalPayload
  let canonical ← canonicalSnapshotPayload runtime.rules.toNormalForm runtime.floats payload.inUtc
  refuseIf (canonical ≠ record.canonicalPayload) "payload bytes are not canonical"
  let snapshotId ← snapshotIdForPayload runtime.sha256 record.canonicalPayload
  refuseIf (snapshotId ≠ record.snapshotId) "payload hash does not match snapshot_id"
  let rebuilt ← buildSnapshotRecord runtime.rules.toNormalForm runtime.floats runtime.sha256 payload.inUtc
    record.sealedAt.inUtc
  refuseIf (rebuilt ≠ record) "snapshot header does not match its payload"
  return payload

/-- A payload that the policy would have made of the specification. -/
def FitsPolicy (spec : SnapshotBuildSpec) (policy : ForecastSnapshotBuildPolicy)
    (payload : ForecastInputSnapshotPayload Instant) : Prop :=
  payload.resolutionPolicyHash = resolutionPolicyHash runtime policy ∧ payload.symbol = spec.symbol ∧
  payload.target = spec.target ∧ payload.horizonUnit = spec.horizonUnit ∧
  payload.seriesBasis = policy.seriesBasis ∧ payload.inputTimespan = policy.inputTimespan ∧
  payload.inputMultiplier = policy.inputMultiplier ∧ payload.asOf = spec.asOf ∧
  payload.currency = some policy.currency ∧ payload.availability.status = "passed" ∧
  payload.availability.ruleSetHash = some (availabilityRuleSetHash runtime) ∧
  payload.availability.checkedAt ≠ none

instance (spec : SnapshotBuildSpec) (policy : ForecastSnapshotBuildPolicy)
    (payload : ForecastInputSnapshotPayload Instant) : Decidable (FitsPolicy runtime spec policy payload) :=
  inferInstanceAs (Decidable (_ ∧ _))

/-- `_validate_existing_record`, with the time of the proof. -/
def validateExistingRecord (record : ForecastInputSnapshot) (spec : SnapshotBuildSpec)
    (policy : ForecastSnapshotBuildPolicy) : Except BuildError Instant := do
  let payload ← (checkExistingRecord runtime record).mapError fun _ =>
    .semanticConflict "existing semantic snapshot is invalid"
  refuseIf (¬ FitsPolicy runtime spec policy payload)
    (BuildError.semanticConflict "existing snapshot conflicts with the builder policy")
  orRefuse payload.availability.checkedAt
    (BuildError.semanticConflict "existing snapshot conflicts with the builder policy")

/-- `scalar_one_or_none`. -/
def scalarOneOrNone {α : Type} : List α → Except BuildError (Option α)
  | [] => .ok none
  | [row] => .ok (some row)
  | _ => .error .multipleResults

/-- The key columns that `_semantic_statement` compares. -/
def semanticKey (spec : SnapshotBuildSpec) (policy : ForecastSnapshotBuildPolicy) : SemanticKey :=
  ⟨1, resolutionPolicyHash runtime policy, spec.symbol, spec.target, spec.horizonUnit, policy.seriesBasis,
    policy.inputTimespan, policy.inputMultiplier, spec.asOf⟩

/-- `_semantic_statement`, executed. -/
def existingSnapshot (spec : SnapshotBuildSpec) (policy : ForecastSnapshotBuildPolicy)
    (snapshots : List ForecastInputSnapshot) : Except BuildError (Option ForecastInputSnapshot) :=
  scalarOneOrNone (snapshots.filter fun row => decide (row.semanticKey = semanticKey runtime spec policy))

/-! ## The build -/

structure SnapshotBuildResult where
  snapshotId : String
  asOf : Instant
  availabilityCheckedAt : Instant
  observationCount : Int
  targetTimeCount : Int
  created : Bool
deriving DecidableEq

/-- The tables that a build reads and writes. -/
structure SnapshotStore where
  archive : Bars.Archive
  snapshots : List ForecastInputSnapshot

/-- The readings of the database clock in one build: before the lookup, before the verification and in
the trigger. -/
structure ClockReadings where
  databaseNow : Instant
  checkedAt : Instant
  sealedAt : Instant

/-- `except SnapshotBuildError` around the reconstruction. -/
def asConflict {α : Type} : Except BuildError α → Except BuildError α
  | .ok a => .ok a
  | .error e =>
    if e.isSnapshotBuildError = true then
      .error (.semanticConflict "existing snapshot cannot be reproduced from finalized source versions")
    else .error e

/-- The branch of `build` for a snapshot that exists. -/
def replaySnapshot (policy : ForecastSnapshotBuildPolicy) (spec : SnapshotBuildSpec)
    (record : ForecastInputSnapshot) (tables : Bars.BarTables) : Except BuildError SnapshotBuildResult := do
  let checkedAt ← validateExistingRecord runtime record spec policy
  let rows ← pointInTimeRows runtime (argument spec) policy tables
  let reconstructed ← asConflict (assembleVerifiedSnapshotPayload runtime rows (argument spec) checkedAt policy)
  let canonical ← (canonicalSnapshotPayload runtime.rules.toNormalForm runtime.floats
    reconstructed.inUtc).mapError .validation
  refuseIf (canonical ≠ record.canonicalPayload)
    (BuildError.semanticConflict "existing snapshot bytes differ from reconstructed policy inputs")
  return ⟨record.snapshotId, spec.asOf, checkedAt, record.observationCount, record.targetTimeCount, false⟩

/-- The branch of `build` that stores a new snapshot. -/
def createSnapshot (policy : ForecastSnapshotBuildPolicy) (spec : SnapshotBuildSpec) (clock : ClockReadings)
    (store : SnapshotStore) : Except BuildError (SnapshotBuildResult × SnapshotStore) := do
  let rows ← pointInTimeRows runtime (argument spec) policy store.archive.tables
  let payload ← assembleVerifiedSnapshotPayload runtime rows (argument spec) clock.checkedAt policy
  let record ← (buildSnapshotRecord runtime.rules.toNormalForm runtime.floats runtime.sha256 payload.inUtc
    clock.checkedAt.inUtc).mapError .validation
  let (persisted, snapshots) ← (insertSnapshot runtime.sha256 clock.sealedAt record store.snapshots).mapError .sql
  let checkedAt ← validateExistingRecord runtime persisted spec policy
  return (⟨persisted.snapshotId, spec.asOf, checkedAt, persisted.observationCount, persisted.targetTimeCount,
    true⟩, { store with snapshots })

/-- `ForecastSnapshotBuilder.build`, under its locks. -/
def build (policy : ForecastSnapshotBuildPolicy) (spec : SpecArgument) (clock : ClockReadings)
    (store : SnapshotStore) : Except BuildError (SnapshotBuildResult × SnapshotStore) := do
  let spec ← validateSpec runtime policy spec
  refuseIf (clock.databaseNow < spec.asOf)
    (BuildError.verification (.availability "snapshot cutoff is later than the database clock"))
  match ← existingSnapshot runtime spec policy store.snapshots with
  | some record => do
    let result ← replaySnapshot runtime policy spec record store.archive.tables
    return (result, store)
  | none => createSnapshot runtime policy spec clock store

end Runtime

/-! ## What a build does -/

section Spec

variable {runtime : BuildRuntime} {policy : ForecastSnapshotBuildPolicy}

theorem validateSpec_eq_ok_iff {arg : SpecArgument} {spec : SnapshotBuildSpec} :
    validateSpec runtime policy arg = .ok spec ↔
      runtime.rules.upper (runtime.rules.strip arg.symbol) = spec.symbol ∧
      spec.symbol ∈ policy.allowedSymbols ∧ (arg.target = "close" ∧ spec.target = "close") ∧
      (arg.horizonUnit = "trading_day" ∧ spec.horizonUnit = "trading_day") ∧
      arg.asOf.toInstant = some spec.asOf := by
  rw [validateSpec, mapError_eq_ok_iff]
  exact Bars.validateSpec_eq_ok_iff

theorem pointInTimeRows_of_spec {arg : SpecArgument} {spec : SnapshotBuildSpec}
    (h : validateSpec runtime policy arg = .ok spec) (tables : Bars.BarTables) :
    pointInTimeRows runtime arg policy tables =
      (Bars.limitedBarVersions spec policy.toForecastSnapshotBuildPolicy tables).mapM pointInTimeBar := by
  rw [pointInTimeRows, Bars.pointInTimeBars_of_valid (mapError_eq_ok_iff.mp h)]
  rfl

theorem pointInTimeRows_eq_ok {arg : SpecArgument} {tables : Bars.BarTables} {rows : List PointInTimeBar}
    (h : pointInTimeRows runtime arg policy tables = .ok rows) : ∃ spec,
      validateSpec runtime policy arg = .ok spec ∧
      (Bars.limitedBarVersions spec policy.toForecastSnapshotBuildPolicy tables).mapM pointInTimeBar = .ok rows := by
  have hRows := h
  rw [pointInTimeRows, bind_eq_ok_iff] at h
  obtain ⟨versions, hVersions, -⟩ := h
  rw [mapError_eq_ok_iff, Bars.pointInTimeBars, bind_eq_ok_iff] at hVersions
  obtain ⟨spec, hSpec, -⟩ := hVersions
  have hSpec : validateSpec runtime policy arg = .ok spec := mapError_eq_ok_iff.mpr hSpec
  exact ⟨spec, hSpec, by rw [← pointInTimeRows_of_spec hSpec, hRows]⟩

/-- A validated specification is validated as itself. -/
theorem validateSpec_argument {arg : SpecArgument} {spec : SnapshotBuildSpec}
    (h : validateSpec runtime policy arg = .ok spec) :
    validateSpec runtime policy (argument spec) = .ok spec := by
  obtain ⟨hUpper, hSymbol, ⟨-, hTarget⟩, ⟨-, hUnit⟩, -⟩ := validateSpec_eq_ok_iff.mp h
  refine validateSpec_eq_ok_iff.mpr
    ⟨?_, hSymbol, ⟨hTarget, hTarget⟩, ⟨hUnit, hUnit⟩, Instant.toInstant_inUtc _⟩
  rw [argument, ← hUpper, runtime.rules.strip_upper _ (runtime.rules.strip_strip _), runtime.rules.upper_upper]

end Spec

/-! ## The two branches -/

/-- A stored row from which a build of the specification reconstructs the same bytes. -/
structure Sealed (runtime : BuildRuntime) (policy : ForecastSnapshotBuildPolicy) (spec : SnapshotBuildSpec)
    (tables : Bars.BarTables) (row : ForecastInputSnapshot) (checkedAt : Instant) : Prop where
  valid : validateExistingRecord runtime row spec policy = .ok checkedAt
  rebuilt : ∃ rows payload, pointInTimeRows runtime (argument spec) policy tables = .ok rows ∧
    assembleVerifiedSnapshotPayload runtime rows (argument spec) checkedAt policy = .ok payload ∧
    canonicalSnapshotPayload runtime.rules.toNormalForm runtime.floats payload.inUtc = .ok row.canonicalPayload

/-- What a build of a stored row returns. -/
def resultOf (spec : SnapshotBuildSpec) (row : ForecastInputSnapshot) (checkedAt : Instant) (created : Bool) :
    SnapshotBuildResult :=
  ⟨row.snapshotId, spec.asOf, checkedAt, row.observationCount, row.targetTimeCount, created⟩

section Branches

variable {runtime : BuildRuntime} {policy : ForecastSnapshotBuildPolicy} {spec : SnapshotBuildSpec}

theorem asConflict_eq_ok_iff {α : Type} {x : Except BuildError α} {a : α} : asConflict x = .ok a ↔ x = .ok a := by
  cases x with
  | ok b => rfl
  | error e =>
    rw [asConflict]
    split_ifs <;> simp

theorem replaySnapshot_eq_ok_iff {row : ForecastInputSnapshot} {tables : Bars.BarTables}
    {result : SnapshotBuildResult} :
    replaySnapshot runtime policy spec row tables = .ok result ↔
      ∃ checkedAt, Sealed runtime policy spec tables row checkedAt ∧
        result = resultOf spec row checkedAt false := by
  rw [replaySnapshot, bind_eq_ok_iff]
  refine exists_congr fun checkedAt => ?_
  constructor
  · rintro ⟨hValid, h⟩
    rw [bind_eq_ok_iff] at h
    obtain ⟨rows, hRows, h⟩ := h
    rw [bind_eq_ok_iff] at h
    obtain ⟨payload, hPayload, h⟩ := h
    rw [bind_eq_ok_iff] at h
    obtain ⟨canonical, hCanonical, h⟩ := h
    rw [refuseIf_bind_eq_ok_iff, not_not, pure_eq_ok] at h
    obtain ⟨rfl, h⟩ := h
    cases h
    exact ⟨⟨hValid, rows, payload, hRows, asConflict_eq_ok_iff.mp hPayload, mapError_eq_ok_iff.mp hCanonical⟩, rfl⟩
  · rintro ⟨⟨hValid, rows, payload, hRows, hPayload, hCanonical⟩, rfl⟩
    refine ⟨hValid, ?_⟩
    rw [hRows, ok_bind, asConflict_eq_ok_iff.mpr hPayload, ok_bind, mapError_eq_ok_iff.mpr hCanonical, ok_bind,
      refuseIf_of_not (not_not.mpr rfl), ok_bind]
    rfl

theorem checkExistingRecord_eq_ok {row : ForecastInputSnapshot} {q : ForecastInputSnapshotPayload Instant}
    (h : checkExistingRecord runtime row = .ok q) :
    parseSnapshotPayload runtime.rules.toNormalForm runtime.floats row.canonicalPayload = .ok q ∧
    canonicalSnapshotPayload runtime.rules.toNormalForm runtime.floats q.inUtc = .ok row.canonicalPayload ∧
    buildSnapshotRecord runtime.rules.toNormalForm runtime.floats runtime.sha256 q.inUtc row.sealedAt.inUtc =
      .ok row := by
  rw [checkExistingRecord, bind_eq_ok_iff] at h
  obtain ⟨payload, hParsed, h⟩ := h
  rw [bind_eq_ok_iff] at h
  obtain ⟨canonical, hCanonical, h⟩ := h
  rw [refuseIf_bind_eq_ok_iff, not_not, bind_eq_ok_iff] at h
  obtain ⟨rfl, snapshotId, hId, h⟩ := h
  rw [refuseIf_bind_eq_ok_iff, not_not, bind_eq_ok_iff] at h
  obtain ⟨-, rebuilt, hRebuilt, h⟩ := h
  rw [refuseIf_bind_eq_ok_iff, not_not, pure_eq_ok] at h
  obtain ⟨rfl, h⟩ := h
  cases h
  exact ⟨hParsed, hCanonical, hRebuilt⟩

/-- What is parsed is a normal form. -/
theorem normalizes_of_parsed {form : NormalForm} {floats : FloatText} {bytes : Bytes}
    {q : ForecastInputSnapshotPayload Instant} (h : parseSnapshotPayload form floats bytes = .ok q) :
    ∃ p, Normalizes form p q := by
  rw [parseSnapshotPayload, refuseIf_bind_eq_ok_iff, bind_eq_ok_iff] at h
  obtain ⟨-, document, -, h⟩ := h
  rw [bind_eq_ok_iff] at h
  obtain ⟨read, -, h⟩ := h
  exact ⟨read.inUtc, normalizedPayload_eq_ok_iff.mp h⟩

/-- What the validation of a stored row establishes. -/
theorem validateExistingRecord_eq_ok_iff {row : ForecastInputSnapshot} {checkedAt : Instant} :
    validateExistingRecord runtime row spec policy = .ok checkedAt ↔
      ∃ q, checkExistingRecord runtime row = .ok q ∧ FitsPolicy runtime spec policy q ∧
        q.availability.checkedAt = some checkedAt := by
  rw [validateExistingRecord, bind_eq_ok_iff]
  simp only [mapError_eq_ok_iff, refuseIf_bind_eq_ok_iff, not_not, orRefuse_eq_ok_iff]

/-- A validated row occupies the semantic key of the specification. -/
theorem semanticKey_of_valid {row : ForecastInputSnapshot} {checkedAt : Instant}
    (h : validateExistingRecord runtime row spec policy = .ok checkedAt) :
    row.semanticKey = semanticKey runtime spec policy := by
  obtain ⟨q, hRecord, hFits, -⟩ := validateExistingRecord_eq_ok_iff.mp h
  obtain ⟨hParsed, -, hBuilt⟩ := checkExistingRecord_eq_ok hRecord
  obtain ⟨q', hNormal, -, -, -, -, d⟩ := buildSnapshotRecord_eq_ok_iff.mp hBuilt
  obtain ⟨p, hp⟩ := normalizes_of_parsed hParsed
  obtain rfl := (hp.again_iff.mp hNormal).2
  obtain ⟨hHash, hSymbol, hTarget, hUnit, hBasis, hTimespan, hMultiplier, hAsOf, -⟩ := hFits
  have hVersion := hNormal.termsValid.version
  rw [ForecastInputSnapshotRecord.semanticKey, d.terms, d.asOf, SnapshotTerms.semanticKey, semanticKey, hVersion,
    hHash, hSymbol, hTarget, hUnit, hBasis, hTimespan, hMultiplier, hAsOf]

theorem assembleVerifiedSnapshotPayload_eq_ok_iff {rows : List PointInTimeBar} {arg : SpecArgument}
    {checkedAt : Instant} {payload : ForecastInputSnapshotPayload Instant} :
    assembleVerifiedSnapshotPayload runtime rows arg checkedAt policy = .ok payload ↔
      ∃ spec, validateSpec runtime policy arg = .ok spec ∧ spec.asOf ≤ checkedAt ∧
        ∃ calendar, calendarOf runtime policy = .ok calendar ∧
          ∃ ordered, verifyAndOrderBars calendar rows spec policy.verified = .ok ordered ∧
            ∃ closes, targetTimes spec.asOf policy.verified calendar = .ok closes ∧
              ∃ latest, (ordered.map PointInTimeBar.availableAt).max? = some latest ∧
                payload = payloadOf runtime spec checkedAt policy ordered closes latest := by
  rw [assembleVerifiedSnapshotPayload]
  simp only [bind_eq_ok_iff, refuseIf_eq_ok_iff, not_lt, mapError_eq_ok_iff, orRefuse_eq_ok_iff, pure_eq_ok,
    Except.ok.injEq, exists_and_left, exists_const, eq_comm (a := payload)]

/-- The bytes of a record are those of the payload it was built from. -/
theorem canonical_of_built {form : NormalForm} {floats : FloatText} {sha256 : Bytes → String}
    {p : ForecastInputSnapshotPayload ParsedDateTime} {sealedAt : ParsedDateTime} {record : ForecastInputSnapshot}
    (built : buildSnapshotRecord form floats sha256 p sealedAt = .ok record) :
    canonicalSnapshotPayload form floats p = .ok record.canonicalPayload := by
  obtain ⟨q, hNormal, -, -, -, hBytes, -⟩ := buildSnapshotRecord_eq_ok_iff.mp built
  obtain ⟨q', hAgain, hDumps, hSize⟩ := canonicalSnapshotPayload_eq_ok_iff.mp hBytes
  obtain rfl := (hNormal.again_iff.mp hAgain).2
  exact canonicalSnapshotPayload_eq_ok_iff.mpr ⟨q', hNormal, hDumps, hSize⟩

/-- The time of the proof is kept by the normalization. -/
theorem checkedAt_of_normalizes {form : NormalForm} {p q : ForecastInputSnapshotPayload Instant}
    (h : Normalizes form p.inUtc q) : q.availability.checkedAt = p.availability.checkedAt := by
  have hProved := congrArg SnapshotAvailabilityEvidence.checkedAt h.proved
  simp only [ForecastInputSnapshotPayload.inUtc, ForecastInputSnapshotPayload.map,
    SnapshotAvailabilityEvidence.map, Option.map_map, Function.comp_def, Instant.toInstant_inUtc] at hProved
  cases hp : p.availability.checkedAt <;> cases hq : q.availability.checkedAt <;> simp_all

theorem createSnapshot_eq_ok {clock : ClockReadings} {store store' : SnapshotStore} {result : SnapshotBuildResult}
    (h : createSnapshot runtime policy spec clock store = .ok (result, store')) :
    ∃ record row, store'.archive = store.archive ∧
      insertSnapshot runtime.sha256 clock.sealedAt record store.snapshots = .ok (row, store'.snapshots) ∧
      Sealed runtime policy spec store.archive.tables row clock.checkedAt ∧
      result = resultOf spec row clock.checkedAt true := by
  rw [createSnapshot, bind_eq_ok_iff] at h
  obtain ⟨rows, hRows, h⟩ := h
  rw [bind_eq_ok_iff] at h
  obtain ⟨payload, hPayload, h⟩ := h
  rw [bind_eq_ok_iff] at h
  obtain ⟨record, hBuilt, h⟩ := h
  rw [bind_eq_ok_iff] at h
  obtain ⟨⟨row, snapshots⟩, hInsert, h⟩ := h
  rw [bind_eq_ok_iff] at h
  obtain ⟨checkedAt, hValid, h⟩ := h
  rw [pure_eq_ok] at h
  cases h
  rw [mapError_eq_ok_iff] at hBuilt hInsert
  obtain ⟨-, -, hStored⟩ := insertSnapshot_eq_ok_iff.mp hInsert
  have hRow : row = stampSealedAt clock.sealedAt record := congrArg Prod.fst hStored
  have hCanonical : canonicalSnapshotPayload runtime.rules.toNormalForm runtime.floats payload.inUtc =
      .ok row.canonicalPayload := by
    have hBytes := canonical_of_built hBuilt
    rw [hRow]
    exact hBytes
  obtain ⟨q, hRecord, -, hTime⟩ := validateExistingRecord_eq_ok_iff.mp hValid
  obtain ⟨q', hNormal, hParsed, -⟩ := record_round_trip hBuilt
  have hSame : q' = q := by
    have hParsedRow := (checkExistingRecord_eq_ok hRecord).1
    rw [hRow] at hParsedRow
    exact Except.ok.inj (hParsed.symm.trans hParsedRow)
  have hPayloadTime : payload.availability.checkedAt = some clock.checkedAt := by
    obtain ⟨_, -, -, _, -, _, -, _, -, _, -, rfl⟩ := assembleVerifiedSnapshotPayload_eq_ok_iff.mp hPayload
    rfl
  have hChecked : checkedAt = clock.checkedAt := by
    have hKept := checkedAt_of_normalizes (normalizedPayload_eq_ok_iff.mp hNormal)
    rw [hSame, hTime, hPayloadTime] at hKept
    exact Option.some.inj hKept
  subst hChecked
  exact ⟨record, row, rfl, hInsert, ⟨hValid, rows, payload, hRows, hPayload, hCanonical⟩, rfl⟩

/-! ## The row of a semantic key -/

theorem scalarOneOrNone_toList {α : Type} (found : Option α) : scalarOneOrNone found.toList = .ok found := by
  cases found <;> rfl

theorem eq_of_scalarOneOrNone {α : Type} {rows : List α} {found : Option α}
    (h : scalarOneOrNone rows = .ok found) : rows = found.toList := by
  cases rows with
  | nil =>
    cases h
    rfl
  | cons row rest =>
    cases rest with
    | nil =>
      cases h
      rfl
    | cons other others => cases h

theorem existingSnapshot_of_mem {snapshots : List ForecastInputSnapshot} (sound : TableSound runtime.sha256 snapshots)
    {row : ForecastInputSnapshot} (hMem : row ∈ snapshots) (hKey : row.semanticKey = semanticKey runtime spec policy) :
    existingSnapshot runtime spec policy snapshots = .ok (some row) := by
  have hNodup : (snapshots.filter fun r => decide (r.semanticKey = semanticKey runtime spec policy)).Nodup :=
    (List.Nodup.of_map _ sound.keys).filter _
  have hMatching : (snapshots.filter fun r => decide (r.semanticKey = semanticKey runtime spec policy)) =
      (some row).toList := by
    refine eq_toList_of_mem_iff hNodup fun r => ?_
    rw [List.mem_filter, decide_eq_true_eq, Option.some.injEq]
    constructor
    · rintro ⟨hr, hrKey⟩
      exact sound.eq_of_key hMem hr (hKey.trans hrKey.symm)
    · rintro rfl
      exact ⟨hMem, hKey⟩
  rw [existingSnapshot, hMatching, scalarOneOrNone_toList]

theorem mem_of_existingSnapshot {snapshots : List ForecastInputSnapshot} {row : ForecastInputSnapshot}
    (h : existingSnapshot runtime spec policy snapshots = .ok (some row)) :
    row ∈ snapshots ∧ row.semanticKey = semanticKey runtime spec policy := by
  have hFilter := eq_of_scalarOneOrNone h
  have hMem : row ∈ snapshots.filter fun r => decide (r.semanticKey = semanticKey runtime spec policy) := by
    rw [hFilter]
    exact List.mem_singleton_self row
  rw [List.mem_filter, decide_eq_true_eq] at hMem
  exact hMem

/-- A build returns with a sealed row in the table; the bars stay as they are and the table keeps its rows. -/
theorem build_eq_ok {arg : SpecArgument} {clock : ClockReadings} {store store' : SnapshotStore}
    {result : SnapshotBuildResult} (h : build runtime policy arg clock store = .ok (result, store')) :
    ∃ spec row checkedAt, validateSpec runtime policy arg = .ok spec ∧ spec.asOf ≤ clock.databaseNow ∧
      row ∈ store'.snapshots ∧ Sealed runtime policy spec store.archive.tables row checkedAt ∧
      result = resultOf spec row checkedAt result.created ∧ store'.archive = store.archive ∧
      (store' = store ∨ SnapshotStep runtime.sha256 store.snapshots store'.snapshots) := by
  rw [build, bind_eq_ok_iff] at h
  obtain ⟨spec, hSpec, h⟩ := h
  rw [refuseIf_bind_eq_ok_iff, not_lt, bind_eq_ok_iff] at h
  obtain ⟨hNow, existing, hExisting, h⟩ := h
  cases existing with
  | none =>
    obtain ⟨record, row, hArchive, hInsert, hSealed, rfl⟩ := createSnapshot_eq_ok h
    obtain ⟨-, -, hStored⟩ := insertSnapshot_eq_ok_iff.mp hInsert
    have hMem : row ∈ store'.snapshots := by
      rw [show row = _ from congrArg Prod.fst hStored, show store'.snapshots = _ from congrArg Prod.snd hStored]
      exact List.mem_append_right _ (List.mem_singleton_self _)
    have hStep : SnapshotStep runtime.sha256 store.snapshots store'.snapshots :=
      ⟨.insert clock.sealedAt record, by rw [writeSnapshots, hInsert]; rfl⟩
    exact ⟨spec, row, _, hSpec, hNow, hMem, hSealed, rfl, hArchive, .inr hStep⟩
  | some row =>
    simp only [bind_eq_ok_iff, replaySnapshot_eq_ok_iff, pure_eq_ok] at h
    obtain ⟨_, ⟨checkedAt, hSealed, rfl⟩, h⟩ := h
    cases h
    exact ⟨spec, row, checkedAt, hSpec, hNow, (mem_of_existingSnapshot hExisting).1, hSealed, rfl, rfl, .inl rfl⟩

/-- As long as the rows at the cutoff stay what they were, a sealed row is built again as itself. -/
theorem build_of_sealed {arg : SpecArgument} {clock : ClockReadings} {store : SnapshotStore}
    {row : ForecastInputSnapshot} {checkedAt : Instant} (sound : TableSound runtime.sha256 store.snapshots)
    (hSpec : validateSpec runtime policy arg = .ok spec) (hNow : spec.asOf ≤ clock.databaseNow)
    (hMem : row ∈ store.snapshots) (hSealed : Sealed runtime policy spec store.archive.tables row checkedAt) :
    build runtime policy arg clock store = .ok (resultOf spec row checkedAt false, store) := by
  have hExisting := existingSnapshot_of_mem sound hMem (semanticKey_of_valid hSealed.valid)
  rw [build, hSpec, ok_bind, refuseIf_of_not (not_lt.mpr hNow), ok_bind, hExisting, ok_bind]
  simp only [replaySnapshot_eq_ok_iff.mpr ⟨checkedAt, hSealed, rfl⟩, ok_bind, pure_eq_ok]

end Branches

end StockApi.Snapshots.Builder

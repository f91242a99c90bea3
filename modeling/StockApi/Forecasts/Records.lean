import StockApi.Forecasts.Payload

/-!
# The payloads of requests and responses

What `model_dump` holds of each model, and how the schema library reads a model from a document. What is
read from the document of a model is the model with its texts in normal form and its datetimes in UTC.
-/

namespace StockApi.Forecasts

open Checked CivilTime
open Calibration (thousandth)

/-! ## Reading -/

/-- How the schema library converts a document to a field of a number, a datetime, a date or a UUID;
the canonical spelling of a value is converted to it. -/
structure Coercions where
  int : Document → Option Int
  float : Document → Option Double
  datetime : Document → Option ParsedDateTime
  date : Document → Option Date
  uuid : Document → Option Uuid
  int_int : ∀ n, int (.int n) = some n
  float_float : ∀ q : Double, float (.float q.1) = some q
  datetime_timestamp : ∀ t : Instant, datetime (.plain t.timestamp) = some t.inUtc
  date_isoformat : ∀ d : Date, date (.plain d.isoformat) = some d
  uuid_text : ∀ u : Uuid, uuid (.plain u.text) = some u

attribute [simp] Coercions.int_int Coercions.float_float Coercions.datetime_timestamp
  Coercions.date_isoformat Coercions.uuid_text

/-- The entries of an object without extra keys. -/
def entriesOf (allowed : List String) : Document → Option (List (String × Document))
  | .obj entries => if ∀ e ∈ entries, e.1 ∈ allowed then some entries else none
  | _ => none

section Fields

variable {α : Type} (entries : List (String × Document)) (name : String) (read : Document → Option α)

def required : Option α := (entries.lookup name).bind read

def defaulted (default : α) : Option α := ((entries.lookup name).map read).getD (some default)

/-- A field that may be null. -/
def readOptional : Document → Option (Option α)
  | .null => some none
  | d => (read d).map some

def readList : Document → Option (List α)
  | .arr items => items.mapM read
  | _ => none

def readText : Document → Option String
  | .str (.plain s) => some s
  | _ => none

def readLiteral [Literal α] (d : Document) : Option α := (readText d).bind Literal.ofText

end Fields

section Models

variable (c : Coercions)

def readQuantile (d : Document) : Option ForecastQuantile := do
  let entries ← entriesOf ["level", "value"] d
  let level ← required entries "level" c.float
  let value ← required entries "value" c.float
  return ⟨level, value⟩

def readInterval (d : Document) : Option ForecastInterval := do
  let entries ← entriesOf ["coverage", "lower_quantile", "upper_quantile", "lower", "upper"] d
  let coverage ← required entries "coverage" c.float
  let lowerQuantile ← required entries "lower_quantile" c.float
  let upperQuantile ← required entries "upper_quantile" c.float
  let lower ← required entries "lower" c.float
  let upper ← required entries "upper" c.float
  return ⟨coverage, lowerQuantile, upperQuantile, lower, upper⟩

def readStep (d : Document) : Option ForecastStep := do
  let entries ← entriesOf ["step", "target_time", "point", "quantiles", "intervals"] d
  let step ← required entries "step" c.int
  let targetTime ← required entries "target_time" c.datetime
  let point ← required entries "point" c.float
  let quantiles ← required entries "quantiles" (readList (readQuantile c))
  let intervals ← required entries "intervals" (readList (readInterval c))
  return ⟨step, targetTime, point, quantiles, intervals⟩

def readLookahead (d : Document) : Option LookaheadCheck := do
  let entries ← entriesOf ["status", "checked_at", "max_feature_available_at", "violations"] d
  let status ← required entries "status" readLiteral
  let checkedAt ← required entries "checked_at" c.datetime
  let maxFeatureAvailableAt ← required entries "max_feature_available_at" c.datetime
  let violations ← defaulted entries "violations" (readList readText) []
  return ⟨status, checkedAt, maxFeatureAvailableAt, violations⟩

def readSource (d : Document) : Option DataSourceLineage := do
  let entries ← entriesOf ["name", "snapshot_id", "max_available_at", "fields"] d
  let name ← required entries "name" readText
  let snapshotId ← required entries "snapshot_id" readText
  let maxAvailableAt ← required entries "max_available_at" c.datetime
  let fields ← defaulted entries "fields" (readList readText) []
  return ⟨name, snapshotId, maxAvailableAt, fields⟩

def readProvenance (d : Document) : Option ForecastProvenance := do
  let entries ← entriesOf ["forecast_id", "snapshot_id", "model_version", "series_basis",
    "feature_set_hash", "max_available_at", "generated_at", "code_version", "data_sources",
    "lookahead_check"] d
  let forecastId ← required entries "forecast_id" c.uuid
  let snapshotId ← required entries "snapshot_id" readText
  let modelVersion ← required entries "model_version" readText
  let seriesBasis ← required entries "series_basis" readLiteral
  let featureSetHash ← required entries "feature_set_hash" readText
  let maxAvailableAt ← required entries "max_available_at" c.datetime
  let generatedAt ← required entries "generated_at" c.datetime
  let codeVersion ← defaulted entries "code_version" (readOptional readText) none
  let dataSources ← defaulted entries "data_sources" (readList (readSource c)) []
  let lookaheadCheck ← required entries "lookahead_check" (readLookahead c)
  return ⟨forecastId, snapshotId, modelVersion, seriesBasis, featureSetHash, maxAvailableAt,
    generatedAt, codeVersion, dataSources, lookaheadCheck⟩

def readBucket (d : Document) : Option IntervalCalibration := do
  let entries ← entriesOf ["horizon", "nominal_coverage", "empirical_coverage", "sample_count",
    "confidence_low", "confidence_high"] d
  let horizon ← required entries "horizon" c.int
  let nominalCoverage ← required entries "nominal_coverage" c.float
  let empiricalCoverage ← defaulted entries "empirical_coverage" (readOptional c.float) none
  let sampleCount ← required entries "sample_count" c.int
  let confidenceLow ← defaulted entries "confidence_low" (readOptional c.float) none
  let confidenceHigh ← defaulted entries "confidence_high" (readOptional c.float) none
  return ⟨horizon, nominalCoverage, empiricalCoverage, sampleCount, confidenceLow, confidenceHigh⟩

def readCalibration (d : Document) : Option ForecastCalibration := do
  let entries ← entriesOf ["calibration_set_version", "method", "window_start", "window_end",
    "sample_count", "by_interval"] d
  let calibrationSetVersion ← required entries "calibration_set_version" readText
  let method ← required entries "method" readLiteral
  let windowStart ← defaulted entries "window_start" (readOptional c.date) none
  let windowEnd ← defaulted entries "window_end" (readOptional c.date) none
  let sampleCount ← required entries "sample_count" c.int
  let byInterval ← defaulted entries "by_interval" (readList (readBucket c)) []
  return ⟨calibrationSetVersion, method, windowStart, windowEnd, sampleCount, byInterval⟩

/-- `DISCLAIMER`. -/
def defaultDisclaimer : String :=
  "Not investment advice. Outputs are probabilistic, informational analytics only — " ++
    "not a recommendation to buy or sell any security. " ++
    "Past performance does not guarantee future results."

def readResponse (d : Document) : Option ForecastResponse := do
  let entries ← entriesOf ["symbol", "target", "horizon", "horizon_unit", "as_of", "currency",
    "forecasts", "provenance", "calibration", "disclaimer"] d
  let symbol ← required entries "symbol" readText
  let target ← required entries "target" readLiteral
  let horizon ← required entries "horizon" c.int
  let horizonUnit ← required entries "horizon_unit" readLiteral
  let asOf ← required entries "as_of" c.datetime
  let currency ← defaulted entries "currency" (readOptional readText) (some "USD")
  let forecasts ← required entries "forecasts" (readList (readStep c))
  let provenance ← required entries "provenance" (readProvenance c)
  let calibration ← required entries "calibration" (readCalibration c)
  let disclaimer ← defaulted entries "disclaimer" readText defaultDisclaimer
  return ⟨symbol, target, horizon, horizonUnit, asOf, currency, forecasts, provenance, calibration,
    disclaimer⟩

def readRequest (d : Document) : Option ForecastRequest := do
  let entries ← entriesOf ["symbol", "horizon", "horizon_unit", "target", "as_of", "snapshot_id", "model",
    "interval_coverages"] d
  let symbol ← required entries "symbol" readText
  let horizon ← defaulted entries "horizon" c.int 5
  let horizonUnit ← defaulted entries "horizon_unit" readLiteral .tradingDay
  let target ← defaulted entries "target" readLiteral .close
  let asOf ← defaulted entries "as_of" (readOptional c.datetime) none
  let snapshotId ← defaulted entries "snapshot_id" (readOptional readText) none
  let model ← defaulted entries "model" readLiteral .auto
  let intervalCoverages ← defaulted entries "interval_coverages" (readList c.float)
    [⟨_, isDouble_thousandth (k := 500) (by decide)⟩, ⟨_, isDouble_thousandth (k := 800) (by decide)⟩,
      ⟨_, isDouble_thousandth (k := 950) (by decide)⟩]
  return ⟨symbol, horizon, horizonUnit, target, asOf, snapshotId, model, intervalCoverages⟩

end Models

/-! ## Payloads -/

def ForecastQuantile.payload (q : ForecastQuantile) : Payload :=
  .dict [("level", .float q.level), ("value", .float q.value)]

def ForecastInterval.payload (i : ForecastInterval) : Payload :=
  .dict [("coverage", .float i.coverage), ("lower", .float i.lower),
    ("lower_quantile", .float i.lowerQuantile), ("upper", .float i.upper),
    ("upper_quantile", .float i.upperQuantile)]

def ForecastStep.payload (s : ForecastStep) : Payload :=
  .dict [("intervals", .list (s.intervals.map ForecastInterval.payload)), ("point", .float s.point),
    ("quantiles", .list (s.quantiles.map ForecastQuantile.payload)), ("step", .int s.step),
    ("target_time", .datetime s.targetTime)]

def LookaheadCheck.payload (l : LookaheadCheck) : Payload :=
  .dict [("checked_at", .datetime l.checkedAt),
    ("max_feature_available_at", .datetime l.maxFeatureAvailableAt), ("status", .text (Literal.text l.status)),
    ("violations", .list (l.violations.map .text))]

def DataSourceLineage.payload (s : DataSourceLineage) : Payload :=
  .dict [("fields", .list (s.fields.map .text)), ("max_available_at", .datetime s.maxAvailableAt),
    ("name", .text s.name), ("snapshot_id", .text s.snapshotId)]

def ForecastProvenance.payload (p : ForecastProvenance) : Payload :=
  .dict [("code_version", .optional .text p.codeVersion),
    ("data_sources", .list (p.dataSources.map DataSourceLineage.payload)),
    ("feature_set_hash", .text p.featureSetHash), ("forecast_id", .uuid p.forecastId),
    ("generated_at", .datetime p.generatedAt), ("lookahead_check", p.lookaheadCheck.payload),
    ("max_available_at", .datetime p.maxAvailableAt), ("model_version", .text p.modelVersion),
    ("series_basis", .text (Literal.text p.seriesBasis)), ("snapshot_id", .text p.snapshotId)]

def IntervalCalibration.payload (b : IntervalCalibration) : Payload :=
  .dict [("confidence_high", .optional .float b.confidenceHigh),
    ("confidence_low", .optional .float b.confidenceLow),
    ("empirical_coverage", .optional .float b.empiricalCoverage), ("horizon", .int b.horizon),
    ("nominal_coverage", .float b.nominalCoverage), ("sample_count", .int b.sampleCount)]

def ForecastCalibration.payload (c : ForecastCalibration) : Payload :=
  .dict [("by_interval", .list (c.byInterval.map IntervalCalibration.payload)),
    ("calibration_set_version", .text c.calibrationSetVersion), ("method", .text (Literal.text c.method)),
    ("sample_count", .int c.sampleCount), ("window_end", .optional .date c.windowEnd),
    ("window_start", .optional .date c.windowStart)]

def ForecastResponse.payload (r : ForecastResponse) : Payload :=
  .dict [("as_of", .datetime r.asOf), ("calibration", r.calibration.payload),
    ("currency", .optional .text r.currency), ("disclaimer", .text r.disclaimer),
    ("forecasts", .list (r.forecasts.map ForecastStep.payload)), ("horizon", .int r.horizon),
    ("horizon_unit", .text (Literal.text r.horizonUnit)), ("provenance", r.provenance.payload),
    ("symbol", .text r.symbol), ("target", .text (Literal.text r.target))]

def ForecastRequest.payload (r : ForecastRequest) : Payload :=
  .dict [("as_of", .optional .datetime r.asOf), ("horizon", .int r.horizon),
    ("horizon_unit", .text (Literal.text r.horizonUnit)),
    ("interval_coverages", .list (r.intervalCoverages.map .float)), ("model", .text (Literal.text r.model)),
    ("snapshot_id", .optional .text r.snapshotId), ("symbol", .text r.symbol),
    ("target", .text (Literal.text r.target))]

theorem ForecastQuantile.keyed (q : ForecastQuantile) : Keyed q.payload :=
  ⟨(by decide : KeyOrder ["level", "value"]), trivial, trivial, trivial⟩

theorem ForecastInterval.keyed (i : ForecastInterval) : Keyed i.payload :=
  ⟨(by decide : KeyOrder ["coverage", "lower", "lower_quantile", "upper", "upper_quantile"]), trivial,
    trivial, trivial, trivial, trivial, trivial⟩

theorem ForecastStep.keyed (s : ForecastStep) : Keyed s.payload :=
  ⟨(by decide : KeyOrder ["intervals", "point", "quantiles", "step", "target_time"]),
    keyed_list ForecastInterval.keyed _, trivial, keyed_list ForecastQuantile.keyed _, trivial, trivial, trivial⟩

theorem keyed_text (s : String) : Keyed (.text s) := trivial

theorem keyed_int (n : Int) : Keyed (.int n) := trivial

theorem keyed_float (q : Double) : Keyed (.float q) := trivial

theorem keyed_date (d : Date) : Keyed (.date d) := trivial

theorem keyed_datetime (t : ParsedDateTime) : Keyed (.datetime t) := trivial

theorem keyed_texts (texts : List String) : Keyed (.list (texts.map .text)) := keyed_list keyed_text texts

theorem LookaheadCheck.keyed (l : LookaheadCheck) : Keyed l.payload :=
  ⟨(by decide : KeyOrder ["checked_at", "max_feature_available_at", "status", "violations"]), trivial, trivial,
    trivial, keyed_texts _, trivial⟩

theorem DataSourceLineage.keyed (s : DataSourceLineage) : Keyed s.payload :=
  ⟨(by decide : KeyOrder ["fields", "max_available_at", "name", "snapshot_id"]), keyed_texts _, trivial,
    trivial, trivial, trivial⟩

theorem ForecastProvenance.keyed (p : ForecastProvenance) : Keyed p.payload :=
  ⟨(by decide : KeyOrder ["code_version", "data_sources", "feature_set_hash", "forecast_id", "generated_at",
      "lookahead_check", "max_available_at", "model_version", "series_basis", "snapshot_id"]),
    keyed_optional keyed_text _, keyed_list DataSourceLineage.keyed _, trivial, trivial, trivial,
    p.lookaheadCheck.keyed, trivial, trivial, trivial, trivial, trivial⟩

theorem IntervalCalibration.keyed (b : IntervalCalibration) : Keyed b.payload :=
  ⟨(by decide : KeyOrder ["confidence_high", "confidence_low", "empirical_coverage", "horizon",
      "nominal_coverage", "sample_count"]),
    keyed_optional keyed_float _, keyed_optional keyed_float _,
    keyed_optional keyed_float _, trivial, trivial, trivial, trivial⟩

theorem ForecastCalibration.keyed (c : ForecastCalibration) : Keyed c.payload :=
  ⟨(by decide : KeyOrder ["by_interval", "calibration_set_version", "method", "sample_count", "window_end",
      "window_start"]),
    keyed_list IntervalCalibration.keyed _, trivial, trivial, trivial, keyed_optional keyed_date _,
    keyed_optional keyed_date _, trivial⟩

theorem ForecastResponse.keyed (r : ForecastResponse) : Keyed r.payload :=
  ⟨(by decide : KeyOrder ["as_of", "calibration", "currency", "disclaimer", "forecasts", "horizon",
      "horizon_unit", "provenance", "symbol", "target"]),
    trivial, r.calibration.keyed, keyed_optional keyed_text _, trivial,
    keyed_list ForecastStep.keyed _, trivial, trivial, r.provenance.keyed, trivial, trivial, trivial⟩

theorem ForecastRequest.keyed (r : ForecastRequest) : Keyed r.payload :=
  ⟨(by decide : KeyOrder ["as_of", "horizon", "horizon_unit", "interval_coverages", "model", "snapshot_id",
      "symbol", "target"]),
    keyed_optional keyed_datetime _, trivial, trivial, keyed_list keyed_float _, trivial,
    keyed_optional keyed_text _, trivial, trivial, trivial⟩

/-! ## Normal forms -/

/-- The same instant in UTC. -/
def utc (t : ParsedDateTime) : ParsedDateTime := (t.toInstant.map Instant.inUtc).getD t

section Normal

variable (rules : TextRules)

def ForecastStep.normal (s : ForecastStep) : ForecastStep := { s with targetTime := utc s.targetTime }

def LookaheadCheck.normal (l : LookaheadCheck) : LookaheadCheck :=
  { l with
    checkedAt := utc l.checkedAt
    maxFeatureAvailableAt := utc l.maxFeatureAvailableAt
    violations := l.violations.map rules.nfc }

def DataSourceLineage.normal (s : DataSourceLineage) : DataSourceLineage where
  name := rules.nfc s.name
  snapshotId := rules.nfc s.snapshotId
  maxAvailableAt := utc s.maxAvailableAt
  fields := s.fields.map rules.nfc

def ForecastProvenance.normal (p : ForecastProvenance) : ForecastProvenance :=
  { p with
    snapshotId := rules.nfc p.snapshotId
    modelVersion := rules.nfc p.modelVersion
    featureSetHash := rules.nfc p.featureSetHash
    maxAvailableAt := utc p.maxAvailableAt
    generatedAt := utc p.generatedAt
    codeVersion := p.codeVersion.map rules.nfc
    dataSources := p.dataSources.map (DataSourceLineage.normal rules)
    lookaheadCheck := p.lookaheadCheck.normal rules }

def ForecastCalibration.normal (c : ForecastCalibration) : ForecastCalibration :=
  { c with calibrationSetVersion := rules.nfc c.calibrationSetVersion }

/-- Texts in normal form and datetimes in UTC. -/
def ForecastResponse.normal (r : ForecastResponse) : ForecastResponse :=
  { r with
    symbol := rules.nfc r.symbol
    asOf := utc r.asOf
    currency := r.currency.map rules.nfc
    forecasts := r.forecasts.map ForecastStep.normal
    provenance := r.provenance.normal rules
    calibration := r.calibration.normal rules
    disclaimer := rules.nfc r.disclaimer }

def ForecastRequest.normal (r : ForecastRequest) : ForecastRequest :=
  { r with
    symbol := rules.nfc r.symbol
    asOf := r.asOf.map utc
    snapshotId := r.snapshotId.map rules.nfc }

end Normal

/-! ## Reading a payload back -/

section ReadBack

variable (rules : TextRules) (c : Coercions)

theorem read_utcText {t : ParsedDateTime} (h : t.toInstant.isSome = true) :
    c.datetime (.plain (utcText t)) = some (utc t) := by
  obtain ⟨instant, hInstant⟩ := Option.isSome_iff_exists.mp h
  rw [utcText, utc, hInstant]
  exact c.datetime_timestamp instant

theorem readLiteral_text {α : Type} [Literal α] (a : α) :
    readLiteral (.plain (rules.nfc (Literal.text a))) = some a := by
  rw [rules.nfc_ascii _ (Literal.ascii a)]
  exact Literal.ofText_text a

theorem readList_map {α β : Type} {write : α → Document} {read : Document → Option β} {normal : α → β}
    {values : List α} (h : ∀ a ∈ values, read (write a) = some (normal a)) :
    readList read (.arr (values.map write)) = some (values.map normal) := by
  rw [readList]
  induction values with
  | nil => rfl
  | cons a rest ih =>
    rw [List.map_cons, List.mapM_cons, h a List.mem_cons_self,
      ih fun b hMem => h b (List.mem_cons_of_mem _ hMem)]
    rfl

theorem readTexts (texts : List String) :
    readList readText (.arr (texts.map fun s => (Payload.text s).document rules)) =
      some (texts.map rules.nfc) :=
  readList_map fun _ _ => rfl

theorem readOptional_elim {α β : Type} {write : α → Document} {read : Document → Option β} {normal : α → β}
    {o : Option α} (h : ∀ a ∈ o, write a ≠ .null ∧ read (write a) = some (normal a)) :
    readOptional read (o.elim .null write) = some (o.map normal) := by
  cases o with
  | none => rfl
  | some a =>
    obtain ⟨hNull, hRead⟩ := h a rfl
    rw [Option.elim_some, readOptional, hRead, Option.map_some, Option.map_some]
    exact hNull

theorem lookup_ne {k a : String} {d : Document} {entries : List (String × Document)} (h : k ≠ a) :
    ((a, d) :: entries).lookup k = entries.lookup k := by
  rw [List.lookup_cons, beq_eq_false_iff_ne.mpr h]

theorem entriesOf_obj {allowed : List String} {entries : List (String × Document)} :
    entriesOf allowed (.obj entries) = if ∀ e ∈ entries, e.1 ∈ allowed then some entries else none :=
  rfl

theorem readQuantile_payload (q : ForecastQuantile) : readQuantile c (q.payload.document rules) = some q := by
  simp [readQuantile, ForecastQuantile.payload, documentEntries, entriesOf_obj, required,
    lookup_ne]

theorem readInterval_payload (i : ForecastInterval) : readInterval c (i.payload.document rules) = some i := by
  simp [readInterval, ForecastInterval.payload, documentEntries, entriesOf_obj, required,
    lookup_ne]

theorem timed_texts (texts : List String) : Timed (.list (texts.map .text)) :=
  timed_list.mpr fun _ _ => trivial

theorem ForecastStep.timed_iff {s : ForecastStep} :
    Timed s.payload ↔ s.targetTime.toInstant.isSome = true := by
  have hIntervals : Timed (.list (s.intervals.map ForecastInterval.payload)) :=
    timed_list.mpr fun _ _ => ⟨trivial, trivial, trivial, trivial, trivial, trivial⟩
  have hQuantiles : Timed (.list (s.quantiles.map ForecastQuantile.payload)) :=
    timed_list.mpr fun _ _ => ⟨trivial, trivial, trivial⟩
  rw [Timed] at hIntervals hQuantiles
  simp [ForecastStep.payload, Timed, TimedEntries, hIntervals, hQuantiles]

theorem LookaheadCheck.timed_iff {l : LookaheadCheck} : Timed l.payload ↔
    l.checkedAt.toInstant.isSome = true ∧ l.maxFeatureAvailableAt.toInstant.isSome = true := by
  have hTexts := timed_texts l.violations
  rw [Timed] at hTexts
  simp [LookaheadCheck.payload, Timed, TimedEntries, hTexts]

theorem DataSourceLineage.timed_iff {s : DataSourceLineage} :
    Timed s.payload ↔ s.maxAvailableAt.toInstant.isSome = true := by
  have hTexts := timed_texts s.fields
  rw [Timed] at hTexts
  simp [DataSourceLineage.payload, Timed, TimedEntries, hTexts]

theorem ForecastProvenance.timed_iff {p : ForecastProvenance} : Timed p.payload ↔
    (∀ s ∈ p.dataSources, s.maxAvailableAt.toInstant.isSome = true) ∧
      p.generatedAt.toInstant.isSome = true ∧ Timed p.lookaheadCheck.payload ∧
      p.maxAvailableAt.toInstant.isSome = true := by
  have hCode : Timed (.optional .text p.codeVersion) := timed_optional.mpr fun _ _ => trivial
  have hSources : TimedItems (p.dataSources.map DataSourceLineage.payload) ↔
      ∀ s ∈ p.dataSources, s.maxAvailableAt.toInstant.isSome = true := by
    rw [timedItems_iff, List.forall_mem_map]
    simp only [DataSourceLineage.timed_iff]
  simp [ForecastProvenance.payload, Timed, TimedEntries, hCode, hSources]

theorem ForecastCalibration.timed (d : ForecastCalibration) : Timed d.payload := by
  have hRows : Timed (.list (d.byInterval.map IntervalCalibration.payload)) :=
    timed_list.mpr fun _ _ => ⟨timed_optional.mpr fun _ _ => trivial, timed_optional.mpr fun _ _ => trivial,
      timed_optional.mpr fun _ _ => trivial, trivial, trivial, trivial, trivial⟩
  exact ⟨hRows, trivial, trivial, trivial, timed_optional.mpr fun _ _ => trivial,
    timed_optional.mpr fun _ _ => trivial, trivial⟩

theorem ForecastResponse.timed_iff {r : ForecastResponse} : Timed r.payload ↔
    r.asOf.toInstant.isSome = true ∧ (∀ s ∈ r.forecasts, s.targetTime.toInstant.isSome = true) ∧
      Timed r.provenance.payload := by
  have hCurrency : Timed (.optional .text r.currency) := timed_optional.mpr fun _ _ => trivial
  have hSteps : TimedItems (r.forecasts.map ForecastStep.payload) ↔
      ∀ s ∈ r.forecasts, s.targetTime.toInstant.isSome = true := by
    rw [timedItems_iff, List.forall_mem_map]
    simp only [ForecastStep.timed_iff]
  simp [ForecastResponse.payload, Timed, TimedEntries, hCurrency, hSteps, ForecastCalibration.timed]

theorem ForecastRequest.timed_iff {r : ForecastRequest} :
    Timed r.payload ↔ ∀ t ∈ r.asOf, t.toInstant.isSome = true := by
  have hTime : Timed (.optional .datetime r.asOf) ↔ ∀ t ∈ r.asOf, t.toInstant.isSome = true := by
    simp [timed_optional, Timed]
  have hCoverages : Timed (.list (r.intervalCoverages.map .float)) := timed_list.mpr fun _ _ => trivial
  have hSnapshot : Timed (.optional .text r.snapshotId) := timed_optional.mpr fun _ _ => trivial
  rw [Timed] at hCoverages
  simp [ForecastRequest.payload, Timed, TimedEntries, hTime, hCoverages, hSnapshot]

theorem readStep_payload {s : ForecastStep} (timed : Timed s.payload) :
    readStep c (s.payload.document rules) = some s.normal := by
  have hTime := read_utcText c (ForecastStep.timed_iff.mp timed)
  have hQuantiles : readList (readQuantile c)
      ((Payload.list (s.quantiles.map ForecastQuantile.payload)).document rules) = some s.quantiles := by
    rw [document_list, readList_map fun q _ => readQuantile_payload rules c q, List.map_id']
  have hIntervals : readList (readInterval c)
      ((Payload.list (s.intervals.map ForecastInterval.payload)).document rules) = some s.intervals := by
    rw [document_list, readList_map fun i _ => readInterval_payload rules c i, List.map_id']
  simp [readStep, ForecastStep.payload, documentEntries, entriesOf_obj, required, lookup_ne, hTime,
    hQuantiles, hIntervals, ForecastStep.normal]

theorem readLookahead_payload {l : LookaheadCheck} (timed : Timed l.payload) :
    readLookahead c (l.payload.document rules) = some (l.normal rules) := by
  obtain ⟨hChecked, hAvailable⟩ := LookaheadCheck.timed_iff.mp timed
  have hCheckedRead := read_utcText c hChecked
  have hAvailableRead := read_utcText c hAvailable
  have hStatus := readLiteral_text rules l.status
  have hTexts := readTexts rules l.violations
  rw [← document_list] at hTexts
  simp [readLookahead, LookaheadCheck.payload, documentEntries, entriesOf_obj, required, defaulted,
    lookup_ne, hCheckedRead, hAvailableRead, hStatus, hTexts, LookaheadCheck.normal]

theorem readText_plain (s : String) : readText (.plain s) = some s := rfl

theorem readSource_payload {s : DataSourceLineage} (timed : s.maxAvailableAt.toInstant.isSome = true) :
    readSource c (s.payload.document rules) = some (s.normal rules) := by
  have hTime := read_utcText c timed
  have hTexts := readTexts rules s.fields
  rw [← document_list] at hTexts
  simp [readSource, DataSourceLineage.payload, documentEntries, entriesOf_obj, required, defaulted, lookup_ne,
    hTime, readText_plain, hTexts, DataSourceLineage.normal]

theorem readOptional_text (o : Option String) :
    readOptional readText ((Payload.optional .text o).document rules) = some (o.map rules.nfc) := by
  rw [document_optional]
  exact readOptional_elim fun s _ => ⟨by simp [Json.plain], rfl⟩

theorem readProvenance_payload {p : ForecastProvenance} (timed : Timed p.payload) :
    readProvenance c (p.payload.document rules) = some (p.normal rules) := by
  obtain ⟨hSources, hGenerated, hLookahead, hAvailable⟩ := ForecastProvenance.timed_iff.mp timed
  have hGeneratedRead := read_utcText c hGenerated
  have hAvailableRead := read_utcText c hAvailable
  have hBasis := readLiteral_text rules p.seriesBasis
  have hCode := readOptional_text rules p.codeVersion
  have hCheck := readLookahead_payload rules c hLookahead
  have hList : readList (readSource c)
      ((Payload.list (p.dataSources.map DataSourceLineage.payload)).document rules) =
      some (p.dataSources.map (DataSourceLineage.normal rules)) := by
    rw [document_list]
    exact readList_map fun s hMem => readSource_payload rules c (hSources s hMem)
  simp [readProvenance, ForecastProvenance.payload, documentEntries, entriesOf_obj, required, defaulted,
    lookup_ne, hGeneratedRead, hAvailableRead, hBasis, hCode, hCheck, readText_plain, hList,
    ForecastProvenance.normal]

theorem readOptional_float (o : Option Double) :
    readOptional c.float ((Payload.optional .float o).document rules) = some o := by
  rw [document_optional]
  cases o with
  | none => rfl
  | some q => simp [readOptional]

theorem readOptional_date (o : Option Date) :
    readOptional c.date ((Payload.optional .date o).document rules) = some o := by
  rw [document_optional]
  cases o with
  | none => rfl
  | some d =>
    have hDate : (c.date (.plain d.isoformat)).map some = some (some d) := by rw [c.date_isoformat, Option.map_some]
    exact hDate

theorem readBucket_payload (b : IntervalCalibration) :
    readBucket c (b.payload.document rules) = some b := by
  have hEmpirical := readOptional_float rules c b.empiricalCoverage
  have hLow := readOptional_float rules c b.confidenceLow
  have hHigh := readOptional_float rules c b.confidenceHigh
  simp [readBucket, IntervalCalibration.payload, documentEntries, entriesOf_obj, required, defaulted,
    lookup_ne, hEmpirical, hLow, hHigh]

theorem readCalibration_payload (d : ForecastCalibration) :
    readCalibration c (d.payload.document rules) = some (d.normal rules) := by
  have hMethod := readLiteral_text rules d.method
  have hStart := readOptional_date rules c d.windowStart
  have hEnd := readOptional_date rules c d.windowEnd
  have hList : readList (readBucket c)
      ((Payload.list (d.byInterval.map IntervalCalibration.payload)).document rules) = some d.byInterval := by
    rw [document_list, readList_map fun b _ => readBucket_payload rules c b, List.map_id']
  simp [readCalibration, ForecastCalibration.payload, documentEntries, entriesOf_obj, required, defaulted,
    lookup_ne, hMethod, hStart, hEnd, hList, readText_plain, ForecastCalibration.normal]

/-- A document stands for the normal form of its response. -/
theorem readResponse_payload {r : ForecastResponse} (timed : Timed r.payload) :
    readResponse c (r.payload.document rules) = some (r.normal rules) := by
  obtain ⟨hAsOf, hSteps, hProvenance⟩ := ForecastResponse.timed_iff.mp timed
  have hAsOfRead := read_utcText c hAsOf
  have hTarget := readLiteral_text rules r.target
  have hUnit := readLiteral_text rules r.horizonUnit
  have hCurrency := readOptional_text rules r.currency
  have hRead := readProvenance_payload rules c hProvenance
  have hCalibration := readCalibration_payload rules c r.calibration
  have hList : readList (readStep c)
      ((Payload.list (r.forecasts.map ForecastStep.payload)).document rules) =
      some (r.forecasts.map ForecastStep.normal) := by
    rw [document_list]
    exact readList_map fun s hMem => readStep_payload rules c (ForecastStep.timed_iff.mpr (hSteps s hMem))
  simp [readResponse, ForecastResponse.payload, documentEntries, entriesOf_obj, required, defaulted, lookup_ne,
    hAsOfRead, hTarget, hUnit, hCurrency, hRead, hCalibration, hList, readText_plain,
    ForecastResponse.normal]

theorem readRequest_payload {r : ForecastRequest} (timed : Timed r.payload) :
    readRequest c (r.payload.document rules) = some (r.normal rules) := by
  have hTarget := readLiteral_text rules r.target
  have hUnit := readLiteral_text rules r.horizonUnit
  have hModel := readLiteral_text rules r.model
  have hSnapshot := readOptional_text rules r.snapshotId
  have hAsOf : readOptional c.datetime ((Payload.optional .datetime r.asOf).document rules) =
      some (r.asOf.map utc) := by
    rw [document_optional]
    exact readOptional_elim fun t hMem =>
      ⟨by simp [Json.plain], read_utcText c (ForecastRequest.timed_iff.mp timed t hMem)⟩
  have hCoverages : readList c.float ((Payload.list (r.intervalCoverages.map .float)).document rules) =
      some r.intervalCoverages := by
    have hEach : ∀ q ∈ r.intervalCoverages, c.float ((Payload.float q).document rules) = some (id q) :=
      fun q _ => c.float_float q
    rw [document_list, readList_map hEach, List.map_id]
  simp [readRequest, ForecastRequest.payload, documentEntries, entriesOf_obj, required, defaulted, lookup_ne,
    hTarget, hUnit, hModel, hSnapshot, hAsOf, hCoverages, readText_plain, ForecastRequest.normal]

end ReadBack

end StockApi.Forecasts

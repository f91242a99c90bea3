import StockApi.Library.Documents
import StockApi.Snapshots.Normalization

/-!
# Snapshot records and their canonical bytes

`canonical_snapshot_payload`, `parse_snapshot_payload` and `build_snapshot_record`. The reader takes
the document of a normal form back to it before the normalization that both sides run.
-/

namespace StockApi.Snapshots

open Checked CivilTime Documents Groups Text

/-! ## Writing -/

def timeDocument (t : Instant) : Document := .plain t.timestamp

/-- `_float_bits`. -/
def floatBits (value : Float64) : String := value.canonicalZero.hex

def observationDocument (o : SnapshotObservation Instant) : Document :=
  .obj [("available_at", timeDocument o.availableAt), ("observed_at", timeDocument o.observedAt),
    ("value_f64", .plain (floatBits o.value))]

def sourceDocument (s : SnapshotSourceLineage Instant) : Document :=
  .obj [("fields", .arr (s.fields.map .plain)), ("max_available_at", timeDocument s.maxAvailableAt),
    ("name", .plain s.name), ("snapshot_id", .plain s.snapshotId)]

def availabilityDocument (a : SnapshotAvailabilityEvidence Instant) : Document :=
  .obj [("checked_at", a.checkedAt.elim .null timeDocument),
    ("rule_set_hash", a.ruleSetHash.elim .null .plain), ("status", .plain a.status)]

/-- The document of a normalized payload, its keys in order. -/
def payloadDocument (q : ForecastInputSnapshotPayload Instant) : Document :=
  .obj [("as_of", timeDocument q.asOf), ("availability", availabilityDocument q.availability),
    ("currency", q.currency.elim .null .plain),
    ("data_sources", .arr (q.dataSources.map sourceDocument)),
    ("format", .plain "forecast-input-snapshot-v1"), ("horizon_unit", .plain q.horizonUnit),
    ("input_multiplier", .int q.inputMultiplier), ("input_timespan", .plain q.inputTimespan),
    ("observations", .arr (q.observations.map observationDocument)),
    ("resolution_policy_hash", .plain q.resolutionPolicyHash),
    ("schema_version", .int q.schemaVersion), ("series_basis", .plain q.seriesBasis),
    ("symbol", .plain q.symbol), ("target", .plain q.target),
    ("target_times", .arr (q.targetTimes.map timeDocument))]

/-! ## Reading -/

/-- `_object` and `_exact_keys`. -/
def objectWith (value : Document) (keys : List String) (label : String) : Except String PUnit := do
  refuseIf (value.isObject = false) (label ++ " must be an object")
  refuseIf (¬ value.HasKeys keys) (label ++ " has missing or unknown keys")

/-- `_string`. -/
def stringValue : Document → String → Except String String
  | .str (.plain s), _ => .ok s
  | _, label => .error (label ++ " must be a string")

/-- `_integer`. -/
def integerValue (value : Document) (label : String) : Except String Int :=
  orRefuse value.int? (label ++ " must be an integer")

/-- `_array`. -/
def arrayValue (value : Document) (label : String) : Except String (List Document) :=
  orRefuse value.items? (label ++ " must be an array")

/-- `_optional_string` and `_optional_timestamp`, by the reader of what is there. -/
def optionalValue {α : Type} (read : Document → String → Except String α) (value : Document)
    (label : String) : Except String (Option α) :=
  match value with
  | .null => .ok none
  | value => do
    let present ← read value label
    return some present

/-- `_parse_timestamp`. -/
def parseTimestamp (value : Document) (label : String) : Except String Instant := do
  let raw ← stringValue value label
  let parsed ← orRefuse (ParsedDateTime.ofTimestamp raw) (label ++ " must be an ISO timestamp")
  utc parsed label

/-- `_parse_float_bits`. -/
def parseFloatBits (value : Document) : Except String Float64 := do
  let raw ← stringValue value "value_f64"
  let number ← orRefuse (Float64.ofHex raw) "value_f64 must be 16 lowercase hexadecimal digits"
  finite number "value_f64"

def itemLabel (name : String) (index : Nat) : String := name ++ "[" ++ toString index ++ "]"

def parseObservation (row : Document × Nat) : Except String (SnapshotObservation Instant) := do
  objectWith row.1 ["available_at", "observed_at", "value_f64"] (itemLabel "observations" row.2)
  let observedAt ← parseTimestamp (row.1.field "observed_at") "observed_at"
  let availableAt ← parseTimestamp (row.1.field "available_at") "available_at"
  let value ← parseFloatBits (row.1.field "value_f64")
  return ⟨observedAt, availableAt, value⟩

def parseSource (row : Document × Nat) : Except String (SnapshotSourceLineage Instant) := do
  objectWith row.1 ["fields", "max_available_at", "name", "snapshot_id"]
    (itemLabel "data_sources" row.2)
  let items ← arrayValue (row.1.field "fields") (itemLabel "data_sources" row.2 ++ ".fields")
  let fields ← items.mapM fun item => stringValue item (itemLabel "data_sources" row.2 ++ ".fields")
  let name ← stringValue (row.1.field "name") "source name"
  let snapshotId ← stringValue (row.1.field "snapshot_id") "source snapshot_id"
  let maxAvailableAt ← parseTimestamp (row.1.field "max_available_at") "source max_available_at"
  return ⟨name, snapshotId, maxAvailableAt, fields⟩

def parseAvailability (row : Document) : Except String (SnapshotAvailabilityEvidence Instant) := do
  objectWith row ["checked_at", "rule_set_hash", "status"] "availability"
  let status ← stringValue (row.field "status") "availability status"
  refuseIf (status ∉ ["not_run", "passed"]) "availability status is not supported"
  let ruleSetHash ← optionalValue stringValue (row.field "rule_set_hash") "availability rule_set_hash"
  let checkedAt ← optionalValue parseTimestamp (row.field "checked_at") "availability checked_at"
  return ⟨status, ruleSetHash, checkedAt⟩

/-- The part of `parse_snapshot_payload` between the JSON reader and the normalization. -/
def readPayload (root : Document) : Except String (ForecastInputSnapshotPayload Instant) := do
  objectWith root ["as_of", "availability", "currency", "data_sources", "format", "horizon_unit",
    "input_multiplier", "input_timespan", "observations", "resolution_policy_hash", "schema_version",
    "series_basis", "symbol", "target", "target_times"] "payload"
  let format ← stringValue (root.field "format") "format"
  refuseIf (format ≠ "forecast-input-snapshot-v1") "snapshot format is not supported"
  let schemaVersion ← integerValue (root.field "schema_version") "schema_version"
  let availability ← parseAvailability (root.field "availability")
  let observationRows ← arrayValue (root.field "observations") "observations"
  let observations ← observationRows.zipIdx.mapM parseObservation
  let sourceRows ← arrayValue (root.field "data_sources") "data_sources"
  let dataSources ← sourceRows.zipIdx.mapM parseSource
  let timeRows ← arrayValue (root.field "target_times") "target_times"
  let targetTimes ← timeRows.mapM fun value => parseTimestamp value "target_time"
  let target ← stringValue (root.field "target") "target"
  let resolutionPolicyHash ← stringValue (root.field "resolution_policy_hash") "resolution_policy_hash"
  let symbol ← stringValue (root.field "symbol") "symbol"
  let horizonUnit ← stringValue (root.field "horizon_unit") "horizon_unit"
  let seriesBasis ← stringValue (root.field "series_basis") "series_basis"
  let inputTimespan ← stringValue (root.field "input_timespan") "input_timespan"
  let inputMultiplier ← integerValue (root.field "input_multiplier") "input_multiplier"
  let asOf ← parseTimestamp (root.field "as_of") "as_of"
  let currency ← optionalValue stringValue (root.field "currency") "currency"
  return {
    resolutionPolicyHash, symbol, target, horizonUnit, seriesBasis, inputTimespan, inputMultiplier,
    currency, schemaVersion, asOf, observations, targetTimes, dataSources, availability }

/-- `_MAX_PAYLOAD_BYTES`. -/
def maxPayloadBytes : Nat := 4 * 1024 * 1024

section Codec

variable (form : NormalForm) (floats : FloatText)

def canonicalSnapshotPayload (payload : ForecastInputSnapshotPayload ParsedDateTime) :
    Except String Bytes := do
  let normalized ← normalizedPayload form payload
  let canonical := dumps floats (payloadDocument normalized)
  refuseIf (maxPayloadBytes < canonical.length) "canonical_payload exceeds the storage limit"
  return canonical

def parseSnapshotPayload (canonicalPayload : Bytes) :
    Except String (ForecastInputSnapshotPayload Instant) := do
  refuseIf (canonicalPayload = [] ∨ maxPayloadBytes < canonicalPayload.length)
    "canonical_payload must be non-empty bytes"
  let document ← (loads floats canonicalPayload).mapError fun _ =>
    "canonical_payload is not strict UTF-8 JSON"
  let payload ← readPayload document
  normalizedPayload form payload.inUtc

/-! ## Records -/

structure ForecastInputSnapshotRecord (τ : Type) extends SnapshotTerms where
  snapshotId : String
  asOf : τ
  sealedAt : τ
  observationCount : Int
  targetTimeCount : Int
  firstObservedAt : τ
  lastObservedAt : τ
  maxAvailableAt : τ
  availabilityStatus : String
  availabilityRuleSetHash : Option String
  availabilityCheckedAt : Option τ
  canonicalPayload : Bytes
deriving DecidableEq

variable (sha256 : Bytes → String)

def snapshotIdForPayload (canonicalPayload : Bytes) : Except String String := do
  refuseIf (canonicalPayload = [] ∨ maxPayloadBytes < canonicalPayload.length)
    "canonical_payload must be non-empty bytes"
  return "sha256:" ++ sha256 canonicalPayload

def buildSnapshotRecord (payload : ForecastInputSnapshotPayload ParsedDateTime)
    (sealedAt : ParsedDateTime) : Except String (ForecastInputSnapshotRecord Instant) := do
  let normalized ← normalizedPayload form payload
  let sealedUtc ← utc sealedAt "sealed_at"
  refuseIf (sealedUtc < normalized.asOf) "sealed_at must not be earlier than as_of"
  refuseIf (normalized.availability.checkedAt.any (sealedUtc < ·) = true)
    "availability checked_at must not be later than sealed_at"
  let canonicalPayload ← canonicalSnapshotPayload form floats normalized.inUtc
  let latest ← orRefuse (maxAvailableAt normalized.observations normalized.dataSources)
    "max() iterable argument is empty"
  let snapshotId ← snapshotIdForPayload sha256 canonicalPayload
  let first ← orRefuse normalized.observations.head? "tuple index out of range"
  let last ← orRefuse normalized.observations.getLast? "tuple index out of range"
  return {
    toSnapshotTerms := normalized.toSnapshotTerms
    snapshotId, canonicalPayload
    asOf := normalized.asOf
    sealedAt := sealedUtc
    observationCount := normalized.observations.length
    targetTimeCount := normalized.targetTimes.length
    firstObservedAt := first.observedAt
    lastObservedAt := last.observedAt
    maxAvailableAt := latest
    availabilityStatus := normalized.availability.status
    availabilityRuleSetHash := normalized.availability.ruleSetHash
    availabilityCheckedAt := normalized.availability.checkedAt }

end Codec

/-! ## The reader inverts the writer -/

@[simp] theorem parseTimestamp_timeDocument (t : Instant) (label : String) :
    parseTimestamp (timeDocument t) label = .ok t := by
  rw [timeDocument, Json.plain, parseTimestamp, stringValue, ok_bind,
    ParsedDateTime.ofTimestamp_timestamp, orRefuse_some, ok_bind]
  exact (utc_eq_ok_iff t.inUtc label t).mpr (Instant.toInstant_inUtc t)

theorem parseFloatBits_floatBits {value : Float64} (isFinite : value.isFinite = true)
    (canonical : value.canonicalZero = value) :
    parseFloatBits (.plain (floatBits value)) = .ok value := by
  have hFinite : ¬ value.isFinite = false := by simp [isFinite]
  rw [floatBits, canonical, Json.plain, parseFloatBits, stringValue, ok_bind, Float64.ofHex_hex,
    orRefuse_some, ok_bind, finite, refuseIf_of_not hFinite, ok_bind, canonical, pure_eq_ok]

@[simp] theorem optionalValue_time (o : Option Instant) (label : String) :
    optionalValue parseTimestamp (o.elim .null timeDocument) label = .ok o := by
  cases o with
  | none => rfl
  | some t =>
    have hRead := parseTimestamp_timeDocument t label
    rw [timeDocument, Json.plain] at hRead
    rw [Option.elim_some, timeDocument, Json.plain, optionalValue, hRead]
    · rfl
    · intro h
      cases h

@[simp] theorem optionalValue_string (o : Option String) (label : String) :
    optionalValue stringValue (o.elim .null .plain) label = .ok o := by
  cases o with
  | none => rfl
  | some s => rfl

theorem parseObservation_document {o : SnapshotObservation Instant} (isFinite : o.value.isFinite = true)
    (canonical : o.value.canonicalZero = o.value) (i : Nat) :
    parseObservation (observationDocument o, i) = .ok o := by
  have hKeys : objectWith (observationDocument o) ["available_at", "observed_at", "value_f64"]
      (itemLabel "observations" i) = .ok ⟨⟩ := rfl
  have hObserved : (observationDocument o).field "observed_at" = timeDocument o.observedAt := rfl
  have hAvailable : (observationDocument o).field "available_at" = timeDocument o.availableAt := rfl
  have hValue : (observationDocument o).field "value_f64" = .plain (floatBits o.value) := rfl
  rw [parseObservation, hKeys]
  simp only [hObserved, hAvailable, hValue, parseTimestamp_timeDocument,
    parseFloatBits_floatBits isFinite canonical, ok_bind, pure_eq_ok]

theorem parseSource_document (s : SnapshotSourceLineage Instant) (i : Nat) :
    parseSource (sourceDocument s, i) = .ok s := by
  have hKeys : objectWith (sourceDocument s) ["fields", "max_available_at", "name", "snapshot_id"]
      (itemLabel "data_sources" i) = .ok ⟨⟩ := rfl
  have hFields : (sourceDocument s).field "fields" = .arr (s.fields.map .plain) := rfl
  have hTime : (sourceDocument s).field "max_available_at" = timeDocument s.maxAvailableAt := rfl
  have hName : (sourceDocument s).field "name" = .plain s.name := rfl
  have hId : (sourceDocument s).field "snapshot_id" = .plain s.snapshotId := rfl
  have hText : ∀ (label field : String), stringValue (Json.plain field) label = .ok field :=
    fun _ _ => rfl
  have hTexts : ∀ label : String, ((s.fields.map Json.plain).mapM fun item => stringValue item label) =
      .ok s.fields := fun label => mapM_written (hText label) s.fields
  rw [parseSource, hKeys]
  simp only [hFields, hTime, hName, hId, arrayValue, Json.items?, orRefuse_some, hTexts,
    parseTimestamp_timeDocument, ok_bind, pure_eq_ok]
  rfl

theorem parseAvailability_document {a : SnapshotAvailabilityEvidence Instant}
    (status : a.status ∈ ["not_run", "passed"]) :
    parseAvailability (availabilityDocument a) = .ok a := by
  have hKeys : objectWith (availabilityDocument a) ["checked_at", "rule_set_hash", "status"]
      "availability" = .ok ⟨⟩ := rfl
  have hTime : (availabilityDocument a).field "checked_at" = a.checkedAt.elim .null timeDocument := rfl
  have hHash : (availabilityDocument a).field "rule_set_hash" = a.ruleSetHash.elim .null .plain := rfl
  have hStatus : stringValue ((availabilityDocument a).field "status") "availability status" =
      .ok a.status := rfl
  rw [parseAvailability, hKeys]
  simp only [hTime, hHash, hStatus, optionalValue_time, optionalValue_string,
    refuseIf_of_not (not_not.mpr status), ok_bind, pure_eq_ok]

/-- The values whose text is read back as themselves. -/
structure Readable (q : ForecastInputSnapshotPayload Instant) : Prop where
  values : ∀ o ∈ q.observations, o.value.isFinite = true ∧ o.value.canonicalZero = o.value
  status : q.availability.status ∈ ["not_run", "passed"]

theorem readPayload_document {q : ForecastInputSnapshotPayload Instant} (h : Readable q) :
    readPayload (payloadDocument q) = .ok q := by
  have hKeys : objectWith (payloadDocument q) ["as_of", "availability", "currency", "data_sources",
      "format", "horizon_unit", "input_multiplier", "input_timespan", "observations",
      "resolution_policy_hash", "schema_version", "series_basis", "symbol", "target", "target_times"]
      "payload" = .ok ⟨⟩ := rfl
  have hObservations : (q.observations.map observationDocument).zipIdx.mapM parseObservation =
      .ok q.observations := by
    refine mapM_zipIdx (fun o hMem i => ?_) 0
    exact parseObservation_document (h.values o hMem).1 (h.values o hMem).2 i
  have hSources : (q.dataSources.map sourceDocument).zipIdx.mapM parseSource = .ok q.dataSources :=
    mapM_zipIdx (fun s _ => parseSource_document s) 0
  have hTimes : ((q.targetTimes.map timeDocument).mapM fun value => parseTimestamp value "target_time") =
      .ok q.targetTimes :=
    mapM_written (fun t => parseTimestamp_timeDocument t "target_time") q.targetTimes
  have hAvailability : parseAvailability ((payloadDocument q).field "availability") =
      .ok q.availability := parseAvailability_document h.status
  have hCurrency : optionalValue stringValue ((payloadDocument q).field "currency") "currency" =
      .ok q.currency := optionalValue_string q.currency "currency"
  have hCutoff : parseTimestamp ((payloadDocument q).field "as_of") "as_of" = .ok q.asOf :=
    parseTimestamp_timeDocument q.asOf "as_of"
  have hObservationRows : arrayValue ((payloadDocument q).field "observations") "observations" =
      .ok (q.observations.map observationDocument) := rfl
  have hSourceRows : arrayValue ((payloadDocument q).field "data_sources") "data_sources" =
      .ok (q.dataSources.map sourceDocument) := rfl
  have hTimeRows : arrayValue ((payloadDocument q).field "target_times") "target_times" =
      .ok (q.targetTimes.map timeDocument) := rfl
  rw [readPayload, hKeys]
  simp only [hAvailability, hObservationRows, hObservations, hSourceRows, hSources, hTimeRows, hTimes,
    hCutoff, hCurrency, ok_bind]
  rfl

theorem ordered_payloadDocument (q : ForecastInputSnapshotPayload Instant) :
    Ordered (payloadDocument q) := by
  have hText : ∀ s : String, Ordered (Json.plain s : Document) := fun _ => trivial
  have hTime : ∀ t, Ordered (timeDocument t) := fun _ => trivial
  have hObservation : ∀ o, Ordered (observationDocument o) := fun o =>
    ⟨(by decide : ["available_at", "observed_at", "value_f64"].Pairwise (· < ·)), trivial, trivial,
      trivial, trivial⟩
  have hSource : ∀ s, Ordered (sourceDocument s) := fun s =>
    ⟨(by decide : ["fields", "max_available_at", "name", "snapshot_id"].Pairwise (· < ·)),
      ordered_items hText s.fields, trivial, trivial, trivial, trivial⟩
  have hAvailability : ∀ a, Ordered (availabilityDocument a) := fun a =>
    ⟨(by decide : ["checked_at", "rule_set_hash", "status"].Pairwise (· < ·)),
      ordered_elim hTime a.checkedAt, ordered_elim hText a.ruleSetHash, trivial, trivial⟩
  rw [payloadDocument, Ordered]
  refine ⟨(by decide : ["as_of", "availability", "currency", "data_sources", "format", "horizon_unit",
    "input_multiplier", "input_timespan", "observations", "resolution_policy_hash", "schema_version",
    "series_basis", "symbol", "target", "target_times"].Pairwise (· < ·)), trivial, hAvailability _,
    ordered_elim hText _, ordered_items hSource _, trivial,
    trivial, trivial, trivial, ordered_items hObservation _, trivial, trivial, trivial, trivial, trivial,
    ordered_items hTime _, trivial⟩

end StockApi.Snapshots

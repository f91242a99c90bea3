import StockApi.Forecasts.AsciiRules
import StockApi.Forecasts.Collections
import StockApi.Library.ExactDecimal

/-!
# Forecast opportunities

`opportunity_manifest`: the identity of a forecast without its values. Two manifests are equal exactly
when the responses agree on what the manifest names.
-/

namespace StockApi.Forecasts

open Checked CivilTime Documents Groups Text
open Calibration (coverageMillis nearestMillis thousandth)

/-! ## The manifest -/

/-- The pattern `^[a-z][a-z0-9_-]{0,31}$`. -/
def IsOriginKind (s : String) : Prop :=
  (∃ c ∈ s.toList.head?, ('a' ≤ c && c ≤ 'z') = true) ∧ s.length ≤ 32 ∧
    s.toList.all (fun c => ('a' ≤ c && c ≤ 'z') || ('0' ≤ c && c ≤ '9') || c = '_' || c = '-') = true

instance (s : String) : Decidable (IsOriginKind s) := inferInstanceAs (Decidable (_ ∧ _ ∧ _))

/-- `_canonical_sha256`. -/
def canonicalSha256 (value label : String) : Except String String := do
  refuseIf (¬ IsHash value) (label ++ " must be a canonical sha256 hash")
  return value

/-- `_canonical_origin_kind`. -/
def canonicalOriginKind (value : String) : Except String String := do
  refuseIf (¬ IsOriginKind value) "origin_kind is not canonical"
  return value

/-- What a manifest says of a step. -/
structure OpportunityTarget where
  coverages : List Int
  step : Int
  time : ParsedDateTime

def opportunityTarget (s : ForecastStep) : Except String OpportunityTarget := do
  let coverages ← s.intervals.mapM fun i => coverageMillis i.coverage.1
  return ⟨sortOn id coverages, s.step, s.targetTime⟩

/-- What a manifest says of a calibration row. -/
structure OpportunityBucket where
  horizon : Int
  nominalCoverage : Int
  sampleCount : Int

def opportunityBucket (b : IntervalCalibration) : Except String OpportunityBucket := do
  let nominalCoverage ← coverageMillis b.nominalCoverage.1
  return ⟨b.horizon, nominalCoverage, b.sampleCount⟩

def OpportunityBucket.key (b : OpportunityBucket) : Int ×ₗ Int := toLex (b.horizon, b.nominalCoverage)

def OpportunityTarget.payload (t : OpportunityTarget) : Payload :=
  .dict [("interval_coverages_millis", .list (t.coverages.map .int)), ("step", .int t.step),
    ("target_time", .datetime t.time)]

def OpportunityBucket.payload (b : OpportunityBucket) : Payload :=
  .dict [("horizon", .int b.horizon), ("nominal_coverage_millis", .int b.nominalCoverage),
    ("sample_count", .int b.sampleCount)]

/-- The arguments of a manifest besides the response. -/
structure OpportunityContext where
  resolutionPolicyHash : String
  availabilityRuleSetHash : String
  originKind : String

/-- The payload of a manifest, its keys in order. -/
def opportunityPayload (r : ForecastResponse) (context : OpportunityContext) (targets : List OpportunityTarget)
    (buckets : List OpportunityBucket) (hash : String) : Payload :=
  .dict [("as_of", .datetime r.asOf), ("availability_rule_set_hash", .text context.availabilityRuleSetHash),
    ("calibration", .dict [("buckets", .list (buckets.map OpportunityBucket.payload)),
      ("calibration_set_version", .text r.calibration.calibrationSetVersion),
      ("method", .text (Literal.text r.calibration.method)), ("sample_count", .int r.calibration.sampleCount),
      ("window_end", .optional .date r.calibration.windowEnd),
      ("window_start", .optional .date r.calibration.windowStart)]),
    ("code_version", .optional .text r.provenance.codeVersion), ("currency", .optional .text r.currency),
    ("feature_set_hash", .text hash), ("horizon", .int r.horizon),
    ("horizon_unit", .text (Literal.text r.horizonUnit)),
    ("lookahead_status", .text (Literal.text r.provenance.lookaheadCheck.status)),
    ("max_available_at", .datetime r.provenance.maxAvailableAt),
    ("model_version", .text r.provenance.modelVersion), ("origin_kind", .text context.originKind),
    ("resolution_policy_hash", .text context.resolutionPolicyHash),
    ("series_basis", .text (Literal.text r.provenance.seriesBasis)),
    ("snapshot_id", .text r.provenance.snapshotId), ("symbol", .text r.symbol),
    ("target", .text (Literal.text r.target)), ("targets", .list (targets.map OpportunityTarget.payload))]

section Manifest

variable (rules : TextRules) (floats : FloatText)

/-- `opportunity_manifest`. -/
def opportunityManifest (response : ForecastResponse) (context : OpportunityContext) : Except String Bytes := do
  let normalized ← (validateResponse rules response).mapError fun _ => "ForecastResponse fails revalidation"
  let resolutionPolicyHash ← canonicalSha256 context.resolutionPolicyHash "resolution_policy_hash"
  let availabilityRuleSetHash ← canonicalSha256 context.availabilityRuleSetHash "availability_rule_set_hash"
  let originKind ← canonicalOriginKind context.originKind
  let targets ← normalized.forecasts.mapM opportunityTarget
  let buckets ← normalized.calibration.byInterval.mapM opportunityBucket
  let hash ← normalizedFeatureHash normalized.provenance.featureSetHash
  canonicalDocument rules floats "forecast-opportunity-v1"
    (opportunityPayload normalized ⟨resolutionPolicyHash, availabilityRuleSetHash, originKind⟩ targets
      (sortOn OpportunityBucket.key buckets) hash)

/-- `opportunity_hash`. -/
def opportunityHash (sha256 : Bytes → String) (response : ForecastResponse) (context : OpportunityContext) :
    Except String String := do
  let manifest ← opportunityManifest rules floats response context
  return sha256 manifest

end Manifest

/-! ## Coverages in thousandths -/

/-- The coverage in thousandths. -/
def millis (q : Double) : Int := nearestMillis q.1

theorem millis_of_thousandth {q : Double} {k : ℕ} (range : 1 ≤ k ∧ k ≤ 999) (h : q.1 = thousandth k) :
    millis q = k := by
  have hMillis := Calibration.coverageMillis_thousandth range
  rw [millis, h]
  rw [coverageMillis] at hMillis
  simp only [refuseIf_bind_eq_ok_iff, pure_eq_ok, Except.ok.injEq] at hMillis
  exact hMillis.2

theorem coverageMillis_of_isThousandth {q : Double} (h : IsThousandth q) :
    coverageMillis q.1 = .ok (millis q) := by
  obtain ⟨k, hRange, hValue⟩ := h
  rw [millis_of_thousandth hRange hValue, hValue]
  exact Calibration.coverageMillis_thousandth hRange

/-- Coverages are told apart by their thousandths. -/
theorem eq_of_millis {p q : Double} (hp : IsThousandth p) (hq : IsThousandth q) (h : millis p = millis q) :
    p = q := by
  obtain ⟨k, hRange, hValue⟩ := hp
  obtain ⟨l, hOther, hOtherValue⟩ := hq
  rw [millis_of_thousandth hRange hValue, millis_of_thousandth hOther hOtherValue] at h
  exact Subtype.ext (by rw [hValue, hOtherValue, h])

def ForecastStep.target (s : ForecastStep) : OpportunityTarget :=
  ⟨sortOn id (s.intervals.map fun i => millis i.coverage), s.step, s.targetTime⟩

def IntervalCalibration.bucket (b : IntervalCalibration) : OpportunityBucket :=
  ⟨b.horizon, millis b.nominalCoverage, b.sampleCount⟩

theorem opportunityTarget_of {s : ForecastStep} (h : SoundStep s) : opportunityTarget s = .ok s.target := by
  have hCoverages : s.intervals.mapM (fun i => coverageMillis i.coverage.1) =
      .ok (s.intervals.map fun i => millis i.coverage) := by
    apply mapM_of_forall₂
    rw [List.forall₂_map_right_iff, List.forall₂_same]
    exact fun i hMem => coverageMillis_of_isThousandth (h.intervals i hMem).nominal
  rw [opportunityTarget, hCoverages, ok_bind]
  rfl

theorem opportunityBucket_of {b : IntervalCalibration} (h : SoundBucket b) :
    opportunityBucket b = .ok b.bucket := by
  rw [opportunityBucket, coverageMillis_of_isThousandth h.nominal, ok_bind]
  rfl

/-! ## The document of a manifest -/

section Identity

variable {rules : TextRules} {floats : FloatText}

structure ContextValid (context : OpportunityContext) : Prop where
  policy : IsHash context.resolutionPolicyHash
  ruleSet : IsHash context.availabilityRuleSetHash
  origin : IsOriginKind context.originKind

def manifestPayload (r : ForecastResponse) (context : OpportunityContext) : Payload :=
  opportunityPayload r context (r.forecasts.map ForecastStep.target)
    (sortOn OpportunityBucket.key (r.calibration.byInterval.map IntervalCalibration.bucket))
    (featureHash r.provenance.featureSetHash)

theorem OpportunityTarget.keyed (t : OpportunityTarget) : Keyed t.payload :=
  ⟨(by decide : KeyOrder ["interval_coverages_millis", "step", "target_time"]),
    keyed_list keyed_int _, trivial, trivial, trivial⟩

theorem OpportunityBucket.keyed (b : OpportunityBucket) : Keyed b.payload :=
  ⟨(by decide : KeyOrder ["horizon", "nominal_coverage_millis", "sample_count"]), trivial, trivial, trivial,
    trivial⟩

theorem keyed_manifest (r : ForecastResponse) (context : OpportunityContext) :
    Keyed (manifestPayload r context) :=
  ⟨(by decide : KeyOrder ["as_of", "availability_rule_set_hash", "calibration", "code_version", "currency",
      "feature_set_hash", "horizon", "horizon_unit", "lookahead_status", "max_available_at", "model_version",
      "origin_kind", "resolution_policy_hash", "series_basis", "snapshot_id", "symbol", "target", "targets"]),
    trivial, trivial,
    ⟨(by decide : KeyOrder ["buckets", "calibration_set_version", "method", "sample_count", "window_end",
        "window_start"]),
      keyed_list OpportunityBucket.keyed _, trivial, trivial, trivial, keyed_optional keyed_date _,
      keyed_optional keyed_date _, trivial⟩,
    keyed_optional keyed_text _, keyed_optional keyed_text _, trivial, trivial, trivial, trivial, trivial,
    trivial, trivial, trivial, trivial, trivial, trivial, trivial, keyed_list OpportunityTarget.keyed _, trivial⟩

theorem timed_manifest {r : ForecastResponse} {context : OpportunityContext} :
    Timed (manifestPayload r context) ↔ r.asOf.toInstant.isSome = true ∧
      r.provenance.maxAvailableAt.toInstant.isSome = true ∧
      ∀ s ∈ r.forecasts, s.targetTime.toInstant.isSome = true := by
  have hBuckets : Timed (.list ((sortOn OpportunityBucket.key
      (r.calibration.byInterval.map IntervalCalibration.bucket)).map OpportunityBucket.payload)) :=
    timed_list.mpr fun _ _ => ⟨trivial, trivial, trivial, trivial⟩
  have hTargets : Timed (.list ((r.forecasts.map ForecastStep.target).map OpportunityTarget.payload)) ↔
      ∀ s ∈ r.forecasts, s.targetTime.toInstant.isSome = true := by
    rw [timed_list, List.forall_mem_map]
    refine forall₂_congr fun s _ => ?_
    have hCoverages : Timed (.list (s.target.coverages.map .int)) := timed_list.mpr fun _ _ => trivial
    exact ⟨fun h => h.2.2.1, fun h => ⟨hCoverages, trivial, h, trivial⟩⟩
  have hCode : Timed (.optional .text r.provenance.codeVersion) := timed_optional.mpr fun _ _ => trivial
  have hCurrency : Timed (.optional .text r.currency) := timed_optional.mpr fun _ _ => trivial
  have hStart : Timed (.optional .date r.calibration.windowStart) := timed_optional.mpr fun _ _ => trivial
  have hEnd : Timed (.optional .date r.calibration.windowEnd) := timed_optional.mpr fun _ _ => trivial
  constructor
  · rintro ⟨hAsOf, -, -, -, -, -, -, -, -, hAvailable, -, -, -, -, -, -, -, hSteps, -⟩
    exact ⟨hAsOf, hAvailable, hTargets.mp hSteps⟩
  · rintro ⟨hAsOf, hAvailable, hSteps⟩
    exact ⟨hAsOf, trivial, ⟨hBuckets, trivial, trivial, trivial, hEnd, hStart, trivial⟩, hCode, hCurrency, trivial,
      trivial, trivial, trivial, hAvailable, trivial, trivial, trivial, trivial, trivial, trivial, trivial,
      hTargets.mpr hSteps, trivial⟩

theorem spelled_list {α : Type} {write : α → Payload} (h : ∀ a, Spelled floats ((write a).document rules))
    (values : List α) : Spelled floats ((Payload.list (values.map write)).document rules) := by
  rw [document_list, Spelled]
  exact spelled_items h values

theorem spelled_optional {α : Type} {write : α → Payload} (h : ∀ a, Spelled floats ((write a).document rules))
    (o : Option α) : Spelled floats ((Payload.optional write o).document rules) := by
  rw [document_optional]
  exact spelled_elim h o

theorem spelled_manifest (r : ForecastResponse) (context : OpportunityContext) :
    Spelled floats ((manifestPayload r context).document rules) := by
  have hText : ∀ s, Spelled floats ((Payload.text s).document rules) := fun _ => trivial
  have hDate : ∀ d, Spelled floats ((Payload.date d).document rules) := fun _ => trivial
  have hInt : ∀ n, Spelled floats ((Payload.int n).document rules) := fun _ => trivial
  have hBucket : ∀ b : OpportunityBucket, Spelled floats (b.payload.document rules) := fun _ =>
    ⟨(by decide : ["horizon", "nominal_coverage_millis", "sample_count"].Pairwise (· < ·)), trivial, trivial,
      trivial, trivial⟩
  have hTarget : ∀ t : OpportunityTarget, Spelled floats (t.payload.document rules) := fun _ =>
    ⟨(by decide : ["interval_coverages_millis", "step", "target_time"].Pairwise (· < ·)),
      spelled_list hInt _, trivial, trivial, trivial⟩
  exact ⟨(by decide : ["as_of", "availability_rule_set_hash", "calibration", "code_version", "currency",
      "feature_set_hash", "horizon", "horizon_unit", "lookahead_status", "max_available_at", "model_version",
      "origin_kind", "resolution_policy_hash", "series_basis", "snapshot_id", "symbol", "target",
      "targets"].Pairwise (· < ·)),
    trivial, trivial,
    ⟨(by decide : ["buckets", "calibration_set_version", "method", "sample_count", "window_end",
        "window_start"].Pairwise (· < ·)),
      spelled_list hBucket _, trivial, trivial, trivial, spelled_optional hDate _, spelled_optional hDate _,
      trivial⟩,
    spelled_optional hText _, spelled_optional hText _, trivial, trivial, trivial, trivial, trivial, trivial,
    trivial, trivial, trivial, trivial, trivial, trivial, spelled_list hTarget _, trivial⟩

theorem opportunityManifest_eq_ok_iff {r : ForecastResponse} (h : SoundResponse rules r)
    {context : OpportunityContext} {m : Bytes} :
    opportunityManifest rules floats r context = .ok m ↔ ContextValid context ∧ Timed (manifestPayload r context) ∧
      m = dumps floats (wrapped "forecast-opportunity-v1" ((manifestPayload r context).document rules)) ∧
        m.length ≤ maxCanonicalBytes := by
  have hTargets : r.forecasts.mapM opportunityTarget = .ok (r.forecasts.map ForecastStep.target) := by
    apply mapM_of_forall₂
    rw [List.forall₂_map_right_iff, List.forall₂_same]
    exact fun s hMem => opportunityTarget_of (h.steps s hMem)
  have hBuckets : r.calibration.byInterval.mapM opportunityBucket =
      .ok (r.calibration.byInterval.map IntervalCalibration.bucket) := by
    apply mapM_of_forall₂
    rw [List.forall₂_map_right_iff, List.forall₂_same]
    exact fun b hMem => opportunityBucket_of (h.calibration.rows b hMem)
  have hDocument : canonicalDocument rules floats "forecast-opportunity-v1" (manifestPayload r context) = .ok m ↔
      Timed (manifestPayload r context) ∧
        m = dumps floats (wrapped "forecast-opportunity-v1" ((manifestPayload r context).document rules)) ∧
          m.length ≤ maxCanonicalBytes :=
    canonicalDocument_eq_ok_iff (by decide) (keyed_manifest r context)
  rw [opportunityManifest, h.validate]
  rw [Except.mapError, ok_bind]
  simp only [canonicalSha256, canonicalOriginKind, bind_assoc, refuseIf_bind_eq_ok_iff, not_not, pure_bind]
  rw [hTargets, ok_bind, hBuckets, ok_bind, normalizedFeatureHash_of h.provenance.hash, ok_bind]
  constructor
  · rintro ⟨hPolicy, hRules, hOrigin, hBytes⟩
    exact ⟨⟨hPolicy, hRules, hOrigin⟩, hDocument.mp hBytes⟩
  · rintro ⟨hContext, hBytes⟩
    exact ⟨hContext.policy, hContext.ruleSet, hContext.origin, hDocument.mpr hBytes⟩

/-! ## Agreement -/

/-- The instants of two datetimes agree. -/
def SameTime (t u : ParsedDateTime) : Prop := t.toInstant = u.toInstant

/-- The steps agree on their numbers, their target times and the multisets of their coverages. -/
def StepAgrees (s t : ForecastStep) : Prop :=
  s.step = t.step ∧ SameTime s.targetTime t.targetTime ∧
    (s.intervals.map fun i => millis i.coverage).Perm (t.intervals.map fun i => millis i.coverage)

/-- What a calibration row says besides its measured coverage. -/
def IntervalCalibration.counts (b : IntervalCalibration) : Int × Int × Int :=
  (b.horizon, millis b.nominalCoverage, b.sampleCount)

/-- Responses that agree on what identifies a forecast: not its identifier, its generation and check times,
its values, its lineage or the order of its intervals and rows. -/
structure Agrees (rules : TextRules) (r s : ForecastResponse) : Prop where
  asOf : SameTime r.asOf s.asOf
  symbol : rules.nfc r.symbol = rules.nfc s.symbol
  target : r.target = s.target
  currency : r.currency.map rules.nfc = s.currency.map rules.nfc
  horizon : r.horizon = s.horizon
  horizonUnit : r.horizonUnit = s.horizonUnit
  seriesBasis : r.provenance.seriesBasis = s.provenance.seriesBasis
  snapshotId : rules.nfc r.provenance.snapshotId = rules.nfc s.provenance.snapshotId
  modelVersion : rules.nfc r.provenance.modelVersion = rules.nfc s.provenance.modelVersion
  codeVersion : r.provenance.codeVersion.map rules.nfc = s.provenance.codeVersion.map rules.nfc
  hash : (hashDigits r.provenance.featureSetHash).map Char.toLower =
    (hashDigits s.provenance.featureSetHash).map Char.toLower
  status : r.provenance.lookaheadCheck.status = s.provenance.lookaheadCheck.status
  maxAvailableAt : SameTime r.provenance.maxAvailableAt s.provenance.maxAvailableAt
  steps : List.Forall₂ StepAgrees r.forecasts s.forecasts
  calibrationSetVersion :
    rules.nfc r.calibration.calibrationSetVersion = rules.nfc s.calibration.calibrationSetVersion
  method : r.calibration.method = s.calibration.method
  windowStart : r.calibration.windowStart = s.calibration.windowStart
  windowEnd : r.calibration.windowEnd = s.calibration.windowEnd
  sampleCount : r.calibration.sampleCount = s.calibration.sampleCount
  rows : (r.calibration.byInterval.map IntervalCalibration.counts).Perm
    (s.calibration.byInterval.map IntervalCalibration.counts)

theorem plain_inj {a b : String} : (Json.plain a : Document) = .plain b ↔ a = b := by
  simp [Json.plain]

theorem nfc_literal_inj {α : Type} [Literal α] {a b : α} :
    rules.nfc (Literal.text a) = rules.nfc (Literal.text b) ↔ a = b := by
  rw [rules.nfc_ascii _ (Literal.ascii a), rules.nfc_ascii _ (Literal.ascii b)]
  exact Literal.text_injective.eq_iff

theorem utcText_inj {t u : ParsedDateTime} (ht : t.toInstant.isSome = true) (hu : u.toInstant.isSome = true) :
    utcText t = utcText u ↔ SameTime t u := by
  obtain ⟨a, hA⟩ := Option.isSome_iff_exists.mp ht
  obtain ⟨b, hB⟩ := Option.isSome_iff_exists.mp hu
  rw [SameTime, utcText, utcText, hA, hB, Option.some_inj]
  exact Instant.timestamp_injective.eq_iff

theorem optional_text_inj {o p : Option String} :
    (Payload.optional .text o).document rules = (Payload.optional .text p).document rules ↔
      o.map rules.nfc = p.map rules.nfc := by
  cases o <;> cases p <;> simp [Payload.optional, Payload.document, Json.plain]

theorem optional_date_inj {o p : Option Date} :
    (Payload.optional .date o).document rules = (Payload.optional .date p).document rules ↔ o = p := by
  cases o <;> cases p <;> simp [Payload.optional, Payload.document, Json.plain, Date.isoformat_injective.eq_iff]

theorem document_list_inj {α β : Type} {f : α → Payload} {g : β → Payload} {xs : List α} {ys : List β} :
    (Payload.list (xs.map f)).document rules = (Payload.list (ys.map g)).document rules ↔
      List.Forall₂ (fun a b => (f a).document rules = (g b).document rules) xs ys := by
  rw [document_list, document_list, Json.arr.injEq, ← List.forall₂_eq_eq_eq, List.forall₂_map_left_iff,
    List.forall₂_map_right_iff]

theorem sortOn_id_inj {α : Type} [LinearOrder α] {xs ys : List α} : sortOn id xs = sortOn id ys ↔ xs.Perm ys := by
  constructor
  · intro h
    exact (sortOn_perm xs).symm.trans (h ▸ sortOn_perm ys)
  · exact fun h => sortOn_congr h fun _ _ _ _ hKey => hKey

theorem target_document_inj {s t : ForecastStep} (hs : s.targetTime.toInstant.isSome = true)
    (ht : t.targetTime.toInstant.isSome = true) :
    s.target.payload.document rules = t.target.payload.document rules ↔ StepAgrees s t := by
  have hCoverages : (Payload.list (s.target.coverages.map .int)).document rules =
      (Payload.list (t.target.coverages.map .int)).document rules ↔
      s.target.coverages = t.target.coverages := by
    rw [document_list_inj]
    simp
  have hTime : utcText s.target.time = utcText t.target.time ↔ SameTime s.targetTime t.targetTime :=
    utcText_inj hs ht
  simp only [OpportunityTarget.payload, document_dict, documentEntries, Json.obj.injEq, List.cons.injEq,
    Prod.mk.injEq, true_and, and_true, hCoverages, document_int, Json.int.injEq, document_datetime,
    plain_inj, hTime]
  rw [StepAgrees, ← sortOn_id_inj]
  exact ⟨fun ⟨a, b, c⟩ => ⟨b, c, a⟩, fun ⟨b, c, a⟩ => ⟨a, b, c⟩⟩

theorem bucket_document_inj {a b : OpportunityBucket} :
    a.payload.document rules = b.payload.document rules ↔ a = b := by
  cases a
  cases b
  simp [OpportunityBucket.payload, documentEntries]

/-- Sorted calibration rows are equal when the rows are the same up to their order. -/
theorem sorted_buckets_inj {r s : ForecastCalibration} (hr : SoundCalibration rules r) :
    sortOn OpportunityBucket.key (r.byInterval.map IntervalCalibration.bucket) =
      sortOn OpportunityBucket.key (s.byInterval.map IntervalCalibration.bucket) ↔
      (r.byInterval.map IntervalCalibration.counts).Perm (s.byInterval.map IntervalCalibration.counts) := by
  have hCounts : ∀ rows : List IntervalCalibration, rows.map IntervalCalibration.counts =
      (rows.map IntervalCalibration.bucket).map fun b => (b.horizon, b.nominalCoverage, b.sampleCount) := by
    intro rows
    rw [List.map_map]
    rfl
  have hInjective : Function.Injective fun b : OpportunityBucket => (b.horizon, b.nominalCoverage, b.sampleCount) := by
    rintro ⟨_, _, _⟩ ⟨_, _, _⟩ h
    simp only [Prod.mk.injEq] at h
    obtain ⟨rfl, rfl, rfl⟩ := h
    rfl
  have hDistinct : (buckets r.byInterval).Nodup := by
    have hWindow := hr.window
    simp only [validateWindow, refuseIf_bind_eq_ok_iff, refuseIf_eq_ok_iff, not_not] at hWindow
    exact hWindow.2.2.2
  rw [hCounts, hCounts, List.map_perm_map_iff hInjective]
  constructor
  · intro h
    have hSorted : (sortOn OpportunityBucket.key (r.byInterval.map IntervalCalibration.bucket)).Perm
        (r.byInterval.map IntervalCalibration.bucket) := sortOn_perm _
    rw [h] at hSorted
    exact hSorted.symm.trans (sortOn_perm _)
  · intro h
    apply sortOn_congr h
    intro a ha b hb hKey
    obtain ⟨p, hP, rfl⟩ := List.mem_map.mp ha
    obtain ⟨q, hQ, rfl⟩ := List.mem_map.mp hb
    have hHorizon : p.horizon = q.horizon := congrArg (fun k => (ofLex k).1) hKey
    have hMillis : millis p.nominalCoverage = millis q.nominalCoverage := congrArg (fun k => (ofLex k).2) hKey
    have hNominal := eq_of_millis (hr.rows p hP).nominal (hr.rows q hQ).nominal hMillis
    rw [List.inj_on_of_nodup_map hDistinct hP hQ (Prod.ext hHorizon hNominal)]

theorem featureHash_inj {a b : String} :
    featureHash a = featureHash b ↔ (hashDigits a).map Char.toLower = (hashDigits b).map Char.toLower := by
  rw [featureHash, featureHash, String.ofList_inj, List.append_cancel_left_eq]

theorem ascii_of_le {c d : Char} (h : c ≤ d) (small : d.toNat < 128) : c.toNat < 128 :=
  lt_of_le_of_lt h small

theorem isHash_ascii {s : String} (h : IsHash s) : IsAscii s := by
  intro c hMem
  rw [← List.take_append_drop 7 s.toList, List.mem_append] at hMem
  rcases hMem with hMem | hMem
  · rw [h.1] at hMem
    exact (hashMark_chars c hMem).1
  · have hDigit := List.all_eq_true.mp h.2.2 c hMem
    simp only [hexChar, Bool.or_eq_true, Bool.and_eq_true, decide_eq_true_eq] at hDigit
    rcases hDigit with ⟨-, hMost⟩ | ⟨-, hMost⟩
    · exact ascii_of_le hMost (by decide)
    · exact ascii_of_le hMost (by decide)

theorem isOriginKind_ascii {s : String} (h : IsOriginKind s) : IsAscii s := by
  intro c hMem
  have hChar := List.all_eq_true.mp h.2.2 c hMem
  simp only [Bool.or_eq_true, Bool.and_eq_true, decide_eq_true_eq] at hChar
  rcases hChar with ((⟨-, hMost⟩ | ⟨-, hMost⟩) | rfl) | rfl
  · exact ascii_of_le hMost (by decide)
  · exact ascii_of_le hMost (by decide)
  · decide
  · decide

theorem nfc_ascii_inj {a b : String} (ha : IsAscii a) (hb : IsAscii b) :
    rules.nfc a = rules.nfc b ↔ a = b := by
  rw [rules.nfc_ascii a ha, rules.nfc_ascii b hb]

theorem context_inj {c d : OpportunityContext} : c = d ↔
    c.availabilityRuleSetHash = d.availabilityRuleSetHash ∧ c.originKind = d.originKind ∧
      c.resolutionPolicyHash = d.resolutionPolicyHash := by
  constructor
  · rintro rfl
    exact ⟨rfl, rfl, rfl⟩
  · cases c
    cases d
    rintro ⟨rfl, rfl, rfl⟩
    rfl

theorem nfc_featureHash_inj {a b : String} (ha : IsFeatureHash a) (hb : IsFeatureHash b) :
    rules.nfc (featureHash a) = rules.nfc (featureHash b) ↔
      (hashDigits a).map Char.toLower = (hashDigits b).map Char.toLower := by
  rw [nfc_featureHash rules ha, nfc_featureHash rules hb, featureHash_inj]

theorem manifest_document_inj {r s : ForecastResponse} {c d : OpportunityContext} (hr : SoundResponse rules r)
    (hs : SoundResponse rules s) (hc : ContextValid c) (hd : ContextValid d) (timed : Timed (manifestPayload r c))
    (others : Timed (manifestPayload s d)) :
    (manifestPayload r c).document rules = (manifestPayload s d).document rules ↔ Agrees rules r s ∧ c = d := by
  obtain ⟨hAsOf, hAvailable, hSteps⟩ := timed_manifest.mp timed
  obtain ⟨hOtherAsOf, hOtherAvailable, hOtherSteps⟩ := timed_manifest.mp others
  have hTargets : (Payload.list ((r.forecasts.map ForecastStep.target).map OpportunityTarget.payload)).document rules =
      (Payload.list ((s.forecasts.map ForecastStep.target).map OpportunityTarget.payload)).document rules ↔
      List.Forall₂ StepAgrees r.forecasts s.forecasts := by
    rw [List.map_map, List.map_map, document_list_inj, List.forall₂_iff_zip, List.forall₂_iff_zip]
    refine and_congr Iff.rfl (forall_congr' fun t => forall_congr' fun u => imp_congr_right fun hMem => ?_)
    exact target_document_inj (hSteps t (List.of_mem_zip hMem).1) (hOtherSteps u (List.of_mem_zip hMem).2)
  have hBuckets : ∀ xs ys : List OpportunityBucket,
      (Payload.list (xs.map OpportunityBucket.payload)).document rules =
        (Payload.list (ys.map OpportunityBucket.payload)).document rules ↔ xs = ys := by
    intro xs ys
    rw [document_list_inj]
    simp only [bucket_document_inj, List.forall₂_eq_eq_eq]
  have hPolicy : rules.nfc c.resolutionPolicyHash = rules.nfc d.resolutionPolicyHash ↔ _ :=
    nfc_ascii_inj (isHash_ascii hc.policy) (isHash_ascii hd.policy)
  have hRuleSet : rules.nfc c.availabilityRuleSetHash = rules.nfc d.availabilityRuleSetHash ↔ _ :=
    nfc_ascii_inj (isHash_ascii hc.ruleSet) (isHash_ascii hd.ruleSet)
  have hOrigin : rules.nfc c.originKind = rules.nfc d.originKind ↔ _ :=
    nfc_ascii_inj (isOriginKind_ascii hc.origin) (isOriginKind_ascii hd.origin)
  simp only [manifestPayload, opportunityPayload, document_dict, documentEntries, Json.obj.injEq,
    List.cons.injEq, Prod.mk.injEq, true_and, and_true, document_datetime, document_text, document_int,
    Json.int.injEq, plain_inj, hTargets, hBuckets, optional_text_inj, optional_date_inj, nfc_literal_inj, hPolicy,
    hRuleSet, hOrigin, utcText_inj hAsOf hOtherAsOf, utcText_inj hAvailable hOtherAvailable,
    nfc_featureHash_inj hr.provenance.hash hs.provenance.hash, sorted_buckets_inj hr.calibration, context_inj]
  constructor
  · rintro ⟨asOf, ruleSet, ⟨rows, version, method, count, last, start⟩, code, currency, hash, horizon, unit, status,
      available, model, origin, policy, basis, snapshot, symbol, target, steps⟩
    exact ⟨⟨asOf, symbol, target, currency, horizon, unit, basis, snapshot, model, code, hash, status, available,
      steps, version, method, start, last, count, rows⟩, ruleSet, origin, policy⟩
  · rintro ⟨h, ruleSet, origin, policy⟩
    exact ⟨h.asOf, ruleSet, ⟨h.rows, h.calibrationSetVersion, h.method, h.sampleCount, h.windowEnd, h.windowStart⟩,
      h.codeVersion, h.currency, h.hash, h.horizon, h.horizonUnit, h.status, h.maxAvailableAt, h.modelVersion,
      origin, policy, h.seriesBasis, h.snapshotId, h.symbol, h.target, h.steps⟩

theorem Agrees.timed {r s : ForecastResponse} {c d : OpportunityContext} (h : Agrees rules r s)
    (timed : Timed (manifestPayload r c)) : Timed (manifestPayload s d) := by
  obtain ⟨hAsOf, hAvailable, hSteps⟩ := timed_manifest.mp timed
  refine timed_manifest.mpr ⟨h.asOf ▸ hAsOf, h.maxAvailableAt ▸ hAvailable, ?_⟩
  intro u hMem
  obtain ⟨t, hStep, -, hTime, -⟩ := exists_left_of_forall₂ h.steps hMem
  exact hTime ▸ hSteps t hStep

/-- Responses that agree have one manifest. -/
theorem Agrees.manifest {r s : ForecastResponse} {c : OpportunityContext} {m : Bytes} (h : Agrees rules r s)
    (hr : SoundResponse rules r) (hs : SoundResponse rules s)
    (hManifest : opportunityManifest rules floats r c = .ok m) :
    opportunityManifest rules floats s c = .ok m := by
  obtain ⟨hc, hTimed, hBytes, hLength⟩ := (opportunityManifest_eq_ok_iff hr).mp hManifest
  have hOther : Timed (manifestPayload s c) := h.timed hTimed
  have hDocument := (manifest_document_inj hr hs hc hc hTimed hOther).mpr ⟨h, rfl⟩
  rw [opportunityManifest_eq_ok_iff hs, ← hDocument]
  exact ⟨hc, hOther, hBytes, hLength⟩

/-! ## The identity -/

/-- The response with other values, identifiers and times of generation, its intervals and rows in any
order; each row keeps its horizon, its coverage and its count. -/
structure Revalued (r s : ForecastResponse) : Prop where
  rest : s = { r with
    forecasts := s.forecasts
    provenance := { r.provenance with
      forecastId := s.provenance.forecastId
      generatedAt := s.provenance.generatedAt
      lookaheadCheck := { r.provenance.lookaheadCheck with
        checkedAt := s.provenance.lookaheadCheck.checkedAt } }
    calibration := { r.calibration with byInterval := s.calibration.byInterval } }
  steps : List.Forall₂ (fun t u => t.step = u.step ∧ t.targetTime = u.targetTime ∧
    (t.intervals.map ForecastInterval.coverage).Perm (u.intervals.map ForecastInterval.coverage))
    r.forecasts s.forecasts
  rows : (r.calibration.byInterval.map fun b => (b.horizon, b.nominalCoverage, b.sampleCount)).Perm
    (s.calibration.byInterval.map fun b => (b.horizon, b.nominalCoverage, b.sampleCount))

theorem Revalued.agrees {r s : ForecastResponse} (h : Revalued r s) : Agrees rules r s := by
  have hSteps : List.Forall₂ StepAgrees r.forecasts s.forecasts := by
    refine h.steps.imp fun t u hStep => ⟨hStep.1, congrArg ParsedDateTime.toInstant hStep.2.1, ?_⟩
    have hPerm := hStep.2.2.map millis
    rwa [List.map_map, List.map_map] at hPerm
  have hRows : (r.calibration.byInterval.map IntervalCalibration.counts).Perm
      (s.calibration.byInterval.map IntervalCalibration.counts) := by
    have hPerm := h.rows.map fun b => (b.1, millis b.2.1, b.2.2)
    rwa [List.map_map, List.map_map] at hPerm
  have hRest := h.rest
  rw [hRest]
  exact {
    asOf := rfl
    symbol := rfl
    target := rfl
    currency := rfl
    horizon := rfl
    horizonUnit := rfl
    seriesBasis := rfl
    snapshotId := rfl
    modelVersion := rfl
    codeVersion := rfl
    hash := rfl
    status := rfl
    maxAvailableAt := rfl
    steps := hSteps
    calibrationSetVersion := rfl
    method := rfl
    windowStart := rfl
    windowEnd := rfl
    sampleCount := rfl
    rows := hRows }

variable (rules floats)

/-- A response that the schema returns as it is. -/
def SchemaValid (r : ForecastResponse) : Prop := validateResponse rules r = .ok r

theorem SchemaValid.sound {rules : TextRules} {r : ForecastResponse} (h : SchemaValid rules r) :
    SoundResponse rules r :=
  validateResponse_sound h

/-- Whatever the schema returns is schema-valid. -/
theorem schemaValid_of_validate {rules : TextRules} {r s : ForecastResponse}
    (h : validateResponse rules r = .ok s) : SchemaValid rules s :=
  (validateResponse_sound h).validate

/-- Manifests are equal exactly when the responses and the arguments agree on what identifies a forecast, and
no value changes the hash. -/
theorem opportunity_identity :
    (∀ (r s : ForecastResponse) (c d : OpportunityContext) (m n : Bytes),
      SchemaValid rules r → SchemaValid rules s → opportunityManifest rules floats r c = .ok m →
      opportunityManifest rules floats s d = .ok n → (m = n ↔ Agrees rules r s ∧ c = d)) ∧
    ∀ (sha256 : Bytes → String) (r s : ForecastResponse) (c : OpportunityContext) (hash : String),
      SchemaValid rules r → SchemaValid rules s → Revalued r s →
      opportunityHash rules floats sha256 r c = .ok hash → opportunityHash rules floats sha256 s c = .ok hash := by
  constructor
  · intro r s c d m n hr hs hm hn
    obtain ⟨hc, hTimed, rfl, -⟩ := (opportunityManifest_eq_ok_iff hr.sound).mp hm
    obtain ⟨hd, hOther, rfl, -⟩ := (opportunityManifest_eq_ok_iff hs.sound).mp hn
    rw [← manifest_document_inj hr.sound hs.sound hc hd hTimed hOther]
    constructor
    · exact payload_of_dumps (spelled_manifest r c) (spelled_manifest s d)
    · intro h
      rw [h]
  · intro sha256 r s c hash hr hs hSame hHash
    rw [opportunityHash, bind_eq_ok_iff] at hHash ⊢
    obtain ⟨m, hManifest, hValue⟩ := hHash
    exact ⟨m, hSame.agrees.manifest hr.sound hs.sound hManifest, hValue⟩

end Identity

/-! ## Two days of forecasts -/

/-- Whole numbers from the range of one exponent. -/
theorem isDouble_dollars {n : ℕ} (h : 256 ≤ n ∧ n < 512) : Float64.IsDouble n := by
  have hBounds : 2 ^ 52 ≤ n * 2 ^ 44 ∧ n * 2 ^ 44 < 2 ^ 53 := by omega
  have hValue : ((n * 2 ^ 44 : ℕ) : ℚ) * 2 ^ ((8 : ℤ) - 52) = n := by
    push_cast
    rw [mul_assoc]
    norm_num
  exact hValue ▸ Float64.isDouble_of_significand hBounds (by decide)

def dollars (n : ℕ) : Double :=
  if h : 256 ≤ n ∧ n < 512 then ⟨n, isDouble_dollars h⟩ else ⟨0, Float64.isDouble_zero⟩

def millesimal (k : ℕ) : Double :=
  if h : 1 ≤ k ∧ k ≤ 999 then ⟨thousandth k, isDouble_thousandth h⟩ else ⟨0, Float64.isDouble_zero⟩

theorem maxDays_pos : 0 < maxDays := by decide

/-- A day of January 2024. -/
def january (day : ℕ) : Date :=
  if h : 738884 + day < maxDays then Date.ofDays (738884 + day) h else Date.ofDays 0 maxDays_pos

/-- Nine o'clock in the evening. -/
def evening (day : ℕ) : ParsedDateTime := ⟨january day, 75600000000, some 0⟩

/-- A forecast around a middle value; its coverages are differences of its levels. -/
def sampleStep (step middle : ℕ) (order : List ForecastInterval → List ForecastInterval) : ForecastStep where
  step := step
  targetTime := evening (2 + step)
  point := dollars middle
  quantiles := [⟨millesimal 125, dollars (middle - 6)⟩, ⟨millesimal 250, dollars (middle - 3)⟩,
    ⟨millesimal 500, dollars middle⟩, ⟨millesimal 750, dollars (middle + 3)⟩, ⟨millesimal 875, dollars (middle + 5)⟩]
  intervals := order
    [⟨millesimal 500, millesimal 250, millesimal 750, dollars (middle - 3), dollars (middle + 3)⟩,
      ⟨millesimal 750, millesimal 125, millesimal 875, dollars (middle - 6), dollars (middle + 5)⟩]

def sampleRow (empirical horizon coverage : ℕ) : IntervalCalibration where
  horizon := horizon
  nominalCoverage := millesimal coverage
  empiricalCoverage := some (millesimal empirical)
  sampleCount := 32
  confidenceLow := some (millesimal 375)
  confidenceHigh := some (millesimal 875)

def hexDigits : List Char := ['0', '1', '2', '3', '4', '5', '6', '7', '8', '9', 'a', 'b', 'c', 'd', 'e', 'f']

def sampleDigest : String :=
  String.ofList (['s', 'h', 'a', '2', '5', '6', ':'] ++ (List.replicate 4 hexDigits).flatten)

theorem sampleDigest_isHash : IsHash sampleDigest := isHash_ofList (by decide)

def sampleProvenance : ForecastProvenance where
  forecastId := 1
  snapshotId := "snapshot-1"
  modelVersion := "naive-1"
  seriesBasis := .raw
  featureSetHash := sampleDigest
  maxAvailableAt := evening 2
  generatedAt := evening 2
  codeVersion := some "1.4.0"
  dataSources := [⟨"alpaca", "bars-2", evening 2, ["close", "volume"]⟩, ⟨"polygon", "bars-1", evening 1, ["close"]⟩]
  lookaheadCheck := ⟨.passed, evening 2, evening 2, []⟩

def sampleCalibration : ForecastCalibration where
  calibrationSetVersion := "residuals-1"
  method := .empiricalResidual
  windowStart := some (january 1)
  windowEnd := some (january 2)
  sampleCount := 64
  byInterval := [sampleRow 500 1 500, sampleRow 500 1 750, sampleRow 500 2 500, sampleRow 500 2 750]

def sampleResponse : ForecastResponse where
  symbol := "SPY"
  target := .close
  horizon := 2
  horizonUnit := .tradingDay
  asOf := evening 2
  currency := some "USD"
  forecasts := [sampleStep 1 470 id, sampleStep 2 471 id]
  provenance := sampleProvenance
  calibration := sampleCalibration
  disclaimer := "Not investment advice."

/-- Another run with other values, its intervals and rows in another order. -/
def revaluedResponse : ForecastResponse :=
  { sampleResponse with
    forecasts := [sampleStep 1 480 List.reverse, sampleStep 2 482 id]
    provenance := { sampleProvenance with
      forecastId := 2
      generatedAt := evening 3
      lookaheadCheck := ⟨.passed, evening 3, evening 2, []⟩ }
    calibration := { sampleCalibration with
      byInterval := [sampleRow 625 2 750, sampleRow 625 1 500, sampleRow 625 1 750, sampleRow 625 2 500] } }

/-- The run of another model. -/
def remodelledResponse : ForecastResponse :=
  { sampleResponse with provenance := { sampleProvenance with modelVersion := "drift-1" } }

def sampleContext : OpportunityContext := ⟨sampleDigest, sampleDigest, "api"⟩

theorem samples_valid : SchemaValid asciiRules sampleResponse ∧ SchemaValid asciiRules revaluedResponse ∧
    SchemaValid asciiRules remodelledResponse := by
  unfold SchemaValid
  decide +kernel

theorem isOriginKind_api : IsOriginKind "api" := by
  have hChars : "api" = String.ofList ['a', 'p', 'i'] := rfl
  rw [hChars, IsOriginKind, String.toList_ofList, String.length_ofList]
  exact ⟨⟨'a', rfl, by decide⟩, by decide, by decide⟩

/-- The manifests of two responses whose documents are short. -/
theorem sample_manifests :
    (∃ m, opportunityManifest asciiRules ExactDecimal.floats sampleResponse sampleContext = .ok m) ∧
      ∃ n, opportunityManifest asciiRules ExactDecimal.floats remodelledResponse sampleContext = .ok n := by
  have hContext : ContextValid sampleContext := ⟨sampleDigest_isHash, sampleDigest_isHash, isOriginKind_api⟩
  have hManifest : ∀ r, SchemaValid asciiRules r → Timed (manifestPayload r sampleContext) →
      (JsonText.write [] (toValue ExactDecimal.floats (wrapped "forecast-opportunity-v1"
        ((manifestPayload r sampleContext).document asciiRules)))).length ≤ 1048576 →
      ∃ m, opportunityManifest asciiRules ExactDecimal.floats r sampleContext = .ok m := by
    intro r hValid hTimed hWritten
    exact ⟨_, (opportunityManifest_eq_ok_iff hValid.sound).mpr ⟨hContext, hTimed, rfl, bounded_of_write hWritten⟩⟩
  constructor
  · exact hManifest _ samples_valid.1 (timed_manifest.mpr (by decide +kernel)) (by decide +kernel)
  · exact hManifest _ samples_valid.2.2 (timed_manifest.mpr (by decide +kernel)) (by decide +kernel)

theorem sample_revalued : Revalued sampleResponse revaluedResponse where
  rest := rfl
  steps := .cons ⟨rfl, rfl, ((List.reverse_perm _).map _).symm⟩ (.cons ⟨rfl, rfl, .refl _⟩ .nil)
  rows := List.perm_append_singleton (2, millesimal 750, 32)
    [(1, millesimal 500, 32), (1, millesimal 750, 32), (2, millesimal 500, 32)]

/-- Another run keeps the hash, another model has another manifest. -/
theorem opportunity_identity_sample :
    (∃ hash, opportunityHash asciiRules ExactDecimal.floats byteDigits sampleResponse sampleContext = .ok hash ∧
      opportunityHash asciiRules ExactDecimal.floats byteDigits revaluedResponse sampleContext = .ok hash) ∧
    ∃ m n, opportunityManifest asciiRules ExactDecimal.floats sampleResponse sampleContext = .ok m ∧
      opportunityManifest asciiRules ExactDecimal.floats remodelledResponse sampleContext = .ok n ∧ m ≠ n := by
  obtain ⟨hValid, hRevalued, hRemodelled⟩ := samples_valid
  obtain ⟨⟨m, hSample⟩, n, hOther⟩ := sample_manifests
  have hHash : opportunityHash asciiRules ExactDecimal.floats byteDigits sampleResponse sampleContext =
      .ok (byteDigits m) := by
    rw [opportunityHash, hSample, ok_bind, pure_eq_ok]
  obtain ⟨hSame, hKept⟩ := opportunity_identity asciiRules ExactDecimal.floats
  refine ⟨⟨_, hHash, hKept _ _ _ _ _ hValid hRevalued sample_revalued hHash⟩,
    m, n, hSample, hOther, ?_⟩
  intro hEqual
  have hAgrees := ((hSame _ _ _ _ _ _ hValid hRemodelled hSample hOther).mp hEqual).1
  exact absurd hAgrees.modelVersion (by decide)

end StockApi.Forecasts

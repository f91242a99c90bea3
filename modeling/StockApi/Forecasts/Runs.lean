import StockApi.Forecasts.Archive

/-!
# Archived runs

`canonical_request`, `canonical_output` and their parsers. Collections are sorted before their texts are
brought into normal form, so what is archived is in order again only if normalizing keeps the order.
-/

namespace StockApi.Forecasts

open Checked CivilTime Documents Groups

section Codec

variable (rules : TextRules) (floats : FloatText) (coercions : Coercions)

/-! ## Writing and parsing -/

/-- `canonical_output`. -/
def canonicalOutput (response : ForecastResponse) : Except String Bytes := do
  let normalized ← (validateResponse rules response).mapError fun _ => "ForecastResponse fails revalidation"
  let collected ← normalizeOutputCollections normalized
  canonicalDocument rules floats "forecast-run-output-v1" collected.payload

/-- `parse_output`. -/
def parseOutput (canonicalPayload : Bytes) : Except String ForecastResponse := do
  let payload ← parseDocument floats canonicalPayload "forecast-run-output-v1"
  let invalid := "canonical output payload fails ForecastResponse validation"
  let fields ← orRefuse (readResponse coercions payload) invalid
  let response ← (validateResponse rules fields).mapError fun _ => invalid
  let canonical ← canonicalOutput rules floats response
  refuseIf (canonical ≠ canonicalPayload) "output payload bytes are not canonical"
  return response

/-- `canonical_request`. -/
def canonicalRequest (request : ForecastRequest) : Except String Bytes := do
  let normalized ← (validateRequest rules request).mapError fun _ => "ForecastRequest fails revalidation"
  let sorted := { normalized with
    intervalCoverages := sortOn (fun q => q.1) normalized.intervalCoverages }
  canonicalDocument rules floats "forecast-run-request-v1" sorted.payload

/-- `parse_request`. -/
def parseRequest (canonicalPayload : Bytes) : Except String ForecastRequest := do
  let payload ← parseDocument floats canonicalPayload "forecast-run-request-v1"
  let invalid := "canonical request payload fails ForecastRequest validation"
  let fields ← orRefuse (readRequest coercions payload) invalid
  let request ← (validateRequest rules fields).mapError fun _ => invalid
  let canonical ← canonicalRequest rules floats request
  refuseIf (canonical ≠ canonicalPayload) "request payload bytes are not canonical"
  return request

end Codec

/-! ## The order of what is archived -/

section Order

variable (rules : TextRules)

/-- Lists sorted before their texts were normalized are in order after it. -/
structure Ascending (r : ForecastResponse) : Prop where
  violations : ((sortOn id r.provenance.lookaheadCheck.violations).map rules.nfc).Pairwise (· ≤ ·)
  fields : ∀ s ∈ r.provenance.dataSources, ((sortOn id s.fields).map rules.nfc).Pairwise (· ≤ ·)
  sources : (r.archived rules).provenance.dataSources.Pairwise fun a b => byOrigin a ≤ byOrigin b

variable {rules}

theorem sortOn_sortOn {α κ : Type} [LinearOrder κ] (key : α → κ) (values : List α) :
    sortOn key (sortOn key values) = sortOn key values :=
  sortOn_eq_self_iff.mpr (sortOn_ascending values)

theorem ordered_step (s : ForecastStep) : s.ordered.normal.ordered = s.ordered.normal := by
  rw [ForecastStep.ordered, ForecastStep.normal, ForecastStep.ordered]
  simp only [sortOn_sortOn]

theorem sorted_fields {s : DataSourceLineage} : s.ordered = s ↔ s.fields.Pairwise (· ≤ ·) := by
  have hSorted : sortOn id s.fields = s.fields ↔ s.fields.Pairwise (· ≤ ·) := sortOn_eq_self_iff
  rw [← hSorted]
  constructor
  · exact congrArg DataSourceLineage.fields
  · intro h
    rw [DataSourceLineage.ordered, h]

theorem sorted_sources {sources : List DataSourceLineage} :
    sortOn byOrigin (sources.map DataSourceLineage.ordered) = sources ↔
      (∀ s ∈ sources, s.fields.Pairwise (· ≤ ·)) ∧ sources.Pairwise fun a b => byOrigin a ≤ byOrigin b := by
  have hMap : (∀ s ∈ sources, s.fields.Pairwise (· ≤ ·)) →
      sources.map DataSourceLineage.ordered = sources := fun h =>
    (List.map_congr_left fun s hMem => sorted_fields.mpr (h s hMem)).trans (List.map_id _)
  constructor
  · intro h
    have hFields : ∀ s ∈ sources, s.fields.Pairwise (· ≤ ·) := by
      intro s hMem
      rw [← h] at hMem
      obtain ⟨t, -, rfl⟩ := mem_orderedSources.mp hMem
      exact sortOn_ascending t.fields
    rw [hMap hFields] at h
    exact ⟨hFields, sortOn_eq_self_iff.mp h⟩
  · rintro ⟨hFields, hOrder⟩
    rw [hMap hFields]
    exact sortOn_eq_self_iff.mpr hOrder

theorem ordered_archived_iff {r : ForecastResponse} (hash : IsFeatureHash r.provenance.featureSetHash) :
    (r.archived rules).ordered = r.archived rules ↔ Ascending rules r := by
  have hFields : (∀ s ∈ (r.archived rules).provenance.dataSources, s.fields.Pairwise (· ≤ ·)) ↔
      ∀ s ∈ r.provenance.dataSources, ((sortOn id s.fields).map rules.nfc).Pairwise (· ≤ ·) := by
    change (∀ s ∈ (sortOn byOrigin (r.provenance.dataSources.map DataSourceLineage.ordered)).map _, _) ↔ _
    rw [List.forall_mem_map]
    constructor
    · intro h s hMem
      exact h s.ordered (mem_orderedSources.mpr ⟨s, hMem, rfl⟩)
    · intro h s hMem
      obtain ⟨t, hSource, rfl⟩ := mem_orderedSources.mp hMem
      exact h t hSource
  constructor
  · intro h
    have hViolations := congrArg (fun x => x.provenance.lookaheadCheck.violations) h
    have hSources := congrArg (fun x => x.provenance.dataSources) h
    obtain ⟨hEach, hOrder⟩ := sorted_sources.mp hSources
    exact ⟨sortOn_eq_self_iff.mp hViolations, hFields.mp hEach, hOrder⟩
  · intro h
    have hSteps : (r.archived rules).forecasts.map ForecastStep.ordered = (r.archived rules).forecasts := by
      change ((r.forecasts.map ForecastStep.ordered).map ForecastStep.normal).map _ =
        (r.forecasts.map ForecastStep.ordered).map ForecastStep.normal
      simp only [List.map_map]
      exact List.map_congr_left fun s _ => ordered_step s
    have hHash : featureHash (r.archived rules).provenance.featureSetHash =
        (r.archived rules).provenance.featureSetHash := by
      change featureHash (rules.nfc (featureHash _)) = rules.nfc (featureHash _)
      rw [nfc_featureHash rules hash, featureHash_featureHash hash]
    have hSources := sorted_sources.mpr ⟨hFields.mpr h.fields, h.sources⟩
    have hViolations : sortOn id (r.archived rules).provenance.lookaheadCheck.violations =
        (r.archived rules).provenance.lookaheadCheck.violations := sortOn_eq_self_iff.mpr h.violations
    have hRows : sortOn byBucket (r.archived rules).calibration.byInterval =
        (r.archived rules).calibration.byInterval := sortOn_sortOn byBucket r.calibration.byInterval
    rw [ForecastResponse.ordered, ForecastProvenance.ordered, ForecastCalibration.ordered,
      LookaheadCheck.ordered, hSteps, hHash, hSources, hViolations, hRows]

/-! ## Normal forms -/

/-- Texts in normal form, datetimes in UTC, the feature hash in lower case with its mark, and the
collections in order. -/
def ForecastResponse.normalForm (rules : TextRules) (r : ForecastResponse) : ForecastResponse :=
  (r.normal rules).ordered

theorem utc_of_utcText {s t : ParsedDateTime} (hs : s.toInstant.isSome = true)
    (ht : t.toInstant.isSome = true) (h : utcText s = utcText t) : utc s = utc t := by
  obtain ⟨a, hA⟩ := Option.isSome_iff_exists.mp hs
  obtain ⟨b, hB⟩ := Option.isSome_iff_exists.mp ht
  rw [utcText, utcText, hA, hB] at h
  have hSame : a = b := Instant.timestamp_injective h
  rw [utc, utc, hA, hB, hSame]
  rfl

theorem eq_of_byOrigin {a b : DataSourceLineage} (ha : a.maxAvailableAt.toInstant.isSome = true)
    (hb : b.maxAvailableAt.toInstant.isSome = true) (hua : utc a.maxAvailableAt = a.maxAvailableAt)
    (hub : utc b.maxAvailableAt = b.maxAvailableAt) (h : byOrigin a = byOrigin b) : a = b := by
  simp only [byOrigin, toLex_inj, Prod.mk.injEq] at h
  obtain ⟨hName, hSnapshot, hTime, hFields⟩ := h
  have hSame := utc_of_utcText ha hb hTime
  rw [hua, hub] at hSame
  cases a
  cases b
  simp_all

theorem sort_nfc_sort (rules : TextRules) (texts : List String) :
    sortOn id ((sortOn id texts).map rules.nfc) = sortOn id (texts.map rules.nfc) :=
  sortOn_congr ((sortOn_perm texts).map rules.nfc) fun _ _ _ _ h => h

theorem ordered_normal_ordered (s : DataSourceLineage) :
    (s.ordered.normal rules).ordered = (s.normal rules).ordered := by
  rw [DataSourceLineage.ordered, DataSourceLineage.normal, DataSourceLineage.ordered,
    DataSourceLineage.normal, DataSourceLineage.ordered]
  simp only [sort_nfc_sort]

theorem sortedSources_normal (rules : TextRules) {sources : List DataSourceLineage}
    (timed : ∀ s ∈ sources, s.maxAvailableAt.toInstant.isSome = true) :
    sortOn byOrigin (((sortOn byOrigin (sources.map DataSourceLineage.ordered)).map
      (DataSourceLineage.normal rules)).map DataSourceLineage.ordered) =
      sortOn byOrigin ((sources.map (DataSourceLineage.normal rules)).map DataSourceLineage.ordered) := by
  have hSorted : (sortOn byOrigin (sources.map DataSourceLineage.ordered)).Perm
      (sources.map DataSourceLineage.ordered) := sortOn_perm _
  have hPerm := (hSorted.map (DataSourceLineage.normal rules)).map DataSourceLineage.ordered
  have hSame : ((sources.map DataSourceLineage.ordered).map (DataSourceLineage.normal rules)).map
      DataSourceLineage.ordered =
      (sources.map (DataSourceLineage.normal rules)).map DataSourceLineage.ordered := by
    simp only [List.map_map]
    exact List.map_congr_left fun s _ => ordered_normal_ordered s
  rw [hSame] at hPerm
  have hTimes : ∀ a ∈ ((sortOn byOrigin (sources.map DataSourceLineage.ordered)).map
      (DataSourceLineage.normal rules)).map DataSourceLineage.ordered,
      a.maxAvailableAt.toInstant.isSome = true ∧ utc a.maxAvailableAt = a.maxAvailableAt := by
    intro a hMem
    rw [hPerm.mem_iff, List.map_map, List.mem_map] at hMem
    obtain ⟨s, hSource, rfl⟩ := hMem
    exact ⟨(congrArg Option.isSome (toInstant_utc s.maxAvailableAt)).trans (timed s hSource),
      utc_utc s.maxAvailableAt⟩
  exact sortOn_congr hPerm fun a ha b hb h =>
    eq_of_byOrigin (hTimes a ha).1 (hTimes b hb).1 (hTimes a ha).2 (hTimes b hb).2 h

/-- Sorting again what was sorted and then normalized sorts the normal form. -/
theorem ordered_archived {r : ForecastResponse} (hash : IsFeatureHash r.provenance.featureSetHash)
    (timed : Timed r.payload) : (r.archived rules).ordered = r.normalForm rules := by
  have hSources := sortedSources_normal rules
    (ForecastProvenance.timed_iff.mp (ForecastResponse.timed_iff.mp timed).2.2).1
  have hSteps : ((r.forecasts.map ForecastStep.ordered).map ForecastStep.normal).map ForecastStep.ordered =
      (r.forecasts.map ForecastStep.normal).map ForecastStep.ordered := by
    simp only [List.map_map]
    exact List.map_congr_left fun s _ => ordered_step s
  have hHash : featureHash (rules.nfc (featureHash r.provenance.featureSetHash)) =
      featureHash (rules.nfc r.provenance.featureSetHash) := by
    rw [nfc_featureHash rules hash, featureHash_featureHash hash, rules.nfc_ascii _ hash.ascii]
  have hViolations := sort_nfc_sort rules r.provenance.lookaheadCheck.violations
  have hRows := sortOn_sortOn byBucket r.calibration.byInterval
  simp only [ForecastResponse.archived, ForecastResponse.normalForm, ForecastResponse.normal, ForecastResponse.ordered,
    ForecastProvenance.normal, ForecastProvenance.ordered, ForecastCalibration.normal,
    ForecastCalibration.ordered, LookaheadCheck.normal, LookaheadCheck.ordered]
  rw [hSources, hSteps, hHash, hViolations, hRows]

/-! ## Values in normal form -/

theorem map_sortOn_self {α κ : Type} [LinearOrder κ] {key : α → κ} {f : α → α} {values : List α}
    (h : values.map f = values) : (sortOn key values).map f = sortOn key values := by
  have hEach : ∀ a ∈ values, f a = id a := List.map_inj_left.mp (h.trans (List.map_id values).symm)
  refine (List.map_congr_left fun a hMem => ?_).trans (List.map_id _)
  exact hEach a ((sortOn_perm values).mem_iff.mp hMem)

theorem normal_ordered_source {s : DataSourceLineage} (h : s.normal rules = s) :
    s.ordered.normal rules = s.ordered := by
  have hFields : s.fields.map rules.nfc = s.fields := congrArg DataSourceLineage.fields h
  have hName : rules.nfc s.name = s.name := congrArg DataSourceLineage.name h
  have hSnapshot : rules.nfc s.snapshotId = s.snapshotId := congrArg DataSourceLineage.snapshotId h
  have hTime : utc s.maxAvailableAt = s.maxAvailableAt := congrArg DataSourceLineage.maxAvailableAt h
  rw [DataSourceLineage.ordered, DataSourceLineage.normal, map_sortOn_self hFields, hName, hSnapshot, hTime]

theorem normal_ordered_provenance {p : ForecastProvenance} (hash : IsFeatureHash p.featureSetHash)
    (h : p.normal rules = p) : p.ordered.normal rules = p.ordered := by
  have hSources : p.dataSources.map (DataSourceLineage.normal rules) = p.dataSources :=
    congrArg ForecastProvenance.dataSources h
  have hEach : ∀ s ∈ p.dataSources, s.normal rules = id s :=
    List.map_inj_left.mp (hSources.trans (List.map_id _).symm)
  have hOrdered : (p.dataSources.map DataSourceLineage.ordered).map (DataSourceLineage.normal rules) =
      p.dataSources.map DataSourceLineage.ordered := by
    rw [List.map_map]
    exact List.map_congr_left fun s hMem => normal_ordered_source (hEach s hMem)
  have hViolations : p.lookaheadCheck.violations.map rules.nfc = p.lookaheadCheck.violations :=
    congrArg (fun q => q.lookaheadCheck.violations) h
  have hChecked : utc p.lookaheadCheck.checkedAt = p.lookaheadCheck.checkedAt :=
    congrArg (fun q => q.lookaheadCheck.checkedAt) h
  have hFeature : utc p.lookaheadCheck.maxFeatureAvailableAt = p.lookaheadCheck.maxFeatureAvailableAt :=
    congrArg (fun q => q.lookaheadCheck.maxFeatureAvailableAt) h
  have hSnapshot : rules.nfc p.snapshotId = p.snapshotId := congrArg ForecastProvenance.snapshotId h
  have hModel : rules.nfc p.modelVersion = p.modelVersion := congrArg ForecastProvenance.modelVersion h
  have hCode : p.codeVersion.map rules.nfc = p.codeVersion := congrArg ForecastProvenance.codeVersion h
  have hAvailable : utc p.maxAvailableAt = p.maxAvailableAt := congrArg ForecastProvenance.maxAvailableAt h
  have hGenerated : utc p.generatedAt = p.generatedAt := congrArg ForecastProvenance.generatedAt h
  simp only [ForecastProvenance.ordered, ForecastProvenance.normal, LookaheadCheck.ordered,
    LookaheadCheck.normal]
  rw [map_sortOn_self hOrdered, map_sortOn_self hViolations, hChecked, hFeature, hSnapshot, hModel, hCode,
    hAvailable, hGenerated, nfc_featureHash rules hash]

theorem normal_ordered {r : ForecastResponse} (hash : IsFeatureHash r.provenance.featureSetHash)
    (h : r.normal rules = r) : r.ordered.normal rules = r.ordered := by
  have hSteps : r.forecasts.map ForecastStep.normal = r.forecasts := congrArg ForecastResponse.forecasts h
  have hOrdered : (r.forecasts.map ForecastStep.ordered).map ForecastStep.normal =
      r.forecasts.map ForecastStep.ordered := by
    have hCommute : (r.forecasts.map ForecastStep.ordered).map ForecastStep.normal =
        (r.forecasts.map ForecastStep.normal).map ForecastStep.ordered := by
      rw [List.map_map, List.map_map]
      rfl
    rw [hCommute, hSteps]
  have hProvenance := normal_ordered_provenance hash (congrArg ForecastResponse.provenance h)
  have hSymbol : rules.nfc r.symbol = r.symbol := congrArg ForecastResponse.symbol h
  have hAsOf : utc r.asOf = r.asOf := congrArg ForecastResponse.asOf h
  have hCurrency : r.currency.map rules.nfc = r.currency := congrArg ForecastResponse.currency h
  have hDisclaimer : rules.nfc r.disclaimer = r.disclaimer := congrArg ForecastResponse.disclaimer h
  have hVersion : rules.nfc r.calibration.calibrationSetVersion = r.calibration.calibrationSetVersion :=
    congrArg (fun q => q.calibration.calibrationSetVersion) h
  simp only [ForecastResponse.ordered, ForecastResponse.normal, ForecastCalibration.ordered,
    ForecastCalibration.normal]
  rw [hOrdered, hProvenance, hSymbol, hAsOf, hCurrency, hDisclaimer, hVersion]

theorem normal_normal (r : ForecastResponse) : (r.normal rules).normal rules = r.normal rules := by
  simp [ForecastResponse.normal, ForecastProvenance.normal, LookaheadCheck.normal, DataSourceLineage.normal,
    ForecastCalibration.normal, ForecastStep.normal, rules.idempotent, Function.comp_def]

end Order

/-! ## The bytes of a response -/

section Responses

variable {rules : TextRules} {floats : FloatText} {coercions : Coercions}

theorem document_list_congr {α : Type} {write other : α → Payload} {values : List α}
    (h : ∀ a, (write a).document rules = (other a).document rules) :
    (Payload.list (values.map write)).document rules = (Payload.list (values.map other)).document rules := by
  rw [document_list, document_list]
  simp only [h]

theorem document_texts (texts : List String) :
    (Payload.list (texts.map (Payload.text ∘ rules.nfc))).document rules =
      (Payload.list (texts.map .text)).document rules :=
  document_list_congr fun s => by simp [rules.idempotent]

theorem document_optional_text (o : Option String) : (Payload.optional .text (o.map rules.nfc)).document rules =
    (Payload.optional .text o).document rules := by
  cases o with
  | none => rfl
  | some s => simp [Payload.optional, rules.idempotent]

theorem document_normal_source (s : DataSourceLineage) :
    (s.normal rules).payload.document rules = s.payload.document rules := by
  simp [DataSourceLineage.normal, DataSourceLineage.payload, documentEntries, document_texts,
    rules.idempotent]

theorem document_normal_step (s : ForecastStep) :
    s.normal.payload.document rules = s.payload.document rules := by
  simp [ForecastStep.normal, ForecastStep.payload, documentEntries]

/-- A response and its normal form have one document. -/
theorem document_normal (r : ForecastResponse) :
    (r.normal rules).payload.document rules = r.payload.document rules := by
  have hSteps : (Payload.list (r.forecasts.map (ForecastStep.payload ∘ ForecastStep.normal))).document rules =
      (Payload.list (r.forecasts.map ForecastStep.payload)).document rules :=
    document_list_congr document_normal_step
  have hSources : (Payload.list (r.provenance.dataSources.map
      (DataSourceLineage.payload ∘ DataSourceLineage.normal rules))).document rules =
      (Payload.list (r.provenance.dataSources.map DataSourceLineage.payload)).document rules :=
    document_list_congr document_normal_source
  have hLookahead : (r.provenance.lookaheadCheck.normal rules).payload.document rules =
      r.provenance.lookaheadCheck.payload.document rules := by
    simp [LookaheadCheck.normal, LookaheadCheck.payload, documentEntries, document_texts]
  have hProvenance : (r.provenance.normal rules).payload.document rules =
      r.provenance.payload.document rules := by
    simp [ForecastProvenance.normal, ForecastProvenance.payload, documentEntries, rules.idempotent,
      document_optional_text, hSources, hLookahead]
  have hCalibration : (r.calibration.normal rules).payload.document rules =
      r.calibration.payload.document rules := by
    simp [ForecastCalibration.normal, ForecastCalibration.payload, documentEntries, rules.idempotent]
  simp [ForecastResponse.normal, ForecastResponse.payload, documentEntries, rules.idempotent,
    document_optional_text, hSteps, hProvenance, hCalibration]

/-- The bytes that stand for a response. -/
def outputBytes (rules : TextRules) (floats : FloatText) (r : ForecastResponse) : Bytes :=
  dumps floats (wrapped "forecast-run-output-v1" ((r.archived rules).payload.document rules))

theorem timed_ordered {r : ForecastResponse} : Timed r.ordered.payload ↔ Timed r.payload := by
  have hSources : (∀ s ∈ sortOn byOrigin (r.provenance.dataSources.map DataSourceLineage.ordered),
      s.maxAvailableAt.toInstant.isSome = true) ↔
      ∀ s ∈ r.provenance.dataSources, s.maxAvailableAt.toInstant.isSome = true := by
    constructor
    · intro h s hMem
      exact h s.ordered (mem_orderedSources.mpr ⟨s, hMem, rfl⟩)
    · intro h s hMem
      obtain ⟨t, hSource, rfl⟩ := mem_orderedSources.mp hMem
      exact h t hSource
  have hSteps : (∀ s ∈ r.forecasts.map ForecastStep.ordered, s.targetTime.toInstant.isSome = true) ↔
      ∀ s ∈ r.forecasts, s.targetTime.toInstant.isSome = true := by
    rw [List.forall_mem_map]
    rfl
  rw [ForecastResponse.timed_iff, ForecastResponse.timed_iff, ForecastProvenance.timed_iff,
    ForecastProvenance.timed_iff, LookaheadCheck.timed_iff, LookaheadCheck.timed_iff]
  exact and_congr Iff.rfl (and_congr hSteps (and_congr hSources Iff.rfl))

theorem timed_normal {r : ForecastResponse} : Timed (r.normal rules).payload ↔ Timed r.payload := by
  rw [ForecastResponse.timed_iff, ForecastResponse.timed_iff, ForecastProvenance.timed_iff,
    ForecastProvenance.timed_iff, LookaheadCheck.timed_iff, LookaheadCheck.timed_iff]
  simp [ForecastResponse.normal, ForecastProvenance.normal, LookaheadCheck.normal, DataSourceLineage.normal,
    ForecastStep.normal]

theorem timed_archived {r : ForecastResponse} : Timed (r.archived rules).payload ↔ Timed r.payload :=
  timed_normal.trans timed_ordered

theorem canonicalOutput_eq_ok_iff {r : ForecastResponse} (h : SoundResponse rules r) {b : Bytes} :
    canonicalOutput rules floats r = .ok b ↔
      Timed r.payload ∧ b = outputBytes rules floats r ∧ b.length ≤ maxCanonicalBytes := by
  rw [canonicalOutput, h.validate]
  rw [Except.mapError, ok_bind,
    bind_eq_ok_iff_of fun _ => normalizeOutputCollections_eq_ok_iff h.provenance.hash,
    canonicalDocument_eq_ok_iff (by decide) r.ordered.keyed, timed_ordered, outputBytes,
    ForecastResponse.archived, document_normal]
  constructor
  · rintro ⟨-, hTimed, hBytes⟩
    exact ⟨hTimed, hBytes⟩
  · rintro ⟨hTimed, hBytes⟩
    exact ⟨(ForecastProvenance.timed_iff.mp (ForecastResponse.timed_iff.mp hTimed).2.2).1, hTimed, hBytes⟩

theorem outputBytes_eq_iff (coercions : Coercions) (reads : ReadsBack floats) {r s : ForecastResponse}
    (hr : Timed r.payload)
    (hs : Timed s.payload) :
    outputBytes rules floats r = outputBytes rules floats s ↔ r.archived rules = s.archived rules := by
  constructor
  · intro h
    have hDocument := payload_of_dumps (spelled_document reads _ (ForecastResponse.keyed _))
      (spelled_document reads _ (ForecastResponse.keyed _)) h
    have hRead := congrArg (readResponse coercions) hDocument
    rw [readResponse_payload rules coercions (timed_archived.mpr hr),
      readResponse_payload rules coercions (timed_archived.mpr hs),
      ForecastResponse.archived, normal_normal, ForecastResponse.archived, normal_normal] at hRead
    exact Option.some.inj hRead
  · intro h
    rw [outputBytes, outputBytes, h]

/-- What is parsed of the bytes of a response: its archived form, if nothing was lost in between. -/
theorem parseOutput_eq_ok_iff (reads : ReadsBack floats) {r s : ForecastResponse} (h : SoundResponse rules r)
    (timed : Timed r.payload) (bounded : (outputBytes rules floats r).length ≤ maxCanonicalBytes) :
    parseOutput rules floats coercions (outputBytes rules floats r) = .ok s ↔
      (Fits rules r ∧ Ascending rules r) ∧ s = r.archived rules := by
  have hRead : readResponse coercions ((r.archived rules).payload.document rules) = some (r.archived rules) := by
    rw [readResponse_payload rules coercions (timed_archived.mpr timed), ForecastResponse.archived, normal_normal]
  have hParse : parseDocument floats (outputBytes rules floats r) "forecast-run-output-v1" =
      .ok ((r.archived rules).payload.document rules) :=
    parseDocument_dumps (spelled_document reads _ (ForecastResponse.keyed _)) rfl bounded
  have hArchived : (r.archived rules).archived rules = r.archived rules ↔ Ascending rules r := by
    have hHash : IsFeatureHash (r.archived rules).provenance.featureSetHash := by
      change IsFeatureHash (rules.nfc (featureHash r.provenance.featureSetHash))
      rw [nfc_featureHash rules h.provenance.hash]
      exact isFeatureHash_featureHash h.provenance.hash
    have hNormal : (r.archived rules).normal rules = r.archived rules := normal_normal r.ordered
    rw [ForecastResponse.archived, normal_ordered hHash hNormal, ordered_archived_iff h.provenance.hash]
  rw [parseOutput, hParse, ok_bind]
  dsimp only
  rw [hRead, orRefuse_some, ok_bind]
  constructor
  · intro hOk
    rw [bind_eq_ok_iff] at hOk
    obtain ⟨response, hValid, hOk⟩ := hOk
    cases hResult : validateResponse rules (r.archived rules) with
    | error e =>
      rw [hResult] at hValid
      cases hValid
    | ok stored =>
      have hFits := fits_of_validate h hResult
      have hSound := h.archived hFits
      rw [hSound.validate] at hValid
      cases hValid
      simp only [bind_eq_ok_iff, refuseIf_eq_ok_iff, not_not, pure_eq_ok, Except.ok.injEq,
        exists_const] at hOk
      obtain ⟨canonical, hCanonical, rfl, rfl⟩ := hOk
      obtain ⟨-, hSame, -⟩ := (canonicalOutput_eq_ok_iff hSound).mp hCanonical
      have hEqual := (outputBytes_eq_iff coercions reads timed (timed_archived.mpr timed)).mp hSame
      exact ⟨⟨hFits, hArchived.mp hEqual.symm⟩, rfl⟩
  · rintro ⟨⟨hFits, hAscending⟩, rfl⟩
    have hSound := h.archived hFits
    have hBytes : outputBytes rules floats (r.archived rules) = outputBytes rules floats r := by
      rw [outputBytes, hArchived.mpr hAscending, outputBytes]
    have hCanonical : canonicalOutput rules floats (r.archived rules) = .ok (outputBytes rules floats r) :=
      (canonicalOutput_eq_ok_iff hSound).mpr ⟨timed_archived.mpr timed, hBytes.symm, bounded⟩
    rw [hSound.validate]
    rw [Except.mapError, ok_bind, hCanonical, ok_bind, refuseIf_of_not (not_not.mpr rfl), ok_bind, pure_eq_ok]

end Responses

/-! ## The bytes of a request -/

section Requests

variable {rules : TextRules} {floats : FloatText} {coercions : Coercions}

/-- The snapshot of a request in normal form is within the bounds of its field. -/
def RequestFits (rules : TextRules) (r : ForecastRequest) : Prop :=
  ∀ s ∈ r.snapshotId, (rules.nfc s).length ≤ 128

/-- The bytes that stand for a request. -/
def requestBytes (rules : TextRules) (floats : FloatText) (r : ForecastRequest) : Bytes :=
  dumps floats (wrapped "forecast-run-request-v1" ((r.normal rules).payload.document rules))

theorem SoundRequest.nfc_symbol {r : ForecastRequest} (h : SoundRequest rules r) : rules.nfc r.symbol = r.symbol :=
  rules.nfc_ascii _ h.pattern.ascii

theorem SoundRequest.normal {r : ForecastRequest} (h : SoundRequest rules r) (fits : RequestFits rules r) :
    SoundRequest rules (r.normal rules) where
  symbol := by
    change IsBounded rules (rules.nfc r.symbol) 1 32
    rw [h.nfc_symbol]
    exact h.symbol
  symbolUpper := rules.upper_nfc _ h.symbolUpper
  pattern := by
    change IsRequestSymbol (rules.nfc r.symbol)
    rw [h.nfc_symbol]
    exact h.pattern
  horizon := h.horizon
  time := by
    intro t hMem
    obtain ⟨u, hAsOf, rfl⟩ := Option.mem_map.mp hMem
    exact aware_utc (h.time u hAsOf)
  snapshot := by
    intro s hMem
    obtain ⟨t, hSnapshot, rfl⟩ := Option.mem_map.mp hMem
    exact (h.snapshot t hSnapshot).nfc (fits t hSnapshot)
  count := h.count
  coverages := h.coverages
  ascending := h.ascending

theorem requestFits_of_validate {r s : ForecastRequest} (h : SoundRequest rules r)
    (valid : validateRequest rules (r.normal rules) = .ok s) : RequestFits rules r := by
  simp only [validateRequest, bind_eq_ok_iff, refuseIf_eq_ok_iff, exists_const] at valid
  obtain ⟨-, -, -, -, -, snapshot, hSnapshot, -⟩ := valid
  intro t hMem
  have hValue : (r.normal rules).snapshotId = some (rules.nfc t) := Option.mem_map_of_mem rules.nfc hMem
  rw [hValue] at hSnapshot
  rcases optionally_eq_ok_iff.mp hSnapshot with ⟨hNone, -⟩ | ⟨w, u, hSome, -, hText⟩
  · cases hNone
  · cases hSome
    exact length_of_boundedText (rules.strip_nfc _ (h.snapshot t hMem).1) hText

theorem normal_normal_request (r : ForecastRequest) : (r.normal rules).normal rules = r.normal rules := by
  simp [ForecastRequest.normal, rules.idempotent, Function.comp_def]

theorem document_normal_request (r : ForecastRequest) :
    (r.normal rules).payload.document rules = r.payload.document rules := by
  have hAsOf : (Payload.optional .datetime (r.asOf.map utc)).document rules =
      (Payload.optional .datetime r.asOf).document rules := by
    cases r.asOf with
    | none => rfl
    | some t => simp [Payload.optional]
  simp [ForecastRequest.normal, ForecastRequest.payload, documentEntries, rules.idempotent,
    document_optional_text, hAsOf]

theorem timed_normal_request {r : ForecastRequest} : Timed (r.normal rules).payload ↔ Timed r.payload := by
  rw [ForecastRequest.timed_iff, ForecastRequest.timed_iff]
  simp [ForecastRequest.normal]

theorem canonicalRequest_eq_ok_iff {r : ForecastRequest} (h : SoundRequest rules r) {b : Bytes} :
    canonicalRequest rules floats r = .ok b ↔
      Timed r.payload ∧ b = requestBytes rules floats r ∧ b.length ≤ maxCanonicalBytes := by
  have hOrder : sortOn (fun q : Double => q.1) r.intervalCoverages = r.intervalCoverages :=
    sortOn_eq_self_iff.mpr (h.ascending.imp le_of_lt)
  rw [canonicalRequest, h.validate]
  rw [Except.mapError, ok_bind]
  dsimp only
  rw [hOrder, canonicalDocument_eq_ok_iff (by decide) r.keyed, requestBytes, document_normal_request]

theorem requestBytes_eq_iff (coercions : Coercions) (reads : ReadsBack floats) {r s : ForecastRequest}
    (hr : Timed r.payload) (hs : Timed s.payload) :
    requestBytes rules floats r = requestBytes rules floats s ↔ r.normal rules = s.normal rules := by
  constructor
  · intro h
    have hDocument := payload_of_dumps (spelled_document reads _ (ForecastRequest.keyed _))
      (spelled_document reads _ (ForecastRequest.keyed _)) h
    have hRead := congrArg (readRequest coercions) hDocument
    rw [readRequest_payload rules coercions (timed_normal_request.mpr hr),
      readRequest_payload rules coercions (timed_normal_request.mpr hs), normal_normal_request,
      normal_normal_request] at hRead
    exact Option.some.inj hRead
  · intro h
    rw [requestBytes, requestBytes, h]

theorem parseRequest_eq_ok_iff (reads : ReadsBack floats) {r s : ForecastRequest} (h : SoundRequest rules r)
    (timed : Timed r.payload) (bounded : (requestBytes rules floats r).length ≤ maxCanonicalBytes) :
    parseRequest rules floats coercions (requestBytes rules floats r) = .ok s ↔
      RequestFits rules r ∧ s = r.normal rules := by
  have hRead : readRequest coercions ((r.normal rules).payload.document rules) = some (r.normal rules) := by
    rw [readRequest_payload rules coercions (timed_normal_request.mpr timed), normal_normal_request]
  have hParse : parseDocument floats (requestBytes rules floats r) "forecast-run-request-v1" =
      .ok ((r.normal rules).payload.document rules) :=
    parseDocument_dumps (spelled_document reads _ (ForecastRequest.keyed _)) rfl bounded
  have hBytes : requestBytes rules floats (r.normal rules) = requestBytes rules floats r := by
    rw [requestBytes, normal_normal_request, requestBytes]
  rw [parseRequest, hParse, ok_bind]
  dsimp only
  rw [hRead, orRefuse_some, ok_bind]
  constructor
  · intro hOk
    rw [bind_eq_ok_iff] at hOk
    obtain ⟨request, hValid, hOk⟩ := hOk
    cases hResult : validateRequest rules (r.normal rules) with
    | error e =>
      rw [hResult] at hValid
      cases hValid
    | ok stored =>
      have hFits := requestFits_of_validate h hResult
      rw [(h.normal hFits).validate] at hValid
      cases hValid
      simp only [bind_eq_ok_iff, refuseIf_eq_ok_iff, not_not, pure_eq_ok, Except.ok.injEq,
        exists_const] at hOk
      obtain ⟨canonical, -, -, rfl⟩ := hOk
      exact ⟨hFits, rfl⟩
  · rintro ⟨hFits, rfl⟩
    have hSound := h.normal hFits
    have hCanonical : canonicalRequest rules floats (r.normal rules) = .ok (requestBytes rules floats r) :=
      (canonicalRequest_eq_ok_iff hSound).mpr ⟨timed_normal_request.mpr timed, hBytes.symm, bounded⟩
    rw [hSound.validate]
    rw [Except.mapError, ok_bind, hCanonical, ok_bind, refuseIf_of_not (not_not.mpr rfl), ok_bind, pure_eq_ok]

end Requests

end StockApi.Forecasts

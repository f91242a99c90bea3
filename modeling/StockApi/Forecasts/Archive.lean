import StockApi.Forecasts.Collections

/-!
# What is archived of a response

The archive holds a response with its collections in order, its texts in normal form and its datetimes
in UTC. Such a response meets the clauses of the schema again when its texts still fit their fields.
-/

namespace StockApi.Forecasts

open Checked CivilTime Groups

/-! ## Datetimes in UTC -/

theorem utc_cases (t : ParsedDateTime) :
    (∃ instant, t.toInstant = some instant ∧ utc t = instant.inUtc) ∨ (t.toInstant = none ∧ utc t = t) := by
  cases h : t.toInstant with
  | none => exact .inr ⟨rfl, by rw [utc, h]; rfl⟩
  | some instant => exact .inl ⟨instant, rfl, by rw [utc, h]; rfl⟩

@[simp] theorem toInstant_utc (t : ParsedDateTime) : (utc t).toInstant = t.toInstant := by
  obtain ⟨instant, hInstant, hUtc⟩ | ⟨hNone, hUtc⟩ := utc_cases t
  · rw [hUtc, hInstant, Instant.toInstant_inUtc]
  · rw [hUtc]

@[simp] theorem utc_utc (t : ParsedDateTime) : utc (utc t) = utc t := by
  obtain ⟨instant, hInstant, hUtc⟩ | ⟨hNone, hUtc⟩ := utc_cases t
  · rw [hUtc, utc, Instant.toInstant_inUtc]
    rfl
  · rw [hUtc, hUtc]

@[simp] theorem utcText_utc (t : ParsedDateTime) : utcText (utc t) = utcText t := by
  rw [utcText, toInstant_utc, utcText]

@[simp] theorem micros_utc (t : ParsedDateTime) : micros (utc t) = micros t := by
  obtain ⟨instant, hInstant, hUtc⟩ | ⟨hNone, hUtc⟩ := utc_cases t
  · rw [hUtc, micros_inUtc, (micros_of_toInstant hInstant).1]
  · rw [hUtc]

theorem aware_utc {t : ParsedDateTime} (h : t.offset ≠ none) : (utc t).offset ≠ none := by
  obtain ⟨instant, hInstant, hUtc⟩ | ⟨hNone, hUtc⟩ := utc_cases t
  · rw [hUtc, Instant.inUtc]
    simp
  · rwa [hUtc]

/-! ## Checks that do not see the order -/

theorem validateDistribution_perm {quantiles : List ForecastQuantile} {point : Double}
    {intervals others : List ForecastInterval} (perm : intervals.Perm others)
    (h : validateDistribution quantiles point intervals = .ok ⟨⟩) :
    validateDistribution quantiles point others = .ok ⟨⟩ := by
  simp only [validateDistribution, refuseIf_bind_eq_ok_iff, forM_eq_ok_iff] at h ⊢
  obtain ⟨hChain, hPoint, hDistinct, hBounds⟩ := h
  refine ⟨hChain, hPoint, ?_, fun i hMem => hBounds i (perm.mem_iff.mpr hMem)⟩
  rwa [← (perm.map ForecastInterval.coverage).nodup_iff]

theorem validateWindow_perm {c : ForecastCalibration} {version : String} {rows : List IntervalCalibration}
    (perm : c.byInterval.Perm rows) (h : validateWindow c = .ok ⟨⟩) :
    validateWindow { c with calibrationSetVersion := version, byInterval := rows } = .ok ⟨⟩ := by
  have hBuckets : (buckets rows).Nodup ↔ (buckets c.byInterval).Nodup :=
    (perm.map fun row : IntervalCalibration => (row.horizon, row.nominalCoverage)).nodup_iff.symm
  have hRows : ∀ P : IntervalCalibration → Prop, (∃ row ∈ rows, P row) ↔ ∃ row ∈ c.byInterval, P row := by
    intro P
    simp only [perm.mem_iff]
  simp only [validateWindow, refuseIf_bind_eq_ok_iff, refuseIf_eq_ok_iff] at h ⊢
  rw [hBuckets, hRows, ← perm.length_eq]
  exact h

/-- Responses that the invariants cannot tell apart. -/
structure SameInvariants (r s : ForecastResponse) : Prop where
  horizon : s.horizon = r.horizon
  steps : s.forecasts.map (fun t => (t.step, micros t.targetTime)) =
    r.forecasts.map fun t => (t.step, micros t.targetTime)
  asOf : micros s.asOf = micros r.asOf
  cutoff : micros s.provenance.maxAvailableAt = micros r.provenance.maxAvailableAt
  generated : micros s.provenance.generatedAt = micros r.provenance.generatedAt
  sources : (s.provenance.dataSources.map fun d => micros d.maxAvailableAt).Perm
    (r.provenance.dataSources.map fun d => micros d.maxAvailableAt)
  feature : micros s.provenance.lookaheadCheck.maxFeatureAvailableAt =
    micros r.provenance.lookaheadCheck.maxFeatureAvailableAt
  target : s.target = r.target
  basis : s.provenance.seriesBasis = r.provenance.seriesBasis
  method : s.calibration.method = r.calibration.method
  rows : (buckets s.calibration.byInterval).toFinset = (buckets r.calibration.byInterval).toFinset
  emitted : (emittedBuckets s.forecasts).toFinset = (emittedBuckets r.forecasts).toFinset
  currency : s.currency = none ↔ r.currency = none

theorem exists_mem_iff {α β : Type} {f : α → β} {l : List α} (P : β → Prop) :
    (∃ x ∈ l, P (f x)) ↔ ∃ y ∈ l.map f, P y := by
  simp

theorem SameInvariants.validate {r s : ForecastResponse} (same : SameInvariants r s)
    (h : validateInvariants r = .ok ⟨⟩) : validateInvariants s = .ok ⟨⟩ := by
  have hLength : s.forecasts.length = r.forecasts.length := by
    simpa using congrArg List.length same.steps
  have hSteps : s.forecasts.map ForecastStep.step = r.forecasts.map ForecastStep.step := by
    have hMap := congrArg (List.map Prod.fst) same.steps
    rwa [List.map_map, List.map_map] at hMap
  have hTimes : s.forecasts.map (fun t => micros t.targetTime) = r.forecasts.map fun t => micros t.targetTime := by
    have hMap := congrArg (List.map Prod.snd) same.steps
    rwa [List.map_map, List.map_map] at hMap
  have hLate : (∃ t ∈ s.forecasts, micros t.targetTime ≤ micros r.asOf) ↔
      ∃ t ∈ r.forecasts, micros t.targetTime ≤ micros r.asOf := by
    rw [exists_mem_iff (· ≤ micros r.asOf), hTimes, ← exists_mem_iff (· ≤ micros r.asOf)]
  have hChain : (s.forecasts.IsChain fun t u => micros t.targetTime < micros u.targetTime) ↔
      r.forecasts.IsChain fun t u => micros t.targetTime < micros u.targetTime := by
    have hMap : ∀ steps : List ForecastStep,
        (steps.IsChain fun t u => micros t.targetTime < micros u.targetTime) ↔
          (steps.map fun t => micros t.targetTime).IsChain (· < ·) := fun steps => (List.isChain_map _).symm
    rw [hMap, hTimes, ← hMap]
  have hSources : (∃ d ∈ s.provenance.dataSources, micros r.provenance.maxAvailableAt < micros d.maxAvailableAt) ↔
      ∃ d ∈ r.provenance.dataSources, micros r.provenance.maxAvailableAt < micros d.maxAvailableAt := by
    have hLater := exists_mem_iff (f := fun d : DataSourceLineage => micros d.maxAvailableAt)
      (l := r.provenance.dataSources) (micros r.provenance.maxAvailableAt < ·)
    rw [exists_mem_iff (micros r.provenance.maxAvailableAt < ·), hLater]
    simp only [same.sources.mem_iff]
  simp only [validateInvariants, refuseIf_bind_eq_ok_iff, refuseIf_eq_ok_iff, ne_eq] at h ⊢
  rw [same.horizon, same.asOf, same.cutoff, same.generated, same.feature, same.target, same.basis, same.method,
    same.rows, same.emitted, same.currency, hLength, hSteps, hLate, hChain, hSources]
  exact h

/-! ## The archived form meets the schema -/

section Archived

variable (rules : TextRules)

def ForecastResponse.archived (r : ForecastResponse) : ForecastResponse := r.ordered.normal rules

/-- The texts in normal form are within the bounds of their fields. -/
structure Fits (r : ForecastResponse) : Prop where
  snapshot : (rules.nfc r.provenance.snapshotId).length ≤ 128
  model : (rules.nfc r.provenance.modelVersion).length ≤ 128
  code : ∀ v ∈ r.provenance.codeVersion, (rules.nfc v).length ≤ 64
  sources : ∀ s ∈ r.provenance.dataSources,
    (rules.nfc s.name).length ≤ 64 ∧ (rules.nfc s.snapshotId).length ≤ 128
  calibration : (rules.nfc r.calibration.calibrationSetVersion).length ≤ 128

variable {rules}

theorem IsBounded.nfc {s : String} {most : Nat} (h : IsBounded rules s 1 most)
    (fits : (rules.nfc s).length ≤ most) : IsBounded rules (rules.nfc s) 1 most := by
  refine ⟨rules.strip_nfc s h.1, ?_, fits⟩
  have hSome : s ≠ "" := by
    rintro rfl
    exact absurd h.2.1 (by decide)
  rw [Nat.one_le_iff_ne_zero, ne_eq, String.length_eq_zero_iff]
  exact rules.nfc_nonempty s hSome

theorem SoundStep.ordered {s : ForecastStep} (h : SoundStep s) : SoundStep s.ordered.normal := by
  have hQuantiles : s.ordered.normal.quantiles = s.quantiles :=
    sortOn_eq_self_iff.mpr (h.ascending.imp le_of_lt)
  have hPerm : (sortOn byBounds s.intervals).Perm s.intervals := sortOn_perm _
  exact {
    first := h.first
    time := aware_utc h.time
    someQuantile := by
      rw [hQuantiles]
      exact h.someQuantile
    levels := by
      rw [hQuantiles]
      exact h.levels
    ascending := by
      rw [hQuantiles]
      exact h.ascending
    someInterval := hPerm.length_eq.symm ▸ h.someInterval
    intervals := fun i hMem => h.intervals i (hPerm.mem_iff.mp hMem)
    distribution := by
      rw [hQuantiles]
      exact validateDistribution_perm hPerm.symm h.distribution }

theorem map_nfc_stripped {texts : List String} (h : ∀ v ∈ texts, rules.strip v = v) :
    ∀ v ∈ (sortOn id texts).map rules.nfc, rules.strip v = v := by
  rw [List.forall_mem_map]
  exact fun v hMem => rules.strip_nfc v (h v ((sortOn_perm texts).mem_iff.mp hMem))

theorem SoundLookahead.ordered {l : LookaheadCheck} (h : SoundLookahead rules l) :
    SoundLookahead rules (l.ordered.normal rules) := by
  refine ⟨aware_utc h.checked, aware_utc h.available, map_nfc_stripped h.stripped, ?_⟩
  intro hStatus
  have hNone : l.violations = [] := h.passed hStatus
  rw [LookaheadCheck.normal, LookaheadCheck.ordered, hNone]
  rfl

theorem SoundSource.ordered {s : DataSourceLineage} (h : SoundSource rules s)
    (fits : (rules.nfc s.name).length ≤ 64 ∧ (rules.nfc s.snapshotId).length ≤ 128) :
    SoundSource rules (s.ordered.normal rules) :=
  ⟨h.named.nfc fits.1, h.snapshot.nfc fits.2, aware_utc h.available, map_nfc_stripped h.stripped⟩

theorem mem_orderedSources {sources : List DataSourceLineage} {s : DataSourceLineage} :
    s ∈ sortOn byOrigin (sources.map DataSourceLineage.ordered) ↔ ∃ t ∈ sources, t.ordered = s := by
  rw [(sortOn_perm _).mem_iff, List.mem_map]

theorem SoundProvenance.ordered {r : ForecastResponse} (h : SoundProvenance rules r.provenance)
    (fits : Fits rules r) : SoundProvenance rules (r.provenance.ordered.normal rules) where
  snapshot := h.snapshot.nfc fits.snapshot
  model := h.model.nfc fits.model
  hashLength := by
    have hNormal : rules.nfc (featureHash r.provenance.featureSetHash) =
        featureHash r.provenance.featureSetHash := nfc_featureHash rules h.hash
    change IsBounded rules (rules.nfc (featureHash r.provenance.featureSetHash)) 64 71
    rw [hNormal]
    exact ⟨strip_featureHash rules h.hash, by rw [length_featureHash h.hash]; decide,
      (length_featureHash h.hash).le⟩
  hash := by
    change IsFeatureHash (rules.nfc (featureHash r.provenance.featureSetHash))
    rw [nfc_featureHash rules h.hash]
    exact isFeatureHash_featureHash h.hash
  available := aware_utc h.available
  generated := aware_utc h.generated
  code := by
    intro v hMem
    obtain ⟨w, hCode, rfl⟩ := Option.mem_map.mp hMem
    exact ⟨rules.strip_nfc w (h.code w hCode).1, Nat.zero_le _, fits.code w hCode⟩
  sources := by
    change ∀ s ∈ (sortOn byOrigin (r.provenance.dataSources.map DataSourceLineage.ordered)).map _, _
    rw [List.forall_mem_map]
    intro s hMem
    obtain ⟨t, hSource, rfl⟩ := mem_orderedSources.mp hMem
    exact (h.sources t hSource).ordered (fits.sources t hSource)
  lookahead := h.lookahead.ordered

theorem SoundCalibration.ordered {c : ForecastCalibration} (h : SoundCalibration rules c)
    (fits : (rules.nfc c.calibrationSetVersion).length ≤ 128) :
    SoundCalibration rules (c.ordered.normal rules) where
  version := h.version.nfc fits
  samples := h.samples
  rows := fun b hMem => h.rows b ((sortOn_perm _).mem_iff.mp hMem)
  window := by
    have hPerm : c.byInterval.Perm (sortOn byBucket c.byInterval) := (sortOn_perm _).symm
    have hWindow : validateWindow { c with
        calibrationSetVersion := rules.nfc c.calibrationSetVersion
        byInterval := sortOn byBucket c.byInterval } = .ok ⟨⟩ := validateWindow_perm hPerm h.window
    exact hWindow

theorem sameInvariants_archived (r : ForecastResponse) : SameInvariants r (r.archived rules) where
  horizon := rfl
  steps := by
    simp [ForecastResponse.archived, ForecastResponse.normal, ForecastResponse.ordered, ForecastStep.normal,
      ForecastStep.ordered, List.map_map, Function.comp_def]
  asOf := micros_utc _
  cutoff := micros_utc _
  generated := micros_utc _
  sources := by
    have hSorted : (sortOn byOrigin (r.provenance.dataSources.map DataSourceLineage.ordered)).Perm
        (r.provenance.dataSources.map DataSourceLineage.ordered) := sortOn_perm _
    have hPerm := hSorted.map fun d => micros d.maxAvailableAt
    rw [List.map_map] at hPerm
    refine (List.Perm.of_eq ?_).trans hPerm
    simp [ForecastResponse.archived, ForecastResponse.normal, ForecastResponse.ordered,
      ForecastProvenance.normal, ForecastProvenance.ordered, DataSourceLineage.normal, Function.comp_def]
  feature := micros_utc _
  target := rfl
  basis := rfl
  method := rfl
  rows := by
    apply List.toFinset_eq_of_perm
    exact (sortOn_perm r.calibration.byInterval).map _
  emitted := by
    ext bucket
    simp only [List.mem_toFinset, emittedBuckets, List.mem_flatMap, List.mem_map,
      ForecastResponse.archived, ForecastResponse.normal, ForecastResponse.ordered, List.map_map]
    constructor
    · rintro ⟨_, ⟨s, hStep, rfl⟩, i, hInterval, rfl⟩
      exact ⟨s, hStep, i, (sortOn_perm s.intervals).mem_iff.mp hInterval, rfl⟩
    · rintro ⟨s, hStep, i, hInterval, rfl⟩
      exact ⟨_, ⟨s, hStep, rfl⟩, i, (sortOn_perm s.intervals).mem_iff.mpr hInterval, rfl⟩
  currency := by simp [ForecastResponse.archived, ForecastResponse.normal, ForecastResponse.ordered]

theorem IsCurrencyCode.ascii {c : String} (h : IsCurrencyCode c) : IsAscii c := by
  intro d hMem
  have hRange := List.all_eq_true.mp h.2 d hMem
  simp only [Bool.and_eq_true, decide_eq_true_eq] at hRange
  have hMost : d.toNat ≤ 'Z'.toNat := hRange.2
  exact lt_of_le_of_lt hMost (by decide)

/-- The archived form of a response meets the schema when its texts fit. -/
theorem SoundResponse.archived {r : ForecastResponse} (h : SoundResponse rules r) (fits : Fits rules r) :
    SoundResponse rules (r.archived rules) where
  symbolStripped := rules.strip_nfc _ h.symbolStripped
  symbolUpper := rules.upper_nfc _ h.symbolUpper
  horizon := h.horizon
  time := aware_utc h.time
  currency := by
    intro v hMem
    obtain ⟨c, hCurrency, rfl⟩ := Option.mem_map.mp hMem
    obtain ⟨hStrip, hCode⟩ := h.currency c hCurrency
    rw [rules.nfc_ascii c hCode.ascii]
    exact ⟨hStrip, hCode⟩
  someStep := by
    change 1 ≤ ((r.forecasts.map ForecastStep.ordered).map ForecastStep.normal).length
    rw [List.length_map, List.length_map]
    exact h.someStep
  steps := by
    change ∀ s ∈ (r.forecasts.map ForecastStep.ordered).map ForecastStep.normal, SoundStep s
    rw [List.forall_mem_map, List.forall_mem_map]
    exact fun s hMem => (h.steps s hMem).ordered
  provenance := h.provenance.ordered fits
  calibration := h.calibration.ordered fits.calibration
  disclaimer := rules.strip_nfc _ h.disclaimer
  invariants := (sameInvariants_archived r).validate h.invariants

theorem length_of_boundedText {value name s : String} {least most : Nat} (stripped : rules.strip value = value)
    (h : boundedText rules value name least most = .ok s) : value.length ≤ most := by
  rw [boundedText, stripped, refuseIf_bind_eq_ok_iff, not_not] at h
  exact h.1.2

/-- Nothing else keeps the archived form from meeting the schema. -/
theorem fits_of_validate {r s : ForecastResponse} (h : SoundResponse rules r)
    (valid : validateResponse rules (r.archived rules) = .ok s) : Fits rules r := by
  simp only [validateResponse, bind_eq_ok_iff, refuseIf_eq_ok_iff, aware_eq_ok_iff, exists_const] at valid
  obtain ⟨-, -, -, -, -, -, -, provenance, hProvenance, calibration, hCalibration, -⟩ := valid
  simp only [validateProvenance, bind_eq_ok_iff, refuseIf_eq_ok_iff, aware_eq_ok_iff,
    exists_const] at hProvenance
  obtain ⟨snapshot, hSnapshot, model, hModel, -, -, -, -, -, code, hCode, sources, hSources, -⟩ := hProvenance
  rw [validateCalibration, bind_eq_ok_iff] at hCalibration
  obtain ⟨version, hVersion, -⟩ := hCalibration
  have hStrip := h.provenance
  exact {
    snapshot := length_of_boundedText (rules.strip_nfc _ hStrip.snapshot.1) hSnapshot
    model := length_of_boundedText (rules.strip_nfc _ hStrip.model.1) hModel
    code := by
      intro v hMem
      have hValue : (r.archived rules).provenance.codeVersion = some (rules.nfc v) :=
        Option.mem_map_of_mem rules.nfc hMem
      rw [hValue] at hCode
      rcases optionally_eq_ok_iff.mp hCode with ⟨hNone, -⟩ | ⟨w, t, hSome, -, hText⟩
      · cases hNone
      · cases hSome
        exact length_of_boundedText (rules.strip_nfc _ (hStrip.code v hMem).1) hText
    sources := by
      intro t hMem
      have hArchived : t.ordered.normal rules ∈ (r.archived rules).provenance.dataSources :=
        List.mem_map_of_mem (mem_orderedSources.mpr ⟨t, hMem, rfl⟩)
      obtain ⟨u, -, hSource⟩ := exists_right_of_forall₂ (forall₂_of_mapM hSources) hArchived
      simp only [validateSource, bind_eq_ok_iff] at hSource
      obtain ⟨name, hName, origin, hOrigin, -⟩ := hSource
      have hSound := hStrip.sources t hMem
      exact ⟨length_of_boundedText (rules.strip_nfc _ hSound.named.1) hName,
        length_of_boundedText (rules.strip_nfc _ hSound.snapshot.1) hOrigin⟩
    calibration := length_of_boundedText (rules.strip_nfc _ h.calibration.version.1) hVersion }

end Archived

end StockApi.Forecasts

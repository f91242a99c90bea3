import StockApi.Forecasts.Runs

/-!
# Rearranged responses

The collections of a response may come in any order and its instants in any offset from UTC: the bytes
that are archived are the same.
-/

namespace StockApi.Forecasts

open Checked CivilTime Documents Groups

/-- The same instant, perhaps in another offset. -/
def SameInstant (t u : ParsedDateTime) : Prop :=
  u.toInstant = t.toInstant ∧ t.toInstant.isSome = true

structure StepRearranged (s t : ForecastStep) : Prop where
  step : t.step = s.step
  time : SameInstant s.targetTime t.targetTime
  point : t.point = s.point
  quantiles : t.quantiles.Perm s.quantiles
  intervals : t.intervals.Perm s.intervals

structure SourceRearranged (s t : DataSourceLineage) : Prop where
  name : t.name = s.name
  snapshot : t.snapshotId = s.snapshotId
  time : SameInstant s.maxAvailableAt t.maxAvailableAt
  fields : t.fields.Perm s.fields

/-- Responses that differ in the order of their collections and the offsets of their datetimes. -/
structure Rearranged (r s : ForecastResponse) : Prop where
  symbol : s.symbol = r.symbol
  target : s.target = r.target
  horizon : s.horizon = r.horizon
  horizonUnit : s.horizonUnit = r.horizonUnit
  asOf : SameInstant r.asOf s.asOf
  currency : s.currency = r.currency
  steps : List.Forall₂ StepRearranged r.forecasts s.forecasts
  forecastId : s.provenance.forecastId = r.provenance.forecastId
  snapshotId : s.provenance.snapshotId = r.provenance.snapshotId
  modelVersion : s.provenance.modelVersion = r.provenance.modelVersion
  seriesBasis : s.provenance.seriesBasis = r.provenance.seriesBasis
  featureSetHash : s.provenance.featureSetHash = r.provenance.featureSetHash
  maxAvailableAt : SameInstant r.provenance.maxAvailableAt s.provenance.maxAvailableAt
  generatedAt : SameInstant r.provenance.generatedAt s.provenance.generatedAt
  codeVersion : s.provenance.codeVersion = r.provenance.codeVersion
  sources : ∃ sources, sources.Perm r.provenance.dataSources ∧
    List.Forall₂ SourceRearranged sources s.provenance.dataSources
  status : s.provenance.lookaheadCheck.status = r.provenance.lookaheadCheck.status
  checkedAt : SameInstant r.provenance.lookaheadCheck.checkedAt s.provenance.lookaheadCheck.checkedAt
  feature : SameInstant r.provenance.lookaheadCheck.maxFeatureAvailableAt
    s.provenance.lookaheadCheck.maxFeatureAvailableAt
  violations : s.provenance.lookaheadCheck.violations.Perm r.provenance.lookaheadCheck.violations
  calibrationSetVersion : s.calibration.calibrationSetVersion = r.calibration.calibrationSetVersion
  method : s.calibration.method = r.calibration.method
  windowStart : s.calibration.windowStart = r.calibration.windowStart
  windowEnd : s.calibration.windowEnd = r.calibration.windowEnd
  sampleCount : s.calibration.sampleCount = r.calibration.sampleCount
  byInterval : s.calibration.byInterval.Perm r.calibration.byInterval
  disclaimer : s.disclaimer = r.disclaimer

namespace SameInstant

variable {t u : ParsedDateTime}

theorem micros_eq (h : SameInstant t u) : micros u = micros t := by
  obtain ⟨instant, hInstant⟩ := Option.isSome_iff_exists.mp h.2
  rw [(micros_of_toInstant hInstant).1, (micros_of_toInstant (h.1.trans hInstant)).1]

theorem aware (h : SameInstant t u) : u.offset ≠ none := by
  obtain ⟨instant, hInstant⟩ := Option.isSome_iff_exists.mp h.2
  exact (micros_of_toInstant (h.1.trans hInstant)).2

theorem utc_eq (h : SameInstant t u) : utc u = utc t := by
  obtain ⟨instant, hInstant⟩ := Option.isSome_iff_exists.mp h.2
  rw [utc, utc, h.1, hInstant]
  rfl

theorem isSome (h : SameInstant t u) : u.toInstant.isSome = true := by
  rw [h.1]
  exact h.2

end SameInstant

section Steps

variable {rules : TextRules} {s t : ForecastStep}

/-- A step as it is stored, with its quantiles by level. -/
def ForecastStep.stored (s : ForecastStep) : ForecastStep := { s with quantiles := sortOn byLevel s.quantiles }

theorem StepRearranged.quantiles_stored (h : StepRearranged s t) (sound : SoundStep s) :
    t.stored.quantiles = s.quantiles :=
  sortOn_eq_of_perm h.quantiles sound.ascending

theorem StepRearranged.sound (h : StepRearranged s t) (sound : SoundStep s) : SoundStep t.stored := by
  have hQuantiles := h.quantiles_stored sound
  exact {
    first := h.step.symm ▸ sound.first
    time := h.time.aware
    someQuantile := by
      rw [hQuantiles]
      exact sound.someQuantile
    levels := by
      rw [hQuantiles]
      exact sound.levels
    ascending := by
      rw [hQuantiles]
      exact sound.ascending
    someInterval := h.intervals.length_eq.symm ▸ sound.someInterval
    intervals := fun i hMem => sound.intervals i (h.intervals.mem_iff.mp hMem)
    distribution := by
      rw [hQuantiles]
      have hPoint : t.stored.point = s.point := h.point
      rw [hPoint]
      exact validateDistribution_perm h.intervals.symm sound.distribution }

/-- A rearranged step is stored with its quantiles by level. -/
theorem StepRearranged.validate (h : StepRearranged s t) (sound : SoundStep s) :
    validateStep rules t = .ok t.stored := by
  have hSound := h.sound sound
  have hQuantiles : t.quantiles.mapM validateQuantile = .ok t.quantiles :=
    mapM_self fun q hMem =>
      validateQuantile_eq_ok_iff.mpr ⟨sound.levels q (h.quantiles.mem_iff.mp hMem), rfl⟩
  have hIntervals : t.intervals.mapM (validateInterval rules) = .ok t.intervals :=
    mapM_self fun i hMem => (hSound.intervals i hMem).validate
  have hDistinct : (t.quantiles.map ForecastQuantile.level).Nodup := by
    rw [(h.quantiles.map _).nodup_iff]
    exact List.pairwise_map.mpr (sound.ascending.imp fun hLess hSame => hLess.ne (congrArg Subtype.val hSame))
  have hSome : ¬ t.quantiles.length < 1 := by
    rw [h.quantiles.length_eq]
    exact not_lt.mpr sound.someQuantile
  have hFirst : ¬ ¬ 1 ≤ t.step := not_not.mpr hSound.first
  have hTime : t.targetTime.offset ≠ none := hSound.time
  have hInterval : ¬ t.intervals.length < 1 := not_lt.mpr hSound.someInterval
  have hDistribution : validateDistribution (sortOn (fun q => q.level.1) t.quantiles) t.point t.intervals =
      .ok ⟨⟩ := hSound.distribution
  rw [validateStep, refuseIf_of_not hFirst, ok_bind, aware_of hTime, ok_bind, refuseIf_of_not hSome, ok_bind,
    hQuantiles, ok_bind, refuseIf_of_not (not_not.mpr hDistinct), ok_bind]
  dsimp only
  rw [refuseIf_of_not hInterval, ok_bind, hIntervals, ok_bind, hDistribution, ok_bind]
  rfl

/-- Rearranged steps are archived alike. -/
theorem StepRearranged.archived (h : StepRearranged s t) (sound : SoundStep s) :
    t.stored.ordered.normal = s.ordered.normal := by
  have hQuantiles : sortOn byLevel t.stored.quantiles = sortOn byLevel s.quantiles :=
    congrArg (sortOn byLevel) (h.quantiles_stored sound)
  have hDistinct : (s.intervals.map ForecastInterval.coverage).Nodup := by
    have hChecked := sound.distribution
    simp only [validateDistribution, refuseIf_bind_eq_ok_iff, not_not] at hChecked
    exact hChecked.2.2.1
  have hIntervals : sortOn byBounds t.intervals = sortOn byBounds s.intervals := by
    apply sortOn_congr h.intervals
    intro a ha b hb hKey
    have hCoverage : a.coverage = b.coverage := Subtype.ext (congrArg (fun k => (ofLex k).1) hKey)
    exact List.inj_on_of_nodup_map hDistinct (h.intervals.mem_iff.mp ha) (h.intervals.mem_iff.mp hb) hCoverage
  have hTime : utc t.targetTime = utc s.targetTime := h.time.utc_eq
  change ForecastStep.mk t.step (utc t.targetTime) t.point (sortOn byLevel t.stored.quantiles)
    (sortOn byBounds t.intervals) = _
  rw [h.step, hTime, h.point, hQuantiles, hIntervals]
  rfl

end Steps

/-! ## Sources -/

section Sources

variable {rules : TextRules}

/-- A source with its datetime in UTC and its fields in order. -/
def DataSourceLineage.settled (s : DataSourceLineage) : DataSourceLineage :=
  { s.ordered with maxAvailableAt := utc s.maxAvailableAt }

theorem SourceRearranged.settled {s t : DataSourceLineage} (h : SourceRearranged s t) :
    t.settled = s.settled := by
  have hFields : sortOn id t.fields = sortOn id s.fields := sortOn_congr h.fields fun _ _ _ _ hSame => hSame
  change DataSourceLineage.mk t.name t.snapshotId (utc t.maxAvailableAt) (sortOn id t.fields) = _
  rw [h.name, h.snapshot, h.time.utc_eq, hFields]
  rfl

theorem archivedSources_eq (sources : List DataSourceLineage) :
    (sortOn byOrigin (sources.map DataSourceLineage.ordered)).map (DataSourceLineage.normal rules) =
      (sortOn byOrigin (sources.map DataSourceLineage.settled)).map (DataSourceLineage.normal rules) := by
  have hUtc : (sortOn byOrigin (sources.map DataSourceLineage.ordered)).map
      (fun s => { s with maxAvailableAt := utc s.maxAvailableAt }) =
      sortOn byOrigin ((sources.map DataSourceLineage.ordered).map
        fun s => { s with maxAvailableAt := utc s.maxAvailableAt }) := by
    apply List.map_insertionSort (NotLater byOrigin) (NotLater byOrigin)
    intro a _ b _
    simp only [NotLater, byOrigin, utcText_utc]
  have hSettled : (sources.map DataSourceLineage.ordered).map
      (fun s => { s with maxAvailableAt := utc s.maxAvailableAt }) = sources.map DataSourceLineage.settled := by
    rw [List.map_map]
    rfl
  rw [← hSettled, ← hUtc, List.map_map]
  apply List.map_congr_left
  intro s _
  simp [DataSourceLineage.normal]

theorem archivedSources_congr (rules : TextRules) {sources middle others : List DataSourceLineage}
    (perm : middle.Perm sources)
    (rearranged : List.Forall₂ SourceRearranged middle others) :
    (sortOn byOrigin (others.map DataSourceLineage.ordered)).map (DataSourceLineage.normal rules) =
      (sortOn byOrigin (sources.map DataSourceLineage.ordered)).map (DataSourceLineage.normal rules) := by
  have hSettled : others.map DataSourceLineage.settled = middle.map DataSourceLineage.settled := by
    rw [← List.forall₂_eq_eq_eq, List.forall₂_map_left_iff, List.forall₂_map_right_iff]
    exact (rearranged.imp fun _ _ h => h.settled).flip
  have hPerm : (others.map DataSourceLineage.settled).Perm (sources.map DataSourceLineage.settled) := by
    rw [hSettled]
    exact perm.map _
  have hTimes : ∀ a ∈ others.map DataSourceLineage.settled,
      a.maxAvailableAt.toInstant.isSome = true ∧ utc a.maxAvailableAt = a.maxAvailableAt := by
    rw [List.forall_mem_map]
    intro s hMem
    obtain ⟨t, -, hSource⟩ := exists_left_of_forall₂ rearranged hMem
    refine ⟨?_, utc_utc s.maxAvailableAt⟩
    exact (congrArg Option.isSome (toInstant_utc s.maxAvailableAt)).trans hSource.time.isSome
  rw [archivedSources_eq, archivedSources_eq sources]
  congr 1
  exact sortOn_congr hPerm fun a ha b hb h =>
    eq_of_byOrigin (hTimes a ha).1 (hTimes b hb).1 (hTimes a ha).2 (hTimes b hb).2 h

end Sources

/-! ## Responses -/

/-- A response as it is stored, with the quantiles of its steps by level. -/
def ForecastResponse.stored (r : ForecastResponse) : ForecastResponse :=
  { r with forecasts := r.forecasts.map ForecastStep.stored }

namespace Rearranged

variable {rules : TextRules} {floats : FloatText} {r s : ForecastResponse}

theorem sound_provenance (h : Rearranged r s) (sound : SoundProvenance rules r.provenance) :
    SoundProvenance rules s.provenance where
  snapshot := h.snapshotId.symm ▸ sound.snapshot
  model := h.modelVersion.symm ▸ sound.model
  hashLength := h.featureSetHash.symm ▸ sound.hashLength
  hash := h.featureSetHash.symm ▸ sound.hash
  available := h.maxAvailableAt.aware
  generated := h.generatedAt.aware
  code := h.codeVersion.symm ▸ sound.code
  sources := by
    intro t hMem
    obtain ⟨sources, hPerm, hSources⟩ := h.sources
    obtain ⟨u, hSource, hSame⟩ := exists_left_of_forall₂ hSources hMem
    have hSound := sound.sources u (hPerm.mem_iff.mp hSource)
    exact ⟨hSame.name.symm ▸ hSound.named, hSame.snapshot.symm ▸ hSound.snapshot, hSame.time.aware,
      fun f hField => hSound.stripped f (hSame.fields.mem_iff.mp hField)⟩
  lookahead := by
    refine ⟨h.checkedAt.aware, h.feature.aware,
      fun v hMem => sound.lookahead.stripped v (h.violations.mem_iff.mp hMem), ?_⟩
    intro hStatus
    have hNone := sound.lookahead.passed (h.status ▸ hStatus)
    exact List.perm_nil.mp (hNone ▸ h.violations)

theorem sound_calibration (h : Rearranged r s) (sound : SoundCalibration rules r.calibration) :
    SoundCalibration rules s.calibration where
  version := h.calibrationSetVersion.symm ▸ sound.version
  samples := h.sampleCount.symm ▸ sound.samples
  rows := fun b hMem => sound.rows b (h.byInterval.mem_iff.mp hMem)
  window := by
    have hWindow : validateWindow { r.calibration with
        calibrationSetVersion := s.calibration.calibrationSetVersion
        byInterval := s.calibration.byInterval } = .ok ⟨⟩ := validateWindow_perm h.byInterval.symm sound.window
    dsimp only at hWindow
    rw [← h.method, ← h.windowStart, ← h.windowEnd, ← h.sampleCount] at hWindow
    exact hWindow

theorem sameInvariants (h : Rearranged r s) : SameInvariants r s.stored where
  horizon := h.horizon
  steps := by
    change (s.forecasts.map ForecastStep.stored).map _ = _
    rw [List.map_map, ← List.forall₂_eq_eq_eq, List.forall₂_map_left_iff, List.forall₂_map_right_iff]
    refine (h.steps.imp fun t u hStep => ?_).flip
    exact Prod.ext hStep.step hStep.time.micros_eq
  asOf := h.asOf.micros_eq
  cutoff := h.maxAvailableAt.micros_eq
  generated := h.generatedAt.micros_eq
  sources := by
    obtain ⟨sources, hPerm, hSources⟩ := h.sources
    have hSame : s.provenance.dataSources.map (fun d => micros d.maxAvailableAt) =
        sources.map fun d => micros d.maxAvailableAt := by
      rw [← List.forall₂_eq_eq_eq, List.forall₂_map_left_iff, List.forall₂_map_right_iff]
      exact (hSources.imp fun t u hSource => hSource.time.micros_eq).flip
    exact (List.Perm.of_eq hSame).trans (hPerm.map _)
  feature := h.feature.micros_eq
  target := h.target
  basis := h.seriesBasis
  method := h.method
  rows := List.toFinset_eq_of_perm _ _ (h.byInterval.map _)
  emitted := by
    ext bucket
    simp only [List.mem_toFinset, emittedBuckets, List.mem_flatMap, List.mem_map, ForecastResponse.stored]
    constructor
    · rintro ⟨_, ⟨u, hStep, rfl⟩, i, hInterval, rfl⟩
      obtain ⟨t, hMem, hSame⟩ := exists_left_of_forall₂ h.steps hStep
      exact ⟨t, hMem, i, hSame.intervals.mem_iff.mp hInterval, by rw [← hSame.step]; rfl⟩
    · rintro ⟨t, hStep, i, hInterval, rfl⟩
      obtain ⟨u, hMem, hSame⟩ := exists_right_of_forall₂ h.steps hStep
      exact ⟨u.stored, ⟨u, hMem, rfl⟩, i, hSame.intervals.mem_iff.mpr hInterval, by rw [← hSame.step]; rfl⟩
  currency := by
    rw [← h.currency]
    rfl

theorem sound (h : Rearranged r s) (valid : SoundResponse rules r) : SoundResponse rules s.stored where
  symbolStripped := h.symbol.symm ▸ valid.symbolStripped
  symbolUpper := h.symbol.symm ▸ valid.symbolUpper
  horizon := h.horizon.symm ▸ valid.horizon
  time := h.asOf.aware
  currency := h.currency.symm ▸ valid.currency
  someStep := by
    change 1 ≤ (s.forecasts.map ForecastStep.stored).length
    rw [List.length_map, ← h.steps.length_eq]
    exact valid.someStep
  steps := by
    change ∀ t ∈ s.forecasts.map ForecastStep.stored, SoundStep t
    rw [List.forall_mem_map]
    intro u hMem
    obtain ⟨t, hStep, hSame⟩ := exists_left_of_forall₂ h.steps hMem
    exact hSame.sound (valid.steps t hStep)
  provenance := h.sound_provenance valid.provenance
  calibration := h.sound_calibration valid.calibration
  disclaimer := h.disclaimer.symm ▸ valid.disclaimer
  invariants := h.sameInvariants.validate valid.invariants

theorem validate (h : Rearranged r s) (valid : SoundResponse rules r) :
    validateResponse rules s = .ok s.stored := by
  apply validateResponse_of_steps _ (h.sound valid)
  apply mapM_of_forall₂
  rw [List.forall₂_map_right_iff, List.forall₂_same]
  intro u hMem
  obtain ⟨t, hStep, hSame⟩ := exists_left_of_forall₂ h.steps hMem
  exact hSame.validate (valid.steps t hStep)

theorem timed (h : Rearranged r s) : Timed s.stored.payload := by
  rw [ForecastResponse.timed_iff, ForecastProvenance.timed_iff, LookaheadCheck.timed_iff]
  refine ⟨h.asOf.isSome, ?_, ?_, h.generatedAt.isSome, ⟨h.checkedAt.isSome, h.feature.isSome⟩,
    h.maxAvailableAt.isSome⟩
  · change ∀ t ∈ s.forecasts.map ForecastStep.stored, _
    rw [List.forall_mem_map]
    intro u hMem
    obtain ⟨t, -, hSame⟩ := exists_left_of_forall₂ h.steps hMem
    exact hSame.time.isSome
  · intro u hMem
    obtain ⟨sources, -, hSources⟩ := h.sources
    obtain ⟨t, -, hSame⟩ := exists_left_of_forall₂ hSources hMem
    exact hSame.time.isSome

theorem archived (h : Rearranged r s) (valid : SoundResponse rules r) :
    s.stored.archived rules = r.archived rules := by
  have hSteps : ((s.forecasts.map ForecastStep.stored).map ForecastStep.ordered).map ForecastStep.normal =
      (r.forecasts.map ForecastStep.ordered).map ForecastStep.normal := by
    simp only [List.map_map]
    rw [← List.forall₂_eq_eq_eq, List.forall₂_map_left_iff, List.forall₂_map_right_iff]
    have hEach : List.Forall₂ (fun t u => u.stored.ordered.normal = t.ordered.normal) r.forecasts s.forecasts := by
      apply List.forall₂_iff_zip.mpr
      refine ⟨h.steps.length_eq, fun {t u} hMem => ?_⟩
      have hStep := (List.forall₂_iff_zip.mp h.steps).2 hMem
      exact hStep.archived (valid.steps t (List.of_mem_zip hMem).1)
    exact hEach.flip
  obtain ⟨sources, hPerm, hSame⟩ := h.sources
  have hSources := archivedSources_congr rules hPerm hSame
  have hViolations : sortOn id s.provenance.lookaheadCheck.violations =
      sortOn id r.provenance.lookaheadCheck.violations :=
    sortOn_congr h.violations fun _ _ _ _ hKey => hKey
  have hRows : sortOn byBucket s.calibration.byInterval = sortOn byBucket r.calibration.byInterval := by
    have hDistinct : (buckets r.calibration.byInterval).Nodup := by
      have hChecked := valid.calibration.window
      simp only [validateWindow, refuseIf_bind_eq_ok_iff, refuseIf_eq_ok_iff, not_not] at hChecked
      exact hChecked.2.2.2
    apply sortOn_congr h.byInterval
    intro a ha b hb hKey
    have hBucket : (a.horizon, a.nominalCoverage) = (b.horizon, b.nominalCoverage) :=
      Prod.ext (congrArg (fun k => (ofLex k).1) hKey) (Subtype.ext (congrArg (fun k => (ofLex k).2) hKey))
    exact List.inj_on_of_nodup_map hDistinct (h.byInterval.mem_iff.mp ha) (h.byInterval.mem_iff.mp hb) hBucket
  simp only [ForecastResponse.archived, ForecastResponse.normal, ForecastResponse.ordered,
    ForecastResponse.stored, ForecastProvenance.normal, ForecastProvenance.ordered, LookaheadCheck.normal,
    LookaheadCheck.ordered, ForecastCalibration.normal, ForecastCalibration.ordered]
  rw [hSteps, hSources, hViolations, hRows, h.symbol, h.target, h.horizon, h.horizonUnit, h.asOf.utc_eq,
    h.currency, h.forecastId, h.snapshotId, h.modelVersion, h.seriesBasis, h.featureSetHash,
    h.maxAvailableAt.utc_eq, h.generatedAt.utc_eq, h.codeVersion, h.status, h.checkedAt.utc_eq,
    h.feature.utc_eq, h.calibrationSetVersion, h.method, h.windowStart, h.windowEnd, h.sampleCount,
    h.disclaimer]

/-- Rearranged responses are archived as the same bytes. -/
theorem canonicalOutput_eq (h : Rearranged r s) (valid : SoundResponse rules r) {b : Bytes}
    (hBytes : canonicalOutput rules floats r = .ok b) : canonicalOutput rules floats s = .ok b := by
  have hStored : canonicalOutput rules floats s = canonicalOutput rules floats s.stored := by
    rw [canonicalOutput, h.validate valid, canonicalOutput, (h.sound valid).validate]
  obtain ⟨-, hOutput, hLength⟩ := (canonicalOutput_eq_ok_iff valid).mp hBytes
  rw [hStored, canonicalOutput_eq_ok_iff (h.sound valid), outputBytes, h.archived valid]
  exact ⟨h.timed, hOutput, hLength⟩

end Rearranged

/-! ## Requests -/

/-- Requests that differ in the offset of their cutoff and the order of their coverages. -/
structure RequestRearranged (r s : ForecastRequest) : Prop where
  rest : s = { r with asOf := s.asOf, intervalCoverages := s.intervalCoverages }
  asOf : (r.asOf = none ∧ s.asOf = none) ∨ ∃ t u, r.asOf = some t ∧ s.asOf = some u ∧ SameInstant t u
  coverages : s.intervalCoverages.Perm r.intervalCoverages

namespace RequestRearranged

variable {rules : TextRules} {floats : FloatText} {r s : ForecastRequest}

theorem utc_eq (h : RequestRearranged r s) : s.asOf.map utc = r.asOf.map utc := by
  obtain ⟨hr, hs⟩ | ⟨t, u, hr, hs, hSame⟩ := h.asOf
  · rw [hr, hs]
  · rw [hr, hs, Option.map_some, Option.map_some, hSame.utc_eq]

theorem times (h : RequestRearranged r s) : ∀ u ∈ s.asOf, u.offset ≠ none ∧ u.toInstant.isSome = true := by
  intro v hMem
  obtain ⟨-, hs⟩ | ⟨t, u, -, hs, hSame⟩ := h.asOf
  · rw [hs] at hMem
    cases hMem
  · rw [hs] at hMem
    cases hMem
    exact ⟨hSame.aware, hSame.isSome⟩

theorem sound (h : RequestRearranged r s) (valid : SoundRequest rules r) :
    SoundRequest rules { r with asOf := s.asOf } :=
  { valid with time := fun u hMem => (h.times u hMem).1 }

/-- A rearranged request is stored with its coverages in order. -/
theorem validate (h : RequestRearranged r s) (valid : SoundRequest rules r) :
    validateRequest rules s = .ok { r with asOf := s.asOf } := by
  calc validateRequest rules s
      = validateRequest rules { r with asOf := s.asOf, intervalCoverages := s.intervalCoverages } :=
        congrArg (validateRequest rules) h.rest
    _ = .ok { r with asOf := s.asOf } := (h.sound valid).validate_perm h.coverages

/-- Rearranged requests are archived as the same bytes. -/
theorem canonicalRequest_eq (h : RequestRearranged r s) (valid : SoundRequest rules r) {b : Bytes}
    (hBytes : canonicalRequest rules floats r = .ok b) : canonicalRequest rules floats s = .ok b := by
  have hSound := h.sound valid
  have hStored : canonicalRequest rules floats s = canonicalRequest rules floats { r with asOf := s.asOf } := by
    rw [canonicalRequest, h.validate valid, canonicalRequest, hSound.validate]
  have hNormal : ({ r with asOf := s.asOf } : ForecastRequest).normal rules = r.normal rules := by
    rw [ForecastRequest.normal, ForecastRequest.normal, h.utc_eq]
  have hTimed : Timed ({ r with asOf := s.asOf } : ForecastRequest).payload :=
    ForecastRequest.timed_iff.mpr fun u hMem => (h.times u hMem).2
  obtain ⟨-, hRequest, hLength⟩ := (canonicalRequest_eq_ok_iff valid).mp hBytes
  rw [hStored, canonicalRequest_eq_ok_iff hSound, requestBytes, hNormal]
  exact ⟨hTimed, hRequest, hLength⟩

end RequestRearranged

end StockApi.Forecasts

import StockApi.Evaluation.Leaderboard
import StockApi.Evaluation.Pooling
import Mathlib.Analysis.Real.Sqrt

/-!
# Baselines in another unit

The forecasts of a baseline are in the unit of the series, and so are its losses. The order of the losses
does not depend on the unit.
-/

namespace StockApi.Evaluation

open Checked Averages Groups OrderStatistics
open Baselines (Baseline Fitted ValidLevels coverageLevels onGrid_levels levels_ascending mem_levels_iff find?_level
  onGrid_half)

/-- A baseline under a name. -/
structure NamedBaseline where
  name : String
  trimmed : name ≠ "" ∧ Text.Trimmed name
  baseline : Baseline

section Baselines

variable {K : Type} [Field K] [LinearOrder K]

/-! ## The model itself -/

section Model

variable {c : K} {b : Baseline} {history : List K} {step : Nat}

omit [LinearOrder K] in
theorem getD_scale (c : K) (values : List K) (i : Nat) : (values.map (c * ·)).getD i 0 = c * values.getD i 0 := by
  rw [List.getD_eq_getElem?_getD, List.getD_eq_getElem?_getD, List.getElem?_map]
  cases values[i]? with
  | none => exact (mul_zero c).symm
  | some v => rfl

omit [LinearOrder K] in
theorem forecastAt_scale (c : K) (b : Baseline) (history : List K) (step : Nat) :
    b.forecastAt (history.map (c * ·)) step = c * b.forecastAt history step := by
  cases b with
  | naive => rw [Baseline.forecastAt, getD_scale, List.length_map, Baseline.forecastAt]
  | drift =>
    simp only [Baseline.forecastAt, getD_scale, List.length_map]
    ring
  | seasonalNaive seasonLength positive => rw [Baseline.forecastAt, getD_scale, List.length_map, Baseline.forecastAt]

omit [LinearOrder K] in
theorem expandingOriginErrors_scale (c : K) (b : Baseline) (history : List K) (step : Nat) :
    b.expandingOriginErrors (history.map (c * ·)) step = (b.expandingOriginErrors history step).map (c * ·) := by
  rw [Baseline.expandingOriginErrors, Baseline.expandingOriginErrors, List.length_map, List.map_map]
  apply List.map_congr_left
  intro size _
  rw [getD_scale, ← List.map_take, forecastAt_scale, Function.comp_apply, mul_sub]

variable [IsStrictOrderedRing K]

/-- The same baseline fitted to the scaled values. -/
def scaledFit (c : K) (f : Fitted K) : Fitted K where
  baseline := f.baseline
  history := f.history.map (c * ·)
  enough := by
    rw [List.length_map]
    exact f.enough

theorem dispersed_scale (pos : 0 < c) {f : Fitted K} (h : f.Dispersed step) : (scaledFit c f).Dispersed step := by
  have hErrors : (scaledFit c f).baseline.expandingOriginErrors (scaledFit c f).history step =
      (f.baseline.expandingOriginErrors f.history step).map (c * ·) := expandingOriginErrors_scale c _ _ _
  rw [Fitted.Dispersed, hErrors, List.length_map, sorted_scale pos, List.head?_map, List.getLast?_map]
  refine ⟨h.1, fun hSame => h.2 ?_⟩
  exact Option.map_injective (mul_right_injective₀ pos.ne') hSame

theorem quantile_scale [FloorSemiring K] (pos : 0 < c) (f : Fitted K) (step : Nat) (level : K) :
    (scaledFit c f).quantile step level = c * f.quantile step level := by
  have hErrors : (scaledFit c f).baseline.expandingOriginErrors (scaledFit c f).history step =
      (f.baseline.expandingOriginErrors f.history step).map (c * ·) := expandingOriginErrors_scale c _ _ _
  have hPoint : (scaledFit c f).baseline.forecastAt (scaledFit c f).history step =
      c * f.baseline.forecastAt f.history step := forecastAt_scale c _ _ _
  rw [Fitted.quantile, hErrors, hPoint, sorted_scale pos, linearQuantile_scale, linearQuantile_scale, Fitted.quantile]
  ring

end Model

/-! ## The forecast at an origin -/

section Forecast

variable [FloorSemiring K]

def forecaster (f : Fitted K) : Forecaster K where
  modelVersion := f.baseline.modelVersion
  predict := f.predict
  predictQuantiles := f.predictQuantiles

def NamedBaseline.candidate (named : NamedBaseline) : BaselineCandidate K where
  name := named.name
  trimmed := named.trimmed
  fit values := do
    let fitted ← named.baseline.fit values
    return forecaster fitted

variable [IsStrictOrderedRing K] {levels : List ℚ} {horizon : Nat}

omit [FloorSemiring K] in
/-- A returned level is the requested one. -/
theorem find?_cast (grid : ∀ l ∈ levels, Baselines.OnGrid l) {level : ℚ} (h : level ∈ levels) :
    levels.find? (fun requested : ℚ => decide (|(requested : K) - (level : K)| ≤ 1 / 10 ^ 12)) = some level := by
  have hSame : ∀ requested : ℚ, |(requested : K) - (level : K)| ≤ 1 / 10 ^ 12 ↔ |requested - level| ≤ 1 / 10 ^ 12 := by
    intro requested
    rw [← Rat.cast_sub, ← Rat.cast_abs]
    have hTolerance : (1 / 10 ^ 12 : K) = ((1 / 10 ^ 12 : ℚ) : K) := by
      push_cast
      ring
    rw [hTolerance, Rat.cast_le]
  simp only [hSame]
  have hNonneg : (0 : ℚ) ≤ 1 / 10 ^ 12 := by norm_num
  have hSmall : (1 : ℚ) / 10 ^ 12 ≤ 1 / 10 ^ 9 := by norm_num
  have hFind := find?_level hNonneg hSmall grid id id (fun _ => rfl) h
  rwa [List.map_id] at hFind

omit [FloorSemiring K] in
theorem foldlM_addPath (grid : ∀ l ∈ levels, Baselines.OnGrid l) (distinct : levels.Nodup) {path : K → List K}
    (length : ∀ l, (path l).length = horizon) {done rest : List ℚ} (split : levels = done ++ rest) :
    (rest.map fun l : ℚ => ((l : K), path l)).foldlM (addPath levels horizon) (done.map fun l : ℚ => (l, path l)) =
      .ok (levels.map fun l : ℚ => (l, path l)) := by
  induction rest generalizing done with
  | nil =>
    rw [split, List.append_nil]
    rfl
  | cons level rest ih =>
    have hMem : level ∈ levels := by
      rw [split]
      exact List.mem_append_right _ List.mem_cons_self
    have hRange : 0 < (level : K) ∧ (level : K) < 1 := by
      obtain ⟨hLow, hHigh⟩ := (grid level hMem).range
      exact ⟨by exact_mod_cast hLow, by exact_mod_cast hHigh⟩
    have hNew : level ∉ (done.map fun l : ℚ => (l, path l)).map Prod.fst := by
      rw [List.map_map]
      intro hOld
      obtain ⟨l, hl, rfl⟩ := List.mem_map.mp hOld
      rw [split] at distinct
      exact (List.disjoint_of_nodup_append distinct) hl List.mem_cons_self
    have hStep : addPath levels horizon (done.map fun l : ℚ => (l, path l)) ((level : K), path level) =
        .ok ((done ++ [level]).map fun l : ℚ => (l, path l)) := by
      rw [addPath, refuseIf_of_not (not_not.mpr hRange), ok_bind, find?_cast grid hMem, orRefuse_some, ok_bind,
        refuseIf_of_not hNew, ok_bind, forecastPath, refuseIf_of_not (not_not.mpr (length level))]
      rw [List.map_append]
      rfl
    rw [List.map_cons, List.foldlM_cons, hStep, ok_bind]
    apply ih
    rw [split, List.append_assoc, List.singleton_append]

omit [FloorSemiring K] in
theorem quantilePaths_eq (grid : ∀ l ∈ levels, Baselines.OnGrid l) (distinct : levels.Nodup) {path : K → List K}
    (length : ∀ l, (path l).length = horizon) :
    quantilePaths (levels.map fun l : ℚ => ((l : K), path l)) levels horizon =
      .ok (levels.map fun l : ℚ => (l, path l)) := by
  have hFold := foldlM_addPath grid distinct length (List.nil_append levels).symm
  have hMissing : levels.filter (fun level => level ∉ (levels.map fun l : ℚ => (l, path l)).map Prod.fst) = [] := by
    rw [List.filter_eq_nil_iff]
    intro level hLevel hAbsent
    rw [decide_eq_true_iff] at hAbsent
    apply hAbsent
    rw [List.map_map, List.mem_map]
    exact ⟨level, hLevel, rfl⟩
  rw [List.map_nil] at hFold
  rw [quantilePaths, hFold, ok_bind]
  dsimp only
  rw [hMissing, refuseIf_of_not (not_not.mpr rfl)]
  rfl

/-- A baseline passes the checks of its forecast. -/
theorem validateDistribution_eq (config : WalkForwardConfig) {f : Fitted K} {horizon : Nat}
    (dispersed : ∀ step ∈ List.range' 1 horizon, f.Dispersed step) :
    validateDistribution ((List.range' 1 horizon).map (f.baseline.forecastAt f.history))
      (config.quantileLevels.map fun l : ℚ => (l, (List.range' 1 horizon).map fun step => f.quantile step (l : K)))
      config.quantileLevels = .ok ⟨⟩ := by
  rw [validateDistribution, forM_eq_ok_iff]
  rintro ⟨point, i⟩ hMem
  have hIndex : i < horizon := by
    have hBound := List.snd_lt_of_mem_zipIdx hMem
    rw [List.length_map, List.length_range'] at hBound
    omega
  have hStep : i + 1 ∈ List.range' 1 horizon := by
    rw [List.mem_range'_1]
    omega
  have hGet : ∀ g : Nat → K, ((List.range' 1 horizon).map g).getD i 0 = g (i + 1) := by
    intro g
    rw [List.getD_eq_getElem?_getD, List.getElem?_map, List.getElem?_range' hIndex, Option.map_some, one_mul,
      Nat.add_comm, Option.getD_some]
  have hPoint : point = f.baseline.forecastAt f.history (i + 1) := by
    have hEntry := List.mk_mem_zipIdx_iff_getElem?.mp hMem
    rw [← hGet (f.baseline.forecastAt f.history), List.getD_eq_getElem?_getD, hEntry, Option.getD_some]
  have hValue : ∀ level ∈ config.quantileLevels,
      (pathOf (config.quantileLevels.map fun l : ℚ =>
        (l, (List.range' 1 horizon).map fun step => f.quantile step (l : K))) level).getD i 0 =
        f.quantile (i + 1) (level : K) := by
    intro level hLevel
    rw [pathOf, Baselines.lookup_level _ hLevel, Option.getD_some, hGet]
  have hHalf : (1 / 2 : ℚ) ∈ config.quantileLevels := (mem_levels_iff config.canonical).mpr (Or.inl rfl)
  have hChain : (config.quantileLevels.map fun level => (pathOf (config.quantileLevels.map fun l : ℚ =>
      (l, (List.range' 1 horizon).map fun step => f.quantile step (l : K))) level).getD i 0).IsChain (· ≤ ·) := by
    rw [List.map_congr_left hValue]
    apply List.Pairwise.isChain
    rw [List.pairwise_map]
    refine (levels_ascending config.intervalCoverages).imp_of_mem fun {p q} hp hq hLess => ?_
    have hLow := (level_range (K := K) config hp).1
    have hHigh := (level_range (K := K) config hq).2
    exact Fitted.quantile_mono (dispersed _ hStep) hLow.le (by exact_mod_cast hLess.le) hHigh.le
  have hMedian : ¬ 1 / 10 ^ 9 < |f.quantile (i + 1) ((1 / 2 : ℚ) : K) - point| := by
    have hCast : ((1 / 2 : ℚ) : K) = 1 / 2 := by
      push_cast
      rfl
    rw [hCast, Fitted.quantile_half, hPoint, sub_self, abs_zero, not_lt]
    positivity
  rw [refuseIf_of_not (not_not.mpr hChain), ok_bind]
  dsimp only
  rw [hValue _ hHalf, refuseIf_of_not hMedian]

omit [IsStrictOrderedRing K] in
theorem candidate_fit_eq_ok {named : NamedBaseline} {training : List K} {fitted : Forecaster K} :
    named.candidate.fit training = .ok fitted ↔
      ∃ enough : named.baseline.minimumHistory ≤ training.length, fitted =
        forecaster ⟨named.baseline, training, enough⟩ := by
  rw [NamedBaseline.candidate, bind_eq_ok_iff]
  unfold Baseline.fit
  split_ifs with hEnough
  · simp only [Except.ok.injEq, exists_eq_left', pure_eq_ok, exists_prop_of_true hEnough]
    exact eq_comm
  · constructor
    · rintro ⟨_, hError, -⟩
      cases hError
    · rintro ⟨hLong, -⟩
      exact absurd hLong hEnough

theorem validLevels (config : WalkForwardConfig) : ValidLevels (config.quantileLevels.map fun l : ℚ => (l : K)) := by
  constructor
  · intro hNil
    have hHalf : (1 / 2 : ℚ) ∈ config.quantileLevels := (mem_levels_iff config.canonical).mpr (Or.inl rfl)
    rw [List.map_eq_nil_iff.mp hNil] at hHalf
    cases hHalf
  · intro l hl
    obtain ⟨level, hLevel, rfl⟩ := List.mem_map.mp hl
    exact level_range config hLevel
  · exact List.Nodup.map Rat.cast_injective ((levels_ascending config.intervalCoverages).imp ne_of_lt)

/-- The forecast of a baseline, when it returns its quantiles. -/
theorem forecastOrigin_baseline {config : WalkForwardConfig} {named : NamedBaseline} {training : List K} {v : String}
    {point : List K} {quantiles : List (QuantilePath K)} :
    forecastOrigin named.candidate config none training = .ok (v, point, quantiles) ↔
      ∃ enough : named.baseline.minimumHistory ≤ training.length,
        (named.baseline.modelVersion ≠ "" ∧ Text.Trimmed named.baseline.modelVersion) ∧
        v = named.baseline.modelVersion ∧
        (∀ step ∈ List.range' 1 config.horizon, Fitted.Dispersed ⟨named.baseline, training, enough⟩ step) ∧
        point = (List.range' 1 config.horizon).map (named.baseline.forecastAt training) ∧
        quantiles = config.quantileLevels.map fun l : ℚ => ⟨l, (List.range' 1 config.horizon).map fun step =>
          Fitted.quantile ⟨named.baseline, training, enough⟩ step (l : K)⟩ := by
  have hGrid := onGrid_levels config.canonical
  have hDistinct : config.quantileLevels.Nodup := (levels_ascending config.intervalCoverages).imp ne_of_lt
  have hPaths : ∀ f : Fitted K, quantilePaths ((config.quantileLevels.map fun l : ℚ => (l : K)).map fun level =>
      (level, (List.range' 1 config.horizon).map fun step => f.quantile step level)) config.quantileLevels
        config.horizon =
      .ok (config.quantileLevels.map fun l : ℚ =>
        (l, (List.range' 1 config.horizon).map fun step => f.quantile step (l : K))) := by
    intro f
    have hLength : ∀ level : K, ((List.range' 1 config.horizon).map fun step => f.quantile step level).length =
        config.horizon := fun level => by rw [List.length_map, List.length_range']
    rw [List.map_map]
    exact quantilePaths_eq hGrid hDistinct hLength
  have hNone : ¬ ∃ w ∈ (none : Option String), named.baseline.modelVersion ≠ w := by
    rintro ⟨w, hw, -⟩
    cases hw
  have hOut : ∀ f : Fitted K, config.quantileLevels.map (fun level => QuantilePath.mk level
      (pathOf (config.quantileLevels.map fun l : ℚ =>
        (l, (List.range' 1 config.horizon).map fun step => f.quantile step (l : K))) level)) =
      config.quantileLevels.map fun l : ℚ =>
        ⟨l, (List.range' 1 config.horizon).map fun step => f.quantile step (l : K)⟩ := by
    intro f
    apply List.map_congr_left
    intro level hLevel
    rw [pathOf, Baselines.lookup_level _ hLevel, Option.getD_some]
  rw [forecastOrigin, bind_eq_ok_iff]
  simp only [mapError_eq_ok_iff, candidate_fit_eq_ok]
  constructor
  · rintro ⟨_, ⟨hEnough, rfl⟩, h⟩
    refine ⟨hEnough, ?_⟩
    simp only [forecaster, validModelVersion, forecastPath, bind_eq_ok_iff, mapError_eq_ok_iff, refuseIf_eq_ok_iff,
      not_not,
      Fitted.predict_eq_ok, Fitted.predictQuantiles_eq_ok, pure_eq_ok, Except.ok.injEq, Prod.mk.injEq] at h
    obtain ⟨_, ⟨_, hVersion, rfl⟩, _, -, _, ⟨-, rfl⟩, _, ⟨_, -, rfl⟩, _, ⟨-, -, hDispersed, rfl⟩, _, hNormal, _, -, rfl,
      rfl, rfl⟩ := h
    rw [hPaths, Except.ok.injEq] at hNormal
    exact ⟨not_not.mp (refuseIf_eq_ok_iff.mp hVersion), rfl, hDispersed, rfl, by rw [← hNormal, hOut]⟩
  · rintro ⟨hEnough, hVersion, rfl, hDispersed, rfl, rfl⟩
    refine ⟨_, ⟨hEnough, rfl⟩, ?_⟩
    have hPoint : Fitted.predict ⟨named.baseline, training, hEnough⟩ config.horizon =
        .ok ((List.range' 1 config.horizon).map (named.baseline.forecastAt training)) :=
      Fitted.predict_eq_ok.mpr ⟨config.positive.2.1, rfl⟩
    have hQuantiles := Fitted.predictQuantiles_eq_ok.mpr ⟨config.positive.2.1, validLevels config, hDispersed, rfl⟩
    have hLength : ¬ ((List.range' 1 config.horizon).map (named.baseline.forecastAt training)).length ≠
        config.horizon := by
      rw [List.length_map, List.length_range', not_not]
    have hValid := validateDistribution_eq config hDispersed
    dsimp only [forecaster]
    rw [validModelVersion, refuseIf_of_not (not_not.mpr hVersion), ok_bind, pure_eq_ok, ok_bind, refuseIf_of_not hNone,
      ok_bind, mapError_eq_ok_iff.mpr hPoint, ok_bind, forecastPath, refuseIf_of_not hLength, ok_bind, pure_eq_ok,
      ok_bind,
      mapError_eq_ok_iff.mpr hQuantiles, ok_bind, hPaths, ok_bind, hValid, ok_bind, hOut]
    rfl

end Forecast

/-! ## Origins and scores in another unit -/

section Scores

variable {c : K}

def QuantilePath.scale (c : K) (path : QuantilePath K) : QuantilePath K where
  level := path.level
  values := path.values.map (c * ·)

def OriginForecast.scale (c : K) (o : OriginForecast K) : OriginForecast K where
  trainEndExclusive := o.trainEndExclusive
  originIndex := o.originIndex
  targetStartIndex := o.targetStartIndex
  actual := o.actual.map (c * ·)
  point := o.point.map (c * ·)
  quantiles := o.quantiles.map (QuantilePath.scale c)

omit [LinearOrder K] in
theorem quantile_scale_origin (c : K) (o : OriginForecast K) (level : ℚ) (offset : Nat) :
    (o.scale c).quantile level offset = c * o.quantile level offset := by
  have hFind : (o.scale c).quantiles.find? (fun path => path.level = level) =
      (o.quantiles.find? fun path => path.level = level).map (QuantilePath.scale c) := List.find?_map ..
  rw [OriginForecast.quantile, hFind, OriginForecast.quantile]
  cases o.quantiles.find? (fun path => path.level = level) with
  | none => exact (mul_zero c).symm
  | some path => exact getD_scale c path.values offset

variable [IsStrictOrderedRing K]

theorem absoluteError_scale (pos : 0 < c) (o : OriginForecast K) (offset : Nat) :
    absoluteError (o.scale c) offset = c * absoluteError o offset := by
  rw [absoluteError, OriginForecast.scale, getD_scale, getD_scale, ← mul_sub, abs_mul, abs_of_pos pos, absoluteError]

omit [LinearOrder K] [IsStrictOrderedRing K] in
theorem squaredError_scale (c : K) (o : OriginForecast K) (offset : Nat) :
    squaredError (o.scale c) offset = c ^ 2 * squaredError o offset := by
  rw [squaredError, OriginForecast.scale, getD_scale, getD_scale, ← mul_sub, mul_pow, squaredError]

theorem quantileError_scale (pos : 0 < c) (level : ℚ) (o : OriginForecast K) (offset : Nat) :
    quantileError level (o.scale c) offset = c * quantileError level o offset := by
  have hActual : (o.scale c).actual.getD offset 0 = c * o.actual.getD offset 0 := getD_scale c _ _
  rw [quantileError, quantile_scale_origin, hActual, ← mul_sub, mul_left_comm, mul_left_comm _ c,
    ← mul_max_of_nonneg _ _ pos.le, quantileError]

omit [LinearOrder K] [IsStrictOrderedRing K] in
theorem atStep_scale {score : OriginForecast K → Nat → K} {d : K}
    (scales : ∀ o offset, score (o.scale c) offset = d * score o offset) (origins : List (OriginForecast K))
    (offset : Nat) : atStep (origins.map (OriginForecast.scale c)) offset score = d * atStep origins offset score := by
  rw [atStep, List.map_map, atStep, ← mean_mul_left]
  congr 1
  exact List.map_congr_left fun o _ => scales o offset

omit [LinearOrder K] [IsStrictOrderedRing K] in
theorem pooled_scale {score : OriginForecast K → Nat → K} {d : K}
    (scales : ∀ o offset, score (o.scale c) offset = d * score o offset) (origins : List (OriginForecast K))
    (horizon : Nat) : pooled (origins.map (OriginForecast.scale c)) horizon score =
      d * pooled origins horizon score := by
  rw [← mean_atStep, ← mean_atStep, ← mean_mul_left]
  congr 1
  exact List.map_congr_left fun offset _ => atStep_scale scales origins offset

variable {sqrt : K → K}

/-- The keys of the ranking are in the unit of the series. -/
theorem pooledSummary_scale (config : WalkForwardConfig) (lawful : IsSquareRoot sqrt) (pos : 0 < c)
    (origins : List (OriginForecast K))
    (horizon : Nat) :
    (pooledSummary sqrt config (origins.map (OriginForecast.scale c)) horizon).mae =
        c * (pooledSummary sqrt config origins horizon).mae ∧
      (pooledSummary sqrt config (origins.map (OriginForecast.scale c)) horizon).rmse =
        c * (pooledSummary sqrt config origins horizon).rmse ∧
      (pooledSummary sqrt config (origins.map (OriginForecast.scale c)) horizon).meanPinballLoss =
        c * (pooledSummary sqrt config origins horizon).meanPinballLoss := by
  refine ⟨pooled_scale (absoluteError_scale pos) origins horizon, ?_, ?_⟩
  · rw [pooledSummary, pooledSummary]
    dsimp only
    rw [← mean_mul_left]
    congr 1
    apply List.map_congr_left
    intro offset _
    rw [atStep_scale (squaredError_scale c), lawful.sqrt_scale pos.le]
    apply mean_nonneg
    intro x hx
    obtain ⟨o, -, rfl⟩ := List.mem_map.mp hx
    exact sq_nonneg _
  · rw [pooledSummary, pooledSummary]
    dsimp only
    rw [← mean_mul_left]
    congr 1
    exact List.map_congr_left fun level _ => pooled_scale (quantileError_scale pos level) origins horizon

theorem uncrossed_scale {config : WalkForwardConfig} (pos : 0 < c) {origins : List (OriginForecast K)} {offset : Nat}
    (h : Uncrossed config origins offset) : Uncrossed config (origins.map (OriginForecast.scale c)) offset := by
  intro coverage hCoverage o ho
  obtain ⟨o, hMem, rfl⟩ := List.mem_map.mp ho
  rw [quantile_scale_origin, quantile_scale_origin]
  exact mul_le_mul_of_nonneg_left (h coverage hCoverage o hMem) pos.le

end Scores

/-! ## The ranking -/

section Ranking

variable [IsStrictOrderedRing K] [FloorSemiring K] {c : K} {sqrt : K → K} {config : WalkForwardConfig}
  {named : NamedBaseline} {series : List K} {evaluation : ModelEvaluation K}

theorem originAt_scale (pos : 0 < c) {version : String} {t : Nat} {o : OriginForecast K}
    (h : OriginAt named.candidate config series version t o) :
    OriginAt named.candidate config (series.map (c * ·)) version t (o.scale c) := by
  obtain ⟨point, quantiles, hForecast, rfl⟩ := h
  obtain ⟨hEnough, hVersion, rfl, hDispersed, rfl, rfl⟩ := forecastOrigin_baseline.mp hForecast
  have hScaled : named.baseline.minimumHistory ≤ ((series.take t).map (c * ·)).length := by
    rwa [List.length_map]
  have hTake : (series.map (c * ·)).take t = (series.take t).map (c * ·) := List.map_take.symm
  have hScaledDispersed : ∀ step ∈ List.range' 1 config.horizon,
      Fitted.Dispersed ⟨named.baseline, (series.take t).map (c * ·), hScaled⟩ step :=
    fun step hStep => dispersed_scale pos (hDispersed step hStep)
  have hScaledForecast := forecastOrigin_baseline.mpr ⟨hScaled, hVersion, rfl, hScaledDispersed, rfl, rfl⟩
  refine ⟨_, _, (congrArg (forecastOrigin named.candidate config none) hTake).trans hScaledForecast, ?_⟩
  rw [OriginForecast.scale, originForecast, originForecast, OriginForecast.mk.injEq]
  refine ⟨rfl, rfl, rfl, ?_, ?_, ?_⟩
  · rw [List.map_take, List.map_drop]
  · rw [List.map_map]
    apply List.map_congr_left
    intro step _
    exact (forecastAt_scale c named.baseline (series.take t) step).symm
  · rw [List.map_map]
    apply List.map_congr_left
    intro level _
    rw [Function.comp_apply, QuantilePath.scale, QuantilePath.mk.injEq, List.map_map]
    refine ⟨rfl, List.map_congr_left fun step _ => ?_⟩
    exact (quantile_scale pos ⟨named.baseline, series.take t, hEnough⟩ step (level : K)).symm

/-- The evaluation of a baseline on the scaled series. -/
def scaledEvaluation (sqrt : K → K) (config : WalkForwardConfig) (c : K) (evaluation : ModelEvaluation K) :
    ModelEvaluation K where
  candidateName := evaluation.candidateName
  modelVersion := evaluation.modelVersion
  origins := evaluation.origins.map (OriginForecast.scale c)
  byHorizon := (List.range config.horizon).map
    (stepMetrics sqrt config (evaluation.origins.map (OriginForecast.scale c)))
  aggregate := pooledSummary sqrt config (evaluation.origins.map (OriginForecast.scale c)) config.horizon

theorem evaluateWalkForward_scale (lawful : IsSquareRoot sqrt) (pos : 0 < c)
    (h : evaluateWalkForward sqrt series named.candidate config = .ok evaluation) :
    evaluateWalkForward sqrt (series.map (c * ·)) named.candidate config =
      .ok (scaledEvaluation sqrt config c evaluation) := by
  obtain ⟨hSome, hComplete⟩ := origins_complete h
  obtain ⟨hLength, hName, hEach, -, -⟩ := evaluateWalkForward_eq_ok.mp h
  rw [evaluateWalkForward_eq_ok, List.length_map]
  refine ⟨hLength, hName, ?_, ?_, ?_⟩
  · rw [scaledEvaluation, List.forall₂_map_right_iff]
    exact hEach.imp fun _ _ hOrigin => originAt_scale pos hOrigin
  · rw [scaledEvaluation]
    refine (scoreByHorizon_eq_ok lawful ?_ ?_).mpr ⟨fun offset hOffset =>
      uncrossed_scale pos ((aggregate_eq lawful h).1 offset hOffset), rfl⟩
    · exact fun hNil => hSome (List.map_eq_nil_iff.mp hNil)
    · intro o ho
      obtain ⟨o, hMem, rfl⟩ := List.mem_map.mp ho
      rw [OriginForecast.scale, List.length_map]
      exact hComplete o hMem
  · exact (macroSummary_eq config.positive.2.1).symm

omit [FloorSemiring K] in
/-- Scores in another unit compare as before. -/
theorem rankingKey_scale (lawful : IsSquareRoot sqrt) (pos : 0 < c) {a b : ModelEvaluation K}
    (summaryA : a.aggregate = pooledSummary sqrt config a.origins config.horizon)
    (summaryB : b.aggregate = pooledSummary sqrt config b.origins config.horizon) (h : rankingKey a < rankingKey b) :
    rankingKey (scaledEvaluation sqrt config c a) < rankingKey (scaledEvaluation sqrt config c b) := by
  obtain ⟨hMaeA, hRmseA, hLossA⟩ := pooledSummary_scale config lawful pos a.origins config.horizon
  obtain ⟨hMaeB, hRmseB, hLossB⟩ := pooledSummary_scale config lawful pos b.origins config.horizon
  have hLess : ∀ x y : K, c * x < c * y ↔ x < y := fun x y => mul_lt_mul_iff_right₀ pos
  have hSame : ∀ x y : K, c * x = c * y ↔ x = y := fun x y => mul_right_inj' pos.ne'
  simp only [rankingKey, Prod.Lex.toLex_lt_toLex, summaryA, summaryB] at h
  simp only [rankingKey, Prod.Lex.toLex_lt_toLex, scaledEvaluation, hMaeA, hRmseA, hLossA, hMaeB, hRmseB, hLossB, hLess,
    hSame]
  exact h

/-- Rank, name and version of the entries. -/
def BaselineLeaderboard.ranking (board : BaselineLeaderboard K) : List (Nat × String × String) :=
  board.entries.map fun entry => (entry.rank, entry.evaluation.candidateName, entry.evaluation.modelVersion)

theorem leaderboard_scale (lawful : IsSquareRoot sqrt) (pos : 0 < c) {baselines : List NamedBaseline}
    {board : BaselineLeaderboard K}
    (h : buildBaselineLeaderboard sqrt series (baselines.map NamedBaseline.candidate) config = .ok board) :
    ∃ board', buildBaselineLeaderboard sqrt (series.map (c * ·)) (baselines.map NamedBaseline.candidate) config =
      .ok board' ∧ board'.ranking = board.ranking := by
  obtain ⟨hSome, hNames, evaluations, hEvaluations, hVersions, rfl⟩ := buildBaselineLeaderboard_eq_ok.mp h
  have hEach := List.forall₂_map_left_iff.mp (forall₂_of_mapM hEvaluations)
  have hScaled : (baselines.map NamedBaseline.candidate).mapM
      (fun candidate => evaluateWalkForward sqrt (series.map (c * ·)) candidate config) =
      .ok (evaluations.map (scaledEvaluation sqrt config c)) := by
    apply mapM_of_forall₂
    rw [List.forall₂_map_left_iff, List.forall₂_map_right_iff]
    exact hEach.imp fun _ _ hEvaluation => evaluateWalkForward_scale lawful pos hEvaluation
  have hSummary : ∀ e ∈ evaluations, e.aggregate = pooledSummary sqrt config e.origins config.horizon := by
    intro e he
    obtain ⟨named, -, hEvaluation⟩ := exists_left_of_forall₂ hEach he
    exact (aggregate_eq lawful hEvaluation).2
  have hDistinct : (evaluations.map rankingKey).Nodup := by
    apply rankingKey_nodup
    rwa [names_of_evaluations hEvaluations]
  have hSort : sortOn rankingKey (evaluations.map (scaledEvaluation sqrt config c)) =
      (sortOn rankingKey evaluations).map (scaledEvaluation sqrt config c) := by
    apply sortOn_eq_of_perm ((sortOn_perm evaluations).symm.map _)
    rw [List.pairwise_map]
    refine (sortOn_pairwise hDistinct).imp_of_mem fun {a b} ha hb hLess => ?_
    have hA := hSummary a ((sortOn_perm evaluations).mem_iff.mp ha)
    have hB := hSummary b ((sortOn_perm evaluations).mem_iff.mp hb)
    exact rankingKey_scale lawful pos hA hB hLess
  refine ⟨_, buildBaselineLeaderboard_eq_ok.mpr ⟨hSome, hNames, _, hScaled, ?_, rfl⟩, ?_⟩
  · rw [List.map_map]
    exact hVersions
  · rw [BaselineLeaderboard.ranking, leaderboardOf, hSort, List.zipIdx_map, List.map_map, List.map_map,
      BaselineLeaderboard.ranking, leaderboardOf, List.map_map]
    rfl

end Ranking

end Baselines

/-! ## Walk-forward evaluation -/

theorem isSquareRoot_sqrt : IsSquareRoot Real.sqrt := fun x hx => ⟨Real.sqrt_nonneg x, Real.sq_sqrt hx⟩

/-- Origins see the values before them and form one grid, the leaderboard depends on the set of candidates,
the summary averages over all cells, and the ranking of baselines does not depend on the unit. -/
theorem walk_forward_evaluation (config : WalkForwardConfig) :
    (∀ (candidate : BaselineCandidate ℝ) (series other : List ℝ) (t : Nat) (e e' : ModelEvaluation ℝ),
      series.take t = other.take t → evaluateWalkForward Real.sqrt series candidate config = .ok e →
      evaluateWalkForward Real.sqrt other candidate config = .ok e' →
      ∀ o ∈ e.origins, ∀ o' ∈ e'.origins, o.trainEndExclusive = o'.trainEndExclusive → o.trainEndExclusive ≤ t →
        o.point = o'.point ∧ o.quantiles = o'.quantiles) ∧
    (∀ (candidate : BaselineCandidate ℝ) (series : List ℝ) (e : ModelEvaluation ℝ),
      evaluateWalkForward Real.sqrt series candidate config = .ok e →
      (∀ i o, e.origins[i]? = some o → o.trainEndExclusive = config.initialTrainSize + config.stride * i ∧
        o.actual = (series.drop o.trainEndExclusive).take config.horizon ∧ o.actual.length = config.horizon) ∧
      (∀ i, i < e.origins.length ↔
        config.initialTrainSize + config.stride * i + config.horizon ≤ series.length) ∧
      ∀ (later : List ℝ) (extended : ModelEvaluation ℝ),
        evaluateWalkForward Real.sqrt (series ++ later) candidate config = .ok extended →
        e.origins <+: extended.origins) ∧
    (∀ (values : List ℝ) (candidates others : List (BaselineCandidate ℝ)) (board : BaselineLeaderboard ℝ),
      buildBaselineLeaderboard Real.sqrt values candidates config = .ok board →
      (candidates.Perm others → buildBaselineLeaderboard Real.sqrt values others config = .ok board) ∧
      ∀ (new : BaselineCandidate ℝ) (e : ModelEvaluation ℝ), others.Perm (new :: candidates) →
        evaluateWalkForward Real.sqrt values new config = .ok e →
        new.name ∉ candidates.map BaselineCandidate.name →
        e.modelVersion ∉ board.ranked.map ModelEvaluation.modelVersion →
        ∃ board', buildBaselineLeaderboard Real.sqrt values others config = .ok board' ∧
          board'.ranked.Perm (e :: board.ranked) ∧
          board'.ranked.filter (fun other => other.candidateName ≠ new.name) = board.ranked) ∧
    (∀ (candidate : BaselineCandidate ℝ) (series : List ℝ) (e : ModelEvaluation ℝ),
      evaluateWalkForward Real.sqrt series candidate config = .ok e →
      e.aggregate.mae = pooled e.origins config.horizon absoluteError ∧
      e.aggregate.byQuantile = config.quantileLevels.map (fun level =>
        ⟨level, pooled e.origins config.horizon (quantileError level)⟩) ∧
      e.aggregate.meanPinballLoss = mean (config.quantileLevels.map fun level =>
        pooled e.origins config.horizon (quantileError level)) ∧
      e.aggregate.byCoverage = config.intervalCoverages.map (fun coverage =>
        ⟨coverage, pooled e.origins config.horizon (covered coverage)⟩) ∧
      e.aggregate.rmse ≤ √(pooled e.origins config.horizon squaredError)) ∧
    ∀ (baselines : List NamedBaseline) (values : List ℝ) (c : ℝ), 0 < c →
      (buildBaselineLeaderboard Real.sqrt (values.map (c * ·)) (baselines.map NamedBaseline.candidate)
        config).toOption.map BaselineLeaderboard.ranking =
      (buildBaselineLeaderboard Real.sqrt values (baselines.map NamedBaseline.candidate)
        config).toOption.map BaselineLeaderboard.ranking := by
  refine ⟨?_, ?_, ?_, ?_, ?_⟩
  · intro candidate series other t e e' hAgree h h' o ho o' ho' hSame hInside
    exact forecasts_causal hAgree h h' ho ho' hSame hInside
  · intro candidate series e h
    obtain ⟨hEntries, hCount⟩ := trainEnds_grid h
    exact ⟨hEntries, hCount, fun later extended h' => origins_prefix h h'⟩
  · intro values candidates others board h
    refine ⟨fun hPerm => leaderboard_perm hPerm h, ?_⟩
    intro new e hPerm hEvaluated hName hVersion
    exact leaderboard_insert hPerm h hEvaluated hName hVersion
  · intro candidate series e h
    rw [(aggregate_eq isSquareRoot_sqrt h).2]
    exact ⟨rfl, rfl, rfl, rfl, mean_root_le isSquareRoot_sqrt e.origins config.horizon⟩
  · intro baselines values c pos
    have hForward : ∀ (series : List ℝ) (d : ℝ), 0 < d → ∀ board,
        buildBaselineLeaderboard Real.sqrt series (baselines.map NamedBaseline.candidate) config = .ok board →
        (buildBaselineLeaderboard Real.sqrt (series.map (d * ·)) (baselines.map NamedBaseline.candidate)
          config).toOption.map BaselineLeaderboard.ranking = some board.ranking := by
      intro series d hd board h
      obtain ⟨board', hBoard, hRanking⟩ := leaderboard_scale isSquareRoot_sqrt hd h
      rw [hBoard]
      exact congrArg some hRanking
    have hBack : (values.map (c * ·)).map (c⁻¹ * ·) = values := by
      rw [List.map_map]
      refine (List.map_congr_left fun v _ => ?_).trans (List.map_id values)
      exact inv_mul_cancel_left₀ pos.ne' v
    cases h : buildBaselineLeaderboard Real.sqrt values (baselines.map NamedBaseline.candidate) config with
    | ok board => exact hForward values c pos board h
    | error e =>
      cases h' : buildBaselineLeaderboard Real.sqrt (values.map (c * ·)) (baselines.map NamedBaseline.candidate)
          config with
      | error e' => rfl
      | ok board' =>
        have hScaled := hForward _ c⁻¹ (inv_pos.mpr pos) board' h'
        rw [hBack, h] at hScaled
        cases hScaled

end StockApi.Evaluation

import StockApi.Evaluation.Origins

/-!
# Averages over the steps are averages over the cells

Every step has the same number of origins, so that the average over the steps of the averages over the
origins is the average over all cells of an origin and a step.
-/

namespace StockApi.Evaluation

open Checked Averages
open Baselines (IsCoverage coverageLevels coverageLevels_eq onGrid_levels levels_ascending mem_levels_iff)

section Cells

variable {K : Type} [Field K] [LinearOrder K]

/-! ## What is scored in a cell -/

def absoluteError (o : OriginForecast K) (offset : Nat) : K := |o.actual.getD offset 0 - o.point.getD offset 0|

def squaredError (o : OriginForecast K) (offset : Nat) : K := (o.actual.getD offset 0 - o.point.getD offset 0) ^ 2

def quantileError (level : ℚ) (o : OriginForecast K) (offset : Nat) : K :=
  max ((level : K) * (o.actual.getD offset 0 - o.quantile level offset))
    (((level : K) - 1) * (o.actual.getD offset 0 - o.quantile level offset))

def covered (coverage : ℚ) (o : OriginForecast K) (offset : Nat) : K :=
  if o.quantile ((1 - coverage) / 2) offset ≤ o.actual.getD offset 0 ∧
    o.actual.getD offset 0 ≤ o.quantile ((1 + coverage) / 2) offset then 1 else 0

/-- The average over all cells of an origin and a step. -/
def pooled (origins : List (OriginForecast K)) (horizon : Nat) (score : OriginForecast K → Nat → K) : K :=
  mean ((origins ×ˢ List.range horizon).map fun cell => score cell.1 cell.2)

/-- The average over the origins at a step. -/
def atStep (origins : List (OriginForecast K)) (offset : Nat) (score : OriginForecast K → Nat → K) : K :=
  mean (origins.map fun o => score o offset)

omit [LinearOrder K] in
theorem mean_atStep (origins : List (OriginForecast K)) (horizon : Nat) (score : OriginForecast K → Nat → K) :
    mean ((List.range horizon).map fun offset => atStep origins offset score) = pooled origins horizon score := by
  rw [pooled, mean_product origins (List.range horizon) score, mean_swap]
  rfl

/-! ## Scores of a step -/

variable [IsStrictOrderedRing K] {sqrt : K → K} {config : WalkForwardConfig} {origins : List (OriginForecast K)}
  {offset : Nat}

/-- The scores of a step as averages over the origins. -/
def stepMetrics (sqrt : K → K) (config : WalkForwardConfig) (origins : List (OriginForecast K)) (offset : Nat) :
    HorizonMetrics K where
  horizonStep := offset + 1
  metrics := {
    sampleCount := origins.length
    mae := atStep origins offset absoluteError
    rmse := sqrt (atStep origins offset squaredError)
    meanPinballLoss := mean (config.quantileLevels.map fun level => atStep origins offset (quantileError level))
    byQuantile := config.quantileLevels.map fun level => ⟨level, atStep origins offset (quantileError level)⟩
    byCoverage := config.intervalCoverages.map fun coverage => ⟨coverage, atStep origins offset (covered coverage)⟩
    aggregation := .withinHorizon }

/-- No interval of a step is upside down. -/
def Uncrossed (config : WalkForwardConfig) (origins : List (OriginForecast K)) (offset : Nat) : Prop :=
  ∀ coverage ∈ config.intervalCoverages, ∀ o ∈ origins,
    o.quantile ((1 - coverage) / 2) offset ≤ o.quantile ((1 + coverage) / 2) offset

theorem level_range (config : WalkForwardConfig) {level : ℚ} (h : level ∈ config.quantileLevels) :
    0 < (level : K) ∧ (level : K) < 1 := by
  obtain ⟨hLow, hHigh⟩ := (onGrid_levels config.canonical level h).range
  constructor
  · exact_mod_cast hLow
  · exact_mod_cast hHigh

theorem quantileScores_eq (nonempty : origins ≠ []) : config.quantileLevels.mapM (quantileScore origins offset) =
    .ok (config.quantileLevels.map fun level => ⟨level, atStep origins offset (quantileError level)⟩) := by
  apply mapM_of_forall₂
  rw [List.forall₂_map_right_iff, List.forall₂_same]
  intro level hLevel
  rw [quantileScore, pinballLoss_columns nonempty _ _ (level_range config hLevel)]
  rfl

omit [IsStrictOrderedRing K] in
theorem coverageScore_eq_ok (nonempty : origins ≠ []) {coverage : ℚ} (h : IsCoverage coverage)
    {score : CoverageScore K} : coverageScore origins offset coverage = .ok score ↔
      (∀ o ∈ origins, o.quantile ((1 - coverage) / 2) offset ≤ o.quantile ((1 + coverage) / 2) offset) ∧
        score = ⟨coverage, atStep origins offset (covered coverage)⟩ := by
  rw [coverageScore, coverageLevels_eq h, bind_eq_ok_iff]
  simp only [empiricalIntervalCoverage_columns nonempty, pure_eq_ok, Except.ok.injEq]
  constructor
  · rintro ⟨_, ⟨hOrder, rfl⟩, rfl⟩
    exact ⟨hOrder, rfl⟩
  · rintro ⟨hOrder, rfl⟩
    exact ⟨_, ⟨hOrder, rfl⟩, rfl⟩

omit [IsStrictOrderedRing K] in
theorem coverageScores_eq_ok (nonempty : origins ≠ []) {scores : List (CoverageScore K)} :
    config.intervalCoverages.mapM (coverageScore origins offset) = .ok scores ↔ Uncrossed config origins offset ∧
      scores = config.intervalCoverages.map fun coverage => ⟨coverage, atStep origins offset (covered coverage)⟩ := by
  constructor
  · intro h
    have hEach := forall₂_of_mapM h
    constructor
    · intro coverage hCoverage
      obtain ⟨score, -, hScore⟩ := exists_right_of_forall₂ hEach hCoverage
      exact ((coverageScore_eq_ok nonempty (config.canonical coverage hCoverage)).mp hScore).1
    · rw [← List.forall₂_eq_eq_eq, List.forall₂_map_right_iff]
      apply List.Forall₂.flip
      rw [List.forall₂_iff_zip] at hEach ⊢
      refine ⟨hEach.1, fun {coverage score} hPair => ?_⟩
      have hCoverage := (List.of_mem_zip hPair).1
      exact ((coverageScore_eq_ok nonempty (config.canonical coverage hCoverage)).mp (hEach.2 hPair)).2
  · rintro ⟨hOrder, rfl⟩
    apply mapM_of_forall₂
    rw [List.forall₂_map_right_iff, List.forall₂_same]
    intro coverage hCoverage
    exact (coverageScore_eq_ok nonempty (config.canonical coverage hCoverage)).mpr ⟨hOrder coverage hCoverage, rfl⟩

theorem horizonMetrics_eq_ok (lawful : IsSquareRoot sqrt) (nonempty : origins ≠ []) {metrics : HorizonMetrics K} :
    horizonMetrics sqrt origins config.quantileLevels config.intervalCoverages offset = .ok metrics ↔
      Uncrossed config origins offset ∧ metrics = stepMetrics sqrt config origins offset := by
  rw [horizonMetrics, quantileScores_eq nonempty, ok_bind, meanAbsoluteError_columns nonempty,
    rootMeanSquaredError_columns lawful nonempty]
  simp only [bind_eq_ok_iff, coverageScores_eq_ok nonempty, ok_bind, pure_eq_ok, Except.ok.injEq, safeMean_eq,
    List.map_map]
  constructor
  · rintro ⟨_, ⟨hOrder, rfl⟩, rfl⟩
    exact ⟨hOrder, rfl⟩
  · rintro ⟨hOrder, rfl⟩
    exact ⟨_, ⟨hOrder, rfl⟩, rfl⟩

theorem scoreByHorizon_eq_ok (lawful : IsSquareRoot sqrt) {horizon : Nat} (nonempty : origins ≠ [])
    (complete : ∀ o ∈ origins, o.actual.length = horizon) {rows : List (HorizonMetrics K)} :
    scoreByHorizon sqrt origins config.quantileLevels config.intervalCoverages = .ok rows ↔
      (∀ offset < horizon, Uncrossed config origins offset) ∧
        rows = (List.range horizon).map (stepMetrics sqrt config origins) := by
  have hHorizon : (origins.head?.map fun o => o.actual.length).getD 0 = horizon := by
    obtain ⟨first, rest, rfl⟩ := List.exists_cons_of_ne_nil nonempty
    exact complete first List.mem_cons_self
  rw [scoreByHorizon, hHorizon]
  constructor
  · intro h
    have hEach := (forall₂_of_mapM h).imp fun offset row => (horizonMetrics_eq_ok lawful nonempty).mp
    constructor
    · intro offset hOffset
      obtain ⟨row, -, hRow⟩ := exists_right_of_forall₂ hEach (List.mem_range.mpr hOffset)
      exact hRow.1
    · rw [← List.forall₂_eq_eq_eq, List.forall₂_map_right_iff]
      exact (hEach.imp fun _ _ hRow => hRow.2).flip
  · rintro ⟨hOrder, rfl⟩
    apply mapM_of_forall₂
    rw [List.forall₂_map_right_iff, List.forall₂_same]
    exact fun offset hOffset => (horizonMetrics_eq_ok lawful nonempty).mpr
      ⟨hOrder offset (List.mem_range.mp hOffset), rfl⟩

/-! ## The macro summary -/

omit [LinearOrder K] [IsStrictOrderedRing K] in
theorem find?_keyed {α : Type} {keys : List ℚ} (entry : ℚ → α) (key : α → ℚ) (keyed : ∀ k, key (entry k) = k) {k : ℚ}
    (h : k ∈ keys) : (keys.map entry).find? (fun a => key a = k) = some (entry k) := by
  induction keys with
  | nil => cases h
  | cons first rest ih =>
    rw [List.map_cons, List.find?_cons, keyed]
    by_cases hSame : first = k
    · rw [decide_eq_true hSame, hSame]
    · rw [decide_eq_false hSame]
      exact ih ((List.mem_cons.mp h).resolve_left fun hFirst => hSame hFirst.symm)

omit [IsStrictOrderedRing K] in
theorem lossAt_stepMetrics {level : ℚ} (h : level ∈ config.quantileLevels) :
    lossAt level (stepMetrics sqrt config origins offset).metrics = atStep origins offset (quantileError level) := by
  rw [lossAt, stepMetrics]
  dsimp only
  rw [find?_keyed _ QuantileScore.level (fun _ => rfl) h]
  rfl

omit [IsStrictOrderedRing K] in
theorem coverageAt_stepMetrics {coverage : ℚ} (h : coverage ∈ config.intervalCoverages) :
    coverageAt coverage (stepMetrics sqrt config origins offset).metrics =
      atStep origins offset (covered coverage) := by
  rw [coverageAt, stepMetrics]
  dsimp only
  rw [find?_keyed _ CoverageScore.nominalCoverage (fun _ => rfl) h]
  rfl

/-- The summary of the steps as averages over the cells. -/
def pooledSummary (sqrt : K → K) (config : WalkForwardConfig) (origins : List (OriginForecast K)) (horizon : Nat) :
    MetricSummary K where
  sampleCount := horizon * origins.length
  mae := pooled origins horizon absoluteError
  rmse := mean ((List.range horizon).map fun offset => sqrt (atStep origins offset squaredError))
  meanPinballLoss := mean (config.quantileLevels.map fun level => pooled origins horizon (quantileError level))
  byQuantile := config.quantileLevels.map fun level => ⟨level, pooled origins horizon (quantileError level)⟩
  byCoverage := config.intervalCoverages.map fun coverage => ⟨coverage, pooled origins horizon (covered coverage)⟩
  aggregation := .equalHorizonMacro

theorem macroSummary_eq {horizon : Nat} (positive : 0 < horizon) :
    macroSummary ((List.range horizon).map (stepMetrics sqrt config origins)) =
      pooledSummary sqrt config origins horizon := by
  have hHead : (((List.range horizon).map (stepMetrics sqrt config origins)).map HorizonMetrics.metrics).head? =
      some (stepMetrics sqrt config origins 0).metrics := by
    obtain ⟨n, rfl⟩ := Nat.exists_eq_succ_of_ne_zero positive.ne'
    rw [List.range_succ_eq_map]
    rfl
  have hLevels : (stepMetrics sqrt config origins 0).metrics.byQuantile.map QuantileScore.level =
      config.quantileLevels := by
    rw [stepMetrics, List.map_map]
    exact List.map_id' _
  have hCoverages : (stepMetrics sqrt config origins 0).metrics.byCoverage.map CoverageScore.nominalCoverage =
      config.intervalCoverages := by
    rw [stepMetrics, List.map_map]
    exact List.map_id' _
  have hCount : (((List.range horizon).map (stepMetrics sqrt config origins)).map HorizonMetrics.metrics).map
      MetricSummary.sampleCount = List.replicate horizon origins.length := by
    rw [List.map_map, List.map_map]
    exact (List.map_const' ..).trans (by rw [List.length_range])
  have hLoss : ∀ level ∈ config.quantileLevels,
      safeMean ((((List.range horizon).map (stepMetrics sqrt config origins)).map HorizonMetrics.metrics).map
        (lossAt level)) = pooled origins horizon (quantileError level) := by
    intro level hLevel
    rw [safeMean_eq, ← mean_atStep, List.map_map, List.map_map]
    congr 1
    exact List.map_congr_left fun offset _ => lossAt_stepMetrics hLevel
  have hCovered : ∀ coverage ∈ config.intervalCoverages,
      safeMean ((((List.range horizon).map (stepMetrics sqrt config origins)).map HorizonMetrics.metrics).map
        (coverageAt coverage)) = pooled origins horizon (covered coverage) := by
    intro coverage hCoverage
    rw [safeMean_eq, ← mean_atStep, List.map_map, List.map_map]
    congr 1
    exact List.map_congr_left fun offset _ => coverageAt_stepMetrics hCoverage
  rw [macroSummary, hHead, Option.map_some, Option.getD_some, hLevels, Option.map_some, Option.getD_some,
    hCoverages, hCount,
    List.sum_replicate_nat, List.map_congr_left fun level hLevel => congrArg (QuantileScore.mk level)
      (hLoss level hLevel),
    List.map_congr_left fun coverage hCoverage => congrArg (CoverageScore.mk coverage) (hCovered coverage hCoverage)]
  rw [pooledSummary, MetricSummary.mk.injEq]
  refine ⟨rfl, ?_, ?_, ?_, rfl, rfl, rfl⟩
  · rw [safeMean_eq, ← mean_atStep, List.map_map, List.map_map]
    rfl
  · rw [safeMean_eq, List.map_map, List.map_map]
    rfl
  · rw [safeMean_eq, List.map_map, List.map_map]
    simp only [← mean_atStep]
    rw [mean_swap config.quantileLevels (List.range horizon)]
    rfl

/-- The average of the roots of the averages. -/
theorem mean_root_le (lawful : IsSquareRoot sqrt) (origins : List (OriginForecast K)) (horizon : Nat) :
    (pooledSummary sqrt config origins horizon).rmse ≤ sqrt (pooled origins horizon squaredError) := by
  have hNonneg : ∀ offset, 0 ≤ atStep origins offset squaredError := by
    intro offset
    apply mean_nonneg
    intro x hx
    obtain ⟨o, -, rfl⟩ := List.mem_map.mp hx
    exact sq_nonneg _
  have hSquares : mean (((List.range horizon).map fun offset => sqrt (atStep origins offset squaredError)).map
    (· ^ 2)) =
      pooled origins horizon squaredError := by
    rw [← mean_atStep, List.map_map]
    congr 1
    apply List.map_congr_left
    intro offset _
    exact (lawful _ (hNonneg offset)).2
  have hPooled : 0 ≤ pooled origins horizon squaredError := by
    apply mean_nonneg
    intro x hx
    obtain ⟨cell, -, rfl⟩ := List.mem_map.mp hx
    exact sq_nonneg _
  apply lawful.le_sqrt hPooled
  rw [← hSquares]
  exact sq_mean_le _

/-! ## Evaluations -/

section Evaluation

variable {series : List K} {candidate : BaselineCandidate K} {evaluation : ModelEvaluation K}

omit [IsStrictOrderedRing K] in
theorem origins_complete (h : evaluateWalkForward sqrt series candidate config = .ok evaluation) :
    evaluation.origins ≠ [] ∧ ∀ o ∈ evaluation.origins, o.actual.length = config.horizon := by
  obtain ⟨hEntries, hCount⟩ := trainEnds_grid h
  constructor
  · apply List.ne_nil_of_length_pos
    rw [hCount]
    exact (evaluateWalkForward_eq_ok.mp h).1
  · intro o ho
    obtain ⟨i, hi⟩ := List.mem_iff_getElem?.mp ho
    exact (hEntries i o hi).2.2

/-- The summary of an evaluation, by its cells. -/
theorem aggregate_eq (lawful : IsSquareRoot sqrt)
    (h : evaluateWalkForward sqrt series candidate config = .ok evaluation) :
    (∀ offset < config.horizon, Uncrossed config evaluation.origins offset) ∧
      evaluation.aggregate = pooledSummary sqrt config evaluation.origins config.horizon := by
  obtain ⟨hSome, hComplete⟩ := origins_complete h
  obtain ⟨-, -, -, hScores, hAggregate⟩ := evaluateWalkForward_eq_ok.mp h
  obtain ⟨hUncrossed, hRows⟩ := (scoreByHorizon_eq_ok lawful hSome hComplete).mp hScores
  refine ⟨hUncrossed, ?_⟩
  rw [hAggregate, hRows, macroSummary_eq config.positive.2.1]

end Evaluation

end Cells

end StockApi.Evaluation

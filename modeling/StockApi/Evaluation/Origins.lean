import StockApi.Evaluation.WalkForward

/-!
# Origins see the values before them

An evaluation is one forecast for each training size of the grid. A forecast reads the values before its
origin, and the grid of an extended series begins with the grid of the series.
-/

namespace StockApi.Evaluation

open Checked

/-! ## The grid -/

section Grid

variable {config : WalkForwardConfig} {length : Nat}

theorem lt_rounds_iff {stride span i : Nat} (positive : 0 < stride) :
    i < (span + stride - 1) / stride ↔ stride * i < span := by
  rw [Nat.lt_iff_add_one_le, Nat.le_div_iff_mul_le positive, Nat.add_mul, Nat.one_mul, Nat.mul_comm]
  omega

theorem mem_trainSizes {t : Nat} : t ∈ trainSizes config length ↔
    (∃ i, t = config.initialTrainSize + config.stride * i) ∧ t + config.horizon ≤ length := by
  have hPositive := config.positive
  rw [trainSizes, List.mem_range']
  constructor
  · rintro ⟨i, hi, rfl⟩
    rw [lt_rounds_iff hPositive.2.2] at hi
    exact ⟨⟨i, rfl⟩, by omega⟩
  · rintro ⟨⟨i, rfl⟩, hLength⟩
    refine ⟨i, ?_, rfl⟩
    rw [lt_rounds_iff hPositive.2.2]
    omega

theorem getElem?_trainSizes {i t : Nat} (h : (trainSizes config length)[i]? = some t) :
    t = config.initialTrainSize + config.stride * i := by
  obtain ⟨hi, hValue⟩ := List.getElem?_eq_some_iff.mp h
  rw [← hValue]
  exact List.getElem_range' hi

theorem trainSizes_prefix {longer : Nat} (h : length ≤ longer) :
    trainSizes config length <+: trainSizes config longer := by
  have hCount : (length - config.horizon + 1 - config.initialTrainSize + config.stride - 1) / config.stride ≤
      (longer - config.horizon + 1 - config.initialTrainSize + config.stride - 1) / config.stride := by
    apply Nat.div_le_div_right
    omega
  rw [List.prefix_iff_eq_take, trainSizes, trainSizes, List.length_range', List.take_range'_of_length_ge hCount]

theorem trainSizes_ne_nil (h : config.initialTrainSize + config.horizon ≤ length) :
    trainSizes config length ≠ [] := by
  apply List.ne_nil_of_mem (a := config.initialTrainSize)
  rw [mem_trainSizes]
  exact ⟨⟨0, rfl⟩, h⟩

end Grid

/-! ## The loop -/

section Loop

variable {K : Type} [Field K] [LinearOrder K] {candidate : BaselineCandidate K} {config : WalkForwardConfig}
  {series : List K}

/-- A known version is the one of the forecast. -/
theorem forecastOrigin_known {known : Option String} {training : List K} {v : String} {point : List K}
    {quantiles : List (QuantilePath K)} :
    forecastOrigin candidate config known training = .ok (v, point, quantiles) ↔
      (∀ w ∈ known, v = w) ∧ forecastOrigin candidate config none training = .ok (v, point, quantiles) := by
  have hNone : ∀ current : String, ¬ ∃ w ∈ (none : Option String), current ≠ w := by
    rintro current ⟨w, hw, -⟩
    cases hw
  simp only [forecastOrigin, bind_eq_ok_iff, refuseIf_eq_ok_iff, pure_eq_ok, Except.ok.injEq, Prod.mk.injEq]
  constructor
  · rintro ⟨fitted, hFit, current, hCurrent, u, hStable, rest, hRest, path, hPath, raw, hRaw, paths, hPaths, u', hValid,
      rfl, hOut⟩
    refine ⟨fun w hw => ?_, fitted, hFit, _, hCurrent, u, hNone _, rest, hRest, path, hPath, raw, hRaw, paths, hPaths,
      u', hValid, rfl, hOut⟩
    by_contra hOther
    exact hStable ⟨w, hw, hOther⟩
  · rintro ⟨hKnown, fitted, hFit, current, hCurrent, u, -, rest, hRest, path, hPath, raw, hRaw, paths, hPaths, u',
      hValid,
      rfl, hOut⟩
    refine ⟨fitted, hFit, _, hCurrent, u, ?_, rest, hRest, path, hPath, raw, hRaw, paths, hPaths, u', hValid, rfl, hOut⟩
    rintro ⟨w, hw, hOther⟩
    exact hOther (hKnown w hw)

/-- The forecast of a training size. -/
def OriginAt (candidate : BaselineCandidate K) (config : WalkForwardConfig) (series : List K) (version : String)
    (trainSize : Nat) (origin : OriginForecast K) : Prop :=
  ∃ point quantiles, forecastOrigin candidate config none (series.take trainSize) = .ok (version, point, quantiles) ∧
    origin = originForecast config series trainSize point quantiles

theorem addOrigin_eq_ok {known : Option String} {done : List (OriginForecast K)} {trainSize : Nat}
    {out : Option String × List (OriginForecast K)} :
    addOrigin candidate config series (known, done) trainSize = .ok out ↔
      ∃ version origin, OriginAt candidate config series version trainSize origin ∧ (∀ w ∈ known, version = w) ∧
        out = (some version, done ++ [origin]) := by
  simp only [addOrigin, bind_eq_ok_iff, mapError_eq_ok_iff, pure_eq_ok, Except.ok.injEq]
  constructor
  · rintro ⟨⟨version, point, quantiles⟩, hForecast, rfl⟩
    obtain ⟨hKnown, hForecast⟩ := forecastOrigin_known.mp hForecast
    exact ⟨version, _, ⟨point, quantiles, hForecast, rfl⟩, hKnown, rfl⟩
  · rintro ⟨version, _, ⟨point, quantiles, hForecast, rfl⟩, hKnown, rfl⟩
    exact ⟨(version, point, quantiles), forecastOrigin_known.mpr ⟨hKnown, hForecast⟩, rfl⟩

theorem foldlM_addOrigin {version : String} {sizes : List Nat} {done : List (OriginForecast K)}
    {out : Option String × List (OriginForecast K)} :
    sizes.foldlM (addOrigin candidate config series) (some version, done) = .ok out ↔
      ∃ origins, List.Forall₂ (OriginAt candidate config series version) sizes origins ∧
        out = (some version, done ++ origins) := by
  induction sizes generalizing done with
  | nil =>
    constructor
    · intro h
      cases h
      exact ⟨[], .nil, by rw [List.append_nil]⟩
    · rintro ⟨origins, hEach, rfl⟩
      cases hEach
      rw [List.append_nil]
      rfl
  | cons trainSize rest ih =>
    simp only [List.foldlM_cons, bind_eq_ok_iff, addOrigin_eq_ok]
    constructor
    · rintro ⟨_, ⟨other, origin, hOrigin, hKnown, rfl⟩, h⟩
      obtain rfl := hKnown version rfl
      obtain ⟨origins, hEach, rfl⟩ := ih.mp h
      exact ⟨origin :: origins, .cons hOrigin hEach, by rw [List.append_assoc, List.singleton_append]⟩
    · rintro ⟨origins, hEach, rfl⟩
      obtain ⟨origin, origins, hOrigin, hRest, rfl⟩ := List.forall₂_cons_left_iff.mp hEach
      refine ⟨_, ⟨version, origin, hOrigin, fun w hw => (Option.mem_some_iff.mp hw), rfl⟩, ih.mpr ⟨origins, hRest, ?_⟩⟩
      rw [List.append_assoc, List.singleton_append]

theorem foldlM_addOrigin_none {sizes : List Nat} (nonempty : sizes ≠ []) {version : String}
    {origins : List (OriginForecast K)} :
    sizes.foldlM (addOrigin candidate config series) (none, []) = .ok (some version, origins) ↔
      List.Forall₂ (OriginAt candidate config series version) sizes origins := by
  obtain ⟨trainSize, rest, rfl⟩ := List.exists_cons_of_ne_nil nonempty
  simp only [List.foldlM_cons, bind_eq_ok_iff, addOrigin_eq_ok]
  constructor
  · rintro ⟨_, ⟨other, origin, hOrigin, -, rfl⟩, h⟩
    obtain ⟨later, hEach, hOut⟩ := foldlM_addOrigin.mp h
    obtain ⟨rfl, rfl⟩ : version = other ∧ origins = origin :: later := by simpa using hOut
    exact .cons hOrigin hEach
  · intro hEach
    obtain ⟨origin, later, hOrigin, hRest, rfl⟩ := List.forall₂_cons_left_iff.mp hEach
    refine ⟨_, ⟨version, origin, hOrigin, fun w hw => (nomatch hw), rfl⟩, foldlM_addOrigin.mpr ⟨later, hRest, ?_⟩⟩
    rfl

variable {sqrt : K → K} {evaluation : ModelEvaluation K}

theorem evaluateWalkForward_eq_ok : evaluateWalkForward sqrt series candidate config = .ok evaluation ↔
    config.initialTrainSize + config.horizon ≤ series.length ∧ evaluation.candidateName = candidate.name ∧
      List.Forall₂ (OriginAt candidate config series evaluation.modelVersion) (trainSizes config series.length)
        evaluation.origins ∧
      scoreByHorizon sqrt evaluation.origins config.quantileLevels config.intervalCoverages = .ok evaluation.byHorizon ∧
      evaluation.aggregate = macroSummary evaluation.byHorizon := by
  rw [evaluateWalkForward, refuseIf_bind_eq_ok_iff, not_lt]
  refine and_congr_right fun hLength => ?_
  have hGrid := trainSizes_ne_nil hLength
  simp only [bind_eq_ok_iff, mapError_eq_ok_iff, orRefuse_eq_ok_iff, pure_eq_ok, Except.ok.injEq]
  constructor
  · rintro ⟨⟨_, origins⟩, hFold, version, rfl, byHorizon, hScores, rfl⟩
    exact ⟨rfl, (foldlM_addOrigin_none hGrid).mp hFold, hScores, rfl⟩
  · obtain ⟨name, version, origins, byHorizon, aggregate⟩ := evaluation
    rintro ⟨rfl, hEach, hScores, hAggregate⟩
    obtain rfl : aggregate = macroSummary byHorizon := hAggregate
    exact ⟨(some version, origins), (foldlM_addOrigin_none hGrid).mpr hEach, version, rfl, byHorizon, hScores, rfl⟩

/-! ## Pairs of runs -/

theorem OriginAt.trainEnd {version : String} {t : Nat} {o : OriginForecast K}
    (h : OriginAt candidate config series version t o) : o.trainEndExclusive = t := by
  obtain ⟨point, quantiles, -, rfl⟩ := h
  rfl

/-- Equal training values are forecast alike. -/
theorem OriginAt.congr {other : List K} {version version' : String} {t : Nat} {o o' : OriginForecast K}
    (same : series.take t = other.take t) (h : OriginAt candidate config series version t o)
    (h' : OriginAt candidate config other version' t o') :
    version = version' ∧ o.point = o'.point ∧ o.quantiles = o'.quantiles := by
  obtain ⟨point, quantiles, hForecast, rfl⟩ := h
  obtain ⟨point', quantiles', hForecast', rfl⟩ := h'
  rw [same, hForecast', Except.ok.injEq] at hForecast
  cases hForecast
  exact ⟨rfl, rfl, rfl⟩

/-- The origin at a position of the grid. -/
theorem originAt_of_mem {version : String} {sizes : List Nat} {origins : List (OriginForecast K)}
    (each : List.Forall₂ (OriginAt candidate config series version) sizes origins) {o : OriginForecast K}
    (h : o ∈ origins) : o.trainEndExclusive ∈ sizes ∧
      OriginAt candidate config series version o.trainEndExclusive o := by
  obtain ⟨t, hMem, hOrigin⟩ := exists_left_of_forall₂ each h
  rw [hOrigin.trainEnd]
  exact ⟨hMem, hOrigin⟩

theorem eq_of_forall₂ {α β : Type} {R S : α → β → Prop} {xs : List α} {ys zs : List β} (hR : List.Forall₂ R xs ys)
    (hS : List.Forall₂ S xs zs) (unique : ∀ x ∈ xs, ∀ y z, R x y → S x z → y = z) : ys = zs := by
  induction hR generalizing zs with
  | nil =>
    cases hS
    rfl
  | cons hFirst _ ih =>
    obtain ⟨z, rest, hSecond, hRest, rfl⟩ := List.forall₂_cons_left_iff.mp hS
    rw [unique _ List.mem_cons_self _ _ hFirst hSecond, ih hRest fun x hx => unique x (List.mem_cons_of_mem _ hx)]

theorem trainEnds_eq {version : String} {sizes : List Nat} {origins : List (OriginForecast K)}
    (each : List.Forall₂ (OriginAt candidate config series version) sizes origins) :
    origins.map OriginForecast.trainEndExclusive = sizes := by
  rw [← List.forall₂_eq_eq_eq, List.forall₂_map_left_iff]
  exact each.flip.imp fun _ _ h => OriginAt.trainEnd h

/-- Series with a common beginning are forecast alike at the origins inside it. -/
theorem forecasts_causal {other : List K} {evaluation' : ModelEvaluation K} {t : Nat}
    (agree : series.take t = other.take t) (h : evaluateWalkForward sqrt series candidate config = .ok evaluation)
    (h' : evaluateWalkForward sqrt other candidate config = .ok evaluation') {o o' : OriginForecast K}
    (mem : o ∈ evaluation.origins) (mem' : o' ∈ evaluation'.origins)
    (same : o.trainEndExclusive = o'.trainEndExclusive) (inside : o.trainEndExclusive ≤ t) :
    o.point = o'.point ∧ o.quantiles = o'.quantiles := by
  have hOrigin := (originAt_of_mem (evaluateWalkForward_eq_ok.mp h).2.2.1 mem).2
  have hOrigin' := (originAt_of_mem (evaluateWalkForward_eq_ok.mp h').2.2.1 mem').2
  rw [← same] at hOrigin'
  refine (hOrigin.congr ?_ hOrigin').2
  have hInside := congrArg (List.take o.trainEndExclusive) agree
  rwa [List.take_take, List.take_take, Nat.min_eq_left inside] at hInside

/-- Training ends at the initial size and every stride after it, as long as a complete horizon is left. -/
theorem trainEnds_grid (h : evaluateWalkForward sqrt series candidate config = .ok evaluation) :
    (∀ i o, evaluation.origins[i]? = some o →
      o.trainEndExclusive = config.initialTrainSize + config.stride * i ∧
        o.actual = (series.drop o.trainEndExclusive).take config.horizon ∧ o.actual.length = config.horizon) ∧
    ∀ i, i < evaluation.origins.length ↔
      config.initialTrainSize + config.stride * i + config.horizon ≤ series.length := by
  obtain ⟨-, -, hEach, -, -⟩ := evaluateWalkForward_eq_ok.mp h
  have hEnds := trainEnds_eq hEach
  constructor
  · intro i o hEntry
    obtain ⟨hMem, point, quantiles, -, hOrigin⟩ := originAt_of_mem hEach (List.mem_of_getElem? hEntry)
    have hSize : (trainSizes config series.length)[i]? = some o.trainEndExclusive := by
      rw [← hEnds, List.getElem?_map, hEntry]
      rfl
    have hActual : o.actual = (series.drop o.trainEndExclusive).take config.horizon :=
      congrArg OriginForecast.actual hOrigin
    refine ⟨getElem?_trainSizes hSize, hActual, ?_⟩
    have hInside := (mem_trainSizes.mp hMem).2
    rw [hActual, List.length_take, List.length_drop]
    omega
  · intro i
    have hPositive := config.positive
    rw [hEach.length_eq.symm, trainSizes, List.length_range', lt_rounds_iff hPositive.2.2]
    omega

/-- The origins of an extended series begin with those of the series. -/
theorem origins_prefix {later : List K} {extended : ModelEvaluation K}
    (h : evaluateWalkForward sqrt series candidate config = .ok evaluation)
    (h' : evaluateWalkForward sqrt (series ++ later) candidate config = .ok extended) :
    evaluation.origins <+: extended.origins := by
  obtain ⟨-, -, hEach, -, -⟩ := evaluateWalkForward_eq_ok.mp h
  obtain ⟨-, -, hEach', -, -⟩ := evaluateWalkForward_eq_ok.mp h'
  have hGrid : trainSizes config series.length <+: trainSizes config (series ++ later).length := by
    apply trainSizes_prefix
    rw [List.length_append]
    omega
  obtain ⟨rest, hRest⟩ := hGrid
  rw [← hRest] at hEach'
  have hFirst := (List.forall₂_take_append _ _ _ hEach'.flip).flip
  have hSame : evaluation.origins = extended.origins.take (trainSizes config series.length).length := by
    refine eq_of_forall₂ hEach hFirst fun t ht o o' hOrigin hOrigin' => ?_
    have hInside := (mem_trainSizes.mp ht).2
    have hTake : series.take t = (series ++ later).take t := by
      rw [List.take_append_of_le_length (by omega)]
    have hActual : (series.drop t).take config.horizon = ((series ++ later).drop t).take config.horizon := by
      rw [List.drop_append_of_le_length (by omega), List.take_append_of_le_length]
      rw [List.length_drop]
      omega
    obtain ⟨-, hPoint, hQuantiles⟩ := hOrigin.congr hTake hOrigin'
    obtain ⟨point, quantiles, -, rfl⟩ := hOrigin
    obtain ⟨point', quantiles', -, rfl⟩ := hOrigin'
    dsimp only [originForecast] at hPoint hQuantiles ⊢
    rw [hActual, hPoint, hQuantiles]
  rw [hSame]
  exact List.take_prefix _ _

end Loop

end StockApi.Evaluation

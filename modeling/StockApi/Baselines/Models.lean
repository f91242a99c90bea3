import StockApi.Library.Checked
import StockApi.Library.LinearQuantile

/-!
# Forecasting baselines

Three forecasters with quantiles from the errors that they would have made at earlier origins. Values
and arithmetic are exact, so that no result is non-finite.
-/

namespace StockApi.Baselines

open Checked OrderStatistics

inductive Baseline where
  | naive
  | drift
  | seasonalNaive (seasonLength : Nat) (positive : 0 < seasonLength)

namespace Baseline

def minimumHistory : Baseline → Nat
  | naive => 1
  | drift => 2
  | seasonalNaive seasonLength _ => seasonLength

def modelVersion : Baseline → String
  | naive => "baseline-naive@1"
  | drift => "baseline-drift@1"
  | seasonalNaive seasonLength _ => "baseline-seasonal-naive-s" ++ toString seasonLength ++ "@1"

theorem minimumHistory_pos (b : Baseline) : 0 < b.minimumHistory := by
  cases b with
  | naive => exact Nat.one_pos
  | drift => exact Nat.two_pos
  | seasonalNaive seasonLength positive => exact positive

end Baseline

def positiveInteger (value : Nat) (name : String) : Except String Nat := do
  refuseIf (value < 1) (name ++ " must be a positive integer")
  return value

section Models

variable {K : Type} [Field K] [LinearOrder K]

/-- The forecast for a step after a history that is long enough. -/
def Baseline.forecastAt (b : Baseline) (history : List K) (step : Nat) : K :=
  match b with
  | naive => history.getD (history.length - 1) 0
  | drift =>
    let last := history.getD (history.length - 1) 0
    let slope := (last - history.getD 0 0) / ((history.length - 1 : Nat) : K)
    last + slope * (step : K)
  | seasonalNaive seasonLength _ => history.getD (history.length - seasonLength + (step - 1) % seasonLength) 0

/-- The errors of the forecasts for a step from every earlier origin. -/
def Baseline.expandingOriginErrors (b : Baseline) (history : List K) (step : Nat) : List K :=
  (List.range' b.minimumHistory (history.length + 1 - step - b.minimumHistory)).map fun prefixSize =>
    history.getD (prefixSize + step - 1) 0 - b.forecastAt (history.take prefixSize) step

/-- A baseline with its history. -/
structure Fitted (K : Type) where
  baseline : Baseline
  history : List K
  enough : baseline.minimumHistory ≤ history.length

def Baseline.fit (b : Baseline) (values : List K) : Except String (Fitted K) :=
  if enough : b.minimumHistory ≤ values.length then .ok ⟨b, values, enough⟩
  else .error ("values must contain at least " ++ toString b.minimumHistory ++ " observation(s)")

def addLevel (levels : List K) (level : K) : Except String (List K) := do
  refuseIf (¬ (0 < level ∧ level < 1))
    "quantiles must contain only finite probabilities strictly between 0 and 1"
  refuseIf (level ∈ levels) "quantiles must not contain duplicates"
  return levels ++ [level]

def quantileLevels (quantiles : List K) : Except String (List K) := do
  refuseIf (quantiles = []) "quantiles must be a non-empty sequence"
  quantiles.foldlM addLevel []

namespace Fitted

variable (f : Fitted K)

def predict (horizon : Nat) : Except String (List K) := do
  let steps ← positiveInteger horizon "horizon"
  return (List.range' 1 steps).map (f.baseline.forecastAt f.history)

variable [FloorSemiring K]

/-- The round of the loop for a step: the forecast of each level. -/
def quantilesAt (step : Nat) : Except String (K → K) := do
  let errors := f.baseline.expandingOriginErrors f.history step
  refuseIf (errors.length < 2) ("horizon step " ++ toString step ++
    " requires at least 2 prefix-only historical errors; got " ++ toString errors.length)
  let orderedErrors := sorted errors
  refuseIf (orderedErrors.head? = orderedErrors.getLast?) ("horizon step " ++ toString step ++
    " historical errors have zero dispersion; cannot estimate a non-degenerate interval")
  let medianError := linearQuantile orderedErrors (1 / 2)
  return fun level => f.baseline.forecastAt f.history step + (linearQuantile orderedErrors level - medianError)

def predictQuantiles (horizon : Nat) (quantiles : List K) : Except String (List (K × List K)) := do
  let steps ← positiveInteger horizon "horizon"
  let levels ← quantileLevels quantiles
  let forecasts ← (List.range' 1 steps).mapM f.quantilesAt
  return levels.map fun level => (level, forecasts.map fun forecast => forecast level)

end Fitted

/-! ## What is accepted -/

/-- Distinct probabilities, at least one. -/
structure ValidLevels (levels : List K) : Prop where
  nonempty : levels ≠ []
  range : ∀ l ∈ levels, 0 < l ∧ l < 1
  distinct : levels.Nodup

theorem foldlM_addLevel {quantiles levels out : List K} (distinct : levels.Nodup) :
    quantiles.foldlM addLevel levels = .ok out ↔
      out = levels ++ quantiles ∧ (∀ l ∈ quantiles, 0 < l ∧ l < 1) ∧ (levels ++ quantiles).Nodup := by
  induction quantiles generalizing levels with
  | nil => simp [distinct, eq_comm]
  | cons l rest ih =>
    rw [List.foldlM_cons, addLevel, bind_assoc, refuseIf_bind_eq_ok_iff, bind_assoc, refuseIf_bind_eq_ok_iff,
      pure_bind, not_not, List.forall_mem_cons]
    by_cases hMem : l ∈ levels
    · constructor
      · rintro ⟨-, hNew, -⟩
        exact absurd hMem hNew
      · rintro ⟨-, -, hNodup⟩
        exact absurd List.mem_cons_self ((List.disjoint_of_nodup_append hNodup) hMem)
    · have hDistinct : (levels ++ [l]).Nodup :=
        List.nodup_append.mpr ⟨distinct, List.nodup_singleton l, by
          intro a ha b hb hSame
          rw [List.mem_singleton] at hb
          exact hMem (hb ▸ hSame ▸ ha)⟩
      rw [ih hDistinct, List.append_assoc, List.singleton_append]
      tauto

theorem quantileLevels_eq_ok {quantiles levels : List K} :
    quantileLevels quantiles = .ok levels ↔ levels = quantiles ∧ ValidLevels quantiles := by
  rw [quantileLevels, refuseIf_bind_eq_ok_iff, foldlM_addLevel List.nodup_nil, List.nil_append]
  constructor
  · rintro ⟨hSome, rfl, hRange, hNodup⟩
    exact ⟨rfl, hSome, hRange, hNodup⟩
  · rintro ⟨rfl, hValid⟩
    exact ⟨hValid.nonempty, rfl, hValid.range, hValid.distinct⟩

theorem positiveInteger_eq_ok {value out : Nat} {name : String} :
    positiveInteger value name = .ok out ↔ out = value ∧ 1 ≤ value := by
  rw [positiveInteger, refuseIf_bind_eq_ok_iff, not_lt, pure_eq_ok, Except.ok.injEq]
  tauto

/-! ## Forecasts by level -/

namespace Fitted

variable (f : Fitted K)

/-- At least two earlier errors, not all the same. -/
def Dispersed (step : Nat) : Prop :=
  2 ≤ (f.baseline.expandingOriginErrors f.history step).length ∧
    (sorted (f.baseline.expandingOriginErrors f.history step)).head? ≠
      (sorted (f.baseline.expandingOriginErrors f.history step)).getLast?

variable [FloorSemiring K]

/-- The forecast of a level. -/
def quantile (step : Nat) (level : K) : K :=
  f.baseline.forecastAt f.history step +
    (linearQuantile (sorted (f.baseline.expandingOriginErrors f.history step)) level -
      linearQuantile (sorted (f.baseline.expandingOriginErrors f.history step)) (1 / 2))

variable {f}

theorem quantilesAt_eq_ok {step : Nat} {forecast : K → K} :
    f.quantilesAt step = .ok forecast ↔ f.Dispersed step ∧ forecast = f.quantile step := by
  rw [quantilesAt]
  dsimp only
  rw [refuseIf_bind_eq_ok_iff, refuseIf_bind_eq_ok_iff, not_lt, pure_eq_ok, Except.ok.injEq, ← and_assoc]
  exact and_congr_right fun _ => eq_comm

theorem rounds_eq_ok {steps : List Nat} {forecasts : List (K → K)} : steps.mapM f.quantilesAt = .ok forecasts ↔
    (∀ step ∈ steps, f.Dispersed step) ∧ forecasts = steps.map f.quantile := by
  constructor
  · intro h
    have hEach := forall₂_of_mapM h
    constructor
    · intro step hStep
      obtain ⟨forecast, -, hForecast⟩ := exists_right_of_forall₂ hEach hStep
      exact (quantilesAt_eq_ok.mp hForecast).1
    · rw [← List.forall₂_eq_eq_eq, List.forall₂_map_right_iff]
      exact List.Forall₂.flip (hEach.imp fun _ _ hRound => (quantilesAt_eq_ok.mp hRound).2)
  · rintro ⟨hDispersed, rfl⟩
    apply mapM_of_forall₂
    rw [List.forall₂_map_right_iff, List.forall₂_same]
    exact fun step hStep => quantilesAt_eq_ok.mpr ⟨hDispersed step hStep, rfl⟩

theorem predictQuantiles_eq_ok {horizon : Nat} {quantiles : List K} {paths : List (K × List K)} :
    f.predictQuantiles horizon quantiles = .ok paths ↔
      1 ≤ horizon ∧ ValidLevels quantiles ∧ (∀ step ∈ List.range' 1 horizon, f.Dispersed step) ∧
        paths = quantiles.map fun level => (level, (List.range' 1 horizon).map fun step => f.quantile step level) := by
  simp only [predictQuantiles, bind_eq_ok_iff, positiveInteger_eq_ok, quantileLevels_eq_ok, rounds_eq_ok, pure_eq_ok,
    Except.ok.injEq]
  constructor
  · rintro ⟨steps, ⟨rfl, hPos⟩, levels, ⟨rfl, hValid⟩, forecasts, ⟨hDispersed, rfl⟩, rfl⟩
    refine ⟨hPos, hValid, hDispersed, ?_⟩
    simp only [List.map_map]
    rfl
  · rintro ⟨hPos, hValid, hDispersed, rfl⟩
    refine ⟨horizon, ⟨rfl, hPos⟩, quantiles, ⟨rfl, hValid⟩, _, ⟨hDispersed, rfl⟩, ?_⟩
    simp only [List.map_map]
    rfl

omit [LinearOrder K] [FloorSemiring K] in
theorem predict_eq_ok {horizon : Nat} {points : List K} : f.predict horizon = .ok points ↔
    1 ≤ horizon ∧ points = (List.range' 1 horizon).map (f.baseline.forecastAt f.history) := by
  simp only [predict, bind_eq_ok_iff, positiveInteger_eq_ok, pure_eq_ok, Except.ok.injEq]
  constructor
  · rintro ⟨steps, ⟨rfl, hPos⟩, rfl⟩
    exact ⟨hPos, rfl⟩
  · rintro ⟨hPos, rfl⟩
    exact ⟨horizon, ⟨rfl, hPos⟩, rfl⟩

/-! ## Order and median -/

/-- The quantile of one half is the point forecast. -/
theorem quantile_half (step : Nat) : f.quantile step (1 / 2) = f.baseline.forecastAt f.history step := by
  rw [quantile, sub_self, add_zero]

theorem quantile_mono [IsStrictOrderedRing K] {step : Nat} (dispersed : f.Dispersed step) {p q : K} (low : 0 ≤ p)
    (h : p ≤ q) (high : q ≤ 1) : f.quantile step p ≤ f.quantile step q := by
  have hNonempty : sorted (f.baseline.expandingOriginErrors f.history step) ≠ [] := by
    rw [← List.length_pos_iff, sorted_length]
    have := dispersed.1
    omega
  have hMono := linearQuantile_mono hNonempty (sorted_pairwise _) low h high
  unfold quantile
  linarith

end Fitted

/-! ## Origins of the errors -/

omit [LinearOrder K] in
/-- One error for every prefix from which the step is observed, against a forecast of that prefix. -/
theorem expandingOriginErrors_eq (b : Baseline) (history : List K) (step : Nat) :
    ∃ origins : List Nat, origins.Nodup ∧
      (∀ p, p ∈ origins ↔ b.minimumHistory ≤ p ∧ p + step ≤ history.length) ∧
      b.expandingOriginErrors history step = origins.map fun p =>
        history.getD (p + step - 1) 0 - b.forecastAt (history.take p) step := by
  refine ⟨_, List.nodup_range', ?_, rfl⟩
  intro p
  rw [List.mem_range'_1]
  omega

end Models

end StockApi.Baselines

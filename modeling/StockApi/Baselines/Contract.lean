import StockApi.Baselines.Assembly
import StockApi.Forecasts.AsciiRules
import Mathlib.Tactic.FieldSimp
import Mathlib.Tactic.NormNum

/-!
# Baselines meet the response contract

The levels of a request lie on a grid, so that a lookup within a tolerance finds the level itself. On it the
quantiles of a baseline ascend through interpolation, recentering and the clamp at zero.
-/

namespace StockApi.Baselines

open Checked CivilTime Groups OrderStatistics
open Forecasts (ForecastRequest ForecastTarget SchemaError TextRules SoundRequest IsThousandth asciiRules)

/-! ## The grid of levels -/

theorem roundPlaces_of_int {places : Nat} {value : ℚ} {k : ℤ} (h : value * 10 ^ places = k) :
    roundPlaces places value = value := by
  rw [roundPlaces, h, Rounding.roundEven_intCast, ← h, mul_div_assoc, div_self (by positivity), mul_one]

/-- A coverage of at most three decimal places. -/
def IsCoverage (c : ℚ) : Prop := ∃ k : ℕ, (1 ≤ k ∧ k ≤ 999) ∧ c = k / 1000

/-- A multiple of one two-thousandth between zero and one. -/
def OnGrid (level : ℚ) : Prop := ∃ j : ℕ, (1 ≤ j ∧ j ≤ 1999) ∧ level = j / 2000

theorem onGrid_half : OnGrid (1 / 2) := ⟨1000, by decide, by norm_num⟩

theorem OnGrid.range {level : ℚ} (h : OnGrid level) : 0 < level ∧ level < 1 := by
  obtain ⟨j, ⟨hLow, hHigh⟩, rfl⟩ := h
  have hLowCast : (1 : ℚ) ≤ j := by exact_mod_cast hLow
  have hHighCast : (j : ℚ) ≤ 1999 := by exact_mod_cast hHigh
  constructor
  · positivity
  · rw [div_lt_one (by norm_num)]
    linarith

/-- Different levels of the grid are far apart. -/
theorem OnGrid.eq_of_near {a b tolerance : ℚ} (ha : OnGrid a) (hb : OnGrid b) (h : |a - b| ≤ tolerance)
    (small : tolerance ≤ 1 / 10 ^ 9) : a = b := by
  obtain ⟨i, -, rfl⟩ := ha
  obtain ⟨j, -, rfl⟩ := hb
  have hNear : |((i : ℤ) : ℚ) - ((j : ℤ) : ℚ)| < 1 := by
    have hScaled : |((i : ℤ) : ℚ) - ((j : ℤ) : ℚ)| = 2000 * |(i : ℚ) / 2000 - (j : ℚ) / 2000| := by
      rw [← abs_of_pos (by norm_num : (0 : ℚ) < 2000), ← abs_mul, abs_of_pos (by norm_num : (0 : ℚ) < 2000)]
      congr 1
      push_cast
      field_simp
    rw [hScaled]
    calc 2000 * |(i : ℚ) / 2000 - (j : ℚ) / 2000| ≤ 2000 * (1 / 10 ^ 9) :=
          mul_le_mul_of_nonneg_left (h.trans small) (by norm_num)
      _ < 1 := by norm_num
  have hSame : (i : ℤ) = j := by
    have hInt : |(i : ℤ) - (j : ℤ)| < 1 := by exact_mod_cast hNear
    exact sub_eq_zero.mp (Int.abs_lt_one_iff.mp hInt)
  have hNat : i = j := by exact_mod_cast hSame
  rw [hNat]

theorem coverageLevels_eq {c : ℚ} (h : IsCoverage c) : coverageLevels c = ((1 - c) / 2, (1 + c) / 2) := by
  obtain ⟨k, -, rfl⟩ := h
  have hLower : (1 - (k : ℚ) / 1000) / 2 * 10 ^ 12 = (((1000 - k) * 500000000 : ℤ) : ℚ) := by
    push_cast
    ring
  have hUpper : (1 + (k : ℚ) / 1000) / 2 * 10 ^ 12 = (((1000 + k) * 500000000 : ℤ) : ℚ) := by
    push_cast
    ring
  rw [coverageLevels, roundPlaces_of_int hLower, roundPlaces_of_int hUpper]

theorem IsCoverage.onGrid {c : ℚ} (h : IsCoverage c) : OnGrid ((1 - c) / 2) ∧ OnGrid ((1 + c) / 2) := by
  obtain ⟨k, ⟨hLow, hHigh⟩, rfl⟩ := h
  refine ⟨⟨1000 - k, by omega, ?_⟩, ⟨1000 + k, by omega, ?_⟩⟩
  · rw [Nat.cast_sub (by omega)]
    push_cast
    ring
  · push_cast
    ring

theorem IsCoverage.pos {c : ℚ} (h : IsCoverage c) : 0 < c := by
  obtain ⟨k, ⟨hLow, -⟩, rfl⟩ := h
  have hCast : (1 : ℚ) ≤ k := by exact_mod_cast hLow
  positivity

/-! ### Coverages of a request -/

variable {rules : TextRules} {request : ForecastRequest}

theorem roundPlaces_thousandth {k : ℕ} (h : 1 ≤ k ∧ k ≤ 999) :
    roundPlaces 3 (Calibration.thousandth k) = (k : ℚ) / 1000 := by
  have hRound := Forecasts.roundEven_mul_thousandth h
  rw [roundPlaces]
  norm_num
  rw [hRound]
  norm_num

/-- Different thousandths are written by different floats, in the same order. -/
theorem lt_of_thousandth_lt {j k : ℕ} (hj : 1 ≤ j ∧ j ≤ 999) (hk : 1 ≤ k ∧ k ≤ 999)
    (h : Calibration.thousandth j < Calibration.thousandth k) : j < k := by
  by_contra hNot
  have hNearJ := abs_le.mp (Forecasts.thousandth_near hj)
  have hNearK := abs_le.mp (Forecasts.thousandth_near hk)
  rcases Nat.eq_or_lt_of_le (not_lt.mp hNot) with rfl | hLess
  · exact lt_irrefl _ h
  · have hCast : (k : ℚ) + 1 ≤ j := by exact_mod_cast hLess
    linarith [hNearJ.1, hNearK.2]

theorem isCoverage_requested (sound : SoundRequest rules request) :
    ∀ c ∈ requestedCoverages request, IsCoverage c := by
  intro c hc
  obtain ⟨q, hq, rfl⟩ := List.mem_map.mp hc
  obtain ⟨k, hRange, hValue⟩ := sound.coverages q hq
  refine ⟨k, hRange, ?_⟩
  rw [hValue, roundPlaces_thousandth hRange]

theorem requestedCoverages_ascending (sound : SoundRequest rules request) :
    (requestedCoverages request).Pairwise (· < ·) := by
  rw [requestedCoverages, List.pairwise_map]
  refine sound.ascending.imp_of_mem ?_
  intro p q hp hq hLess
  obtain ⟨j, hj, hValueP⟩ := sound.coverages p hp
  obtain ⟨k, hk, hValueQ⟩ := sound.coverages q hq
  rw [hValueP, hValueQ] at hLess
  have hCast : (j : ℚ) < k := by exact_mod_cast lt_of_thousandth_lt hj hk hLess
  rw [hValueP, hValueQ, roundPlaces_thousandth hj, roundPlaces_thousandth hk]
  exact div_lt_div_of_pos_right hCast (by norm_num)

theorem requestedCoverages_ne_nil (sound : SoundRequest rules request) : requestedCoverages request ≠ [] := by
  intro hNil
  have hSome := sound.count.1
  rw [List.map_eq_nil_iff.mp hNil] at hSome
  cases hSome

/-! ### Levels of a request -/

section Levels

variable {coverages : List ℚ} (grid : ∀ c ∈ coverages, IsCoverage c)
include grid

theorem mem_levels_iff {level : ℚ} : level ∈ requestedQuantileLevels coverages ↔
    level = 1 / 2 ∨ ∃ c ∈ coverages, level = (1 - c) / 2 ∨ level = (1 + c) / 2 := by
  rw [requestedQuantileLevels, Dict.mem_sortedSet, List.mem_cons, List.mem_flatMap]
  refine or_congr_right (exists_congr fun c => and_congr_right fun hc => ?_)
  rw [coverageLevels_eq (grid c hc), List.mem_cons, List.mem_singleton]

theorem onGrid_levels : ∀ level ∈ requestedQuantileLevels coverages, OnGrid level := by
  intro level hLevel
  rcases (mem_levels_iff grid).mp hLevel with rfl | ⟨c, hc, rfl | rfl⟩
  · exact onGrid_half
  · exact (grid c hc).onGrid.1
  · exact (grid c hc).onGrid.2

end Levels

theorem levels_ascending (coverages : List ℚ) : (requestedQuantileLevels coverages).Pairwise (· < ·) :=
  Dict.sortedSet_pairwise_lt _

theorem validLevels_requested (sound : SoundRequest rules request) :
    ValidLevels (requestedQuantileLevels (requestedCoverages request)) where
  nonempty := List.ne_nil_of_mem ((mem_levels_iff (isCoverage_requested sound)).mpr (Or.inl rfl))
  range l h := (onGrid_levels (isCoverage_requested sound) l h).range
  distinct := (levels_ascending _).imp ne_of_lt

/-! ## Lookups -/

/-- Among values at levels of the grid, a lookup within a tolerance finds the level. -/
theorem find?_level {α : Type} {tolerance : ℚ} (nonneg : 0 ≤ tolerance) (small : tolerance ≤ 1 / 10 ^ 9)
    {levels : List ℚ} (grid : ∀ l ∈ levels, OnGrid l) (entry : ℚ → α) (key : α → ℚ) (keyed : ∀ l, key (entry l) = l)
    {level : ℚ} (h : level ∈ levels) :
    (levels.map entry).find? (fun a => decide (|key a - level| ≤ tolerance)) = some (entry level) := by
  induction levels with
  | nil => cases h
  | cons first rest ih =>
    obtain ⟨hFirst, hRest⟩ := List.forall_mem_cons.mp grid
    rw [List.map_cons, List.find?_cons, keyed]
    by_cases hNear : |first - level| ≤ tolerance
    · have hSame : first = level := hFirst.eq_of_near (grid level h) hNear small
      rw [decide_eq_true hNear, hSame]
    · rw [decide_eq_false hNear]
      apply ih hRest
      rcases List.mem_cons.mp h with rfl | hMem
      · rw [sub_self, abs_zero] at hNear
        exact absurd nonneg hNear
      · exact hMem

theorem lookup_level {α : Type} {levels : List ℚ} (value : ℚ → α) {level : ℚ} (h : level ∈ levels) :
    (levels.map fun l => (l, value l)).lookup level = some (value level) := by
  induction levels with
  | nil => cases h
  | cons first rest ih =>
    rw [List.map_cons, List.lookup_cons]
    by_cases hSame : level = first
    · rw [hSame, beq_self_eq_true]
    · rw [beq_eq_false_iff_ne.mpr hSame]
      exact ih ((List.mem_cons.mp h).resolve_left hSame)

/-! ## Steps -/

/-- A step whose values are those of a function of the level. -/
def stepOf (coverages levels : List ℚ) (value : ℚ → ℚ) (position : Instant × Nat) : ForecastStep where
  step := position.2 + 1
  targetTime := position.1.inUtc
  point := value (1 / 2)
  quantiles := levels.map fun l => ⟨l, value l⟩
  intervals := coverages.map fun c => ⟨c, (1 - c) / 2, (1 + c) / 2, value ((1 - c) / 2), value ((1 + c) / 2)⟩

/-- Nondecreasing between zero and one. -/
def Ascends (value : ℚ → ℚ) : Prop := ∀ p q, 0 < p → p ≤ q → q < 1 → value p ≤ value q

section Steps

variable {coverages : List ℚ} {value : ℚ → ℚ}

theorem coverage_eq_ok {c : ℚ} (h : IsCoverage c) : coverage c = .ok c := by
  obtain ⟨k, ⟨hLow, hHigh⟩, rfl⟩ := h
  have hLowCast : (1 : ℚ) ≤ k := by exact_mod_cast hLow
  have hHighCast : (k : ℚ) ≤ 999 := by exact_mod_cast hHigh
  have hRange : 1 / 1000 ≤ (k : ℚ) / 1000 ∧ (k : ℚ) / 1000 ≤ 999 / 1000 :=
    ⟨by linarith, by linarith⟩
  have hWhole : (k : ℚ) / 1000 * 1000 = k := by field_simp
  have hDen : ¬ ((k : ℚ) / 1000 * 1000).den ≠ 1 := by
    rw [hWhole]
    exact not_not.mpr (Rat.den_natCast k)
  have hRound : roundPlaces 3 ((k : ℚ) / 1000) = k / 1000 := by
    apply roundPlaces_of_int
    rw [show (10 : ℚ) ^ 3 = 1000 by norm_num, hWhole]
    exact (Int.cast_natCast k).symm
  have hClose : ¬ (1 : ℚ) / 10 ^ 12 < |(k : ℚ) / 1000 - k / 1000| := by
    rw [sub_self, abs_zero]
    norm_num
  rw [coverage, refuseIf_of_not (not_not.mpr hRange), ok_bind, refuseIf_of_not hDen, ok_bind]
  dsimp only
  rw [hRound, refuseIf_of_not hClose]
  rfl

theorem validateInterval_eq_ok {c : ℚ} (h : IsCoverage c) (ascends : Ascends value) :
    validateInterval ⟨c, (1 - c) / 2, (1 + c) / 2, value ((1 - c) / 2), value ((1 + c) / 2)⟩ =
      .ok ⟨c, (1 - c) / 2, (1 + c) / 2, value ((1 - c) / 2), value ((1 + c) / 2)⟩ := by
  have hLower := h.onGrid.1.range
  have hUpper := h.onGrid.2.range
  have hOrder : (1 - c) / 2 < (1 + c) / 2 := by linarith [h.pos]
  have hWidth : ¬ floatTolerance < |(1 + c) / 2 - (1 - c) / 2 - c| := by
    have hZero : (1 + c) / 2 - (1 - c) / 2 - c = 0 := by ring
    rw [hZero, abs_zero, floatTolerance]
    norm_num
  have hBounds := ascends _ _ hLower.1 hOrder.le hUpper.2
  simp only [validateInterval, coverage_eq_ok h, ok_bind, quantileLevel]
  rw [refuseIf_of_not (not_not.mpr hLower), ok_bind, refuseIf_of_not (not_not.mpr hUpper), ok_bind,
    refuseIf_of_not (not_le.mpr hOrder), ok_bind, refuseIf_of_not hWidth, ok_bind, refuseIf_of_not (not_lt.mpr hBounds)]
  rfl

theorem floatTolerance_bounds : 0 ≤ floatTolerance ∧ floatTolerance ≤ 1 / 10 ^ 9 := by
  rw [floatTolerance]
  norm_num

theorem quantileValue_level {levels : List ℚ} (grid : ∀ l ∈ levels, OnGrid l) {level : ℚ} (h : level ∈ levels) :
    quantileValue (levels.map fun l => ⟨l, value l⟩) level = some (value level) := by
  rw [quantileValue, find?_level floatTolerance_bounds.1 floatTolerance_bounds.2 grid (fun l => ⟨l, value l⟩)
    ForecastQuantile.level (fun _ => rfl) h]
  rfl

theorem meets_self (v : ℚ) : Meets v (some v) := by
  refine ⟨v, rfl, ?_⟩
  rw [sub_self, abs_zero]
  exact floatTolerance_bounds.1

theorem validateDistribution_level (grid : ∀ c ∈ coverages, IsCoverage c) (distinct : coverages.Nodup)
    (ascends : Ascends value) :
    validateDistribution ((requestedQuantileLevels coverages).map fun l => ⟨l, value l⟩) (value (1 / 2))
      (coverages.map fun c => ⟨c, (1 - c) / 2, (1 + c) / 2, value ((1 - c) / 2), value ((1 + c) / 2)⟩) = .ok ⟨⟩ := by
  have hGrid := onGrid_levels grid
  have hHalf : 1 / 2 ∈ requestedQuantileLevels coverages := (mem_levels_iff grid).mpr (Or.inl rfl)
  have hChain : ((requestedQuantileLevels coverages).map fun l => (⟨l, value l⟩ : ForecastQuantile)).IsChain
      fun lower upper => lower.value ≤ upper.value := by
    apply List.Pairwise.isChain
    rw [List.pairwise_map]
    refine (levels_ascending coverages).imp_of_mem ?_
    intro p q hp hq hLess
    exact ascends p q (hGrid p hp).range.1 hLess.le (hGrid q hq).range.2
  have hMedian : Meets (value (1 / 2)) (quantileValue ((requestedQuantileLevels coverages).map fun l =>
      ⟨l, value l⟩) (1 / 2)) := by
    rw [quantileValue_level hGrid hHalf]
    exact meets_self _
  have hCoverages : ((coverages.map fun c => (⟨c, (1 - c) / 2, (1 + c) / 2, value ((1 - c) / 2),
      value ((1 + c) / 2)⟩ : ForecastInterval)).map ForecastInterval.coverage).Nodup := by
    rw [List.map_map]
    exact (List.map_id' coverages).symm ▸ distinct
  rw [validateDistribution, refuseIf_of_not (not_not.mpr hChain), ok_bind, refuseIf_of_not (not_not.mpr hMedian),
    ok_bind, refuseIf_of_not (not_not.mpr hCoverages), ok_bind, forM_eq_ok_iff]
  intro i hi
  obtain ⟨c, hc, rfl⟩ := List.mem_map.mp hi
  have hLower : quantileValue ((requestedQuantileLevels coverages).map fun l => ⟨l, value l⟩) ((1 - c) / 2) =
      some (value ((1 - c) / 2)) :=
    quantileValue_level hGrid ((mem_levels_iff grid).mpr (Or.inr ⟨c, hc, Or.inl rfl⟩))
  have hUpper : quantileValue ((requestedQuantileLevels coverages).map fun l => ⟨l, value l⟩) ((1 + c) / 2) =
      some (value ((1 + c) / 2)) :=
    quantileValue_level hGrid ((mem_levels_iff grid).mpr (Or.inr ⟨c, hc, Or.inr rfl⟩))
  dsimp only
  rw [hLower, hUpper, refuseIf_bind_eq_ok_iff, refuseIf_eq_ok_iff]
  refine ⟨by simp, ?_⟩
  rw [not_or, not_not, not_not]
  exact ⟨meets_self _, meets_self _⟩

/-- The step of a nondecreasing function passes the validators as it is. -/
theorem validateStep_stepOf (grid : ∀ c ∈ coverages, IsCoverage c) (distinct : coverages.Nodup)
    (nonempty : coverages ≠ []) (ascends : Ascends value) (position : Instant × Nat) :
    validateStep (stepOf coverages (requestedQuantileLevels coverages) value position) =
      .ok (stepOf coverages (requestedQuantileLevels coverages) value position) := by
  have hGrid := onGrid_levels grid
  have hAscending := levels_ascending coverages
  have hHalf : 1 / 2 ∈ requestedQuantileLevels coverages := (mem_levels_iff grid).mpr (Or.inl rfl)
  have hQuantiles : ((requestedQuantileLevels coverages).map fun l => (⟨l, value l⟩ : ForecastQuantile)).mapM
      validateQuantile = .ok ((requestedQuantileLevels coverages).map fun l => ⟨l, value l⟩) := by
    apply Forecasts.mapM_self
    intro q hq
    obtain ⟨l, hl, rfl⟩ := List.mem_map.mp hq
    rw [validateQuantile, quantileLevel, refuseIf_of_not (not_not.mpr (hGrid l hl).range)]
    rfl
  have hIntervals : (stepOf coverages (requestedQuantileLevels coverages) value position).intervals.mapM
      validateInterval = .ok (stepOf coverages (requestedQuantileLevels coverages) value position).intervals := by
    apply Forecasts.mapM_self
    intro i hi
    obtain ⟨c, hc, rfl⟩ := List.mem_map.mp hi
    exact validateInterval_eq_ok (grid c hc) ascends
  have hLevels : ((requestedQuantileLevels coverages).map fun l => (⟨l, value l⟩ : ForecastQuantile)).map
      ForecastQuantile.level = requestedQuantileLevels coverages := by
    rw [List.map_map]
    exact List.map_id' _
  have hDistinct : ((requestedQuantileLevels coverages).map fun l => (⟨l, value l⟩ : ForecastQuantile)).map
      ForecastQuantile.level |>.Nodup := by
    rw [hLevels]
    exact hAscending.imp ne_of_lt
  have hSorted : sortOn ForecastQuantile.level ((requestedQuantileLevels coverages).map fun l =>
      (⟨l, value l⟩ : ForecastQuantile)) = (requestedQuantileLevels coverages).map fun l => ⟨l, value l⟩ := by
    rw [sortOn_eq_self_iff, List.pairwise_map]
    exact hAscending.imp le_of_lt
  have hSomeLevel : ¬ ((requestedQuantileLevels coverages).map fun l =>
    (⟨l, value l⟩ : ForecastQuantile)).length < 1 := by
    rw [List.length_map, not_lt]
    exact List.length_pos_of_mem hHalf
  have hSomeInterval : ¬ (stepOf coverages (requestedQuantileLevels coverages) value
    position).intervals.length < 1 := by
    rw [stepOf, List.length_map, not_lt]
    exact List.length_pos_iff.mpr nonempty
  have hTime : Forecasts.aware position.1.inUtc "target_time" = .ok ⟨⟩ :=
    Forecasts.aware_of (Option.some_ne_none _)
  simp only [stepOf] at hIntervals hSomeInterval ⊢
  rw [validateStep, refuseIf_of_not (not_not.mpr (Nat.le_add_left 1 position.2)), ok_bind, hTime, ok_bind,
    refuseIf_of_not hSomeLevel, ok_bind, hQuantiles, ok_bind, refuseIf_of_not (not_not.mpr hDistinct),
    ok_bind]
  dsimp only
  rw [refuseIf_of_not hSomeInterval, ok_bind, hIntervals, ok_bind, hSorted,
    validateDistribution_level grid distinct ascends, ok_bind]
  rfl

theorem forecastInterval_eq (grid : ∀ c ∈ coverages, IsCoverage c) (ascends : Ascends value) {c : ℚ}
    (h : c ∈ coverages) :
    forecastInterval ((requestedQuantileLevels coverages).map fun l => (l, value l)) c =
      .ok ⟨c, (1 - c) / 2, (1 + c) / 2, value ((1 - c) / 2), value ((1 + c) / 2)⟩ := by
  have hLower : ((requestedQuantileLevels coverages).map fun l => (l, value l)).lookup ((1 - c) / 2) =
      some (value ((1 - c) / 2)) := lookup_level value ((mem_levels_iff grid).mpr (Or.inr ⟨c, h, Or.inl rfl⟩))
  have hUpper : ((requestedQuantileLevels coverages).map fun l => (l, value l)).lookup ((1 + c) / 2) =
      some (value ((1 + c) / 2)) := lookup_level value ((mem_levels_iff grid).mpr (Or.inr ⟨c, h, Or.inr rfl⟩))
  rw [forecastInterval, coverageLevels_eq (grid c h)]
  dsimp only
  rw [hLower, hUpper, orRefuse_some, ok_bind, orRefuse_some, ok_bind, validateInterval_eq_ok (grid c h) ascends]
  rfl

/-- One round of the loop, for values that are those of a nondecreasing function of the level. -/
theorem forecastStep_eq (grid : ∀ c ∈ coverages, IsCoverage c) (distinct : coverages.Nodup)
    (nonempty : coverages ≠ []) (ascends : Ascends value) {target : ForecastTarget} {rawPoints : List ℚ}
    {path : ℚ → List ℚ} {position : Instant × Nat}
    (point : targetValue target (rawPoints.getD position.2 0) = value (1 / 2))
    (values : ∀ l, targetValue target ((path l).getD position.2 0) = value l) :
    forecastStep target coverages rawPoints ((requestedQuantileLevels coverages).map fun l => (l, path l)) position =
      .ok (stepOf coverages (requestedQuantileLevels coverages) value position) := by
  have hGrid := onGrid_levels grid
  have hHalf : 1 / 2 ∈ requestedQuantileLevels coverages := (mem_levels_iff grid).mpr (Or.inl rfl)
  have hValues : ((requestedQuantileLevels coverages).map fun l => (l, path l)).map
      (fun p => (p.1, targetValue target (p.2.getD position.2 0))) =
      (requestedQuantileLevels coverages).map fun l => (l, value l) := by
    rw [List.map_map]
    apply List.map_congr_left
    intro l _
    exact Prod.ext rfl (values l)
  have hChain : (((requestedQuantileLevels coverages).map fun l => (l, value l)).map Prod.snd).IsChain
      fun current following => current ≤ following + floatTolerance := by
    apply List.Pairwise.isChain
    rw [List.map_map, List.pairwise_map]
    refine (levels_ascending coverages).imp_of_mem ?_
    intro p q hp hq hLess
    have hAscends := ascends p q (hGrid p hp).range.1 hLess.le (hGrid q hq).range.2
    exact hAscends.trans (le_add_of_nonneg_right floatTolerance_bounds.1)
  have hMedian : ¬ floatTolerance < |value (1 / 2) - value (1 / 2)| := by
    rw [sub_self, abs_zero, not_lt]
    exact floatTolerance_bounds.1
  have hQuantiles : ((requestedQuantileLevels coverages).map fun l => (l, value l)).mapM
      (fun v => (validateQuantile ⟨v.1, v.2⟩).mapError AssemblyError.schema) =
      .ok ((requestedQuantileLevels coverages).map fun l => ⟨l, value l⟩) := by
    apply mapM_of_forall₂
    rw [List.forall₂_map_left_iff, List.forall₂_map_right_iff, List.forall₂_same]
    intro l hl
    rw [validateQuantile, quantileLevel, refuseIf_of_not (not_not.mpr (hGrid l hl).range)]
    rfl
  have hIntervals : coverages.mapM (forecastInterval ((requestedQuantileLevels coverages).map fun l => (l, value l))) =
      .ok (coverages.map fun c => ⟨c, (1 - c) / 2, (1 + c) / 2, value ((1 - c) / 2), value ((1 + c) / 2)⟩) := by
    apply mapM_of_forall₂
    rw [List.forall₂_map_right_iff, List.forall₂_same]
    exact fun c hc => forecastInterval_eq grid ascends hc
  have hStep := validateStep_stepOf grid distinct nonempty ascends position
  rw [forecastStep]
  rw [hValues, point, refuseIf_of_not (not_not.mpr hChain), ok_bind, lookup_level value hHalf, orRefuse_some, ok_bind,
    refuseIf_of_not hMedian, ok_bind, hQuantiles, ok_bind, hIntervals, ok_bind]
  rw [stepOf] at hStep ⊢
  rw [hStep]
  rfl

end Steps

/-! ## The loop -/

section Loop

variable {fitted : Fitted ℚ} {horizon : Nat}

/-- The value of a level in the response. -/
def responseValue (fitted : Fitted ℚ) (target : ForecastTarget) (step : Nat) (level : ℚ) : ℚ :=
  targetValue target (fitted.quantile step level)

theorem targetValue_mono (target : ForecastTarget) {a b : ℚ} (h : a ≤ b) :
    targetValue target a ≤ targetValue target b := by
  unfold targetValue
  split_ifs
  · exact max_le_max_left 0 h
  · exact h

theorem ascends_responseValue (target : ForecastTarget) {step : Nat} (dispersed : fitted.Dispersed step) :
    Ascends (responseValue fitted target step) := fun _ _ low hLe high =>
  targetValue_mono target (fitted.quantile_mono dispersed low.le hLe high.le)

theorem getD_steps {f : Nat → ℚ} {i : Nat} (h : i < horizon) :
    ((List.range' 1 horizon).map f).getD i 0 = f (i + 1) := by
  rw [List.getD_eq_getElem?_getD, List.getElem?_map, List.getElem?_range' h, Option.map_some, one_mul, Nat.add_comm,
    Option.getD_some]

theorem quantilePath_eq {levels : List ℚ} (grid : ∀ l ∈ levels, OnGrid l) {path : ℚ → List ℚ}
    (length : ∀ l, (path l).length = horizon) {level : ℚ} (h : level ∈ levels) :
    quantilePath (levels.map fun l => (l, path l)) level horizon = .ok (path level) := by
  have hFind := find?_level (by norm_num : (0 : ℚ) ≤ 1 / 10 ^ 12) (by norm_num) grid (fun l => (l, path l)) Prod.fst
    (fun _ => rfl) h
  rw [quantilePath, hFind, orRefuse_some, ok_bind, refuseIf_of_not (not_not.mpr (length level)), ok_bind]
  rfl

variable {rules : TextRules} {request : ForecastRequest}

/-- The steps of a baseline that returned its quantiles. -/
theorem forecastSteps_eq (sound : SoundRequest rules request) {targetTimes : List Instant}
    (times : targetTimes.length = request.horizon.toNat) {rawPoints : List ℚ} {rawQuantiles : List (ℚ × List ℚ)}
    (points : fitted.predict request.horizon.toNat = .ok rawPoints)
    (quantiles : fitted.predictQuantiles request.horizon.toNat
      (requestedQuantileLevels (requestedCoverages request)) = .ok rawQuantiles) :
    forecastSteps request targetTimes rawPoints rawQuantiles = .ok (targetTimes.zipIdx.map fun position =>
      stepOf (requestedCoverages request) (requestedQuantileLevels (requestedCoverages request))
        (responseValue fitted request.target (position.2 + 1)) position) := by
  obtain ⟨-, -, hDispersed, rfl⟩ := Fitted.predictQuantiles_eq_ok.mp quantiles
  obtain ⟨-, rfl⟩ := Fitted.predict_eq_ok.mp points
  have hGrid := onGrid_levels (isCoverage_requested sound)
  have hPaths : (requestedQuantileLevels (requestedCoverages request)).mapM (fun level => do
      let path ← quantilePath ((requestedQuantileLevels (requestedCoverages request)).map fun l =>
        (l, (List.range' 1 request.horizon.toNat).map fun step => fitted.quantile step l)) level request.horizon.toNat
      return (level, path)) = .ok ((requestedQuantileLevels (requestedCoverages request)).map fun l =>
        (l, (List.range' 1 request.horizon.toNat).map fun step => fitted.quantile step l)) := by
    apply mapM_of_forall₂
    rw [List.forall₂_map_right_iff, List.forall₂_same]
    intro level hLevel
    rw [quantilePath_eq hGrid (fun l => by rw [List.length_map, List.length_range']) hLevel]
    rfl
  have hLength : ¬ ((List.range' 1 request.horizon.toNat).map (fitted.baseline.forecastAt fitted.history)).length ≠
      request.horizon.toNat := by
    rw [List.length_map, List.length_range', not_not]
  rw [forecastSteps, hPaths, ok_bind, refuseIf_of_not hLength, ok_bind]
  apply mapM_of_forall₂
  rw [List.forall₂_map_right_iff, List.forall₂_same]
  intro position hPosition
  have hIndex : position.2 < request.horizon.toNat := by
    have hBound := List.snd_lt_of_mem_zipIdx hPosition
    omega
  have hStep : position.2 + 1 ∈ List.range' 1 request.horizon.toNat := by
    rw [List.mem_range'_1]
    omega
  apply forecastStep_eq (isCoverage_requested sound) ((requestedCoverages_ascending sound).imp ne_of_lt)
    (requestedCoverages_ne_nil sound) (ascends_responseValue request.target (hDispersed _ hStep))
  · rw [getD_steps hIndex, responseValue, Fitted.quantile_half]
  · intro l
    rw [getD_steps hIndex, responseValue]

/-- What the schema and a reader ask of a step. -/
structure ForecastStep.Fits (s : ForecastStep) (target : ForecastTarget) : Prop where
  validates : validateStep s = .ok s
  intervals : ∀ i ∈ s.intervals, validateInterval i = .ok i
  contains : ∀ i ∈ s.intervals, i.lower ≤ s.point ∧ s.point ≤ i.upper
  nested : ∀ i ∈ s.intervals, ∀ j ∈ s.intervals, i.coverage ≤ j.coverage → j.lower ≤ i.lower ∧ i.upper ≤ j.upper
  nonnegative : IsPriceTarget target →
    0 ≤ s.point ∧ (∀ q ∈ s.quantiles, 0 ≤ q.value) ∧ ∀ i ∈ s.intervals, 0 ≤ i.lower ∧ 0 ≤ i.upper

theorem fits_stepOf (sound : SoundRequest rules request) {step : Nat} (dispersed : fitted.Dispersed step)
    (position : Instant × Nat) :
    (stepOf (requestedCoverages request) (requestedQuantileLevels (requestedCoverages request))
      (responseValue fitted request.target step) position).Fits request.target := by
  have hCoverages := isCoverage_requested sound
  have hAscends := ascends_responseValue request.target dispersed
  have hNonneg : IsPriceTarget request.target → ∀ l, 0 ≤ responseValue fitted request.target step l := by
    intro hPrice l
    rw [responseValue, targetValue, if_pos hPrice]
    exact le_max_left 0 _
  constructor
  · exact validateStep_stepOf hCoverages ((requestedCoverages_ascending sound).imp ne_of_lt)
      (requestedCoverages_ne_nil sound) hAscends position
  · intro i hi
    obtain ⟨c, hc, rfl⟩ := List.mem_map.mp hi
    exact validateInterval_eq_ok (hCoverages c hc) hAscends
  · intro i hi
    obtain ⟨c, hc, rfl⟩ := List.mem_map.mp hi
    have hPos := (hCoverages c hc).pos
    obtain ⟨hLower, hUpper⟩ := (hCoverages c hc).onGrid
    exact ⟨hAscends _ _ hLower.range.1 (by linarith) (by norm_num),
      hAscends _ _ (by norm_num) (by linarith) hUpper.range.2⟩
  · intro i hi j hj hLe
    obtain ⟨c, hc, rfl⟩ := List.mem_map.mp hi
    obtain ⟨d, hd, rfl⟩ := List.mem_map.mp hj
    dsimp only at hLe
    exact ⟨hAscends _ _ (hCoverages d hd).onGrid.1.range.1 (by linarith) (hCoverages c hc).onGrid.1.range.2,
      hAscends _ _ (hCoverages c hc).onGrid.2.range.1 (by linarith) (hCoverages d hd).onGrid.2.range.2⟩
  · intro hPrice
    refine ⟨hNonneg hPrice _, ?_, ?_⟩
    · intro q hq
      obtain ⟨l, -, rfl⟩ := List.mem_map.mp hq
      exact hNonneg hPrice l
    · intro i hi
      obtain ⟨c, -, rfl⟩ := List.mem_map.mp hi
      exact ⟨hNonneg hPrice _, hNonneg hPrice _⟩

end Loop

/-! ## The response -/

def versionMismatch : AssemblyError := .valueError "run identity model_version must match the fitted forecaster"

/-- What `_validated_inputs` asks for and what it returns. -/
structure Accepted (rules : TextRules) (request : ForecastRequest) (resolved : ResolvedForecastInput)
    (identity : ForecastRunIdentity) (inputs : ValidatedInputs) : Prop where
  symbol : rules.upper (rules.strip resolved.symbol) = request.symbol
  target : resolved.target = request.target
  horizonUnit : resolved.horizonUnit = request.horizonUnit
  seriesBasis : resolved.seriesBasis ∈ ["raw", "split_adjusted", "split_dividend_adjusted"]
  rawBasis : ¬ (request.target = .close ∧ resolved.seriesBasis ≠ "raw")
  adjustedBasis : ¬ (request.target = .adjustedClose ∧ resolved.seriesBasis = "raw")
  snapshotId : rules.strip resolved.snapshotId ≠ ""
  pinned : ¬ ∃ snapshotId ∈ request.snapshotId, snapshotId ≠ resolved.snapshotId
  asOf : asUtc resolved.asOf "as_of" = .ok inputs.asOf
  cutoff : ∃ cutoff, requestedCutoff request = .ok cutoff ∧ ¬ ∃ requested ∈ cutoff, requested < inputs.asOf
  generatedAt : asUtc identity.generatedAt "generated_at" = .ok inputs.generatedAt
  generatedLater : inputs.asOf ≤ inputs.generatedAt
  observed : ¬ resolved.observations.isEmpty = true
  sourced : ¬ resolved.dataSources.isEmpty = true
  horizon : resolved.targetTimes.length = request.horizon.toNat
  observations : resolved.observations.mapM utcObservation = .ok inputs.observations
  observedAscending : inputs.observations.IsChain fun previous current => previous.observedAt < current.observedAt
  observedAdmissible : inputs.observations.forM (checkObservation inputs.asOf) = .ok PUnit.unit.{1}
  dataSources : canonicalDataSources rules resolved.dataSources = .ok inputs.dataSources
  sourcesAvailable : ¬ ∃ source ∈ inputs.dataSources, inputs.asOf < source.1
  targetTimes : (resolved.targetTimes.mapM fun value => asUtc value "target_time") = .ok inputs.targetTimes
  targetsLater : ¬ ∃ first ∈ inputs.targetTimes.head?, first ≤ inputs.asOf
  targetsAscending : inputs.targetTimes.IsChain fun current following => current < following
  priced : ¬ (IsPriceTarget request.target ∧ resolved.currency = none)
  unpriced : ¬ (¬ IsPriceTarget request.target ∧ resolved.currency ≠ none)

theorem validatedInputs_eq_ok_iff {rules : TextRules} {request : ForecastRequest} {resolved : ResolvedForecastInput}
    {identity : ForecastRunIdentity} {inputs : ValidatedInputs} :
    validatedInputs rules request resolved identity = .ok inputs ↔ Accepted rules request resolved identity inputs := by
  rw [validatedInputs, refuseIf_bind_eq_ok_iff, refuseIf_bind_eq_ok_iff, refuseIf_bind_eq_ok_iff,
    refuseIf_bind_eq_ok_iff, refuseIf_bind_eq_ok_iff, refuseIf_bind_eq_ok_iff, refuseIf_bind_eq_ok_iff,
    refuseIf_bind_eq_ok_iff, not_not, not_not, not_not, not_not]
  constructor
  · rintro ⟨symbol, target, horizonUnit, seriesBasis, rawBasis, adjustedBasis, snapshotId, pinned, h⟩
    -- the times of the run
    obtain ⟨asOf, hAsOf, h⟩ := bind_eq_ok_iff.mp h
    obtain ⟨cutoff, hCutoff, h⟩ := bind_eq_ok_iff.mp h
    obtain ⟨hEarlier, h⟩ := refuseIf_bind_eq_ok_iff.mp h
    obtain ⟨generatedAt, hGenerated, h⟩ := bind_eq_ok_iff.mp h
    rw [refuseIf_bind_eq_ok_iff, refuseIf_bind_eq_ok_iff, refuseIf_bind_eq_ok_iff, refuseIf_bind_eq_ok_iff,
      not_lt, not_not] at h
    obtain ⟨generatedLater, observed, sourced, horizon, h⟩ := h
    -- the observations, the sources and the targets
    obtain ⟨observations, hObservations, h⟩ := bind_eq_ok_iff.mp h
    rw [refuseIf_bind_eq_ok_iff, not_not, unit_bind_eq_ok_iff] at h
    obtain ⟨observedAscending, observedAdmissible, h⟩ := h
    obtain ⟨dataSources, hSources, h⟩ := bind_eq_ok_iff.mp h
    obtain ⟨sourcesAvailable, h⟩ := refuseIf_bind_eq_ok_iff.mp h
    obtain ⟨targetTimes, hTimes, h⟩ := bind_eq_ok_iff.mp h
    rw [refuseIf_bind_eq_ok_iff, refuseIf_bind_eq_ok_iff, refuseIf_bind_eq_ok_iff, refuseIf_bind_eq_ok_iff,
      not_not] at h
    obtain ⟨targetsLater, targetsAscending, priced, unpriced, h⟩ := h
    cases h
    exact ⟨symbol, target, horizonUnit, seriesBasis, rawBasis, adjustedBasis, snapshotId, pinned, hAsOf,
      ⟨cutoff, hCutoff, hEarlier⟩, hGenerated, generatedLater, observed, sourced, horizon, hObservations,
      observedAscending, observedAdmissible, hSources, sourcesAvailable, hTimes, targetsLater, targetsAscending, priced,
      unpriced⟩
  · intro h
    obtain ⟨cutoff, hCutoff, hEarlier⟩ := h.cutoff
    refine ⟨h.symbol, h.target, h.horizonUnit, h.seriesBasis, h.rawBasis, h.adjustedBasis, h.snapshotId, h.pinned, ?_⟩
    rw [h.asOf, ok_bind, hCutoff, ok_bind, refuseIf_of_not hEarlier, ok_bind, h.generatedAt, ok_bind,
      refuseIf_of_not (not_lt.mpr h.generatedLater), ok_bind, refuseIf_of_not h.observed, ok_bind,
      refuseIf_of_not h.sourced, ok_bind, refuseIf_of_not (not_not.mpr h.horizon), ok_bind, h.observations, ok_bind,
      refuseIf_of_not (not_not.mpr h.observedAscending), ok_bind, h.observedAdmissible, ok_bind, h.dataSources, ok_bind,
      refuseIf_of_not h.sourcesAvailable, ok_bind, h.targetTimes, ok_bind, refuseIf_of_not h.targetsLater, ok_bind,
      refuseIf_of_not (not_not.mpr h.targetsAscending), ok_bind, refuseIf_of_not h.priced, ok_bind,
      refuseIf_of_not h.unpriced, ok_bind]
    rfl

/-- Accepted inputs have a target time for every step. -/
theorem length_targetTimes {rules : TextRules} {request : ForecastRequest} {resolved : ResolvedForecastInput}
    {identity : ForecastRunIdentity} {inputs : ValidatedInputs}
    (accepted : validatedInputs rules request resolved identity = .ok inputs) :
    inputs.targetTimes.length = request.horizon.toNat := by
  have hAccepted := validatedInputs_eq_ok_iff.mp accepted
  rw [← hAccepted.horizon]
  exact (forall₂_of_mapM hAccepted.targetTimes).length_eq.symm

/-- One error for every admissible origin, each the actual value less the forecast of the prefix before it. -/
def PrefixErrors (b : Baseline) (history : List ℚ) (step : Nat) (errors : List ℚ) : Prop :=
  ∃ origins : List Nat, origins.Nodup ∧ (∀ p, p ∈ origins ↔ b.minimumHistory ≤ p ∧ p + step ≤ history.length) ∧
    errors = origins.map fun p => history.getD (p + step - 1) 0 - b.forecastAt (history.take p) step

/-- The point moved by a quantile of the errors around their median. -/
def shifted (point : ℚ) (errors : List ℚ) (level : ℚ) : ℚ :=
  point + (linearQuantile (sorted errors) level - linearQuantile (sorted errors) (1 / 2))

/-- Quantiles are the point moved by those of the errors of earlier prefixes, ascend and meet the point at one half,
and once they are there the response is refused for the identity of the model only, and every step meets the
contract. -/
theorem baseline_forecasts_fit (b : Baseline) :
    (∀ (fitted : Fitted ℚ) (horizon : Nat) (levels : List ℚ) (paths : List (ℚ × List ℚ)), fitted.baseline = b →
      fitted.predictQuantiles horizon levels = .ok paths →
        (∃ errors : Nat → List ℚ,
          (∀ step ∈ List.range' 1 horizon, 2 ≤ (errors step).length ∧
            PrefixErrors b fitted.history step (errors step)) ∧
          paths = levels.map fun level => (level, (List.range' 1 horizon).map fun step =>
            shifted (b.forecastAt fitted.history step) (errors step) level)) ∧
        (∀ p ∈ paths, ∀ q ∈ paths, p.1 ≤ q.1 → List.Forall₂ (· ≤ ·) p.2 q.2) ∧
        ∀ p ∈ paths, p.1 = 1 / 2 → fitted.predict horizon = .ok p.2) ∧
    ∀ (rules : TextRules) (request : ForecastRequest) (resolved : ResolvedForecastInput)
      (identity : ForecastRunIdentity) (inputs : ValidatedInputs) (fitted : Fitted ℚ)
      (rawQuantiles : List (ℚ × List ℚ)), SoundRequest rules request →
      validatedInputs rules request resolved identity = .ok inputs →
      b.fit (inputs.observations.map ForecastObservation.value) = .ok fitted →
      fitted.predictQuantiles request.horizon.toNat (requestedQuantileLevels (requestedCoverages request)) =
        .ok rawQuantiles →
      (∀ e, assembleBaselineForecastResponse rules b request resolved identity = .error e →
        e = versionMismatch ∨ validateModelSelection request identity.modelVersion = .error e) ∧
      (b.modelVersion = identity.modelVersion → validateModelSelection request identity.modelVersion = .ok ⟨⟩ →
        ∃ response, assembleBaselineForecastResponse rules b request resolved identity = .ok response ∧
          response.forecasts.length = request.horizon.toNat ∧ ∀ s ∈ response.forecasts, s.Fits request.target) := by
  refine ⟨?_, ?_⟩
  · rintro fitted horizon levels paths rfl h
    obtain ⟨hPos, hValid, hDispersed, rfl⟩ := Fitted.predictQuantiles_eq_ok.mp h
    refine ⟨⟨fitted.baseline.expandingOriginErrors fitted.history, fun step hStep => ?_, rfl⟩, ?_, ?_⟩
    · exact ⟨(hDispersed step hStep).1, expandingOriginErrors_eq fitted.baseline fitted.history step⟩
    · intro p hp q hq hLe
      obtain ⟨l, hl, rfl⟩ := List.mem_map.mp hp
      obtain ⟨k, hk, rfl⟩ := List.mem_map.mp hq
      rw [List.forall₂_map_left_iff, List.forall₂_map_right_iff, List.forall₂_same]
      exact fun step hStep => fitted.quantile_mono (hDispersed step hStep) (hValid.range l hl).1.le hLe
        (hValid.range k hk).2.le
    · intro p hp hHalf
      obtain ⟨l, -, rfl⟩ := List.mem_map.mp hp
      dsimp only at hHalf ⊢
      rw [Fitted.predict_eq_ok]
      refine ⟨hPos, List.map_congr_left fun step _ => ?_⟩
      rw [hHalf, Fitted.quantile_half]
  · intro rules request resolved identity inputs fitted rawQuantiles sound accepted hFit returned
    have hPos := (Fitted.predictQuantiles_eq_ok.mp returned).1
    have hDispersed := (Fitted.predictQuantiles_eq_ok.mp returned).2.2.1
    have hPoints : fitted.predict request.horizon.toNat =
        .ok ((List.range' 1 request.horizon.toNat).map (fitted.baseline.forecastAt fitted.history)) :=
      Fitted.predict_eq_ok.mpr ⟨hPos, rfl⟩
    have hSteps := forecastSteps_eq sound (length_targetTimes accepted) hPoints returned
    have hResponse : b.modelVersion = identity.modelVersion →
        validateModelSelection request identity.modelVersion = .ok ⟨⟩ →
        ∃ response, assembleBaselineForecastResponse rules b request resolved identity = .ok response ∧
          response.forecasts = inputs.targetTimes.zipIdx.map fun position =>
            stepOf (requestedCoverages request) (requestedQuantileLevels (requestedCoverages request))
              (responseValue fitted request.target (position.2 + 1)) position := by
      intro hVersion hSelection
      rw [assembleBaselineForecastResponse, accepted, ok_bind, mapError_eq_ok_iff.mpr hFit, ok_bind,
        refuseIf_of_not (not_not.mpr hVersion), ok_bind, hSelection, ok_bind, mapError_eq_ok_iff.mpr hPoints, ok_bind,
        mapError_eq_ok_iff.mpr returned, ok_bind, hSteps, ok_bind]
      exact ⟨_, rfl, rfl⟩
    constructor
    · intro e hError
      by_cases hVersion : b.modelVersion = identity.modelVersion
      · cases hSelection : validateModelSelection request identity.modelVersion with
        | ok =>
          obtain ⟨response, hOk, -⟩ := hResponse hVersion hSelection
          rw [hOk] at hError
          cases hError
        | error other =>
          rw [assembleBaselineForecastResponse, accepted, ok_bind, mapError_eq_ok_iff.mpr hFit, ok_bind,
            refuseIf_of_not (not_not.mpr hVersion), ok_bind, hSelection, error_bind, Except.error.injEq] at hError
          exact Or.inr (congrArg Except.error hError)
      · rw [assembleBaselineForecastResponse, accepted, ok_bind, mapError_eq_ok_iff.mpr hFit, ok_bind,
          refuseIf_of hVersion, error_bind, Except.error.injEq] at hError
        exact Or.inl hError.symm
    · intro hVersion hSelection
      obtain ⟨response, hOk, hForecasts⟩ := hResponse hVersion hSelection
      refine ⟨response, hOk, ?_, ?_⟩
      · rw [hForecasts, List.length_map, List.length_zipIdx, length_targetTimes accepted]
      · intro s hs
        rw [hForecasts] at hs
        obtain ⟨position, hPosition, rfl⟩ := List.mem_map.mp hs
        have hIndex := List.snd_lt_of_mem_zipIdx hPosition
        rw [length_targetTimes accepted] at hIndex
        exact fits_stepOf sound (hDispersed _ (by rw [List.mem_range'_1]; omega)) position

/-! ### Falling prices -/

/-- The drift forecast for the next session is negative. -/
def fallingFitted : Fitted ℚ := ⟨.drift, [10, 4, 6, 1], by decide⟩

def fallingPaths : List (ℚ × List ℚ) := [(1 / 10, [-32 / 5]), (1 / 2, [-2]), (9 / 10, [12 / 5])]

theorem isDouble_fallingCoverage : Float64.IsDouble (Calibration.thousandth 800) :=
  Forecasts.isDouble_thousandth (by decide)

def fallingRequest : ForecastRequest where
  symbol := "SPY"
  horizon := 1
  horizonUnit := .tradingDay
  target := .close
  asOf := none
  snapshotId := none
  model := .baselineDrift
  intervalCoverages := [⟨_, isDouble_fallingCoverage⟩]

theorem fallingRequest_sound : SoundRequest asciiRules fallingRequest where
  symbol := ⟨by decide +kernel, by decide +kernel⟩
  symbolUpper := by decide +kernel
  pattern := by decide +kernel
  horizon := by decide +kernel
  time t hNone := by cases hNone
  snapshot s hNone := by cases hNone
  count := by decide
  coverages := by
    intro q hMem
    obtain rfl := List.mem_singleton.mp hMem
    exact ⟨800, by decide, rfl⟩
  ascending := List.pairwise_singleton _ _

def midnight (day : Fin 5) : Instant :=
  ⟨day * dayMicros, by
    have := day.isLt
    unfold dayMicros maxDays
    omega⟩

def fallingInput : ResolvedForecastInput where
  symbol := "SPY"
  target := .close
  horizonUnit := .tradingDay
  seriesBasis := "raw"
  snapshotId := "falling"
  asOf := (midnight 3).inUtc
  observations := [(0, 10), (1, 4), (2, 6), (3, 1)].map fun o => ⟨(midnight o.1).inUtc, (midnight o.1).inUtc, o.2⟩
  targetTimes := [(midnight 4).inUtc]
  dataSources := [⟨"bars", "falling", (midnight 3).inUtc, ["close"]⟩]
  currency := some "USD"
  availabilityVerified := true

def fallingIdentity : ForecastRunIdentity := ⟨0, (midnight 3).inUtc, "baseline-drift@1", "features", none⟩

def fallingInputs : ValidatedInputs where
  observations := [(0, 10), (1, 4), (2, 6), (3, 1)].map fun o => ⟨midnight o.1, midnight o.1, o.2⟩
  targetTimes := [midnight 4]
  dataSources := [(midnight 3, ⟨"bars", "falling", (midnight 3).inUtc, ["close"]⟩)]
  asOf := midnight 3
  generatedAt := midnight 3

theorem falling_sources :
    canonicalDataSources asciiRules fallingInput.dataSources = .ok fallingInputs.dataSources := by
  have hItem : fallingInput.dataSources.mapM sourceItem = .ok [(⟨"bars", "falling", midnight 3⟩, {"close"})] := rfl
  rw [canonicalDataSources, hItem, ok_bind, grouped_of_pairwise (List.pairwise_singleton _ _), List.mapM_cons,
    sourceLine, Finset.sort_singleton]
  rfl

theorem falling_accepted :
    validatedInputs asciiRules fallingRequest fallingInput fallingIdentity = .ok fallingInputs := by
  apply validatedInputs_eq_ok_iff.mpr
  constructor
  case observations => rfl
  case dataSources => exact falling_sources
  case pinned =>
    rintro ⟨snapshotId, hNone, -⟩
    cases hNone
  case cutoff =>
    refine ⟨none, rfl, ?_⟩
    rintro ⟨requested, hNone, -⟩
    cases hNone
  all_goals decide +kernel

theorem fallingFitted_dispersed : fallingFitted.Dispersed 1 := by
  rw [Fitted.Dispersed]
  decide +kernel

theorem baseline_forecasts_fit_falling :
    (fallingFitted.predictQuantiles 1 [1 / 10, 1 / 2, 9 / 10] = .ok fallingPaths ∧
      fallingFitted.predict 1 = .ok [-2] ∧
      ∃ errors : Nat → List ℚ, 2 ≤ (errors 1).length ∧ PrefixErrors .drift [10, 4, 6, 1] 1 (errors 1)) ∧
    ∃ response, assembleBaselineForecastResponse asciiRules .drift fallingRequest fallingInput fallingIdentity =
        .ok response ∧
      response.forecasts.length = 1 ∧ ∀ s ∈ response.forecasts, s.Fits .close := by
  obtain ⟨hQuantiles, hResponse⟩ := baseline_forecasts_fit .drift
  have hPaths : fallingFitted.predictQuantiles 1 [1 / 10, 1 / 2, 9 / 10] = .ok fallingPaths := by decide +kernel
  obtain ⟨⟨errors, hErrors, -⟩, -, hMedian⟩ := hQuantiles fallingFitted 1 _ _ rfl hPaths
  have hDispersed : ∀ step ∈ List.range' 1 1, fallingFitted.Dispersed step := by
    intro step hStep
    obtain rfl := List.mem_singleton.mp hStep
    exact fallingFitted_dispersed
  have hReturned := Fitted.predictQuantiles_eq_ok.mpr
    ⟨le_rfl, validLevels_requested fallingRequest_sound, hDispersed, rfl⟩
  refine ⟨⟨hPaths, hMedian (1 / 2, [-2]) (by decide +kernel) rfl, errors, hErrors 1 (by decide)⟩, ?_⟩
  exact (hResponse _ _ _ _ _ fallingFitted _ fallingRequest_sound falling_accepted rfl hReturned).2
    (by decide +kernel) (by decide +kernel)

end StockApi.Baselines

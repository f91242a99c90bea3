import StockApi.Features.LastValues

/-!
# The indicator bundle

The bundle of valid observations is the bundle of causal series, and is accepted from
`required_observations` on.
-/

namespace StockApi.Features

open Checked Series

section Bundle

variable {K : Type} [Field K] [LinearOrder K] (m : MathFunctions K)
  (policyHash : IndicatorConfig K → String) (config : IndicatorConfig K)

/-- Observations that `calculate_indicators` accepts, apart from their number. -/
structure OhlcSeries.Valid (s : OhlcSeries K) : Prop where
  nonempty : s.closes ≠ []
  lengths : s.observedAt.length = s.closes.length ∧ s.opens.length = s.closes.length ∧
    s.highs.length = s.closes.length ∧ s.lows.length = s.closes.length
  chronological : s.observedAt.Pairwise (· < ·)
  nonnegative : (∀ v ∈ s.opens, 0 ≤ v) ∧ (∀ v ∈ s.highs, 0 ≤ v) ∧ ∀ v ∈ s.lows, 0 ≤ v
  positive : ∀ v ∈ s.closes, 0 < v
  hlc : ∀ x ∈ hlcOf s.highs s.lows s.closes, x.2.1 ≤ x.1 ∧ x.2.2 ≤ x.1 ∧ x.2.1 ≤ x.2.2
  within : ∀ x ∈ s.opens.zip (s.highs.zip s.lows), x.1 ≤ x.2.1 ∧ x.2.2 ≤ x.1

/-- The bundle as causal series. -/
def bundleOf (s : OhlcSeries K) : TechnicalIndicators K where
  calculationVersion := calculationVersion
  policyHash := policyHash config
  config := config
  observedAt := s.observedAt
  simpleReturn := running (lagged config.returnPeriod fractionalReturn) s.closes
  logReturn := running (lagged config.returnPeriod (logReturn m)) s.closes
  sma := running (lastSma config.smaPeriod) s.closes
  ema := running (lastEma config.emaPeriod) s.closes
  returnVolatility := running (lastVolatility m config.volatilityPeriod) s.closes
  rsi := running (lastRsi config.rsiPeriod) s.closes
  macd := {
    line := running (lastLine config.macdFastPeriod config.macdSlowPeriod) s.closes
    signal := running (lastSignal config.macdFastPeriod config.macdSlowPeriod config.macdSignalPeriod) s.closes
    histogram :=
      running (lastHistogram config.macdFastPeriod config.macdSlowPeriod config.macdSignalPeriod) s.closes }
  bollinger := {
    lower := running (lastLower m config.bollingerPeriod config.bollingerStandardDeviations) s.closes
    middle := running (lastSma config.bollingerPeriod) s.closes
    upper := running (lastUpper m config.bollingerPeriod config.bollingerStandardDeviations) s.closes }
  atr := running (lastAtr config.atrPeriod) (hlcOf s.highs s.lows s.closes)

variable {m policyHash config} {s : OhlcSeries K}

theorem indicatorBundle_eq (valid : s.Valid) :
    indicatorBundle m policyHash config s = .ok (bundleOf m policyHash config s) := by
  obtain ⟨hReturn, hSma, hEma, hRsi, hFast, -, hSignal, hBollinger, hAtr⟩ := config.positive
  obtain ⟨-, -, hHighs, hLows⟩ := valid.lengths
  rw [indicatorBundle, simpleReturns_eq hReturn valid.nonempty valid.positive, ok_bind,
    logReturns_eq m hReturn valid.nonempty valid.positive, ok_bind, sma_eq hSma valid.nonempty, ok_bind,
    ema_eq hEma valid.nonempty, ok_bind, returnVolatility_eq m config.volatility valid.nonempty valid.positive,
    ok_bind, rsi_eq hRsi valid.nonempty valid.positive, ok_bind,
    macd_eq hFast config.ordered hSignal valid.nonempty, ok_bind,
    bollingerBands_eq m hBollinger config.deviations valid.nonempty, ok_bind,
    averageTrueRange_eq hAtr valid.nonempty hHighs hLows valid.hlc, ok_bind]
  rfl

theorem OhlcSeries.Valid.length_hlcOf (valid : s.Valid) :
    (hlcOf s.highs s.lows s.closes).length = s.closes.length := by
  obtain ⟨-, -, hHighs, hLows⟩ := valid.lengths
  rw [hlcOf, List.length_zip, List.length_zip]
  omega

theorem validateOutput_bundleOf (valid : s.Valid) :
    validateOutput policyHash (bundleOf m policyHash config s) s.closes.length = .ok ⟨⟩ := by
  have hAligned : ¬ ((bundleOf m policyHash config s).observedAt.length ≠ s.closes.length ∨
      ∃ values ∈ (bundleOf m policyHash config s).series, values.length ≠ s.closes.length) := by
    rintro (hObserved | ⟨values, hMem, hLength⟩)
    · exact hObserved valid.lengths.1
    · simp only [TechnicalIndicators.series, bundleOf, List.mem_cons, List.not_mem_nil, or_false] at hMem
      rcases hMem with rfl | rfl | rfl | rfl | rfl | rfl | rfl | rfl | rfl | rfl | rfl | rfl | rfl <;>
        exact hLength ((length_running _ _).trans (by first | rfl | exact valid.length_hlcOf))
  have hVersion : ¬ (bundleOf m policyHash config s).calculationVersion ≠ calculationVersion := not_not.mpr rfl
  have hHash : ¬ (bundleOf m policyHash config s).policyHash ≠
      policyHash (bundleOf m policyHash config s).config := not_not.mpr rfl
  rw [validateOutput, refuseIf_of_not hAligned, ok_bind, refuseIf_of_not hVersion, ok_bind,
    refuseIf_of_not hHash]

/-- Valid observations are refused only when there are too few. -/
theorem calculateIndicators_eq (valid : s.Valid) (long : requiredObservations config ≤ s.closes.length) :
    calculateIndicators m policyHash config s = .ok (bundleOf m policyHash config s) := by
  obtain ⟨hObserved, hOpens, hHighs, hLows⟩ := valid.lengths
  obtain ⟨hOpen, hHigh, hLow⟩ := valid.nonnegative
  have hPos := List.length_pos_iff.mpr valid.nonempty
  have hNonempty : ∀ {α : Type} {xs : List α}, xs.length = s.closes.length → xs ≠ [] := by
    intro α xs hLength
    rw [← List.length_pos_iff, hLength]
    exact hPos
  have hTimes : chronologicalTimestamps s.observedAt = .ok s.observedAt := by
    rw [chronologicalTimestamps, refuseIf_of_not (not_not.mpr valid.chronological), ok_bind,
      refuseIf_of_not (by rw [List.isEmpty_iff]; exact hNonempty hObserved)]
    rfl
  have hEqual : equalLengths "observed_at, open, high, low, close"
      [s.observedAt.length, s.opens.length, s.highs.length, s.lows.length, s.closes.length] = .ok ⟨⟩ := by
    rw [equalLengths, refuseIf_eq_ok_iff, hObserved, hOpens, hHighs, hLows]
    simp
  have hOhlc : validateOhlc s.opens s.highs s.lows s.closes = .ok ⟨⟩ := by
    rw [validateOhlc, validateHlc_eq_ok valid.hlc, ok_bind, forM_eq_ok_iff]
    intro v hv
    obtain ⟨hBelow, hAbove⟩ := valid.within v.1 (List.fst_mem_of_mem_zipIdx hv)
    rw [refuseIf_eq_ok_iff, not_or]
    exact ⟨not_lt.mpr hBelow, not_lt.mpr hAbove⟩
  rw [calculateIndicators, hTimes, ok_bind,
    finiteSeries_eq_ok _ (hNonempty hOpens) (by simp) (fun _ => hOpen), ok_bind,
    finiteSeries_eq_ok _ (hNonempty hHighs) (by simp) (fun _ => hHigh), ok_bind,
    finiteSeries_eq_ok _ (hNonempty hLows) (by simp) (fun _ => hLow), ok_bind,
    finiteSeries_eq_ok _ valid.nonempty (fun _ => valid.positive) (by simp), ok_bind, hEqual, ok_bind, hOhlc,
    ok_bind, refuseIf_of_not (not_lt.mpr long), ok_bind, indicatorBundle_eq valid, ok_bind,
    validateOutput_bundleOf valid, ok_bind]
  rfl

/-! ### What is accepted is valid -/

theorem exists_mem_zipIdx {α : Type} {xs : List α} {x : α} (h : x ∈ xs) : ∃ i, (x, i) ∈ xs.zipIdx := by
  obtain ⟨i, hi⟩ := List.mem_iff_getElem?.mp h
  exact ⟨i, List.mk_mem_zipIdx_iff_getElem?.mpr hi⟩

omit [Field K] in
theorem finiteSeries_inv [Zero K] {values out : List K} {name : String} {positive nonnegative : Bool}
    (h : finiteSeries values name positive nonnegative = .ok out) : out = values ∧ values ≠ [] ∧
      (positive = true → ∀ v ∈ values, 0 < v) ∧ (nonnegative = true → ∀ v ∈ values, 0 ≤ v) := by
  simp only [finiteSeries, unit_bind_eq_ok_iff, forM_eq_ok_iff, refuseIf_eq_ok_iff, pure_eq_ok,
    Except.ok.injEq] at h
  obtain ⟨hEach, hNonempty, rfl⟩ := h
  refine ⟨rfl, fun hNil => hNonempty (List.isEmpty_iff.mpr hNil), ?_, ?_⟩
  · intro hPositive v hv
    obtain ⟨i, hi⟩ := exists_mem_zipIdx hv
    exact not_le.mp fun hLow => (hEach _ hi).1 ⟨hPositive, hLow⟩
  · intro hNonnegative v hv
    obtain ⟨i, hi⟩ := exists_mem_zipIdx hv
    exact not_lt.mp fun hLow => (hEach _ hi).2 ⟨hNonnegative, hLow⟩

theorem calculateIndicators_ok {output : TechnicalIndicators K}
    (h : calculateIndicators m policyHash config s = .ok output) :
    s.Valid ∧ requiredObservations config ≤ s.closes.length := by
  simp only [calculateIndicators, bind_eq_ok_iff] at h
  obtain ⟨timestamps, hTimes, opens, hOpens, highs, hHighs, lows, hLows, closes, hCloses, h⟩ := h
  obtain ⟨rfl, -, -, hOpen⟩ := finiteSeries_inv hOpens
  obtain ⟨rfl, -, -, hHigh⟩ := finiteSeries_inv hHighs
  obtain ⟨rfl, -, -, hLow⟩ := finiteSeries_inv hLows
  obtain ⟨rfl, hNonempty, hPositive, -⟩ := finiteSeries_inv hCloses
  simp only [chronologicalTimestamps, refuseIf_bind_eq_ok_iff, not_not, pure_eq_ok, Except.ok.injEq] at hTimes
  obtain ⟨hChronological, -, rfl⟩ := hTimes
  simp only [unit_bind_eq_ok_iff, equalLengths, validateOhlc, validateHlc, forM_eq_ok_iff, refuseIf_eq_ok_iff,
    not_not, not_or, not_lt] at h
  obtain ⟨_, hLengths, _, ⟨hHlc, hOpening⟩, _, hLong, -⟩ := h
  refine ⟨⟨hNonempty, ?_, hChronological, ⟨hOpen rfl, hHigh rfl, hLow rfl⟩, hPositive rfl, ?_, ?_⟩, hLong⟩
  · simp only [List.forall_mem_cons] at hLengths
    obtain ⟨⟨-, -, -, -, hObserved, -⟩, ⟨-, -, -, -, hOpens', -⟩, ⟨-, -, -, -, hHighs', -⟩, ⟨-, -, -, -, hLows', -⟩,
      -⟩ :=
      hLengths
    exact ⟨hObserved, hOpens', hHighs', hLows'⟩
  · intro x hx
    obtain ⟨i, hi⟩ := exists_mem_zipIdx hx
    obtain ⟨hOrder, hHighClose, hLowClose⟩ := hHlc _ hi
    exact ⟨hOrder, hHighClose, hLowClose⟩
  · intro x hx
    obtain ⟨i, hi⟩ := exists_mem_zipIdx hx
    have hEach := forM_eq_ok_iff.mp hOpening _ hi
    rw [refuseIf_eq_ok_iff, not_or, not_lt, not_lt] at hEach
    exact hEach

/-! ## Prefixes -/

def OhlcSeries.take (k : Nat) (s : OhlcSeries K) : OhlcSeries K :=
  ⟨s.observedAt.take k, s.opens.take k, s.highs.take k, s.lows.take k, s.closes.take k⟩

/-- The first `k` entries of every output. -/
def TechnicalIndicators.take (k : Nat) (output : TechnicalIndicators K) : TechnicalIndicators K :=
  { output with
    observedAt := output.observedAt.take k
    simpleReturn := output.simpleReturn.take k
    logReturn := output.logReturn.take k
    sma := output.sma.take k
    ema := output.ema.take k
    returnVolatility := output.returnVolatility.take k
    rsi := output.rsi.take k
    macd := ⟨output.macd.line.take k, output.macd.signal.take k, output.macd.histogram.take k⟩
    bollinger := ⟨output.bollinger.lower.take k, output.bollinger.middle.take k, output.bollinger.upper.take k⟩
    atr := output.atr.take k }

omit [Field K] [LinearOrder K] in
theorem hlcOf_take (k : Nat) (high low close : List K) :
    hlcOf (high.take k) (low.take k) (close.take k) = (hlcOf high low close).take k := by
  simp only [hlcOf, List.zip_eq_zipWith, List.take_zipWith]

theorem OhlcSeries.Valid.take (valid : s.Valid) {k : Nat} (pos : 0 < k) : (s.take k).Valid := by
  obtain ⟨hObserved, hOpens, hHighs, hLows⟩ := valid.lengths
  have hSub : ∀ {α : Type} {xs : List α} {x : α}, x ∈ xs.take k → x ∈ xs := fun h => List.mem_of_mem_take h
  constructor
  · rw [← List.length_pos_iff]
    have hPos := List.length_pos_iff.mpr valid.nonempty
    simp only [OhlcSeries.take, List.length_take]
    omega
  · simp only [OhlcSeries.take, List.length_take, hObserved, hOpens, hHighs, hLows, and_self]
  · exact valid.chronological.sublist (List.take_sublist k _)
  · exact ⟨fun v hv => valid.nonnegative.1 v (hSub hv), fun v hv => valid.nonnegative.2.1 v (hSub hv),
      fun v hv => valid.nonnegative.2.2 v (hSub hv)⟩
  · exact fun v hv => valid.positive v (hSub hv)
  · intro x hx
    simp only [OhlcSeries.take, hlcOf_take] at hx
    exact valid.hlc x (hSub hx)
  · intro x hx
    have hZip : (s.opens.take k).zip ((s.highs.take k).zip (s.lows.take k)) =
        (s.opens.zip (s.highs.zip s.lows)).take k := hlcOf_take k s.opens s.highs s.lows
    simp only [OhlcSeries.take, hZip] at hx
    exact valid.within x (hSub hx)

theorem bundleOf_take (k : Nat) :
    bundleOf m policyHash config (s.take k) = (bundleOf m policyHash config s).take k := by
  simp only [bundleOf, TechnicalIndicators.take, OhlcSeries.take, hlcOf_take, running_take]

/-! ## Warm-up -/

/-- Every output with the length of its warm-up. -/
def TechnicalIndicators.warmUps (output : TechnicalIndicators K) : List (IndicatorValues K × Nat) :=
  let config := output.config
  let signal := config.macdSlowPeriod + config.macdSignalPeriod - 2
  [(output.simpleReturn, config.returnPeriod), (output.logReturn, config.returnPeriod),
    (output.sma, config.smaPeriod - 1), (output.ema, config.emaPeriod - 1),
    (output.returnVolatility, config.volatilityPeriod), (output.rsi, config.rsiPeriod),
    (output.macd.line, config.macdSlowPeriod - 1), (output.macd.signal, signal),
    (output.macd.histogram, signal), (output.bollinger.lower, config.bollingerPeriod - 1),
    (output.bollinger.middle, config.bollingerPeriod - 1), (output.bollinger.upper, config.bollingerPeriod - 1),
    (output.atr, config.atrPeriod)]

omit [LinearOrder K] in
theorem warmUp_lagged (lag : Nat) (value : K → K → K) : WarmUp lag (lagged lag value) := by
  intro p
  unfold lagged
  split_ifs with h <;> simp [h]

/-- The recurrences over neighbouring observations warm up for one more observation. -/
theorem warmUp_pairs {α β γ : Type} {value : α → α → γ} {k : List γ → Option β} {w : Nat} (pos : 0 < w)
    (warm : WarmUp (w - 1) k) : WarmUp w fun p => k (pairs value p) := by
  have h := (delayed_pairs value).warmUp warm
  rwa [Nat.sub_add_cancel pos] at h

theorem warmUp_volatility {window : Nat} (pos : 0 < window) : WarmUp window (lastVolatility m window) :=
  warmUp_pairs pos (warmUp_windowed pos _)

theorem warmUp_rsi {window : Nat} (pos : 0 < window) : WarmUp window (lastRsi (K := K) window) := by
  have h : WarmUp window fun p => settled window gainsAndLosses (smoothRsi (K := K) window)
      (pairs (fun previous current => current - previous) p) := warmUp_pairs pos (warmUp_settled pos)
  intro p
  rw [lastRsi, Option.map_eq_none_iff]
  exact h p

theorem warmUp_atr {window : Nat} (pos : 0 < window) : WarmUp window (lastAtr (K := K) window) :=
  warmUp_pairs pos (warmUp_settled pos)

/-- A series of as many entries as there are observations, missing on its warm-up only. -/
def Aligned (n : Nat) (x : IndicatorValues K × Nat) : Prop :=
  x.1.length = n ∧ (∀ i, i < n → (x.1[i]? = some none ↔ i < x.2)) ∧
    ((∃ v, x.1.getLast? = some (some v)) ↔ x.2 < n)

omit [Field K] [LinearOrder K] in
theorem aligned_running {α : Type} {g : List α → Option K} {w : Nat} (warm : WarmUp w g) {xs : List α}
    (nonempty : xs ≠ []) : Aligned xs.length (running g xs, w) := by
  refine ⟨length_running g xs, fun i hi => warm.getElem?_running hi, ?_⟩
  rw [getLast?_running nonempty]
  have hLast := warm xs
  cases hValue : g xs with
  | none =>
    have hShort := hLast.mp hValue
    simp only [Option.some.injEq, reduceCtorEq, exists_false, false_iff]
    omega
  | some v =>
    have hLong : ¬ xs.length ≤ w := fun hShort => by rw [hLast.mpr hShort] at hValue; cases hValue
    simp only [Option.some.injEq, exists_eq', true_iff]
    omega

theorem aligned_bundleOf (valid : s.Valid) :
    ∀ x ∈ (bundleOf m policyHash config s).warmUps, Aligned s.closes.length x := by
  obtain ⟨hReturn, hSma, hEma, hRsi, hFast, hSlow, hSignal, hBollinger, hAtr⟩ := config.positive
  have hVolatility : 0 < config.volatilityPeriod := Nat.lt_of_lt_of_le Nat.two_pos config.volatility
  have hTail : config.macdSlowPeriod + config.macdSignalPeriod - 2 =
      config.macdSignalPeriod - 1 + (config.macdSlowPeriod - 1) := by omega
  have hHlc : hlcOf s.highs s.lows s.closes ≠ [] := by
    rw [← List.length_pos_iff, valid.length_hlcOf]
    exact List.length_pos_iff.mpr valid.nonempty
  intro x hx
  simp only [TechnicalIndicators.warmUps, bundleOf, hTail, List.mem_cons, List.not_mem_nil, or_false] at hx
  rcases hx with rfl | rfl | rfl | rfl | rfl | rfl | rfl | rfl | rfl | rfl | rfl | rfl | rfl
  · exact aligned_running (warmUp_lagged _ _) valid.nonempty
  · exact aligned_running (warmUp_lagged _ _) valid.nonempty
  · exact aligned_running (warmUp_windowed hSma _) valid.nonempty
  · exact aligned_running (warmUp_ema hEma) valid.nonempty
  · exact aligned_running (warmUp_volatility hVolatility) valid.nonempty
  · exact aligned_running (warmUp_rsi hRsi) valid.nonempty
  · exact aligned_running (warmUp_line hFast config.ordered) valid.nonempty
  · exact aligned_running (warmUp_signal hFast config.ordered hSignal) valid.nonempty
  · exact aligned_running (warmUp_histogram hFast config.ordered hSignal) valid.nonempty
  · exact aligned_running (warmUp_windowed hBollinger _) valid.nonempty
  · exact aligned_running (warmUp_windowed hBollinger _) valid.nonempty
  · exact aligned_running (warmUp_windowed hBollinger _) valid.nonempty
  · rw [← valid.length_hlcOf]
    exact aligned_running (warmUp_atr hAtr) hHlc

/-- The requirement is the longest warm-up and one more. -/
theorem requiredObservations_le_iff {output : TechnicalIndicators K} {n : Nat} :
    requiredObservations output.config ≤ n ↔ ∀ x ∈ output.warmUps, x.2 < n := by
  obtain ⟨hReturn, hSma, hEma, hRsi, hFast, hSlow, hSignal, hBollinger, hAtr⟩ := output.config.positive
  have hVolatility := output.config.volatility
  have hOrdered := output.config.ordered
  simp only [requiredObservations, TechnicalIndicators.warmUps, max_le_iff, List.forall_mem_cons,
    List.not_mem_nil, false_imp_iff, implies_true, and_true]
  omega

end Bundle

end StockApi.Features

import StockApi.Features.Bounds

/-!
# Prices in another unit

Returns, volatility and relative strength do not depend on the unit of the prices; the other outputs
are in that unit.
-/

namespace StockApi.Features

open Checked Series

section Scaling

variable {K : Type} [Field K] [LinearOrder K] [IsStrictOrderedRing K] {m : MathFunctions K} {c : K}

/-! ## Averages and deviations -/

theorem foldl_max_scale (pos : 0 < c) (xs : List K) (a : K) :
    (xs.map (c * ·)).foldl max (c * a) = c * xs.foldl max a := by
  induction xs generalizing a with
  | nil => rfl
  | cons x rest ih =>
    rw [List.map_cons, List.foldl_cons, List.foldl_cons, ← mul_max_of_nonneg _ _ pos.le, ih]

theorem greatestMagnitude_scale (pos : 0 < c) (values : List K) :
    greatestMagnitude (values.map (c * ·)) = c * greatestMagnitude values := by
  have hAbs : (values.map (c * ·)).map (fun v => |v|) = (values.map fun v => |v|).map (c * ·) := by
    rw [List.map_map, List.map_map]
    apply List.map_congr_left
    intro v _
    exact (abs_mul c v).trans (by rw [abs_of_pos pos]; rfl)
  rw [greatestMagnitude, hAbs, greatestMagnitude, ← foldl_max_scale pos, mul_zero]

theorem meanValue_scale (values : List K) : meanValue (values.map (c * ·)) = c * meanValue values := by
  have hSum : (values.map (c * ·)).sum = c * values.sum := by
    rw [List.sum_map_mul_left, List.map_id']
  rw [meanValue_eq, meanValue_eq, hSum, List.length_map, mul_div_assoc]

theorem deviationValue_scale (pos : 0 < c) (ddof : Nat) (values : List K) :
    deviationValue m ddof (values.map (c * ·)) = c * deviationValue m ddof values := by
  have hNormalized : (values.map (c * ·)).map (fun v => v / (c * greatestMagnitude values)) =
      values.map fun v => v / greatestMagnitude values := by
    rw [List.map_map]
    apply List.map_congr_left
    intro v _
    exact mul_div_mul_left v _ pos.ne'
  unfold deviationValue
  rw [greatestMagnitude_scale pos, hNormalized, List.length_map]
  by_cases hZero : greatestMagnitude values = 0
  · rw [if_pos hZero, if_pos (by rw [hZero, mul_zero]), mul_zero]
  · rw [if_neg hZero, if_neg (mul_ne_zero pos.ne' hZero), mul_assoc]

/-! ## Unchanged outputs -/

omit [IsStrictOrderedRing K] in
theorem fractionalReturn_scale (pos : 0 < c) (a b : K) : fractionalReturn (c * a) (c * b) = fractionalReturn a b := by
  rw [fractionalReturn, ← mul_sub, mul_div_mul_left _ _ pos.ne', fractionalReturn]

omit [IsStrictOrderedRing K] in
theorem logReturn_scale (lawful : m.Lawful) (pos : 0 < c) {a b : K} (ha : 0 < a) (hb : 0 < b) :
    logReturn m (c * a) (c * b) = logReturn m a b := by
  rw [logReturn, fractionalReturn_scale pos, lawful.log_mul pos ha, lawful.log_mul pos hb, logReturn]
  split_ifs
  · rfl
  · ring

omit [LinearOrder K] [IsStrictOrderedRing K] in
theorem lagged_scale {lag : Nat} {value : K → K → K} {p : List K}
    (same : ∀ a ∈ p, ∀ b ∈ p, value (c * a) (c * b) = value a b) :
    lagged lag value (p.map (c * ·)) = lagged lag value p := by
  have hGet : ∀ i, i < p.length → (p.map (c * ·)).getD i 0 = c * p.getD i 0 ∧ p.getD i 0 ∈ p := by
    intro i hi
    rw [List.getD_eq_getElem?_getD, List.getD_eq_getElem?_getD, List.getElem?_map, List.getElem?_eq_getElem hi]
    exact ⟨rfl, List.getElem_mem hi⟩
  unfold lagged
  rw [List.length_map]
  split_ifs with hWarm
  · rfl
  · obtain ⟨hPrevious, hPreviousMem⟩ := hGet (p.length - 1 - lag) (by omega)
    obtain ⟨hCurrent, hCurrentMem⟩ := hGet (p.length - 1) (by omega)
    rw [hPrevious, hCurrent, same _ hPreviousMem _ hCurrentMem]

theorem pairs_map {α β γ : Type} (f : α → α → γ) (g : β → α) (xs : List β) :
    pairs f (xs.map g) = pairs (fun a b => f (g a) (g b)) xs := by
  rw [pairs, ← List.map_tail, List.zipWith_map, pairs]

omit [IsStrictOrderedRing K] in
theorem lastVolatility_scale (pos : 0 < c) {window : Nat} (p : List K) :
    lastVolatility m window (p.map (c * ·)) = lastVolatility m window p := by
  have hSame : (fun a b => fractionalReturn (c * a) (c * b)) = fractionalReturn (K := K) :=
    funext fun a => funext fun b => fractionalReturn_scale pos a b
  rw [lastVolatility, pairs_map, hSame, lastVolatility]

theorem rsiValue_scale (pos : 0 < c) (gain loss : K) : rsiValue (c * gain) (c * loss) = rsiValue gain loss := by
  have hZero : ∀ x : K, c * x = 0 ↔ x = 0 := fun x => mul_eq_zero_iff_left pos.ne'
  simp only [rsiValue, hZero, mul_le_mul_iff_of_pos_left pos, mul_div_mul_left _ _ pos.ne']

theorem max_scale (pos : 0 < c) (v : K) : max (c * v) 0 = c * max v 0 := by
  rw [mul_max_of_nonneg _ _ pos.le, mul_zero]

theorem map_max_scale (pos : 0 < c) (f : K → K) (hf : ∀ v, f (c * v) = c * f v) (changes : List K) :
    (changes.map (c * ·)).map (fun v => max (f v) 0) = (changes.map fun v => max (f v) 0).map (c * ·) := by
  rw [List.map_map, List.map_map]
  apply List.map_congr_left
  intro v _
  simp only [Function.comp_apply, hf, max_scale pos]

theorem lastRsi_scale (pos : 0 < c) {window : Nat} (p : List K) :
    lastRsi window (p.map (c * ·)) = lastRsi window p := by
  have hPairs : pairs (fun a b => b - a) (p.map (c * ·)) = (pairs (fun a b => b - a) p).map (c * ·) := by
    rw [pairs_map, pairs, pairs, List.map_zipWith]
    congr 1
    funext a b
    ring
  have hSeed : ∀ changes : List K, gainsAndLosses (changes.map (c * ·)) =
      Prod.map (c * ·) (c * ·) (gainsAndLosses changes) := by
    intro changes
    rw [gainsAndLosses, map_max_scale pos (fun v => v) (fun _ => rfl),
      map_max_scale pos (fun v => -v) (fun v => (mul_neg c v).symm), meanValue_scale, meanValue_scale]
    rfl
  have hStep : ∀ (s : K × K) (v : K), smoothRsi window (Prod.map (c * ·) (c * ·) s) (c * v) =
      Prod.map (c * ·) (c * ·) (smoothRsi window s v) := by
    intro s v
    simp only [smoothRsi, Prod.map_apply', max_scale pos, ← mul_neg]
    congr 1 <;> ring
  rw [lastRsi, hPairs, settled_map hSeed hStep, Option.map_map, lastRsi]
  congr 1
  funext s
  exact rsiValue_scale pos s.1 s.2

/-! ## Outputs in the unit of the prices -/

omit [LinearOrder K] [IsStrictOrderedRing K] in
theorem windowed_scale {window : Nat} {value : List K → K} (scales : ∀ p, value (p.map (c * ·)) = c * value p)
    (p : List K) : windowed window value (p.map (c * ·)) = (windowed window value p).map (c * ·) := by
  unfold windowed
  rw [List.length_map]
  split_ifs
  · rfl
  · rw [← List.map_drop, scales]
    rfl

theorem lastSma_scale {window : Nat} (p : List K) :
    lastSma window (p.map (c * ·)) = (lastSma window p).map (c * ·) :=
  windowed_scale meanValue_scale p

theorem lastEma_scale {span : Nat} (p : List K) : lastEma span (p.map (c * ·)) = (lastEma span p).map (c * ·) := by
  apply settled_map meanValue_scale
  intro s v
  unfold smooth
  ring

omit [LinearOrder K] [IsStrictOrderedRing K] in
theorem difference_scale (a b : Option K) :
    difference (a.map (c * ·)) (b.map (c * ·)) = (difference a b).map (c * ·) := by
  cases a <;> cases b <;> simp [difference, mul_sub]

theorem lastLine_scale {fast slow : Nat} (p : List K) :
    lastLine fast slow (p.map (c * ·)) = (lastLine fast slow p).map (c * ·) := by
  rw [lastLine, lastEma_scale, lastEma_scale, difference_scale, lastLine]

omit [LinearOrder K] [IsStrictOrderedRing K] in
/-- A series in the unit of its observations. -/
theorem running_scale {α : Type} {f : α → α} {g : List α → Option K}
    (scales : ∀ p, g (p.map f) = (g p).map (c * ·)) (xs : List α) :
    running g (xs.map f) = (running g xs).map (Option.map (c * ·)) := by
  rw [running_comp_map, running_map]
  simp only [scales]

theorem lastSignal_scale {fast slow signal : Nat} (p : List K) :
    lastSignal fast slow signal (p.map (c * ·)) = (lastSignal fast slow signal p).map (c * ·) := by
  have hAvailable : (running (lastLine fast slow) (p.map (c * ·))).reduceOption =
      (running (lastLine fast slow) p).reduceOption.map (c * ·) := by
    rw [running_scale lastLine_scale, List.reduceOption_map]
  rw [lastSignal, hAvailable, lastEma_scale, lastSignal]

theorem lastHistogram_scale {fast slow signal : Nat} (p : List K) :
    lastHistogram fast slow signal (p.map (c * ·)) = (lastHistogram fast slow signal p).map (c * ·) := by
  rw [lastHistogram, lastLine_scale, lastSignal_scale, difference_scale, lastHistogram]

theorem lastLower_scale (pos : 0 < c) {window : Nat} {width : K} (p : List K) :
    lastLower m window width (p.map (c * ·)) = (lastLower m window width p).map (c * ·) := by
  apply windowed_scale
  intro sample
  rw [meanValue_scale, deviationValue_scale pos]
  ring

theorem lastUpper_scale (pos : 0 < c) {window : Nat} {width : K} (p : List K) :
    lastUpper m window width (p.map (c * ·)) = (lastUpper m window width p).map (c * ·) := by
  apply windowed_scale
  intro sample
  rw [meanValue_scale, deviationValue_scale pos]
  ring

def scaleHlc (c : K) (x : Hlc K) : Hlc K := (c * x.1, c * x.2.1, c * x.2.2)

theorem trueRange_scale (pos : 0 < c) (previous current : Hlc K) :
    trueRange (scaleHlc c previous) (scaleHlc c current) = c * trueRange previous current := by
  simp only [trueRange, scaleHlc, ← mul_sub, abs_mul, abs_of_pos pos, mul_max_of_nonneg _ _ pos.le]

theorem lastAtr_scale (pos : 0 < c) {window : Nat} (p : List (Hlc K)) :
    lastAtr window (p.map (scaleHlc c)) = (lastAtr window p).map (c * ·) := by
  have hPairs : pairs trueRange (p.map (scaleHlc c)) = (pairs trueRange p).map (c * ·) := by
    rw [pairs_map, pairs, pairs, List.map_zipWith]
    congr 1
    funext a b
    exact trueRange_scale pos a b
  rw [lastAtr, hPairs]
  apply settled_map meanValue_scale
  intro s v
  unfold smoothRange
  ring

/-! ## The bundle -/

def OhlcSeries.scale (c : K) (s : OhlcSeries K) : OhlcSeries K :=
  ⟨s.observedAt, s.opens.map (c * ·), s.highs.map (c * ·), s.lows.map (c * ·), s.closes.map (c * ·)⟩

def scaleValues (c : K) (values : IndicatorValues K) : IndicatorValues K := values.map (Option.map (c * ·))

/-- Returns, volatility and relative strength as they are, the others in the other unit. -/
def TechnicalIndicators.scale (c : K) (output : TechnicalIndicators K) : TechnicalIndicators K :=
  { output with
    sma := scaleValues c output.sma
    ema := scaleValues c output.ema
    macd := ⟨scaleValues c output.macd.line, scaleValues c output.macd.signal, scaleValues c output.macd.histogram⟩
    bollinger := ⟨scaleValues c output.bollinger.lower, scaleValues c output.bollinger.middle,
      scaleValues c output.bollinger.upper⟩
    atr := scaleValues c output.atr }

variable {s : OhlcSeries K}

omit [LinearOrder K] [IsStrictOrderedRing K] in
theorem zip_scale (xs ys zs : List K) :
    (xs.map (c * ·)).zip ((ys.map (c * ·)).zip (zs.map (c * ·))) = (xs.zip (ys.zip zs)).map (scaleHlc c) := by
  rw [List.zip_map, List.zip_map]
  rfl

theorem OhlcSeries.Valid.scale (valid : s.Valid) (pos : 0 < c) : (s.scale c).Valid := by
  have hNonneg : ∀ {xs : List K}, (∀ v ∈ xs, 0 ≤ v) → ∀ v ∈ xs.map (c * ·), 0 ≤ v := by
    intro xs h v hv
    obtain ⟨x, hx, rfl⟩ := List.mem_map.mp hv
    exact mul_nonneg pos.le (h x hx)
  obtain ⟨hOpens, hHighs, hLows⟩ := valid.nonnegative
  constructor
  · exact List.map_eq_nil_iff.not.mpr valid.nonempty
  · simpa only [OhlcSeries.scale, List.length_map] using valid.lengths
  · exact valid.chronological
  · exact ⟨hNonneg hOpens, hNonneg hHighs, hNonneg hLows⟩
  · intro v hv
    obtain ⟨x, hx, rfl⟩ := List.mem_map.mp hv
    exact mul_pos pos (valid.positive x hx)
  · intro x hx
    simp only [OhlcSeries.scale, hlcOf, zip_scale] at hx
    obtain ⟨y, hy, rfl⟩ := List.mem_map.mp hx
    simpa only [scaleHlc, mul_le_mul_iff_of_pos_left pos] using valid.hlc y hy
  · intro x hx
    simp only [OhlcSeries.scale, zip_scale] at hx
    obtain ⟨y, hy, rfl⟩ := List.mem_map.mp hx
    simpa only [scaleHlc, mul_le_mul_iff_of_pos_left pos] using valid.within y hy

omit [LinearOrder K] [IsStrictOrderedRing K] in
/-- A series that does not depend on the unit. -/
theorem running_same {g : List K → Option K} {xs : List K}
    (same : ∀ k, g ((xs.take k).map (c * ·)) = g (xs.take k)) :
    running g (xs.map (c * ·)) = running g xs := by
  rw [running_comp_map, running, running]
  exact List.map_congr_left fun i _ => same (i + 1)

theorem bundleOf_scale (lawful : m.Lawful) (pos : 0 < c) (policyHash : IndicatorConfig K → String)
    (config : IndicatorConfig K) (valid : s.Valid) :
    bundleOf m policyHash config (s.scale c) = (bundleOf m policyHash config s).scale c := by
  have hSimple : running (lagged config.returnPeriod fractionalReturn) (s.closes.map (c * ·)) =
      running (lagged config.returnPeriod fractionalReturn) s.closes :=
    running_same fun k => lagged_scale fun a _ b _ => fractionalReturn_scale pos a b
  have hLog : running (lagged config.returnPeriod (logReturn m)) (s.closes.map (c * ·)) =
      running (lagged config.returnPeriod (logReturn m)) s.closes :=
    running_same fun k => lagged_scale fun a ha b hb => logReturn_scale lawful pos
      (valid.positive a (List.mem_of_mem_take ha)) (valid.positive b (List.mem_of_mem_take hb))
  have hVolatility : running (lastVolatility m config.volatilityPeriod) (s.closes.map (c * ·)) =
      running (lastVolatility m config.volatilityPeriod) s.closes :=
    running_same fun k => lastVolatility_scale pos _
  have hRsi : running (lastRsi config.rsiPeriod) (s.closes.map (c * ·)) =
      running (lastRsi config.rsiPeriod) s.closes := running_same fun k => lastRsi_scale pos _
  simp only [bundleOf, TechnicalIndicators.scale, OhlcSeries.scale, scaleValues, hlcOf, zip_scale, hSimple, hLog,
    hVolatility, hRsi, running_scale lastSma_scale, running_scale lastEma_scale, running_scale lastLine_scale,
    running_scale lastSignal_scale, running_scale lastHistogram_scale, running_scale (lastLower_scale pos),
    running_scale (lastUpper_scale pos), running_scale (lastAtr_scale pos)]

end Scaling

end StockApi.Features

import StockApi.Features.Technical
import Mathlib.Algebra.BigOperators.Group.List.Basic
import Mathlib.Algebra.Order.BigOperators.Group.List
import Mathlib.Tactic.Ring
import Mathlib.Tactic.Linarith
import Mathlib.Tactic.FieldSimp

/-!
# The last entry of each indicator

Each indicator is the causal series of one function of the observations so far. The loops of the
source are these series.
-/

namespace StockApi.Features

open Checked Series

section Values

variable {K : Type} [Field K] [LinearOrder K] (m : MathFunctions K)

/-! ## Mean and deviation -/

def meanValue (values : List K) : K :=
  if greatestMagnitude values = 0 then 0
  else greatestMagnitude values *
    ((values.map fun v => v / greatestMagnitude values).sum / (values.length : K))

def deviationValue (ddof : Nat) (values : List K) : K :=
  if greatestMagnitude values = 0 then 0
  else greatestMagnitude values *
    m.sqrt ((((values.map fun v => v / greatestMagnitude values).map fun v =>
      (v - meanValue (values.map fun v => v / greatestMagnitude values)) ^ 2).sum) /
        ((values.length - ddof : Nat) : K))

theorem stableMean_eq {values : List K} (name : String) (h : values ≠ []) :
    stableMean values name = .ok (meanValue values) := by
  have hSome : ¬ values.isEmpty = true := by rwa [List.isEmpty_iff]
  unfold stableMean meanValue
  rw [refuseIf_of_not hSome, ok_bind]
  dsimp only
  split_ifs <;> rfl

theorem stableStandardDeviation_eq {values : List K} {ddof : Nat} (name : String)
    (h : ddof < values.length) :
    stableStandardDeviation m values ddof name = .ok (deviationValue m ddof values) := by
  have hSome : (values.map fun v => v / greatestMagnitude values) ≠ [] := by
    intro hNil
    rw [List.map_eq_nil_iff.mp hNil] at h
    exact Nat.not_lt_zero _ h
  unfold stableStandardDeviation deviationValue
  rw [refuseIf_of_not (not_not.mpr h), ok_bind]
  dsimp only
  split_ifs
  · rfl
  · rw [stableMean_eq _ hSome]
    rfl

/-! ## The last entries -/

def fractionalReturn (previous current : K) : K := (current - previous) / previous

def logReturn (previous current : K) : K :=
  if -(1 / 2) < fractionalReturn previous current ∧ fractionalReturn previous current < 1 / 2 then
    m.log1p (fractionalReturn previous current)
  else m.log current - m.log previous

/-- The value of the last observation and the one `lag` before it. -/
def lagged (lag : Nat) (value : K → K → K) (p : List K) : Option K :=
  if p.length ≤ lag then none
  else some (value (p.getD (p.length - 1 - lag) 0) (p.getD (p.length - 1) 0))

def lastSma (window : Nat) (p : List K) : Option K := windowed window meanValue p

def smooth (span : Nat) (previous v : K) : K :=
  2 / ((span : K) + 1) * v + (1 - 2 / ((span : K) + 1)) * previous

def lastEma (span : Nat) (p : List K) : Option K := settled span meanValue (smooth span) p

def lastVolatility (window : Nat) (p : List K) : Option K :=
  windowed window (deviationValue m 1) (pairs fractionalReturn p)

def gainsAndLosses (changes : List K) : K × K :=
  (meanValue (changes.map fun change => max change 0), meanValue (changes.map fun change => max (-change) 0))

def smoothRsi (window : Nat) (s : K × K) (change : K) : K × K :=
  (s.1 + (max change 0 - s.1) / (window : K), s.2 + (max (-change) 0 - s.2) / (window : K))

def lastRsi (window : Nat) (p : List K) : Option K :=
  (settled window gainsAndLosses (smoothRsi window) (pairs (fun previous current => current - previous) p)).map
    fun s => rsiValue s.1 s.2

def lastLine (fast slow : Nat) (p : List K) : Option K := difference (lastEma fast p) (lastEma slow p)

def lastSignal (fast slow signal : Nat) (p : List K) : Option K :=
  lastEma signal (running (lastLine fast slow) p).reduceOption

def lastHistogram (fast slow signal : Nat) (p : List K) : Option K :=
  difference (lastLine fast slow p) (lastSignal fast slow signal p)

def lastLower (window : Nat) (width : K) (p : List K) : Option K :=
  windowed window (fun sample => meanValue sample - width * deviationValue m 0 sample) p

def lastUpper (window : Nat) (width : K) (p : List K) : Option K :=
  windowed window (fun sample => meanValue sample + width * deviationValue m 0 sample) p

def smoothRange (window : Nat) (previous current : K) : K := previous + (current - previous) / (window : K)

def lastAtr (window : Nat) (p : List (Hlc K)) : Option K :=
  settled window meanValue (smoothRange window) (pairs trueRange p)

end Values

/-! ## Checks -/

section Accepted

variable {K : Type} [Zero K] [LinearOrder K]

theorem finiteSeries_eq_ok {values : List K} (name : String) {positive nonnegative : Bool}
    (nonempty : values ≠ []) (hPositive : positive = true → ∀ v ∈ values, 0 < v)
    (hNonnegative : nonnegative = true → ∀ v ∈ values, 0 ≤ v) :
    finiteSeries values name positive nonnegative = .ok values := by
  have hSome : ¬ values.isEmpty = true := by rwa [List.isEmpty_iff]
  have hEach : (values.zipIdx.forM fun v => do
      refuseIf (positive = true ∧ v.1 ≤ 0)
        (IndicatorError.valueError (name ++ "[" ++ toString v.2 ++ "] must be positive"))
      refuseIf (nonnegative = true ∧ v.1 < 0)
        (IndicatorError.valueError (name ++ "[" ++ toString v.2 ++ "] must be nonnegative"))) =
      (.ok ⟨⟩ : Except IndicatorError PUnit) := by
    rw [forM_eq_ok_iff]
    intro v hv
    have hMem : v.1 ∈ values := List.fst_mem_of_mem_zipIdx hv
    rw [refuseIf_bind_eq_ok_iff, refuseIf_eq_ok_iff]
    exact ⟨fun h => absurd (hPositive h.1 v.1 hMem) (not_lt.mpr h.2),
      fun h => absurd (hNonnegative h.1 v.1 hMem) (not_le.mpr h.2)⟩
  rw [finiteSeries, hEach, ok_bind, refuseIf_of_not hSome]
  rfl

theorem positivePeriod_eq_ok {value minimum : Nat} (name : String) (h : minimum ≤ value) :
    positivePeriod value name minimum = .ok value := by
  rw [positivePeriod, refuseIf_of_not (not_lt.mpr h)]
  rfl

end Accepted

/-! ## The loops -/

section Loops

variable {K : Type} [Field K] [LinearOrder K] (m : MathFunctions K) {data : List K}

theorem mapM_eq_map {α β : Type} {f : α → Except IndicatorError β} {g : α → β} {xs : List α}
    (h : ∀ x ∈ xs, f x = .ok (g x)) : xs.mapM f = .ok (xs.map g) := by
  apply mapM_of_forall₂
  rw [List.forall₂_map_right_iff, List.forall₂_same]
  exact h

/-- A loop over the positions that gives each its value is the series of that value. -/
theorem range_map_eq_running {α β : Type} {g : List α → Option β} {xs : List α} {entry : Nat → Option β}
    (h : ∀ i, i < xs.length → entry i = g (xs.take (i + 1))) :
    (List.range xs.length).map entry = running g xs := by
  rw [running]
  apply List.map_congr_left
  intro i hi
  exact h i (List.mem_range.mp hi)

theorem getD_take {α : Type} {xs : List α} {d : α} {i n : Nat} (h : i < n) :
    (xs.take n).getD i d = xs.getD i d := by
  rw [List.getD_eq_getElem?_getD, List.getD_eq_getElem?_getD, List.getElem?_take, if_pos h]

theorem windowed_take {α β : Type} {xs : List α} {window i : Nat} (value : List α → β) (h : i < xs.length)
    (pos : 0 < window) : windowed window value (xs.take (i + 1)) =
      if i < window - 1 then none else some (value (slice xs (i + 1 - window) (i + 1))) := by
  rw [windowed, List.length_take, Nat.min_eq_left h]
  by_cases hWarm : i < window - 1
  · rw [if_pos hWarm, if_pos (by omega)]
  · rw [if_neg hWarm, if_neg (by omega)]
    rfl

theorem length_slice {α : Type} {xs : List α} {i window : Nat} (h : i < xs.length) (long : window ≤ i + 1) :
    (slice xs (i + 1 - window) (i + 1)).length = window := by
  rw [slice, List.length_drop, List.length_take, Nat.min_eq_left h]
  omega

omit [LinearOrder K] in
theorem lagged_take {lag i : Nat} (value : K → K → K) (h : i < data.length) :
    lagged lag value (data.take (i + 1)) =
      if i < lag then none else some (value (data.getD (i - lag) 0) (data.getD i 0)) := by
  rw [lagged, List.length_take, Nat.min_eq_left h, getD_take (by omega), getD_take (by omega)]
  by_cases hLag : i < lag
  · rw [if_pos hLag, if_pos (by omega)]
  · rw [if_neg hLag, if_neg (by omega)]
    rfl

theorem simpleReturns_eq {lag : Nat} (pos : 0 < lag) (nonempty : data ≠ []) (positive : ∀ v ∈ data, 0 < v) :
    simpleReturns data lag = .ok (running (lagged lag fractionalReturn) data) := by
  rw [simpleReturns, finiteSeries_eq_ok _ nonempty (fun _ => positive) (by simp), ok_bind,
    positivePeriod_eq_ok _ pos, ok_bind, pure_eq_ok, Except.ok.injEq]
  apply range_map_eq_running
  intro i hi
  rw [lagged_take _ hi]
  rfl

theorem logReturns_eq {lag : Nat} (pos : 0 < lag) (nonempty : data ≠ []) (positive : ∀ v ∈ data, 0 < v) :
    logReturns m data lag = .ok (running (lagged lag (logReturn m)) data) := by
  rw [logReturns, finiteSeries_eq_ok _ nonempty (fun _ => positive) (by simp), ok_bind,
    positivePeriod_eq_ok _ pos, ok_bind, pure_eq_ok, Except.ok.injEq]
  apply range_map_eq_running
  intro i hi
  rw [lagged_take _ hi]
  dsimp only
  split_ifs with hLag hNear
  · rfl
  · rw [logReturn, if_pos (by exact hNear)]
    rfl
  · rw [logReturn, if_neg (by exact hNear)]

theorem sma_eq {window : Nat} (pos : 0 < window) (nonempty : data ≠ []) :
    sma data window = .ok (running (lastSma window) data) := by
  rw [sma, finiteSeries_eq_ok _ nonempty (by simp) (by simp), ok_bind, positivePeriod_eq_ok _ pos, ok_bind]
  rw [mapM_eq_map (g := fun i => lastSma window (data.take (i + 1)))]
  · rfl
  · intro i hi
    have hIndex := List.mem_range.mp hi
    rw [lastSma, windowed_take _ hIndex pos]
    split_ifs with hWarm
    · rfl
    · have hSome : slice data (i + 1 - window) (i + 1) ≠ [] := by
        rw [← List.length_pos_iff, length_slice hIndex (by omega)]
        exact pos
      rw [stableMean_eq _ hSome]
      rfl

theorem ema_eq {span : Nat} (pos : 0 < span) (nonempty : data ≠ []) :
    ema data span = .ok (running (lastEma span) data) := by
  rw [ema, finiteSeries_eq_ok _ nonempty (by simp) (by simp), ok_bind, positivePeriod_eq_ok _ pos, ok_bind]
  split_ifs with hShort
  · rw [pure_eq_ok, Except.ok.injEq]
    exact replicate_eq_running hShort
  · have hSeed : data.take span ≠ [] := by
      rw [← List.length_pos_iff, List.length_take]
      omega
    rw [stableMean_eq _ hSeed, ok_bind, pure_eq_ok, Except.ok.injEq]
    exact scanl_eq_running pos (not_lt.mp hShort)

/-! ### Series of neighbouring observations -/

omit [LinearOrder K] in
/-- The returns over one step are those of neighbouring observations. -/
theorem running_lagged_one (value : K → K → K) (nonempty : data ≠ []) :
    running (lagged 1 value) data = none :: (pairs value data).map some := by
  symm
  apply eq_running
  · rw [List.length_cons, List.length_map, (delayed_pairs value).length]
    have hPos := List.length_pos_iff.mpr nonempty
    omega
  · intro i hi
    rw [lagged_take _ hi]
    cases i with
    | zero => rfl
    | succ i =>
      rw [if_neg (by omega), List.getElem?_cons_succ, List.getElem?_map, pairs, List.getElem?_zipWith,
        List.getElem?_tail, List.getD_eq_getElem?_getD, List.getD_eq_getElem?_getD, Nat.add_sub_cancel,
        List.getElem?_eq_getElem (by omega : i < data.length), List.getElem?_eq_getElem hi]
      rfl

theorem reduceOption_map_some {α : Type} (xs : List α) : (xs.map some).reduceOption = xs := by
  rw [List.reduceOption, List.filterMap_map]
  exact List.filterMap_some

theorem returnVolatility_eq {window : Nat} (long : 2 ≤ window) (nonempty : data ≠ [])
    (positive : ∀ v ∈ data, 0 < v) :
    returnVolatility m data window = .ok (running (lastVolatility m window) data) := by
  rw [returnVolatility, finiteSeries_eq_ok _ nonempty (by simp) (by simp), ok_bind,
    positivePeriod_eq_ok _ long, ok_bind, simpleReturns_eq Nat.one_pos nonempty positive, ok_bind,
    running_lagged_one _ nonempty]
  rw [mapM_eq_map (g := fun i => lastVolatility m window (data.take (i + 1)))]
  · rfl
  · intro i hi
    have hIndex := List.mem_range.mp hi
    have hPairs : pairs fractionalReturn (data.take (i + 1)) = (pairs fractionalReturn data).take i :=
      (delayed_pairs fractionalReturn).take data (i + 1)
    have hLength : ((pairs fractionalReturn data).take i).length = i := by
      rw [List.length_take, (delayed_pairs fractionalReturn).length]
      omega
    rw [lastVolatility, hPairs, windowed, hLength]
    split_ifs with hWarm
    · rfl
    · have hSample : slice (none :: (pairs fractionalReturn data).map some) (i + 1 - window) (i + 1) =
          (((pairs fractionalReturn data).take i).drop (i - window)).map some := by
        have hStart : i + 1 - window = i - window + 1 := by omega
        rw [slice, hStart, List.take_succ_cons, List.drop_succ_cons, List.map_drop, List.map_take]
      have hAll : ((((pairs fractionalReturn data).take i).drop (i - window)).map some).any Option.isNone =
          false := by
        rw [List.any_map]
        exact List.any_eq_false.mpr fun _ _ => by simp
      have hEnough : 1 < (((pairs fractionalReturn data).take i).drop (i - window)).length := by
        rw [List.length_drop, hLength]
        omega
      rw [hSample]
      dsimp only
      rw [hAll, if_neg Bool.false_ne_true, reduceOption_map_some, stableStandardDeviation_eq m _ hEnough]
      rfl

/-- A recurrence on the values of neighbouring observations. -/
theorem pairs_recurrence {α β γ σ : Type} {value : α → α → γ} {xs : List α} {w : Nat} (seed : List γ → σ)
    (step : σ → γ → σ) (out : σ → β) (pos : 0 < w) (long : w < xs.length) :
    List.replicate w none ++ (((pairs value xs).drop w).scanl step (seed ((pairs value xs).take w))).map
        (fun s => some (out s)) =
      running (fun p => (settled w seed step (pairs value p)).map out) xs := by
  have hLong : w ≤ (pairs value xs).length := by
    rw [(delayed_pairs value).length]
    omega
  have hDelayed : List.replicate (min 1 xs.length) none ++ running (settled w seed step) (pairs value xs) =
      running (fun p => settled w seed step (pairs value p)) xs :=
    (delayed_pairs value).running (if_pos pos)
  rw [← running_map, ← hDelayed, ← scanl_eq_running pos hLong, Nat.min_eq_left (by omega : 1 ≤ xs.length),
    ← List.append_assoc, List.replicate_append_replicate, Nat.add_sub_cancel' pos, List.map_append,
    List.map_replicate, List.map_map]
  rfl

theorem missing_recurrence {α β γ σ : Type} {value : α → α → γ} {xs : List α} {w : Nat} {seed : List γ → σ}
    {step : σ → γ → σ} (out : σ → β) (short : xs.length ≤ w) :
    List.replicate xs.length none =
      running (fun p => (settled w seed step (pairs value p)).map out) xs := by
  apply eq_running List.length_replicate
  intro i hi
  rw [List.getElem?_replicate, if_pos hi, settled, (delayed_pairs value).length, List.length_take, if_pos]
  · rfl
  · omega

theorem rsi_eq {window : Nat} (pos : 0 < window) (nonempty : data ≠ []) (positive : ∀ v ∈ data, 0 < v) :
    rsi data window = .ok (running (lastRsi window) data) := by
  rw [rsi, finiteSeries_eq_ok _ nonempty (fun _ => positive) (by simp), ok_bind,
    positivePeriod_eq_ok _ pos, ok_bind]
  split_ifs with hShort
  · rw [pure_eq_ok, Except.ok.injEq]
    exact missing_recurrence _ hShort
  · have hSome : ∀ f : K → K, ((pairs (fun previous current => current - previous) data).take window).map f ≠ [] := by
      intro f
      rw [← List.length_pos_iff, List.length_map, List.length_take, (delayed_pairs _).length]
      omega
    dsimp only
    rw [stableMean_eq _ (hSome _), ok_bind, stableMean_eq _ (hSome _), ok_bind, pure_eq_ok, Except.ok.injEq]
    exact pairs_recurrence gainsAndLosses (smoothRsi window) (fun s => rsiValue s.1 s.2) pos (not_le.mp hShort)

/-! ### Moving average convergence -/

theorem getD_running {α β : Type} {g : List α → Option β} {xs : List α} {i : Nat} (h : i < xs.length) :
    (running g xs).getD i none = g (xs.take (i + 1)) := by
  rw [List.getD_eq_getElem?_getD, getElem?_running h]
  rfl

theorem warmUp_ema {span : Nat} (pos : 0 < span) : WarmUp (span - 1) (lastEma (K := K) span) :=
  warmUp_settled pos

omit [LinearOrder K] in
theorem difference_eq_none {a b : Option K} : difference a b = none ↔ a = none ∨ b = none := by
  cases a <;> cases b <;> simp [difference]

theorem warmUp_line {fast slow : Nat} (pos : 0 < fast) (ordered : fast < slow) :
    WarmUp (slow - 1) (lastLine (K := K) fast slow) := by
  intro p
  rw [lastLine, difference_eq_none, warmUp_ema pos p, warmUp_ema (by omega) p]
  omega

/-- The entries of the line that are there. -/
def availableLine (fast slow : Nat) (p : List K) : List K := (running (lastLine fast slow) p).reduceOption

theorem delayed_availableLine {fast slow : Nat} (pos : 0 < fast) (ordered : fast < slow) :
    Delayed (slow - 1) (availableLine (K := K) fast slow) :=
  delayed_reduceOption (warmUp_line pos ordered)

theorem macdLine_eq {fast slow : Nat} (pos : 0 < fast) (ordered : fast < slow) :
    macdLine (running (lastEma fast) data) (running (lastEma slow) data) slow data.length =
      running (lastLine fast slow) data := by
  apply range_map_eq_running
  intro i hi
  rw [getD_running hi, getD_running hi]
  split_ifs with hWarm
  · symm
    rw [warmUp_line pos ordered, List.length_take]
    omega
  · rfl

theorem available_drop {fast slow : Nat} (pos : 0 < fast) (ordered : fast < slow) :
    ((running (lastLine fast slow) data).drop (slow - 1)).reduceOption = availableLine fast slow data := by
  have hNone : ((running (lastLine fast slow) data).take (slow - 1)).reduceOption = [] := by
    rw [← running_take, ← List.length_eq_zero_iff]
    have hLength := (delayed_availableLine pos ordered).length (data.take (slow - 1))
    rw [availableLine, List.length_take] at hLength
    omega
  rw [availableLine]
  conv_rhs => rw [← List.take_append_drop (slow - 1) (running (lastLine fast slow) data)]
  rw [List.reduceOption_append, hNone, List.nil_append]

theorem macdSignalTail_eq {signal : Nat} (pos : 0 < signal) (available : List K) :
    macdSignalTail available signal = .ok (running (lastEma signal) available) := by
  cases available with
  | nil => rfl
  | cons v rest => exact ema_eq pos (List.cons_ne_nil v rest)

omit [LinearOrder K] in
theorem macdPlaced_eq {line : IndicatorValues K} {slow : Nat} {v : Option K × Nat}
    (h : v.1 = none ∨ line.getD (slow - 1 + v.2) none ≠ none) :
    macdPlaced line slow v = .ok (v.1, difference (line.getD (slow - 1 + v.2) none) v.1) := by
  obtain ⟨value, j⟩ := v
  cases value with
  | none =>
    simp only [macdPlaced]
    cases line.getD (slow - 1 + j) none <;> rfl
  | some value =>
    rcases h with hNone | hLine
    · cases hNone
    · obtain ⟨lineValue, hValue⟩ := Option.ne_none_iff_exists'.mp hLine
      simp only [macdPlaced]
      rw [hValue]
      rfl

/-- The tail at its positions is the signal. -/
theorem placed_signal {fast slow signal : Nat} (pos : 0 < fast) (ordered : fast < slow) (hSignal : 0 < signal) :
    List.replicate (min (slow - 1) data.length) none ++ running (lastEma signal) (availableLine fast slow data) =
      running (lastSignal fast slow signal) data :=
  (delayed_availableLine pos ordered).running (if_pos hSignal)

theorem warmUp_signal {fast slow signal : Nat} (pos : 0 < fast) (ordered : fast < slow) (hSignal : 0 < signal) :
    WarmUp (signal - 1 + (slow - 1)) (lastSignal (K := K) fast slow signal) :=
  (delayed_availableLine pos ordered).warmUp (warmUp_ema hSignal)

theorem warmUp_histogram {fast slow signal : Nat} (pos : 0 < fast) (ordered : fast < slow) (hSignal : 0 < signal) :
    WarmUp (signal - 1 + (slow - 1)) (lastHistogram (K := K) fast slow signal) := by
  intro p
  rw [lastHistogram, difference_eq_none, warmUp_line pos ordered p, warmUp_signal pos ordered hSignal p]
  omega

/-- The line is there wherever the tail is. -/
theorem macd_aligned {fast slow signal : Nat} (pos : 0 < fast) (ordered : fast < slow) {v : Option K × Nat}
    (h : v ∈ (running (lastEma signal) (availableLine fast slow data)).zipIdx) :
    v.1 = none ∨ (running (lastLine fast slow) data).getD (slow - 1 + v.2) none ≠ none := by
  have hIndex : v.2 < data.length - (slow - 1) := by
    have hBound := List.snd_lt_of_mem_zipIdx h
    rw [length_running, (delayed_availableLine pos ordered).length] at hBound
    omega
  right
  rw [getD_running (by omega), ne_eq, warmUp_line pos ordered, List.length_take]
  omega

theorem macd_eq {fast slow signal : Nat} (pos : 0 < fast) (ordered : fast < slow) (hSignal : 0 < signal)
    (nonempty : data ≠ []) :
    macd data fast slow signal = .ok ⟨running (lastLine fast slow) data,
      running (lastSignal fast slow signal) data, running (lastHistogram fast slow signal) data⟩ := by
  have hSlow : 0 < slow := by omega
  have hLength := (delayed_availableLine pos ordered).length data
  have hTail : List.replicate (min (slow - 1) data.length) none ++
      running (lastEma signal) (availableLine fast slow data) = running (lastSignal fast slow signal) data :=
    placed_signal pos ordered hSignal
  rw [macd, finiteSeries_eq_ok _ nonempty (by simp) (by simp), ok_bind, positivePeriod_eq_ok _ pos, ok_bind,
    positivePeriod_eq_ok _ hSlow, ok_bind, positivePeriod_eq_ok _ hSignal, ok_bind,
    refuseIf_of_not (not_le.mpr ordered), ok_bind, ema_eq pos nonempty, ok_bind, ema_eq hSlow nonempty, ok_bind]
  dsimp only
  rw [macdLine_eq pos ordered, available_drop pos ordered, macdSignalTail_eq hSignal, ok_bind,
    mapM_eq_map fun v hv => macdPlaced_eq (macd_aligned pos ordered hv), ok_bind, pure_eq_ok, Except.ok.injEq,
    List.map_map, List.map_map]
  have hFst : (Prod.fst ∘ fun v : Option K × Nat => (v.1, difference
      ((running (lastLine fast slow) data).getD (slow - 1 + v.2) none) v.1)) = Prod.fst := rfl
  rw [hFst, List.zipIdx_map_fst, hTail]
  congr 1
  apply eq_running
  · rw [List.length_append, List.length_replicate, List.length_map, List.length_zipIdx, length_running, hLength]
    omega
  · intro i hi
    rw [List.getElem?_append, List.length_replicate]
    split_ifs with hWarm
    · rw [List.getElem?_replicate, if_pos hWarm]
      symm
      rw [Option.some.injEq, warmUp_histogram pos ordered hSignal, List.length_take]
      omega
    · have hMin : min (slow - 1) data.length = slow - 1 := by omega
      have hEntry : (running (lastEma signal) (availableLine fast slow data))[i - (slow - 1)]? =
          some (lastSignal fast slow signal (data.take (i + 1))) := by
        have hSignalEntry : (running (lastSignal fast slow signal) data)[i]? = _ := getElem?_running hi
        rw [← hTail, List.getElem?_append, List.length_replicate, if_neg hWarm, hMin] at hSignalEntry
        exact hSignalEntry
      have hIndex : slow - 1 + (0 + (i - (slow - 1))) = i := by omega
      rw [hMin, List.getElem?_map, List.getElem?_zipIdx, hEntry]
      simp only [Option.map_some, Function.comp_apply, hIndex]
      rw [getD_running hi]
      rfl

/-! ### Bands and ranges -/

theorem lastSma_ne_none {window i : Nat} (pos : 0 < window) (h : i < data.length) (warm : ¬ i < window - 1) :
    ∃ sample, slice data (i + 1 - window) (i + 1) = sample ∧ sample.length = window ∧
      lastSma window (data.take (i + 1)) = some (meanValue sample) := by
  refine ⟨_, rfl, length_slice h (by omega), ?_⟩
  rw [lastSma, windowed_take _ h pos, if_neg warm]

theorem bollingerBands_eq {window : Nat} {width : K} (pos : 0 < window) (hWidth : 0 < width)
    (nonempty : data ≠ []) :
    bollingerBands m data window width = .ok ⟨running (lastLower m window width) data,
      running (lastSma window) data, running (lastUpper m window width) data⟩ := by
  have hFinite : positiveFinite width "standard_deviations" = .ok width := by
    rw [positiveFinite, refuseIf_of_not (not_le.mpr hWidth)]
    rfl
  rw [bollingerBands, finiteSeries_eq_ok _ nonempty (by simp) (by simp), ok_bind, positivePeriod_eq_ok _ pos,
    ok_bind, hFinite, ok_bind, sma_eq pos nonempty, ok_bind]
  rw [mapM_eq_map (g := fun i =>
    (lastLower m window width (data.take (i + 1)), lastUpper m window width (data.take (i + 1))))]
  · rw [ok_bind, pure_eq_ok, List.map_map, List.map_map]
    rfl
  · intro i hi
    have hIndex := List.mem_range.mp hi
    rw [lastLower, lastUpper, windowed_take _ hIndex pos, windowed_take _ hIndex pos]
    split_ifs with hWarm
    · rfl
    · obtain ⟨sample, hSample, hLength, hMean⟩ := lastSma_ne_none pos hIndex hWarm
      rw [getD_running hIndex, hMean, hSample, orRefuse_some, ok_bind]
      dsimp only
      rw [stableStandardDeviation_eq m _ (by omega), ok_bind]
      rfl

omit [Field K] in
theorem validateHlc_eq_ok {high low close : List K}
    (h : ∀ x ∈ high.zip (low.zip close), x.2.1 ≤ x.1 ∧ x.2.2 ≤ x.1 ∧ x.2.1 ≤ x.2.2) :
    validateHlc high low close = .ok ⟨⟩ := by
  rw [validateHlc, forM_eq_ok_iff]
  intro v hv
  obtain ⟨hOrder, hHigh, hLow⟩ := h v.1 (List.fst_mem_of_mem_zipIdx hv)
  rw [refuseIf_bind_eq_ok_iff, refuseIf_eq_ok_iff, not_or]
  exact ⟨not_lt.mpr hOrder, not_lt.mpr hHigh, not_lt.mpr hLow⟩

/-- High, low and close of each observation. -/
def hlcOf (high low close : List K) : List (Hlc K) := high.zip (low.zip close)

theorem averageTrueRange_eq {high low close : List K} {window : Nat} (pos : 0 < window) (nonempty : close ≠ [])
    (hHigh : high.length = close.length) (hLow : low.length = close.length)
    (h : ∀ x ∈ hlcOf high low close, x.2.1 ≤ x.1 ∧ x.2.2 ≤ x.1 ∧ x.2.1 ≤ x.2.2) :
    averageTrueRange high low close window = .ok (running (lastAtr window) (hlcOf high low close)) := by
  have hPos := List.length_pos_iff.mpr nonempty
  have hLength : (hlcOf high low close).length = close.length := by
    rw [hlcOf, List.length_zip, List.length_zip]
    omega
  have hEqual : equalLengths "high, low, close" [high.length, low.length, close.length] = .ok ⟨⟩ := by
    rw [equalLengths, refuseIf_eq_ok_iff, hHigh, hLow]
    simp
  rw [averageTrueRange, finiteSeries_eq_ok _ (List.length_pos_iff.mp (hHigh ▸ hPos)) (by simp) (by simp), ok_bind,
    finiteSeries_eq_ok _ (List.length_pos_iff.mp (hLow ▸ hPos)) (by simp) (by simp), ok_bind,
    finiteSeries_eq_ok _ nonempty (by simp) (by simp), ok_bind, hEqual, ok_bind, validateHlc_eq_ok h, ok_bind,
    positivePeriod_eq_ok _ pos, ok_bind, ← hLength]
  have hId : running (lastAtr window) (hlcOf high low close) =
      running (fun p => (settled window meanValue (smoothRange window) (pairs trueRange p)).map id)
        (hlcOf high low close) := by
    simp only [Option.map_id_fun, id]
    rfl
  rw [hId]
  split_ifs with hShort
  · rw [pure_eq_ok, Except.ok.injEq]
    exact missing_recurrence id hShort
  · have hSeed : (pairs trueRange (hlcOf high low close)).take window ≠ [] := by
      rw [← List.length_pos_iff, List.length_take, (delayed_pairs _).length]
      omega
    dsimp only
    rw [← hlcOf, stableMean_eq _ hSeed, ok_bind, pure_eq_ok, Except.ok.injEq]
    exact pairs_recurrence meanValue (smoothRange window) id pos (not_le.mp hShort)

end Loops

end StockApi.Features

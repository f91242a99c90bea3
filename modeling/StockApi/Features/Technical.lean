import StockApi.Library.Checked
import StockApi.Library.Numerals
import StockApi.Library.Series
import Mathlib.Algebra.Order.Field.Basic
import Mathlib.Algebra.Order.Group.Abs

/-!
# Technical indicators

The calculations take observations in chronological order and return a series of the same length in
which `none` stands for structural warm-up. Arithmetic is exact, so that no value overflows; square
root and logarithms are given.
-/

namespace StockApi.Features

open Checked

inductive IndicatorError where
  | valueError (message : String)
  | runtimeError (message : String)
deriving DecidableEq

abbrev IndicatorValues (K : Type) := List (Option K)

/-- The functions of `math` that are not arithmetic. -/
structure MathFunctions (K : Type) where
  sqrt : K → K
  log : K → K
  log1p : K → K

/-- The parameters `__post_init__` accepts. -/
structure IndicatorConfig (K : Type) [Zero K] [LT K] where
  returnPeriod : Nat
  smaPeriod : Nat
  emaPeriod : Nat
  volatilityPeriod : Nat
  rsiPeriod : Nat
  macdFastPeriod : Nat
  macdSlowPeriod : Nat
  macdSignalPeriod : Nat
  bollingerPeriod : Nat
  bollingerStandardDeviations : K
  atrPeriod : Nat
  positive : 0 < returnPeriod ∧ 0 < smaPeriod ∧ 0 < emaPeriod ∧ 0 < rsiPeriod ∧ 0 < macdFastPeriod ∧
    0 < macdSlowPeriod ∧ 0 < macdSignalPeriod ∧ 0 < bollingerPeriod ∧ 0 < atrPeriod
  volatility : 2 ≤ volatilityPeriod
  ordered : macdFastPeriod < macdSlowPeriod
  deviations : 0 < bollingerStandardDeviations

structure MacdValues (K : Type) where
  line : IndicatorValues K
  signal : IndicatorValues K
  histogram : IndicatorValues K

structure BollingerValues (K : Type) where
  lower : IndicatorValues K
  middle : IndicatorValues K
  upper : IndicatorValues K

structure TechnicalIndicators (K : Type) [Zero K] [LT K] where
  calculationVersion : String
  policyHash : String
  config : IndicatorConfig K
  observedAt : List Int
  simpleReturn : IndicatorValues K
  logReturn : IndicatorValues K
  sma : IndicatorValues K
  ema : IndicatorValues K
  returnVolatility : IndicatorValues K
  rsi : IndicatorValues K
  macd : MacdValues K
  bollinger : BollingerValues K
  atr : IndicatorValues K

def calculationVersion : String := "owned-indicators-v1"

section Checks

variable {K : Type} [Zero K] [LinearOrder K]

def requiredObservations (config : IndicatorConfig K) : Nat :=
  max (config.returnPeriod + 1) (max config.smaPeriod (max config.emaPeriod
    (max (config.volatilityPeriod + 1) (max (config.rsiPeriod + 1)
      (max (config.macdSlowPeriod + config.macdSignalPeriod - 1)
        (max config.bollingerPeriod (config.atrPeriod + 1)))))))

def finiteSeries (values : List K) (name : String) (positive nonnegative : Bool) :
    Except IndicatorError (List K) := do
  values.zipIdx.forM fun v => do
    refuseIf (positive = true ∧ v.1 ≤ 0)
      (.valueError (name ++ "[" ++ toString v.2 ++ "] must be positive"))
    refuseIf (nonnegative = true ∧ v.1 < 0)
      (.valueError (name ++ "[" ++ toString v.2 ++ "] must be nonnegative"))
  refuseIf (values.isEmpty = true) (.valueError (name ++ " must not be empty"))
  return values

def positivePeriod (value : Nat) (name : String) (minimum : Nat) : Except IndicatorError Nat := do
  refuseIf (value < minimum) (.valueError (name ++ " must be at least " ++ toString minimum))
  return value

def positiveFinite (value : K) (name : String) : Except IndicatorError K := do
  refuseIf (value ≤ 0) (.valueError (name ++ " must be positive and finite"))
  return value

/-- The instants of timezone-aware times, in UTC. -/
def chronologicalTimestamps (values : List Int) : Except IndicatorError (List Int) := do
  refuseIf (¬ values.Pairwise (· < ·)) (.valueError "observed_at must be strictly increasing")
  refuseIf (values.isEmpty = true) (.valueError "observed_at must not be empty")
  return values

def equalLengths (names : String) (lengths : List Nat) : Except IndicatorError Unit :=
  refuseIf (¬ ∀ a ∈ lengths, ∀ b ∈ lengths, a = b) (.valueError (names ++ " must have equal lengths"))

def validateHlc (high low close : List K) : Except IndicatorError Unit :=
  (high.zip (low.zip close)).zipIdx.forM fun v => do
    refuseIf (v.1.1 < v.1.2.1) (.valueError ("highs[" ++ toString v.2 ++
      "] must be greater than or equal to lows[" ++ toString v.2 ++ "]"))
    refuseIf (v.1.1 < v.1.2.2 ∨ v.1.2.2 < v.1.2.1)
      (.valueError ("closes[" ++ toString v.2 ++ "] must lie within its high-low range"))

def validateOhlc (opening high low close : List K) : Except IndicatorError Unit := do
  validateHlc high low close
  (opening.zip (high.zip low)).zipIdx.forM fun v =>
    refuseIf (v.1.2.1 < v.1.1 ∨ v.1.1 < v.1.2.2)
      (.valueError ("opens[" ++ toString v.2 ++ "] must lie within its high-low range"))

end Checks

section Calculations

variable {K : Type} [Field K] [LinearOrder K]

/-- `data[start:stop]`. -/
def slice {α : Type} (data : List α) (start stop : Nat) : List α := (data.take stop).drop start

/-- `max(abs(value) for value in values)`. -/
def greatestMagnitude (values : List K) : K := (values.map fun v => |v|).foldl max 0

def stableMean (values : List K) (name : String) : Except IndicatorError K := do
  refuseIf (values.isEmpty = true) (.valueError (name ++ " requires at least one value"))
  let scale := greatestMagnitude values
  if scale = 0 then return 0
  else return scale * ((values.map fun v => v / scale).sum / (values.length : K))

def stableStandardDeviation (m : MathFunctions K) (values : List K) (ddof : Nat) (name : String) :
    Except IndicatorError K := do
  refuseIf (¬ ddof < values.length)
    (.valueError (name ++ " has insufficient values for ddof=" ++ toString ddof))
  let scale := greatestMagnitude values
  if scale = 0 then return 0
  else
    let normalized := values.map fun v => v / scale
    let mean ← stableMean normalized (name ++ " mean")
    let sumSquared := (normalized.map fun v => (v - mean) ^ 2).sum
    return scale * m.sqrt (sumSquared / ((values.length - ddof : Nat) : K))

def simpleReturns (values : List K) (period : Nat) : Except IndicatorError (IndicatorValues K) := do
  let data ← finiteSeries values "values" true false
  let lag ← positivePeriod period "period" 1
  return (List.range data.length).map fun index =>
    if index < lag then none
    else
      let denominator := data.getD (index - lag) 0
      some ((data.getD index 0 - denominator) / denominator)

def logReturns (m : MathFunctions K) (values : List K) (period : Nat) :
    Except IndicatorError (IndicatorValues K) := do
  let data ← finiteSeries values "values" true false
  let lag ← positivePeriod period "period" 1
  return (List.range data.length).map fun index =>
    if index < lag then none
    else
      let previous := data.getD (index - lag) 0
      let relativeChange := (data.getD index 0 - previous) / previous
      if -(1 / 2) < relativeChange ∧ relativeChange < 1 / 2 then some (m.log1p relativeChange)
      else some (m.log (data.getD index 0) - m.log previous)

def sma (values : List K) (period : Nat) : Except IndicatorError (IndicatorValues K) := do
  let data ← finiteSeries values "values" false false
  let window ← positivePeriod period "period" 1
  (List.range data.length).mapM fun index =>
    if index < window - 1 then return none
    else do
      let mean ← stableMean (slice data (index + 1 - window) (index + 1)) "simple moving average"
      return some mean

def ema (values : List K) (period : Nat) : Except IndicatorError (IndicatorValues K) := do
  let data ← finiteSeries values "values" false false
  let span ← positivePeriod period "period" 1
  if data.length < span then return List.replicate data.length none
  else
    let seed ← stableMean (data.take span) "EMA seed"
    let alpha : K := 2 / ((span : K) + 1)
    let smoothed := (data.drop span).scanl (fun previous v => alpha * v + (1 - alpha) * previous) seed
    return List.replicate (span - 1) none ++ smoothed.map some

def returnVolatility (m : MathFunctions K) (values : List K) (period : Nat) :
    Except IndicatorError (IndicatorValues K) := do
  let data ← finiteSeries values "values" false false
  let window ← positivePeriod period "period" 2
  let returns ← simpleReturns data 1
  (List.range data.length).mapM fun index =>
    if index < window then return none
    else
      let sample := slice returns (index + 1 - window) (index + 1)
      if sample.any Option.isNone then return none
      else do
        let deviation ← stableStandardDeviation m sample.reduceOption 1 "return volatility"
        return some deviation

def rsiValue (averageGain averageLoss : K) : K :=
  if averageGain = 0 ∧ averageLoss = 0 then 50
  else if averageLoss = 0 then 100
  else if averageGain = 0 then 0
  else if averageGain ≤ averageLoss then
    let relativeStrength := averageGain / averageLoss
    100 * relativeStrength / (1 + relativeStrength)
  else
    let inverseStrength := averageLoss / averageGain
    100 / (1 + inverseStrength)

def rsi (values : List K) (period : Nat) : Except IndicatorError (IndicatorValues K) := do
  let data ← finiteSeries values "values" true false
  let window ← positivePeriod period "period" 1
  if data.length ≤ window then return List.replicate data.length none
  else
    let changes := Series.pairs (fun previous current => current - previous) data
    let averageGain ← stableMean ((changes.take window).map fun change => max change 0) "RSI average gain"
    let averageLoss ← stableMean ((changes.take window).map fun change => max (-change) 0) "RSI average loss"
    let averages := (changes.drop window).scanl
      (fun s change => (s.1 + (max change 0 - s.1) / (window : K), s.2 + (max (-change) 0 - s.2) / (window : K)))
      (averageGain, averageLoss)
    return List.replicate window none ++ averages.map fun s => some (rsiValue s.1 s.2)

/-- The difference of two values that are both there. -/
def difference (a b : Option K) : Option K := a.bind fun x => b.map fun y => x - y

def macdLine (fastValues slowValues : IndicatorValues K) (slow length : Nat) : IndicatorValues K :=
  (List.range length).map fun index =>
    if index < slow - 1 then none
    else difference (fastValues.getD index none) (slowValues.getD index none)

def macdSignalTail (availableLine : List K) (signalWindow : Nat) : Except IndicatorError (IndicatorValues K) :=
  if availableLine.isEmpty then .ok [] else ema availableLine signalWindow

/-- Signal and histogram at an offset of the tail. -/
def macdPlaced (line : IndicatorValues K) (slow : Nat) (v : Option K × Nat) :
    Except IndicatorError (Option K × Option K) :=
  match v.1 with
  | none => .ok (none, none)
  | some value => do
    let lineValue ← orRefuse (line.getD (slow - 1 + v.2) none) (.runtimeError "MACD alignment invariant failed")
    return (some value, some (lineValue - value))

def macd (values : List K) (fastPeriod slowPeriod signalPeriod : Nat) :
    Except IndicatorError (MacdValues K) := do
  let data ← finiteSeries values "values" false false
  let fast ← positivePeriod fastPeriod "fast_period" 1
  let slow ← positivePeriod slowPeriod "slow_period" 1
  let signalWindow ← positivePeriod signalPeriod "signal_period" 1
  refuseIf (slow ≤ fast) (.valueError "fast_period must be less than slow_period")
  let fastValues ← ema data fast
  let slowValues ← ema data slow
  let line := macdLine fastValues slowValues slow data.length
  let availableLine := (line.drop (slow - 1)).reduceOption
  let signalTail ← macdSignalTail availableLine signalWindow
  -- the values of the tail at their positions from `slow - 1` on
  let placed ← signalTail.zipIdx.mapM (macdPlaced line slow)
  let missing := List.replicate (min (slow - 1) data.length) none
  return ⟨line, missing ++ placed.map Prod.fst, missing ++ placed.map Prod.snd⟩

def bollingerBands (m : MathFunctions K) (values : List K) (period : Nat) (standardDeviations : K) :
    Except IndicatorError (BollingerValues K) := do
  let data ← finiteSeries values "values" false false
  let window ← positivePeriod period "period" 1
  let width ← positiveFinite standardDeviations "standard_deviations"
  let middle ← sma data window
  let bands ← (List.range data.length).mapM fun index =>
    if index < window - 1 then return (none, none)
    else do
      let mean ← orRefuse (middle.getD index none) (.runtimeError "Bollinger alignment invariant failed")
      let sample := slice data (index + 1 - window) (index + 1)
      let deviation ← stableStandardDeviation m sample 0 "Bollinger standard deviation"
      return (some (mean - width * deviation), some (mean + width * deviation))
  return ⟨bands.map Prod.fst, middle, bands.map Prod.snd⟩

/-- High, low and close of one observation. -/
abbrev Hlc (K : Type) := K × K × K

def trueRange (previous current : Hlc K) : K :=
  max (current.1 - current.2.1) (max |current.1 - previous.2.2| |current.2.1 - previous.2.2|)

/-- The true ranges start with the second observation. -/
def averageTrueRange (highs lows closes : List K) (period : Nat) :
    Except IndicatorError (IndicatorValues K) := do
  let high ← finiteSeries highs "highs" false false
  let low ← finiteSeries lows "lows" false false
  let close ← finiteSeries closes "closes" false false
  equalLengths "high, low, close" [high.length, low.length, close.length]
  validateHlc high low close
  let window ← positivePeriod period "period" 1
  if close.length ≤ window then return List.replicate close.length none
  else
    let trueRanges := Series.pairs trueRange (high.zip (low.zip close))
    let seed ← stableMean (trueRanges.take window) "ATR seed"
    let averages := (trueRanges.drop window).scanl
      (fun previous current => previous + (current - previous) / (window : K)) seed
    return List.replicate window none ++ averages.map some

/-! ## The bundle -/

structure OhlcSeries (K : Type) where
  observedAt : List Int
  opens : List K
  highs : List K
  lows : List K
  closes : List K

/-- The outputs, for series that are validated and long enough. -/
def indicatorBundle (m : MathFunctions K) (policyHash : IndicatorConfig K → String)
    (config : IndicatorConfig K) (s : OhlcSeries K) : Except IndicatorError (TechnicalIndicators K) := do
  let simpleReturn ← simpleReturns s.closes config.returnPeriod
  let logReturn ← logReturns m s.closes config.returnPeriod
  let smaValues ← sma s.closes config.smaPeriod
  let emaValues ← ema s.closes config.emaPeriod
  let volatilityValues ← returnVolatility m s.closes config.volatilityPeriod
  let rsiValues ← rsi s.closes config.rsiPeriod
  let macdValues ← macd s.closes config.macdFastPeriod config.macdSlowPeriod config.macdSignalPeriod
  let bollinger ← bollingerBands m s.closes config.bollingerPeriod config.bollingerStandardDeviations
  let atr ← averageTrueRange s.highs s.lows s.closes config.atrPeriod
  return {
    calculationVersion := calculationVersion
    policyHash := policyHash config
    config := config
    observedAt := s.observedAt
    simpleReturn := simpleReturn
    logReturn := logReturn
    sma := smaValues
    ema := emaValues
    returnVolatility := volatilityValues
    rsi := rsiValues
    macd := macdValues
    bollinger := bollinger
    atr := atr }

def TechnicalIndicators.series (output : TechnicalIndicators K) : List (IndicatorValues K) :=
  [output.simpleReturn, output.logReturn, output.sma, output.ema, output.returnVolatility, output.rsi,
    output.macd.line, output.macd.signal, output.macd.histogram, output.bollinger.lower,
    output.bollinger.middle, output.bollinger.upper, output.atr]

def validateOutput (policyHash : IndicatorConfig K → String) (output : TechnicalIndicators K)
    (length : Nat) : Except IndicatorError Unit := do
  refuseIf (output.observedAt.length ≠ length ∨ ∃ values ∈ output.series, values.length ≠ length)
    (.runtimeError "indicator output alignment invariant failed")
  refuseIf (output.calculationVersion ≠ calculationVersion)
    (.runtimeError "indicator calculation-version invariant failed")
  refuseIf (output.policyHash ≠ policyHash output.config)
    (.runtimeError "indicator policy-identity invariant failed")

/-- `policyHash` is the SHA-256 identity of the formulas and their parameters. -/
def calculateIndicators (m : MathFunctions K) (policyHash : IndicatorConfig K → String)
    (config : IndicatorConfig K) (s : OhlcSeries K) : Except IndicatorError (TechnicalIndicators K) := do
  let timestamps ← chronologicalTimestamps s.observedAt
  let openValues ← finiteSeries s.opens "opens" false true
  let highValues ← finiteSeries s.highs "highs" false true
  let lowValues ← finiteSeries s.lows "lows" false true
  let closeValues ← finiteSeries s.closes "closes" true false
  equalLengths "observed_at, open, high, low, close"
    [timestamps.length, openValues.length, highValues.length, lowValues.length, closeValues.length]
  validateOhlc openValues highValues lowValues closeValues
  refuseIf (closeValues.length < requiredObservations config)
    (.valueError ("indicator bundle requires at least " ++ toString (requiredObservations config) ++
      " observations; received " ++ toString closeValues.length))
  let output ← indicatorBundle m policyHash config ⟨timestamps, openValues, highValues, lowValues, closeValues⟩
  validateOutput policyHash output closeValues.length
  return output

end Calculations

end StockApi.Features

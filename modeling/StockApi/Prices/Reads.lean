import StockApi.Bars.History
import StockApi.Adjustment.Window
import StockApi.Library.KeysetPages

/-!
# Price reads

The newest page of a stored series before an exclusive bound, and the newest page of the adjusted window of
one factor set. Both answers name the bound of the next older page.
-/

namespace StockApi.Prices

open Checked Relational
open Bars (Bar BarValues)
open Adjustment (AdjustedOhlcvRow AdjustedPriceLineage AdjustedPriceWindow AdjustedPriceError AdjustmentFactorSet
  RawOhlcvVersion CorporateActionCollectionReceipt AdjustmentFactorSetReceipt adjustOhlcvWindow)

/-! ## Queries -/

def pathChar (c : Char) : Bool :=
  ('A' ≤ c && c ≤ 'Z') || ('a' ≤ c && c ≤ 'z') || ('0' ≤ c && c ≤ '9') || c = '.' || c = '-' || c = '_' || c = ':'

/-- A symbol the route accepts, `^[A-Za-z0-9.\-_:]+$` of at most 32 characters. -/
structure PathSymbol where
  text : String
  chars : text.toList.all pathChar = true
  bounds : 1 ≤ text.length ∧ text.length ≤ 32

/-- `symbol.strip().upper()` of a text without blanks. -/
def PathSymbol.normalized (symbol : PathSymbol) : String := symbol.text.toUpper

/-- A half-open range of instants in microseconds. -/
structure TimeRange where
  start : Option Int
  stop : Option Int
  ordered : ∀ s ∈ start, ∀ e ∈ stop, s < e

/-- The range with another exclusive bound, as the filters are validated. -/
def TimeRange.before (range : TimeRange) (bound : Int) : Except String TimeRange :=
  if h : ∀ s ∈ range.start, s < bound then
    .ok ⟨range.start, some bound, fun s hs _ he => Option.mem_some_iff.mp he ▸ h s hs⟩
  else .error "start must be earlier than end"

def TimeRange.Contains (range : TimeRange) (ts : Int) : Prop :=
  (∀ s ∈ range.start, s ≤ ts) ∧ ∀ e ∈ range.stop, ts < e

instance (range : TimeRange) (ts : Int) : Decidable (range.Contains ts) := inferInstanceAs (Decidable (_ ∧ _))

structure PriceFilters where
  range : TimeRange
  timespan : String
  multiplier : Int
  source : String
  adjustmentBasis : String
  limit : Nat
  multiplierBound : 1 ≤ multiplier
  sourceBounds : 1 ≤ source.length ∧ source.length ≤ 64
  limitBound : 1 ≤ limit

structure AdjustedPriceFilters where
  factorSetId : String
  range : TimeRange
  limit : Nat
  idForm : Text.IsHash factorSetId
  limitBound : 1 ≤ limit

/-! ## Answers -/

structure PricePage where
  limit : Nat
  hasMore : Bool
  nextEnd : Option Int

structure PriceBar where
  timestamp : Int
  values : BarValues
  fetchedAt : Int
  asOf : Int
  recordedAt : Int
deriving DecidableEq

structure PricesResponse where
  symbol : String
  source : String
  timespan : String
  multiplier : Int
  adjustmentBasis : String
  dataAsOf : Option Int
  dataRecordedAt : Option Int
  count : Nat
  page : PricePage
  bars : List PriceBar

/-- The columns of a row are nonnegative. -/
def nonnegativeValues (v : BarValues) : Prop :=
  (0 ≤ v.opening ∧ 0 ≤ v.high ∧ 0 ≤ v.low ∧ 0 ≤ v.close ∧ 0 ≤ v.volume) ∧ (∀ w ∈ v.vwap, 0 ≤ w) ∧
    ∀ n ∈ v.tradeCount, 0 ≤ n

instance (v : BarValues) : Decidable (nonnegativeValues v) := inferInstanceAs (Decidable (_ ∧ _))

/-- The constraints of the fields and `validate_ohlc` of both kinds of bar. -/
def validateValues (v : BarValues) : Except String PUnit := do
  refuseIf (¬ nonnegativeValues v) "Input should be greater than or equal to 0"
  refuseIf (v.high < v.low) "high must be greater than or equal to low"
  refuseIf (v.high < max v.opening v.close) "high must be greater than or equal to open and close"
  refuseIf (min v.opening v.close < v.low) "low must be less than or equal to open and close"

def priceBar (row : Bar) : Except String PriceBar := do
  validateValues row.values
  refuseIf (¬ (row.key.ts ≤ row.fetchedAt ∧ row.fetchedAt ≤ row.asOf ∧ row.asOf ≤ row.recordedAt))
    "timestamp, fetched_at, as_of, and recorded_at must be nondecreasing"
  return ⟨row.key.ts, row.values, row.fetchedAt, row.asOf, row.recordedAt⟩

def validateTextLength (value : String) (most : Nat) : Except String PUnit := do
  refuseIf (value.length < 1) "String should have at least 1 character"
  refuseIf (most < value.length) ("String should have at most " ++ toString most ++ " characters")

def pricePage (limit : Nat) (hasMore : Bool) (nextEnd : Option Int) : Except String PricePage := do
  refuseIf (limit < 1) "Input should be greater than or equal to 1"
  refuseIf (hasMore ≠ nextEnd.isSome) "next_end must be set if and only if has_more is true"
  return ⟨limit, hasMore, nextEnd⟩

def validateSeries (symbol source : String) (multiplier : Int) : Except String PUnit := do
  validateTextLength symbol 32
  validateTextLength source 64
  refuseIf (multiplier < 1) "Input should be greater than or equal to 1"

/-! ## The stored series -/

def inSeries (symbol : String) (filters : PriceFilters) (row : Bar) : Prop :=
  row.key.symbol = symbol ∧ row.key.source = filters.source ∧ row.key.timespan = filters.timespan ∧
    row.key.multiplier = filters.multiplier ∧ row.key.adjustmentBasis = filters.adjustmentBasis

instance (symbol : String) (filters : PriceFilters) (row : Bar) : Decidable (inSeries symbol filters row) :=
  inferInstanceAs (Decidable (_ ∧ _))

/-- The rows of the series in the range. -/
def rowsInRange (bars : List Bar) (symbol : String) (filters : PriceFilters) : List Bar :=
  bars.filter fun row => decide (inSeries symbol filters row ∧ filters.range.Contains row.key.ts)

def buildPricesStatement (bars : List Bar) (symbol : String) (filters : PriceFilters) : List Bar :=
  (orderDesc (fun row => row.key.ts) (rowsInRange bars symbol filters)).take (filters.limit + 1)

def readPrices (bars : List Bar) (symbol : PathSymbol) (filters : PriceFilters) : Except String PricesResponse := do
  let rows := buildPricesStatement bars symbol.normalized filters
  let hasMore := decide (filters.limit < rows.length)
  let retained := rows.take filters.limit
  let nextEnd := if hasMore then retained.getLast?.map fun row => row.key.ts else none
  let priceBars ← retained.reverse.mapM priceBar
  let page ← pricePage filters.limit hasMore nextEnd
  validateSeries symbol.normalized filters.source filters.multiplier
  return {
    symbol := symbol.normalized
    source := filters.source
    timespan := filters.timespan
    multiplier := filters.multiplier
    adjustmentBasis := filters.adjustmentBasis
    dataAsOf := (priceBars.map PriceBar.asOf).max?
    dataRecordedAt := (priceBars.map PriceBar.recordedAt).max?
    count := priceBars.length
    page := page
    bars := priceBars }

/-! ## The adjusted window -/

structure LoadedAdjustedPriceEvidence where
  factorSet : AdjustmentFactorSet
  rawRows : List RawOhlcvVersion
  splitCollectionReceipt : CorporateActionCollectionReceipt
  dividendCollectionReceipt : CorporateActionCollectionReceipt
  factorSetReceipt : AdjustmentFactorSetReceipt

inductive AppError where
  | factorSetNotFound
  | factorSetMismatch
  | evidenceUnavailable
  | validation (message : String)
deriving DecidableEq

structure AdjustedPriceBar where
  rawInputOrdinal : Nat
  timestamp : Int
  values : BarValues
  rawVersionRecordedAt : Int
  rawAvailableAt : Int
  availableAt : Int
  priceFactorF64Be : String
  volumeFactorF64Be : String
deriving DecidableEq

/-- The lineage of a response: that of the window with its first and last observation. -/
structure LineageSchema where
  lineage : AdjustedPriceLineage
  rawCoverageStart : CivilTime.Instant
  rawCoverageEnd : CivilTime.Instant
deriving DecidableEq

structure AdjustedPricesResponse where
  symbol : String
  source : String
  timespan : String
  multiplier : Int
  adjustmentBasis : String
  factorSetId : String
  dataAvailableAt : CivilTime.Instant
  count : Nat
  page : PricePage
  lineage : LineageSchema
  bars : List AdjustedPriceBar

def valuesOf (row : AdjustedOhlcvRow) : BarValues :=
  ⟨row.opening, row.high, row.low, row.close, row.volume, row.vwap, row.tradeCount⟩

/-- `^[0-9a-f]{16}$`. -/
def IsBinary64Hex (s : String) : Prop := s.toList.length = 16 ∧ s.toList.all Text.hexChar = true

instance (s : String) : Decidable (IsBinary64Hex s) := inferInstanceAs (Decidable (_ ∧ _))

def adjustedPriceBar (row : AdjustedOhlcvRow) : Except String AdjustedPriceBar := do
  refuseIf (¬ (IsBinary64Hex row.priceFactorF64Be ∧ IsBinary64Hex row.volumeFactorF64Be))
    "String should match pattern '^[0-9a-f]\x7b16\x7d$'"
  validateValues (valuesOf row)
  refuseIf (¬ (row.timestamp ≤ row.rawVersionRecordedAt ∧ row.rawVersionRecordedAt ≤ row.rawAvailableAt ∧
      row.rawAvailableAt ≤ row.availableAt)) "raw and derived availability times must be nondecreasing"
  return ⟨row.rawInputOrdinal, row.timestamp.micros, valuesOf row, row.rawVersionRecordedAt.micros,
    row.rawAvailableAt.micros, row.availableAt.micros, row.priceFactorF64Be, row.volumeFactorF64Be⟩

def validateHash (value : String) : Except String PUnit :=
  refuseIf (¬ Text.IsHash value) "String should match pattern '^sha256:[0-9a-f]\x7b64\x7d$'"

/-- The validators of `AdjustedPriceLineage`. -/
def validateLineage (schema : LineageSchema) : Except String LineageSchema := do
  let lineage := schema.lineage
  validateHash lineage.factorSetId
  validateTextLength lineage.policyVersion 64
  validateHash lineage.policyHash
  validateHash lineage.splitCollectionId
  validateHash lineage.dividendCollectionId
  refuseIf (¬ (lineage.actionVersionIds.Pairwise (· < ·) ∧ ∀ id ∈ lineage.actionVersionIds, Text.IsHash id))
    "action_version_ids must be unique sorted content identities"
  refuseIf (lineage.rawInputCount < 1) "Input should be greater than or equal to 1"
  refuseIf (5000 < lineage.rawInputCount) "Input should be less than or equal to 5000"
  refuseIf (lineage.adjustmentBasis ≠ "split_dividend_adjusted") "adjusted lineage must use split_dividend_adjusted"
  refuseIf (schema.rawCoverageEnd < schema.rawCoverageStart) "raw coverage bounds are reversed"
  refuseIf (schema.rawCoverageEnd.date ≠ lineage.anchorDate) "raw coverage end must be the factor anchor"
  refuseIf (lineage.factorSetAvailableAt < lineage.factorSetRecordedAt)
    "factor-set availability precedes its recording"
  refuseIf (lineage.dataAvailableAt ≠ lineage.factorSetAvailableAt)
    "data availability must be the factor-set receipt time"
  return schema

def lineageSchema (window : AdjustedPriceWindow) : Except AppError LineageSchema := do
  let first ← orRefuse window.rows.head? .evidenceUnavailable
  let last ← orRefuse window.rows.getLast? .evidenceUnavailable
  (validateLineage ⟨window.lineage, first.timestamp, last.timestamp⟩).mapError .validation

section Adjusted

variable (runtime : Runtime) (policyHash : String)
  (loadAdjustedPriceEvidence : String → Except AppError LoadedAdjustedPriceEvidence)

/-- The complete window of a factor set. -/
def fullWindow (symbol : String) (factorSetId : String) :
    Except AppError (LoadedAdjustedPriceEvidence × AdjustedPriceWindow) := do
  let evidence ← loadAdjustedPriceEvidence factorSetId
  refuseIf (evidence.factorSet.symbol ≠ symbol) AppError.factorSetMismatch
  let window ← (adjustOhlcvWindow runtime policyHash evidence.factorSet evidence.rawRows
    evidence.splitCollectionReceipt evidence.dividendCollectionReceipt evidence.factorSetReceipt 0 none).mapError
      fun _ => .evidenceUnavailable
  return (evidence, window)

def readAdjustedPrices (symbol : PathSymbol) (filters : AdjustedPriceFilters) :
    Except AppError AdjustedPricesResponse := do
  let (evidence, window) ← fullWindow runtime policyHash loadAdjustedPriceEvidence symbol.normalized filters.factorSetId
  let rows := window.rows.filter fun row => decide (filters.range.Contains row.timestamp.micros)
  let selectedDesc := rows.reverse.take (filters.limit + 1)
  let hasMore := decide (filters.limit < selectedDesc.length)
  let pageRows := (selectedDesc.take filters.limit).reverse
  let nextEnd := if hasMore then pageRows.head?.map fun row => (row.timestamp.micros : Int) else none
  let lineage ← lineageSchema window
  let bars ← (pageRows.mapM adjustedPriceBar).mapError .validation
  let page ← (pricePage filters.limit hasMore nextEnd).mapError .validation
  (validateSeries symbol.normalized "polygon_open_close" 1).mapError .validation
  refuseIf (evidence.factorSet.factorSetId ≠ lineage.lineage.factorSetId)
    (AppError.validation "response and lineage factor-set identities differ")
  return {
    symbol := symbol.normalized
    source := "polygon_open_close"
    timespan := "day"
    multiplier := 1
    adjustmentBasis := "split_dividend_adjusted"
    factorSetId := evidence.factorSet.factorSetId
    dataAvailableAt := window.lineage.dataAvailableAt
    count := bars.length
    page := page
    lineage := lineage
    bars := bars }

end Adjusted

end StockApi.Prices

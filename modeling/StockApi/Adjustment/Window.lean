import StockApi.Adjustment.Factors
import StockApi.Library.FloatValue

/-!
# Adjusted windows

The projection of one factor artifact and its complete raw rows to adjusted rows. A float is its value; the
product of two floats is rounded to the nearest one.
-/

namespace StockApi.Adjustment

open Checked CivilTime Relational Text

structure AdjustedPriceError where
  message : String
deriving DecidableEq

/-- One exact receipted row. -/
structure RawOhlcvVersion where
  symbol : String
  timestamp : Instant
  timespan : String
  multiplier : Int
  source : String
  adjustmentBasis : String
  versionRecordedAt : Instant
  availableAt : Instant
  opening : ℚ
  high : ℚ
  low : ℚ
  close : ℚ
  volume : ℚ
  vwap : Option ℚ
  tradeCount : Option Int
deriving DecidableEq

structure CorporateActionCollectionReceipt where
  collectionId : String
  collectionRecordedAt : Instant
  availableAt : Instant
deriving DecidableEq

structure AdjustmentFactorSetReceipt where
  factorSetId : String
  factorSetRecordedAt : Instant
  availableAt : Instant
deriving DecidableEq

structure AdjustedOhlcvRow where
  rawInputOrdinal : Nat
  symbol : String
  timestamp : Instant
  timespan : String
  multiplier : Int
  source : String
  adjustmentBasis : String
  rawVersionRecordedAt : Instant
  rawAvailableAt : Instant
  availableAt : Instant
  opening : ℚ
  high : ℚ
  low : ℚ
  close : ℚ
  volume : ℚ
  vwap : Option ℚ
  tradeCount : Option Int
  priceFactorF64Be : String
  volumeFactorF64Be : String
deriving DecidableEq

structure AdjustedPriceLineage where
  factorSetId : String
  factorSetRecordedAt : Instant
  factorSetAvailableAt : Instant
  policyVersion : String
  policyHash : String
  cutoff : Instant
  anchorDate : Date
  splitCollectionId : String
  splitCollectionRecordedAt : Instant
  splitCollectionAvailableAt : Instant
  dividendCollectionId : String
  dividendCollectionRecordedAt : Instant
  dividendCollectionAvailableAt : Instant
  actionVersionIds : List String
  maxInputAvailableAt : Instant
  dataAvailableAt : Instant
  rawInputCount : Nat
  adjustmentBasis : String
deriving DecidableEq

structure AdjustedPriceWindow where
  rows : List AdjustedOhlcvRow
  lineage : AdjustedPriceLineage
  startOrdinal : Nat
  stopOrdinal : Nat
deriving DecidableEq

def adjustedPriceBasis : String := "split_dividend_adjusted"

/-! ## The artifact and its payload -/

section Artifact

variable (runtime : Runtime) (policyHash : String)

def rootKeys : List String :=
  ["actions", "anchor_date", "cutoff", "factors", "format", "policy_hash", "policy_version", "raw_inputs", "symbol"]

def splitKeys : List String :=
  ["adjustment_type", "effective_date", "provider_event_id", "split_from", "split_to", "version_id"]

def dividendKeys : List String :=
  ["cash_amount", "currency", "distribution_type", "ex_dividend_date", "provider_event_id", "version_id"]

/-- `_decimal_binary64` of a finite decimal. -/
def decimalBinary64 (value : ℚ) (label : String) : Except AdjustedPriceError ℚ :=
  orRefuse (toFloat value) ⟨label ++ " must be positive finite binary64"⟩

def floatBits (value : ℚ) : String := String.ofList (Float64.hexChars 16 (binary64Word value))

/-- `_decimal_text`, which rounds to the precision first. -/
def canonicalDecimalText (value : ℚ) (label : String) : Except AdjustedPriceError String := do
  let normalized ← orRefuse (decimal34.apply value) ⟨label ++ " cannot be represented as a canonical decimal"⟩
  return decimalText normalized

def payloadRawRow (raw : RawCloseVersion) : Except AdjustedPriceError Document := do
  let close ← decimalBinary64 raw.close "factor raw close"
  let text ← canonicalDecimalText raw.close "factor raw close"
  return .obj [("adjustment_basis", .plain raw.adjustmentBasis), ("available_at", .plain raw.availableAt.timestamp),
    ("close_decimal", .plain text), ("close_f64_be", .plain (floatBits close)), ("multiplier", .int raw.multiplier),
    ("observation_date", .plain raw.observationDate.isoformat), ("observed_at", .plain raw.observedAt.timestamp),
    ("source", .plain raw.source), ("timespan", .plain raw.timespan),
    ("version_recorded_at", .plain raw.versionRecordedAt.timestamp)]

def validatePayloadRawProjection (item : (RawCloseVersion × Document) × Nat) : Except AdjustedPriceError PUnit := do
  refuseIf (item.1.2.isObject = false) (AdjustedPriceError.mk "factor payload contains an unsupported raw input")
  let expected ← payloadRawRow item.1.1
  refuseIf (runtime.dumps item.1.2 ≠ runtime.dumps expected)
    (AdjustedPriceError.mk ("factor raw input projection differs at ordinal " ++ toString item.2))

def validatePayloadFactor (item : (AdjustmentFactor × Document) × Nat) : Except AdjustedPriceError PUnit := do
  refuseIf (item.1.2.isObject = false) (AdjustedPriceError.mk "factor payload contains an unsupported row")
  refuseIf (item.1.1.rawInputOrdinal ≠ item.2 ∨ runtime.dumps item.1.2 ≠ runtime.dumps (factorDocument item.1.1))
    (AdjustedPriceError.mk "published factor projection does not match the artifact")

/-- One row of the action versions; its version identity. -/
def payloadVersionId (expectedKeys : List String) (label : String) (row : Document) :
    Except AdjustedPriceError String := do
  refuseIf (¬ (row.HasKeys expectedKeys ∧ ∀ k ∈ expectedKeys, ((row.field k).text?).isSome = true))
    (AdjustedPriceError.mk ("factor payload contains an unsupported " ++ label ++ " action row"))
  let versionId := plainText (row.field "version_id")
  refuseIf (¬ IsHash versionId) (AdjustedPriceError.mk "factor payload action version identity is malformed")
  return versionId
where
  plainText : Document → String
    | .str (.plain s) => s
    | _ => ""

def validateArtifactProjection (artifact : AdjustmentFactorSet) (document : Document) :
    Except AdjustedPriceError PUnit := do
  refuseIf (¬ document.HasKeys rootKeys)
    (AdjustedPriceError.mk "factor payload root does not have the exact canonical structure")
  let missing := AdjustedPriceError.mk "factor payload is missing required projections"
  let splits ← orRefuse ((document.field "actions").get? "splits") missing
  let dividends ← orRefuse ((document.field "actions").get? "dividends") missing
  refuseIf (¬ (document.field "format" = .plain "stockapi-adjustment-factor-set-v1" ∧
      document.field "policy_version" = .plain artifact.policyVersion ∧
      document.field "policy_hash" = .plain artifact.policyHash ∧ document.field "symbol" = .plain artifact.symbol ∧
      document.field "cutoff" = .plain artifact.cutoff.timestamp ∧
      document.field "anchor_date" = .plain artifact.anchorDate.isoformat ∧
      (document.field "actions").HasKeys ["dividends", "splits"] ∧
      splits.HasKeys ["collection_id", "versions"] ∧ dividends.HasKeys ["collection_id", "versions"] ∧
      splits.field "collection_id" = .plain artifact.splitCollectionId ∧
      dividends.field "collection_id" = .plain artifact.dividendCollectionId))
    (AdjustedPriceError.mk "factor payload root projection does not match the artifact")
  let rows := AdjustedPriceError.mk "factor payload row projections must be arrays"
  let payloadRaw ← orRefuse (document.field "raw_inputs").items? rows
  let payloadFactors ← orRefuse (document.field "factors").items? rows
  let versions := AdjustedPriceError.mk "factor payload action versions must be arrays"
  let splitVersions ← orRefuse (splits.field "versions").items? versions
  let dividendVersions ← orRefuse (dividends.field "versions").items? versions
  let splitIds ← splitVersions.mapM (payloadVersionId splitKeys "split")
  let dividendIds ← dividendVersions.mapM (payloadVersionId dividendKeys "dividend")
  refuseIf (¬ (splitIds ++ dividendIds).Nodup ∨ artifact.actionVersionIds ≠ orderAsc id (splitIds ++ dividendIds))
    (AdjustedPriceError.mk "factor action-version projection does not match the artifact")
  refuseIf (payloadRaw.length ≠ artifact.rawInputs.length ∨ payloadFactors.length ≠ artifact.factors.length)
    (AdjustedPriceError.mk "factor payload row counts do not match the artifact")
  (artifact.rawInputs.zip payloadRaw).zipIdx.forM (validatePayloadRawProjection runtime)
  (artifact.factors.zip payloadFactors).zipIdx.forM (validatePayloadFactor runtime)

/-- `_validated_artifact`. -/
def validatedArtifact (value : AdjustmentFactorSet) : Except AdjustedPriceError AdjustmentFactorSet := do
  refuseIf (value.policyVersion ≠ adjustmentFactorPolicyVersion)
    (AdjustedPriceError.mk "factor policy version is not supported")
  refuseIf (value.policyHash ≠ policyHash) (AdjustedPriceError.mk "factor policy hash is not supported")
  refuseIf (value.factorSetId ≠ "sha256:" ++ runtime.sha256 value.canonicalPayload)
    (AdjustedPriceError.mk "factor set content address does not match its payload")
  let document ← orRefuse (runtime.loads value.canonicalPayload) ⟨"factor canonical payload is not valid JSON"⟩
  refuseIf (document.isObject = false) (AdjustedPriceError.mk "factor canonical payload must be an object")
  refuseIf (runtime.dumps document ≠ value.canonicalPayload)
    (AdjustedPriceError.mk "factor payload is not exact canonical JSON")
  validateArtifactProjection runtime value document
  return value

end Artifact

/-! ## Receipts and raw rows -/

def collectionReceipt (value : CorporateActionCollectionReceipt) (expectedId : String) (cutoff : Instant)
    (label : String) : Except AdjustedPriceError CorporateActionCollectionReceipt := do
  refuseIf (value.collectionId ≠ expectedId)
    (AdjustedPriceError.mk (label ++ " receipt does not match the factor set"))
  refuseIf (¬ (value.collectionRecordedAt ≤ value.availableAt ∧ value.availableAt ≤ cutoff))
    (AdjustedPriceError.mk (label ++ " receipt is outside the factor cutoff"))
  return value

def factorSetReceipt (value : AdjustmentFactorSetReceipt) (expectedId : String) (minimumAvailableAt : Instant) :
    Except AdjustedPriceError AdjustmentFactorSetReceipt := do
  refuseIf (value.factorSetId ≠ expectedId)
    (AdjustedPriceError.mk "factor-set receipt does not match the artifact")
  refuseIf (¬ (minimumAvailableAt ≤ value.factorSetRecordedAt ∧ value.factorSetRecordedAt ≤ value.availableAt))
    (AdjustedPriceError.mk "factor-set receipt precedes its content or inputs")
  return value

def validateCardinality (artifact : AdjustmentFactorSet) (rows : List RawOhlcvVersion) :
    Except AdjustedPriceError PUnit := do
  refuseIf (artifact.rawInputs = []) (AdjustedPriceError.mk "factor set raw window must not be empty")
  refuseIf (artifact.rawInputs.length ≠ artifact.factors.length)
    (AdjustedPriceError.mk "factor set does not contain one factor per raw input")
  refuseIf (rows.length ≠ artifact.rawInputs.length)
    (AdjustedPriceError.mk "raw_rows must cover the complete factor window")

def finiteNonnegativeFloat (value : ℚ) (label : String) : Except AdjustedPriceError PUnit :=
  refuseIf (value < 0) (AdjustedPriceError.mk (label ++ " must be finite and nonnegative"))

def validateOhlc (opening high low close : ℚ) (label : String) : Except AdjustedPriceError PUnit :=
  refuseIf (high < low ∨ high < max opening close ∨ min opening close < low)
    (AdjustedPriceError.mk (label ++ " OHLC values are inconsistent"))

def validateRawRow (artifact : AdjustmentFactorSet) (item : (RawOhlcvVersion × RawCloseVersion) × Nat) :
    Except AdjustedPriceError RawOhlcvVersion := do
  let row := item.1.1
  let expected := item.1.2
  refuseIf (row.symbol ≠ artifact.symbol ∨ row.timestamp ≠ expected.observedAt ∨
      row.timestamp.date ≠ expected.observationDate ∨ row.timespan ≠ expected.timespan ∨
      row.multiplier ≠ expected.multiplier ∨ row.source ≠ expected.source ∨
      row.adjustmentBasis ≠ expected.adjustmentBasis ∨ row.versionRecordedAt ≠ expected.versionRecordedAt ∨
      row.availableAt ≠ expected.availableAt)
    (AdjustedPriceError.mk ("raw receipt identity differs at ordinal " ++ toString item.2))
  refuseIf (row.timespan ≠ "day" ∨ row.multiplier ≠ 1)
    (AdjustedPriceError.mk "adjusted reads require the exact day/1 raw series")
  refuseIf (row.source ≠ "polygon_open_close" ∨ row.adjustmentBasis ≠ "raw")
    (AdjustedPriceError.mk "adjusted reads require the exact polygon_open_close raw input series")
  refuseIf (¬ (row.timestamp ≤ row.versionRecordedAt ∧ row.versionRecordedAt ≤ row.availableAt ∧
      row.availableAt ≤ artifact.cutoff))
    (AdjustedPriceError.mk "raw receipt timestamps are outside the factor cutoff")
  finiteNonnegativeFloat row.opening "raw open"
  finiteNonnegativeFloat row.high "raw high"
  finiteNonnegativeFloat row.low "raw low"
  finiteNonnegativeFloat row.close "raw close"
  finiteNonnegativeFloat row.volume "raw volume"
  row.vwap.toList.forM fun vwap => finiteNonnegativeFloat vwap "raw vwap"
  refuseIf (∃ count ∈ row.tradeCount, count < 0)
    (AdjustedPriceError.mk "raw trade_count must be a nonnegative integer or null")
  validateOhlc row.opening row.high row.low row.close "raw"
  let close ← decimalBinary64 expected.close "factor raw close"
  refuseIf (floatBits row.close ≠ floatBits close)
    (AdjustedPriceError.mk ("raw close differs from the factor input at ordinal " ++ toString item.2))
  return row

/-! ## Adjusted rows -/

def decodePositiveFactor (bits label : String) : Except AdjustedPriceError ℚ := do
  let decoded ← orRefuse (Float64.ofHex bits) ⟨"published " ++ label ++ " is not canonical binary64 hex"⟩
  refuseIf (decoded.isFinite = false ∨ decoded.value ≤ 0)
    (AdjustedPriceError.mk ("published " ++ label ++ " must be finite and positive"))
  return decoded.value

def multiply (value factor : ℚ) (label : String) : Except AdjustedPriceError ℚ := do
  let result := binary64.round (value * factor)
  refuseIf (binary64.Overflows result ∨ result < 0 ∨ (0 < value ∧ result = 0))
    (AdjustedPriceError.mk (label ++ " cannot be represented as finite binary64"))
  return result

def multiplyOptional (value : Option ℚ) (factor : ℚ) (label : String) : Except AdjustedPriceError (Option ℚ) :=
  match value with
  | none => .ok none
  | some v => (multiply v factor label).map some

def adjustRow (derivedAvailableAt : Instant) (item : (RawOhlcvVersion × AdjustmentFactor) × Nat) :
    Except AdjustedPriceError AdjustedOhlcvRow := do
  let raw := item.1.1
  let factor := item.1.2
  let priceFactor ← decodePositiveFactor factor.priceFactorF64Be "price factor"
  let volumeFactor ← decodePositiveFactor factor.volumeFactorF64Be "volume factor"
  let opening ← multiply raw.opening priceFactor "adjusted open"
  let high ← multiply raw.high priceFactor "adjusted high"
  let low ← multiply raw.low priceFactor "adjusted low"
  let close ← multiply raw.close priceFactor "adjusted close"
  let volume ← multiply raw.volume volumeFactor "adjusted volume"
  let vwap ← multiplyOptional raw.vwap priceFactor "adjusted vwap"
  validateOhlc opening high low close "adjusted"
  return {
    rawInputOrdinal := item.2
    symbol := raw.symbol
    timestamp := raw.timestamp
    timespan := raw.timespan
    multiplier := raw.multiplier
    source := raw.source
    adjustmentBasis := adjustedPriceBasis
    rawVersionRecordedAt := raw.versionRecordedAt
    rawAvailableAt := raw.availableAt
    availableAt := derivedAvailableAt
    opening := opening
    high := high
    low := low
    close := close
    volume := volume
    vwap := vwap
    tradeCount := raw.tradeCount
    priceFactorF64Be := factor.priceFactorF64Be
    volumeFactorF64Be := factor.volumeFactorF64Be }

def sliceBounds (start : Nat) (stop : Option Nat) (count : Nat) : Except AdjustedPriceError (Nat × Nat) := do
  let normalizedStop := stop.getD count
  refuseIf (normalizedStop < start ∨ count < normalizedStop)
    (AdjustedPriceError.mk "stop_ordinal must be between start_ordinal and window size")
  refuseIf (count < start) (AdjustedPriceError.mk "start_ordinal must not exceed the window size")
  return (start, normalizedStop)

/-- The greatest of the availability times. -/
def latestAvailable (rows : List RawOhlcvVersion) (split dividend : CorporateActionCollectionReceipt) : Instant :=
  rows.foldl (fun latest row => max latest row.availableAt) (max split.availableAt dividend.availableAt)

def adjustOhlcvWindow (runtime : Runtime) (policyHash : String) (factorSet : AdjustmentFactorSet)
    (rawRows : List RawOhlcvVersion) (splitCollectionReceipt dividendCollectionReceipt :
      CorporateActionCollectionReceipt)
    (setReceipt : AdjustmentFactorSetReceipt) (startOrdinal : Nat) (stopOrdinal : Option Nat) :
    Except AdjustedPriceError AdjustedPriceWindow := do
  let artifact ← validatedArtifact runtime policyHash factorSet
  refuseIf (rawRows = []) (AdjustedPriceError.mk "raw_rows must not be empty")
  validateCardinality artifact rawRows
  let split ← collectionReceipt splitCollectionReceipt artifact.splitCollectionId artifact.cutoff "split collection"
  let dividend ← collectionReceipt dividendCollectionReceipt artifact.dividendCollectionId artifact.cutoff
    "dividend collection"
  let normalizedRows ← (rawRows.zip artifact.rawInputs).zipIdx.mapM (validateRawRow artifact)
  let inputAvailableAt := latestAvailable normalizedRows split dividend
  let receipt ← factorSetReceipt setReceipt artifact.factorSetId inputAvailableAt
  let fullWindow ← (normalizedRows.zip artifact.factors).zipIdx.mapM (adjustRow receipt.availableAt)
  refuseIf (¬ (fullWindow.map AdjustedOhlcvRow.timestamp).IsChain (· < ·))
    (AdjustedPriceError.mk "raw rows must be strictly chronological")
  let (start, stop) ← sliceBounds startOrdinal stopOrdinal fullWindow.length
  return {
    rows := (fullWindow.take stop).drop start
    lineage := {
      factorSetId := artifact.factorSetId
      factorSetRecordedAt := receipt.factorSetRecordedAt
      factorSetAvailableAt := receipt.availableAt
      policyVersion := artifact.policyVersion
      policyHash := artifact.policyHash
      cutoff := artifact.cutoff
      anchorDate := artifact.anchorDate
      splitCollectionId := artifact.splitCollectionId
      splitCollectionRecordedAt := split.collectionRecordedAt
      splitCollectionAvailableAt := split.availableAt
      dividendCollectionId := artifact.dividendCollectionId
      dividendCollectionRecordedAt := dividend.collectionRecordedAt
      dividendCollectionAvailableAt := dividend.availableAt
      actionVersionIds := artifact.actionVersionIds
      maxInputAvailableAt := inputAvailableAt
      dataAvailableAt := receipt.availableAt
      rawInputCount := fullWindow.length
      adjustmentBasis := adjustedPriceBasis }
    startOrdinal := start
    stopOrdinal := stop }

end StockApi.Adjustment

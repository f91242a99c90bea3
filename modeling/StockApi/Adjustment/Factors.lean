import StockApi.Adjustment.Decimal
import StockApi.Library.Text
import StockApi.Library.Timestamp
import StockApi.Library.Relational
import Mathlib.Data.Prod.Lex
import Mathlib.Data.String.Basic

/-!
# Adjustment-factor artifacts

The pure kernel that turns a window of raw closes and its corporate actions into one factor for
each observation. The rounding of the arithmetic is a parameter of the loop.
-/

namespace StockApi.Adjustment

open Checked CivilTime Relational Text

/-- One exact receipted close. -/
structure RawCloseVersion where
  observationDate : Date
  observedAt : Instant
  timespan : String
  multiplier : Int
  source : String
  adjustmentBasis : String
  versionRecordedAt : Instant
  availableAt : Instant
  close : ℚ
deriving DecidableEq

inductive SplitAdjustmentType
  | forwardSplit
  | reverseSplit
  | stockDividend
deriving DecidableEq

inductive DividendDistributionType
  | recurring
  | special
  | supplemental
  | irregular
  | unknown
deriving DecidableEq

structure SplitActionVersion where
  providerEventId : String
  versionId : String
  effectiveDate : Date
  splitFrom : ℚ
  splitTo : ℚ
  adjustmentType : SplitAdjustmentType
deriving DecidableEq

structure DividendActionVersion where
  providerEventId : String
  versionId : String
  exDividendDate : Date
  cashAmount : ℚ
  currency : Option String
  distributionType : DividendDistributionType
deriving DecidableEq

/-- The factors of one observation: their decimal texts and their floats. -/
structure AdjustmentFactor where
  rawInputOrdinal : Nat
  priceFactorDecimal : String
  volumeFactorDecimal : String
  priceFactorF64Be : String
  volumeFactorF64Be : String
deriving DecidableEq

structure AdjustmentFactorSet where
  factorSetId : String
  canonicalPayload : Bytes
  policyVersion : String
  policyHash : String
  symbol : String
  cutoff : Instant
  anchorDate : Date
  splitCollectionId : String
  dividendCollectionId : String
  rawInputs : List RawCloseVersion
  actionVersionIds : List String
  factors : List AdjustmentFactor
deriving DecidableEq

/-- The pinned exchange calendar: the sessions of a range, unless it lies outside the schedule, and
the close of a session. -/
structure XnysCalendar where
  sessionsInRange : Date → Date → Option (List Date)
  sessionClose : Date → Instant

/-! ## Validation -/

/-- `_identifier`. -/
def identifier (runtime : Runtime) (value label : String) : Except AdjustmentFactorError String := do
  refuseIf (value ≠ runtime.nfc value ∨ value.toList = [] ∨ ¬ Trimmed value ∨ value.length > 256)
    (AdjustmentFactorError.mk (label ++ " must be an exact bounded opaque identifier"))
  return value

/-- `_content_id`. -/
def contentId (runtime : Runtime) (value label : String) : Except AdjustmentFactorError String := do
  let value ← identifier runtime value label
  refuseIf (¬ IsHash value) (AdjustmentFactorError.mk (label ++ " must be a SHA-256 content address"))
  return value

/-- `_symbol`. -/
def checkSymbol (value : String) : Except AdjustmentFactorError String := do
  refuseIf (¬ Trimmed value ∨ value.toUpper ≠ value ∨ ¬ IsSymbol value)
    (AdjustmentFactorError.mk "symbol must be uppercase and canonical")
  return value

/-- `_canonical_raw_close`. -/
def canonicalRawClose (runtime : Runtime) (value : ℚ) : Except AdjustmentFactorError ℚ := do
  let supplied ← positiveDecimal decimal34 value "raw close"
  let converted ← orRefuse (toFloat supplied) ⟨"raw close cannot be represented as positive binary64"⟩
  positiveDecimal decimal34 (runtime.shortestDecimal converted) "raw close"

/-- One row of `_validated_raw_closes`. -/
def validatedRawClose (runtime : Runtime) (cutoff : Instant) (item : RawCloseVersion) :
    Except AdjustmentFactorError RawCloseVersion := do
  refuseIf (item.timespan ≠ "day") (AdjustmentFactorError.mk "raw timespan must be exactly day")
  refuseIf (item.multiplier ≠ 1) (AdjustmentFactorError.mk "raw multiplier must be exactly one")
  refuseIf (item.source ≠ "polygon_open_close")
    (AdjustmentFactorError.mk "raw source must be exactly polygon_open_close")
  refuseIf (item.adjustmentBasis ≠ "raw")
    (AdjustmentFactorError.mk "raw adjustment_basis must be exactly raw")
  refuseIf (item.observedAt.date ≠ item.observationDate)
    (AdjustmentFactorError.mk "raw observed_at date must equal observation_date")
  refuseIf (¬ (item.observedAt ≤ item.versionRecordedAt ∧ item.versionRecordedAt ≤ item.availableAt ∧
      item.availableAt ≤ cutoff))
    (AdjustmentFactorError.mk ("raw receipt timestamps must satisfy " ++
      "observed_at <= version_recorded_at <= available_at <= cutoff"))
  let close ← canonicalRawClose runtime item.close
  return { item with close := close }

/-- `_validated_raw_closes`. -/
def validatedRawCloses (runtime : Runtime) (calendar : XnysCalendar) (values : List RawCloseVersion)
    (cutoff : Instant) : Except AdjustmentFactorError (List RawCloseVersion) := do
  refuseIf (values = []) (AdjustmentFactorError.mk "raw_closes must not be empty")
  refuseIf (values.length > 5000)
    (AdjustmentFactorError.mk "raw_closes exceed the 5000-row factor-set limit")
  let rows ← values.mapM (validatedRawClose runtime cutoff)
  let normalized := orderAsc (fun item => item.observationDate) rows
  let dates : List Date := normalized.map fun item => item.observationDate
  refuseIf (¬ dates.Nodup) (AdjustmentFactorError.mk "raw observation dates must be unique")
  let expected ← orRefuse ((dates.head?.bind fun first => dates.getLast?.bind fun last =>
    calendar.sessionsInRange first last))
    ⟨"raw dates are outside the pinned XNYS schedule"⟩
  refuseIf (dates ≠ expected)
    (AdjustmentFactorError.mk "raw dates must be exact contiguous XNYS sessions")
  refuseIf (¬ (normalized.map fun item =>
      (item.observedAt, item.versionRecordedAt, item.availableAt)).Nodup)
    (AdjustmentFactorError.mk "raw exact receipt identities must be unique")
  refuseIf (∃ pair ∈ normalized.zip normalized.tail, pair.2.observedAt ≤ pair.1.observedAt)
    (AdjustmentFactorError.mk "raw observations must be strictly chronological")
  refuseIf (∃ item ∈ normalized, item.observedAt ≠ calendar.sessionClose item.observationDate)
    (AdjustmentFactorError.mk "raw observed_at must be the exact XNYS session close")
  refuseIf (∃ anchor ∈ dates.getLast?, cutoff < calendar.sessionClose anchor)
    (AdjustmentFactorError.mk "cutoff must not precede the anchor session close")
  return normalized

/-- `_action_date`. -/
def actionDate (value : Date) (label : String) (raw : List RawCloseVersion) :
    Except AdjustmentFactorError Date := do
  refuseIf ((∃ first ∈ raw.head?, value < first.observationDate) ∨
      ∃ last ∈ raw.getLast?, last.observationDate < value)
    (AdjustmentFactorError.mk (label ++ " is outside the raw date span"))
  refuseIf (value ∉ raw.map fun item => item.observationDate)
    (AdjustmentFactorError.mk (label ++ " must be an exact raw XNYS session"))
  return value

/-- One row of `_validated_splits`. -/
def validatedSplit (runtime : Runtime) (raw : List RawCloseVersion) (item : SplitActionVersion) :
    Except AdjustmentFactorError SplitActionVersion := do
  let effectiveDate ← actionDate item.effectiveDate "split effective_date" raw
  refuseIf (item.adjustmentType ≠ .forwardSplit ∧ item.adjustmentType ≠ .reverseSplit)
    (AdjustmentFactorError.mk "split adjustment_type is outside the v1 allowlist")
  let providerEventId ← identifier runtime item.providerEventId "split provider_event_id"
  let versionId ← contentId runtime item.versionId "split version_id"
  let splitFrom ← positiveDecimal decimal34 item.splitFrom "split_from"
  let splitTo ← positiveDecimal decimal34 item.splitTo "split_to"
  return ⟨providerEventId, versionId, effectiveDate, splitFrom, splitTo, item.adjustmentType⟩

def validatedSplits (runtime : Runtime) (values : List SplitActionVersion)
    (raw : List RawCloseVersion) : Except AdjustmentFactorError (List SplitActionVersion) := do
  let normalized ← values.mapM (validatedSplit runtime raw)
  return orderAsc (fun item => toLex (item.effectiveDate, item.providerEventId)) normalized

/-- One row of `_validated_dividends`. -/
def validatedDividend (runtime : Runtime) (raw : List RawCloseVersion)
    (item : DividendActionVersion) : Except AdjustmentFactorError DividendActionVersion := do
  let exDate ← actionDate item.exDividendDate "dividend ex_dividend_date" raw
  refuseIf (item.currency ≠ some "USD")
    (AdjustmentFactorError.mk "dividend currency must be exactly USD")
  refuseIf (item.distributionType ≠ .recurring)
    (AdjustmentFactorError.mk "dividend distribution_type is outside the v1 allowlist")
  let providerEventId ← identifier runtime item.providerEventId "dividend provider_event_id"
  let versionId ← contentId runtime item.versionId "dividend version_id"
  let cashAmount ← positiveDecimal decimal34 item.cashAmount "dividend cash_amount"
  return ⟨providerEventId, versionId, exDate, cashAmount, some "USD", .recurring⟩

def validatedDividends (runtime : Runtime) (values : List DividendActionVersion)
    (raw : List RawCloseVersion) : Except AdjustmentFactorError (List DividendActionVersion) := do
  let normalized ← values.mapM (validatedDividend runtime raw)
  return orderAsc (fun item => toLex (item.exDividendDate, item.providerEventId)) normalized

/-- `_validate_action_identity_and_cardinality`. -/
def validateActionCardinality (splits : List SplitActionVersion)
    (dividends : List DividendActionVersion) : Except AdjustmentFactorError Unit := do
  refuseIf (¬ ((splits.map fun item => item.providerEventId) ++
      dividends.map fun item => item.providerEventId).Nodup)
    (AdjustmentFactorError.mk "corporate-action IDs must be unique")
  refuseIf (¬ ((splits.map fun item => item.versionId) ++
      dividends.map fun item => item.versionId).Nodup)
    (AdjustmentFactorError.mk "corporate-action version IDs must be unique")
  refuseIf (¬ ((splits.map fun item => item.effectiveDate) ++
      dividends.map fun item => item.exDividendDate).Nodup)
    (AdjustmentFactorError.mk "v1 permits at most one split or dividend on a session")

/-! ## The loop -/

/-- `_factor_row`. -/
def factorRow (ordinal : Nat) (price volume : ℚ) : Except AdjustmentFactorError AdjustmentFactor := do
  let priceBits ← binary64Bits price "price factor"
  let volumeBits ← binary64Bits volume "volume factor"
  return ⟨ordinal, decimalText price, decimalText volume, priceBits, volumeBits⟩

section Loop

variable (arith : Arithmetic)

def splitFactors (split : SplitActionVersion) (price volume : ℚ) :
    Except AdjustmentFactorError (ℚ × ℚ) := do
  let price' ← mulDiv arith price split.splitFrom split.splitTo "split price factor"
  let volume' ← mulDiv arith volume split.splitTo split.splitFrom "split volume factor"
  return (price', volume')

def dividendFactors (dividend : DividendActionVersion) (close price volume : ℚ) :
    Except AdjustmentFactorError (ℚ × ℚ) := do
  let denominator ← add arith close dividend.cashAmount "dividend denominator"
  let price' ← mulDiv arith price close denominator "dividend price factor"
  return (price', volume)

/-- The action on the session of a row; a split goes before a dividend. -/
def applyActions (splits : List SplitActionVersion) (dividends : List DividendActionVersion)
    (row : RawCloseVersion) (price volume : ℚ) : Except AdjustmentFactorError (ℚ × ℚ) :=
  match splits.find? fun item => decide (item.effectiveDate = row.observationDate) with
  | some split => splitFactors arith split price volume
  | none =>
    match dividends.find? fun item => decide (item.exDividendDate = row.observationDate) with
    | some dividend => dividendFactors arith dividend row.close price volume
    | none => .ok (price, volume)

/-- The loop over the rows from the newest on; the ordinal of a row is the number of older ones. -/
def factorsDescending (splits : List SplitActionVersion) (dividends : List DividendActionVersion) :
    List RawCloseVersion → ℚ → ℚ → Except AdjustmentFactorError (List AdjustmentFactor)
  | [], _, _ => .ok []
  | row :: older, price, volume => do
    let factor ← factorRow older.length price volume
    let (price', volume') ← applyActions arith splits dividends row price volume
    let rest ← factorsDescending splits dividends older price' volume'
    return factor :: rest

end Loop

/-! ## The artifact -/

def splitDocument (item : SplitActionVersion) : Document :=
  .obj [("adjustment_type", .plain (match item.adjustmentType with
      | .forwardSplit => "forward_split"
      | .reverseSplit => "reverse_split"
      | .stockDividend => "stock_dividend")),
    ("effective_date", .plain item.effectiveDate.isoformat),
    ("provider_event_id", .plain item.providerEventId),
    ("split_from", .plain (decimalText item.splitFrom)),
    ("split_to", .plain (decimalText item.splitTo)), ("version_id", .plain item.versionId)]

def dividendDocument (item : DividendActionVersion) : Document :=
  .obj [("cash_amount", .plain (decimalText item.cashAmount)),
    ("currency", match item.currency with
      | some currency => .plain currency
      | none => .null),
    ("distribution_type", .plain (match item.distributionType with
      | .recurring => "recurring"
      | .special => "special"
      | .supplemental => "supplemental"
      | .irregular => "irregular"
      | .unknown => "unknown")),
    ("ex_dividend_date", .plain item.exDividendDate.isoformat),
    ("provider_event_id", .plain item.providerEventId), ("version_id", .plain item.versionId)]

def factorDocument (item : AdjustmentFactor) : Document :=
  .obj [("price_factor_decimal", .plain item.priceFactorDecimal),
    ("price_factor_f64_be", .plain item.priceFactorF64Be),
    ("raw_input_ordinal", .int item.rawInputOrdinal),
    ("volume_factor_decimal", .plain item.volumeFactorDecimal),
    ("volume_factor_f64_be", .plain item.volumeFactorF64Be)]

def rawInputDocument (item : RawCloseVersion) : Except AdjustmentFactorError Document := do
  let closeBits ← binary64Bits item.close "raw close"
  return .obj [("adjustment_basis", .plain item.adjustmentBasis),
    ("available_at", .plain item.availableAt.timestamp),
    ("close_decimal", .plain (decimalText item.close)), ("close_f64_be", .plain closeBits),
    ("multiplier", .int item.multiplier),
    ("observation_date", .plain item.observationDate.isoformat),
    ("observed_at", .plain item.observedAt.timestamp), ("source", .plain item.source),
    ("timespan", .plain item.timespan),
    ("version_recorded_at", .plain item.versionRecordedAt.timestamp)]

structure FactorInputs where
  symbol : String
  cutoff : Instant
  rawCloses : List RawCloseVersion
  splitCollectionId : String
  splits : List SplitActionVersion
  dividendCollectionId : String
  dividends : List DividendActionVersion

/-- The inputs once they are validated. -/
def validatedInputs (runtime : Runtime) (calendar : XnysCalendar) (inputs : FactorInputs) :
    Except AdjustmentFactorError FactorInputs := do
  let symbol ← checkSymbol inputs.symbol
  let splitCollectionId ← contentId runtime inputs.splitCollectionId "split_collection_id"
  let dividendCollectionId ← contentId runtime inputs.dividendCollectionId "dividend_collection_id"
  refuseIf (splitCollectionId = dividendCollectionId)
    (AdjustmentFactorError.mk "corporate-action collection IDs must be distinct")
  let raw ← validatedRawCloses runtime calendar inputs.rawCloses inputs.cutoff
  let splits ← validatedSplits runtime inputs.splits raw
  let dividends ← validatedDividends runtime inputs.dividends raw
  validateActionCardinality splits dividends
  return ⟨symbol, inputs.cutoff, raw, splitCollectionId, splits, dividendCollectionId, dividends⟩

/-- The loop from the unit factors, in the order of the observations. -/
def buildFactors (arith : Arithmetic) (inputs : FactorInputs) :
    Except AdjustmentFactorError (List AdjustmentFactor) := do
  let descending ← factorsDescending arith inputs.splits inputs.dividends inputs.rawCloses.reverse 1 1
  return descending.reverse

/-- `ADJUSTMENT_FACTOR_POLICY_VERSION`. -/
def adjustmentFactorPolicyVersion : String := "split-dividend-gross-total-return-v1"

def factorSetDocument (policyHash : String) (inputs : FactorInputs) (anchor : Date)
    (factors : List AdjustmentFactor) (rawInputs : List Document) : Document :=
  .obj [("actions", .obj [
      ("dividends", .obj [("collection_id", .plain inputs.dividendCollectionId),
        ("versions", .arr (inputs.dividends.map dividendDocument))]),
      ("splits", .obj [("collection_id", .plain inputs.splitCollectionId),
        ("versions", .arr (inputs.splits.map splitDocument))])]),
    ("anchor_date", .plain anchor.isoformat), ("cutoff", .plain inputs.cutoff.timestamp),
    ("factors", .arr (factors.map factorDocument)),
    ("format", .plain "stockapi-adjustment-factor-set-v1"), ("policy_hash", .plain policyHash),
    ("policy_version", .plain adjustmentFactorPolicyVersion),
    ("raw_inputs", .arr rawInputs), ("symbol", .plain inputs.symbol)]

/-- `build_adjustment_factor_set`; the hash of the pinned policy document is an argument. -/
def buildAdjustmentFactorSet (runtime : Runtime) (calendar : XnysCalendar) (policyHash : String)
    (inputs : FactorInputs) : Except AdjustmentFactorError AdjustmentFactorSet := do
  let valid ← validatedInputs runtime calendar inputs
  let factors ← buildFactors decimal34 valid
  let anchor ← orRefuse (valid.rawCloses.getLast?) ⟨"raw_closes must not be empty"⟩
  let rawInputs ← valid.rawCloses.mapM rawInputDocument
  let payload := runtime.dumps
    (factorSetDocument policyHash valid anchor.observationDate factors rawInputs)
  return {
    factorSetId := "sha256:" ++ runtime.sha256 payload
    canonicalPayload := payload
    policyVersion := adjustmentFactorPolicyVersion
    policyHash := policyHash
    symbol := valid.symbol
    cutoff := valid.cutoff
    anchorDate := anchor.observationDate
    splitCollectionId := valid.splitCollectionId
    dividendCollectionId := valid.dividendCollectionId
    rawInputs := valid.rawCloses
    actionVersionIds := orderAsc id ((valid.splits.map fun item => item.versionId) ++
      valid.dividends.map fun item => item.versionId)
    factors := factors }

end StockApi.Adjustment

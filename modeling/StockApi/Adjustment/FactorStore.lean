import StockApi.Adjustment.Window
import StockApi.Bars.History
import StockApi.Library.DecimalNumeral

/-!
# Stored factor sets

The tables of the factor sets and `publish_adjustment_factor_set` over the stored bars. What it checks of the
corporate actions and of the factor values reads nothing of the bars; it is a parameter of a call.
-/

namespace StockApi.Adjustment

open Checked CivilTime Relational Text Relation
open Bars (Archive Archived Bar BarKey BarStep BarTables DbCall Receipt)

/-! ## The payload -/

/-- A row of `raw_inputs`. -/
structure PayloadRawInput where
  observationDate : Date
  observedAt : Instant
  timespan : String
  multiplier : Int
  source : String
  adjustmentBasis : String
  versionRecordedAt : Instant
  availableAt : Instant
  closeDecimal : String
  closeF64Be : String
deriving DecidableEq

/-- A row of `factors`. -/
structure PayloadFactor where
  rawInputOrdinal : Nat
  priceFactorDecimal : String
  priceFactorF64Be : String
  volumeFactorDecimal : String
  volumeFactorF64Be : String
deriving DecidableEq

structure FactorPayload where
  symbol : String
  cutoff : Instant
  anchorDate : Date
  splitCollectionId : String
  dividendCollectionId : String
  rawInputs : List PayloadRawInput
  factors : List PayloadFactor
deriving DecidableEq

/-- The newest receipt of a collection before the cutoff. -/
structure CollectionEvidence where
  recordedAt : Instant
  availableAt : Instant
deriving DecidableEq

/-! ## Tables -/

structure FactorSetContent where
  factorSetId : String
  symbol : String
  cutoff : Instant
  anchorDate : Date
  coverageStart : Date
  coverageEnd : Date
  inputCount : Nat
  maxInputAvailableAt : Instant
  splitCollectionId : String
  split : CollectionEvidence
  dividendCollectionId : String
  dividend : CollectionEvidence
  canonicalPayload : Bytes
deriving DecidableEq

/-- A row of `adjustment_factor_sets`; its format and policy are the pinned ones. -/
structure FactorSetHeader extends FactorSetContent where
  recordedAt : Int
  creatorXid : Int
deriving DecidableEq

structure FactorEntryContent where
  factorSetId : String
  ordinal : Nat
  symbol : String
  observationDate : Date
  observedAt : Instant
  timespan : String
  multiplier : Int
  source : String
  adjustmentBasis : String
  versionRecordedAt : Instant
  rawAvailableAt : Instant
  rawCloseDecimal : String
  rawCloseF64Be : String
  priceFactorDecimal : String
  priceFactorF64Be : String
  volumeFactorDecimal : String
  volumeFactorF64Be : String
deriving DecidableEq

/-- A row of `adjustment_factor_entries`. -/
structure FactorEntry extends FactorEntryContent where
  creatorXid : Int
deriving DecidableEq

/-- A row of `adjustment_factor_set_availability`. -/
structure FactorSetAvailability where
  factorSetId : String
  factorSetRecordedAt : Int
  availableAt : Int
deriving DecidableEq

structure FactorTables where
  headers : List FactorSetHeader
  entries : List FactorEntry
  receipts : List FactorSetAvailability
deriving DecidableEq

/-- The key of a bar version an entry names. -/
def FactorEntryContent.key (e : FactorEntryContent) : BarKey :=
  ⟨e.symbol, e.timespan, e.multiplier, e.observedAt.micros, e.source, e.adjustmentBasis⟩

def rawBarKey (symbol : String) (ts : Int) : BarKey := ⟨symbol, "day", 1, ts, "polygon_open_close", "raw"⟩

/-! ## Scalars -/

/-- `^(0|[1-9][0-9]*)(\.[0-9]*[1-9])?$`. -/
def canonicalDecimal (text : List Char) : Bool :=
  let whole := text.takeWhile (· ≠ '.')
  let places := text.dropWhile (· ≠ '.')
  whole ≠ [] && whole.all Digits.isDigit && (whole = ['0'] || whole.head? ≠ some '0') &&
    (places = [] || places.tail ≠ [] && places.tail.all Digits.isDigit && places.getLast? ≠ some '0')

/-- `parse_adjustment_decimal`. -/
def parseAdjustmentDecimal (text : String) : Except SqlError ℚ := do
  refuseIf (text.length < 1 ∨ 400 < text.length ∨ canonicalDecimal text.toList = false)
    (SqlError.mk "22023" "adjustment decimal is not canonical")
  let parsed ← orRefuse (DecimalNumeral.readNumeral text.toList) (SqlError.mk "22P02" "invalid numeric")
  refuseIf (parsed.value ≤ 0 ∨ decimalText parsed.value ≠ text)
    (SqlError.mk "22023" "adjustment decimal must be canonical and positive")
  return parsed.value

/-- The bits of a decimal as a float. -/
def decimalBits (value : ℚ) : Option String := (toFloat value).map floatBits

/-! ## Checks of the payload -/

section Payload

variable (payload : FactorPayload)

def coverageStart : Option Date := payload.rawInputs.head?.map PayloadRawInput.observationDate

def coverageEnd : Option Date := payload.rawInputs.getLast?.map PayloadRawInput.observationDate

/-- The checks of the root. -/
def validateFactorRoot : Except SqlError PUnit := do
  refuseIf (payload.symbol.toUpper ≠ payload.symbol ∨ ¬ IsSymbol payload.symbol ∨ 32 < payload.symbol.length)
    (SqlError.mk "22023" "adjustment-factor symbol is not canonical")
  refuseIf (payload.rawInputs.length < 1 ∨ 5000 < payload.rawInputs.length ∨
      payload.factors.length ≠ payload.rawInputs.length)
    (SqlError.mk "22023" "adjustment-factor input/factor cardinality is invalid")
  refuseIf (some payload.anchorDate ≠ coverageEnd payload)
    (SqlError.mk "22023" "adjustment-factor anchor does not equal coverage end")
  refuseIf (¬ IsHash payload.splitCollectionId ∨ ¬ IsHash payload.dividendCollectionId ∨
      payload.splitCollectionId = payload.dividendCollectionId)
    (SqlError.mk "22023" "adjustment-factor collection identities are invalid")

/-- The raw rows with their factors, their places and the rows before them. -/
def payloadRows : List (((PayloadRawInput × PayloadFactor) × Option PayloadRawInput) × Nat) :=
  ((payload.rawInputs.zip payload.factors).zip (none :: payload.rawInputs.map some)).zipIdx

/-- The checks of a row that read no table. -/
def validatePayloadRow (cutoff : Instant) (item : ((PayloadRawInput × PayloadFactor) × Option PayloadRawInput) × Nat) :
    Except SqlError PUnit := do
  let raw := item.1.1.1
  let factor := item.1.1.2
  refuseIf (raw.timespan ≠ "day" ∨ raw.multiplier ≠ 1 ∨ raw.source ≠ "polygon_open_close" ∨
      raw.adjustmentBasis ≠ "raw" ∨ factor.rawInputOrdinal ≠ item.2)
    (SqlError.mk "22023" "factor raw source or ordinal is unsupported")
  refuseIf (raw.observedAt.date ≠ raw.observationDate ∨ ¬ (raw.observedAt ≤ raw.versionRecordedAt ∧
      raw.versionRecordedAt ≤ raw.availableAt ∧ raw.availableAt ≤ cutoff))
    (SqlError.mk "22023" "factor raw receipt time order is invalid")
  refuseIf (∃ previous ∈ item.1.2, raw.observationDate ≤ previous.observationDate ∨
      raw.observedAt ≤ previous.observedAt)
    (SqlError.mk "22023" "factor raw receipts are not strictly chronological")
  let close ← parseAdjustmentDecimal raw.closeDecimal
  let price ← parseAdjustmentDecimal factor.priceFactorDecimal
  let volume ← parseAdjustmentDecimal factor.volumeFactorDecimal
  refuseIf (decimalBits close ≠ some raw.closeF64Be ∨ decimalBits price ≠ some factor.priceFactorF64Be ∨
      decimalBits volume ≠ some factor.volumeFactorF64Be)
    (SqlError.mk "22023" "factor decimal/binary64 publication disagrees")

end Payload

/-! ## Checks against the stored bars -/

section Stored

variable (runtime : Runtime) (tables : BarTables) (payload : FactorPayload)

/-- The closes of the versions of one recorded time whose receipt was stamped at that time: the union of the three
lanes drops equal rows. -/
def exactVersions (key : BarKey) (recordedAt availableAt : Int) : List ℚ :=
  let versions := tables.lanes.filter fun v => decide (v.key = key ∧ v.recordedAt = recordedAt)
  let receipts := tables.receipts.filter fun r =>
    decide (r.key = key ∧ r.versionRecordedAt = recordedAt ∧ r.availableAt = availableAt)
  (versions.map fun v => v.values.close).dedup.flatMap fun close => receipts.map fun _ => close

/-- The receipts of the raw series by the cutoff. -/
def visibleReceipts : List Receipt :=
  tables.receipts.filter fun r =>
    decide (r.key = rawBarKey payload.symbol r.key.ts ∧ r.availableAt ≤ payload.cutoff.micros)

def receiptRank (r : Receipt) : Int ×ₗ Int := toLex (r.versionRecordedAt, r.availableAt)

/-- How many of the receipts name the version of one of them. -/
def greatestCount (receipts : List Receipt) (r : Receipt) : Nat :=
  receipts.countP fun other => decide (other.key.ts = r.key.ts ∧ other.versionRecordedAt = r.versionRecordedAt)

/-- The checks of a row against the stored versions and receipts. -/
def validateStoredRow (raw : PayloadRawInput) : Except SqlError PUnit := do
  let key := rawBarKey payload.symbol raw.observedAt.micros
  let closes := exactVersions tables key raw.versionRecordedAt.micros raw.availableAt.micros
  refuseIf (¬ (closes.length = 1 ∧ ∀ stored ∈ closes, floatBits stored = raw.closeF64Be ∧
      decimalText (runtime.shortestDecimal stored) = raw.closeDecimal))
    (SqlError.mk "55000" "factor raw row does not match its exact stored bar receipt")
  let receipts := (visibleReceipts tables payload).filter fun r => decide (r.key = key)
  refuseIf (¬ ∃ r ∈ latestBy receiptRank receipts, greatestCount receipts r = 1 ∧
      r.versionRecordedAt = raw.versionRecordedAt.micros ∧ r.availableAt = raw.availableAt.micros)
    (SqlError.mk "55000" "factor raw row is not the unique newest cutoff version")

/-- The newest receipt of every session of the coverage. -/
def newestVisible (start stop : Date) : List Receipt :=
  rowNumberOne (fun r => r.key.ts) receiptRank ((visibleReceipts tables payload).filter fun r =>
    decide ((start.days : Int) ≤ r.key.ts / dayMicros ∧ r.key.ts / dayMicros ≤ stop.days))

def validateCompleteRows (start stop : Date) : Except SqlError PUnit := do
  let newest := newestVisible tables payload start stop
  refuseIf (newest.length ≠ payload.rawInputs.length ∨ ∃ r ∈ newest,
      greatestCount (visibleReceipts tables payload) r ≠ 1 ∨ ¬ ∃ raw ∈ payload.rawInputs,
        (raw.observedAt.micros : Int) = r.key.ts ∧ (raw.versionRecordedAt.micros : Int) = r.versionRecordedAt ∧
          (raw.availableAt.micros : Int) = r.availableAt)
    (SqlError.mk "55000" "factor raw inputs omit newest cutoff-visible stored receipts")

end Stored

/-! ## Insertion -/

def FactorSetContent.Checks (c : FactorSetContent) : Prop :=
  (c.symbol = c.symbol.toUpper ∧ IsSymbol c.symbol) ∧ (IsHash c.splitCollectionId ∧ IsHash c.dividendCollectionId ∧
    c.splitCollectionId ≠ c.dividendCollectionId) ∧ (c.coverageStart ≤ c.anchorDate ∧ c.anchorDate = c.coverageEnd) ∧
  (1 ≤ c.inputCount ∧ c.inputCount ≤ 5000) ∧
  (c.split.recordedAt ≤ c.split.availableAt ∧ c.dividend.recordedAt ≤ c.dividend.availableAt ∧
    c.split.availableAt ≤ c.cutoff ∧ c.dividend.availableAt ≤ c.cutoff ∧ c.maxInputAvailableAt ≤ c.cutoff)

instance (c : FactorSetContent) : Decidable c.Checks := inferInstanceAs (Decidable (_ ∧ _))

/-- The constraints of `adjustment_factor_sets`. -/
def FactorSetHeader.Checks (sha256 : Bytes → String) (header : FactorSetHeader) : Prop :=
  header.toFactorSetContent.Checks ∧ IsHash header.factorSetId ∧
  (1 ≤ header.canonicalPayload.length ∧ header.canonicalPayload.length ≤ 4194304) ∧
  header.factorSetId = "sha256:" ++ sha256 header.canonicalPayload ∧ 0 < header.creatorXid

instance (sha256 : Bytes → String) (header : FactorSetHeader) : Decidable (header.Checks sha256) :=
  inferInstanceAs (Decidable (_ ∧ _))

/-- The pattern of a decimal column, and `::numeric > 0`. -/
def PositiveDecimal (text : String) : Prop :=
  canonicalDecimal text.toList = true ∧ ∃ parsed ∈ DecimalNumeral.readNumeral text.toList, 0 < parsed.value

instance (text : String) : Decidable (PositiveDecimal text) := inferInstanceAs (Decidable (_ ∧ _))

/-- `octet_length` of a `bytea` column, which is the hexadecimal text of its bytes. -/
def octetLength (hex : String) : Nat := hex.length / 2

def FactorEntryContent.Checks (e : FactorEntryContent) : Prop :=
  e.symbol = e.symbol.toUpper ∧
  (e.timespan = "day" ∧ e.multiplier = 1 ∧ e.source = "polygon_open_close" ∧ e.adjustmentBasis = "raw") ∧
  (e.observedAt.date = e.observationDate ∧ e.observedAt ≤ e.versionRecordedAt ∧
    e.versionRecordedAt ≤ e.rawAvailableAt) ∧
  (∀ text ∈ [e.rawCloseDecimal, e.priceFactorDecimal, e.volumeFactorDecimal], PositiveDecimal text) ∧
  ∀ hex ∈ [e.rawCloseF64Be, e.priceFactorF64Be, e.volumeFactorF64Be], octetLength hex = 8

instance (e : FactorEntryContent) : Decidable e.Checks := inferInstanceAs (Decidable (_ ∧ _))

/-- The constraints of `adjustment_factor_entries`. -/
def FactorEntry.Checks (e : FactorEntry) : Prop := e.toFactorEntryContent.Checks ∧ 0 < e.creatorXid

instance (e : FactorEntry) : Decidable e.Checks := inferInstanceAs (Decidable (_ ∧ _))

def factorEntry (factorSetId symbol : String) (item : (PayloadRawInput × PayloadFactor) × Nat) :
    FactorEntryContent where
  factorSetId := factorSetId
  ordinal := item.2
  symbol := symbol
  observationDate := item.1.1.observationDate
  observedAt := item.1.1.observedAt
  timespan := "day"
  multiplier := 1
  source := "polygon_open_close"
  adjustmentBasis := "raw"
  versionRecordedAt := item.1.1.versionRecordedAt
  rawAvailableAt := item.1.1.availableAt
  rawCloseDecimal := item.1.1.closeDecimal
  rawCloseF64Be := item.1.1.closeF64Be
  priceFactorDecimal := item.1.2.priceFactorDecimal
  priceFactorF64Be := item.1.2.priceFactorF64Be
  volumeFactorDecimal := item.1.2.volumeFactorDecimal
  volumeFactorF64Be := item.1.2.volumeFactorF64Be

/-- The entries of a payload. -/
def payloadEntries (factorSetId : String) (payload : FactorPayload) : List FactorEntryContent :=
  (payload.rawInputs.zip payload.factors).zipIdx.map (factorEntry factorSetId payload.symbol)

/-- `stamp_adjustment_factor_set` and the insertion, unless the identity is there. -/
def insertFactorSet (runtime : Runtime) (tx : DbCall) (content : FactorSetContent) (f : FactorTables) :
    Except SqlError FactorTables := do
  let header : FactorSetHeader := ⟨content, tx.clock, tx.txid⟩
  refuseIf (¬ header.Checks runtime.sha256) checkViolation
  if ∃ header ∈ f.headers, header.factorSetId = content.factorSetId then return f
  else return { f with headers := f.headers ++ [header] }

def exactReceipt (tables : BarTables) (e : FactorEntryContent) : Prop :=
  ∃ r ∈ tables.receipts, r.key = e.key ∧ r.versionRecordedAt = e.versionRecordedAt.micros ∧
    r.availableAt = e.rawAvailableAt.micros

instance (tables : BarTables) (e : FactorEntryContent) : Decidable (exactReceipt tables e) :=
  inferInstanceAs (Decidable (∃ r ∈ tables.receipts, _))

/-- `stamp_adjustment_factor_entry` and the insertion. -/
def insertFactorEntry (tx : DbCall) (tables : BarTables) (f : FactorTables) (e : FactorEntryContent) :
    Except SqlError FactorTables := do
  let header ← orRefuse (f.headers.find? fun header => decide (header.factorSetId = e.factorSetId))
    (SqlError.mk "23503" "factor-set header does not exist")
  refuseIf (header.creatorXid ≠ tx.txid) (SqlError.mk "55000" "factor entries must be inserted with their header")
  refuseIf (∃ receipt ∈ f.receipts, receipt.factorSetId = e.factorSetId)
    (SqlError.mk "55000" "a receipted factor set is frozen")
  let entry : FactorEntry := ⟨e, tx.txid⟩
  refuseIf (¬ entry.Checks) checkViolation
  refuseIf (∃ other ∈ f.entries, other.factorSetId = e.factorSetId ∧
      (other.ordinal = e.ordinal ∨ other.observationDate = e.observationDate)) uniqueViolation
  refuseIf (¬ exactReceipt tables e) (SqlError.mk "23503" "insert or update violates foreign key constraint")
  return { f with entries := f.entries ++ [entry] }

/-! ## Publication -/

/-- A call of the publisher: what the corporate actions of the payload show, and the factor kernel. -/
structure FactorCall where
  tx : DbCall
  payloadBytes : Bytes
  actionEvidence : FactorPayload → Except SqlError (CollectionEvidence × CollectionEvidence)
  validateKernel : FactorPayload → Except SqlError PUnit

section Publication

variable (runtime : Runtime) (decodePayload : Bytes → Except SqlError FactorPayload)

def factorSetContent (factorSetId : String) (payloadBytes : Bytes) (payload : FactorPayload)
    (evidence : CollectionEvidence × CollectionEvidence) (start stop : Date) : FactorSetContent where
  factorSetId := factorSetId
  symbol := payload.symbol
  cutoff := payload.cutoff
  anchorDate := payload.anchorDate
  coverageStart := start
  coverageEnd := stop
  inputCount := payload.rawInputs.length
  maxInputAvailableAt := payload.rawInputs.foldl (fun latest raw => max latest raw.availableAt)
    (max evidence.1.availableAt evidence.2.availableAt)
  splitCollectionId := payload.splitCollectionId
  split := evidence.1
  dividendCollectionId := payload.dividendCollectionId
  dividend := evidence.2
  canonicalPayload := payloadBytes

/-- The entries are inserted with their header. -/
def insertFactorEntries (tx : DbCall) (tables : BarTables) (entries : List FactorEntryContent)
    (f inserted : FactorTables) : Except SqlError FactorTables :=
  if f.headers.length < inserted.headers.length then entries.foldlM (insertFactorEntry tx tables) inserted
  else .ok inserted

/-- The insertion of a set with its entries, and the comparison of what is stored with the payload. -/
def storeFactorSet (tx : DbCall) (tables : BarTables) (content : FactorSetContent)
    (entries : List FactorEntryContent) (f : FactorTables) : Except SqlError FactorTables := do
  let inserted ← insertFactorSet runtime tx content f
  refuseIf (¬ ∃ header ∈ inserted.headers, header.toFactorSetContent = content)
    (SqlError.mk "55000" "factor-set content identity collision")
  let stored ← insertFactorEntries tx tables entries f inserted
  refuseIf ((stored.entries.filter fun e => decide (e.factorSetId = content.factorSetId)).length ≠ content.inputCount)
    (SqlError.mk "55000" "factor-set entry count conflicts with canonical bytes")
  refuseIf (¬ ∀ e ∈ entries, ∃ entry ∈ stored.entries, entry.toFactorEntryContent = e)
    (SqlError.mk "55000" "factor-set entry projection conflicts with canonical bytes")
  return stored

def publishAdjustmentFactorSet (call : FactorCall) (tables : BarTables) (f : FactorTables) :
    Except SqlError (String × FactorTables) := do
  refuseIf (call.payloadBytes.length < 1 ∨ 4194304 < call.payloadBytes.length)
    (SqlError.mk "22023" "adjustment-factor payload exceeds its bound")
  let payload ← decodePayload call.payloadBytes
  validateFactorRoot payload
  let start ← orRefuse (coverageStart payload) (SqlError.mk "22004" "query returned no rows")
  let stop ← orRefuse (coverageEnd payload) (SqlError.mk "22004" "query returned no rows")
  refuseIf (call.tx.clock < payload.cutoff.micros)
    (SqlError.mk "22023" "adjustment-factor cutoff is in the future")
  let evidence ← call.actionEvidence payload
  (payloadRows payload).forM fun item => do
    validatePayloadRow payload.cutoff item
    validateStoredRow runtime tables payload item.1.1.1
  validateCompleteRows tables payload start stop
  call.validateKernel payload
  let factorSetId := "sha256:" ++ runtime.sha256 call.payloadBytes
  let content := factorSetContent factorSetId call.payloadBytes payload evidence start stop
  let stored ← storeFactorSet runtime call.tx tables content (payloadEntries factorSetId payload) f
  return (factorSetId, stored)

/-- `publish_adjustment_factor_set_receipt` with the trigger of its table. -/
def publishAdjustmentFactorSetReceipt (tx : DbCall) (factorSetId : String) (f : FactorTables) :
    Except SqlError FactorTables := do
  refuseIf (¬ IsHash factorSetId) (SqlError.mk "22023" "factor-set id is malformed")
  let header ← orRefuse (f.headers.find? fun header => decide (header.factorSetId = factorSetId))
    (SqlError.mk "23503" "factor-set header does not exist")
  refuseIf (header.creatorXid = tx.txid)
    (SqlError.mk "55000" "factor-set availability requires a later transaction")
  let entries := f.entries.filter fun e => decide (e.factorSetId = factorSetId)
  refuseIf (entries.length ≠ header.inputCount ∨ ∃ e ∈ entries, e.creatorXid = tx.txid ∨ e.symbol ≠ header.symbol ∨
      header.cutoff < e.rawAvailableAt)
    (SqlError.mk "55000" "factor-set entries are incomplete or uncommitted")
  if ∃ receipt ∈ f.receipts, receipt.factorSetId = factorSetId then return f
  else return { f with receipts := f.receipts ++ [⟨factorSetId, header.recordedAt, tx.clock⟩] }

/-- The bars and the factor sets. -/
structure FactorStore where
  archive : Archive
  factors : FactorTables

def FactorStore.empty : FactorStore := ⟨Archive.empty, ⟨[], [], []⟩⟩

/-- A committed transaction on the bars, a publication or a receipt. -/
inductive FactorStep : FactorStore → FactorStore → Prop
  | bars {s : FactorStore} {archive : Archive} : BarStep s.archive archive → FactorStep s ⟨archive, s.factors⟩
  | publish {s : FactorStore} (call : FactorCall) {factorSetId : String} {factors : FactorTables} :
      publishAdjustmentFactorSet runtime decodePayload call s.archive.tables s.factors = .ok (factorSetId, factors) →
      FactorStep s ⟨s.archive, factors⟩
  | receipt {s : FactorStore} (tx : DbCall) (factorSetId : String) {factors : FactorTables} :
      publishAdjustmentFactorSetReceipt tx factorSetId s.factors = .ok factors → FactorStep s ⟨s.archive, factors⟩

end Publication

end StockApi.Adjustment

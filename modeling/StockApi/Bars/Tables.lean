import StockApi.Library.Checked
import StockApi.Library.Relational
import Mathlib.Data.Rat.Defs
import Mathlib.Algebra.Order.Ring.Rat

/-!
# Bar tables and their triggers

`bars`, `bars_revisions` and `bar_version_availability` with the triggers that stamp them. A
timestamp is a number of microseconds, the resolution of `timestamptz`; a price is finite, as
the constraints of the tables demand, and so a rational number.
-/

namespace StockApi.Bars

open Checked Relational

structure BarKey where
  symbol : String
  timespan : String
  multiplier : Int
  ts : Int
  source : String
  adjustmentBasis : String
deriving DecidableEq

/-- The value columns: open, high, low, close, volume, vwap and trade count. -/
structure BarValues where
  opening : Rat
  high : Rat
  low : Rat
  close : Rat
  volume : Rat
  vwap : Option Rat
  tradeCount : Option Int
deriving DecidableEq

/-- A row as a writer proposes it. -/
structure BarRow where
  key : BarKey
  values : BarValues
  fetchedAt : Int
  asOf : Int
deriving DecidableEq

/-- A row of `bars`, and so a version of a bar. -/
structure Bar extends BarRow where
  recordedAt : Int
  creatorXid : Int
deriving DecidableEq

structure BarRevision where
  key : BarKey
  previous : BarValues
  previousFetchedAt : Int
  previousAsOf : Int
  incoming : BarValues
  incomingFetchedAt : Int
  incomingAsOf : Int
  previousRecordedAt : Option Int
  incomingRecordedAt : Option Int
  previousCreatorXid : Int
  incomingCreatorXid : Int
  revisedAt : Int
deriving DecidableEq

/-- A row of `bar_version_availability`. -/
structure Receipt where
  key : BarKey
  versionRecordedAt : Int
  availableAt : Int
deriving DecidableEq

structure BarTables where
  bars : List Bar
  revisions : List BarRevision
  receipts : List Receipt
deriving DecidableEq

/-- What the database supplies to one statement. -/
structure DbCall where
  clock : Int
  txid : Int

/-! ## Constraints -/

def BarValues.Checks (v : BarValues) : Prop :=
  (v.opening ≥ 0 ∧ v.high ≥ 0 ∧ v.low ≥ 0 ∧ v.close ≥ 0 ∧ v.volume ≥ 0) ∧
  (∀ w ∈ v.vwap, w ≥ 0) ∧ (∀ n ∈ v.tradeCount, n ≥ 0) ∧ v.high ≥ v.low ∧
  (v.high ≥ v.opening ∧ v.high ≥ v.close) ∧ (v.low ≤ v.opening ∧ v.low ≤ v.close)

instance (v : BarValues) : Decidable v.Checks := inferInstanceAs (Decidable (_ ∧ _))

def Bar.Checks (b : Bar) : Prop :=
  b.key.multiplier ≥ 1 ∧ b.values.Checks ∧ b.fetchedAt ≥ b.key.ts ∧ b.asOf ≥ b.fetchedAt ∧
    b.recordedAt ≥ b.asOf ∧ b.creatorXid ≥ 0

instance (b : Bar) : Decidable b.Checks := inferInstanceAs (Decidable (_ ∧ _))

/-- Both recorded times are missing, or both are there and in order. -/
def BarRevision.VersionEvidence (r : BarRevision) : Prop :=
  match r.previousRecordedAt, r.incomingRecordedAt with
  | none, none => True
  | some previous, some incoming =>
    previous < incoming ∧ previous ≥ r.previousAsOf ∧ incoming ≥ r.incomingAsOf ∧
      incoming = r.revisedAt ∧ r.previousAsOf < r.incomingAsOf ∧
      r.previousFetchedAt < r.incomingFetchedAt
  | _, _ => False

instance (r : BarRevision) : Decidable r.VersionEvidence := by
  unfold BarRevision.VersionEvidence
  split <;> infer_instance

def BarRevision.Checks (r : BarRevision) : Prop :=
  r.key.multiplier ≥ 1 ∧ r.previous.Checks ∧ r.incoming.Checks ∧
  (r.previousFetchedAt ≥ r.key.ts ∧ r.incomingFetchedAt ≥ r.key.ts ∧
    r.previousAsOf ≥ r.previousFetchedAt ∧ r.incomingAsOf ≥ r.incomingFetchedAt) ∧
  r.VersionEvidence ∧ (r.previousCreatorXid ≥ 0 ∧ r.incomingCreatorXid ≥ 0)

instance (r : BarRevision) : Decidable r.Checks := inferInstanceAs (Decidable (_ ∧ _))

def Receipt.Checks (r : Receipt) : Prop := r.key.multiplier ≥ 1 ∧ r.availableAt ≥ r.versionRecordedAt

instance (r : Receipt) : Decidable r.Checks := inferInstanceAs (Decidable (_ ∧ _))

/-! ## The stored versions -/

/-- The version on the previous side, if its recorded time is known. -/
def BarRevision.previousSide (r : BarRevision) : Option Bar :=
  r.previousRecordedAt.map fun recordedAt =>
    ⟨⟨r.key, r.previous, r.previousFetchedAt, r.previousAsOf⟩, recordedAt, r.previousCreatorXid⟩

def BarRevision.incomingSide (r : BarRevision) : Option Bar :=
  r.incomingRecordedAt.map fun recordedAt =>
    ⟨⟨r.key, r.incoming, r.incomingFetchedAt, r.incomingAsOf⟩, recordedAt, r.incomingCreatorXid⟩

/-- The three lanes in which versions are stored. -/
def BarTables.lanes (t : BarTables) : List Bar :=
  t.bars ++ t.revisions.filterMap BarRevision.previousSide ++
    t.revisions.filterMap BarRevision.incomingSide

def BarTables.current (t : BarTables) (key : BarKey) : Option Bar :=
  t.bars.find? fun b => decide (b.key = key)

/-! ## Triggers -/

/-- The revision row of a value-changing update. -/
def revisionOf (old new : Bar) : BarRevision where
  key := old.key
  previous := old.values
  previousFetchedAt := old.fetchedAt
  previousAsOf := old.asOf
  incoming := new.values
  incomingFetchedAt := new.fetchedAt
  incomingAsOf := new.asOf
  previousRecordedAt := some old.recordedAt
  incomingRecordedAt := some new.recordedAt
  previousCreatorXid := old.creatorXid
  incomingCreatorXid := new.creatorXid
  revisedAt := new.recordedAt

/-- `version_bar_write` on an insert. -/
def stampInsert (tx : DbCall) (new : BarRow) : Bar :=
  { new with recordedAt := tx.clock, creatorXid := tx.txid }

/-- `version_bar_write` on an update: nothing where it returns NULL. -/
def stampUpdate (tx : DbCall) (old : Bar) (new : BarRow) : Except SqlError (Option Bar) :=
  if old.key ≠ new.key then .error ⟨"55000", "bar conflict keys are immutable"⟩
  else if old.values = new.values then .ok none
  else if new.asOf ≤ old.asOf ∨ new.fetchedAt ≤ old.fetchedAt then
    .error ⟨"55000", "changed bars require newer fetched_at and as_of"⟩
  else .ok (some
    { new with recordedAt := max tx.clock (old.recordedAt + 1), creatorXid := tx.txid })

/-- `INSERT INTO bars`, with the row it stored. -/
def insertBar (tx : DbCall) (new : BarRow) (t : BarTables) : Except SqlError (Bar × BarTables) := do
  refuseIf (¬ (stampInsert tx new).Checks) checkViolation
  refuseIf ((t.current new.key).isSome = true) uniqueViolation
  return (stampInsert tx new, { t with bars := t.bars ++ [stampInsert tx new] })

/-- The current row of a key is replaced. -/
def replaceBar (bars : List Bar) (b : Bar) : List Bar :=
  bars.map fun other => if other.key = b.key then b else other

/-- The row and its revision are stored together. -/
def storeVersion (old b : Bar) (t : BarTables) : Except SqlError (Option Bar × BarTables) := do
  refuseIf (¬ (revisionOf old b).Checks) checkViolation
  refuseIf (¬ b.Checks) checkViolation
  return (some b, { t with
    bars := replaceBar t.bars b
    revisions := t.revisions ++ [revisionOf old b] })

/-- `UPDATE bars` of one row, with the version it stored. -/
def updateBar (tx : DbCall) (key : BarKey) (new : BarRow) (t : BarTables) :
    Except SqlError (Option Bar × BarTables) :=
  match t.current key with
  | none => .ok (none, t)
  | some old => do
    match ← stampUpdate tx old new with
    | none => return (none, t)
    | some b => storeVersion old b t

/-- `stamp_bar_version_availability` and the insertion of the receipt. -/
def insertReceipt (tx : DbCall) (key : BarKey) (versionRecordedAt : Int) (t : BarTables) :
    Except SqlError BarTables := do
  refuseIf (¬ ∃ v ∈ t.lanes, v.key = key ∧ v.recordedAt = versionRecordedAt)
    (SqlError.mk "23503" "availability receipt does not identify a stored bar version")
  refuseIf (∃ v ∈ t.lanes, v.key = key ∧ v.recordedAt = versionRecordedAt ∧ v.creatorXid = tx.txid)
    (SqlError.mk "55000" "bar availability must be finalized after its write commits")
  refuseIf (¬ (Receipt.mk key versionRecordedAt tx.clock).Checks) checkViolation
  refuseIf (∃ r ∈ t.receipts, r.key = key ∧ r.versionRecordedAt = versionRecordedAt) uniqueViolation
  return { t with receipts := t.receipts ++ [⟨key, versionRecordedAt, tx.clock⟩] }

end StockApi.Bars

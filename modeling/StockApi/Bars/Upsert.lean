import StockApi.Bars.Tables
import Mathlib.Data.Prod.Lex
import Mathlib.Data.String.Basic

/-!
# Upserting a batch of bars

The planner, the `INSERT .. ON CONFLICT DO UPDATE` statement with its triggers, the check of what
was stored and the revisions that are read back.
-/

namespace StockApi.Bars

open Checked Relational

inductive UpsertError
  | versionConflict (message : String)
  | validation (message : String)
  | runtime (message : String)
  | sql (e : SqlError)
deriving DecidableEq

structure BarUpsertRow extends BarRow where
  fetched : key.ts ≤ fetchedAt
  available : fetchedAt ≤ asOf
deriving DecidableEq

structure BarRevisionRow where
  conflictKey : BarKey
  previous : BarUpsertRow
  incoming : BarUpsertRow
deriving DecidableEq

structure BarUpsertPlan where
  rows : List BarUpsertRow
  revisions : List BarRevisionRow
deriving DecidableEq

/-- The constructor of `BarUpsertRow` with its validator. -/
def barUpsertRow (row : BarRow) : Except UpsertError BarUpsertRow :=
  if fetched : row.key.ts ≤ row.fetchedAt then
    if available : row.fetchedAt ≤ row.asOf then .ok ⟨row, fetched, available⟩
    else .error (.validation "as_of must not be earlier than fetched_at")
  else .error (.validation "fetched_at must not be earlier than the bar timestamp")

/-- The columns of the conflict key in the order they are compared. -/
def BarKey.order (k : BarKey) :
    Lex (String × Lex (String × Lex (Int × Lex (Int × Lex (String × String))))) :=
  toLex (k.symbol, toLex (k.timespan, toLex (k.multiplier, toLex (k.ts,
    toLex (k.source, k.adjustmentBasis)))))

/-! ## Planning -/

/-- Of equal values the earliest availability is kept. -/
def dedupeRow (byKey : List BarUpsertRow) (row : BarUpsertRow) :
    Except UpsertError (List BarUpsertRow) :=
  match byKey.find? fun previous => decide (previous.key = row.key) with
  | none => .ok (byKey ++ [row])
  | some previous =>
    if previous.values ≠ row.values then
      .error (.versionConflict
        "one ingest batch cannot contain conflicting values for the same bar key")
    else if row.asOf < previous.asOf ∨ row.asOf = previous.asOf ∧ row.fetchedAt < previous.fetchedAt
    then .ok (byKey.map fun other => if other.key = row.key then row else other)
    else .ok byKey

def dedupeRows (rows : List BarUpsertRow) : Except UpsertError (List BarUpsertRow) := do
  let byKey ← rows.foldlM dedupeRow []
  return orderAsc (fun row => row.key.order) byKey

/-- A changed value without strictly newer evidence. -/
def Stale (previous incoming : BarRow) : Prop :=
  previous.values ≠ incoming.values ∧
    (incoming.asOf ≤ previous.asOf ∨ incoming.fetchedAt ≤ previous.fetchedAt)

instance (previous incoming : BarRow) : Decidable (Stale previous incoming) :=
  inferInstanceAs (Decidable (_ ∧ _))

def staleChange : UpsertError :=
  .versionConflict "changed bar values require strictly newer fetched_at and as_of timestamps"

def planRevisions (existing : BarKey → Option BarUpsertRow) :
    List BarUpsertRow → Except UpsertError (List BarRevisionRow)
  | [] => .ok []
  | row :: rest =>
    match existing row.key with
    | none => planRevisions existing rest
    | some previous =>
      if previous.values = row.values then planRevisions existing rest
      else if Stale previous.toBarRow row.toBarRow then .error staleChange
      else do
        let revisions ← planRevisions existing rest
        return ⟨row.key, previous, row⟩ :: revisions

/-- `{row.conflict_key: row for row in rows}`: a later row replaces an earlier one. -/
def rowByKey (rows : List BarUpsertRow) (key : BarKey) : Option BarUpsertRow :=
  rows.reverse.find? fun row => decide (row.key = key)

def buildBarUpsertPlanFromRows (rows existingRows : List BarUpsertRow) :
    Except UpsertError BarUpsertPlan := do
  let rowList ← dedupeRows rows
  let revisions ← planRevisions (rowByKey existingRows) rowList
  return ⟨rowList, revisions⟩

/-! ## Statements -/

/-- What the database supplies to one run: the clock is read once before the write, and by the
triggers of each row. -/
structure UpsertCall where
  txid : Int
  writeStartedAt : Int
  insertClock : BarKey → Int
  updateClock : BarKey → Int

def loadExistingBarRows (rows : List BarUpsertRow) (t : BarTables) :
    Except UpsertError (List BarUpsertRow) := do
  let rowList ← dedupeRows rows
  (t.bars.filter fun b => decide (∃ row ∈ rowList, row.key = b.key)).mapM
    fun b => barUpsertRow b.toBarRow

/-- The row as its insert trigger stamps it, which happens before the conflict is found. -/
def UpsertCall.proposed (call : UpsertCall) (row : BarRow) : Bar :=
  stampInsert ⟨call.insertClock row.key, call.txid⟩ row

/-- `ON CONFLICT DO UPDATE .. WHERE` the values are distinct. -/
def UpsertCall.onConflict (call : UpsertCall) (t : BarTables) (row : BarRow) (old : Bar) :
    Except SqlError BarTables := do
  refuseIf (¬ (call.proposed row).Checks) checkViolation
  if old.values = row.values then return t
  else
    let (_, t') ← updateBar ⟨call.updateClock row.key, call.txid⟩ row.key row t
    return t'

def UpsertCall.upsertBar (call : UpsertCall) (t : BarTables) (row : BarRow) :
    Except SqlError BarTables :=
  match t.current row.key with
  | some old => call.onConflict t row old
  | none => do
    let (_, t') ← insertBar ⟨call.insertClock row.key, call.txid⟩ row t
    return t'

def UpsertCall.executeBarUpsert (call : UpsertCall) (rows : List BarUpsertRow) (t : BarTables) :
    Except UpsertError BarTables := do
  let rowList ← dedupeRows rows
  ((rowList.map fun row => row.toBarRow).foldlM call.upsertBar t).mapError .sql

def verifyPersistedRows (rows : List BarUpsertRow) (t : BarTables) : Except UpsertError Unit := do
  let rowList ← dedupeRows rows
  let persisted ← loadExistingBarRows rowList t
  refuseIf (∃ incoming ∈ rowList,
      (rowByKey persisted incoming.key).map (fun current => current.values) ≠ some incoming.values)
    (.versionConflict "database retained a different bar version")

def ormRevisionToPlan (r : BarRevision) : Except UpsertError BarRevisionRow := do
  let previous ← barUpsertRow ⟨r.key, r.previous, r.previousFetchedAt, r.previousAsOf⟩
  let incoming ← barUpsertRow ⟨r.key, r.incoming, r.incomingFetchedAt, r.incomingAsOf⟩
  return ⟨incoming.key, previous, incoming⟩

/-- A revision to the row's own version that the database recorded no earlier than `started`. -/
def InWindow (started : Int) (row : BarRow) (r : BarRevision) : Prop :=
  (r.key = row.key ∧ r.incomingFetchedAt = row.fetchedAt ∧ r.incomingAsOf = row.asOf) ∧
    ∃ recordedAt ∈ r.incomingRecordedAt, started ≤ recordedAt

instance (started : Int) (row : BarRow) (r : BarRevision) : Decidable (InWindow started row r) :=
  inferInstanceAs (Decidable (_ ∧ _))

def loadPersistedRevisions (rows : List BarUpsertRow) (recordedNotBefore : Int) (t : BarTables) :
    Except UpsertError (List BarRevisionRow) := do
  let rowList ← dedupeRows rows
  let revisions ← (t.revisions.filter fun r =>
    decide (∃ row ∈ rowList, InWindow recordedNotBefore row.toBarRow r)).mapM ormRevisionToPlan
  refuseIf (¬ (revisions.map fun revision => revision.conflictKey).Nodup)
    (.runtime "database emitted duplicate revisions for one incoming bar version")
  return orderAsc (fun revision => revision.conflictKey.order) revisions

/-! ## The run -/

def UpsertCall.writeBarRows (call : UpsertCall) (rowList : List BarUpsertRow) (t : BarTables) :
    Except UpsertError (BarUpsertPlan × BarTables) := do
  let existingRows ← loadExistingBarRows rowList t
  let plan ← buildBarUpsertPlanFromRows rowList existingRows
  let t' ← call.executeBarUpsert plan.rows t
  verifyPersistedRows plan.rows t'
  let persistedRevisions ← loadPersistedRevisions plan.rows call.writeStartedAt t'
  return (⟨plan.rows, persistedRevisions⟩, t')

def UpsertCall.upsertBarRows (call : UpsertCall) (rows : List BarUpsertRow) (t : BarTables) :
    Except UpsertError (BarUpsertPlan × BarTables) := do
  let rowList ← dedupeRows rows
  if rowList.isEmpty then return (⟨[], []⟩, t) else call.writeBarRows rowList t

/-- The run inside one transaction, which is rolled back when it raises. -/
def UpsertCall.run (call : UpsertCall) (rows : List BarUpsertRow) (t : BarTables) :
    Except UpsertError BarUpsertPlan × BarTables :=
  match call.upsertBarRows rows t with
  | .ok (plan, t') => (.ok plan, t')
  | .error e => (.error e, t)

end StockApi.Bars

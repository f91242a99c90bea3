import StockApi.Acquisition.Ledger
import Mathlib.Logic.Relation

/-!
# The backfill lane

`AttemptLedger` and `execute_backfill` of `scripts/vendor_backfill.py`. The lane keeps a ledger of
its own and plans from that ledger alone.
-/

namespace StockApi.Acquisition.AttemptLedger

open Checked CivilTime

variable {δ : Type} [DecidableEq δ]

/-! ## Records -/

def authorizationSentinel : String := "stockapi-msft-backfill-only"

def schema : RecordType → List String
  | .authorization => [
      "authorization_id", "end_session", "max_calls", "plan_id", "record_type", "recorded_at",
      "symbol", "tool_revision"]
  | .attempt => [
      "attempt_number", "authorization_id", "plan_id", "record_type", "reserved_at", "session_date"]
  | .outcome => [
      "authorization_id", "failure_type", "plan_id", "record_type", "recorded_at", "session_date",
      "status"]

/-- What `_validate_records` has gathered. -/
structure Scan (δ : Type) where
  headers : String → Option (Json δ)
  attempts : List (String × Date)
  outcomes : List (String × Date)
  attemptCounts : String → Int

def Scan.empty : Scan δ := ⟨fun _ => none, [], [], fun _ => 0⟩

def Scan.addAuthorization (scan : Scan δ) (record : Json δ) (authorizationId : String) : Scan δ :=
  { scan with
    headers := Function.update scan.headers authorizationId (some record)
    attemptCounts := Function.update scan.attemptCounts authorizationId 0 }

def Scan.addAttempt (scan : Scan δ) (authorizationId : String) (sessionDate : Date) : Scan δ :=
  { scan with
    attempts := scan.attempts ++ [(authorizationId, sessionDate)]
    attemptCounts := Function.update scan.attemptCounts authorizationId
      (scan.attemptCounts authorizationId + 1) }

def validateAuthorization (scan : Scan δ) (record : Json δ) (authorizationId : String) :
    Except Raised (Scan δ) := do
  refuseIf ((scan.headers authorizationId).isSome = true)
    (Raised.valueError "duplicate ledger authorization")
  refuseIf (matching? matchesGitRevision (record.field "tool_revision") = none ∨
      record.field "symbol" ≠ text backfillSymbol ∨
      (record.field "max_calls").int?.any (fun n : Int => decide (1 ≤ n ∧ n ≤ requiredSessions)) = false)
    (Raised.valueError "invalid ledger authorization header")
  let _ ← parseLedgerDate (record.field "end_session")
  let _ ← parseLedgerTimestamp (record.field "recorded_at")
  return scan.addAuthorization record authorizationId

/-- The header of a child record, and its session. -/
def childSession (scan : Scan δ) (record : Json δ) (authorizationId : String) (planId : δ) :
    Except Raised (Json δ × Date) := do
  let header ← orRefuse (scan.headers authorizationId)
    (Raised.valueError "ledger child precedes or mismatches its authorization")
  refuseIf (header.field "plan_id" ≠ hash planId)
    (Raised.valueError "ledger child precedes or mismatches its authorization")
  let sessionDate ← parseLedgerDate (record.field "session_date")
  let endSession ← parseLedgerDate (header.field "end_session")
  refuseIf (endSession < sessionDate)
    (Raised.valueError "ledger attempt is after its authorized end session")
  return (header, sessionDate)

def validateAttempt (scan : Scan δ) (record : Json δ) (authorizationId : String) (planId : δ) :
    Except Raised (Scan δ) := do
  let (header, sessionDate) ← childSession scan record authorizationId planId
  let expectedNumber := scan.attemptCounts authorizationId + 1
  refuseIf ((authorizationId, sessionDate) ∈ scan.attempts ∨
      (record.field "attempt_number").int? ≠ some expectedNumber ∨
      (header.field "max_calls").int?.getD 0 < expectedNumber)
    (Raised.valueError "invalid or duplicate ledger attempt")
  let _ ← parseLedgerTimestamp (record.field "reserved_at")
  return scan.addAttempt authorizationId sessionDate

def failed : String := "failed"

def isOutcomeStatus (status : Json δ) : Bool :=
  decide (status = text checkpointed ∨ status = text failed)

def validateOutcome (scan : Scan δ) (record : Json δ) (authorizationId : String) (planId : δ) :
    Except Raised (Scan δ) := do
  let (_, sessionDate) ← childSession scan record authorizationId planId
  refuseIf ((authorizationId, sessionDate) ∉ scan.attempts ∨
      (authorizationId, sessionDate) ∈ scan.outcomes)
    (Raised.valueError "invalid or duplicate ledger outcome")
  refuseIf ((record.field "status").hashable = false) Raised.typeError
  refuseIf (isOutcomeStatus (record.field "status") = false)
    (Raised.valueError "invalid or duplicate ledger outcome")
  refuseIf ((record.field "status" = text checkpointed ∧ record.field "failure_type" ≠ .null) ∨
      record.field "status" = text failed ∧
        matching? matchesFailureType (record.field "failure_type") = none)
    (Raised.valueError "invalid ledger outcome detail")
  let _ ← parseLedgerTimestamp (record.field "recorded_at")
  return { scan with outcomes := scan.outcomes ++ [(authorizationId, sessionDate)] }

def validateRecord (scan : Scan δ) (record : Json δ) : Except Raised (Scan δ) := do
  let kind ← orRefuse (RecordType.ofName (record.field "record_type"))
    (Raised.valueError "unknown record type")
  refuseIf (¬ record.HasKeys (schema kind)) (Raised.valueError "ledger record schema mismatch")
  let authorizationId ← orRefuse (matching? matchesAuthorizationId (record.field "authorization_id"))
    (Raised.valueError "invalid ledger authorization id")
  let planId ← orRefuse (digest? (record.field "plan_id"))
    (Raised.valueError "invalid ledger plan id")
  match kind with
  | .authorization => validateAuthorization scan record authorizationId
  | .attempt => validateAttempt scan record authorizationId planId
  | .outcome => validateOutcome scan record authorizationId planId

/-- `_validate_records`. -/
def validateRecords (records : List (Json δ)) : Except Raised (Scan δ) :=
  records.foldlM validateRecord Scan.empty

/-! ## Reading -/

/-- `_records`. A refusal of this lane is a `BackfillRefused`, the base of `AcquisitionRefused`. -/
def readRecords (file : LedgerFile δ) : Except Raised (List (Json δ)) :=
  let checked := do
    refuseIf (file.lines.any (fun line => !line.isObject) = true) (Raised.valueError "non-object line")
    validateRecords file.lines
  match checked with
  | .ok _ => .ok file.lines
  | .error (.valueError _) =>
    .error (.acquisitionRefused "attempt ledger is unreadable; stop for forensics")
  | .error e => .error e

/-- The identity under which an attempt and its outcome meet. -/
def attemptKey (record : Json δ) : Json δ × Json δ × Json δ :=
  (record.field "authorization_id", record.field "plan_id", record.field "session_date")

/-- `attempts.difference(outcomes)`. -/
def openKeys (records : List (Json δ)) : List (Json δ × Json δ × Json δ) :=
  ((records.filter (isRecord .attempt)).map attemptKey).filter fun key =>
    decide (key ∉ (records.filter (isRecord .outcome)).map attemptKey)

/-- `unresolved_dates`. -/
def unresolvedDates (file : LedgerFile δ) : Except Raised (List Date) := do
  let records ← readRecords file
  let dates ← orRefuse ((openKeys records).mapM fun key => isoDate? key.2.2)
    (Raised.acquisitionRefused "attempt ledger contains an invalid session date")
  return Dict.sortedSet dates

/-! ## Writing -/

def authorizationDocument (authorizationId : Text δ) (plan : BackfillPlan δ) (maxCalls : Int)
    (recordedAt : Json δ) : Json δ :=
  .obj [
    ("authorization_id", .str authorizationId),
    ("end_session", isoDate plan.endSession),
    ("max_calls", .int maxCalls),
    ("plan_id", hash plan.planId),
    ("record_type", text RecordType.authorization.name),
    ("recorded_at", recordedAt),
    ("symbol", text backfillSymbol),
    ("tool_revision", text plan.toolRevision)]

/-- `begin_authorization`. -/
def beginAuthorization (now : Option Instant) (authorizationId : Text δ) (plan : BackfillPlan δ)
    (maxCalls : Int) (file : LedgerFile δ) : Except Raised Unit × LedgerFile δ :=
  appending file do
    validateAuthorizationId authorizationId
    let records ← readRecords file
    refuseIf (records.any (fun r => decide (r.field "authorization_id" = .str authorizationId)) = true)
      (Raised.acquisitionRefused "authorization_id is already consumed; obtain a fresh grant")
    let recordedAt ← awareIso now
    return (authorizationDocument authorizationId plan maxCalls recordedAt, ())

def attemptDocument (authorizationId : Text δ) (planId : δ) (attemptNumber : Int)
    (sessionDate : Date) (reservedAt : Json δ) : Json δ :=
  .obj [
    ("attempt_number", .int attemptNumber),
    ("authorization_id", .str authorizationId),
    ("plan_id", hash planId),
    ("record_type", text RecordType.attempt.name),
    ("reserved_at", reservedAt),
    ("session_date", isoDate sessionDate)]

/-- The header of an authorization. -/
def oneHeader (records : List (Json δ)) (authorizationId : Text δ) : Except Raised (Json δ) :=
  match records.filter fun r => isRecord .authorization r &&
      decide (r.field "authorization_id" = .str authorizationId) with
  | [header] => .ok header
  | _ => .error (.acquisitionRefused "authorization ledger header is missing or ambiguous")

/-- `reserve_attempt`. -/
def reserveAttempt (now : Option Instant) (authorizationId : Text δ) (planId : δ) (sessionDate : Date)
    (file : LedgerFile δ) : Except Raised Int × LedgerFile δ :=
  appending file do
    let records ← readRecords file
    let header ← oneHeader records authorizationId
    refuseIf (header.field "plan_id" ≠ hash planId)
      (Raised.acquisitionRefused "authorization ledger plan does not match execution")
    let attempts := records.filter fun r => isRecord .attempt r &&
      decide (r.field "authorization_id" = .str authorizationId)
    refuseIf (attempts.any (fun r => decide (r.field "session_date" = isoDate sessionDate)) = true)
      (Raised.acquisitionRefused "this authorization already reserved the session attempt")
    refuseIf ((header.field "max_calls").int?.getD 0 ≤ attempts.length)
      (Raised.acquisitionRefused "authorization call budget is exhausted")
    let reservedAt ← awareIso now
    return (attemptDocument authorizationId planId (attempts.length + 1) sessionDate reservedAt,
      (attempts.length : Int) + 1)

def outcomeDocument (authorizationId : Text δ) (planId : δ) (sessionDate : Date) (status : String)
    (failureType : Option String) (recordedAt : Json δ) : Json δ :=
  .obj [
    ("authorization_id", .str authorizationId),
    ("failure_type", (failureType.map text).getD .null),
    ("plan_id", hash planId),
    ("record_type", text RecordType.outcome.name),
    ("recorded_at", recordedAt),
    ("session_date", isoDate sessionDate),
    ("status", text status)]

def ofAttempt (kind : RecordType) (authorizationId : Text δ) (planId : δ) (sessionDate : Date)
    (record : Json δ) : Bool :=
  isRecord kind record && decide (record.field "authorization_id" = .str authorizationId ∧
    record.field "plan_id" = hash planId ∧ record.field "session_date" = isoDate sessionDate)

/-- `finish_attempt`. -/
def finishAttempt (now : Option Instant) (authorizationId : Text δ) (planId : δ) (sessionDate : Date)
    (status : String) (failureType : Option String) (file : LedgerFile δ) :
    Except Raised Unit × LedgerFile δ :=
  appending file do
    refuseIf (status ≠ checkpointed ∧ status ≠ failed)
      (Raised.acquisitionRefused "attempt outcome status is invalid")
    let records ← readRecords file
    refuseIf ((records.filter (ofAttempt .attempt authorizationId planId sessionDate)).length ≠ 1 ∨
        records.filter (ofAttempt .outcome authorizationId planId sessionDate) ≠ [])
      (Raised.acquisitionRefused "attempt outcome does not identify one open reservation")
    let recordedAt ← awareIso now
    return (outcomeDocument authorizationId planId sessionDate status failureType recordedAt, ())

/-! ## Executing a plan -/

structure Arguments (δ : Type) where
  planId : Text δ
  maxCalls : Int
  authorization : String
  authorizationId : Text δ

/-- The checks before the operation lock is taken. -/
def checkArguments (args : Arguments δ) : Except Raised Unit := do
  refuseIf (args.authorization ≠ authorizationSentinel)
    (Raised.acquisitionRefused ("authorization must be exactly " ++ authorizationSentinel))
  validateAuthorizationId args.authorizationId
  refuseIf (digest? (.str args.planId) = none)
    (Raised.acquisitionRefused "plan_id must be a sha256 digest from the plan command")
  refuseIf (args.maxCalls < 1 ∨ requiredSessions < args.maxCalls)
    (Raised.acquisitionRefused "max_calls must be between 1 and 258")

/-- The checks of a plan against the reviewed arguments. -/
def acceptPlan (plan : BackfillPlan δ) (args : Arguments δ) : Except Raised Unit := do
  refuseIf (.digest plan.planId ≠ args.planId)
    (Raised.acquisitionRefused "database state no longer matches the authorized plan_id")
  refuseIf (plan.smokeAnchorPresent = false)
    (Raised.acquisitionRefused "latest-session smoke bar and receipt must exist first")
  refuseIf (plan.ambiguousDates ≠ [])
    (Raised.acquisitionRefused "an unresolved prior attempt overlaps missing data; stop for forensics")
  refuseIf (plan.missingDates = [])
    (Raised.acquisitionRefused "no outbound vendor calls are required")
  refuseIf (args.maxCalls ≠ plan.missingDates.length)
    (Raised.acquisitionRefused "max_calls must equal the plan's exact missing-session attempt count")

/-- Where a run stands; a session is followed by the sessions that are still to come. -/
inductive Stage where
  | accepted
  | looping (rest : List Date)
  | reserved (sessionDate : Date) (rest : List Date)
  | performed (sessionDate : Date) (rest : List Date) (failure : Option String)

structure Run (δ : Type) where
  args : Arguments δ
  plan : BackfillPlan δ
  stage : Stage

/-- The ledger of the lane, its run and the sessions it has sent a request for. -/
structure Lane (δ : Type) where
  file : LedgerFile δ
  run : Option (Run δ)
  sends : List Date

variable [ContentHash δ]

/-- One step of `execute_backfill`. What the store and the provider answer is not determined. -/
inductive Step : Lane δ → Lane δ → Prop
  /-- The lock is free, and the plan taken under it is the reviewed one. -/
  | start {file sends args endSession expectedDates coverage toolRevision ambiguous plan}
      (arguments : checkArguments args = .ok ())
      (unresolved : unresolvedDates file = .ok ambiguous)
      (current : buildPlan endSession expectedDates coverage toolRevision ambiguous = .ok plan)
      (reviewed : acceptPlan plan args = .ok ()) :
      Step ⟨file, none, sends⟩ ⟨file, some ⟨args, plan, .accepted⟩, sends⟩
  /-- Receipts are repaired once the header is there. -/
  | authorize {file file' sends args plan now}
      (append : beginAuthorization now args.authorizationId plan args.maxCalls file = (.ok (), file')) :
      Step ⟨file, some ⟨args, plan, .accepted⟩, sends⟩
        ⟨file', some ⟨args, plan, .looping plan.missingDates⟩, sends⟩
  /-- A session whose bar is there already is passed over. -/
  | evidencePresent {file sends args plan sessionDate rest} :
      Step ⟨file, some ⟨args, plan, .looping (sessionDate :: rest)⟩, sends⟩
        ⟨file, some ⟨args, plan, .looping rest⟩, sends⟩
  | reserve {file file' sends args plan sessionDate rest now number}
      (append : reserveAttempt now args.authorizationId plan.planId sessionDate file =
        (.ok number, file')) :
      Step ⟨file, some ⟨args, plan, .looping (sessionDate :: rest)⟩, sends⟩
        ⟨file', some ⟨args, plan, .reserved sessionDate rest⟩, sends⟩
  /-- The provider sends a request for the reserved session. -/
  | send {file sends args plan sessionDate rest} :
      Step ⟨file, some ⟨args, plan, .reserved sessionDate rest⟩, sends⟩
        ⟨file, some ⟨args, plan, .reserved sessionDate rest⟩, sends ++ [sessionDate]⟩
  /-- The bar and its receipt are stored, or an exception of the named type is raised. -/
  | perform {file sends args plan sessionDate rest} (failure : Option String) :
      Step ⟨file, some ⟨args, plan, .reserved sessionDate rest⟩, sends⟩
        ⟨file, some ⟨args, plan, .performed sessionDate rest failure⟩, sends⟩
  | checkpoint {file file' sends args plan sessionDate rest now}
      (append : finishAttempt now args.authorizationId plan.planId sessionDate checkpointed none file =
        (.ok (), file')) :
      Step ⟨file, some ⟨args, plan, .performed sessionDate rest none⟩, sends⟩
        ⟨file', some ⟨args, plan, .looping rest⟩, sends⟩
  /-- A failed session ends the run. -/
  | fail {file file' sends args plan sessionDate rest failure now}
      (append : finishAttempt now args.authorizationId plan.planId sessionDate failed (some failure)
        file = (.ok (), file')) :
      Step ⟨file, some ⟨args, plan, .performed sessionDate rest (some failure)⟩, sends⟩
        ⟨file', none, sends⟩
  /-- An exception, the normal end or the death of the process: what follows only reads. -/
  | stop {file sends run} : Step ⟨file, some run, sends⟩ ⟨file, none, sends⟩

end StockApi.Acquisition.AttemptLedger

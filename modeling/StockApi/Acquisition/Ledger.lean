import StockApi.Acquisition.Plan

/-!
# The acquisition ledger

`AcquisitionLedger`: the validator of a whole file and the three writers. Every line of the
file is represented by the document it holds. Each writer re-reads the file, computes one
record or refuses, and only then appends.
-/

namespace StockApi.Acquisition

open Checked CivilTime

variable {δ : Type}

/-! ## Records -/

inductive RecordType where
  | authorization
  | attempt
  | outcome
deriving DecidableEq

def RecordType.name : RecordType → String
  | .authorization => "authorization"
  | .attempt => "attempt"
  | .outcome => "outcome"

def RecordType.ofName : Json δ → Option RecordType
  | .str (.plain "authorization") => some .authorization
  | .str (.plain "attempt") => some .attempt
  | .str (.plain "outcome") => some .outcome
  | _ => none

def RecordType.schema : RecordType → List String
  | .authorization => [
      "allocation", "authorization", "authorization_id", "calls", "calls_sha256",
      "campaign_authorized_calls", "campaign_base_calls", "campaign_budget_delta", "campaign_id",
      "campaign_ledger_sha256_before", "campaign_reserved_before", "campaign_scope", "max_calls",
      "plan_id", "record_type", "recorded_at", "schema_version", "symbol", "tool_revision",
      "window_end", "window_start"]
  | .attempt => [
      "attempt_number", "authorization_id", "call_id", "call_kind", "campaign_attempt_number",
      "campaign_id", "end", "endpoint", "plan_id", "record_type", "reserved_at", "schema_version",
      "start", "symbol"]
  | .outcome => [
      "authorization_id", "call_id", "call_kind", "campaign_id", "evidence_id", "failure_type",
      "plan_id", "record_type", "recorded_at", "schema_version", "status"]

/-- `record.get("record_type") == kind`. -/
def isRecord [DecidableEq δ] (kind : RecordType) (record : Json δ) : Bool :=
  decide (record.field "record_type" = text kind.name)

structure RecordIds (δ : Type) where
  authorizationId : String
  planId : δ
  campaignId : δ

/-- The identities every record carries. -/
def recordIds (record : Json δ) : Option (RecordIds δ) := do
  let authorizationId ← matching? matchesAuthorizationId (record.field "authorization_id")
  let planId ← digest? (record.field "plan_id")
  let campaignId ← digest? (record.field "campaign_id")
  return { authorizationId, planId, campaignId }

/-- `_parse_ledger_timestamp`. -/
def parseLedgerTimestamp : Json δ → Except Raised ParsedDateTime
  | .str (.plain s) =>
    match ParsedDateTime.fromisoformat s with
    | some parsed =>
      if parsed.offset = none then .error (.valueError "ledger timestamp must be timezone-aware")
      else .ok parsed
    | none => .error (.valueError "Invalid isoformat string")
  | .str (.digest _) => .error (.valueError "Invalid isoformat string")
  | _ => .error (.valueError "ledger timestamp must be text")

/-- `_parse_ledger_date`. -/
def parseLedgerDate (value : Json δ) : Except Raised Date :=
  match value.text? with
  | none => .error (.valueError "ledger date must be text")
  | some _ => orRefuse (isoDate? value) (.valueError "Invalid isoformat string")

/-- `_aware_iso` of a clock reading; a reading without a zone is `none`. -/
def awareIso (now : Option Instant) : Except Raised (Json δ) :=
  match now with
  | some t => .ok (text t.isoformat)
  | none => .error (.acquisitionRefused "ledger clock must be timezone-aware")

variable [DecidableEq δ] [ContentHash δ]

/-- The calls an authorization record lists. -/
def headerCalls (header : Json δ) : Except Raised (List AcquisitionCall) :=
  ((header.field "calls").items?.getD []).mapM callFromDocument

/-- `{value.call_id: value for value in calls}`. -/
def callMap (calls : List AcquisitionCall) : List (δ × AcquisitionCall) :=
  Dict.ofEntries (calls.map fun c => (c.callId, c))

/-- `{value.call_id: index for index, value in enumerate(calls)}`. -/
def callPositions (calls : List AcquisitionCall) : List (δ × Nat) :=
  Dict.ofEntries (calls.zipIdx.map fun p => (p.1.callId, p.2))

/-- The action calls listed before a position. -/
def earlierActionIds (calls : List AcquisitionCall) (position : Nat) : List δ :=
  ((calls.take position).filter (·.kind.isAction)).map (·.callId)

/-! ## The validator -/

/-- What `_validate_records` has gathered from the records read so far. -/
structure LedgerScan (δ : Type) where
  headers : String → Option (Json δ)
  attempts : List (String × δ)
  outcomes : List (String × δ)
  attemptCounts : String → Int
  lastCallPositions : String → Int
  campaignRecords : δ → List (Json δ)
  campaignBaseCalls : δ → Option Int
  campaignAuthorizedCalls : δ → Int
  campaignReservedCalls : δ → Int

def LedgerScan.empty : LedgerScan δ where
  headers := fun _ => none
  attempts := []
  outcomes := []
  attemptCounts := fun _ => 0
  lastCallPositions := fun _ => -1
  campaignRecords := fun _ => []
  campaignBaseCalls := fun _ => none
  campaignAuthorizedCalls := fun _ => 0
  campaignReservedCalls := fun _ => 0

/-- The five counters of an authorization record. -/
structure AuthorizationCounters where
  maxCalls : Int
  baseCalls : Int
  budgetDelta : Int
  authorizedCalls : Int
  reservedBefore : Int

def authorizationCounters (record : Json δ) : Option AuthorizationCounters := do
  let maxCalls ← (record.field "max_calls").int?
  let baseCalls ← (record.field "campaign_base_calls").int?
  let budgetDelta ← (record.field "campaign_budget_delta").int?
  let authorizedCalls ← (record.field "campaign_authorized_calls").int?
  let reservedBefore ← (record.field "campaign_reserved_before").int?
  return { maxCalls, baseCalls, budgetDelta, authorizedCalls, reservedBefore }

/-- The header conditions of an authorization, against the scan so far. -/
def AuthorizationHeader (scan : LedgerScan δ) (record : Json δ) (campaignId : δ)
    (calls : List AcquisitionCall) (c : AuthorizationCounters) : Prop :=
  let priorAuthorized := scan.campaignAuthorizedCalls campaignId
  let priorReserved := scan.campaignReservedCalls campaignId
  let expectedBase := (scan.campaignBaseCalls campaignId).getD c.maxCalls
  let expectedDelta := max 0 (priorReserved + calls.length - priorAuthorized)
  record.field "authorization" = text authorizationSentinel ∧
  record.field "symbol" = text backfillSymbol ∧
  (matching? matchesGitRevision (record.field "tool_revision")).isSome = true ∧
  (record.field "allocation").pyEq (allocation calls) = true ∧
  c.maxCalls = calls.length ∧
  (1 ≤ c.maxCalls ∧ c.maxCalls ≤ maxAuthorizedCalls) ∧
  c.baseCalls = expectedBase ∧
  (1 ≤ c.baseCalls ∧ c.baseCalls ≤ maxAuthorizedCalls) ∧
  c.budgetDelta = expectedDelta ∧
  c.authorizedCalls = priorAuthorized + c.budgetDelta ∧
  c.authorizedCalls ≤ min (expectedBase + maxRecoveryCalls) absoluteMaxCampaignCalls ∧
  priorReserved + calls.length ≤ c.authorizedCalls ∧
  c.reservedBefore = priorReserved ∧
  record.field "campaign_ledger_sha256_before" =
    hash (contentId (.arr (scan.campaignRecords campaignId))) ∧
  record.field "calls_sha256" = hash (contentId (callsDocument calls))

instance (scan : LedgerScan δ) (record : Json δ) (campaignId : δ) (calls : List AcquisitionCall)
    (c : AuthorizationCounters) : Decidable (AuthorizationHeader scan record campaignId calls c) :=
  inferInstanceAs (Decidable (_ ∧ _))

/-- The window conditions of an authorization. -/
def WithinCampaignWindow (record scope : Json δ) (start stop : Date) (calls : List AcquisitionCall) :
    Prop :=
  start ≤ stop ∧
  record.field "window_start" = scope.field "window_start" ∧
  record.field "window_end" = scope.field "window_end" ∧
  ∀ call ∈ calls, start ≤ call.start ∧ call.stop ≤ stop ∧
    (call.kind = .openClose → isoDate call.start ∈ (scope.field "expected_sessions").items?.getD [])

instance (record scope : Json δ) (start stop : Date) (calls : List AcquisitionCall) :
    Decidable (WithinCampaignWindow record scope start stop calls) :=
  inferInstanceAs (Decidable (_ ∧ _))

def LedgerScan.addAuthorization (scan : LedgerScan δ) (record : Json δ) (ids : RecordIds δ)
    (c : AuthorizationCounters) : LedgerScan δ :=
  { scan with
    headers := Function.update scan.headers ids.authorizationId (some record)
    attemptCounts := Function.update scan.attemptCounts ids.authorizationId 0
    lastCallPositions := Function.update scan.lastCallPositions ids.authorizationId (-1)
    campaignBaseCalls := Function.update scan.campaignBaseCalls ids.campaignId (some c.baseCalls)
    campaignAuthorizedCalls :=
      Function.update scan.campaignAuthorizedCalls ids.campaignId c.authorizedCalls
    campaignRecords := Function.update scan.campaignRecords ids.campaignId
      (scan.campaignRecords ids.campaignId ++ [record]) }

def validateAuthorization (scan : LedgerScan δ) (record : Json δ) (ids : RecordIds δ) :
    Except Raised (LedgerScan δ) := do
  refuseIf ((scan.headers ids.authorizationId).isSome = true)
    (Raised.valueError "duplicate ledger authorization")
  let items ← orRefuse (record.field "calls").items?
    (Raised.valueError "authorization calls must be an array")
  let calls ← items.mapM callFromDocument
  validateCallOrder calls
  let scope ← validateCampaignScope (record.field "campaign_scope")
  refuseIf (ids.campaignId ≠ contentId scope)
    (Raised.valueError "authorization campaign identity is invalid")
  let counters ← orRefuse (authorizationCounters record)
    (Raised.valueError "authorization campaign counters are invalid")
  refuseIf (¬ AuthorizationHeader scan record ids.campaignId calls counters)
    (Raised.valueError "authorization header is invalid")
  let start ← parseLedgerDate (record.field "window_start")
  let stop ← parseLedgerDate (record.field "window_end")
  refuseIf (¬ WithinCampaignWindow record scope start stop calls)
    (Raised.valueError "authorization calls escaped the campaign window")
  let _ ← parseLedgerTimestamp (record.field "recorded_at")
  return scan.addAuthorization record ids counters

/-- The authorization a child record belongs to and the call it names. -/
structure ChildCall (δ : Type) where
  orderedHeaderCalls : List AcquisitionCall
  callId : δ
  call : AcquisitionCall

/-- Where the call stands among the calls of its header. -/
def ChildCall.position (child : ChildCall δ) : Nat :=
  ((callPositions child.orderedHeaderCalls).lookup child.callId).getD 0

def childCall (scan : LedgerScan δ) (record : Json δ) (ids : RecordIds δ) :
    Except Raised (ChildCall δ) := do
  let header ← orRefuse (scan.headers ids.authorizationId)
    (Raised.valueError "ledger child precedes or mismatches authorization")
  refuseIf (header.field "plan_id" ≠ hash ids.planId ∨
      header.field "campaign_id" ≠ hash ids.campaignId)
    (Raised.valueError "ledger child precedes or mismatches authorization")
  refuseIf ((record.field "call_id").text? = none ∨ (record.field "call_kind").text? = none)
    (Raised.valueError "ledger call identity is invalid")
  let calls ← headerCalls header
  let callId ← orRefuse (digest? (record.field "call_id"))
    (Raised.valueError "ledger call escaped authorization")
  let call ← orRefuse ((callMap calls).lookup callId)
    (Raised.valueError "ledger call escaped authorization")
  refuseIf (record.field "call_kind" ≠ text call.kind.name)
    (Raised.valueError "ledger call escaped authorization")
  return { orderedHeaderCalls := (callMap (δ := δ) calls).map Prod.snd, callId, call }

/-- The conditions of an attempt, against the scan so far. -/
def AttemptRecord (scan : LedgerScan δ) (record : Json δ) (ids : RecordIds δ) (child : ChildCall δ)
    (position : Nat) : Prop :=
  let expectedNumber := scan.attemptCounts ids.authorizationId + 1
  let expectedCampaignNumber := scan.campaignReservedCalls ids.campaignId + 1
  (ids.authorizationId, child.callId) ∉ scan.attempts ∧
  (record.field "attempt_number").int? = some expectedNumber ∧
  (record.field "campaign_attempt_number").int? = some expectedCampaignNumber ∧
  expectedCampaignNumber ≤ scan.campaignAuthorizedCalls ids.campaignId ∧
  record.field "endpoint" = text child.call.endpoint ∧
  record.field "symbol" = text child.call.symbol ∧
  record.field "start" = isoDate child.call.start ∧
  record.field "end" = isoDate child.call.stop ∧
  scan.lastCallPositions ids.authorizationId < position ∧
  ∀ i ∈ earlierActionIds child.orderedHeaderCalls position, (ids.authorizationId, i) ∈ scan.attempts

instance (scan : LedgerScan δ) (record : Json δ) (ids : RecordIds δ) (child : ChildCall δ)
    (position : Nat) : Decidable (AttemptRecord scan record ids child position) :=
  inferInstanceAs (Decidable (_ ∧ _))

def LedgerScan.addAttempt (scan : LedgerScan δ) (record : Json δ) (ids : RecordIds δ) (callId : δ)
    (position : Nat) : LedgerScan δ :=
  { scan with
    attempts := scan.attempts ++ [(ids.authorizationId, callId)]
    attemptCounts := Function.update scan.attemptCounts ids.authorizationId
      (scan.attemptCounts ids.authorizationId + 1)
    lastCallPositions := Function.update scan.lastCallPositions ids.authorizationId position
    campaignReservedCalls := Function.update scan.campaignReservedCalls ids.campaignId
      (scan.campaignReservedCalls ids.campaignId + 1)
    campaignRecords := Function.update scan.campaignRecords ids.campaignId
      (scan.campaignRecords ids.campaignId ++ [record]) }

def validateAttempt (scan : LedgerScan δ) (record : Json δ) (ids : RecordIds δ) :
    Except Raised (LedgerScan δ) := do
  let child ← childCall scan record ids
  refuseIf (¬ AttemptRecord scan record ids child child.position)
    (Raised.valueError "ledger attempt is invalid")
  let _ ← parseLedgerTimestamp (record.field "reserved_at")
  return scan.addAttempt record ids child.callId child.position

def checkpointed : String := "checkpointed"
def failedBeforeAdmission : String := "failed_before_admission"
def failedAfterAdmission : String := "failed_after_admission"

def isOutcomeStatus (status : Json δ) : Bool :=
  decide (status = text checkpointed ∨ status = text failedBeforeAdmission ∨
    status = text failedAfterAdmission)

def LedgerScan.addOutcome (scan : LedgerScan δ) (record : Json δ) (ids : RecordIds δ) (callId : δ) :
    LedgerScan δ :=
  { scan with
    outcomes := scan.outcomes ++ [(ids.authorizationId, callId)]
    campaignRecords := Function.update scan.campaignRecords ids.campaignId
      (scan.campaignRecords ids.campaignId ++ [record]) }

/-- A checkpoint carries an evidence digest and no failure; a failure carries its type alone. -/
def outcomeDetail (record : Json δ) : Except Raised Unit :=
  if record.field "status" = text checkpointed then
    refuseIf (digest? (record.field "evidence_id") = none ∨ record.field "failure_type" ≠ .null)
      (.valueError "checkpointed outcome evidence is invalid")
  else
    refuseIf (record.field "evidence_id" ≠ .null ∨
        matching? matchesFailureType (record.field "failure_type") = none)
      (.valueError "failed outcome detail is invalid")

def validateOutcome (scan : LedgerScan δ) (record : Json δ) (ids : RecordIds δ) :
    Except Raised (LedgerScan δ) := do
  let child ← childCall scan record ids
  refuseIf ((ids.authorizationId, child.callId) ∉ scan.attempts ∨
      (ids.authorizationId, child.callId) ∈ scan.outcomes)
    (Raised.valueError "ledger outcome is invalid")
  refuseIf ((record.field "status").hashable = false) Raised.typeError
  refuseIf (isOutcomeStatus (record.field "status") = false)
    (Raised.valueError "ledger outcome is invalid")
  outcomeDetail record
  let _ ← parseLedgerTimestamp (record.field "recorded_at")
  return scan.addOutcome record ids child.callId

/-- The schema that a record's type selects, which its keys must equal. -/
def recordType (record : Json δ) : Except Raised RecordType := do
  refuseIf ((record.field "record_type").hashable = false) Raised.typeError
  let kind ← orRefuse (RecordType.ofName (record.field "record_type"))
    (Raised.valueError "ledger record schema mismatch")
  refuseIf (¬ record.HasKeys kind.schema) (Raised.valueError "ledger record schema mismatch")
  return kind

def validateRecord (scan : LedgerScan δ) (record : Json δ) : Except Raised (LedgerScan δ) := do
  let kind ← recordType record
  refuseIf (¬ (record.field "schema_version").pyEq (.int acquisitionSchemaVersion))
    (Raised.valueError "ledger schema version mismatch")
  let ids ← orRefuse (recordIds record) (Raised.valueError "ledger identity is invalid")
  match kind with
  | .authorization => validateAuthorization scan record ids
  | .attempt => validateAttempt scan record ids
  | .outcome => validateOutcome scan record ids

/-- `_validate_records`. -/
def validateRecords (records : List (Json δ)) : Except Raised (LedgerScan δ) :=
  records.foldlM validateRecord LedgerScan.empty

/-! ## Reading -/

/-- The ledger file: absent, or the documents on its lines. -/
abbrev LedgerFile (δ : Type) := Option (List (Json δ))

def LedgerFile.lines (file : LedgerFile δ) : List (Json δ) := file.getD []

/-- `_records`. -/
def readRecords (file : LedgerFile δ) : Except Raised (List (Json δ)) :=
  let checked := do
    refuseIf (file.lines.any (fun line => !line.isObject) = true) (Raised.valueError "non-object line")
    validateRecords file.lines
  match checked with
  | .ok _ => .ok file.lines
  | .error (.valueError _) =>
    .error (.acquisitionRefused "acquisition ledger is unreadable; stop for forensics")
  | .error e => .error e

/-- `_one_header`. -/
def oneHeader (records : List (Json δ)) (authorizationId planId : Text δ) :
    Except Raised (Json δ) :=
  match records.filter fun r => isRecord .authorization r &&
      decide (r.field "authorization_id" = .str authorizationId ∧ r.field "plan_id" = .str planId) with
  | [header] => .ok header
  | _ => .error (.acquisitionRefused "authorization ledger header is missing or ambiguous")

/-- `_authorization_attempts`. -/
def authorizationAttempts (records : List (Json δ)) (authorizationId planId : Text δ) :
    List (Json δ) :=
  records.filter fun r => isRecord .attempt r &&
    decide (r.field "authorization_id" = .str authorizationId ∧ r.field "plan_id" = .str planId)

def campaignRecordsOf (records : List (Json δ)) (campaignId : δ) : List (Json δ) :=
  records.filter fun r => decide (r.field "campaign_id" = hash campaignId)

/-- The state of a campaign that has no authorization yet. -/
def unauthorizedState (records : List (Json δ)) (campaignId : δ) (campaignScope : Json δ) :
    Except Raised (CampaignLedgerState δ) :=
  CampaignLedgerState.construct campaignId campaignScope (contentId (.arr [])) 0
    (contentId (.arr records)) records.length none 0 0 []

/-- The state of a campaign whose authorizations run from `first` to `last`. -/
def authorizedState (records : List (Json δ)) (campaignId : δ) (campaignScope first last : Json δ) :
    Except Raised (CampaignLedgerState δ) :=
  let campaignRecords := campaignRecordsOf records campaignId
  let attempts := campaignRecords.filter (isRecord .attempt)
  let admittedFailures := (campaignRecords.filter fun r => isRecord .outcome r &&
    decide (r.field "status" = text failedAfterAdmission)).map (·.field "call_id")
  CampaignLedgerState.construct campaignId campaignScope (contentId (.arr campaignRecords))
    campaignRecords.length (contentId (.arr records)) records.length
    (first.field "campaign_base_calls").int?
    ((last.field "campaign_authorized_calls").int?.getD 0) attempts.length admittedFailures

def campaignHeaders (records : List (Json δ)) (campaignId : δ) : List (Json δ) :=
  (campaignRecordsOf records campaignId).filter (isRecord .authorization)

/-- `_campaign_state_from_records`. -/
def campaignStateFromRecords (records : List (Json δ)) (campaignId : δ) (campaignScope : Json δ) :
    Except Raised (CampaignLedgerState δ) :=
  if campaignId ≠ contentId campaignScope then
    .error (.acquisitionRefused "campaign identity does not match its stable scope")
  else
    match (campaignHeaders records campaignId).head?, (campaignHeaders records campaignId).getLast? with
    | some first, some last =>
      if (campaignHeaders records campaignId).any
          (fun h => !(h.field "campaign_scope").pyEq campaignScope) = true then
        .error (.acquisitionRefused "campaign ledger scope is inconsistent")
      else authorizedState records campaignId campaignScope first last
    | _, _ => unauthorizedState records campaignId campaignScope

def campaignState (file : LedgerFile δ) (campaignId : δ) (campaignScope : Json δ) :
    Except Raised (CampaignLedgerState δ) := do
  let records ← readRecords file
  campaignStateFromRecords records campaignId campaignScope

/-- The identity under which an attempt and its outcome meet. -/
def attemptKey (record : Json δ) : Json δ × Json δ × Json δ :=
  (record.field "authorization_id", record.field "plan_id", record.field "call_id")

instance attemptKey_lawfulBEq : LawfulBEq (Json δ × Json δ × Json δ) := inferInstance

/-- `unresolved_call_ids`. -/
def unresolvedCallIds (records : List (Json δ)) : List δ :=
  let attempts := (records.filter (isRecord .attempt)).map attemptKey
  let outcomes := (records.filter (isRecord .outcome)).map attemptKey
  ((attempts.dedup.filter fun k => decide (k ∉ outcomes)).filterMap fun k => digest? k.2.2).mergeSort
    fun a b => decide (ContentHash.hexdigest a ≤ ContentHash.hexdigest b)

/-! ## Writing -/

/-- `_append`, after the record was computed from the same file; a refusal leaves the file. -/
def appending {α : Type} (file : LedgerFile δ) (built : Except Raised (Json δ × α)) :
    Except Raised α × LedgerFile δ :=
  match built with
  | .ok (record, result) => (.ok result, some (file.lines ++ [record]))
  | .error e => (.error e, file)

def authorizationDocument (authorizationId : Text δ) (plan : AcquisitionPlan δ) (windowStart : Date)
    (ledgerSha256 : δ) (baseCalls budgetDelta authorizedCalls reservedBefore maxCalls : Int)
    (recordedAt : Json δ) : Json δ :=
  .obj [
    ("allocation", allocation plan.calls),
    ("authorization", text authorizationSentinel),
    ("authorization_id", .str authorizationId),
    ("calls", callsDocument plan.calls),
    ("calls_sha256", hash plan.callsSha256),
    ("campaign_authorized_calls", .int authorizedCalls),
    ("campaign_base_calls", .int baseCalls),
    ("campaign_budget_delta", .int budgetDelta),
    ("campaign_id", hash plan.campaign.campaignId),
    ("campaign_ledger_sha256_before", hash ledgerSha256),
    ("campaign_reserved_before", .int reservedBefore),
    ("campaign_scope", plan.campaign.campaignScope),
    ("max_calls", .int maxCalls),
    ("plan_id", hash plan.planId),
    ("record_type", text RecordType.authorization.name),
    ("recorded_at", recordedAt),
    ("schema_version", .int acquisitionSchemaVersion),
    ("symbol", text backfillSymbol),
    ("tool_revision", text plan.toolRevision),
    ("window_end", isoDate plan.endSession),
    ("window_start", isoDate windowStart)]

/-- `_validate_authorization_id`. -/
def validateAuthorizationId (authorizationId : Text δ) : Except Raised Unit :=
  refuseIf (matching? matchesAuthorizationId (.str authorizationId) = none)
    (.acquisitionRefused "authorization_id must be 3-64 lowercase safe characters")

def authorizationRecord (now : Option Instant) (authorizationId : Text δ) (plan : AcquisitionPlan δ)
    (maxCalls : Int) (campaignBudgetDelta : Json δ) (file : LedgerFile δ) :
    Except Raised (Json δ × Unit) := do
  validateAuthorizationId authorizationId
  refuseIf (maxCalls ≠ plan.requiredOutboundAttempts ∨
      ¬ (1 ≤ maxCalls ∧ maxCalls ≤ maxAuthorizedCalls))
    (Raised.acquisitionRefused "authorization max_calls must equal the exact typed call set")
  let records ← readRecords file
  refuseIf (records.any (fun r => decide (r.field "authorization_id" = .str authorizationId)) = true)
    (Raised.acquisitionRefused "authorization_id is already consumed; obtain a fresh grant")
  let current ← campaignStateFromRecords records plan.campaign.campaignId plan.campaign.campaignScope
  refuseIf (current ≠ plan.campaign)
    (Raised.acquisitionRefused "campaign ledger state no longer matches the authorized plan")
  let requiredDelta ← current.requiredBudgetDelta maxCalls
  refuseIf (campaignBudgetDelta.int? ≠ some requiredDelta)
    (Raised.acquisitionRefused
      "campaign_budget_delta must equal the exact cumulative campaign deficit")
  let blocked ← current.budgetBlocked maxCalls
  refuseIf (blocked = true)
    (Raised.acquisitionRefused "campaign recovery call allowance is exhausted")
  let campaignBaseCalls := current.baseCalls.getD maxCalls
  let campaignAuthorizedCalls := current.authorizedCalls + requiredDelta
  refuseIf (campaignAuthorizedCalls < current.reservedCalls + maxCalls ∨
      min (campaignBaseCalls + maxRecoveryCalls) absoluteMaxCampaignCalls < campaignAuthorizedCalls)
    (Raised.acquisitionRefused "campaign cumulative call budget is invalid")
  let windowStart ← orRefuse plan.pricePlan.expectedDates.head? Raised.indexError
  let recordedAt ← awareIso now
  return (authorizationDocument authorizationId plan windowStart current.ledgerSha256
    campaignBaseCalls requiredDelta campaignAuthorizedCalls current.reservedCalls maxCalls
    recordedAt, ())

/-- `AcquisitionLedger.begin_authorization`. -/
def beginAuthorization (now : Option Instant) (authorizationId : Text δ) (plan : AcquisitionPlan δ)
    (maxCalls : Int) (campaignBudgetDelta : Json δ) (file : LedgerFile δ) :
    Except Raised Unit × LedgerFile δ :=
  appending file (authorizationRecord now authorizationId plan maxCalls campaignBudgetDelta file)

def attemptDocument (authorizationId planId : Text δ) (campaignId : Json δ)
    (attemptNumber campaignAttemptNumber : Int) (call : AcquisitionCall) (reservedAt : Json δ) :
    Json δ :=
  .obj [
    ("attempt_number", .int attemptNumber),
    ("authorization_id", .str authorizationId),
    ("call_id", hash call.callId),
    ("call_kind", text call.kind.name),
    ("campaign_attempt_number", .int campaignAttemptNumber),
    ("campaign_id", campaignId),
    ("end", isoDate call.stop),
    ("endpoint", text call.endpoint),
    ("plan_id", .str planId),
    ("record_type", text RecordType.attempt.name),
    ("reserved_at", reservedAt),
    ("schema_version", .int acquisitionSchemaVersion),
    ("start", isoDate call.start),
    ("symbol", text call.symbol)]

/-- `positions[record["call_id"]]`. -/
def recordPosition (positions : List (δ × Nat)) (record : Json δ) : Nat :=
  ((digest? (record.field "call_id")).bind fun d => positions.lookup d).getD 0

def attemptRecord (now : Option Instant) (authorizationId planId : Text δ) (call : AcquisitionCall)
    (file : LedgerFile δ) : Except Raised (Json δ × Int) := do
  let records ← readRecords file
  let header ← oneHeader records authorizationId planId
  let campaignId ← orRefuse (digest? (header.field "campaign_id")) Raised.typeError
  let orderedCalls ← headerCalls header
  let allowed := Dict.ofEntries (orderedCalls.map fun c => (c.callId (δ := δ), c.ledgerDocument (δ := δ)))
  refuseIf (allowed.lookup call.callId ≠ some call.ledgerDocument)
    (Raised.acquisitionRefused "typed call is outside the authorization ledger")
  let attempts := authorizationAttempts records authorizationId planId
  refuseIf (attempts.any (fun r => decide (r.field "call_id" = hash call.callId)) = true)
    (Raised.acquisitionRefused "this authorization already reserved the typed call")
  let positions := callPositions (δ := δ) orderedCalls
  let position := (positions.lookup call.callId).getD 0
  refuseIf (¬ ∀ i ∈ earlierActionIds (δ := δ) orderedCalls position, hash i ∈ attempts.map (·.field "call_id"))
    (Raised.acquisitionRefused "typed call reservation violates action-first order")
  refuseIf (∃ r ∈ attempts, position ≤ recordPosition positions r)
    (Raised.acquisitionRefused "typed call reservation violates action-first order")
  refuseIf ((header.field "max_calls").int?.getD 0 ≤ attempts.length)
    (Raised.acquisitionRefused "authorization global call budget is exhausted")
  let campaign ← campaignStateFromRecords records campaignId (header.field "campaign_scope")
  refuseIf (campaign.authorizedCalls ≤ campaign.reservedCalls)
    (Raised.acquisitionRefused "campaign cumulative call budget is exhausted")
  let reservedAt ← awareIso now
  return (attemptDocument authorizationId planId (header.field "campaign_id") (attempts.length + 1)
    (campaign.reservedCalls + 1) call reservedAt, (attempts.length : Int) + 1)

/-- `AcquisitionLedger.reserve_call`. -/
def reserveCall (now : Option Instant) (authorizationId planId : Text δ) (call : AcquisitionCall)
    (file : LedgerFile δ) : Except Raised Int × LedgerFile δ :=
  appending file (attemptRecord now authorizationId planId call file)

def optionalText : Option (Text δ) → Json δ
  | some t => .str t
  | none => .null

def outcomeDocument (authorizationId planId : Text δ) (campaignId : Json δ) (call : AcquisitionCall)
    (status : Text δ) (evidenceId failureType : Option (Text δ)) (recordedAt : Json δ) : Json δ :=
  .obj [
    ("authorization_id", .str authorizationId),
    ("call_id", hash call.callId),
    ("call_kind", text call.kind.name),
    ("campaign_id", campaignId),
    ("evidence_id", optionalText evidenceId),
    ("failure_type", optionalText failureType),
    ("plan_id", .str planId),
    ("record_type", text RecordType.outcome.name),
    ("recorded_at", recordedAt),
    ("schema_version", .int acquisitionSchemaVersion),
    ("status", .str status)]

/-- The argument check at the head of `finish_call`. -/
def finishArguments (status : Text δ) (evidenceId failureType : Option (Text δ)) :
    Except Raised Unit :=
  if (.str status : Json δ) = text checkpointed then
    refuseIf (digest? (optionalText evidenceId) = none ∨ failureType ≠ none)
      (.acquisitionRefused "checkpointed outcome evidence is invalid")
  else
    refuseIf (isOutcomeStatus (.str status) = false ∨ evidenceId ≠ none ∨
        matching? matchesFailureType (optionalText failureType) = none)
      (.acquisitionRefused "failed outcome detail is invalid")

def outcomeRecord (now : Option Instant) (authorizationId planId : Text δ) (call : AcquisitionCall)
    (status : Text δ) (evidenceId failureType : Option (Text δ)) (file : LedgerFile δ) :
    Except Raised (Json δ × Unit) := do
  finishArguments status evidenceId failureType
  let records ← readRecords file
  let header ← oneHeader records authorizationId planId
  let attempts := (authorizationAttempts records authorizationId planId).filter fun r =>
    decide (r.field "call_id" = hash call.callId)
  let outcomes := records.filter fun r => isRecord .outcome r &&
    decide (r.field "authorization_id" = .str authorizationId ∧ r.field "plan_id" = .str planId ∧
      r.field "call_id" = hash call.callId)
  refuseIf (attempts.length ≠ 1 ∨ outcomes ≠ [])
    (Raised.acquisitionRefused "outcome does not identify one open typed reservation")
  let recordedAt ← awareIso now
  return (outcomeDocument authorizationId planId (header.field "campaign_id") call status evidenceId
    failureType recordedAt, ())

/-- `AcquisitionLedger.finish_call`. -/
def finishCall (now : Option Instant) (authorizationId planId : Text δ) (call : AcquisitionCall)
    (status : Text δ) (evidenceId failureType : Option (Text δ)) (file : LedgerFile δ) :
    Except Raised Unit × LedgerFile δ :=
  appending file
    (outcomeRecord now authorizationId planId call status evidenceId failureType file)

end StockApi.Acquisition

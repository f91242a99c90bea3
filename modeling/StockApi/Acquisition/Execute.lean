import StockApi.Acquisition.Anchor
import Mathlib.Logic.Relation

/-!
# Executing an authorized plan

`execute_acquisition` as a machine: the durable state is the ledger file and the anchor table,
the rest is lost when the process stops. What the store, the provider and the clock answer is
not determined, and the process may stop in any state.
-/

namespace StockApi.Acquisition

open Checked CivilTime

variable {δ : Type}

/-! ## The guard -/

/-- `PlanBoundGlobalGuard` with what its pacer has spent. -/
structure GlobalGuard where
  totalBudget : Int
  armed : Option AcquisitionCall
  acquired : Bool
  spent : Int

namespace GlobalGuard

def fresh (totalBudget : Int) : GlobalGuard := ⟨totalBudget, none, false, 0⟩

variable (guard : GlobalGuard)

def arm (call : AcquisitionCall) : Except Raised GlobalGuard :=
  if guard.armed.isSome = true then .error (.acquisitionRefused "vendor guard is already armed")
  else .ok { guard with armed := some call, acquired := false }

def finish (call : AcquisitionCall) : Except Raised (Bool × GlobalGuard) :=
  if guard.armed ≠ some call then
    .error (.acquisitionRefused "vendor guard completion does not match its call")
  else .ok (guard.acquired, { guard with armed := none, acquired := false })

/-- The head of `acquire`, before it waits for the pacer. -/
def match? (vendor : String) (cost : Int) (endpoint : Option String) : Except Raised Unit :=
  match guard.armed with
  | none =>
    .error (.acquisitionRefused "vendor attempt does not match the armed acquisition call")
  | some call =>
    refuseIf (guard.acquired = true ∨ (vendor ≠ "polygon" ∧ vendor ≠ backfillSource) ∨ cost ≠ 1 ∨
        endpoint ≠ some call.endpoint)
      (.acquisitionRefused "vendor attempt does not match the armed acquisition call")

/-- The pacer's last turn, once the window has room, and the end of `acquire`. The admission
check compares the clock with the end session. -/
def acquire (endIsCurrent : Bool) : Except Raised GlobalGuard := do
  refuseIf (guard.totalBudget < guard.spent + 1) (Raised.costBudgetExceeded "exceeded total call budget")
  refuseIf (endIsCurrent = false)
    (Raised.acquisitionRefused "end must equal the latest completed XNYS session")
  return { guard with spent := guard.spent + 1, acquired := true }

end GlobalGuard

/-! ## Arguments and plan -/

structure ExecuteArguments (δ : Type) where
  planId : Text δ
  campaignId : Text δ
  campaignBudgetDelta : Json δ
  maxCalls : Int
  splitCalls : Int
  dividendCalls : Int
  openCloseCalls : Int
  authorization : String
  authorizationId : Text δ

/-- What the price and corporate-action tables answer. -/
structure StoreReading (δ : Type) where
  prices : ExistingCoverage δ
  splits : CorporateActionScopeCoverage δ
  dividends : CorporateActionScopeCoverage δ
  readable : Bool

variable [DecidableEq δ] [ContentHash δ]

/-- The checks before the operation lock is taken. -/
def checkArguments (args : ExecuteArguments δ) : Except Raised Unit := do
  refuseIf (args.authorization ≠ authorizationSentinel)
    (Raised.acquisitionRefused ("authorization must be exactly " ++ authorizationSentinel))
  validateAuthorizationId args.authorizationId
  refuseIf (digest? (.str args.planId) = none ∨ digest? (.str args.campaignId) = none)
    (Raised.acquisitionRefused "plan_id and campaign_id must be sha256 plan digests")
  refuseIf (¬ (1 ≤ args.maxCalls ∧ args.maxCalls ≤ maxAuthorizedCalls) ∨
      ¬ args.campaignBudgetDelta.int?.any (fun d => decide (0 ≤ d ∧ d ≤ maxAuthorizedCalls)) ∨
      args.splitCalls ∉ [0, 1] ∨ args.dividendCalls ∉ [0, 1] ∨
      ¬ (0 ≤ args.openCloseCalls ∧ args.openCloseCalls ≤ requiredSessions - 1))
    (Raised.acquisitionRefused "typed call allocation is outside the acquisition contract")

/-- `_current_plan`. -/
def currentPlan (endSession : Date) (expectedDates : List Date) (toolRevision : String)
    (reading : StoreReading δ) (legacyUnresolvedDates : List Date) (file : LedgerFile δ)
    (anchors : List (AnchorRow δ)) : Except Raised (AcquisitionPlan δ) := do
  let pricePlan ← buildPlan endSession expectedDates reading.prices toolRevision []
  let scope ← campaignScope expectedDates
  let campaign ← campaignState file (contentId scope) scope
  requireDatabaseHighWater reading.readable anchors campaign
  let records ← readRecords file
  buildAcquisitionPlan pricePlan reading.splits reading.dividends (unresolvedCallIds records)
    legacyUnresolvedDates (some campaign)

/-- `_allocation_matches`. -/
def AllocationMatches (plan : AcquisitionPlan δ) (args : ExecuteArguments δ) : Prop :=
  (allocation plan.calls : Json δ) = .obj [
      ("dividend_page", .int args.dividendCalls),
      ("open_close", .int args.openCloseCalls),
      ("split_page", .int args.splitCalls)] ∧
    args.maxCalls = args.splitCalls + args.dividendCalls + args.openCloseCalls ∧
    args.maxCalls = plan.requiredOutboundAttempts

instance (plan : AcquisitionPlan δ) (args : ExecuteArguments δ) :
    Decidable (AllocationMatches plan args) := inferInstanceAs (Decidable (_ ∧ _))

/-- The checks of a plan against the reviewed arguments. -/
def acceptPlan (plan : AcquisitionPlan δ) (args : ExecuteArguments δ) : Except Raised Unit := do
  refuseIf (.digest plan.planId ≠ args.planId)
    (Raised.acquisitionRefused "database state no longer matches the authorized plan_id")
  refuseIf (.digest plan.campaign.campaignId ≠ args.campaignId)
    (Raised.acquisitionRefused "campaign_id does not match the authorized plan")
  refuseIf (plan.pricePlan.smokeAnchorPresent = false)
    (Raised.acquisitionRefused "latest-session smoke bar and receipt must exist first")
  refuseIf (plan.splitState.ambiguous = true ∨ plan.dividendState.ambiguous = true)
    (Raised.acquisitionRefused "action receipt state is ambiguous; stop for forensics")
  refuseIf (plan.ambiguousCallIds ≠ [])
    (Raised.acquisitionRefused "an unresolved prior attempt overlaps required work")
  let blocked ← plan.campaign.budgetBlocked plan.requiredOutboundAttempts
  refuseIf (blocked = true)
    (Raised.acquisitionRefused "campaign recovery call allowance is exhausted")
  refuseIf (plan.calls = []) (Raised.acquisitionRefused "no outbound vendor calls are required")
  refuseIf (¬ AllocationMatches plan args)
    (Raised.acquisitionRefused "typed allocation must exactly equal the acquisition plan")

/-! ## The machine -/

/-- Where a run stands. A call is followed by the calls that are still to come. -/
inductive Stage (δ : Type) where
  | accepted
  | headerAppended
  | looping (rest : List AcquisitionCall)
  | absent (call : AcquisitionCall) (rest : List AcquisitionCall)
  | attemptAppended (call : AcquisitionCall) (rest : List AcquisitionCall)
  | anchored (call : AcquisitionCall) (rest : List AcquisitionCall)
  | performing (call : AcquisitionCall) (rest : List AcquisitionCall) (waiting : Bool)
  | performed (call : AcquisitionCall) (rest : List AcquisitionCall)
      (result : Except (Text δ) (Text δ))
  | finished (call : AcquisitionCall) (rest : List AcquisitionCall)
      (result : Except (Text δ) (Text δ)) (admitted : Bool)
  | outcomeAppended (rest : List AcquisitionCall) (raised : Bool)

/-- A run that holds the operation lock; `before` are the records it took its plan from. -/
structure Run (δ : Type) [ContentHash δ] where
  args : ExecuteArguments δ
  plan : AcquisitionPlan δ
  before : List (Json δ)
  guard : GlobalGuard
  stage : Stage δ

/-- A vendor call the guard let through, with the ledger and the anchors of that moment. -/
structure Admission (δ : Type) where
  call : AcquisitionCall
  authorizationId : Text δ
  planId : δ
  ledger : List (Json δ)
  anchors : List (AnchorRow δ)

structure World (δ : Type) [ContentHash δ] where
  file : LedgerFile δ
  anchors : List (AnchorRow δ)
  run : Option (Run δ)
  admissions : List (Admission δ)

/-- The status, the evidence and the failure that `finish_call` is given. -/
def outcomeArguments (result : Except (Text δ) (Text δ)) (admitted : Bool) :
    Text δ × Option (Text δ) × Option (Text δ) :=
  match result, admitted with
  | .ok evidence, true => (.plain checkpointed, some evidence, none)
  | .ok _, false => (.plain failedBeforeAdmission, none, some (.plain "AcquisitionRefused"))
  | .error failure, true => (.plain failedAfterAdmission, none, some failure)
  | .error failure, false => (.plain failedBeforeAdmission, none, some failure)

def raisesAfter (result : Except (Text δ) (Text δ)) (admitted : Bool) : Bool :=
  match result, admitted with
  | .ok _, true => false
  | _, _ => true

/-- The comparison with the database that precedes every append. -/
def Compared (plan : AcquisitionPlan δ) (file : LedgerFile δ) (anchors : List (AnchorRow δ)) : Prop :=
  ∃ state, campaignState file plan.campaign.campaignId plan.campaign.campaignScope = .ok state ∧
    requireDatabaseHighWater true anchors state = .ok ()

/-- One step of the run, of the process around it or of another database session. -/
inductive ExecuteStep : World δ → World δ → Prop
  /-- The lock is free, and the plan taken under it is the reviewed one. -/
  | start {file anchors admissions args endSession expectedDates toolRevision reading legacy plan}
      (arguments : checkArguments args = .ok ())
      (current : currentPlan endSession expectedDates toolRevision reading legacy file anchors = .ok plan)
      (reviewed : acceptPlan plan args = .ok ()) :
      ExecuteStep ⟨file, anchors, none, admissions⟩
        ⟨file, anchors, some ⟨args, plan, file.lines, .fresh args.maxCalls, .accepted⟩, admissions⟩
  | authorize {file file' anchors admissions args plan before guard now}
      (compared : Compared plan file anchors)
      (append : beginAuthorization now args.authorizationId plan args.maxCalls
        args.campaignBudgetDelta file = (.ok (), file')) :
      ExecuteStep ⟨file, anchors, some ⟨args, plan, before, guard, .accepted⟩, admissions⟩
        ⟨file', anchors, some ⟨args, plan, before, guard, .headerAppended⟩, admissions⟩
  /-- Receipts are repaired and the provider is built after the header is anchored. -/
  | publishHeader {file anchors anchors' admissions args plan before guard wire tx state}
      (published : publishDatabaseHighWater wire tx file plan.campaign.campaignId
        plan.campaign.campaignScope anchors = (.ok state, anchors')) :
      ExecuteStep ⟨file, anchors, some ⟨args, plan, before, guard, .headerAppended⟩, admissions⟩
        ⟨file, anchors', some ⟨args, plan, before, guard, .looping plan.calls⟩, admissions⟩
  /-- A session whose bar is there already is passed over; a page that is there ends the run. -/
  | evidencePresent {file anchors admissions args plan before guard call rest}
      (session : call.kind = .openClose) :
      ExecuteStep ⟨file, anchors, some ⟨args, plan, before, guard, .looping (call :: rest)⟩, admissions⟩
        ⟨file, anchors, some ⟨args, plan, before, guard, .looping rest⟩, admissions⟩
  | evidenceAbsent {file anchors admissions args plan before guard call rest} :
      ExecuteStep ⟨file, anchors, some ⟨args, plan, before, guard, .looping (call :: rest)⟩, admissions⟩
        ⟨file, anchors, some ⟨args, plan, before, guard, .absent call rest⟩, admissions⟩
  | reserve {file file' anchors admissions args plan before guard call rest now number}
      (compared : Compared plan file anchors)
      (append : reserveCall now args.authorizationId (.digest plan.planId) call file =
        (.ok number, file')) :
      ExecuteStep ⟨file, anchors, some ⟨args, plan, before, guard, .absent call rest⟩, admissions⟩
        ⟨file', anchors, some ⟨args, plan, before, guard, .attemptAppended call rest⟩, admissions⟩
  | publishAttempt {file anchors anchors' admissions args plan before guard call rest wire tx state}
      (published : publishDatabaseHighWater wire tx file plan.campaign.campaignId
        plan.campaign.campaignScope anchors = (.ok state, anchors')) :
      ExecuteStep
        ⟨file, anchors, some ⟨args, plan, before, guard, .attemptAppended call rest⟩, admissions⟩
        ⟨file, anchors', some ⟨args, plan, before, guard, .anchored call rest⟩, admissions⟩
  | arm {file anchors admissions args plan before guard guard' call rest}
      (armed : guard.arm call = .ok guard') :
      ExecuteStep ⟨file, anchors, some ⟨args, plan, before, guard, .anchored call rest⟩, admissions⟩
        ⟨file, anchors, some ⟨args, plan, before, guard', .performing call rest false⟩, admissions⟩
  /-- The provider asks for one attempt and waits; it asks for one at a time. -/
  | request {file anchors admissions args plan before guard call rest vendor cost endpoint}
      (matched : guard.match? vendor cost endpoint = .ok ()) :
      ExecuteStep
        ⟨file, anchors, some ⟨args, plan, before, guard, .performing call rest false⟩, admissions⟩
        ⟨file, anchors, some ⟨args, plan, before, guard, .performing call rest true⟩, admissions⟩
  | acquire {file anchors admissions args plan before guard guard' call rest endIsCurrent}
      (admitted : guard.acquire endIsCurrent = .ok guard') :
      ExecuteStep
        ⟨file, anchors, some ⟨args, plan, before, guard, .performing call rest true⟩, admissions⟩
        ⟨file, anchors, some ⟨args, plan, before, guard', .performing call rest false⟩,
          admissions ++ [⟨call, args.authorizationId, plan.planId, file.lines, anchors⟩]⟩
  | denied {file anchors admissions args plan before guard call rest} :
      ExecuteStep
        ⟨file, anchors, some ⟨args, plan, before, guard, .performing call rest true⟩, admissions⟩
        ⟨file, anchors, some ⟨args, plan, before, guard, .performing call rest false⟩, admissions⟩
  /-- The call returns its evidence, or raises an exception of the named type. -/
  | perform {file anchors admissions args plan before guard call rest} (result : Except (Text δ) (Text δ)) :
      ExecuteStep
        ⟨file, anchors, some ⟨args, plan, before, guard, .performing call rest false⟩, admissions⟩
        ⟨file, anchors, some ⟨args, plan, before, guard, .performed call rest result⟩, admissions⟩
  | finish {file anchors admissions args plan before guard guard' call rest result admitted}
      (finished : guard.finish call = .ok (admitted, guard')) :
      ExecuteStep
        ⟨file, anchors, some ⟨args, plan, before, guard, .performed call rest result⟩, admissions⟩
        ⟨file, anchors, some ⟨args, plan, before, guard', .finished call rest result admitted⟩,
          admissions⟩
  | record {file file' anchors admissions args plan before guard call rest result admitted now}
      (compared : Compared plan file anchors)
      (append : finishCall now args.authorizationId (.digest plan.planId) call
        (outcomeArguments result admitted).1 (outcomeArguments result admitted).2.1
        (outcomeArguments result admitted).2.2 file = (.ok (), file')) :
      ExecuteStep
        ⟨file, anchors, some ⟨args, plan, before, guard, .finished call rest result admitted⟩, admissions⟩
        ⟨file', anchors,
          some ⟨args, plan, before, guard, .outcomeAppended rest (raisesAfter result admitted)⟩, admissions⟩
  | publishOutcome {file anchors anchors' admissions args plan before guard rest wire tx state}
      (published : publishDatabaseHighWater wire tx file plan.campaign.campaignId
        plan.campaign.campaignScope anchors = (.ok state, anchors')) :
      ExecuteStep
        ⟨file, anchors, some ⟨args, plan, before, guard, .outcomeAppended rest false⟩, admissions⟩
        ⟨file, anchors', some ⟨args, plan, before, guard, .looping rest⟩, admissions⟩
  /-- A failed call is raised again once its outcome is anchored. -/
  | raise {file anchors anchors' admissions args plan before guard rest wire tx state}
      (published : publishDatabaseHighWater wire tx file plan.campaign.campaignId
        plan.campaign.campaignScope anchors = (.ok state, anchors')) :
      ExecuteStep
        ⟨file, anchors, some ⟨args, plan, before, guard, .outcomeAppended rest true⟩, admissions⟩
        ⟨file, anchors', none, admissions⟩
  /-- A publication that fails may have committed; the run ends. -/
  | publishFailed {file anchors admissions run wire tx e} {anchors' : List (AnchorRow δ)}
      (failed : publishDatabaseHighWater wire tx file run.plan.campaign.campaignId
        run.plan.campaign.campaignScope anchors = (.error e, anchors')) :
      ExecuteStep ⟨file, anchors, some run, admissions⟩ ⟨file, anchors', none, admissions⟩
  /-- An exception, the normal end or the death of the process: what follows only reads. -/
  | stop {file anchors admissions run} :
      ExecuteStep ⟨file, anchors, some run, admissions⟩ ⟨file, anchors, none, admissions⟩
  /-- Another session publishes, or a lost publication commits late. -/
  | anchor {file anchors anchors' run admissions tx requested} {returned : List (AnchorRow δ)}
      (published : publishAnchor tx requested anchors = .ok (returned, anchors')) :
      ExecuteStep ⟨file, anchors, run, admissions⟩ ⟨file, anchors', run, admissions⟩

end StockApi.Acquisition

import StockApi.Acquisition.Campaign
import StockApi.Library.Instant

/-!
# Acquisition plans

The price plan of `scripts/vendor_backfill.py`, the corporate-action coverage and the plan
that `_build_acquisition_plan` addresses by its content.
-/

namespace StockApi.Acquisition

open Checked CivilTime

variable {δ : Type} [ContentHash δ]

/-! ## The price plan -/

/-- Current rows split by exact post-commit receipt state. -/
structure ExistingCoverage (δ : Type) where
  completeDates : List Date
  repairableDates : List Date
  versionIds : List (Date × δ)

structure BackfillPlan (δ : Type) where
  endSession : Date
  toolRevision : String
  expectedDates : List Date
  completeDates : List Date
  repairableDates : List Date
  missingDates : List Date
  versionIds : List (Date × δ)
  ambiguousDates : List Date
  planId : δ
deriving DecidableEq

def BackfillPlan.smokeAnchorPresent (plan : BackfillPlan δ) : Bool :=
  decide (plan.endSession ∈ plan.completeDates)

def isoDates (dates : List Date) : Json δ := .arr (dates.map isoDate)

/-- `_build_plan`. -/
def buildPlan (endSession : Date) (expectedDates : List Date) (coverage : ExistingCoverage δ)
    (toolRevision : String) (ambiguousDates : List Date) : Except Raised (BackfillPlan δ) := do
  refuseIf (matchesGitRevision toolRevision = false)
    (Raised.acquisitionRefused "tool_revision must identify one Git commit")
  let complete := Dict.sortedSet coverage.completeDates
  let repairable := Dict.sortedSet coverage.repairableDates
  refuseIf (∃ d ∈ complete, d ∈ repairable)
    (Raised.acquisitionRefused "database coverage classified one session twice")
  refuseIf (¬ ((∀ d ∈ complete, d ∈ expectedDates) ∧ ∀ d ∈ repairable, d ∈ expectedDates))
    (Raised.acquisitionRefused "database coverage escaped the authorized session window")
  let versions := Dict.ofEntries coverage.versionIds
  let versionDates := Dict.sortedSet (versions.map Prod.fst)
  refuseIf (versionDates ≠ Dict.sortedSet (complete ++ repairable))
    (Raised.acquisitionRefused "database coverage omitted a current bar version identity")
  let missing := Dict.sortedSet
    (expectedDates.filter fun d => decide (d ∉ complete ∧ d ∉ repairable))
  let ambiguous := Dict.sortedSet (ambiguousDates.filter fun d => decide (d ∈ missing))
  let versionIds := versionDates.filterMap fun d => (versions.lookup d).map fun v => (d, v)
  let canonical : Json δ := .obj [
    ("ambiguous_dates", isoDates ambiguous),
    ("complete_dates", isoDates complete),
    ("end_session", isoDate endSession),
    ("expected_dates", isoDates expectedDates),
    ("max_calls_per_window", .int backfillMaxCallsPerWindow),
    ("missing_dates", isoDates missing),
    ("rate_window_seconds", .float 60),
    ("repairable_dates", isoDates repairable),
    ("source", text backfillSource),
    ("symbol", text backfillSymbol),
    ("tool_revision", text toolRevision),
    ("version", .int 2),
    ("version_ids", .arr (versionIds.map fun v => .arr [isoDate v.1, hash v.2]))]
  return {
    endSession, toolRevision, expectedDates
    completeDates := complete, repairableDates := repairable, missingDates := missing
    versionIds, ambiguousDates := ambiguous, planId := contentId canonical }

/-- What the rest of the plan relies on. -/
theorem buildPlan_eq_ok {endSession : Date} {expectedDates : List Date}
    {coverage : ExistingCoverage δ} {toolRevision : String} {ambiguousDates : List Date}
    {plan : BackfillPlan δ}
    (h : buildPlan endSession expectedDates coverage toolRevision ambiguousDates = .ok plan) :
    matchesGitRevision toolRevision = true ∧ plan.endSession = endSession ∧
      plan.toolRevision = toolRevision ∧ plan.expectedDates = expectedDates ∧
      ∀ d ∈ plan.missingDates, d ∈ expectedDates := by
  rw [buildPlan, refuseIf_bind_eq_ok_iff, refuseIf_bind_eq_ok_iff, refuseIf_bind_eq_ok_iff,
    refuseIf_bind_eq_ok_iff, pure_eq_ok] at h
  obtain ⟨hRevision, -, -, -, h⟩ := h
  cases h
  refine ⟨by simpa using hRevision, rfl, rfl, rfl, ?_⟩
  intro d hd
  exact (List.mem_filter.mp (Dict.mem_sortedSet.mp hd)).1

/-! ## Corporate-action coverage -/

inductive ActionType where
  | split
  | dividend
deriving DecidableEq

def ActionType.name : ActionType → String
  | .split => "split"
  | .dividend => "dividend"

/-- One exact-scope collection, with an optional later availability receipt. -/
structure CorporateActionCollectionEvidence (δ : Type) where
  collectionId : δ
  collectionRecordedAt : Instant
  fetchedAt : Instant
  eventCount : Int
  availableAt : Option Instant
deriving DecidableEq

structure CorporateActionScopeCoverage (δ : Type) where
  actionType : ActionType
  endpoint : String
  source : String
  symbol : String
  coverageStart : Date
  coverageEnd : Date
  queryPolicyHash : δ
  collections : List (CorporateActionCollectionEvidence δ)
deriving DecidableEq

/-- Exact immutable collection state for one action query. -/
structure ActionScopeState (δ : Type) [ContentHash δ] where
  actionType : ActionType
  endpoint : String
  coverage : CorporateActionScopeCoverage δ
  pinned : coverage.actionType = actionType ∧ coverage.endpoint = endpoint ∧
    coverage.source = corporateActionSource ∧ coverage.symbol = backfillSymbol ∧
    coverage.queryPolicyHash = corporateActionQueryPolicyHash
deriving DecidableEq

variable [DecidableEq δ]

namespace ActionScopeState

def construct (actionType : ActionType) (endpoint : String) (coverage : CorporateActionScopeCoverage δ) :
    Except Raised (ActionScopeState δ) :=
  if pinned : coverage.actionType = actionType ∧ coverage.endpoint = endpoint ∧
      coverage.source = corporateActionSource ∧ coverage.symbol = backfillSymbol ∧
      coverage.queryPolicyHash = corporateActionQueryPolicyHash then
    .ok { actionType, endpoint, coverage, pinned }
  else
    .error (.acquisitionRefused "corporate-action coverage escaped the pinned query policy")

variable (state : ActionScopeState δ)

def complete : Bool := state.coverage.collections.any (·.availableAt.isSome)

def repairableIds : List δ :=
  (state.coverage.collections.filter (·.availableAt.isNone)).map (·.collectionId)

def ambiguous : Bool := decide (1 < state.repairableIds.length)

def requiresCall : Bool := !state.complete && state.repairableIds.isEmpty

def canonicalDocument : Json δ :=
  .obj [
    ("action_type", text state.actionType.name),
    ("collections", .arr (state.coverage.collections.map fun value => .obj [
      ("available_at", (value.availableAt.map fun t => text t.isoformat).getD .null),
      ("collection_id", hash value.collectionId),
      ("collection_recorded_at", text value.collectionRecordedAt.isoformat),
      ("event_count", .int value.eventCount),
      ("fetched_at", text value.fetchedAt.isoformat)])),
    ("coverage_end", isoDate state.coverage.coverageEnd),
    ("coverage_start", isoDate state.coverage.coverageStart),
    ("endpoint", text state.endpoint),
    ("query_policy_hash", hash state.coverage.queryPolicyHash),
    ("source", text state.coverage.source),
    ("symbol", text state.coverage.symbol)]

end ActionScopeState

/-! ## The acquisition plan -/

def allocation (calls : List AcquisitionCall) : Json δ :=
  .obj [
    ("dividend_page", .int (calls.countP (·.kind = .dividendPage))),
    ("open_close", .int (calls.countP (·.kind = .openClose))),
    ("split_page", .int (calls.countP (·.kind = .splitPage)))]

def callsDocument (calls : List AcquisitionCall) : Json δ := .arr (calls.map (·.ledgerDocument))

/-- Content-addressed authorization scope around the stable price plan. -/
structure AcquisitionPlan (δ : Type) [ContentHash δ] where
  pricePlan : BackfillPlan δ
  splitState : ActionScopeState δ
  dividendState : ActionScopeState δ
  calls : List AcquisitionCall
  callsSha256 : δ
  ambiguousCallIds : List δ
  campaign : CampaignLedgerState δ
  planId : δ
deriving DecidableEq

namespace AcquisitionPlan

variable (plan : AcquisitionPlan δ)

def requiredOutboundAttempts : Int := plan.calls.length

def toolRevision : String := plan.pricePlan.toolRevision

def endSession : Date := plan.pricePlan.endSession

end AcquisitionPlan

/-- The open-close call of one session. -/
def openCloseCall (session : Date) : AcquisitionCall where
  kind := .openClose
  start := session
  stop := session
  ordered := le_rfl
  single := fun _ => rfl

/-- `_make_call("open_close", ...)` for each of the given sessions. -/
def openCloseCalls (δ : Type) [DecidableEq δ] [ContentHash δ] (sessions : List Date) :
    Except Raised (List AcquisitionCall) :=
  sessions.mapM fun session => makeCall (δ := δ) .openClose
    (openCloseEndpointIdentity backfillSymbol session) session session

theorem openCloseCalls_eq (sessions : List Date) :
    openCloseCalls δ sessions = .ok (sessions.map openCloseCall) := by
  have hOne : ∀ session, makeCall (δ := δ) .openClose
      (openCloseEndpointIdentity backfillSymbol session) session session =
        .ok (openCloseCall session) :=
    fun session => AcquisitionCall.construct_self (δ := δ) (openCloseCall session)
  induction sessions with
  | nil => rfl
  | cons session rest ih =>
    rw [openCloseCalls] at ih ⊢
    rw [List.mapM_cons, hOne, ih]
    rfl

/-- The page a query still needs, if any. -/
def actionPage (state : ActionScopeState δ) (kind : CallKind) (endpoint : String)
    (windowStart windowEnd : Date) : Except Raised (List AcquisitionCall) :=
  if state.requiresCall then (makeCall (δ := δ) kind endpoint windowStart windowEnd).map ([·])
  else .ok []

/-- `campaign or CampaignLedgerState(...)`. -/
def campaignOrInitial (campaign : Option (CampaignLedgerState δ)) (scope : Json δ) :
    Except Raised (CampaignLedgerState δ) :=
  match campaign with
  | some state => .ok state
  | none => CampaignLedgerState.initial scope

/-- `_build_acquisition_plan`. -/
def buildAcquisitionPlan (pricePlan : BackfillPlan δ)
    (splitCoverage dividendCoverage : CorporateActionScopeCoverage δ) (unresolvedCallIds : List δ)
    (legacyUnresolvedDates : List Date) (campaign : Option (CampaignLedgerState δ)) :
    Except Raised (AcquisitionPlan δ) := do
  let windowStart ← orRefuse pricePlan.expectedDates.head? Raised.indexError
  let windowEnd := pricePlan.endSession
  let splitState ← ActionScopeState.construct .split splitsEndpoint splitCoverage
  let dividendState ← ActionScopeState.construct .dividend dividendsEndpoint dividendCoverage
  refuseIf (¬ ((splitCoverage.coverageStart = windowStart ∧ splitCoverage.coverageEnd = windowEnd) ∧
      dividendCoverage.coverageStart = windowStart ∧ dividendCoverage.coverageEnd = windowEnd))
    (Raised.acquisitionRefused "corporate-action coverage escaped the price window")
  let splitCalls ← actionPage splitState .splitPage splitsEndpoint windowStart windowEnd
  let dividendCalls ← actionPage dividendState .dividendPage dividendsEndpoint windowStart windowEnd
  let closes ← openCloseCalls δ pricePlan.missingDates
  let calls := splitCalls ++ dividendCalls ++ closes
  validateCallOrder calls
  let legacyCalls ← openCloseCalls δ (legacyUnresolvedDates.filter (· ∈ pricePlan.missingDates))
  let legacyIds := legacyCalls.map fun c => c.callId (δ := δ)
  let callIds := (calls.map fun c => c.callId (δ := δ)).dedup
  let ambiguous := (callIds.filter fun i => decide (i ∈ unresolvedCallIds ++ legacyIds)).mergeSort
    fun a b => decide (ContentHash.hexdigest a ≤ ContentHash.hexdigest b)
  let callsSha256 : δ := contentId (callsDocument calls)
  let scope ← campaignScope (δ := δ) pricePlan.expectedDates
  let campaignState ← campaignOrInitial campaign scope
  refuseIf (campaignState.campaignId ≠ contentId scope)
    (Raised.acquisitionRefused "campaign ledger state escaped the acquisition scope")
  let requiredBudgetDelta ← campaignState.requiredBudgetDelta calls.length
  let canonical : Json δ := .obj [
    ("ambiguous_call_ids", .arr (ambiguous.map hash)),
    ("authorization", text authorizationSentinel),
    ("calls", callsDocument calls),
    ("calls_sha256", hash callsSha256),
    ("campaign_attempts_reserved", .int campaignState.reservedCalls),
    ("campaign_authorized_calls", .int campaignState.authorizedCalls),
    ("campaign_base_calls", (campaignState.baseCalls.map Json.int).getD .null),
    ("campaign_failed_after_admission_call_ids",
      .arr (campaignState.failedAfterAdmissionCallIds.map hash)),
    ("campaign_hard_max_authorized_calls",
      .int (hardMaxAuthorizedCalls (some (campaignState.baseCalls.getD calls.length)))),
    ("campaign_id", hash campaignState.campaignId),
    ("campaign_ledger_record_count", .int campaignState.recordCount),
    ("campaign_ledger_sha256", hash campaignState.ledgerSha256),
    ("campaign_required_budget_delta", .int requiredBudgetDelta),
    ("campaign_scope", scope),
    ("dividend_state", dividendState.canonicalDocument),
    ("format", text "stockapi-vendor-acquisition-plan-v2"),
    ("global_ledger_record_count", .int campaignState.globalRecordCount),
    ("global_ledger_sha256", hash campaignState.globalLedgerSha256),
    ("hard_max_authorized_calls", .int maxAuthorizedCalls),
    ("max_calls_per_window", .int backfillMaxCallsPerWindow),
    ("max_recovery_calls", .int maxRecoveryCalls),
    ("price_plan_id", hash pricePlan.planId),
    ("rate_window_seconds", .float 60),
    ("schema_version", .int acquisitionSchemaVersion),
    ("split_state", splitState.canonicalDocument),
    ("symbol", text backfillSymbol),
    ("tool_revision", text pricePlan.toolRevision),
    ("window_end", isoDate windowEnd),
    ("window_start", isoDate windowStart)]
  return {
    pricePlan, splitState, dividendState, calls, callsSha256
    ambiguousCallIds := ambiguous, campaign := campaignState, planId := contentId canonical }

/-- What every plan built around a given campaign state satisfies. -/
structure PlanBuilt (pricePlan : BackfillPlan δ) (unresolvedCallIds : List δ)
    (campaign : CampaignLedgerState δ) (plan : AcquisitionPlan δ) : Prop where
  price : plan.pricePlan = pricePlan
  state : plan.campaign = campaign
  digest : plan.callsSha256 = contentId (callsDocument plan.calls)
  order : validateCallOrder plan.calls = .ok ⟨⟩
  scope : ∃ scope, campaignScope pricePlan.expectedDates = .ok scope ∧
    campaign.campaignId = contentId scope
  window : ∀ call ∈ plan.calls,
    (call.kind = .openClose ∧ call.start ∈ pricePlan.missingDates) ∨
    (call.kind ≠ .openClose ∧ pricePlan.expectedDates.head? = some call.start ∧
      call.stop = pricePlan.endSession)
  ambiguous : ∀ call ∈ plan.calls, call.callId ∈ unresolvedCallIds →
    call.callId ∈ plan.ambiguousCallIds

theorem actionPage_eq_ok {state : ActionScopeState δ} {kind : CallKind} {endpoint : String}
    {start stop : Date} {calls : List AcquisitionCall} (hKind : kind ≠ .openClose)
    (h : actionPage state kind endpoint start stop = .ok calls) :
    ∀ call ∈ calls, call.kind ≠ .openClose ∧ call.start = start ∧ call.stop = stop := by
  unfold actionPage at h
  split at h
  · cases hMake : makeCall (δ := δ) kind endpoint start stop with
    | error e =>
      rw [hMake] at h
      cases h
    | ok made =>
      rw [hMake] at h
      cases h
      intro call hCall
      rw [List.mem_singleton.mp hCall]
      obtain ⟨hMade, hWindow⟩ := AcquisitionCall.construct_eq_ok hMake
      exact ⟨by rwa [hMade], hWindow⟩
  · cases h
    intro call hCall
    cases hCall

theorem planBuilt_of_eq_ok {pricePlan : BackfillPlan δ}
    {splitCoverage dividendCoverage : CorporateActionScopeCoverage δ} {unresolvedCallIds : List δ}
    {legacyUnresolvedDates : List Date} {campaign : CampaignLedgerState δ}
    {plan : AcquisitionPlan δ}
    (h : buildAcquisitionPlan pricePlan splitCoverage dividendCoverage unresolvedCallIds
      legacyUnresolvedDates (some campaign) = .ok plan) :
    PlanBuilt pricePlan unresolvedCallIds campaign plan := by
  rw [buildAcquisitionPlan, bind_eq_ok_iff] at h
  obtain ⟨windowStart, hStart, h⟩ := h
  rw [orRefuse_eq_ok_iff] at hStart
  rw [bind_eq_ok_iff] at h
  obtain ⟨splitState, -, h⟩ := h
  rw [bind_eq_ok_iff] at h
  obtain ⟨dividendState, -, h⟩ := h
  rw [refuseIf_bind_eq_ok_iff, bind_eq_ok_iff] at h
  obtain ⟨-, splitCalls, hSplit, h⟩ := h
  rw [bind_eq_ok_iff] at h
  obtain ⟨dividendCalls, hDividend, h⟩ := h
  rw [openCloseCalls_eq, ok_bind, bind_eq_ok_iff] at h
  obtain ⟨_, hOrder, h⟩ := h
  rw [openCloseCalls_eq, ok_bind, bind_eq_ok_iff] at h
  obtain ⟨scope, hScope, h⟩ := h
  rw [campaignOrInitial, ok_bind, refuseIf_bind_eq_ok_iff, bind_eq_ok_iff] at h
  obtain ⟨hCampaign, delta, -, h⟩ := h
  rw [pure_eq_ok] at h
  cases h
  refine ⟨rfl, rfl, rfl, hOrder, ⟨scope, hScope, by simpa using hCampaign⟩, ?_, ?_⟩
  case refine_2 =>
    intro call hCall hUnresolved
    rw [List.mem_mergeSort, List.mem_filter, List.mem_dedup]
    exact ⟨List.mem_map.mpr ⟨call, hCall, rfl⟩, by simp [hUnresolved]⟩
  intro call hCall
  rcases List.mem_append.mp hCall with hMem | hMem
  · have hAction : call.kind ≠ .openClose ∧ call.start = windowStart ∧
        call.stop = pricePlan.endSession := by
      rcases List.mem_append.mp hMem with hMem | hMem
      · exact actionPage_eq_ok (by decide) hSplit call hMem
      · exact actionPage_eq_ok (by decide) hDividend call hMem
    exact Or.inr ⟨hAction.1, by rw [hAction.2.1, hStart], hAction.2.2⟩
  · obtain ⟨session, hSession, rfl⟩ := List.mem_map.mp hMem
    exact Or.inl ⟨rfl, hSession⟩

end StockApi.Acquisition

import StockApi.Acquisition.Runs

/-!
# Grants

What the writers accept for a plan: its grant, and then the reservation and the outcome of the calls
it lists, one after the other.
-/

namespace StockApi.Acquisition

open Checked CivilTime

variable {δ : Type} [DecidableEq δ] [ContentHash δ]

/-! ## What a plan shows -/

namespace AcquisitionPlan

variable (plan : AcquisitionPlan δ)

def blocked : Except Raised Bool :=
  if plan.pricePlan.smokeAnchorPresent = false ∨ plan.splitState.ambiguous = true ∨
      plan.dividendState.ambiguous = true ∨ plan.ambiguousCallIds ≠ [] ∨
      maxAuthorizedCalls < plan.requiredOutboundAttempts then .ok true
  else plan.campaign.budgetBlocked plan.requiredOutboundAttempts

def campaignRequiredBudgetDelta : Except Raised Int :=
  plan.campaign.requiredBudgetDelta plan.requiredOutboundAttempts

omit [DecidableEq δ] in
theorem blocked_eq_false {plan : AcquisitionPlan δ} (h : plan.blocked = .ok false) :
    plan.requiredOutboundAttempts ≤ maxAuthorizedCalls ∧
      plan.campaign.budgetBlocked plan.requiredOutboundAttempts = .ok false := by
  unfold blocked at h
  split at h
  · cases h
  · rename_i hReady
    simp only [not_or, not_lt] at hReady
    exact ⟨hReady.2.2.2.2, h⟩

end AcquisitionPlan

namespace CampaignLedgerState

variable {state : CampaignLedgerState δ} {requiredCalls : Int}

omit [DecidableEq δ] in
theorem requiredBudgetDelta_of_nonneg (h : 0 ≤ requiredCalls) :
    state.requiredBudgetDelta requiredCalls =
      .ok (max 0 (state.reservedCalls + requiredCalls - state.authorizedCalls)) :=
  if_neg (not_lt.mpr h)

omit [DecidableEq δ] in
/-- A budget that is not blocked has room for the calls, below the hard maximum of the campaign. -/
theorem room_of_not_blocked (positive : 1 ≤ requiredCalls) (bounded : requiredCalls ≤ maxAuthorizedCalls)
    (h : state.budgetBlocked requiredCalls = .ok false) {delta : Int}
    (hDelta : delta = max 0 (state.reservedCalls + requiredCalls - state.authorizedCalls)) :
    state.reservedCalls + requiredCalls ≤ state.authorizedCalls + delta ∧
      state.authorizedCalls + delta ≤
        min (state.baseCalls.getD requiredCalls + maxRecoveryCalls) absoluteMaxCampaignCalls := by
  refine ⟨by omega, ?_⟩
  have hBudget := state.budget
  rw [budgetBlocked, requiredBudgetDelta_of_nonneg (by omega), ok_bind, ← hDelta] at h
  cases hBase : state.baseCalls with
  | none =>
    rw [hBase] at hBudget
    obtain ⟨-, hAuthorized, hReserved⟩ := hBudget
    simp only [Option.getD_none, maxRecoveryCalls, absoluteMaxCampaignCalls, maxAuthorizedCalls]
      at bounded ⊢
    omega
  | some base =>
    rw [hBase] at h
    have hOpen : ¬ (delta > state.recoveryCallsRemaining ∨
        state.authorizedCalls + delta > hardMaxAuthorizedCalls (some base)) := by
      simpa using h
    rw [not_or, gt_iff_lt, gt_iff_lt, not_lt, not_lt] at hOpen
    exact hOpen.2

end CampaignLedgerState

/-! ## The grant -/

variable {now : Option Instant} {authorizationId : Text δ} {plan : AcquisitionPlan δ}
  {maxCalls : Int} {campaignBudgetDelta : Json δ} {file : LedgerFile δ}

/-- What a grant says about the numbers it was asked for. -/
theorem authorizationRecord_budget {record : Json δ} {result : Unit}
    (h : authorizationRecord now authorizationId plan maxCalls campaignBudgetDelta file =
      .ok (record, result)) :
    maxCalls = plan.requiredOutboundAttempts ∧ plan.campaign.budgetBlocked maxCalls ≠ .ok true ∧
      ∃ delta, plan.campaign.requiredBudgetDelta maxCalls = .ok delta ∧
        campaignBudgetDelta = .int delta := by
  rw [authorizationRecord, bind_eq_ok_iff] at h
  obtain ⟨_, -, h⟩ := h
  rw [refuseIf_bind_eq_ok_iff, bind_eq_ok_iff] at h
  obtain ⟨hCalls, records, -, h⟩ := h
  rw [refuseIf_bind_eq_ok_iff, bind_eq_ok_iff] at h
  obtain ⟨-, current, -, h⟩ := h
  rw [refuseIf_bind_eq_ok_iff, bind_eq_ok_iff] at h
  obtain ⟨hSame, delta, hDelta, h⟩ := h
  rw [refuseIf_bind_eq_ok_iff, bind_eq_ok_iff] at h
  obtain ⟨hAsked, blocked, hBlocked, h⟩ := h
  rw [refuseIf_bind_eq_ok_iff] at h
  rw [ne_eq, not_not] at hSame hAsked
  subst hSame
  rw [not_or, not_not] at hCalls
  refine ⟨hCalls.1, ?_, delta, hDelta, Json.int?_eq_some_iff.mp hAsked⟩
  rw [hBlocked]
  intro hEq
  exact h.1 (Except.ok.inj hEq)

theorem not_granted_of_blocked
    (h : plan.campaign.budgetBlocked plan.requiredOutboundAttempts = .ok true) :
    ∃ e, beginAuthorization now authorizationId plan maxCalls campaignBudgetDelta file =
      (.error e, file) := by
  rw [beginAuthorization]
  rcases WriterCall.appending_cases file
      (authorizationRecord now authorizationId plan maxCalls campaignBudgetDelta file)
    with ⟨record, result, hBuilt, -⟩ | ⟨e, -, hRun⟩
  · obtain ⟨rfl, hOpen, -⟩ := authorizationRecord_budget hBuilt
    exact absurd h hOpen
  · exact ⟨e, hRun⟩

/-- An authorization id that no record of the ledger carries. -/
def FreshAuthorization (file : LedgerFile δ) (authorizationId : Text δ) : Prop :=
  validateAuthorizationId authorizationId = .ok ⟨⟩ ∧
    ∀ r ∈ file.lines, r.field "authorization_id" ≠ .str authorizationId

/-- A plan that was built from the given ledger. -/
structure PlannedOn (file : LedgerFile δ) (plan : AcquisitionPlan δ) : Prop where
  reviewed : ReviewedPlan plan
  current : campaignState file plan.campaign.campaignId plan.campaign.campaignScope = .ok plan.campaign

theorem PlanOf.plannedOn (free : CollisionFree δ) {calendar : SessionCalendar}
    (h : PlanOf calendar file plan) : PlannedOn file plan := by
  refine ⟨h.reviewed free, ?_⟩
  obtain ⟨_, _, _, _, _, _, _, _, _, scope, campaign, -, -, -, hCampaign, hPlan⟩ := h
  have hState : plan.campaign = campaign := (planBuilt_of_eq_ok hPlan).state
  have hRead : readRecords file = .ok file.lines := by
    rw [campaignState, bind_eq_ok_iff] at hCampaign
    obtain ⟨records, hRead, -⟩ := hCampaign
    rw [hRead, (readRecords_eq_ok hRead).1]
  rw [campaignState, hRead, ok_bind] at hCampaign ⊢
  obtain ⟨-, scan, hScan⟩ := readRecords_eq_ok hRead
  obtain ⟨state, hSame, view⟩ := (describes_of_validateRecords hScan).campaignState free scope
  have hEq : state = campaign := Except.ok.inj (hSame.symm.trans hCampaign)
  rw [hState, ← hEq, view.campaignId, view.campaignScope, hSame]

/-- The grant of a plan that is ready, for the delta it shows. -/
theorem authorizationRecord_of_ready (planned : PlannedOn file plan)
    (fresh : FreshAuthorization file authorizationId) (nonempty : plan.calls ≠ [])
    (ready : plan.blocked = .ok false) {delta : Int}
    (hDelta : plan.campaignRequiredBudgetDelta = .ok delta) (t : Instant) :
    ∃ record, authorizationRecord (some t) authorizationId plan plan.calls.length (.int delta) file =
      .ok (record, ()) := by
  obtain ⟨hBounded, hOpen⟩ := AcquisitionPlan.blocked_eq_false ready
  have hPositive : 1 ≤ plan.requiredOutboundAttempts := by
    have := List.length_pos_of_ne_nil nonempty
    rw [AcquisitionPlan.requiredOutboundAttempts]
    omega
  have hRequired : delta =
      max 0 (plan.campaign.reservedCalls + plan.requiredOutboundAttempts - plan.campaign.authorizedCalls) := by
    rw [AcquisitionPlan.campaignRequiredBudgetDelta,
      CampaignLedgerState.requiredBudgetDelta_of_nonneg (by omega)] at hDelta
    exact (Except.ok.inj hDelta).symm
  obtain ⟨hRoom, hTop⟩ := CampaignLedgerState.room_of_not_blocked hPositive hBounded hOpen hRequired
  obtain ⟨-, first, rest, hDates, -⟩ := campaignScope_eq_ok_iff.mp planned.reviewed.scope
  have hCurrent := planned.current
  rw [campaignState, bind_eq_ok_iff] at hCurrent
  obtain ⟨records, hRead, hState⟩ := hCurrent
  obtain ⟨rfl, -⟩ := readRecords_eq_ok hRead
  have hFresh : ¬ file.lines.any
      (fun r => decide (r.field "authorization_id" = .str authorizationId)) = true := by
    rw [List.any_eq_true]
    rintro ⟨r, hr, hEq⟩
    exact fresh.2 r hr (of_decide_eq_true hEq)
  have hCalls : ¬ ((plan.calls.length : Int) ≠ plan.requiredOutboundAttempts ∨
      ¬ (1 ≤ (plan.calls.length : Int) ∧ (plan.calls.length : Int) ≤ maxAuthorizedCalls)) := by
    rw [not_or, not_not, not_not]
    exact ⟨rfl, hPositive, hBounded⟩
  have hSame : ¬ (plan.campaign ≠ plan.campaign) := not_not.mpr rfl
  have hShown : plan.campaign.requiredBudgetDelta plan.calls.length = .ok delta := hDelta
  have hAsked : ¬ ((.int delta : Json δ).int? ≠ some delta) := not_not.mpr rfl
  have hUnblocked : plan.campaign.budgetBlocked plan.calls.length = .ok false := hOpen
  have hBudget : ¬ (plan.campaign.authorizedCalls + delta < plan.campaign.reservedCalls + plan.calls.length ∨
      min (plan.campaign.baseCalls.getD plan.calls.length + maxRecoveryCalls) absoluteMaxCampaignCalls <
        plan.campaign.authorizedCalls + delta) := by
    rw [not_or, not_lt, not_lt]
    exact ⟨hRoom, hTop⟩
  rw [authorizationRecord, fresh.1, ok_bind, refuseIf_of_not hCalls, ok_bind, hRead, ok_bind,
    refuseIf_of_not hFresh, ok_bind, hState, ok_bind, refuseIf_of_not hSame, ok_bind, hShown,
    ok_bind, refuseIf_of_not hAsked, ok_bind, hUnblocked, ok_bind,
    refuseIf_of_not Bool.false_ne_true, ok_bind]
  dsimp only
  rw [refuseIf_of_not hBudget, ok_bind, hDates, List.head?_cons, orRefuse_some, ok_bind]
  exact ⟨_, rfl⟩

/-! ## Positions -/

section Positions

variable {α : Type} [DecidableEq α]

theorem idxOf_lt_of_sublist {items chosen : List α} {a b : α} (nodup : items.Nodup)
    (h : (chosen ++ [b]).Sublist items) (ha : a ∈ chosen) : items.idxOf a < items.idxOf b := by
  have hOrdered : items.Pairwise fun a b => items.idxOf a < items.idxOf b := by
    rw [List.pairwise_iff_getElem]
    intro i j hi hj hLt
    rwa [nodup.idxOf_getElem, nodup.idxOf_getElem]
  have hChosen := hOrdered.sublist h
  rw [List.pairwise_append] at hChosen
  exact hChosen.2.2 a ha b (List.mem_singleton_self b)

end Positions

theorem callPositions_lookup (free : CollisionFree δ) {calls : List AcquisitionCall}
    (ordered : validateCallOrder calls = .ok ⟨⟩) {call : AcquisitionCall} (hMem : call ∈ calls) :
    (callPositions (δ := δ) calls).lookup call.callId = some (calls.idxOf call) := by
  have hKeys : ((calls.zipIdx.map fun p => ((p.1.callId : δ), p.2)).map Prod.fst).Nodup := by
    have hMap : (calls.zipIdx.map fun p => ((p.1.callId : δ), p.2)).map Prod.fst =
        calls.map fun c => (c.callId : δ) := by
      conv_rhs => rw [← List.zipIdx_map_fst 0 calls, List.map_map]
      rw [List.map_map]
      rfl
    rw [hMap]
    exact callIds_nodup free ordered
  rw [callPositions, Dict.ofEntries_of_nodup hKeys, Dict.lookup_eq_some_iff hKeys]
  refine List.mem_map.mpr ⟨(call, calls.idxOf call), ?_, rfl⟩
  rw [List.mk_mem_zipIdx_iff_getElem?]
  exact List.getElem?_idxOf hMem

theorem callDocuments_lookup (free : CollisionFree δ) {calls : List AcquisitionCall}
    (ordered : validateCallOrder calls = .ok ⟨⟩) {call : AcquisitionCall} (hMem : call ∈ calls) :
    (Dict.ofEntries (calls.map fun c => ((c.callId : δ), (c.ledgerDocument : Json δ)))).lookup
      call.callId = some call.ledgerDocument := by
  have hKeys : ((calls.map fun c => ((c.callId : δ), (c.ledgerDocument : Json δ))).map
      Prod.fst).Nodup := by
    simpa [List.map_map, Function.comp_def] using callIds_nodup (δ := δ) free ordered
  rw [Dict.ofEntries_of_nodup hKeys, Dict.lookup_eq_some_iff hKeys]
  exact List.mem_map.mpr ⟨call, hMem, rfl⟩

omit [DecidableEq δ] in
theorem mem_earlierActionIds {calls : List AcquisitionCall} {call : AcquisitionCall}
    (nodup : calls.Nodup) {i : δ} (hi : i ∈ earlierActionIds (δ := δ) calls (calls.idxOf call)) :
    ∃ c ∈ calls, c.kind.isAction = true ∧ calls.idxOf c < calls.idxOf call ∧ c.callId = i := by
  obtain ⟨c, hc, rfl⟩ := List.mem_map.mp hi
  obtain ⟨hBefore, hKind⟩ := List.mem_filter.mp hc
  refine ⟨c, List.mem_of_mem_take hBefore, hKind, ?_, rfl⟩
  obtain ⟨j, hj, hGet⟩ := List.mem_iff_getElem.mp hBefore
  rw [List.length_take] at hj
  rw [List.getElem_take] at hGet
  rw [← hGet, nodup.idxOf_getElem]
  omega

/-! ## The ledger under a grant -/

theorem validateRecord_of_type {scan scan' : LedgerScan δ} {record : Json δ} {kind : RecordType}
    (hType : record.field "record_type" = text kind.name)
    (h : validateRecord scan record = .ok scan') :
    ∃ ids, WellTagged record kind ids ∧
      (match kind with
        | .authorization => validateAuthorization scan record ids
        | .attempt => validateAttempt scan record ids
        | .outcome => validateOutcome scan record ids) = .ok scan' := by
  obtain ⟨kind', ids, tagged, h⟩ := validateRecord_eq_ok_iff.mp h
  have hKind : kind' = kind := by
    apply RecordType.name_injective
    rw [← text_inj (δ := δ), ← tagged.type, hType]
  subst hKind
  exact ⟨ids, tagged, h⟩

omit [DecidableEq δ] [ContentHash δ] in
theorem Tagged.ids_eq {record : Json δ} {kind : RecordType} {ids : RecordIds δ} {a : String} {p c : δ}
    (tagged : Tagged record kind ids) (hAuthorization : record.field "authorization_id" = text a)
    (hPlan : record.field "plan_id" = hash p) (hCampaign : record.field "campaign_id" = hash c) :
    ids = ⟨a, p, c⟩ := by
  rw [tagged.authorization, text_inj] at hAuthorization
  rw [tagged.plan, hash_inj] at hPlan
  rw [tagged.campaign, hash_inj] at hCampaign
  rw [← hAuthorization, ← hPlan, ← hCampaign]

/-- A ledger with one grant on which some calls were attempted and some of these finished. -/
structure UnderGrant (authorizationId planId : Text δ) (header : Json δ) (ids : RecordIds δ)
    (c : AuthorizationCounters) (calls attempted finished : List AcquisitionCall) (records : List (Json δ))
      (scan : LedgerScan δ) :
    Prop where
  valid : validateRecords records = .ok scan
  found : HeaderFound scan authorizationId planId header ids calls
  maxCalls : header.field "max_calls" = .int calls.length
  scope : ids.campaignId = contentId (header.field "campaign_scope")
  attempts : (ofAuthorization .attempt records ids.authorizationId).map (·.field "call_id") =
    attempted.map fun c => hash c.callId
  outcomes : ∀ r ∈ ofAuthorization .outcome records ids.authorizationId,
    ∃ c ∈ finished, r.field "call_id" = hash c.callId
  base : scan.campaignBaseCalls ids.campaignId = some c.baseCalls
  authorized : scan.campaignAuthorizedCalls ids.campaignId = c.authorizedCalls
  reserved : scan.campaignReservedCalls ids.campaignId = c.reservedBefore + attempted.length
  room : c.reservedBefore + calls.length ≤ c.authorizedCalls

namespace UnderGrant

variable {planId : Text δ} {header : Json δ} {ids : RecordIds δ}
  {c : AuthorizationCounters} {calls attempted finished : List AcquisitionCall}
  {records : List (Json δ)} {scan : LedgerScan δ}

theorem describes (g : UnderGrant authorizationId planId header ids c calls attempted finished records scan) :
    Describes records scan := describes_of_validateRecords g.valid

theorem oneHeader (g : UnderGrant authorizationId planId header ids c calls attempted finished records scan) :
    oneHeader records authorizationId planId = .ok header := by
  have hOwn : ofAuthorization .authorization records ids.authorizationId = [header] := by
    rw [g.describes.headers, g.found.found]
    rfl
  have hMem : header ∈ ofAuthorization .authorization records ids.authorizationId := by
    rw [hOwn]
    exact List.mem_singleton_self _
  obtain ⟨-, hKind, hAuthorization⟩ := mem_ofAuthorization.mp hMem
  have hFilter : records.filter (fun r => isRecord .authorization r &&
      decide (r.field "authorization_id" = .str authorizationId ∧ r.field "plan_id" = .str planId)) =
        [header] := by
    rw [g.found.authorization, g.found.plan]
    have hSplit : ∀ r : Json δ, (isRecord .authorization r &&
        decide (r.field "authorization_id" = .str (.plain ids.authorizationId) ∧
          r.field "plan_id" = .str (.digest ids.planId))) =
        (decide (r.field "plan_id" = hash ids.planId) &&
          (isRecord .authorization r && decide (r.field "authorization_id" = text ids.authorizationId))) := by
      intro r
      rw [Bool.eq_iff_iff, Bool.and_eq_true, Bool.and_eq_true, Bool.and_eq_true, decide_eq_true_iff,
        decide_eq_true_iff, decide_eq_true_iff]
      exact ⟨fun h => ⟨h.2.2, h.1, h.2.1⟩, fun h => ⟨h.2.1, h.2.2, h.1⟩⟩
    simp only [hSplit]
    rw [← List.filter_filter]
    change List.filter _ (ofAuthorization .authorization records ids.authorizationId) = _
    rw [hOwn]
    simp [g.found.headerPlan]
  rw [Acquisition.oneHeader, hFilter]

theorem attempts_eq
    (g : UnderGrant authorizationId planId header ids c calls attempted finished records scan) :
    authorizationAttempts records authorizationId planId =
      ofAuthorization .attempt records ids.authorizationId :=
  g.found.children_eq g.describes (by decide)

/-- An attempt under the grant is on one of the attempted calls. -/
theorem attempt_call
    (g : UnderGrant authorizationId planId header ids c calls attempted finished records scan)
    {r : Json δ} (hr : r ∈ authorizationAttempts records authorizationId planId) :
    ∃ c ∈ attempted, r.field "call_id" = hash c.callId := by
  rw [g.attempts_eq] at hr
  have hMem : r.field "call_id" ∈
      (ofAuthorization .attempt records ids.authorizationId).map (·.field "call_id") :=
    List.mem_map_of_mem hr
  rw [g.attempts] at hMem
  obtain ⟨c, hc, hEq⟩ := List.mem_map.mp hMem
  exact ⟨c, hc, hEq.symm⟩

theorem length_attempts
    (g : UnderGrant authorizationId planId header ids c calls attempted finished records scan) :
    (authorizationAttempts records authorizationId planId).length = attempted.length := by
  rw [g.attempts_eq, ← List.length_map (fun r : Json δ => r.field "call_id"), g.attempts, List.length_map]

theorem readRecords
    (g : UnderGrant authorizationId planId header ids c calls attempted finished records scan) :
    readRecords (some records) = .ok records := by
  have hValid : validateRecords (LedgerFile.lines (some records)) = .ok scan := g.valid
  exact readRecords_of_validate hValid

/-- The campaign as it stands: what the header granted, and one reservation an attempt. -/
theorem campaign (free : CollisionFree δ)
    (g : UnderGrant authorizationId planId header ids c calls attempted finished records scan) :
    ∃ state, campaignStateFromRecords records ids.campaignId (header.field "campaign_scope") = .ok state ∧
      state.authorizedCalls = c.authorizedCalls ∧
      state.reservedCalls = c.reservedBefore + attempted.length ∧
      state.baseCalls = some c.baseCalls ∧ state.campaignId = ids.campaignId := by
  obtain ⟨state, hState, view⟩ := g.describes.campaignState free (header.field "campaign_scope")
  rw [← g.scope] at hState
  exact ⟨state, hState, by rw [view.authorizedCalls, ← g.scope, g.authorized],
    by rw [view.reservedCalls, ← g.scope, g.reserved], by rw [view.baseCalls, ← g.scope, g.base],
    by rw [view.campaignId, g.scope]⟩

/-- The next call of the plan is not refused. -/
theorem reserve_built (free : CollisionFree δ)
    (g : UnderGrant authorizationId planId header ids c calls attempted finished records scan)
    {call : AcquisitionCall} (listed : (attempted ++ [call]).Sublist calls)
    (actions : ∀ c ∈ calls, c.kind.isAction = true → calls.idxOf c < calls.idxOf call → c ∈ attempted)
    (t : Instant) :
    ∃ record, attemptRecord (some t) authorizationId planId call (some records) =
      .ok (record, (attempted.length : Int) + 1) := by
  have hNodup := calls_nodup g.found.ordered
  have hMem : call ∈ calls := listed.subset (by simp)
  have hNew : call ∉ attempted := by
    have hApart := hNodup.sublist listed
    rw [List.nodup_append] at hApart
    exact fun hIn => hApart.2.2 call hIn call (List.mem_singleton_self call) rfl
  have hPosition := callPositions_lookup (δ := δ) free g.found.ordered hMem
  have hAllowed := callDocuments_lookup (δ := δ) free g.found.ordered hMem
  have hFresh : ¬ (authorizationAttempts records authorizationId planId).any
      (fun r => decide (r.field "call_id" = hash call.callId)) = true := by
    rw [List.any_eq_true]
    rintro ⟨r, hr, hEq⟩
    obtain ⟨c, hc, hCall⟩ := g.attempt_call hr
    rw [decide_eq_true_eq, hCall, hash_inj] at hEq
    rw [AcquisitionCall.callId_injective free hEq] at hc
    exact hNew hc
  have hActions : ¬ ¬ ∀ i ∈ earlierActionIds (δ := δ) calls (calls.idxOf call),
      hash i ∈ (authorizationAttempts records authorizationId planId).map (·.field "call_id") := by
    rw [not_not, g.attempts_eq, g.attempts]
    intro i hi
    obtain ⟨c, hc, hKind, hBefore, rfl⟩ := mem_earlierActionIds hNodup hi
    exact List.mem_map.mpr ⟨c, actions c hc hKind hBefore, rfl⟩
  have hLater : ¬ ∃ r ∈ authorizationAttempts records authorizationId planId,
      calls.idxOf call ≤ recordPosition (callPositions (δ := δ) calls) r := by
    rintro ⟨r, hr, hLe⟩
    obtain ⟨c, hc, hCall⟩ := g.attempt_call hr
    have hIn : c ∈ calls := listed.subset (List.mem_append_left _ hc)
    have hEarlier := callPositions_lookup (δ := δ) free g.found.ordered hIn
    rw [recordPosition, hCall, digest?_eq_some_iff.mpr rfl, Option.bind_some, hEarlier,
      Option.getD_some] at hLe
    exact absurd (idxOf_lt_of_sublist hNodup listed hc) (by omega)
  have hLength : attempted.length + 1 ≤ calls.length := by
    simpa using listed.length_le
  obtain ⟨state, hState, hAuthorized, hReserved, -⟩ := g.campaign free
  have hRoom : ¬ (state.authorizedCalls ≤ state.reservedCalls) := by
    have := g.room
    omega
  have hCampaign : digest? (header.field "campaign_id") = some ids.campaignId :=
    digest?_eq_some_iff.mpr g.found.headerCampaign
  have hCount : ¬ ((header.field "max_calls").int?.getD 0 ≤
      (authorizationAttempts records authorizationId planId).length) := by
    rw [g.maxCalls, g.length_attempts]
    simp only [Json.int?, Option.getD_some]
    omega
  rw [attemptRecord, g.readRecords, ok_bind, g.oneHeader, ok_bind, hCampaign, orRefuse_some, ok_bind,
    g.found.decoded, ok_bind]
  dsimp only
  rw [hPosition, Option.getD_some, refuseIf_of_not (not_not.mpr hAllowed), ok_bind,
    refuseIf_of_not hFresh, ok_bind, refuseIf_of_not hActions, ok_bind, refuseIf_of_not hLater, ok_bind,
    refuseIf_of_not hCount, ok_bind, hState, ok_bind, refuseIf_of_not hRoom, ok_bind, g.length_attempts]
  exact ⟨_, rfl⟩

/-- A reservation under the grant is one more attempt. -/
theorem reserve_keeps (free : CollisionFree δ)
    (g : UnderGrant authorizationId planId header ids c calls attempted finished records scan)
    {call : AcquisitionCall} {record : Json δ} {number : Int}
    (hRecord : attemptRecord now authorizationId planId call (some records) = .ok (record, number)) :
    ∃ scan', UnderGrant authorizationId planId header ids c calls (attempted ++ [call]) finished
      (records ++ [record]) scan' := by
  obtain ⟨_, header', calls', state', hScan, reserved⟩ := attemptRecord_eq_ok hRecord
  obtain ⟨scan', hNext⟩ := reserved.accepted free g.describes
  have hHeader : header' = header := Except.ok.inj (reserved.under.symm.trans g.oneHeader)
  obtain ⟨stamp, -, hDocument⟩ := reserved.document
  have hType : record.field "record_type" = text RecordType.attempt.name := by rw [hDocument]; rfl
  have hIds : record.field "authorization_id" = text ids.authorizationId ∧
      record.field "plan_id" = hash ids.planId ∧ record.field "campaign_id" = hash ids.campaignId ∧
      record.field "call_id" = hash call.callId := by
    rw [hDocument, hHeader, g.found.headerCampaign, g.found.authorization, g.found.plan]
    exact ⟨rfl, rfl, rfl, rfl⟩
  obtain ⟨rids, tagged, hValidated⟩ := validateRecord_of_type hType hNext
  obtain rfl : ids = rids := (tagged.toTagged.ids_eq hIds.1 hIds.2.1 hIds.2.2.1).symm
  obtain ⟨_, _, child, -, -, -, rfl⟩ := validateAttempt_eq_ok_iff.mp hValidated
  refine ⟨scan.addAttempt record ids child.callId child.position, ?_⟩
  constructor
  case valid => rw [validateRecords_append, g.valid, ok_bind, hNext]
  case found => exact { g.found with found := g.found.found }
  case maxCalls => exact g.maxCalls
  case scope => exact g.scope
  case attempts =>
    rw [ofAuthorization_append tagged.toTagged, if_pos ⟨rfl, rfl⟩, List.map_append, g.attempts,
      List.map_append, List.map_singleton, List.map_singleton, hIds.2.2.2]
  case outcomes =>
    intro r hr
    rw [ofAuthorization_append tagged.toTagged, if_neg (by simp)] at hr
    exact g.outcomes r hr
  case base => exact g.base
  case authorized => exact g.authorized
  case reserved =>
    simp only [LedgerScan.addAttempt, Function.update_self, g.reserved, List.length_append,
      List.length_singleton]
    omega
  case room => exact g.room

/-- The next call of the plan can be reserved. -/
theorem reserve (free : CollisionFree δ)
    (g : UnderGrant authorizationId planId header ids c calls attempted finished records scan)
    {call : AcquisitionCall} (listed : (attempted ++ [call]).Sublist calls)
    (actions : ∀ c ∈ calls, c.kind.isAction = true → calls.idxOf c < calls.idxOf call → c ∈ attempted)
    (t : Instant) :
    ∃ record scan', attemptRecord (some t) authorizationId planId call (some records) =
        .ok (record, (attempted.length : Int) + 1) ∧
      UnderGrant authorizationId planId header ids c calls (attempted ++ [call]) finished
        (records ++ [record]) scan' := by
  obtain ⟨record, hRecord⟩ := g.reserve_built free listed actions t
  obtain ⟨scan', g'⟩ := g.reserve_keeps free hRecord
  exact ⟨record, scan', hRecord, g'⟩

/-- The call reserved last can be finished. -/
theorem finish (free : CollisionFree δ)
    (g : UnderGrant authorizationId planId header ids c calls attempted finished records scan)
    {call : AcquisitionCall} (listed : attempted.Sublist calls) (hCall : call ∈ attempted)
    (hOpen : call ∉ finished) {status : Text δ} {evidenceId failureType : Option (Text δ)}
    (arguments : finishArguments status evidenceId failureType = .ok ⟨⟩) (t : Instant) :
    ∃ record scan', outcomeRecord (some t) authorizationId planId call status evidenceId failureType
        (some records) = .ok (record, ()) ∧
      UnderGrant authorizationId planId header ids c calls attempted (finished ++ [call])
        (records ++ [record]) scan' := by
  have hAttempts : ((authorizationAttempts records authorizationId planId).filter
      fun r => decide (r.field "call_id" = hash call.callId)).length = 1 := by
    have hNodup : (attempted.map fun c => (hash c.callId : Json δ)).Nodup :=
      ((calls_nodup g.found.ordered).sublist listed).map fun a b h =>
        AcquisitionCall.callId_injective free (hash_inj.mp h)
    have hIn : (hash call.callId : Json δ) ∈ attempted.map fun c => hash c.callId :=
      List.mem_map.mpr ⟨call, hCall, rfl⟩
    have hCount := List.count_eq_one_of_mem hNodup hIn
    rw [← g.attempts, ← g.attempts_eq, List.count, List.countP_map] at hCount
    rw [← List.countP_eq_length_filter]
    refine Eq.trans (List.countP_congr ?_) hCount
    intro r _
    simp
  have hOutcomes : records.filter (fun r => isRecord .outcome r &&
      decide (r.field "authorization_id" = .str authorizationId ∧ r.field "plan_id" = .str planId ∧
        r.field "call_id" = hash call.callId)) = [] := by
    rw [List.filter_eq_nil_iff]
    intro r hr hTest
    rw [Bool.and_eq_true, decide_eq_true_eq, g.found.authorization] at hTest
    obtain ⟨hKind, hAuthorization, -, hId⟩ := hTest
    obtain ⟨c, hc, hSame⟩ := g.outcomes r (mem_ofAuthorization.mpr ⟨hr, hKind, hAuthorization⟩)
    rw [hSame, hash_inj] at hId
    rw [AcquisitionCall.callId_injective free hId] at hc
    exact hOpen hc
  have hNotRefused : ¬ (((authorizationAttempts records authorizationId planId).filter
      fun r => decide (r.field "call_id" = hash call.callId)).length ≠ 1 ∨
      records.filter (fun r => isRecord .outcome r &&
        decide (r.field "authorization_id" = .str authorizationId ∧ r.field "plan_id" = .str planId ∧
          r.field "call_id" = hash call.callId)) ≠ []) := by
    rw [not_or, not_not, not_not]
    exact ⟨hAttempts, hOutcomes⟩
  have hBuilt : ∃ record, outcomeRecord (some t) authorizationId planId call status evidenceId
      failureType (some records) = .ok (record, ()) := by
    rw [outcomeRecord, arguments, ok_bind, g.readRecords, ok_bind, g.oneHeader, ok_bind]
    dsimp only
    rw [refuseIf_of_not hNotRefused, ok_bind]
    exact ⟨_, rfl⟩
  obtain ⟨record, hRecord⟩ := hBuilt
  obtain ⟨_, header', hScan, recorded⟩ := outcomeRecord_eq_ok hRecord
  obtain ⟨scan', hNext⟩ := recorded.accepted free g.describes
  have hHeader : header' = header := Except.ok.inj (recorded.under.symm.trans g.oneHeader)
  obtain ⟨stamp, -, hDocument⟩ := recorded.document
  have hType : record.field "record_type" = text RecordType.outcome.name := by rw [hDocument]; rfl
  have hIds : record.field "authorization_id" = text ids.authorizationId ∧
      record.field "plan_id" = hash ids.planId ∧ record.field "campaign_id" = hash ids.campaignId ∧
      record.field "call_id" = hash call.callId := by
    rw [hDocument, hHeader, g.found.headerCampaign, g.found.authorization, g.found.plan]
    exact ⟨rfl, rfl, rfl, rfl⟩
  obtain ⟨rids, tagged, hValidated⟩ := validateRecord_of_type hType hNext
  obtain rfl : ids = rids := (tagged.toTagged.ids_eq hIds.1 hIds.2.1 hIds.2.2.1).symm
  obtain ⟨_, _, child, -, -, -, -, -, -, rfl⟩ := validateOutcome_eq_ok_iff.mp hValidated
  refine ⟨record, scan.addOutcome record ids child.callId, hRecord, ?_⟩
  constructor
  case valid => rw [validateRecords_append, g.valid, ok_bind, hNext]
  case found => exact { g.found with found := g.found.found }
  case maxCalls => exact g.maxCalls
  case scope => exact g.scope
  case attempts =>
    rw [ofAuthorization_append tagged.toTagged, if_neg (by simp), g.attempts]
  case outcomes =>
    intro r hr
    rw [ofAuthorization_append tagged.toTagged, if_pos ⟨rfl, rfl⟩, List.mem_append] at hr
    rcases hr with hr | hr
    · obtain ⟨c, hc, hEq⟩ := g.outcomes r hr
      exact ⟨c, List.mem_append_left _ hc, hEq⟩
    · rw [List.mem_singleton.mp hr]
      exact ⟨call, by simp, hIds.2.2.2⟩
  case base => exact g.base
  case authorized => exact g.authorized
  case reserved => exact g.reserved
  case room => exact g.room

end UnderGrant

/-- The counters of the header that a plan is granted with. -/
def AcquisitionPlan.counters (plan : AcquisitionPlan δ) : AuthorizationCounters :=
  let budgetDelta := max 0 (plan.campaign.reservedCalls + plan.calls.length - plan.campaign.authorizedCalls)
  { maxCalls := plan.calls.length
    baseCalls := plan.campaign.baseCalls.getD plan.calls.length
    budgetDelta
    authorizedCalls := plan.campaign.authorizedCalls + budgetDelta
    reservedBefore := plan.campaign.reservedCalls }

/-- A grant starts with no attempt. -/
theorem underGrant_of_granted (free : CollisionFree δ) (planned : PlannedOn file plan) {record : Json δ}
    (h : authorizationRecord now authorizationId plan plan.calls.length campaignBudgetDelta file =
      .ok (record, ())) :
    ∃ ids scan, UnderGrant authorizationId (.digest plan.planId) record ids plan.counters plan.calls [] []
      (file.lines ++ [record]) scan := by
  obtain ⟨delta, scan, hScan, granted⟩ := authorizationRecord_eq_ok h
  have d := describes_of_validateRecords hScan
  obtain ⟨scan', hNext⟩ := granted.accepted free d planned.reviewed
  obtain ⟨start, stamp, -, -, hDocument⟩ := granted.document
  obtain ⟨a, hAuthorization, hPattern⟩ := granted.matched
  have hType : record.field "record_type" = text RecordType.authorization.name := by
    rw [hDocument]
    rfl
  have hIds : record.field "authorization_id" = text a ∧ record.field "plan_id" = hash plan.planId ∧
      record.field "campaign_id" = hash plan.campaign.campaignId := by
    rw [hDocument, ← hAuthorization]
    exact ⟨rfl, rfl, rfl⟩
  have hFields : record.field "max_calls" = .int plan.calls.length ∧
      record.field "campaign_scope" = plan.campaign.campaignScope ∧
      record.field "calls" = callsDocument plan.calls := by
    rw [hDocument]
    exact ⟨rfl, rfl, rfl⟩
  obtain ⟨ids, tagged, hValidated⟩ := validateRecord_of_type hType hNext
  obtain rfl := tagged.toTagged.ids_eq hIds.1 hIds.2.1 hIds.2.2
  obtain ⟨calls, scope, c, hHeader, -, hConditions, -, -, rfl⟩ :=
    validateAuthorization_eq_ok_iff.mp hValidated
  have hDecoded : headerCalls record = .ok plan.calls := by
    rw [headerCalls, hFields.2.2]
    exact mapM_callFromDocument plan.calls
  have hCalls : calls = plan.calls := by
    obtain ⟨items, hItems, hMap⟩ := hHeader.decoded
    rw [headerCalls, hItems] at hDecoded
    exact Except.ok.inj (hMap.symm.trans hDecoded)
  subst hCalls
  have hCounters : c = plan.counters := by
    have hCounted := hHeader.counted
    rw [hDocument, granted.required] at hCounted
    exact (Option.some.inj hCounted).symm
  subst hCounters
  have hNone : ∀ kind, ofAuthorization kind file.lines a = [] := by
    intro kind
    rw [List.eq_nil_iff_forall_not_mem]
    intro r hr
    obtain ⟨hMem, -, hSame⟩ := mem_ofAuthorization.mp hr
    exact granted.fresh r hMem (hSame.trans hAuthorization.symm)
  refine ⟨⟨a, plan.planId, plan.campaign.campaignId⟩,
    scan.addAuthorization record ⟨a, plan.planId, plan.campaign.campaignId⟩ plan.counters, ?_⟩
  constructor
  case valid => rw [validateRecords_append, hScan, ok_bind, hNext]
  case found =>
    exact {
      authorization := Json.str.inj hAuthorization
      pattern := hPattern
      plan := rfl
      found := Function.update_self ..
      headerPlan := hIds.2.1
      headerCampaign := hIds.2.2
      decoded := hDecoded
      ordered := hHeader.ordered }
  case maxCalls => exact hFields.1
  case scope => rw [hFields.2.1, plan.campaign.identity]
  case attempts =>
    rw [ofAuthorization_append tagged.toTagged, if_neg (by simp), hNone]
    rfl
  case outcomes =>
    intro r hr
    rw [ofAuthorization_append tagged.toTagged, if_neg (by simp), hNone] at hr
    cases hr
  case base => simp [LedgerScan.addAuthorization]
  case authorized => simp [LedgerScan.addAuthorization]
  case reserved =>
    obtain ⟨-, -, -, -, -, -, -, -, -, -, -, -, hBefore, -⟩ := hConditions
    simpa [LedgerScan.addAuthorization] using hBefore.symm
  case room =>
    simp only [AcquisitionPlan.counters]
    omega

/-- A grant of a ready plan appends its header, under which no call is attempted yet. -/
theorem begin_of_ready (free : CollisionFree δ) (planned : PlannedOn file plan)
    (fresh : FreshAuthorization file authorizationId) (nonempty : plan.calls ≠ [])
    (ready : plan.blocked = .ok false) {delta : Int}
    (hDelta : plan.campaignRequiredBudgetDelta = .ok delta) (t : Instant) :
    ∃ header ids scan, beginAuthorization (some t) authorizationId plan plan.calls.length
        (.int delta) file = (.ok (), some (file.lines ++ [header])) ∧
      (header.field "authorization_id" = .str authorizationId ∧
        header.field "campaign_scope" = plan.campaign.campaignScope) ∧
      UnderGrant authorizationId (.digest plan.planId) header ids plan.counters plan.calls [] []
        (file.lines ++ [header]) scan := by
  obtain ⟨header, hBuilt⟩ := authorizationRecord_of_ready planned fresh nonempty ready hDelta t
  obtain ⟨ids, scan, g⟩ := underGrant_of_granted free planned hBuilt
  obtain ⟨_, _, -, granted⟩ := authorizationRecord_eq_ok hBuilt
  obtain ⟨_, _, -, -, hDocument⟩ := granted.document
  refine ⟨header, ids, scan, ?_, by rw [hDocument]; exact ⟨rfl, rfl⟩, g⟩
  rw [beginAuthorization, hBuilt]
  rfl

/-! ## Working through a plan -/

/-- What `reserve_call` and `finish_call` are given for one call of a plan. -/
structure CallTurn (δ : Type) where
  call : AcquisitionCall
  reservedAt : Instant
  status : Text δ
  evidenceId : Option (Text δ)
  failureType : Option (Text δ)
  finishedAt : Instant

/-- `reserve_call` followed by `finish_call`. -/
def reserveThenFinish (authorizationId planId : Text δ) (file : LedgerFile δ) (turn : CallTurn δ) :
    Except Raised (LedgerFile δ) := do
  let reserved := reserveCall (some turn.reservedAt) authorizationId planId turn.call file
  let _ ← reserved.1
  let finished := finishCall (some turn.finishedAt) authorizationId planId turn.call turn.status
    turn.evidenceId turn.failureType reserved.2
  let _ ← finished.1
  return finished.2

theorem reserveThenFinish_eq_ok {planId : Text δ} {turn : CallTurn δ} {file' : LedgerFile δ}
    (h : reserveThenFinish authorizationId planId file turn = .ok file') :
    ∃ number reserved, reserveCall (some turn.reservedAt) authorizationId planId turn.call file =
        (.ok number, reserved) ∧
      finishCall (some turn.finishedAt) authorizationId planId turn.call turn.status turn.evidenceId
        turn.failureType reserved = (.ok (), file') := by
  rw [reserveThenFinish, bind_eq_ok_iff] at h
  obtain ⟨number, hReserve, h⟩ := h
  rw [bind_eq_ok_iff] at h
  obtain ⟨_, hFinish, h⟩ := h
  cases h
  exact ⟨number, _, Prod.ext hReserve rfl, Prod.ext hFinish rfl⟩

section Turns

variable {planId : Text δ} {header : Json δ} {ids : RecordIds δ} {c : AuthorizationCounters}
  {calls : List AcquisitionCall}

theorem UnderGrant.turn (free : CollisionFree δ) {finished : List AcquisitionCall}
    {records : List (Json δ)} {scan : LedgerScan δ}
    (g : UnderGrant authorizationId planId header ids c calls finished finished records scan)
    {turn : CallTurn δ} (listed : (finished ++ [turn.call]).Sublist calls)
    (actions : ∀ c ∈ calls, c.kind.isAction = true →
      calls.idxOf c < calls.idxOf turn.call → c ∈ finished)
    (arguments : finishArguments turn.status turn.evidenceId turn.failureType = .ok ⟨⟩) :
    ∃ records' scan', reserveThenFinish authorizationId planId (some records) turn = .ok (some records') ∧
      UnderGrant authorizationId planId header ids c calls (finished ++ [turn.call])
        (finished ++ [turn.call]) records' scan' := by
  obtain ⟨attempt, scan₁, hAttempt, g₁⟩ := g.reserve free listed actions turn.reservedAt
  have hOpen : turn.call ∉ finished := by
    have hApart := (calls_nodup g.found.ordered).sublist listed
    rw [List.nodup_append] at hApart
    exact fun hIn => hApart.2.2 _ hIn _ (List.mem_singleton_self _) rfl
  obtain ⟨outcome, scan₂, hOutcome, g₂⟩ :=
    g₁.finish free listed (by simp) hOpen arguments turn.finishedAt
  refine ⟨_, scan₂, ?_, g₂⟩
  have hReserve : reserveCall (some turn.reservedAt) authorizationId planId turn.call (some records) =
      (.ok ((finished.length : Int) + 1), some (records ++ [attempt])) := by
    rw [reserveCall, hAttempt]
    rfl
  have hFinish : finishCall (some turn.finishedAt) authorizationId planId turn.call turn.status
      turn.evidenceId turn.failureType (some (records ++ [attempt])) =
        (.ok (), some (records ++ [attempt] ++ [outcome])) := by
    rw [finishCall, hOutcome]
    rfl
  rw [reserveThenFinish, hReserve]
  dsimp only
  rw [ok_bind, hFinish]
  rfl

/-- Turns over the rest of a sublist that keeps the action pages all succeed. -/
theorem UnderGrant.turns (free : CollisionFree δ) (turns : List (CallTurn δ))
    {finished : List AcquisitionCall} {records : List (Json δ)} {scan : LedgerScan δ}
    (g : UnderGrant authorizationId planId header ids c calls finished finished records scan)
    (listed : (finished ++ turns.map (·.call)).Sublist calls)
    (actions : ∀ c ∈ calls, c.kind.isAction = true → c ∈ finished ++ turns.map (·.call))
    (arguments : ∀ turn ∈ turns,
      finishArguments turn.status turn.evidenceId turn.failureType = .ok ⟨⟩) :
    ∃ records' scan', turns.foldlM (reserveThenFinish authorizationId planId) (some records) =
        .ok (some records') ∧
      UnderGrant authorizationId planId header ids c calls (finished ++ turns.map (·.call))
        (finished ++ turns.map (·.call)) records' scan' := by
  induction turns generalizing finished records scan with
  | nil => exact ⟨records, scan, rfl, by simpa using g⟩
  | cons turn rest ih =>
    have hSplit : finished ++ (turn :: rest).map (·.call) =
        finished ++ [turn.call] ++ rest.map (·.call) := by simp
    rw [hSplit] at listed actions
    have hNext : (finished ++ [turn.call]).Sublist calls :=
      (List.sublist_append_left _ _).trans listed
    have hNodup := calls_nodup g.found.ordered
    have hActions : ∀ c ∈ calls, c.kind.isAction = true →
        calls.idxOf c < calls.idxOf turn.call → c ∈ finished := by
      intro c hc hKind hBefore
      rcases List.mem_append.mp (actions c hc hKind) with hc | hc
      · rcases List.mem_append.mp hc with hc | hc
        · exact hc
        · rw [List.mem_singleton.mp hc] at hBefore
          exact absurd hBefore (lt_irrefl _)
      · -- a call of a later turn stands behind this one
        have hPair : ([turn.call] ++ [c]).Sublist calls := by
          refine List.Sublist.trans ?_ listed
          rw [List.append_assoc]
          exact (List.Sublist.cons_cons _ (List.singleton_sublist.mpr hc)).trans
            (List.sublist_append_right _ _)
        exact absurd (idxOf_lt_of_sublist hNodup hPair (List.mem_singleton_self _)) (by omega)
    obtain ⟨records', scan', hTurn, g'⟩ :=
      g.turn free hNext hActions (arguments turn List.mem_cons_self)
    obtain ⟨records'', scan'', hRest, g''⟩ :=
      ih g' listed actions fun t ht => arguments t (List.mem_cons_of_mem _ ht)
    refine ⟨records'', scan'', ?_, by rwa [hSplit]⟩
    rw [List.foldlM_cons, hTurn, ok_bind, hRest]

end Turns

end StockApi.Acquisition

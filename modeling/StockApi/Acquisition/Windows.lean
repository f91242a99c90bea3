import StockApi.Acquisition.Admissions
import StockApi.Acquisition.Grants

/-!
# Plans of one missing session

On every readable ledger whose campaign has room, the plan of a window with one bar missing is
ready: it lists the split page, unless its collection is there, and the close of that session.
-/

namespace StockApi.Acquisition

open Checked CivilTime

variable {δ : Type} [DecidableEq δ] [ContentHash δ]

/-- The coverage of a window in which one bar is not stored. -/
def coverageWithout (sessions : List Date) (session : Date) (version : δ) : ExistingCoverage δ :=
  let complete := sessions.filter fun d => decide (d ≠ session)
  ⟨complete, [], complete.map fun d => (d, version)⟩

omit [DecidableEq δ] in
theorem exists_plan (endSession : Date) {sessions : List Date} {session : Date} {toolRevision : String}
    (sorted : sessions.Pairwise (· < ·)) (hSession : session ∈ sessions)
    (hRevision : matchesGitRevision toolRevision = true) (version : δ) :
    ∃ plan, buildPlan endSession sessions (coverageWithout sessions session version) toolRevision [] =
        .ok plan ∧ plan.missingDates = [session] ∧ plan.ambiguousDates = [] ∧
      plan.endSession = endSession ∧ plan.toolRevision = toolRevision ∧
      plan.completeDates = sessions.filter fun d => decide (d ≠ session) := by
  set complete := sessions.filter fun d => decide (d ≠ session) with hComplete
  have hSorted : complete.Pairwise (· < ·) := sorted.filter _
  have hSet : Dict.sortedSet complete = complete := Dict.sortedSet_eq_self_iff.mpr hSorted
  have hEmpty : Dict.sortedSet ([] : List Date) = [] := Dict.sortedSet_eq_self_iff.mpr .nil
  have hKeys : (complete.map fun d => (d, version)).map Prod.fst = complete := by
    rw [List.map_map]
    exact List.map_id _
  have hVersions : Dict.ofEntries (complete.map fun d => (d, version)) =
      complete.map fun d => (d, version) := by
    apply Dict.ofEntries_of_nodup
    rw [hKeys]
    exact hSorted.imp ne_of_lt
  have hMissing : Dict.sortedSet
      (sessions.filter fun d => decide (d ∉ complete ∧ d ∉ ([] : List Date))) = [session] := by
    have hSingle : Dict.sortedSet [session] = [session] :=
      Dict.sortedSet_eq_self_iff.mpr (List.pairwise_singleton _ _)
    rw [← hSingle, Dict.sortedSet, Dict.sortedSet]
    congr 1
    ext d
    simp only [List.mem_toFinset, List.mem_filter, hComplete, decide_eq_true_eq, List.mem_singleton,
      List.not_mem_nil, not_false_iff, and_true, not_and, not_not]
    constructor
    · exact fun h => h.2 h.1
    · rintro rfl
      exact ⟨hSession, fun _ => rfl⟩
  rw [buildPlan, coverageWithout]
  simp only [← hComplete]
  rw [hSet, hEmpty, hVersions, hKeys, List.append_nil, hSet, hMissing, List.filter_nil, hEmpty]
  rw [refuseIf_of_not (by simp [hRevision]), ok_bind, refuseIf_of_not (by simp), ok_bind,
    refuseIf_of_not (by simp +contextual [hComplete]), ok_bind, refuseIf_of_not (by simp), ok_bind]
  exact ⟨_, rfl, rfl, rfl, rfl, rfl, rfl⟩

/-! ## The plan around a campaign state -/

/-- A campaign that nothing was authorized for. -/
def unauthorized (scope : Json δ) : CampaignLedgerState δ :=
  ⟨contentId scope, scope, contentId (.arr []), 0, contentId (.arr []), 0, none, 0, 0, [], rfl, le_rfl,
    ⟨rfl, rfl, rfl⟩⟩

theorem campaignState_absent (scope : Json δ) :
    campaignState none (contentId scope) scope = .ok (unauthorized scope) := by
  have hRead : readRecords (none : LedgerFile δ) = .ok [] := rfl
  rw [campaignState, hRead, ok_bind, campaignStateFromRecords, if_neg (not_not.mpr rfl)]
  exact CampaignLedgerState.construct_eq_ok _ _ rfl le_rfl rfl (unauthorized scope).budget

/-- The state of an action query that has the given collections. -/
def queriedAction (actionType : ActionType) (endpoint : String) (start stop : Date)
    (collections : List (CorporateActionCollectionEvidence δ)) : ActionScopeState δ where
  actionType := actionType
  endpoint := endpoint
  coverage := ⟨actionType, endpoint, corporateActionSource, backfillSymbol, start, stop,
    corporateActionQueryPolicyHash, collections⟩
  pinned := ⟨rfl, rfl, rfl, rfl, rfl⟩

/-- The collection of a page, with its receipt. -/
def receivedCollection (now : Instant) : CorporateActionCollectionEvidence δ :=
  ⟨contentId .null, now, now, 0, some now⟩

def splitPageCall (start stop : Date) (ordered : start ≤ stop) : AcquisitionCall where
  kind := .splitPage
  start := start
  stop := stop
  ordered := ordered
  single := nofun

/-- The calls of a window with one missing session; `paged` when the split page is missing too. -/
def missingCalls (paged : Bool) (session start stop : Date) (ordered : start ≤ stop) :
    List AcquisitionCall :=
  (if paged then [splitPageCall start stop ordered] else []) ++ [openCloseCall session]

/-- What the plan of one missing session shows. -/
structure MissingPlan (calls : List AcquisitionCall) (state : CampaignLedgerState δ)
    (plan : AcquisitionPlan δ) : Prop where
  anchor : plan.pricePlan.smokeAnchorPresent = true
  split : plan.splitState.ambiguous = false
  dividend : plan.dividendState.ambiguous = false
  calls : plan.calls = calls
  ambiguous : plan.ambiguousCallIds = []
  campaign : plan.campaign = state

omit [DecidableEq δ] in
theorem MissingPlan.blocked {calls : List AcquisitionCall} {state : CampaignLedgerState δ}
    {plan : AcquisitionPlan δ} (m : MissingPlan calls state plan)
    (few : (calls.length : Int) ≤ maxAuthorizedCalls) (room : state.budgetBlocked calls.length = .ok false) :
    plan.blocked = .ok false := by
  rw [AcquisitionPlan.blocked, AcquisitionPlan.requiredOutboundAttempts, m.anchor, m.split, m.dividend,
    m.ambiguous, m.calls, m.campaign, room]
  exact if_neg (by simpa using few)

omit [DecidableEq δ] in
theorem validateCallOrder_missingCalls (paged : Bool) (session : Date) {start stop : Date}
    (ordered : start ≤ stop) : validateCallOrder (missingCalls paged session start stop ordered) = .ok ⟨⟩ := by
  have hSingle : Dict.sortedSet [session] = [session] :=
    Dict.sortedSet_eq_self_iff.mpr (List.pairwise_singleton _ _)
  cases paged <;>
    simp [validateCallOrder, missingCalls, openCloseCall, splitPageCall, CallKind.rank, hSingle,
      refuseIf_of_not]

theorem actionPage_queried (paged : Bool) {start stop : Date} (ordered : start ≤ stop) (now : Instant) :
    actionPage (δ := δ) (queriedAction .split splitsEndpoint start stop
        (if paged then [] else [receivedCollection now])) .splitPage splitsEndpoint start stop =
      .ok (if paged then [splitPageCall start stop ordered] else []) := by
  cases paged with
  | false => rfl
  | true =>
    have hMade : makeCall (δ := δ) .splitPage splitsEndpoint start stop =
        .ok (splitPageCall start stop ordered) :=
      AcquisitionCall.construct_self (δ := δ) (splitPageCall start stop ordered)
    rw [actionPage, if_pos (by rfl), hMade]
    rfl

/-- The plan of a window with one bar missing, around any state of its campaign. -/
theorem exists_missingPlan {pricePlan : BackfillPlan δ} {session first endSession : Date}
    {scope : Json δ} {state : CampaignLedgerState δ} (hFirst : pricePlan.expectedDates.head? = some first)
    (hEnd : pricePlan.endSession = endSession) (hMissing : pricePlan.missingDates = [session])
    (hAnchor : endSession ∈ pricePlan.completeDates)
    (hScope : campaignScope pricePlan.expectedDates = .ok scope) (named : state.campaignId = contentId scope)
    (ordered : first ≤ endSession) (paged : Bool) (now : Instant) :
    ∃ plan, buildAcquisitionPlan pricePlan
        (queriedAction .split splitsEndpoint first endSession
          (if paged then [] else [receivedCollection now])).coverage
        (queriedAction .dividend dividendsEndpoint first endSession [receivedCollection now]).coverage
        [] [] (some state) = .ok plan ∧
      MissingPlan (missingCalls paged session first endSession ordered) state plan := by
  set splits : ActionScopeState δ := queriedAction .split splitsEndpoint first endSession
    (if paged then [] else [receivedCollection now]) with hSplits
  set dividends : ActionScopeState δ :=
    queriedAction .dividend dividendsEndpoint first endSession [receivedCollection now] with hDividends
  have hConstruct : ActionScopeState.construct .split splitsEndpoint splits.coverage = .ok splits ∧
      ActionScopeState.construct .dividend dividendsEndpoint dividends.coverage = .ok dividends :=
    ⟨dif_pos splits.pinned, dif_pos dividends.pinned⟩
  have hInside : ¬ ¬ ((splits.coverage.coverageStart = first ∧
      splits.coverage.coverageEnd = pricePlan.endSession) ∧
      dividends.coverage.coverageStart = first ∧
      dividends.coverage.coverageEnd = pricePlan.endSession) := by
    rw [not_not, hEnd]
    exact ⟨⟨rfl, rfl⟩, rfl, rfl⟩
  have hDividendPage : actionPage dividends .dividendPage dividendsEndpoint first endSession = .ok [] := rfl
  have hOrder := validateCallOrder_missingCalls paged session ordered
  have hSame : ¬ (state.campaignId ≠ contentId scope) := not_not.mpr named
  have hDelta := @CampaignLedgerState.requiredBudgetDelta_of_nonneg δ _ state
    (missingCalls paged session first endSession ordered).length (by omega)
  rw [missingCalls] at hOrder hDelta
  rw [buildAcquisitionPlan, hFirst, orRefuse_some, ok_bind, hConstruct.1, ok_bind, hConstruct.2, ok_bind,
    refuseIf_of_not hInside, ok_bind, hEnd, actionPage_queried paged ordered now, ok_bind, hDividendPage,
    ok_bind, openCloseCalls_eq, ok_bind, hMissing, List.map_singleton, List.append_nil]
  dsimp only
  rw [hOrder, ok_bind, List.filter_nil, openCloseCalls_eq, ok_bind, hScope, ok_bind,
    campaignOrInitial, ok_bind, refuseIf_of_not hSame, ok_bind, hDelta, ok_bind]
  refine ⟨_, rfl, ?_⟩
  constructor
  case anchor => exact decide_eq_true (hEnd ▸ hAnchor)
  case split => cases paged <;> rfl
  case dividend => rfl
  case calls => rfl
  case ambiguous => simp
  case campaign => rfl

/-! ## The sessions of a window -/

/-- The full-day holidays of the exchange in the window below. -/
def windowHolidays : List (Nat × Nat) :=
  [(12, 25), (1, 1), (1, 15), (2, 19), (3, 29), (5, 27), (6, 19), (7, 4), (9, 2), (11, 28)]

def isWindowSession (d : Date) : Bool :=
  decide (d.days % 7 < 5) && !windowHolidays.contains (d.month, d.day)

/-- The 258 sessions from 21 December 2023 to 31 December 2024. -/
def windowSessions : List Date :=
  ((List.range 11).filterMap (fun i => Date.ofParts 2023 12 (21 + i)) ++
    (List.range 12).flatMap fun m => (List.range 31).filterMap fun i =>
      Date.ofParts 2024 (m + 1) (i + 1)).filter isWindowSession

def firstSession : Date := ⟨2023, 12, 21, by decide, by decide, by decide⟩

def lastSession : Date := ⟨2024, 12, 31, by decide, by decide, by decide⟩

def lostSession : Date := ⟨2024, 12, 30, by decide, by decide, by decide⟩

def otherSession : Date := ⟨2024, 12, 27, by decide, by decide, by decide⟩

/-- The window holds the required number of sessions, in order, among them the three named ones. -/
theorem windowSessions_facts :
    windowSessions.length = requiredSessions ∧ windowSessions.IsChain (· < ·) ∧
      (lastSession ∈ windowSessions ∧ otherSession ∈ windowSessions ∧ lostSession ∈ windowSessions) ∧
      windowSessions.head? = some firstSession ∧ windowSessions.getLast? = some lastSession := by
  decide +kernel

theorem windowSessions_length : windowSessions.length = requiredSessions := windowSessions_facts.1

theorem windowSessions_sorted : windowSessions.Pairwise (· < ·) :=
  List.isChain_iff_pairwise.mp windowSessions_facts.2.1

theorem lastSession_mem : lastSession ∈ windowSessions := windowSessions_facts.2.2.1.1

theorem otherSession_mem : otherSession ∈ windowSessions := windowSessions_facts.2.2.1.2.1

theorem lostSession_mem : lostSession ∈ windowSessions := windowSessions_facts.2.2.1.2.2

theorem windowSessions_first : windowSessions.head? = some firstSession := windowSessions_facts.2.2.2.1

theorem windowSessions_last : windowSessions.getLast? = some lastSession := windowSessions_facts.2.2.2.2

theorem first_le_last : firstSession ≤ lastSession := by decide

theorem sample_ids : matchesAuthorizationId "msft-20241231-a" = true ∧
    matchesAuthorizationId "msft-20250101-b" = true := by
  decide +kernel

def reviewedRevision : String := String.ofList (List.replicate 40 'a')

/-- The evening of the last session. -/
def reviewedInstant : Instant := ⟨739250 * dayMicros + 79200000000, by decide⟩

/-- A calendar with one session, the last of the window. -/
def windowCalendar : SessionCalendar where
  isSession := fun d => decide (d = lastSession)
  sessionsWindow := fun _ _ => windowSessions
  window_ends := by
    intro d n hSession _
    rw [of_decide_eq_true hSession]
    exact windowSessions_last

theorem expectedSessionDates_window :
    expectedSessionDates windowCalendar lastSession = .ok windowSessions := by
  have hSession : ¬ windowCalendar.isSession lastSession = false := by simp [windowCalendar]
  have hLength : ¬ windowSessions.length ≠ requiredSessions := not_not.mpr windowSessions_length
  rw [expectedSessionDates, refuseIf_of_not hSession, ok_bind]
  change (refuseIf (windowSessions.length ≠ requiredSessions) _ >>= fun _ => pure windowSessions) = _
  rw [refuseIf_of_not hLength]
  rfl

def windowScope : Json δ := campaignScopeDocument firstSession lastSession windowSessions

omit [DecidableEq δ] in
theorem campaignScope_window : campaignScope windowSessions = .ok (windowScope : Json δ) := by
  obtain ⟨rest, hRest⟩ := List.head?_eq_some_iff.mp windowSessions_first
  have hLast : rest.getLastD firstSession = lastSession := by
    have h := windowSessions_last
    rw [hRest, List.getLast?_cons, Option.some.injEq] at h
    rw [List.getLastD_eq_getLast?, h]
  refine campaignScope_eq_ok_iff.mpr ⟨windowSessions_sorted, firstSession, rest, hRest, ?_⟩
  rw [hLast, windowScope]

/-- The calls of the window without its lost session. -/
def windowCalls (paged : Bool) : List AcquisitionCall :=
  missingCalls paged lostSession firstSession lastSession first_le_last

/-- What the store answers about the window without its lost session. -/
def windowReading (version : δ) (paged : Bool) : StoreReading δ where
  prices := coverageWithout windowSessions lostSession version
  splits := (queriedAction .split splitsEndpoint firstSession lastSession
    (if paged then [] else [receivedCollection reviewedInstant])).coverage
  dividends := (queriedAction .dividend dividendsEndpoint firstSession lastSession
    [receivedCollection reviewedInstant]).coverage
  readable := true

theorem exists_windowPlan (version : δ) (paged : Bool) {state : CampaignLedgerState δ}
    (named : state.campaignId = contentId windowScope) :
    ∃ pricePlan plan, buildPlan lastSession windowSessions (windowReading version paged).prices
        reviewedRevision [] = .ok pricePlan ∧
      buildAcquisitionPlan pricePlan (windowReading version paged).splits
        (windowReading version paged).dividends [] [] (some state) = .ok plan ∧
      MissingPlan (windowCalls paged) state plan := by
  have hRevision : matchesGitRevision reviewedRevision = true := by decide
  obtain ⟨pricePlan, hPlan, hMissing, -, hEnd, -, hComplete⟩ :=
    exists_plan lastSession windowSessions_sorted lostSession_mem hRevision version
  have hExpected : pricePlan.expectedDates = windowSessions := (buildPlan_eq_ok hPlan).2.2.2.1
  have hAnchor : lastSession ∈ pricePlan.completeDates := by
    rw [hComplete]
    exact List.mem_filter.mpr ⟨lastSession_mem, by decide⟩
  obtain ⟨plan, hBuilt, m⟩ := exists_missingPlan (hExpected ▸ windowSessions_first) hEnd hMissing hAnchor
    (hExpected ▸ campaignScope_window) named first_le_last paged reviewedInstant
  exact ⟨pricePlan, plan, hPlan, hBuilt, m⟩

/-- A plan on a readable ledger whose campaign has room for the calls of the window. -/
theorem exists_readyPlan (version : δ) (paged : Bool) {file : LedgerFile δ} {state : CampaignLedgerState δ}
    (hState : campaignState file (contentId windowScope) windowScope = .ok state)
    (named : state.campaignId = contentId windowScope)
    (room : state.budgetBlocked (windowCalls paged).length = .ok false) :
    ∃ plan, PlanOf windowCalendar file plan ∧ plan.blocked = .ok false ∧
      plan.calls = windowCalls paged ∧ plan.campaign = state := by
  obtain ⟨pricePlan, plan, hPrice, hBuilt, m⟩ := exists_windowPlan version paged named
  refine ⟨plan, ⟨lastSession, windowSessions, _, reviewedRevision, pricePlan, _, _, _, _, windowScope, state,
    expectedSessionDates_window, hPrice, campaignScope_window, hState, hBuilt⟩, ?_, m.calls, m.campaign⟩
  exact m.blocked (by cases paged <;> decide) room

omit [DecidableEq δ] [ContentHash δ] in
theorem freshAuthorization_of {file : LedgerFile δ} {authorizationId : String}
    (hId : matchesAuthorizationId authorizationId = true)
    (fresh : ∀ r ∈ file.lines, r.field "authorization_id" ≠ text authorizationId) :
    FreshAuthorization file (.plain authorizationId) := by
  have hMatch : matching? matchesAuthorizationId (.str (.plain authorizationId) : Json δ) =
      some authorizationId := matching?_eq_some_iff.mpr ⟨rfl, hId⟩
  refine ⟨?_, fresh⟩
  rw [validateAuthorizationId, hMatch, refuseIf_of_not (by simp)]

/-- What the turns of a grant append is under its authorization. -/
theorem turns_authorization {authorizationId : Text δ} {planId : δ} {turns : List (CallTurn δ)}
    {file file' : LedgerFile δ}
    (h : turns.foldlM (reserveThenFinish authorizationId (.digest planId)) file = .ok file') :
    ∀ r ∈ file'.lines, r ∈ file.lines ∨ r.field "authorization_id" = .str authorizationId := by
  induction turns generalizing file with
  | nil =>
    cases h
    exact fun r hr => Or.inl hr
  | cons turn rest ih =>
    rw [List.foldlM_cons, bind_eq_ok_iff] at h
    obtain ⟨between, hTurn, hRest⟩ := h
    obtain ⟨number, reserved, hReserve, hFinish⟩ := reserveThenFinish_eq_ok hTurn
    obtain ⟨-, attempt, hAttempt, ⟨hAttemptId, -⟩, -⟩ := reserved_of_reserve hReserve
    obtain ⟨outcome, hOutcome, ⟨hOutcomeId, -⟩, -⟩ := recorded_of_finish hFinish
    intro r hr
    rcases ih hRest r hr with hr | hr
    · rw [hOutcome, hAttempt, List.append_assoc, List.mem_append] at hr
      rcases hr with hr | hr
      · exact Or.inl hr
      · rcases List.mem_cons.mp hr with rfl | hr
        · exact Or.inr hAttemptId
        · rw [List.mem_singleton.mp hr]
          exact Or.inr hOutcomeId
    · exact Or.inr hr

/-- The first call of a ready plan on the absent ledger is reserved under its grant. -/
theorem exists_reserved (free : CollisionFree δ) {plan : AcquisitionPlan δ} {call : AcquisitionCall}
    {calls : List AcquisitionCall} {delta : Int} (planned : PlanOf windowCalendar none plan)
    (ready : plan.blocked = .ok false) (hCalls : plan.calls = call :: calls)
    (hDelta : plan.campaignRequiredBudgetDelta = .ok delta) :
    ∃ (header attempt : Json δ) (ids : RecordIds δ) (scan : LedgerScan δ),
      beginAuthorization (some reviewedInstant) (.plain "msft-20241231-a") plan plan.calls.length
          (.int delta) none = (.ok (), some [header]) ∧
        reserveCall (some reviewedInstant) (.plain "msft-20241231-a") (.digest plan.planId) call
            (some [header]) = (.ok 1, some [header, attempt]) ∧
        (header.field "campaign_scope" = plan.campaign.campaignScope ∧
          attempt.field "campaign_id" = header.field "campaign_id") ∧
        (isRecord .attempt header = false ∧ Unresolved [header, attempt] attempt ∧
          attempt.field "call_id" = hash call.callId) ∧
        UnderGrant (.plain "msft-20241231-a") (.digest plan.planId) header ids plan.counters plan.calls
          [call] [] [header, attempt] scan := by
  obtain ⟨header, ids, scan, hBegin, ⟨-, hScope⟩, g⟩ := begin_of_ready free (planned.plannedOn free)
    (freshAuthorization_of sample_ids.1 fun r hr => absurd hr List.not_mem_nil)
    (by simp [hCalls]) ready hDelta reviewedInstant
  have hListed : ([] ++ [call]).Sublist plan.calls := by simp [hCalls]
  have hFirst : ∀ c ∈ plan.calls, c.kind.isAction = true →
      plan.calls.idxOf c < plan.calls.idxOf call → c ∈ [] := by
    intro c _ _ hBefore
    rw [hCalls, List.idxOf_cons_self] at hBefore
    exact absurd hBefore (Nat.not_lt_zero _)
  obtain ⟨attempt, scan', hAttempt, g'⟩ := g.reserve free hListed hFirst reviewedInstant
  obtain ⟨_, header', _, _, -, reserved⟩ := attemptRecord_eq_ok hAttempt
  have hHeader : header' = header := Except.ok.inj (reserved.under.symm.trans g.oneHeader)
  obtain ⟨_, -, hDocument⟩ := reserved.document
  have hCampaign : attempt.field "campaign_id" = header.field "campaign_id" := by
    rw [hDocument, hHeader]
    rfl
  have hReserve : reserveCall (some reviewedInstant) (.plain "msft-20241231-a") (.digest plan.planId)
      call (some [header]) = (.ok 1, some [header, attempt]) := by
    have hRecord : attemptRecord (some reviewedInstant) (.plain "msft-20241231-a") (.digest plan.planId)
        call (some [header]) = .ok (attempt, 1) := hAttempt
    rw [reserveCall, hRecord]
    rfl
  obtain ⟨-, begun, hBegun, -, hNoAttempt, -⟩ := authorized_of_begin hBegin
  obtain rfl : header = begun := List.singleton_inj.mp hBegun
  obtain ⟨-, reserved, hLines, ⟨hOwn, -⟩, ⟨hKind, hCall⟩, -⟩ := reserved_of_reserve hReserve
  obtain rfl : attempt = reserved := by simpa [LedgerFile.lines] using hLines
  have hAuthorization : (text ids.authorizationId : Json δ) = text "msft-20241231-a" :=
    congrArg Json.str g.found.authorization.symm
  refine ⟨header, attempt, ids, scan', hBegin, hReserve, ⟨hScope, hCampaign⟩,
    ⟨hNoAttempt, ⟨List.mem_cons_of_mem _ List.mem_cons_self, hKind, ?_⟩, hCall⟩, g'⟩
  rintro ⟨outcome, hMem, hOutcome, hKey⟩
  have hSame : outcome.field "authorization_id" = text ids.authorizationId :=
    (congrArg Prod.fst hKey).trans (hOwn.trans hAuthorization.symm)
  obtain ⟨c, hc, -⟩ := g'.outcomes outcome (mem_ofAuthorization.mpr ⟨hMem, hOutcome, hSame⟩)
  cases hc

/-! ## A campaign of two grants -/

/-- The page arrives; the close fails after its admission. -/
def firstTurns : List (CallTurn δ) :=
  [⟨splitPageCall firstSession lastSession first_le_last, reviewedInstant, .plain checkpointed,
      some (.digest (contentId .null)), none, reviewedInstant⟩,
    ⟨openCloseCall lostSession, reviewedInstant, .plain failedAfterAdmission, none,
      some (.plain "TimeoutError"), reviewedInstant⟩]

/-- A campaign over the window: `first` is granted and worked through, then `second` is planned on
the ledger this leaves, for the close that has failed. -/
structure TwoGrants (first second : AcquisitionPlan δ) (granted worked : LedgerFile δ) : Prop where
  planned : PlanOf windowCalendar none first
  ready : first.blocked = .ok false
  calls : first.calls = windowCalls true
  delta : first.campaignRequiredBudgetDelta = .ok 2
  begun : beginAuthorization (some reviewedInstant) (.plain "msft-20241231-a") first 2 (.int 2) none =
    (.ok (), granted)
  turns : firstTurns.foldlM (reserveThenFinish (.plain "msft-20241231-a") (.digest first.planId)) granted =
    .ok worked
  replanned : PlanOf windowCalendar worked second
  again : second.blocked = .ok false
  rest : second.calls = windowCalls false
  recovery : second.campaignRequiredBudgetDelta = .ok 1
  unused : FreshAuthorization worked (.plain "msft-20250101-b")

theorem TwoGrants.continues (free : CollisionFree δ) {first second : AcquisitionPlan δ}
    {granted worked : LedgerFile δ} (t : TwoGrants first second granted worked) :
    ∃ continued, beginAuthorization (some reviewedInstant) (.plain "msft-20250101-b") second 1 (.int 1)
      worked = (.ok (), continued) := by
  have hLength : second.calls.length = 1 := by
    rw [t.rest]
    rfl
  obtain ⟨header, ids, scan, hBegin, -⟩ := begin_of_ready free (t.replanned.plannedOn free) t.unused
    (List.ne_nil_of_length_pos (by omega)) t.again t.recovery reviewedInstant
  rw [hLength] at hBegin
  exact ⟨_, hBegin⟩

omit [DecidableEq δ] in
theorem budgetBlocked_recovery {state : CampaignLedgerState δ} (hBase : state.baseCalls = some 2)
    (hAuthorized : state.authorizedCalls = 2) (hReserved : state.reservedCalls = 2) :
    state.requiredBudgetDelta 1 = .ok 1 ∧ state.budgetBlocked 1 = .ok false := by
  have hDelta : state.requiredBudgetDelta 1 = .ok 1 := by
    rw [CampaignLedgerState.requiredBudgetDelta_of_nonneg (by decide), hAuthorized, hReserved]
    rfl
  refine ⟨hDelta, ?_⟩
  rw [CampaignLedgerState.budgetBlocked, hDelta, ok_bind, hBase]
  simp [CampaignLedgerState.recoveryCallsRemaining, CampaignLedgerState.recoveryCallsAuthorized, hBase,
    hAuthorized, hardMaxAuthorizedCalls, maxRecoveryCalls, absoluteMaxCampaignCalls, maxAuthorizedCalls]

theorem exists_twoGrants (free : CollisionFree δ) (version : δ) :
    ∃ (first second : AcquisitionPlan δ) (granted worked : LedgerFile δ),
      TwoGrants first second granted worked := by
  obtain ⟨first, hPlan, hReady, hCalls, hState⟩ :=
    exists_readyPlan version true (campaignState_absent windowScope) rfl rfl
  have hLength : first.calls.length = 2 := by
    rw [hCalls]
    rfl
  have hDelta : first.campaignRequiredBudgetDelta = .ok 2 := by
    rw [AcquisitionPlan.campaignRequiredBudgetDelta, AcquisitionPlan.requiredOutboundAttempts, hLength, hState]
    rfl
  obtain ⟨header, ids, scan, hBegin, ⟨hOwn, hScope⟩, g⟩ := begin_of_ready free (hPlan.plannedOn free)
    (freshAuthorization_of sample_ids.1 fun r hr => absurd hr List.not_mem_nil)
    (List.ne_nil_of_length_pos (by omega)) hReady hDelta reviewedInstant
  rw [hLength] at hBegin
  have hTurnCalls : ([] : List AcquisitionCall) ++ (firstTurns (δ := δ)).map (·.call) = first.calls := by
    rw [hCalls]
    rfl
  obtain ⟨records, scan', hTurns, g'⟩ := g.turns free firstTurns (hTurnCalls ▸ List.Sublist.refl _)
    (fun c hc _ => by rwa [hTurnCalls]) (by
      intro turn hTurn
      rcases List.mem_cons.mp hTurn with rfl | hTurn
      · rfl
      · rw [List.mem_singleton.mp hTurn]
        rfl)
  obtain ⟨state, hRecords, hAuthorized, hReserved, hBase, hNamed⟩ := g'.campaign free
  have hWindow : header.field "campaign_scope" = windowScope := by
    rw [hScope, hState]
    rfl
  have hId : ids.campaignId = contentId windowScope := by rw [g'.scope, hWindow]
  have hCampaign : campaignState (some records) (contentId windowScope) windowScope = .ok state := by
    rw [campaignState, g'.readRecords, ok_bind, ← hId, ← hWindow, hRecords]
  have hCounters : first.counters = ⟨2, 2, 2, 2, 0⟩ := by
    rw [AcquisitionPlan.counters, hLength, hState]
    rfl
  rw [hCounters] at hAuthorized hReserved hBase
  obtain ⟨hRecovery, hRoom⟩ := budgetBlocked_recovery hBase hAuthorized
    (by rw [hReserved, hTurnCalls, hLength]; rfl)
  obtain ⟨second, hAgain, hSecond, hRest, hContinued⟩ :=
    exists_readyPlan version false hCampaign (hNamed.trans hId) hRoom
  refine ⟨first, second, _, _, hPlan, hReady, hCalls, hDelta, hBegin, hTurns, hAgain, hSecond, hRest, ?_, ?_⟩
  · rw [AcquisitionPlan.campaignRequiredBudgetDelta, AcquisitionPlan.requiredOutboundAttempts, hRest,
      hContinued]
    exact hRecovery
  · refine freshAuthorization_of sample_ids.2 fun r hr hSame => ?_
    have hFirst : r.field "authorization_id" = text "msft-20241231-a" := by
      rcases turns_authorization hTurns r hr with hr | hr
      · rw [List.mem_singleton.mp hr]
        exact hOwn
      · exact hr
    exact absurd (text_inj.mp (hFirst.symm.trans hSame)) (by decide)

end StockApi.Acquisition

import StockApi.Acquisition.Anchored
import StockApi.Acquisition.Windows

/-!
# What the acquisition lane guarantees

The ledger stays readable and within its budget, no call is admitted without an anchored
reservation, and the anchors follow the ledger. Each is shown on a campaign of two grants.
-/

namespace StockApi.Acquisition

open Checked CivilTime Relation

variable {δ : Type} [DecidableEq δ] [ContentHash δ]

/-! ## Writers as a journal -/

theorem step_begin {calendar : SessionCalendar} {j : Journal δ} {plan : AcquisitionPlan δ}
    {now : Option Instant} {authorizationId : Text δ} {maxCalls : Int} {delta : Json δ}
    {file' : LedgerFile δ} (planned : PlanOf calendar j.file plan)
    (h : beginAuthorization now authorizationId plan maxCalls delta j.file = (.ok (), file')) :
    JournalStep calendar j ⟨file', j.file :: j.earlier⟩ := by
  have step := JournalStep.call j (.beginAuthorization now authorizationId plan maxCalls delta)
    ⟨j.file, List.mem_cons_self, planned⟩
  rwa [WriterCall.run, h] at step

/-- The turns of a grant are two writer calls each, and two records. -/
theorem run_turns (calendar : SessionCalendar) {authorizationId planId : Text δ}
    {turns : List (CallTurn δ)} {j : Journal δ} {file' : LedgerFile δ}
    (h : turns.foldlM (reserveThenFinish authorizationId planId) j.file = .ok file') :
    ∃ k, ReflTransGen (JournalStep calendar) j k ∧ k.file = file' ∧
      file'.lines.length = j.file.lines.length + 2 * turns.length := by
  induction turns generalizing j with
  | nil =>
    cases h
    exact ⟨j, .refl, rfl, by simp⟩
  | cons turn rest ih =>
    rw [List.foldlM_cons, bind_eq_ok_iff] at h
    obtain ⟨between, hTurn, hRest⟩ := h
    obtain ⟨number, reserved, hReserve, hFinish⟩ := reserveThenFinish_eq_ok hTurn
    obtain ⟨_, -, hReserved⟩ := appending_eq_ok hReserve
    obtain ⟨_, -, hFinished⟩ := appending_eq_ok hFinish
    have first : JournalStep calendar j _ :=
      .call j (.reserveCall (some turn.reservedAt) authorizationId planId turn.call) trivial
    rw [WriterCall.run, hReserve] at first
    have second : JournalStep calendar ⟨reserved, j.file :: j.earlier⟩ _ :=
      .call _ (.finishCall (some turn.finishedAt) authorizationId planId turn.call turn.status
        turn.evidenceId turn.failureType) trivial
    rw [WriterCall.run, hFinish] at second
    obtain ⟨k, hRun, hFile, hLength⟩ := ih (j := ⟨between, _⟩) hRest
    refine ⟨k, .head first (.head second hRun), hFile, ?_⟩
    rw [hLength, List.length_cons]
    simp only [hFinished, hReserved, List.length_append, List.length_singleton]
    omega

/-! ## The ledger -/

/-- Every ledger the writers can produce is readable and stays within budget. -/
theorem ledger_readable_within_budget (free : CollisionFree δ) (calendar : SessionCalendar)
    {j : Journal δ} (run : ReflTransGen (JournalStep calendar) Journal.absent j) :
    Readable j.file ∧
    (∀ r ∈ j.file.lines, ∃ scope : Json δ, r.field "campaign_id" = hash (contentId scope)) ∧
    (∀ scope : Json δ, ∃ state, campaignState j.file (contentId scope) scope = .ok state ∧
      CampaignWithinBudget j.file.lines (contentId scope) state) ∧
    ∀ (c : WriterCall δ) (e : Raised), (c.run j.file).1 = .error e → (c.run j.file).2 = j.file := by
  have hReadable : Readable j.file :=
    invariant_of_run (readable_step free) run (show Readable Journal.absent.file from readable_absent)
  obtain ⟨scan, hScan⟩ := hReadable
  have d := describes_of_validateRecords hScan
  refine ⟨⟨scan, hScan⟩, ?_, ?_, ?_⟩
  · intro r hMem
    exact d.campaign_named hMem
  · intro scope
    obtain ⟨state, hState, view⟩ := campaignState_of_validate _ free hScan scope
    exact ⟨state, hState, d.withinBudget view⟩
  · intro c e hRefused
    rcases c.run_cases j.file with ⟨r, -, hRun⟩ | ⟨e', -, hRun⟩
    · rw [hRun] at hRefused
      cases hRefused
    · rw [hRun]

section Witness

open Classical in
/-- Both grants of a campaign and the turns of the first. -/
theorem ledger_readable_within_budget_twoGrants :
    ∃ (first second : AcquisitionPlan Seal) (granted worked continued : LedgerFile Seal)
        (state : CampaignLedgerState Seal),
      beginAuthorization (some reviewedInstant) (.plain "msft-20241231-a") first 2 (.int 2) none =
        (.ok (), granted) ∧
      firstTurns.foldlM (reserveThenFinish (.plain "msft-20241231-a") (.digest first.planId)) granted =
        .ok worked ∧
      beginAuthorization (some reviewedInstant) (.plain "msft-20250101-b") second 1 (.int 1) worked =
        (.ok (), continued) ∧
      continued.lines.length = 6 ∧ Readable continued ∧
      campaignState continued (contentId windowScope) windowScope = .ok state ∧
      CampaignWithinBudget continued.lines (contentId windowScope) state := by
  obtain ⟨first, second, granted, worked, t⟩ := exists_twoGrants collisionFree_seal (Seal.of .null)
  obtain ⟨continued, hContinued⟩ := t.continues collisionFree_seal
  have begun : JournalStep windowCalendar Journal.absent ⟨granted, [none]⟩ :=
    step_begin t.planned t.begun
  obtain ⟨k, hRun, rfl, hLength⟩ := run_turns windowCalendar (j := ⟨granted, [none]⟩) t.turns
  have again := step_begin t.replanned hContinued
  obtain ⟨readable, -, budget, -⟩ := ledger_readable_within_budget collisionFree_seal windowCalendar
    (.tail (.head begun hRun) again)
  obtain ⟨state, hState, within⟩ := budget windowScope
  obtain ⟨_, -, hBegun⟩ := appending_eq_ok t.begun
  obtain ⟨_, -, hAgain⟩ := appending_eq_ok hContinued
  refine ⟨first, second, granted, k.file, continued, state, t.begun, t.turns, hContinued, ?_, readable,
    hState, within⟩
  rw [hAgain, List.length_append, hLength, hBegun]
  rfl

end Witness

/-! ## Admissions -/

/-- Along every sequence of runs, stopped anywhere: the admissions are at most the attempts, each
follows its own anchored attempt, and a call whose attempt a run left open is not admitted again. -/
theorem no_admission_without_reservation (file : LedgerFile δ) (anchors : List (AnchorRow δ))
    {w : World δ} (run : ReflTransGen ExecuteStep (World.idle file anchors) w) :
    w.admissions.length ≤ attemptCount w.file.lines ∧
    (∀ a ∈ w.admissions, a.Sound ∧ a.ledger <+: w.file.lines ∧ a.anchors <+: w.anchors) ∧
    ∀ attempt, w.run = none → Unresolved w.file.lines attempt →
      ∀ w', ReflTransGen ExecuteStep w w' → Unresolved w'.file.lines attempt ∧
        ∃ later, w'.admissions = w.admissions ++ later ∧
          ∀ a ∈ later, hash a.call.callId ≠ attempt.field "call_id" := by
  have inv := invariant_of_run executeInvariant_step run (executeInvariant_idle file anchors)
  refine ⟨(Nat.le_add_right _ _).trans inv.counted, inv.sound, ?_⟩
  intro attempt hIdle hOpen w' next
  have left : LeftOpen attempt w.admissions w :=
    ⟨hOpen, by simp [hIdle], [], (List.append_nil _).symm, by simp⟩
  have both := invariant_of_run leftOpen_step next ⟨inv, left⟩
  exact ⟨both.2.stays, both.2.later⟩

section Witness

/-- What the operator has reviewed of a plan with one page and one close. -/
def reviewedArguments (plan : AcquisitionPlan δ) : ExecuteArguments δ where
  planId := .digest plan.planId
  campaignId := .digest plan.campaign.campaignId
  campaignBudgetDelta := .int 2
  maxCalls := 2
  splitCalls := 1
  dividendCalls := 0
  openCloseCalls := 1
  authorization := authorizationSentinel
  authorizationId := .plain "msft-20241231-a"

theorem exists_currentPlan (version : δ) :
    ∃ plan, currentPlan lastSession windowSessions reviewedRevision (windowReading version true) [] none
        [] = .ok plan ∧
      PlanOf windowCalendar none plan ∧ MissingPlan (windowCalls true) (unauthorized windowScope) plan := by
  obtain ⟨pricePlan, plan, hPrice, hBuilt, m⟩ :=
    @exists_windowPlan δ _ _ version true (unauthorized windowScope) rfl
  have hWater : requireDatabaseHighWater true ([] : List (AnchorRow δ)) (unauthorized windowScope) = .ok () :=
    rfl
  have hRead : readRecords (none : LedgerFile δ) = .ok [] := rfl
  have hNone : unresolvedCallIds ([] : List (Json δ)) = [] := by simp [unresolvedCallIds]
  refine ⟨plan, ?_, ⟨lastSession, windowSessions, _, reviewedRevision, pricePlan, _, _, _, _, windowScope, _,
    expectedSessionDates_window, hPrice, campaignScope_window, campaignState_absent _, hBuilt⟩, m⟩
  rw [currentPlan, hPrice, ok_bind, campaignScope_window, ok_bind, campaignState_absent, ok_bind]
  change (requireDatabaseHighWater true [] (unauthorized windowScope) >>= fun _ => _) = _
  rw [hWater, ok_bind, hRead, ok_bind, hNone, hBuilt]

omit [DecidableEq δ] in
theorem checkArguments_reviewed (plan : AcquisitionPlan δ) :
    checkArguments (reviewedArguments plan) = .ok () := by
  obtain ⟨hPattern, -⟩ := @freshAuthorization_of δ none _ sample_ids.1
    fun r hr => absurd hr List.not_mem_nil
  rw [checkArguments, refuseIf_of_not (by simp [reviewedArguments]), ok_bind, reviewedArguments, hPattern,
    ok_bind, refuseIf_of_not (by simp [digest?]), ok_bind, refuseIf_of_not]
  simp [Json.int?, maxAuthorizedCalls, requiredSessions]

theorem acceptPlan_reviewed {plan : AcquisitionPlan δ}
    (m : MissingPlan (windowCalls true) (unauthorized windowScope) plan) :
    acceptPlan plan (reviewedArguments plan) = .ok () := by
  have hRoom : plan.campaign.budgetBlocked plan.requiredOutboundAttempts = .ok false := by
    rw [AcquisitionPlan.requiredOutboundAttempts, m.calls, m.campaign]
    rfl
  have hAllocation : AllocationMatches plan (reviewedArguments plan) := by
    rw [AllocationMatches, AcquisitionPlan.requiredOutboundAttempts, m.calls]
    exact ⟨rfl, rfl, rfl⟩
  rw [acceptPlan, refuseIf_of_not (by simp [reviewedArguments]), ok_bind,
    refuseIf_of_not (by simp [reviewedArguments]), ok_bind, refuseIf_of_not (by simp [m.anchor]), ok_bind,
    refuseIf_of_not (by simp [m.split, m.dividend]), ok_bind, refuseIf_of_not (by simp [m.ambiguous]),
    ok_bind, hRoom, ok_bind, refuseIf_of_not (by simp), ok_bind,
    refuseIf_of_not (by simp [m.calls, windowCalls, missingCalls]), ok_bind,
    refuseIf_of_not (not_not.mpr hAllocation)]

/-- A run that reserves the page, anchors the reservation, is let through once and then stops. -/
theorem exists_open_admission (free : CollisionFree δ) (version : δ) :
    ∃ (w : World δ) (attempt : Json δ), ReflTransGen ExecuteStep (World.idle none []) w ∧ w.run = none ∧
      w.admissions.length = 1 ∧ Unresolved w.file.lines attempt := by
  obtain ⟨plan, hCurrent, hPlan, m⟩ := exists_currentPlan version
  have hDelta : plan.campaignRequiredBudgetDelta = .ok 2 := by
    rw [AcquisitionPlan.campaignRequiredBudgetDelta, AcquisitionPlan.requiredOutboundAttempts, m.calls,
      m.campaign]
    rfl
  obtain ⟨header, attempt, ids, scan, hBegin, hReserve, ⟨hScope, hSame⟩, ⟨-, hOpen, -⟩, g⟩ :=
    exists_reserved free hPlan (m.blocked (by decide) rfl) m.calls hDelta
  have hLength : plan.calls.length = 2 := by
    rw [m.calls]
    rfl
  rw [hLength] at hBegin
  have hCampaign : plan.campaign.campaignId = contentId windowScope ∧
      plan.campaign.campaignScope = windowScope := by
    rw [m.campaign]
    exact ⟨rfl, rfl⟩
  have hHeader : header.field "campaign_id" = hash (contentId windowScope) := by
    rw [g.found.headerCampaign, g.scope, hScope, hCampaign.2]
  -- the anchors follow the header and then the attempt
  have hValid : validateRecords ([header] ++ [attempt]) = .ok scan := g.valid
  obtain ⟨scan₁, hScan₁, hStep₁⟩ := validateRecords_append_singleton hValid
  have hValid₁ : validateRecords ([] ++ [header]) = .ok scan₁ := hScan₁
  obtain ⟨scan₀, hScan₀, hStep₀⟩ := validateRecords_append_singleton hValid₁
  obtain ⟨state, requested, row, s⟩ := Published.empty.simulated free hScan₀ hStep₀ hHeader
    ⟨reviewedInstant, 1, by decide⟩
  obtain ⟨state', requested', row', s'⟩ := s.published.simulated free hScan₁ hStep₁
    (hSame.trans hHeader) ⟨reviewedInstant, 2, by decide⟩
  have hStored := s.stored
  have hStored' := s'.stored
  rw [← hCampaign.1, ← hCampaign.2] at hStored hStored'
  have compared : Compared plan none [] := by
    refine ⟨unauthorized windowScope, ?_, rfl⟩
    rw [hCampaign.1, hCampaign.2, campaignState_absent]
  have compared' : Compared plan (some [header]) [row] := by
    refine ⟨state, ?_, s.required _ _ _ s.read⟩
    rw [hCampaign.1, hCampaign.2]
    exact s.read
  set call := splitPageCall firstSession lastSession first_le_last with hCall
  have hCalls : plan.calls = call :: [openCloseCall lostSession] := m.calls
  have hLoop : ExecuteStep (δ := δ)
      ⟨some [header], [], some ⟨reviewedArguments plan, plan, [], .fresh 2, .headerAppended⟩, []⟩
      ⟨some [header], [row],
        some ⟨reviewedArguments plan, plan, [], .fresh 2, .looping (call :: [openCloseCall lostSession])⟩,
        []⟩ := hCalls ▸ .publishHeader hStored
  have hRequest : GlobalGuard.match? ⟨2, some call, false, 0⟩ "polygon" 1 (some call.endpoint) = .ok () := by
    simp [GlobalGuard.match?, refuseIf_of_not]
  have hAcquire : GlobalGuard.acquire ⟨2, some call, false, 0⟩ true = .ok ⟨2, some call, true, 1⟩ := rfl
  have hRun : ReflTransGen ExecuteStep (World.idle none [])
      (⟨some [header, attempt], [row, row'], none,
        [⟨call, .plain "msft-20241231-a", plan.planId, [header, attempt], [row, row']⟩]⟩ : World δ) :=
    .tail (.tail (.tail (.tail (.tail (.tail (.tail (.tail (.tail (.single
      (.start (checkArguments_reviewed plan) hCurrent (acceptPlan_reviewed m)))
      (.authorize compared hBegin)) hLoop) .evidenceAbsent) (.reserve compared' hReserve))
      (.publishAttempt hStored')) (.arm rfl))
      (.request hRequest)) (.acquire hAcquire)) .stop
  exact ⟨_, attempt, hRun, rfl, rfl, hOpen⟩

open Classical in
/-- The call that was let through is counted, and it is not let through again. -/
theorem no_admission_without_reservation_page :
    ∃ (w : World Seal) (attempt : Json Seal), ReflTransGen ExecuteStep (World.idle none []) w ∧
      w.admissions.length = 1 ∧ w.admissions.length ≤ attemptCount w.file.lines ∧
      (∀ a ∈ w.admissions, a.Sound) ∧ Unresolved w.file.lines attempt ∧
      ∀ w', ReflTransGen ExecuteStep w w' → Unresolved w'.file.lines attempt ∧
        ∃ later, w'.admissions = w.admissions ++ later ∧
          ∀ a ∈ later, hash a.call.callId ≠ attempt.field "call_id" := by
  obtain ⟨w, attempt, hRun, hIdle, hOne, hOpen⟩ := exists_open_admission collisionFree_seal (Seal.of .null)
  obtain ⟨counted, sound, stays⟩ := no_admission_without_reservation none [] hRun
  exact ⟨w, attempt, hRun, hOne, counted, fun a ha => (sound a ha).1, hOpen, stays attempt hIdle hOpen⟩

end Witness

/-! ## Anchors -/

/-- The anchors and the ledger simulate each other along every run of the writers. -/
theorem anchors_simulate_ledger (free : CollisionFree δ) (calendar : SessionCalendar) {j : Journal δ}
    (run : ReflTransGen (JournalStep calendar) Journal.absent j) :
    (Nonempty Transaction → ∃ rows, Published j.file.lines rows) ∧
    ∀ rows, Published j.file.lines rows →
      (∀ (c : δ) (scope : Json δ) (state : CampaignLedgerState δ),
        campaignState j.file c scope = .ok state →
          requireDatabaseHighWater true rows state = .ok ()) ∧
      ∀ (call : WriterCall δ) (record : Json δ), call.Planned calendar (j.file :: j.earlier) →
        call.record j.file = .ok record →
        (∃ scope : Json δ, record.field "campaign_id" = hash (contentId scope)) ∧
        ∀ scope : Json δ, record.field "campaign_id" = hash (contentId scope) → ∀ tx : Transaction,
          ∃ state requested row, Simulated j.file.lines record rows scope tx state requested row := by
  obtain ⟨scan, hScan⟩ := readable_of_run free run
  refine ⟨fun ⟨tx⟩ => exists_published free tx hScan, ?_⟩
  intro rows published
  refine ⟨?_, ?_⟩
  · intro c scope state hState
    obtain ⟨-, anyScan, -, view⟩ := stateOf_of_campaignState free hState
    exact (published.anchored free hScan).requires free view.globalRecordCount
      view.globalLedgerSha256
  · intro call record planned hRecord
    obtain ⟨scan', next, hScan', hStep⟩ := WriterCall.record_accepted free planned hRecord
    have hNext : validateRecords (j.file.lines ++ [record]) = .ok next := by
      rw [validateRecords_append, hScan', ok_bind, hStep]
    refine ⟨(describes_of_validateRecords hNext).campaign_named (r := record) (by simp), ?_⟩
    intro scope named tx
    exact published.simulated free hScan' hStep named tx

section Witness

open Classical in
/-- The header of a grant is anchored, then the reservation of its page. -/
theorem anchors_simulate_ledger_twoGrants :
    ∃ (first : AcquisitionPlan Seal) (header record : Json Seal) (rows : List (AnchorRow Seal))
        (scope : Json Seal) (tx : Transaction) (state : CampaignLedgerState Seal)
        (requested : HighWater Seal) (row : AnchorRow Seal),
      beginAuthorization (some reviewedInstant) (.plain "msft-20241231-a") first 2 (.int 2) none =
        (.ok (), some [header]) ∧
      reserveCall (some reviewedInstant) (.plain "msft-20241231-a") (.digest first.planId)
        (splitPageCall firstSession lastSession first_le_last) (some [header]) =
          (.ok 1, some [header, record]) ∧
      Published [header] rows ∧ Simulated [header] record rows scope tx state requested row := by
  obtain ⟨first, _, _, _, t⟩ := exists_twoGrants collisionFree_seal (Seal.of .null)
  have hLength : first.calls.length = 2 := by
    rw [t.calls]
    rfl
  obtain ⟨header, record, ids, scan, hBegin, hReserve, -⟩ :=
    exists_reserved collisionFree_seal t.planned t.ready t.calls t.delta
  rw [hLength] at hBegin
  have begun : JournalStep windowCalendar Journal.absent ⟨some [header], [none]⟩ :=
    step_begin t.planned hBegin
  obtain ⟨published, simulates⟩ :=
    anchors_simulate_ledger collisionFree_seal windowCalendar (ReflTransGen.single begun)
  obtain ⟨rows, hRows⟩ := published ⟨⟨reviewedInstant, 1, by decide⟩⟩
  obtain ⟨record', hRecord, hFile⟩ := appending_eq_ok hReserve
  obtain rfl : record = record' := by simpa [LedgerFile.lines] using hFile
  obtain ⟨⟨scope, named⟩, simulated⟩ := (simulates rows hRows).2
    (.reserveCall (some reviewedInstant) (.plain "msft-20241231-a") (.digest first.planId)
      (splitPageCall firstSession lastSession first_le_last)) record trivial
    (by rw [WriterCall.record, hRecord]; rfl)
  obtain ⟨state, requested, row, h⟩ := simulated scope named ⟨reviewedInstant, 2, by decide⟩
  exact ⟨first, header, record, rows, scope, _, state, requested, row, hBegin, hReserve, hRows, h⟩

end Witness

end StockApi.Acquisition

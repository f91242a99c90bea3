import StockApi.Acquisition.Children

/-!
# Runs of the ledger writers

From an absent file, any sequence of writer calls over plans built from earlier ledgers keeps
the file readable and every campaign within its cumulative budget.
-/

namespace StockApi.Acquisition

open Checked CivilTime Relation

variable {δ : Type} [DecidableEq δ] [ContentHash δ]

/-- The exchange calendar: `is_session` and `sessions_window`, whose window of `-n` sessions
ends at its session. -/
structure SessionCalendar where
  isSession : Date → Bool
  sessionsWindow : Date → Int → List Date
  window_ends : ∀ d n, isSession d = true → 0 < n → (sessionsWindow d (-n)).getLast? = some d

/-- `_expected_session_dates`. -/
def expectedSessionDates (calendar : SessionCalendar) (endSession : Date) :
    Except Raised (List Date) := do
  refuseIf (calendar.isSession endSession = false)
    (Raised.acquisitionRefused "end must be an XNYS trading session")
  let dates := calendar.sessionsWindow endSession (-requiredSessions)
  refuseIf (dates.length ≠ requiredSessions)
    (Raised.acquisitionRefused "could not derive the exact 258-session XNYS window")
  return dates

theorem expectedSessionDates_getLast? {calendar : SessionCalendar} {endSession : Date}
    {dates : List Date} (h : expectedSessionDates calendar endSession = .ok dates) :
    dates.getLast? = some endSession := by
  rw [expectedSessionDates, refuseIf_bind_eq_ok_iff, refuseIf_bind_eq_ok_iff, pure_eq_ok] at h
  obtain ⟨hSession, -, h⟩ := h
  cases h
  exact calendar.window_ends _ _ (by simpa using hSession) (by decide)

/-- A plan as `_current_plan` builds it: the price plan of the reviewed window, any database
coverage, and the campaign state of the given ledger. -/
def PlanOf (calendar : SessionCalendar) (file : LedgerFile δ) (plan : AcquisitionPlan δ) : Prop :=
  ∃ endSession expectedDates coverage toolRevision pricePlan splitCoverage dividendCoverage
      unresolved legacy scope campaign,
    expectedSessionDates calendar endSession = .ok expectedDates ∧
    buildPlan endSession expectedDates coverage toolRevision [] = .ok pricePlan ∧
    campaignScope expectedDates = .ok scope ∧
    campaignState file (contentId scope) scope = .ok campaign ∧
    buildAcquisitionPlan pricePlan splitCoverage dividendCoverage unresolved legacy
      (some campaign) = .ok plan

theorem PlanOf.reviewed (free : CollisionFree δ) {calendar : SessionCalendar} {file : LedgerFile δ}
    {plan : AcquisitionPlan δ} (h : PlanOf calendar file plan) : ReviewedPlan plan := by
  obtain ⟨_, _, _, _, _, _, _, _, _, _, _, hDates, hPrice, -, -, hPlan⟩ := h
  exact reviewedPlan_of_built free (expectedSessionDates_getLast? hDates) hPrice
    (planBuilt_of_eq_ok hPlan)

/-- One call of a ledger writer. -/
inductive WriterCall (δ : Type) [ContentHash δ] where
  | beginAuthorization (now : Option Instant) (authorizationId : Text δ) (plan : AcquisitionPlan δ)
      (maxCalls : Int) (campaignBudgetDelta : Json δ)
  | reserveCall (now : Option Instant) (authorizationId planId : Text δ) (call : AcquisitionCall)
  | finishCall (now : Option Instant) (authorizationId planId : Text δ) (call : AcquisitionCall)
      (status : Text δ) (evidenceId failureType : Option (Text δ))

namespace WriterCall

/-- The record the call would append, or its refusal. -/
def record (file : LedgerFile δ) : WriterCall δ → Except Raised (Json δ)
  | beginAuthorization now authorizationId plan maxCalls campaignBudgetDelta =>
    (authorizationRecord now authorizationId plan maxCalls campaignBudgetDelta file).map Prod.fst
  | reserveCall now authorizationId planId call =>
    (attemptRecord now authorizationId planId call file).map Prod.fst
  | finishCall now authorizationId planId call status evidenceId failureType =>
    (outcomeRecord now authorizationId planId call status evidenceId failureType file).map Prod.fst

/-- The refusal, if any, and the file afterwards. -/
def run (file : LedgerFile δ) : WriterCall δ → Except Raised Unit × LedgerFile δ
  | beginAuthorization now authorizationId plan maxCalls campaignBudgetDelta =>
    Acquisition.beginAuthorization now authorizationId plan maxCalls campaignBudgetDelta file
  | reserveCall now authorizationId planId call =>
    let done := Acquisition.reserveCall now authorizationId planId call file
    (done.1.map fun _ => (), done.2)
  | finishCall now authorizationId planId call status evidenceId failureType =>
    Acquisition.finishCall now authorizationId planId call status evidenceId failureType file

/-- The plan of an authorization comes from one of the given ledgers. -/
def Planned (calendar : SessionCalendar) (ledgers : List (LedgerFile δ)) : WriterCall δ → Prop
  | beginAuthorization _ _ plan _ _ => ∃ file ∈ ledgers, PlanOf calendar file plan
  | _ => True

omit [DecidableEq δ] [ContentHash δ] in
theorem appending_cases {α : Type} (file : LedgerFile δ) (built : Except Raised (Json δ × α)) :
    (∃ record result, built = .ok (record, result) ∧
      appending file built = (.ok result, some (file.lines ++ [record]))) ∨
    ∃ e, built = .error e ∧ appending file built = (.error e, file) := by
  cases built with
  | error e => exact Or.inr ⟨e, rfl, rfl⟩
  | ok r => exact Or.inl ⟨r.1, r.2, rfl, rfl⟩

/-- A writer call appends the one record it computed, or refuses and leaves the file. -/
theorem run_cases (file : LedgerFile δ) (call : WriterCall δ) :
    (∃ record, call.record file = .ok record ∧
      call.run file = (.ok (), some (file.lines ++ [record]))) ∨
    ∃ e, call.record file = .error e ∧ call.run file = (.error e, file) := by
  cases call with
  | beginAuthorization now authorizationId plan maxCalls delta =>
    rcases appending_cases file (authorizationRecord now authorizationId plan maxCalls delta file)
      with ⟨r, _, hBuilt, hRun⟩ | ⟨e, hBuilt, hRun⟩
    · exact Or.inl ⟨r, by simp [record, hBuilt, Except.map], hRun⟩
    · exact Or.inr ⟨e, by simp [record, hBuilt, Except.map], hRun⟩
  | reserveCall now authorizationId planId call =>
    rcases appending_cases file (attemptRecord now authorizationId planId call file)
      with ⟨r, n, hBuilt, hRun⟩ | ⟨e, hBuilt, hRun⟩
    · refine Or.inl ⟨r, by simp [record, hBuilt, Except.map], ?_⟩
      simp [run, Acquisition.reserveCall, hRun, Except.map]
    · refine Or.inr ⟨e, by simp [record, hBuilt, Except.map], ?_⟩
      simp [run, Acquisition.reserveCall, hRun, Except.map]
  | finishCall now authorizationId planId call status evidenceId failureType =>
    rcases appending_cases file
      (outcomeRecord now authorizationId planId call status evidenceId failureType file)
      with ⟨r, _, hBuilt, hRun⟩ | ⟨e, hBuilt, hRun⟩
    · exact Or.inl ⟨r, by simp [record, hBuilt, Except.map], hRun⟩
    · exact Or.inr ⟨e, by simp [record, hBuilt, Except.map], hRun⟩

omit [DecidableEq δ] [ContentHash δ] in
theorem map_fst_eq_ok {α : Type} {built : Except Raised (Json δ × α)} {r : Json δ}
    (h : built.map Prod.fst = .ok r) : ∃ result, built = .ok (r, result) := by
  cases built with
  | error e => cases h
  | ok p =>
    cases h
    exact ⟨p.2, rfl⟩

/-- The one record a call computes from a readable ledger is accepted on top of it. -/
theorem record_accepted (free : CollisionFree δ) {calendar : SessionCalendar}
    {ledgers : List (LedgerFile δ)} {file : LedgerFile δ} {call : WriterCall δ} {r : Json δ}
    (planned : call.Planned calendar ledgers) (h : call.record file = .ok r) :
    ∃ scan scan', validateRecords file.lines = .ok scan ∧ validateRecord scan r = .ok scan' := by
  cases call with
  | beginAuthorization now authorizationId plan maxCalls delta =>
    obtain ⟨_, hBuilt⟩ := map_fst_eq_ok h
    obtain ⟨source, -, hPlan⟩ := planned
    obtain ⟨delta, scan, hScan, granted⟩ := authorizationRecord_eq_ok hBuilt
    obtain ⟨scan', hNext⟩ :=
      granted.accepted free (describes_of_validateRecords hScan) (hPlan.reviewed free)
    exact ⟨scan, scan', hScan, hNext⟩
  | reserveCall now authorizationId planId call =>
    obtain ⟨_, hBuilt⟩ := map_fst_eq_ok h
    obtain ⟨scan, header, calls, state, hScan, reserved⟩ := attemptRecord_eq_ok hBuilt
    obtain ⟨scan', hNext⟩ := reserved.accepted free (describes_of_validateRecords hScan)
    exact ⟨scan, scan', hScan, hNext⟩
  | finishCall now authorizationId planId call status evidenceId failureType =>
    obtain ⟨_, hBuilt⟩ := map_fst_eq_ok h
    obtain ⟨scan, header, hScan, recorded⟩ := outcomeRecord_eq_ok hBuilt
    obtain ⟨scan', hNext⟩ := recorded.accepted free (describes_of_validateRecords hScan)
    exact ⟨scan, scan', hScan, hNext⟩

end WriterCall

/-- The ledger file with every file it was before. -/
structure Journal (δ : Type) where
  file : LedgerFile δ
  earlier : List (LedgerFile δ)

def Journal.absent : Journal δ := ⟨none, []⟩

/-- One writer call, refused or not; an authorization's plan was built on some ledger so far. -/
inductive JournalStep (calendar : SessionCalendar) : Journal δ → Journal δ → Prop
  | call (j : Journal δ) (c : WriterCall δ) (planned : c.Planned calendar (j.file :: j.earlier)) :
      JournalStep calendar j ⟨(c.run j.file).2, j.file :: j.earlier⟩

/-- The file passes the validator. -/
def Readable (file : LedgerFile δ) : Prop := ∃ scan, validateRecords file.lines = .ok scan

theorem readable_absent : Readable (none : LedgerFile δ) := ⟨_, rfl⟩

theorem readable_step (free : CollisionFree δ) {calendar : SessionCalendar} (j k : Journal δ)
    (readable : Readable j.file) (step : JournalStep calendar j k) : Readable k.file := by
  cases step with
  | call c planned =>
    rcases c.run_cases j.file with ⟨r, hRecord, hRun⟩ | ⟨e, -, hRun⟩
    · obtain ⟨scan, scan', hScan, hNext⟩ := WriterCall.record_accepted free planned hRecord
      refine ⟨scan', ?_⟩
      rw [hRun]
      change validateRecords (j.file.lines ++ [r]) = .ok scan'
      rw [validateRecords_append, hScan, ok_bind, hNext]
    · rwa [hRun]

/-- The bounds of one campaign: either nothing was authorized and nothing recorded, or the first
authorization fixed the base and the cumulative counters stay within it. -/
def CampaignWithinBudget (records : List (Json δ)) (campaignId : δ) (state : CampaignLedgerState δ) :
    Prop :=
  (state.baseCalls = none ∧ campaignRecordsOf records campaignId = []) ∨
  ∃ first rest base, campaignHeaders records campaignId = first :: rest ∧
    first.field "max_calls" = .int base ∧ state.baseCalls = some base ∧
    base ≤ state.authorizedCalls ∧
    state.authorizedCalls ≤ min (base + maxRecoveryCalls) absoluteMaxCampaignCalls ∧
    ((campaignAttempts records campaignId).length : Int) ≤ state.authorizedCalls

theorem Describes.withinBudget {records : List (Json δ)} {scan : LedgerScan δ}
    (d : Describes records scan) {scope : Json δ} {state : CampaignLedgerState δ}
    (view : StateOf records scan scope state) :
    CampaignWithinBudget records (contentId scope) state := by
  have hBudget := d.budget (contentId scope)
  have hFirst := d.first (contentId scope)
  have hReserved := d.reserved (contentId scope)
  rw [← view.baseCalls, ← view.authorizedCalls, ← view.reservedCalls] at hBudget
  rw [← view.baseCalls] at hFirst
  rw [← view.reservedCalls] at hReserved
  cases hBase : state.baseCalls with
  | none =>
    rw [hBase] at hBudget
    exact Or.inl ⟨hBase, List.length_eq_zero_iff.mp hBudget.1⟩
  | some base =>
    rw [hBase] at hBudget hFirst
    obtain ⟨-, -, ⟨hLow, hHigh⟩, -, hTop⟩ := hBudget
    obtain ⟨first, hHead, hMax⟩ := Option.bind_eq_some_iff.mp hFirst.symm
    obtain ⟨rest, hHeaders⟩ := List.head?_eq_some_iff.mp hHead
    exact Or.inr ⟨first, rest, base, hHeaders, Json.int?_eq_some_iff.mp hMax, hBase, hLow, hHigh,
      hReserved ▸ hTop⟩

theorem campaignState_of_validate (file : LedgerFile δ) {scan : LedgerScan δ}
    (free : CollisionFree δ) (h : validateRecords file.lines = .ok scan) (scope : Json δ) :
    ∃ state, campaignState file (contentId scope) scope = .ok state ∧
      StateOf file.lines scan scope state := by
  obtain ⟨state, hState, view⟩ := (describes_of_validateRecords h).campaignState free scope
  refine ⟨state, ?_, view⟩
  rw [Acquisition.campaignState, readRecords_of_validate h]
  exact hState

end StockApi.Acquisition

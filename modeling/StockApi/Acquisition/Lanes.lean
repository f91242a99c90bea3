import StockApi.Acquisition.Admissions
import StockApi.Acquisition.Backfill

/-!
# Two lanes under one lock

Runs of `execute_acquisition` and of `execute_backfill` over their default ledgers, one at a time.
An acquisition run plans from both ledgers. A backfill run plans from its own ledger, so an attempt
left open by the other lane blocks it only if none of its missing sessions has one.
-/

namespace StockApi.Acquisition

open Checked CivilTime Relation

variable {δ : Type} [DecidableEq δ] [ContentHash δ]

theorem eq_openCloseCall {call : AcquisitionCall} (h : call.kind = .openClose) :
    call = openCloseCall call.start := by
  obtain ⟨kind, start, stop, ordered, single⟩ := call
  cases h
  cases single rfl
  rfl

/-- Both lanes, each with its ledger and what it has sent. -/
structure Lanes (δ : Type) [ContentHash δ] where
  acquisition : World δ
  backfill : AttemptLedger.Lane δ

/-- One step of either lane. A run starts when no other run holds the vendor lock. -/
inductive LaneStep : Lanes δ → Lanes δ → Prop
  | startAcquisition {file anchors admissions lane args endSession expectedDates toolRevision reading
      legacy plan} (free : lane.run = none) (arguments : checkArguments args = .ok ())
      (unresolved : AttemptLedger.unresolvedDates lane.file = .ok legacy)
      (current : currentPlan endSession expectedDates toolRevision reading legacy file anchors = .ok plan)
      (reviewed : acceptPlan plan args = .ok ()) :
      LaneStep ⟨⟨file, anchors, none, admissions⟩, lane⟩
        ⟨⟨file, anchors, some ⟨args, plan, file.lines, .fresh args.maxCalls, .accepted⟩, admissions⟩, lane⟩
  | acquisition {world world' lane} (held : world.run ≠ none) (step : ExecuteStep world world') :
      LaneStep ⟨world, lane⟩ ⟨world', lane⟩
  | anchor {file anchors anchors' admissions lane tx requested} {returned : List (AnchorRow δ)}
      (published : publishAnchor tx requested anchors = .ok (returned, anchors')) :
      LaneStep ⟨⟨file, anchors, none, admissions⟩, lane⟩ ⟨⟨file, anchors', none, admissions⟩, lane⟩
  | backfill {world lane lane'} (free : world.run = none) (step : AttemptLedger.Step lane lane') :
      LaneStep ⟨world, lane⟩ ⟨world, lane'⟩

/-- The acquisition lane by itself. -/
theorem LaneStep.execute {s t : Lanes δ} (step : LaneStep s t) :
    ReflTransGen ExecuteStep s.acquisition t.acquisition := by
  cases step with
  | startAcquisition free arguments unresolved current reviewed =>
    exact .single (.start arguments current reviewed)
  | acquisition held step => exact .single step
  | anchor published => exact .single (.anchor published)
  | backfill free step => exact .refl

/-! ## Open attempts -/

/-- The acquisition ledger has an open-close reservation of a session without its outcome. -/
def OpenSession (ledger : List (Json δ)) (session : Date) : Prop :=
  ∃ attempt, Unresolved ledger attempt ∧
    attempt.field "call_id" = hash ((openCloseCall session).callId : δ)

/-- A reservation of the backfill ledger without its outcome. -/
structure AttemptLedger.Unresolved (ledger : List (Json δ)) (attempt : Json δ) : Prop where
  mem : attempt ∈ ledger
  kind : isRecord .attempt attempt = true
  unanswered : ∀ outcome ∈ ledger, isRecord .outcome outcome = true →
    AttemptLedger.attemptKey outcome ≠ AttemptLedger.attemptKey attempt

/-- The backfill ledger has a reservation of a session without its outcome. -/
def AttemptLedger.OpenSession (ledger : List (Json δ)) (session : Date) : Prop :=
  ∃ attempt, AttemptLedger.Unresolved ledger attempt ∧
    isoDate? (attempt.field "session_date") = some session

/-- A backfill run does not start while a session it misses is open in the acquisition ledger. -/
def Guarded (s t : Lanes δ) : Prop :=
  ∀ run, s.backfill.run = none → t.backfill.run = some run →
    ∀ session ∈ run.plan.missingDates, ¬ OpenSession s.acquisition.file.lines session

/-- Neither lane has sent a request for the session between two states. -/
def NotResent (session : Date) (s t : Lanes δ) : Prop :=
  (∃ later, t.backfill.sends = s.backfill.sends ++ later ∧ session ∉ later) ∧
    ∃ later, t.acquisition.admissions = s.acquisition.admissions ++ later ∧
      ∀ a ∈ later, ¬ (a.call.kind = .openClose ∧ a.call.start = session)

/-! ## What a backfill run sends -/

namespace AttemptLedger

omit [ContentHash δ] in
theorem readRecords_eq_ok {file : LedgerFile δ} {records : List (Json δ)}
    (h : readRecords file = .ok records) : records = file.lines := by
  rw [readRecords] at h
  split at h
  · cases h
    rfl
  · cases h
  · cases h

/-- The sessions a run may still send. -/
def Run.sessions (run : Run δ) : List Date :=
  match run.stage with
  | .accepted => run.plan.missingDates
  | .looping rest => rest
  | .reserved session rest => session :: rest
  | .performed _ rest _ => rest

/-- The run and the requests so far leave a session out. -/
structure Avoids (session : Date) (past : List Date) (lane : Lane δ) : Prop where
  running : ∀ run, lane.run = some run → session ∉ run.sessions
  later : ∃ later, lane.sends = past ++ later ∧ session ∉ later

theorem avoids_step {session : Date} {past : List Date} {lane lane' : Lane δ}
    (avoids : Avoids session past lane) (step : Step lane lane')
    (planned : ∀ run, lane.run = none → lane'.run = some run → session ∉ run.plan.missingDates) :
    Avoids session past lane' := by
  obtain ⟨running, later⟩ := avoids
  cases step with
  | start arguments unresolved current reviewed =>
    refine ⟨?_, later⟩
    intro run hRun
    have hPlanned := planned run rfl hRun
    cases hRun
    exact hPlanned
  | authorize append =>
    have hRest : session ∉ _ := running _ rfl
    refine ⟨?_, later⟩
    intro run hRun
    cases hRun
    exact hRest
  | evidencePresent =>
    have hRest := running _ rfl
    refine ⟨?_, later⟩
    intro run hRun
    cases hRun
    exact fun hMem => hRest (List.mem_cons_of_mem _ hMem)
  | reserve append =>
    have hRest := running _ rfl
    refine ⟨?_, later⟩
    intro run hRun
    cases hRun
    exact hRest
  | @send file sends args plan sent rest =>
    have hRest := running _ rfl
    obtain ⟨after, hSends, hAfter⟩ := later
    refine ⟨?_, after ++ [sent], ?_, ?_⟩
    · intro run hRun
      cases hRun
      exact hRest
    · change sends ++ [sent] = past ++ (after ++ [sent])
      rw [← List.append_assoc, ← hSends]
    · intro hMem
      rcases List.mem_append.mp hMem with hMem | hMem
      · exact hAfter hMem
      · rw [List.mem_singleton.mp hMem] at hRest
        exact hRest List.mem_cons_self
  | perform failure =>
    have hRest := running _ rfl
    refine ⟨?_, later⟩
    intro run hRun
    cases hRun
    exact fun hMem => hRest (List.mem_cons_of_mem _ hMem)
  | checkpoint append =>
    have hRest := running _ rfl
    refine ⟨?_, later⟩
    intro run hRun
    cases hRun
    exact hRest
  | fail append =>
    refine ⟨?_, later⟩
    intro run hRun
    cases hRun
  | stop =>
    refine ⟨?_, later⟩
    intro run hRun
    cases hRun

/-! ## An open attempt of the backfill ledger stays open -/

/-- The attempt is open, and the run in progress has another authorization. -/
structure StaysOpen (attempt : Json δ) (lane : Lane δ) : Prop where
  unresolved : Unresolved lane.file.lines attempt
  foreign : ∀ run, lane.run = some run → run.stage ≠ .accepted →
    attempt.field "authorization_id" ≠ .str run.args.authorizationId

omit [ContentHash δ] in
theorem Unresolved.append {ledger : List (Json δ)} {attempt record : Json δ}
    (unresolved : Unresolved ledger attempt)
    (other : isRecord .outcome record = true → attemptKey record ≠ attemptKey attempt) :
    Unresolved (ledger ++ [record]) attempt where
  mem := List.mem_append_left _ unresolved.mem
  kind := unresolved.kind
  unanswered outcome hMem hOutcome := by
    rcases List.mem_append.mp hMem with hMem | hMem
    · exact unresolved.unanswered outcome hMem hOutcome
    · rw [List.mem_singleton.mp hMem] at hOutcome ⊢
      exact other hOutcome

omit [ContentHash δ] in
theorem begin_eq_ok {now : Option Instant} {authorizationId : Text δ} {plan : BackfillPlan δ}
    {maxCalls : Int} {file file' : LedgerFile δ}
    (h : beginAuthorization now authorizationId plan maxCalls file = (.ok (), file')) :
    (∀ r ∈ file.lines, r.field "authorization_id" ≠ .str authorizationId) ∧
      ∃ record, file'.lines = file.lines ++ [record] ∧ isRecord .outcome record = false := by
  obtain ⟨record, hBuilt, hLines⟩ := appending_eq_ok h
  rw [bind_eq_ok_iff] at hBuilt
  obtain ⟨_, -, hBuilt⟩ := hBuilt
  rw [bind_eq_ok_iff] at hBuilt
  obtain ⟨records, hRead, hBuilt⟩ := hBuilt
  rw [refuseIf_bind_eq_ok_iff, bind_eq_ok_iff] at hBuilt
  obtain ⟨hFresh, stamp, -, hBuilt⟩ := hBuilt
  cases hBuilt
  refine ⟨?_, _, hLines, (isRecord_of_type rfl .outcome).trans rfl⟩
  intro r hMem hId
  rw [readRecords_eq_ok hRead] at hFresh
  exact hFresh (List.any_eq_true.mpr ⟨r, hMem, decide_eq_true hId⟩)

omit [ContentHash δ] in
theorem reserve_eq_ok {now : Option Instant} {authorizationId : Text δ} {planId : δ} {session : Date}
    {file file' : LedgerFile δ} {number : Int}
    (h : reserveAttempt now authorizationId planId session file = (.ok number, file')) :
    ∃ record, file'.lines = file.lines ++ [record] ∧ isRecord .outcome record = false := by
  obtain ⟨record, hBuilt, hLines⟩ := appending_eq_ok h
  rw [bind_eq_ok_iff] at hBuilt
  obtain ⟨records, -, hBuilt⟩ := hBuilt
  rw [bind_eq_ok_iff] at hBuilt
  obtain ⟨header, -, hBuilt⟩ := hBuilt
  rw [refuseIf_bind_eq_ok_iff, refuseIf_bind_eq_ok_iff, refuseIf_bind_eq_ok_iff,
    bind_eq_ok_iff] at hBuilt
  obtain ⟨-, -, -, stamp, -, hBuilt⟩ := hBuilt
  cases hBuilt
  exact ⟨_, hLines, (isRecord_of_type rfl .outcome).trans rfl⟩

omit [ContentHash δ] in
theorem finish_eq_ok {now : Option Instant} {authorizationId : Text δ} {planId : δ} {session : Date}
    {status : String} {failureType : Option String} {file file' : LedgerFile δ}
    (h : finishAttempt now authorizationId planId session status failureType file = (.ok (), file')) :
    ∃ record, file'.lines = file.lines ++ [record] ∧
      record.field "authorization_id" = .str authorizationId := by
  obtain ⟨record, hBuilt, hLines⟩ := appending_eq_ok h
  rw [refuseIf_bind_eq_ok_iff, bind_eq_ok_iff] at hBuilt
  obtain ⟨-, records, -, hBuilt⟩ := hBuilt
  rw [refuseIf_bind_eq_ok_iff, bind_eq_ok_iff] at hBuilt
  obtain ⟨-, stamp, -, hBuilt⟩ := hBuilt
  cases hBuilt
  exact ⟨_, hLines, rfl⟩

theorem staysOpen_step {attempt : Json δ} {lane lane' : Lane δ} (opened : StaysOpen attempt lane)
    (step : Step lane lane') : StaysOpen attempt lane' := by
  obtain ⟨unresolved, foreign⟩ := opened
  cases step with
  | start arguments ambiguous current reviewed =>
    refine ⟨unresolved, ?_⟩
    intro run hRun hStage
    cases hRun
    exact absurd rfl hStage
  | authorize append =>
    obtain ⟨hFresh, record, hLines, hOutcome⟩ := begin_eq_ok append
    refine ⟨?_, ?_⟩
    · rw [hLines]
      exact unresolved.append (by simp [hOutcome])
    · intro run hRun _
      cases hRun
      exact hFresh attempt unresolved.mem
  | reserve append =>
    have hForeign := foreign _ rfl (by simp)
    obtain ⟨record, hLines, hOutcome⟩ := reserve_eq_ok append
    refine ⟨?_, ?_⟩
    · rw [hLines]
      exact unresolved.append (by simp [hOutcome])
    · intro run hRun _
      cases hRun
      exact hForeign
  | checkpoint append =>
    have hForeign := foreign _ rfl (by simp)
    obtain ⟨record, hLines, hOwn⟩ := finish_eq_ok append
    refine ⟨?_, ?_⟩
    · rw [hLines]
      exact unresolved.append fun _ hKey => hForeign ((congrArg Prod.fst hKey).symm.trans hOwn)
    · intro run hRun _
      cases hRun
      exact hForeign
  | fail append =>
    have hForeign := foreign _ rfl (by simp)
    obtain ⟨record, hLines, hOwn⟩ := finish_eq_ok append
    refine ⟨?_, ?_⟩
    · rw [hLines]
      exact unresolved.append fun _ hKey => hForeign ((congrArg Prod.fst hKey).symm.trans hOwn)
    · intro run hRun
      cases hRun
  | stop =>
    refine ⟨unresolved, ?_⟩
    intro run hRun
    cases hRun
  | _ =>
    have hForeign := foreign _ rfl (by simp)
    refine ⟨unresolved, ?_⟩
    intro run hRun _
    cases hRun
    exact hForeign

omit [ContentHash δ] in
/-- The ledger reader reports the session of an open attempt. -/
theorem mem_unresolvedDates {file : LedgerFile δ} {dates : List Date} {session : Date}
    (opened : OpenSession file.lines session) (h : unresolvedDates file = .ok dates) :
    session ∈ dates := by
  obtain ⟨attempt, unresolved, hSession⟩ := opened
  rw [unresolvedDates, bind_eq_ok_iff] at h
  obtain ⟨records, hRead, h⟩ := h
  rw [bind_eq_ok_iff] at h
  obtain ⟨parsed, hParsed, h⟩ := h
  cases h
  rw [readRecords_eq_ok hRead, orRefuse_eq_ok_iff] at hParsed
  have hKey : attemptKey attempt ∈ openKeys file.lines := by
    rw [openKeys, List.mem_filter, decide_eq_true_eq]
    refine ⟨List.mem_map_of_mem (List.mem_filter.mpr ⟨unresolved.mem, unresolved.kind⟩), ?_⟩
    intro hAnswered
    obtain ⟨outcome, hOutcome, hSame⟩ := List.mem_map.mp hAnswered
    obtain ⟨hMem, hKind⟩ := List.mem_filter.mp hOutcome
    exact unresolved.unanswered outcome hMem hKind hSame
  rw [Dict.mem_sortedSet]
  exact mem_of_mapM_some hParsed hKey hSession

end AttemptLedger

/-! ## What a plan leaves out -/

omit [DecidableEq δ] in
/-- An open session of the ledger read is either not missing or makes the plan ambiguous. -/
theorem ambiguous_of_buildPlan {endSession : Date} {expectedDates ambiguousDates : List Date}
    {coverage : ExistingCoverage δ} {toolRevision : String} {plan : BackfillPlan δ}
    (h : buildPlan endSession expectedDates coverage toolRevision ambiguousDates = .ok plan)
    {session : Date} (hOpen : session ∈ ambiguousDates) (hMissing : session ∈ plan.missingDates) :
    session ∈ plan.ambiguousDates := by
  rw [buildPlan, refuseIf_bind_eq_ok_iff, refuseIf_bind_eq_ok_iff, refuseIf_bind_eq_ok_iff,
    refuseIf_bind_eq_ok_iff, pure_eq_ok] at h
  obtain ⟨-, -, -, -, h⟩ := h
  cases h
  exact Dict.mem_sortedSet.mpr (List.mem_filter.mpr ⟨hOpen, decide_eq_true hMissing⟩)

theorem not_missing_of_backfill {endSession : Date} {expectedDates ambiguous : List Date}
    {coverage : ExistingCoverage δ} {toolRevision : String} {plan : BackfillPlan δ}
    {args : AttemptLedger.Arguments δ} {file : LedgerFile δ}
    (unresolved : AttemptLedger.unresolvedDates file = .ok ambiguous)
    (current : buildPlan endSession expectedDates coverage toolRevision ambiguous = .ok plan)
    (reviewed : AttemptLedger.acceptPlan plan args = .ok ()) {session : Date}
    (opened : AttemptLedger.OpenSession file.lines session) : session ∉ plan.missingDates := by
  intro hMissing
  have hAmbiguous := ambiguous_of_buildPlan current
    (AttemptLedger.mem_unresolvedDates opened unresolved) hMissing
  rw [AttemptLedger.acceptPlan, refuseIf_bind_eq_ok_iff, refuseIf_bind_eq_ok_iff,
    refuseIf_bind_eq_ok_iff] at reviewed
  obtain ⟨-, -, hNone, -⟩ := reviewed
  rw [not_not.mp hNone] at hAmbiguous
  cases hAmbiguous

/-- An open session of the legacy ledger that is missing makes the plan ambiguous. -/
theorem ambiguous_of_legacy {pricePlan : BackfillPlan δ}
    {splitCoverage dividendCoverage : CorporateActionScopeCoverage δ} {unresolved : List δ}
    {legacy : List Date} {campaign : CampaignLedgerState δ} {plan : AcquisitionPlan δ}
    (h : buildAcquisitionPlan pricePlan splitCoverage dividendCoverage unresolved legacy
      (some campaign) = .ok plan) {session : Date} (hOpen : session ∈ legacy)
    (hMissing : session ∈ pricePlan.missingDates) :
    ((openCloseCall session).callId : δ) ∈ plan.ambiguousCallIds := by
  rw [buildAcquisitionPlan, bind_eq_ok_iff] at h
  obtain ⟨windowStart, -, h⟩ := h
  rw [bind_eq_ok_iff] at h
  obtain ⟨splitState, -, h⟩ := h
  rw [bind_eq_ok_iff] at h
  obtain ⟨dividendState, -, h⟩ := h
  rw [refuseIf_bind_eq_ok_iff, bind_eq_ok_iff] at h
  obtain ⟨-, splitCalls, -, h⟩ := h
  rw [bind_eq_ok_iff] at h
  obtain ⟨dividendCalls, -, h⟩ := h
  rw [openCloseCalls_eq, ok_bind, bind_eq_ok_iff] at h
  obtain ⟨_, -, h⟩ := h
  rw [openCloseCalls_eq, ok_bind, bind_eq_ok_iff] at h
  obtain ⟨scope, -, h⟩ := h
  rw [campaignOrInitial, ok_bind, refuseIf_bind_eq_ok_iff, bind_eq_ok_iff] at h
  obtain ⟨-, delta, -, h⟩ := h
  cases h
  have hCall : openCloseCall session ∈ pricePlan.missingDates.map openCloseCall :=
    List.mem_map_of_mem hMissing
  have hLegacy : openCloseCall session ∈
      (legacy.filter fun d => decide (d ∈ pricePlan.missingDates)).map openCloseCall :=
    List.mem_map_of_mem (List.mem_filter.mpr ⟨hOpen, decide_eq_true hMissing⟩)
  rw [List.mem_mergeSort, List.mem_filter, List.mem_dedup, decide_eq_true_eq]
  refine ⟨List.mem_map_of_mem (List.mem_append_right _ hCall), ?_⟩
  exact List.mem_append_right _ (List.mem_map_of_mem hLegacy)

theorem not_called_of_acquisition {endSession : Date} {expectedDates legacy : List Date}
    {toolRevision : String} {reading : StoreReading δ} {file legacyFile : LedgerFile δ}
    {anchors : List (AnchorRow δ)} {plan : AcquisitionPlan δ} {args : ExecuteArguments δ}
    (unresolved : AttemptLedger.unresolvedDates legacyFile = .ok legacy)
    (current : currentPlan endSession expectedDates toolRevision reading legacy file anchors = .ok plan)
    (reviewed : acceptPlan plan args = .ok ()) {session : Date}
    (opened : AttemptLedger.OpenSession legacyFile.lines session) {call : AcquisitionCall}
    (hCall : call ∈ plan.calls) : ¬ (call.kind = .openClose ∧ call.start = session) := by
  rintro ⟨hKind, rfl⟩
  rw [currentPlan, bind_eq_ok_iff] at current
  obtain ⟨pricePlan, -, current⟩ := current
  rw [bind_eq_ok_iff] at current
  obtain ⟨scope, -, current⟩ := current
  rw [bind_eq_ok_iff] at current
  obtain ⟨campaign, -, current⟩ := current
  rw [bind_eq_ok_iff] at current
  obtain ⟨_, -, current⟩ := current
  rw [bind_eq_ok_iff] at current
  obtain ⟨records, -, current⟩ := current
  have hMissing : call.start ∈ pricePlan.missingDates := by
    rcases (planBuilt_of_eq_ok current).window call hCall with ⟨-, hMissing⟩ | ⟨hOther, -⟩
    · exact hMissing
    · exact absurd hKind hOther
  have hAmbiguous := ambiguous_of_legacy current
    (AttemptLedger.mem_unresolvedDates opened unresolved) hMissing
  rw [acceptPlan, refuseIf_bind_eq_ok_iff, refuseIf_bind_eq_ok_iff, refuseIf_bind_eq_ok_iff,
    refuseIf_bind_eq_ok_iff, refuseIf_bind_eq_ok_iff] at reviewed
  obtain ⟨-, -, -, -, hUnambiguous, -⟩ := reviewed
  rw [not_not.mp hUnambiguous] at hAmbiguous
  cases hAmbiguous

/-- The acquisition run and its admissions leave a session out. -/
structure Leaves (session : Date) (past : List (Admission δ)) (world : World δ) : Prop where
  running : ∀ run, world.run = some run →
    ∀ call ∈ run.plan.calls, ¬ (call.kind = .openClose ∧ call.start = session)
  later : ∃ later, world.admissions = past ++ later ∧
    ∀ a ∈ later, ¬ (a.call.kind = .openClose ∧ a.call.start = session)

theorem leaves_execute {session : Date} {past : List (Admission δ)} {world world' : World δ}
    (inv : ExecuteInvariant world) (leaves : Leaves session past world) (held : world.run ≠ none)
    (step : ExecuteStep world world') : Leaves session past world' := by
  obtain ⟨running, later⟩ := leaves
  cases step with
  | start => exact absurd rfl held
  | @acquire file anchors admissions args plan before guard guard' call rest endIsCurrent admitted =>
    have hCalls := running _ rfl
    have hListed : call ∈ plan.calls := (inv.running _ rfl).listed call (by simp [Stage.calls])
    obtain ⟨after, hPast, hAfter⟩ := later
    refine ⟨?_, after ++ [⟨call, args.authorizationId, plan.planId, file.lines, anchors⟩], ?_, ?_⟩
    · intro run hRun
      cases hRun
      exact hCalls
    · rw [← List.append_assoc, ← hPast]
    · intro a hMem
      rcases List.mem_append.mp hMem with hMem | hMem
      · exact hAfter a hMem
      · rw [List.mem_singleton.mp hMem]
        exact hCalls call hListed
  | raise published => exact ⟨by simp, later⟩
  | publishFailed failed => exact ⟨by simp, later⟩
  | stop => exact ⟨by simp, later⟩
  | anchor published => exact ⟨running, later⟩
  | _ =>
    have hCalls := running _ rfl
    refine ⟨?_, later⟩
    intro run hRun
    cases hRun
    exact hCalls

/-! ## Runs -/

theorem executeInvariant_lanes (s t : Lanes δ) (inv : ExecuteInvariant s.acquisition)
    (step : LaneStep s t) : ExecuteInvariant t.acquisition :=
  invariant_of_run executeInvariant_step step.execute inv

/-- The backfill lane by itself. -/
theorem LaneStep.backfill_cases {s t : Lanes δ} (step : LaneStep s t) :
    t.backfill = s.backfill ∨ AttemptLedger.Step s.backfill t.backfill := by
  cases step with
  | backfill free step => exact Or.inr step
  | _ => exact Or.inl rfl

theorem avoids_lanes {session : Date} {past : List Date} {s t : Lanes δ}
    (avoids : AttemptLedger.Avoids session past s.backfill) (step : LaneStep s t)
    (planned : ∀ run, s.backfill.run = none → t.backfill.run = some run →
      session ∉ run.plan.missingDates) : AttemptLedger.Avoids session past t.backfill := by
  rcases step.backfill_cases with hSame | hStep
  · rwa [hSame]
  · exact AttemptLedger.avoids_step avoids hStep planned

/-- What holds after an idle state in which the acquisition ledger has the session open. -/
structure AfterAcquisition (session : Date) (attempt : Json δ) (start now : Lanes δ) : Prop where
  execute : ExecuteInvariant now.acquisition
  left : LeftOpen attempt start.acquisition.admissions now.acquisition
  avoids : AttemptLedger.Avoids session start.backfill.sends now.backfill

theorem afterAcquisition_step {session : Date} {attempt : Json δ} {start : Lanes δ}
    (named : attempt.field "call_id" = hash ((openCloseCall session).callId : δ)) (s t : Lanes δ)
    (after : AfterAcquisition session attempt start s) (step : LaneStep s t ∧ Guarded s t) :
    AfterAcquisition session attempt start t := by
  obtain ⟨step, guarded⟩ := step
  have both := invariant_of_run leftOpen_step step.execute ⟨after.execute, after.left⟩
  refine ⟨both.1, both.2, avoids_lanes after.avoids step ?_⟩
  intro run hIdle hRun hMissing
  exact guarded run hIdle hRun session hMissing ⟨attempt, after.left.stays, named⟩

/-- What holds after an idle state in which the backfill ledger has the session open. -/
structure AfterBackfill (session : Date) (attempt : Json δ) (start now : Lanes δ) : Prop where
  execute : ExecuteInvariant now.acquisition
  opened : AttemptLedger.StaysOpen attempt now.backfill
  leaves : Leaves session start.acquisition.admissions now.acquisition
  avoids : AttemptLedger.Avoids session start.backfill.sends now.backfill

theorem not_missing_of_step {session : Date} {attempt : Json δ} {lane lane' : AttemptLedger.Lane δ}
    (unresolved : AttemptLedger.Unresolved lane.file.lines attempt)
    (named : isoDate? (attempt.field "session_date") = some session)
    (step : AttemptLedger.Step lane lane') {run : AttemptLedger.Run δ} (hIdle : lane.run = none)
    (hRun : lane'.run = some run) : session ∉ run.plan.missingDates := by
  cases step with
  | start arguments ambiguous current reviewed =>
    cases hRun
    exact not_missing_of_backfill ambiguous current reviewed ⟨attempt, unresolved, named⟩
  | _ => cases hIdle

theorem afterBackfill_step {session : Date} {attempt : Json δ} {start : Lanes δ}
    (named : isoDate? (attempt.field "session_date") = some session) (s t : Lanes δ)
    (after : AfterBackfill session attempt start s) (step : LaneStep s t) :
    AfterBackfill session attempt start t := by
  obtain ⟨execute, opened, leaves, avoids⟩ := after
  have hInvariant := executeInvariant_lanes s t execute step
  cases step with
  | startAcquisition free arguments unresolved current reviewed =>
    refine ⟨hInvariant, opened, ⟨?_, leaves.later⟩, avoids⟩
    intro run hRun call hCall
    cases hRun
    exact not_called_of_acquisition unresolved current reviewed ⟨attempt, opened.unresolved, named⟩ hCall
  | acquisition held step => exact ⟨hInvariant, opened, leaves_execute execute leaves held step, avoids⟩
  | anchor published => exact ⟨hInvariant, opened, ⟨leaves.running, leaves.later⟩, avoids⟩
  | backfill free step =>
    refine ⟨hInvariant, AttemptLedger.staysOpen_step opened step, leaves, ?_⟩
    exact AttemptLedger.avoids_step avoids step fun run hIdle hRun =>
      not_missing_of_step opened.unresolved named step hIdle hRun

/-- Before the first run; the ledgers and the anchors are any. -/
def Lanes.idle (file : LedgerFile δ) (anchors : List (AnchorRow δ)) (legacy : LedgerFile δ) :
    Lanes δ :=
  ⟨World.idle file anchors, ⟨legacy, none, []⟩⟩

/-- Between two runs. -/
def Lanes.Idle (s : Lanes δ) : Prop := s.acquisition.run = none ∧ s.backfill.run = none

/-- Along every sequence of guarded runs, stopped anywhere, a session that either ledger has open
between two runs is not sent again. -/
theorem open_session_not_resent (file : LedgerFile δ) (anchors : List (AnchorRow δ))
    (legacy : LedgerFile δ) {s t : Lanes δ}
    (run : ReflTransGen LaneStep (Lanes.idle file anchors legacy) s) (idle : s.Idle)
    (later : ReflTransGen (fun a b => LaneStep a b ∧ Guarded a b) s t) {session : Date}
    (opened : OpenSession s.acquisition.file.lines session ∨
      AttemptLedger.OpenSession s.backfill.file.lines session) : NotResent session s t := by
  obtain ⟨hAcquisition, hBackfill⟩ := idle
  have execute : ExecuteInvariant s.acquisition :=
    invariant_of_run executeInvariant_lanes run (executeInvariant_idle file anchors)
  have avoids : AttemptLedger.Avoids session s.backfill.sends s.backfill :=
    ⟨by simp [hBackfill], [], (List.append_nil _).symm, List.not_mem_nil⟩
  rcases opened with ⟨attempt, unresolved, named⟩ | ⟨attempt, unresolved, named⟩
  · have after : AfterAcquisition session attempt s t :=
      invariant_of_run (afterAcquisition_step named) later
        ⟨execute, ⟨unresolved, by simp [hAcquisition], [], (List.append_nil _).symm, by simp⟩, avoids⟩
    obtain ⟨admitted, hPast, hOther⟩ := after.left.later
    refine ⟨after.avoids.later, admitted, hPast, ?_⟩
    rintro a hMem ⟨hKind, hStart⟩
    apply hOther a hMem
    rw [named, eq_openCloseCall hKind, hStart]
  · have opened : AttemptLedger.StaysOpen attempt s.backfill := ⟨unresolved, by simp [hBackfill]⟩
    have after : AfterBackfill session attempt s t :=
      invariant_of_run (fun a b inv step => afterBackfill_step named a b inv step.1) later
        ⟨execute, opened, ⟨by simp [hAcquisition], [], (List.append_nil _).symm, by simp⟩, avoids⟩
    exact ⟨after.avoids.later, after.leaves.later⟩

end StockApi.Acquisition

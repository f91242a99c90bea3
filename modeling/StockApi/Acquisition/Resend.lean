import StockApi.Acquisition.Lanes
import StockApi.Acquisition.Windows

/-!
# A session sent by both lanes

Whatever the acquisition ledger holds, a backfill run over an absent ledger sends the one session
its plan misses. When a stopped acquisition run has left an attempt on that session open, the
session is sent a second time.
-/

namespace StockApi.Acquisition

open Checked CivilTime Relation

variable {δ : Type} [DecidableEq δ] [ContentHash δ]

/-! ## A backfill run over one missing session -/

namespace AttemptLedger

omit [ContentHash δ] in
theorem readRecords_of_validate {file : LedgerFile δ} {scan : Scan δ}
    (objects : ∀ line ∈ file.lines, line.isObject = true)
    (h : validateRecords file.lines = .ok scan) : readRecords file = .ok file.lines := by
  have hObjects : ¬ file.lines.any (fun line => !line.isObject) = true := by
    simpa using objects
  have hChecked : (refuseIf (file.lines.any (fun line => !line.isObject) = true)
      (Raised.valueError "non-object line") >>= fun _ => validateRecords file.lines) = .ok scan := by
    rw [refuseIf_of_not hObjects, ok_bind, h]
  rw [readRecords]
  simp only [hChecked]

omit [ContentHash δ] in
/-- A header that was just written reads back. -/
theorem readRecords_header {authorizationId : String} {plan : BackfillPlan δ} {maxCalls : Int}
    {now : Instant} (hId : matchesAuthorizationId authorizationId = true)
    (hRevision : matchesGitRevision plan.toolRevision = true)
    (hCalls : 1 ≤ maxCalls ∧ maxCalls ≤ requiredSessions) :
    let header := authorizationDocument (.plain authorizationId) plan maxCalls (text now.isoformat)
    readRecords (some [header]) = .ok [header] := by
  intro header
  have hIso : awareIso (some now) = .ok (text now.isoformat : Json δ) := rfl
  obtain ⟨t, hTime⟩ := parseLedgerTimestamp_awareIso hIso
  have hDate : parseLedgerDate (isoDate plan.endSession : Json δ) = .ok plan.endSession := by
    rw [parseLedgerDate, isoDate?_isoDate]
    rfl
  have hHeader : validateAuthorization Scan.empty header authorizationId =
      .ok (Scan.empty.addAuthorization header authorizationId) := by
    have hTool : matching? matchesGitRevision (header.field "tool_revision") = some plan.toolRevision :=
      matching?_eq_some_iff.mpr ⟨rfl, hRevision⟩
    have hMax : (header.field "max_calls").int? = some maxCalls := rfl
    rw [validateAuthorization, refuseIf_of_not (by simp [Scan.empty]), ok_bind,
      refuseIf_of_not (by rw [hTool, hMax]; simp [hCalls, header, Json.field, Json.get?,
        authorizationDocument, List.lookup_cons]), ok_bind]
    change (do
      let _ ← parseLedgerDate (isoDate plan.endSession : Json δ)
      let _ ← parseLedgerTimestamp (text now.isoformat : Json δ)
      pure (Scan.empty.addAuthorization header authorizationId)) = _
    rw [hDate, ok_bind, hTime, ok_bind, pure_eq_ok]
  have hKeys : header.HasKeys (schema .authorization) := by
    simp [header, Json.HasKeys, Json.isObject, Json.keys, schema, authorizationDocument]
  have hAuthorization : matching? matchesAuthorizationId (header.field "authorization_id") =
      some authorizationId := matching?_eq_some_iff.mpr ⟨rfl, hId⟩
  have hRecord : validateRecord Scan.empty header =
      .ok (Scan.empty.addAuthorization header authorizationId) := by
    have hKind : RecordType.ofName (header.field "record_type") = some .authorization := rfl
    have hPlan : digest? (header.field "plan_id") = some plan.planId := rfl
    rw [validateRecord, hKind, orRefuse_some, ok_bind, refuseIf_of_not (by simpa using hKeys), ok_bind,
      hAuthorization, orRefuse_some, ok_bind, hPlan, orRefuse_some, ok_bind]
    exact hHeader
  have hAll : validateRecords [header] = .ok (Scan.empty.addAuthorization header authorizationId) := by
    rw [validateRecords, List.foldlM_cons, hRecord, ok_bind]
    rfl
  have hObjects : ∀ line ∈ LedgerFile.lines (some [header]), line.isObject = true := by
    intro line hLine
    rw [List.mem_singleton.mp hLine]
    rfl
  exact readRecords_of_validate hObjects hAll

/-- A run that starts has a plan with these missing sessions. -/
def Misses (missingDates : List Date) (lane lane' : Lane δ) : Prop :=
  ∀ run, lane.run = none → lane'.run = some run → run.plan.missingDates = missingDates

/-- From an absent ledger a run sends the only session its plan misses. -/
theorem exists_send {sessions : List Date} {session endSession : Date} {toolRevision : String}
    {authorizationId : String} (sorted : sessions.Pairwise (· < ·)) (hSession : session ∈ sessions)
    (hEnd : endSession ∈ sessions) (hOther : endSession ≠ session)
    (hRevision : matchesGitRevision toolRevision = true)
    (hId : matchesAuthorizationId authorizationId = true) (version : δ) (now : Instant) :
    ∃ lane : Lane δ, ReflTransGen (fun a b => Step a b ∧ Misses [session] a b) ⟨none, none, []⟩ lane ∧
      lane.sends = [session] := by
  obtain ⟨plan, hPlan, hMissing, hAmbiguous, hPlanEnd, hTool, hComplete⟩ :=
    exists_plan endSession sorted hSession hRevision version
  have hNone : unresolvedDates (none : LedgerFile δ) = .ok [] := by
    have hEmpty : Dict.sortedSet ([] : List Date) = [] := Dict.sortedSet_eq_self_iff.mpr .nil
    rw [unresolvedDates]
    change (Except.ok (Dict.sortedSet ([] : List Date)) : Except Raised (List Date)) = _
    rw [hEmpty]
  have hPattern : validateAuthorizationId (Text.plain authorizationId : Text δ) = .ok ⟨⟩ := by
    have hMatch : matching? matchesAuthorizationId (.str (.plain authorizationId) : Json δ) =
        some authorizationId := matching?_eq_some_iff.mpr ⟨rfl, hId⟩
    rw [validateAuthorizationId, hMatch, refuseIf_of_not (by simp)]
  let args : Arguments δ := ⟨.digest plan.planId, 1, authorizationSentinel, .plain authorizationId⟩
  let header := authorizationDocument (.plain authorizationId) plan 1 (text now.isoformat)
  have hArguments : checkArguments args = .ok () := by
    rw [checkArguments, refuseIf_of_not (by simp [args]), ok_bind, hPattern, ok_bind,
      refuseIf_of_not (by simp [args, digest?]), ok_bind, refuseIf_of_not (by simp [args, requiredSessions])]
  have hAccepted : acceptPlan plan args = .ok () := by
    have hAnchor : plan.smokeAnchorPresent = true := by
      rw [BackfillPlan.smokeAnchorPresent, decide_eq_true_eq, hPlanEnd, hComplete]
      exact List.mem_filter.mpr ⟨hEnd, decide_eq_true hOther⟩
    rw [acceptPlan, refuseIf_of_not (by simp [args]), ok_bind, refuseIf_of_not (by simp [hAnchor]),
      ok_bind, refuseIf_of_not (by simp [hAmbiguous]), ok_bind, refuseIf_of_not (by simp [hMissing]),
      ok_bind, refuseIf_of_not (by simp [hMissing, args])]
  have hBegin : beginAuthorization (some now) args.authorizationId plan args.maxCalls none =
      (.ok (), some [header]) := by
    rw [beginAuthorization, hPattern]
    rfl
  have hRead : readRecords (some [header]) = .ok [header] :=
    readRecords_header hId (hTool ▸ hRevision) ⟨le_rfl, by simp [requiredSessions]⟩
  have hAuthorization : isRecord .authorization header = true :=
    (isRecord_of_type rfl .authorization).trans rfl
  have hAttempt : isRecord .attempt header = false := (isRecord_of_type rfl .attempt).trans rfl
  have hOwn : header.field "authorization_id" = .str (.plain authorizationId) := rfl
  have hReserve : reserveAttempt (some now) args.authorizationId plan.planId session (some [header]) =
      (.ok 1, some [header, attemptDocument (.plain authorizationId) plan.planId 1 session
        (text now.isoformat)]) := by
    have hHeader : oneHeader [header] (.plain authorizationId) = .ok header := by
      simp [oneHeader, hAuthorization, hOwn]
    have hMax : (header.field "max_calls").int?.getD 0 = 1 := rfl
    have hPlanId : ¬ (header.field "plan_id" ≠ hash plan.planId) := not_not.mpr rfl
    rw [reserveAttempt, hRead, ok_bind, hHeader, ok_bind, refuseIf_of_not hPlanId, ok_bind]
    simp only [List.filter_cons, List.filter_nil, hAttempt, Bool.false_and, Bool.false_eq_true,
      if_false, List.any_nil, List.length_nil]
    rw [refuseIf_of_not (by simp), ok_bind, refuseIf_of_not (by simp [hMax]), ok_bind]
    rfl
  have hStart : Step (⟨none, none, []⟩ : Lane δ) ⟨none, some ⟨args, plan, .accepted⟩, []⟩ :=
    .start hArguments hNone hPlan hAccepted
  have hLoop : Step (⟨none, some ⟨args, plan, .accepted⟩, []⟩ : Lane δ)
      ⟨some [header], some ⟨args, plan, .looping [session]⟩, []⟩ := hMissing ▸ .authorize hBegin
  have hMisses : Misses [session] (⟨none, none, []⟩ : Lane δ) ⟨none, some ⟨args, plan, .accepted⟩, []⟩ := by
    intro run _ hRun
    cases hRun
    exact hMissing
  have hRunning : ∀ {file sends run} {lane : Lane δ},
      Misses [session] (⟨file, some run, sends⟩ : Lane δ) lane := by
    intro file sends run lane later hIdle
    cases hIdle
  exact ⟨_, .tail (.tail (.tail (.single ⟨hStart, hMisses⟩) ⟨hLoop, hRunning⟩)
    ⟨.reserve hReserve, hRunning⟩) ⟨.send, hRunning⟩, rfl⟩

end AttemptLedger

/-! ## A reservation of the acquisition lane -/

section Counterexample

/-- A ledger that the writers of the acquisition lane produce up to the reservation of a session. -/
theorem exists_lost_reservation (free : CollisionFree δ) (version : δ) :
    ∃ (plan : AcquisitionPlan δ) (header attempt : Json δ),
      beginAuthorization (some reviewedInstant) (.plain "msft-20241231-a") plan 1 (.int 1) none =
          (.ok (), some [header]) ∧
        reserveCall (some reviewedInstant) (.plain "msft-20241231-a") (.digest plan.planId)
            (openCloseCall lostSession) (some [header]) = (.ok 1, some [header, attempt]) ∧
        OpenSession [header, attempt] lostSession ∧
        ∀ other, OpenSession [header, attempt] other → other = lostSession := by
  obtain ⟨plan, hPlan, hReady, hCalls, hState⟩ :=
    exists_readyPlan version false (campaignState_absent windowScope) rfl rfl
  have hLength : plan.calls.length = 1 := by
    rw [hCalls]
    rfl
  have hDelta : plan.campaignRequiredBudgetDelta = .ok 1 := by
    rw [AcquisitionPlan.campaignRequiredBudgetDelta, AcquisitionPlan.requiredOutboundAttempts, hLength, hState]
    rfl
  obtain ⟨header, attempt, ids, scan, hBegin, hReserve, -, ⟨hHeader, hOpen, hCall⟩, -⟩ :=
    exists_reserved free hPlan hReady hCalls hDelta
  rw [hLength] at hBegin
  refine ⟨plan, header, attempt, hBegin, hReserve, ⟨attempt, hOpen, hCall⟩, ?_⟩
  rintro other ⟨again, ⟨hMem, hIs, -⟩, hNamed⟩
  rcases List.mem_cons.mp hMem with rfl | hMem
  · rw [hHeader] at hIs
    cases hIs
  · rw [List.mem_singleton.mp hMem, hCall] at hNamed
    exact (congrArg AcquisitionCall.start
      (AcquisitionCall.callId_injective free (hash_inj.mp hNamed))).symm

open Classical in
/-- After the acquisition lane has stopped on a reservation, the backfill lane sends the session. -/
theorem lost_session_sent_again :
    ∃ (plan : AcquisitionPlan Seal) (header attempt : Json Seal) (t : Lanes Seal),
      beginAuthorization (some reviewedInstant) (.plain "msft-20241231-a") plan 1 (.int 1) none =
          (.ok (), some [header]) ∧
        reserveCall (some reviewedInstant) (.plain "msft-20241231-a") (.digest plan.planId)
            (openCloseCall lostSession) (some [header]) = (.ok 1, some [header, attempt]) ∧
        OpenSession [header, attempt] lostSession ∧
        ReflTransGen LaneStep (Lanes.idle (some [header, attempt]) [] none) t ∧
        ¬ NotResent lostSession (Lanes.idle (some [header, attempt]) [] none) t := by
  obtain ⟨plan, header, attempt, hBegin, hReserve, hOpen, -⟩ :=
    exists_lost_reservation collisionFree_seal (Seal.of .null)
  have hId := sample_ids.2
  have hRevision : matchesGitRevision reviewedRevision = true := by decide
  obtain ⟨lane, hRun, hSends⟩ := AttemptLedger.exists_send windowSessions_sorted lostSession_mem
    lastSession_mem (by decide) hRevision hId (Seal.of .null) reviewedInstant
  refine ⟨plan, header, attempt, ⟨World.idle (some [header, attempt]) [], lane⟩, hBegin, hReserve,
    hOpen, ?_, ?_⟩
  · exact hRun.lift (Lanes.mk (World.idle (some [header, attempt]) []))
      fun _ _ step => .backfill rfl step.1
  · rintro ⟨⟨later, hLater, hNot⟩, -⟩
    rw [hSends] at hLater
    have hSame : [lostSession] = later := hLater
    rw [← hSame] at hNot
    exact hNot List.mem_cons_self

open Classical in
/-- A backfill run of another session leaves the open one alone. -/
theorem other_session_sent :
    ∃ (header attempt : Json Seal) (t : Lanes Seal), OpenSession [header, attempt] lostSession ∧
      t.backfill.sends = [otherSession] ∧
      NotResent lostSession (Lanes.idle (some [header, attempt]) [] none) t := by
  obtain ⟨-, header, attempt, -, -, hOpen, hOnly⟩ :=
    exists_lost_reservation collisionFree_seal (Seal.of .null)
  have hId := sample_ids.2
  have hRevision : matchesGitRevision reviewedRevision = true := by decide
  obtain ⟨lane, hRun, hSends⟩ := AttemptLedger.exists_send windowSessions_sorted otherSession_mem
    lastSession_mem (by decide) hRevision hId (Seal.of .null) reviewedInstant
  set world := World.idle (some [header, attempt]) [] with hWorld
  have hGuarded : ∀ a b : AttemptLedger.Lane Seal,
      AttemptLedger.Step a b ∧ AttemptLedger.Misses [otherSession] a b →
        LaneStep ⟨world, a⟩ ⟨world, b⟩ ∧ Guarded ⟨world, a⟩ ⟨world, b⟩ := by
    rintro a b ⟨step, misses⟩
    refine ⟨.backfill rfl step, ?_⟩
    intro run hIdle hStarted session hMissing hSession
    rw [misses run hIdle hStarted, List.mem_singleton] at hMissing
    rw [hMissing] at hSession
    exact absurd (hOnly otherSession hSession) (by decide)
  have hLater : ReflTransGen (fun s t : Lanes Seal => LaneStep s t ∧ Guarded s t)
      (Lanes.idle (some [header, attempt]) [] none) ⟨world, lane⟩ :=
    hRun.lift (Lanes.mk world) hGuarded
  exact ⟨header, attempt, _, hOpen, hSends,
    open_session_not_resent _ _ _ .refl ⟨rfl, rfl⟩ hLater (Or.inl hOpen)⟩

end Counterexample

end StockApi.Acquisition

import StockApi.Acquisition.Execute
import StockApi.Acquisition.Children

/-!
# No call without a reservation, and no blind resend

Every admission of the guard comes after an attempt record of its own, anchored in the
database. The record is the last of the ledger from its append to the admission, and before it
every attempt on the same call has its outcome.
-/

namespace StockApi.Acquisition

open Checked CivilTime Relation

variable {δ : Type} [DecidableEq δ] [ContentHash δ]

/-! ## The guard -/

theorem GlobalGuard.arm_eq_ok {guard guard' : GlobalGuard} {call : AcquisitionCall}
    (h : guard.arm call = .ok guard') : guard'.acquired = false := by
  rw [arm] at h
  split at h
  · cases h
  · cases h
    rfl

theorem GlobalGuard.match?_eq_ok {guard : GlobalGuard} {vendor : String} {cost : Int}
    {endpoint : Option String} (h : guard.match? vendor cost endpoint = .ok ()) :
    guard.acquired = false := by
  rw [match?] at h
  split at h
  · cases h
  · rw [refuseIf_eq_ok_iff, not_or] at h
    simpa using h.1

theorem GlobalGuard.admit_eq_ok {guard guard' : GlobalGuard} {endIsCurrent : Bool}
    (h : guard.acquire endIsCurrent = .ok guard') : guard'.acquired = true := by
  rw [acquire, refuseIf_bind_eq_ok_iff, refuseIf_bind_eq_ok_iff, pure_eq_ok] at h
  obtain ⟨-, -, h⟩ := h
  cases h
  rfl

/-! ## The checkpoint of a ledger -/

/-- Some anchor names exactly these records. -/
def Covered (anchors : List (AnchorRow δ)) (ledger : List (Json δ)) : Prop :=
  ∃ row ∈ anchors, row.checkpointNumber = ledger.length ∧ row.ledgerSha256 = contentId (.arr ledger)

omit [DecidableEq δ] in
theorem Covered.mono {anchors anchors' : List (AnchorRow δ)} {ledger : List (Json δ)}
    (covered : Covered anchors ledger) (h : anchors <+: anchors') : Covered anchors' ledger := by
  obtain ⟨row, hMem, hRow⟩ := covered
  exact ⟨row, h.subset hMem, hRow⟩

omit [ContentHash δ] in
theorem publishAnchor_extends {tx : Transaction} {requested : Checkpoint δ}
    {rows rows' returned : List (AnchorRow δ)}
    (h : publishAnchor tx requested rows = .ok (returned, rows')) : rows <+: rows' := by
  have hExtend : extendAnchors tx requested rows = .ok (returned, rows') → rows <+: rows' := by
    intro hExtend
    rw [extendAnchors, refuseIf_bind_eq_ok_iff, bind_eq_ok_iff] at hExtend
    obtain ⟨-, _, -, hExtend⟩ := hExtend
    rw [bind_eq_ok_iff] at hExtend
    obtain ⟨inserted, hInsert, hExtend⟩ := hExtend
    cases hExtend
    rw [insertAnchor, refuseIf_bind_eq_ok_iff, refuseIf_bind_eq_ok_iff, pure_eq_ok] at hInsert
    obtain ⟨-, -, hInsert⟩ := hInsert
    cases hInsert
    exact List.prefix_append _ _
  unfold publishAnchor at h
  split at h
  · cases h
  · split at h
    · exact hExtend h
    · split at h
      · split at h
        · cases h
          exact List.prefix_rfl
        · cases h
      · exact hExtend h

omit [ContentHash δ] in
theorem publishHighWater_extends {wire : Wire} {tx : Transaction} {requested : HighWater δ}
    {rows : List (AnchorRow δ)} : rows <+: (publishHighWater wire tx requested rows).2 := by
  have hDeliver : rows <+: (deliver wire tx requested.toCheckpoint rows).2 := by
    cases hPublish : publishAnchor tx requested.toCheckpoint rows with
    | error e =>
      rw [deliver, hPublish]
      cases wire.delivery <;> exact List.prefix_rfl
    | ok done =>
      have := publishAnchor_extends hPublish
      rw [deliver, hPublish]
      split <;> simp_all
  rw [publishHighWater]
  split <;> simp_all

theorem publishDatabaseHighWater_extends {wire : Wire} {tx : Transaction} {file : LedgerFile δ}
    {campaignId : δ} {scope : Json δ} {rows rows' : List (AnchorRow δ)}
    {result : Except Raised (CampaignLedgerState δ)}
    (h : publishDatabaseHighWater wire tx file campaignId scope rows = (result, rows')) :
    rows <+: rows' := by
  rw [publishDatabaseHighWater] at h
  split at h
  · rename_i state requested hRequested
    have hPrefix : rows <+: (publishHighWater wire tx requested rows).2 := publishHighWater_extends
    rw [publishRequested] at h
    split at h
    · simp_all
    · split at h <;> simp_all
  · cases h
    exact List.prefix_rfl

omit [ContentHash δ] in
/-- What the store returns was read as the newest anchor. -/
theorem visible_of_publishHighWater {wire : Wire} {tx : Transaction} {requested visible : HighWater δ}
    {rows rows' : List (AnchorRow δ)}
    (h : publishHighWater wire tx requested rows = (.ok visible, rows')) :
    latestHighWater true rows' = .ok (some visible) := by
  have hRead : ∀ readable, latestHighWater readable rows' = .ok (some visible) →
      latestHighWater true rows' = .ok (some visible) := by
    intro readable hLatest
    cases readable with
    | true => exact hLatest
    | false => cases hLatest
  rw [publishHighWater] at h
  split at h
  · rename_i sqlstate after hDeliver
    obtain ⟨hReconcile, rfl⟩ := Prod.mk.inj h
    rw [reconcile, bind_eq_ok_iff] at hReconcile
    obtain ⟨seen, hSeen, hReconcile⟩ := hReconcile
    split at hReconcile
    · rw [orRefuse_eq_ok_iff] at hReconcile
      exact hRead _ (hReconcile ▸ hSeen)
    · split at hReconcile <;> cases hReconcile
  · cases h
  · rename_i returned after hDeliver
    obtain ⟨hConfirm, rfl⟩ := Prod.mk.inj h
    rw [confirm, bind_eq_ok_iff] at hConfirm
    obtain ⟨published, -, hConfirm⟩ := hConfirm
    rw [refuseIf_bind_eq_ok_iff, bind_eq_ok_iff] at hConfirm
    obtain ⟨-, seen, hSeen, hConfirm⟩ := hConfirm
    rw [refuseIf_bind_eq_ok_iff, orRefuse_eq_ok_iff] at hConfirm
    exact hRead _ (hConfirm.2 ▸ hSeen)

theorem construct_global {campaignId : δ} {scope : Json δ} {ledgerSha256 globalLedgerSha256 : δ}
    {recordCount globalRecordCount : Nat} {baseCalls : Option Int} {authorizedCalls reservedCalls : Int}
    {failed : List (Json δ)} {state : CampaignLedgerState δ}
    (h : CampaignLedgerState.construct campaignId scope ledgerSha256 recordCount globalLedgerSha256
      globalRecordCount baseCalls authorizedCalls reservedCalls failed = .ok state) :
    state.globalRecordCount = globalRecordCount ∧ state.globalLedgerSha256 = globalLedgerSha256 := by
  unfold CampaignLedgerState.construct at h
  split at h
  · split at h
    · split at h
      · split at h
        · cases h
          exact ⟨rfl, rfl⟩
        · split at h <;> cases h
      · cases h
    · cases h
  · cases h

theorem campaignState_global {file : LedgerFile δ} {campaignId : δ} {scope : Json δ}
    {state : CampaignLedgerState δ} (h : campaignState file campaignId scope = .ok state) :
    state.globalRecordCount = file.lines.length ∧
      state.globalLedgerSha256 = contentId (.arr file.lines) := by
  rw [campaignState, bind_eq_ok_iff] at h
  obtain ⟨records, hRead, h⟩ := h
  obtain ⟨rfl, -⟩ := readRecords_eq_ok hRead
  unfold campaignStateFromRecords at h
  split at h
  · cases h
  · split at h
    · split at h
      · cases h
      · exact construct_global h
    · exact construct_global h

/-- A publication that returns has anchored the whole ledger. -/
theorem covered_of_publish {wire : Wire} {tx : Transaction} {file : LedgerFile δ} {campaignId : δ}
    {scope : Json δ} {rows rows' : List (AnchorRow δ)} {state : CampaignLedgerState δ}
    (h : publishDatabaseHighWater wire tx file campaignId scope rows = (.ok state, rows')) :
    Covered rows' file.lines := by
  rw [publishDatabaseHighWater] at h
  split at h
  · rename_i state' requested hBuilt
    rw [bind_eq_ok_iff] at hBuilt
    obtain ⟨read, hRead, hBuilt⟩ := hBuilt
    rw [bind_eq_ok_iff] at hBuilt
    obtain ⟨built, hRequested, hBuilt⟩ := hBuilt
    cases hBuilt
    obtain ⟨hCount, hDigest⟩ := campaignState_global hRead
    rw [publishRequested] at h
    split at h
    · cases h
    · rename_i visible after hPublish
      split at h
      · rename_i hSame
        obtain ⟨-, rfl⟩ := Prod.mk.inj h
        have hVisible := visible_of_publishHighWater hPublish
        have hEq : requested.toCheckpoint = visible.toCheckpoint := by
          simpa [HighWater.sameState] using hSame
        have hState : requested.checkpointNumber = state'.globalRecordCount ∧
            requested.ledgerSha256 = state'.globalLedgerSha256 := by
          rw [campaignHighWater] at hRequested
          split at hRequested
          · cases hRequested
          · split at hRequested
            · cases hRequested
            · rw [HighWater.construct] at hRequested
              split at hRequested <;> cases hRequested
              exact ⟨rfl, rfl⟩
        rw [latestHighWater, if_neg (by simp)] at hVisible
        cases hLatest : latestAnchor after with
        | none =>
          rw [hLatest] at hVisible
          cases hVisible
        | some row =>
          rw [hLatest] at hVisible
          simp only [fromValues, HighWater.construct] at hVisible
          split at hVisible
          · cases hVisible
            refine ⟨row, Relational.mem_of_latestBy hLatest, ?_, ?_⟩
            · rw [← hCount, ← hState.1, hEq]
            · rw [← hDigest, ← hState.2, hEq]
          · cases hVisible
      · cases h
  · cases h

/-! ## The records of a run -/

def AttemptFor (record : Json δ) (callId : δ) : Prop :=
  isRecord .attempt record = true ∧ record.field "call_id" = hash callId

/-- The ledger has the outcome of an attempt. -/
def Resolved (ledger : List (Json δ)) (attempt : Json δ) : Prop :=
  ∃ outcome ∈ ledger, isRecord .outcome outcome = true ∧ attemptKey outcome = attemptKey attempt

omit [ContentHash δ] in
theorem Resolved.mono {ledger ledger' : List (Json δ)} {attempt : Json δ}
    (resolved : Resolved ledger attempt) (h : ledger ⊆ ledger') : Resolved ledger' attempt := by
  obtain ⟨outcome, hMem, hOutcome⟩ := resolved
  exact ⟨outcome, h hMem, hOutcome⟩

/-- A record written under an authorization and its plan. -/
def Under (authorizationId : Text δ) (planId : δ) (record : Json δ) : Prop :=
  record.field "authorization_id" = .str authorizationId ∧ record.field "plan_id" = hash planId

theorem mem_unresolvedCallIds {records : List (Json δ)} {attempt : Json δ} {callId : δ}
    (hMem : attempt ∈ records) (hAttempt : AttemptFor attempt callId)
    (hUnresolved : ¬ Resolved records attempt) : callId ∈ unresolvedCallIds records := by
  unfold unresolvedCallIds
  rw [List.mem_mergeSort, List.mem_filterMap]
  refine ⟨attemptKey attempt, ?_, ?_⟩
  · rw [List.mem_filter, List.mem_dedup]
    refine ⟨List.mem_map.mpr ⟨attempt, List.mem_filter.mpr ⟨hMem, hAttempt.1⟩, rfl⟩, ?_⟩
    rw [decide_eq_true_eq]
    intro hKey
    obtain ⟨outcome, hOutcome, hEq⟩ := List.mem_map.mp hKey
    obtain ⟨hRecord, hKind⟩ := List.mem_filter.mp hOutcome
    exact hUnresolved ⟨outcome, hRecord, hKind, hEq⟩
  · rw [attemptKey, hAttempt.2]
    exact digest?_eq_some_iff.mpr rfl

/-- A run starts only when the calls of its plan have no open attempt. -/
theorem resolved_of_accepted {endSession : Date} {expectedDates : List Date} {toolRevision : String}
    {reading : StoreReading δ} {legacy : List Date} {file : LedgerFile δ}
    {anchors : List (AnchorRow δ)} {plan : AcquisitionPlan δ} {args : ExecuteArguments δ}
    (current : currentPlan endSession expectedDates toolRevision reading legacy file anchors = .ok plan)
    (reviewed : acceptPlan plan args = .ok ()) {call : AcquisitionCall} (hCall : call ∈ plan.calls)
    {attempt : Json δ} (hMem : attempt ∈ file.lines) (hAttempt : AttemptFor attempt (call.callId : δ)) :
    Resolved file.lines attempt := by
  by_contra hUnresolved
  rw [currentPlan, bind_eq_ok_iff] at current
  obtain ⟨pricePlan, -, current⟩ := current
  rw [bind_eq_ok_iff] at current
  obtain ⟨scope, -, current⟩ := current
  rw [bind_eq_ok_iff] at current
  obtain ⟨campaign, -, current⟩ := current
  rw [bind_eq_ok_iff] at current
  obtain ⟨_, -, current⟩ := current
  rw [bind_eq_ok_iff] at current
  obtain ⟨records, hRead, current⟩ := current
  obtain ⟨rfl, -⟩ := readRecords_eq_ok hRead
  rw [acceptPlan, refuseIf_bind_eq_ok_iff, refuseIf_bind_eq_ok_iff, refuseIf_bind_eq_ok_iff,
    refuseIf_bind_eq_ok_iff, refuseIf_bind_eq_ok_iff] at reviewed
  obtain ⟨-, -, -, -, hUnambiguous, -⟩ := reviewed
  have hAmbiguous := (planBuilt_of_eq_ok current).ambiguous call hCall
    (mem_unresolvedCallIds hMem hAttempt hUnresolved)
  rw [not_not.mp hUnambiguous] at hAmbiguous
  cases hAmbiguous

theorem authorized_of_begin {now : Option Instant} {authorizationId : Text δ}
    {plan : AcquisitionPlan δ} {maxCalls : Int} {delta : Json δ} {file file' : LedgerFile δ}
    (h : beginAuthorization now authorizationId plan maxCalls delta file = (.ok (), file')) :
    (∀ r ∈ file.lines, r.field "authorization_id" ≠ .str authorizationId) ∧
    ∃ record, file'.lines = file.lines ++ [record] ∧ Under authorizationId plan.planId record ∧
      isRecord .attempt record = false ∧ isRecord .outcome record = false := by
  obtain ⟨record, hBuilt, hLines⟩ := appending_eq_ok h
  obtain ⟨_, scan, -, granted⟩ := authorizationRecord_eq_ok hBuilt
  obtain ⟨start, stamp, -, -, rfl⟩ := granted.document
  exact ⟨granted.fresh, _, hLines, ⟨rfl, rfl⟩, (isRecord_of_type rfl .attempt).trans rfl,
    (isRecord_of_type rfl .outcome).trans rfl⟩

/-- An attempt is written under its authorization, which has none for the call yet. -/
theorem reserved_of_reserve {now : Option Instant} {authorizationId : Text δ} {planId : δ}
    {call : AcquisitionCall} {file file' : LedgerFile δ} {number : Int}
    (h : reserveCall now authorizationId (.digest planId) call file = (.ok number, file')) :
    (∀ r ∈ file.lines, Under authorizationId planId r → ¬ AttemptFor r (call.callId : δ)) ∧
    ∃ record, file'.lines = file.lines ++ [record] ∧ Under authorizationId planId record ∧
      AttemptFor record (call.callId : δ) ∧ isRecord .outcome record = false := by
  obtain ⟨record, hBuilt, hLines⟩ := appending_eq_ok h
  obtain ⟨scan, header, calls, state, -, reserved⟩ := attemptRecord_eq_ok hBuilt
  refine ⟨?_, ?_⟩
  · rintro r hMem ⟨hAuthorization, hPlan⟩ ⟨hKind, hCall⟩
    refine reserved.fresh r (List.mem_filter.mpr ⟨hMem, ?_⟩) hCall
    simp [hKind, hAuthorization, hPlan, hash]
  · obtain ⟨stamp, -, rfl⟩ := reserved.document
    exact ⟨_, hLines, ⟨rfl, rfl⟩, ⟨(isRecord_of_type rfl .attempt).trans rfl, rfl⟩,
      (isRecord_of_type rfl .outcome).trans rfl⟩

theorem recorded_of_finish {now : Option Instant} {authorizationId status : Text δ} {planId : δ}
    {call : AcquisitionCall} {evidenceId failureType : Option (Text δ)} {file file' : LedgerFile δ}
    (h : finishCall now authorizationId (.digest planId) call status evidenceId failureType file =
      (.ok (), file')) :
    ∃ record, file'.lines = file.lines ++ [record] ∧ Under authorizationId planId record ∧
      isRecord .attempt record = false := by
  obtain ⟨record, hBuilt, hLines⟩ := appending_eq_ok h
  obtain ⟨scan, header, -, recorded⟩ := outcomeRecord_eq_ok hBuilt
  obtain ⟨stamp, -, rfl⟩ := recorded.document
  exact ⟨_, hLines, ⟨rfl, rfl⟩, (isRecord_of_type rfl .attempt).trans rfl⟩

/-! ## The invariant -/

def attemptCount (ledger : List (Json δ)) : Nat := (ledger.filter (isRecord .attempt)).length

omit [ContentHash δ] in
theorem attemptCount_append (ledger : List (Json δ)) (record : Json δ) :
    attemptCount (ledger ++ [record]) =
      attemptCount ledger + if isRecord .attempt record = true then 1 else 0 := by
  cases h : isRecord .attempt record <;> simp [attemptCount, h]

/-- The last record is the open attempt of a call, and every attempt before it has its outcome. -/
def Reserved (call : AcquisitionCall) (authorizationId : Text δ) (planId : δ)
    (ledger : List (Json δ)) : Prop :=
  ∃ earlier record, ledger = earlier ++ [record] ∧ Under authorizationId planId record ∧
    AttemptFor record (call.callId : δ) ∧ isRecord .outcome record = false ∧
    ∀ r ∈ earlier, AttemptFor r (call.callId : δ) → Resolved earlier r

/-- The attempts that are written and not yet admitted. -/
def Stage.permits (stage : Stage δ) (guard : GlobalGuard) : Nat :=
  match stage with
  | .attemptAppended _ _ | .anchored _ _ => 1
  | .performing _ _ _ => if guard.acquired = true then 0 else 1
  | _ => 0

def World.permits (w : World δ) : Nat :=
  match w.run with
  | some run => run.stage.permits run.guard
  | none => 0

/-- The calls a run still has before it. -/
def Stage.calls : Stage δ → List AcquisitionCall
  | .looping rest | .outcomeAppended rest _ => rest
  | .absent call rest | .attemptAppended call rest | .anchored call rest | .performing call rest _
  | .performed call rest _ | .finished call rest _ _ => call :: rest
  | .accepted | .headerAppended => []

/-- What holds from the append of an attempt to its admission. -/
def Stage.Holds (stage : Stage δ) (args : ExecuteArguments δ) (plan : AcquisitionPlan δ)
    (guard : GlobalGuard) (ledger : List (Json δ)) (anchors : List (AnchorRow δ)) : Prop :=
  match stage with
  | .attemptAppended call _ => Reserved call args.authorizationId plan.planId ledger
  | .anchored call _ => Reserved call args.authorizationId plan.planId ledger ∧ Covered anchors ledger
  | .performing call _ waiting => Reserved call args.authorizationId plan.planId ledger ∧
      Covered anchors ledger ∧ (waiting = true → guard.acquired = false)
  | _ => True

/-- A run in progress, against the ledger and the anchors. -/
structure RunInvariant (ledger : List (Json δ)) (anchors : List (AnchorRow δ)) (run : Run δ) :
    Prop where
  history : ∃ own, ledger = run.before ++ own ∧
    ∀ r ∈ own, Under run.args.authorizationId run.plan.planId r
  fresh : run.stage ≠ .accepted →
    ∀ r ∈ run.before, r.field "authorization_id" ≠ .str run.args.authorizationId
  resolved : ∀ call ∈ run.plan.calls, ∀ r ∈ run.before, AttemptFor r (call.callId : δ) →
    Resolved run.before r
  listed : ∀ call ∈ run.stage.calls, call ∈ run.plan.calls
  holds : run.stage.Holds run.args run.plan run.guard ledger anchors

def Admission.Sound (a : Admission δ) : Prop :=
  Reserved a.call a.authorizationId a.planId a.ledger ∧ Covered a.anchors a.ledger

structure ExecuteInvariant (w : World δ) : Prop where
  counted : w.admissions.length + w.permits ≤ attemptCount w.file.lines
  sound : ∀ a ∈ w.admissions, a.Sound ∧ a.ledger <+: w.file.lines ∧ a.anchors <+: w.anchors
  running : ∀ run, w.run = some run → RunInvariant w.file.lines w.anchors run

theorem Stage.Holds.mono {stage : Stage δ} {args : ExecuteArguments δ} {plan : AcquisitionPlan δ}
    {guard : GlobalGuard} {ledger : List (Json δ)} {anchors anchors' : List (AnchorRow δ)}
    (holds : stage.Holds args plan guard ledger anchors) (h : anchors <+: anchors') :
    stage.Holds args plan guard ledger anchors' := by
  cases stage with
  | anchored call rest => exact ⟨holds.1, holds.2.mono h⟩
  | performing call rest waiting => exact ⟨holds.1, holds.2.1.mono h, holds.2.2⟩
  | _ => exact holds

/-- A step that only extends the anchors. -/
theorem ExecuteInvariant.anchor {file : LedgerFile δ} {anchors anchors' : List (AnchorRow δ)}
    {run : Option (Run δ)} {admissions : List (Admission δ)}
    (inv : ExecuteInvariant ⟨file, anchors, run, admissions⟩) (h : anchors <+: anchors') :
    ExecuteInvariant ⟨file, anchors', run, admissions⟩ where
  counted := inv.counted
  sound a hMem := ⟨(inv.sound a hMem).1, (inv.sound a hMem).2.1, (inv.sound a hMem).2.2.trans h⟩
  running r hRun :=
    let old := inv.running r hRun
    ⟨old.history, old.fresh, old.resolved, old.listed, old.holds.mono h⟩

/-- A step that only ends the run. -/
theorem ExecuteInvariant.ends {file : LedgerFile δ} {anchors : List (AnchorRow δ)}
    {run : Option (Run δ)} {admissions : List (Admission δ)}
    (inv : ExecuteInvariant ⟨file, anchors, run, admissions⟩) :
    ExecuteInvariant ⟨file, anchors, none, admissions⟩ where
  counted := (Nat.le_add_right _ _).trans inv.counted
  sound := inv.sound
  running _ hRun := by cases hRun

section Advance

variable {file : LedgerFile δ} {anchors : List (AnchorRow δ)} {admissions : List (Admission δ)}
  {args : ExecuteArguments δ} {plan : AcquisitionPlan δ} {before : List (Json δ)}
  {guard guard' : GlobalGuard} {stage stage' : Stage δ}

/-- A step that moves the run and leaves the ledger, the anchors and the admissions. -/
theorem ExecuteInvariant.advance
    (inv : ExecuteInvariant ⟨file, anchors, some ⟨args, plan, before, guard, stage⟩, admissions⟩)
    (permits : stage'.permits guard' ≤ stage.permits guard) (begun : stage ≠ .accepted)
    (listed : ∀ call ∈ stage'.calls, call ∈ stage.calls ∨ call ∈ plan.calls)
    (holds : stage'.Holds args plan guard' file.lines anchors) :
    ExecuteInvariant ⟨file, anchors, some ⟨args, plan, before, guard', stage'⟩, admissions⟩ where
  counted := (Nat.add_le_add_left permits _).trans inv.counted
  sound := inv.sound
  running run hRun := by
    cases hRun
    have old := inv.running _ rfl
    refine ⟨old.history, fun _ => old.fresh begun, old.resolved, ?_, holds⟩
    intro call hCall
    exact (listed call hCall).elim (old.listed call) id

/-- A step that appends a record of the run. -/
theorem ExecuteInvariant.append {file' : LedgerFile δ} {record : Json δ}
    (inv : ExecuteInvariant ⟨file, anchors, some ⟨args, plan, before, guard, stage⟩, admissions⟩)
    (lines : file'.lines = file.lines ++ [record]) (own : Under args.authorizationId plan.planId record)
    (permits : stage'.permits guard ≤
      stage.permits guard + if isRecord .attempt record = true then 1 else 0)
    (fresh : ∀ r ∈ before, r.field "authorization_id" ≠ .str args.authorizationId)
    (listed : ∀ call ∈ stage'.calls, call ∈ stage.calls)
    (holds : stage'.Holds args plan guard file'.lines anchors) :
    ExecuteInvariant ⟨file', anchors, some ⟨args, plan, before, guard, stage'⟩, admissions⟩ where
  counted := by
    have hCounted := inv.counted
    simp only [World.permits] at hCounted ⊢
    rw [lines, attemptCount_append]
    omega
  sound a hMem := by
    obtain ⟨hSound, hLedger, hAnchors⟩ := inv.sound a hMem
    refine ⟨hSound, ?_, hAnchors⟩
    rw [lines]
    exact hLedger.trans (List.prefix_append _ _)
  running run hRun := by
    cases hRun
    have old := inv.running _ rfl
    obtain ⟨written, hLines, hOwn⟩ := old.history
    refine ⟨⟨written ++ [record], ?_, ?_⟩, fun _ => fresh, old.resolved, ?_, holds⟩
    · rw [lines, hLines, List.append_assoc]
    · intro r hMem
      rcases List.mem_append.mp hMem with hMem | hMem
      · exact hOwn r hMem
      · rwa [List.mem_singleton.mp hMem]
    · exact fun call hCall => old.listed call (listed call hCall)

/-- What `reserve_call` appends is the open attempt of the call, and the only one. -/
theorem ExecuteInvariant.reserved {call : AcquisitionCall} {rest : List AcquisitionCall}
    {record : Json δ}
    (inv : ExecuteInvariant ⟨file, anchors, some ⟨args, plan, before, guard, .absent call rest⟩,
      admissions⟩)
    (first : ∀ r ∈ file.lines, Under args.authorizationId plan.planId r →
      ¬ AttemptFor r (call.callId : δ))
    (own : Under args.authorizationId plan.planId record) (attempt : AttemptFor record (call.callId : δ))
    (outcome : isRecord .outcome record = false) :
    Reserved call args.authorizationId plan.planId (file.lines ++ [record]) := by
  have old := inv.running _ rfl
  obtain ⟨written, hLines, hOwn⟩ := old.history
  refine ⟨file.lines, record, rfl, own, attempt, outcome, ?_⟩
  intro r hMem hAttempt
  simp only at hLines
  have hCases := hMem
  rw [hLines] at hCases
  rcases List.mem_append.mp hCases with hBefore | hWritten
  · have hResolved := old.resolved call (old.listed call (by simp [Stage.calls])) r hBefore hAttempt
    refine hResolved.mono ?_
    rw [hLines]
    exact List.subset_append_left _ _
  · exact absurd hAttempt (first r hMem (hOwn r hWritten))

/-- The guard admits a call on the strength of its attempt, and only once. -/
theorem ExecuteInvariant.acquire {call : AcquisitionCall} {rest : List AcquisitionCall}
    {endIsCurrent : Bool}
    (inv : ExecuteInvariant
      ⟨file, anchors, some ⟨args, plan, before, guard, .performing call rest true⟩, admissions⟩)
    (admitted : guard.acquire endIsCurrent = .ok guard') :
    ExecuteInvariant ⟨file, anchors, some ⟨args, plan, before, guard', .performing call rest false⟩,
      admissions ++ [⟨call, args.authorizationId, plan.planId, file.lines, anchors⟩]⟩ := by
  have old := inv.running _ rfl
  obtain ⟨hReserved, hCovered, hWaiting⟩ := old.holds
  constructor
  case counted =>
    have hCounted := inv.counted
    have hAcquired : guard.acquired = false := hWaiting rfl
    simp only [World.permits, Stage.permits, hAcquired, GlobalGuard.admit_eq_ok admitted,
      Bool.false_eq_true, if_false, if_true] at hCounted ⊢
    rw [List.length_append, List.length_singleton]
    exact hCounted
  case sound =>
    intro a hMem
    rcases List.mem_append.mp hMem with hMem | hMem
    · exact inv.sound a hMem
    · rw [List.mem_singleton.mp hMem]
      exact ⟨⟨hReserved, hCovered⟩, List.prefix_rfl, List.prefix_rfl⟩
  case running =>
    intro run hRun
    cases hRun
    exact ⟨old.history, fun _ => old.fresh (by simp), old.resolved, old.listed,
      hReserved, hCovered, by simp⟩

end Advance

theorem executeInvariant_step (w w' : World δ) (inv : ExecuteInvariant w) (step : ExecuteStep w w') :
    ExecuteInvariant w' := by
  cases step with
  | start arguments current reviewed =>
    refine ⟨inv.counted, inv.sound, ?_⟩
    intro run hRun
    cases hRun
    refine ⟨⟨[], by simp, by simp⟩, fun h => absurd rfl h, ?_, by simp [Stage.calls], trivial⟩
    exact fun call hCall r hMem hAttempt => resolved_of_accepted current reviewed hCall hMem hAttempt
  | authorize compared append =>
    obtain ⟨hFresh, record, hLines, hOwn, -, -⟩ := authorized_of_begin append
    obtain ⟨written, hHistory, -⟩ := (inv.running _ rfl).history
    refine inv.append hLines hOwn (by simp [Stage.permits]) ?_ (by simp [Stage.calls]) trivial
    intro r hMem
    refine hFresh r ?_
    simp only at hHistory
    rw [hHistory]
    exact List.mem_append_left _ hMem
  | publishHeader published =>
    exact (inv.anchor (publishDatabaseHighWater_extends published)).advance le_rfl (by simp)
      (fun call hCall => Or.inr hCall) trivial
  | evidencePresent session =>
    exact inv.advance le_rfl (by simp) (fun call hCall => Or.inl (List.mem_cons_of_mem _ hCall)) trivial
  | evidenceAbsent =>
    exact inv.advance le_rfl (by simp) (fun call hCall => Or.inl hCall) trivial
  | reserve compared append =>
    obtain ⟨hFirst, record, hLines, hOwn, hAttempt, hOutcome⟩ := reserved_of_reserve append
    refine inv.append hLines hOwn (by simp [Stage.permits, hAttempt.1])
      ((inv.running _ rfl).fresh (by simp)) (fun call hCall => hCall) ?_
    rw [hLines]
    exact inv.reserved hFirst hOwn hAttempt hOutcome
  | publishAttempt published =>
    refine (inv.anchor (publishDatabaseHighWater_extends published)).advance le_rfl (by simp)
      (fun call hCall => Or.inl hCall) ⟨(inv.running _ rfl).holds, covered_of_publish published⟩
  | arm armed =>
    have hAcquired := GlobalGuard.arm_eq_ok armed
    obtain ⟨hReserved, hCovered⟩ := (inv.running _ rfl).holds
    exact inv.advance (by simp [Stage.permits, hAcquired]) (by simp)
      (fun call hCall => Or.inl hCall) ⟨hReserved, hCovered, by simp⟩
  | request matched =>
    obtain ⟨hReserved, hCovered, -⟩ := (inv.running _ rfl).holds
    exact inv.advance le_rfl (by simp) (fun call hCall => Or.inl hCall)
      ⟨hReserved, hCovered, fun _ => GlobalGuard.match?_eq_ok matched⟩
  | acquire admitted => exact inv.acquire admitted
  | denied =>
    obtain ⟨hReserved, hCovered, -⟩ := (inv.running _ rfl).holds
    exact inv.advance le_rfl (by simp) (fun call hCall => Or.inl hCall)
      ⟨hReserved, hCovered, by simp⟩
  | perform result =>
    exact inv.advance (by simp [Stage.permits]) (by simp) (fun call hCall => Or.inl hCall) trivial
  | finish finished =>
    exact inv.advance (by simp [Stage.permits]) (by simp) (fun call hCall => Or.inl hCall) trivial
  | record compared append =>
    obtain ⟨record, hLines, hOwn, -⟩ := recorded_of_finish append
    exact inv.append hLines hOwn (by simp [Stage.permits]) ((inv.running _ rfl).fresh (by simp))
      (fun call hCall => List.mem_cons_of_mem _ hCall) trivial
  | publishOutcome published =>
    exact (inv.anchor (publishDatabaseHighWater_extends published)).advance le_rfl (by simp)
      (fun call hCall => Or.inl hCall) trivial
  | raise published => exact (inv.anchor (publishDatabaseHighWater_extends published)).ends
  | publishFailed failed => exact (inv.anchor (publishDatabaseHighWater_extends failed)).ends
  | stop => exact inv.ends
  | anchor published => exact inv.anchor (publishAnchor_extends published)

/-! ## An open attempt stays open -/

/-- An attempt whose outcome the ledger does not have. -/
def Unresolved (ledger : List (Json δ)) (attempt : Json δ) : Prop :=
  attempt ∈ ledger ∧ isRecord .attempt attempt = true ∧ ¬ Resolved ledger attempt

/-- What holds of an attempt left open between two runs: it stays open, the runs after it have
other authorizations, and they acquire for other calls. -/
structure LeftOpen (attempt : Json δ) (past : List (Admission δ)) (w : World δ) : Prop where
  stays : Unresolved w.file.lines attempt
  earlier : ∀ run, w.run = some run → attempt ∈ run.before
  later : ∃ admitted, w.admissions = past ++ admitted ∧
    ∀ a ∈ admitted, hash a.call.callId ≠ attempt.field "call_id"

section LeftOpen

variable {file file' : LedgerFile δ} {anchors anchors' : List (AnchorRow δ)}
  {admissions past : List (Admission δ)} {args : ExecuteArguments δ} {plan : AcquisitionPlan δ}
  {before : List (Json δ)} {guard guard' : GlobalGuard} {stage stage' : Stage δ} {attempt : Json δ}

theorem LeftOpen.advance
    (left : LeftOpen attempt past ⟨file, anchors, some ⟨args, plan, before, guard, stage⟩, admissions⟩) :
    LeftOpen attempt past
      ⟨file, anchors', some ⟨args, plan, before, guard', stage'⟩, admissions⟩ where
  stays := left.stays
  earlier run hRun := by
    have hBefore : attempt ∈ before := left.earlier _ rfl
    cases hRun
    exact hBefore
  later := left.later

theorem LeftOpen.ends {run : Option (Run δ)}
    (left : LeftOpen attempt past ⟨file, anchors, run, admissions⟩) :
    LeftOpen attempt past ⟨file, anchors', none, admissions⟩ :=
  ⟨left.stays, by simp, left.later⟩

/-- A record of a later run is not the outcome of the attempt. -/
theorem LeftOpen.append {record : Json δ}
    (left : LeftOpen attempt past ⟨file, anchors, some ⟨args, plan, before, guard, stage⟩, admissions⟩)
    (lines : file'.lines = file.lines ++ [record])
    (other : isRecord .outcome record = true → attemptKey record ≠ attemptKey attempt) :
    LeftOpen attempt past
      ⟨file', anchors, some ⟨args, plan, before, guard, stage'⟩, admissions⟩ where
  stays := by
    obtain ⟨hMem, hKind, hOpen⟩ := left.stays
    simp only [lines]
    refine ⟨List.mem_append_left _ hMem, hKind, ?_⟩
    rintro ⟨outcome, hOutcome, hType, hKey⟩
    rcases List.mem_append.mp hOutcome with hOutcome | hOutcome
    · exact hOpen ⟨outcome, hOutcome, hType, hKey⟩
    · rw [List.mem_singleton.mp hOutcome] at hType hKey
      exact other hType hKey
  earlier run hRun := by
    have hBefore : attempt ∈ before := left.earlier _ rfl
    cases hRun
    exact hBefore
  later := left.later

/-- The call of an admission has no attempt left open before its own. -/
theorem LeftOpen.acquire {call : AcquisitionCall} {rest : List AcquisitionCall}
    (left : LeftOpen attempt past
      ⟨file, anchors, some ⟨args, plan, before, guard, .performing call rest true⟩, admissions⟩)
    (inv : ExecuteInvariant
      ⟨file, anchors, some ⟨args, plan, before, guard, .performing call rest true⟩, admissions⟩) :
    LeftOpen attempt past
      ⟨file, anchors, some ⟨args, plan, before, guard', .performing call rest false⟩,
        admissions ++ [⟨call, args.authorizationId, plan.planId, file.lines, anchors⟩]⟩ where
  stays := left.stays
  earlier run hRun := by
    have hBefore : attempt ∈ before := left.earlier _ rfl
    cases hRun
    exact hBefore
  later := by
    obtain ⟨admitted, hPast, hOther⟩ := left.later
    refine ⟨admitted ++ [⟨call, args.authorizationId, plan.planId, file.lines, anchors⟩], ?_, ?_⟩
    · rw [← List.append_assoc, ← hPast]
    · intro a hMem
      rcases List.mem_append.mp hMem with hMem | hMem
      · exact hOther a hMem
      · rw [List.mem_singleton.mp hMem]
        intro hCall
        have old := inv.running _ rfl
        obtain ⟨earlier, record, hLines, ⟨hOwn, -⟩, -, -, hResolved⟩ := old.holds.1
        obtain ⟨hIn, hKind, hOpen⟩ := left.stays
        have hForeign := old.fresh (by simp) attempt (left.earlier _ rfl)
        simp only at hLines hIn hOpen
        rw [hLines] at hIn hOpen
        rcases List.mem_append.mp hIn with hIn | hIn
        · exact hOpen ((hResolved attempt hIn ⟨hKind, hCall.symm⟩).mono
            (List.subset_append_left _ _))
        · rw [List.mem_singleton.mp hIn] at hForeign
          exact hForeign hOwn

end LeftOpen

theorem leftOpen_step {attempt : Json δ} {past : List (Admission δ)} (w w' : World δ)
    (both : ExecuteInvariant w ∧ LeftOpen attempt past w) (step : ExecuteStep w w') :
    ExecuteInvariant w' ∧ LeftOpen attempt past w' := by
  obtain ⟨inv, left⟩ := both
  refine ⟨executeInvariant_step w w' inv step, ?_⟩
  cases step with
  | start arguments current reviewed =>
    refine ⟨left.stays, ?_, left.later⟩
    intro run hRun
    cases hRun
    exact left.stays.1
  | authorize compared append =>
    obtain ⟨-, record, hLines, -, -, hOutcome⟩ := authorized_of_begin append
    exact left.append hLines (by simp [hOutcome])
  | reserve compared append =>
    obtain ⟨-, record, hLines, -, -, hOutcome⟩ := reserved_of_reserve append
    exact left.append hLines (by simp [hOutcome])
  | record compared append =>
    obtain ⟨record, hLines, hOwn, -⟩ := recorded_of_finish append
    refine left.append hLines fun _ hKey => ?_
    have hForeign := (inv.running _ rfl).fresh (by simp) attempt (left.earlier _ rfl)
    exact hForeign ((congrArg Prod.fst hKey).symm.trans hOwn.1)
  | acquire admitted => exact left.acquire inv
  | raise published => exact left.ends
  | publishFailed failed => exact left.ends
  | stop => exact left.ends
  | anchor published => exact ⟨left.stays, left.earlier, left.later⟩
  | _ => exact left.advance

/-- A world in which no run has been started yet; the ledger and the anchors are any. -/
def World.idle (file : LedgerFile δ) (anchors : List (AnchorRow δ)) : World δ :=
  ⟨file, anchors, none, []⟩

theorem executeInvariant_idle (file : LedgerFile δ) (anchors : List (AnchorRow δ)) :
    ExecuteInvariant (World.idle file anchors) where
  counted := Nat.zero_le _
  sound := by simp [World.idle]
  running := by simp [World.idle]

end StockApi.Acquisition

import StockApi.Acquisition.Windows

/-!
# The planned budget is the accepted budget

A plan that is shown as ready is granted exactly for the budget delta it shows, and the calls it
lists can then be reserved and finished one after the other.
-/

namespace StockApi.Acquisition

open Checked CivilTime

variable {δ : Type} [DecidableEq δ] [ContentHash δ]

/-- A plan that is ready is granted for exactly the delta it shows, and then every sublist of its
calls that keeps the action pages can be worked through. A plan without budget is never granted. -/
theorem planned_budget_is_accepted (free : CollisionFree δ) {calendar : SessionCalendar}
    {file : LedgerFile δ} {plan : AcquisitionPlan δ} (built : PlanOf calendar file plan) :
    (plan.blocked = .ok false → plan.calls ≠ [] →
      ∀ (authorizationId : Text δ) (now : Instant) (campaignBudgetDelta : Json δ),
        FreshAuthorization file authorizationId →
        ((beginAuthorization (some now) authorizationId plan plan.calls.length campaignBudgetDelta
            file).1 = .ok () ↔
          ∃ delta, plan.campaignRequiredBudgetDelta = .ok delta ∧ campaignBudgetDelta = .int delta) ∧
        ∀ file', beginAuthorization (some now) authorizationId plan plan.calls.length
            campaignBudgetDelta file = (.ok (), file') →
          ∀ turns : List (CallTurn δ), (turns.map (·.call)).Sublist plan.calls →
            (∀ call ∈ plan.calls, call.kind.isAction = true → call ∈ turns.map (·.call)) →
            (∀ turn ∈ turns,
              finishArguments turn.status turn.evidenceId turn.failureType = .ok ⟨⟩) →
            ∃ file'', turns.foldlM (reserveThenFinish authorizationId (.digest plan.planId)) file' =
              .ok file'') ∧
    (plan.campaign.budgetBlocked plan.requiredOutboundAttempts = .ok true →
      ∀ now (authorizationId : Text δ) maxCalls (campaignBudgetDelta : Json δ),
        ∃ e, beginAuthorization now authorizationId plan maxCalls campaignBudgetDelta file =
          (.error e, file)) := by
  have planned : PlannedOn file plan := built.plannedOn free
  refine ⟨?_, fun hBlocked _ _ _ _ => not_granted_of_blocked hBlocked⟩
  intro ready nonempty authorizationId now campaignBudgetDelta fresh
  refine ⟨⟨?_, ?_⟩, ?_⟩
  · intro hGranted
    rcases WriterCall.appending_cases file (authorizationRecord (some now) authorizationId plan
        plan.calls.length campaignBudgetDelta file) with ⟨record, result, hBuilt, -⟩ | ⟨e, -, hRun⟩
    · obtain ⟨-, -, delta, hDelta, hAsked⟩ := authorizationRecord_budget hBuilt
      exact ⟨delta, hDelta, hAsked⟩
    · rw [beginAuthorization, hRun] at hGranted
      cases hGranted
  · rintro ⟨delta, hDelta, rfl⟩
    obtain ⟨record, hBuilt⟩ := authorizationRecord_of_ready planned fresh nonempty ready hDelta now
    rw [beginAuthorization, hBuilt]
    rfl
  · intro file' hBegin turns listed actions arguments
    rw [beginAuthorization] at hBegin
    rcases WriterCall.appending_cases file (authorizationRecord (some now) authorizationId plan
        plan.calls.length campaignBudgetDelta file) with ⟨record, result, hBuilt, hRun⟩ | ⟨e, -, hRun⟩
    · rw [hRun] at hBegin
      obtain ⟨ids, scan, g⟩ := underGrant_of_granted free planned hBuilt
      rw [← (Prod.mk.inj hBegin).2]
      obtain ⟨records, -, hTurns, -⟩ := g.turns free turns listed actions arguments
      exact ⟨some records, hTurns⟩
    · rw [hRun] at hBegin
      cases hBegin

section Witness

/-- The close is asked for again and arrives. -/
def recoveryTurns : List (CallTurn δ) :=
  [⟨openCloseCall lostSession, reviewedInstant, .plain checkpointed, some (.digest (contentId .null)),
    none, reviewedInstant⟩]

open Classical in
/-- A page and a close are granted and worked through, and the campaign goes on with the close. -/
theorem planned_budget_is_accepted_campaign :
    ∃ (first second : AcquisitionPlan Seal) (granted worked continued finished : LedgerFile Seal),
      first.calls = windowCalls true ∧ second.calls = windowCalls false ∧
      beginAuthorization (some reviewedInstant) (.plain "msft-20241231-a") first 2 (.int 2) none =
        (.ok (), granted) ∧
      firstTurns.foldlM (reserveThenFinish (.plain "msft-20241231-a") (.digest first.planId)) granted =
        .ok worked ∧
      beginAuthorization (some reviewedInstant) (.plain "msft-20250101-b") second 1 (.int 1) worked =
        (.ok (), continued) ∧
      recoveryTurns.foldlM (reserveThenFinish (.plain "msft-20250101-b") (.digest second.planId))
        continued = .ok finished := by
  obtain ⟨first, second, granted, worked, t⟩ := exists_twoGrants collisionFree_seal (Seal.of .null)
  have hFirst : (first.calls.length : Int) = 2 := by
    rw [t.calls]
    rfl
  have hSecond : (second.calls.length : Int) = 1 := by
    rw [t.rest]
    rfl
  obtain ⟨hGrant, hWork⟩ := (planned_budget_is_accepted collisionFree_seal t.planned).1 t.ready
    (by simp [t.calls, windowCalls, missingCalls]) (.plain "msft-20241231-a") reviewedInstant (.int 2)
    (freshAuthorization_of sample_ids.1 fun r hr => absurd hr List.not_mem_nil)
  obtain ⟨hAgain, hRecover⟩ := (planned_budget_is_accepted collisionFree_seal t.replanned).1 t.again
    (by simp [t.rest, windowCalls, missingCalls]) (.plain "msft-20250101-b") reviewedInstant (.int 1)
    t.unused
  rw [hFirst] at hGrant hWork
  rw [hSecond] at hAgain hRecover
  have hTurns : (firstTurns (δ := Seal)).map (·.call) = first.calls := t.calls.symm
  have hRest : (recoveryTurns (δ := Seal)).map (·.call) = second.calls := t.rest.symm
  obtain ⟨worked', hWorked⟩ := hWork granted (Prod.ext (hGrant.mpr ⟨2, t.delta, rfl⟩) (by rw [t.begun]))
    firstTurns (hTurns ▸ List.Sublist.refl _) (fun call hCall _ => by rwa [hTurns]) (by
      intro turn hTurn
      rcases List.mem_cons.mp hTurn with rfl | hTurn
      · rfl
      · rw [List.mem_singleton.mp hTurn]
        rfl)
  obtain rfl : worked' = worked := Except.ok.inj (hWorked.symm.trans t.turns)
  have hContinued := hAgain.mpr ⟨1, t.recovery, rfl⟩
  obtain ⟨finished, hFinished⟩ := hRecover _ (Prod.ext hContinued rfl) recoveryTurns
    (hRest ▸ List.Sublist.refl _) (fun call hCall _ => by rwa [hRest]) (by
      intro turn hTurn
      rw [List.mem_singleton.mp hTurn]
      rfl)
  exact ⟨first, second, granted, worked', _, finished, t.calls, t.rest, t.begun, hWorked,
    Prod.ext hContinued rfl, hFinished⟩

end Witness

end StockApi.Acquisition

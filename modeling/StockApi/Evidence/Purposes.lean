import StockApi.Evidence.Separation

/-!
# Cohorts of one policy

What the committed cohorts of a registered policy have in common: an opportunity lies in one of them,
with all the selected steps, and no target date of a fit member is one of a held-out member.
-/

namespace StockApi.Evidence

open CivilTime Mvcc Postgres

variable {pg : Postgres} {s : State pg}

def State.cohortsOf (s : State pg) (policy : SelectionPolicyRow pg) : List (ManifestRow pg) :=
  ((committed s.fates s.manifests).map Stored.row).filter
    fun m => decide (m.selectionPolicyHash = policy.policyHash)

def State.cohortMembers (s : State pg) (cohortId : String) : List MemberRow :=
  ((committed s.fates s.members).map Stored.row).filter fun r => decide (r.cohortId = cohortId)

/-- The steps at which an opportunity is a member of a cohort, in ascending order. -/
def State.stepsOf (s : State pg) (cohortId opportunityHash : String) : List Int :=
  (((s.cohortMembers cohortId).filter fun r => decide (r.opportunityHash = opportunityHash)).map
    fun r => r.step).insertionSort (· ≤ ·)

theorem mem_cohortsOf_iff {policy : SelectionPolicyRow pg} {m : ManifestRow pg} :
    m ∈ s.cohortsOf policy ↔
      ∃ t ∈ committed s.fates s.manifests, t.row = m ∧ m.selectionPolicyHash = policy.policyHash := by
  rw [State.cohortsOf, List.mem_filter, List.mem_map, decide_eq_true_eq]
  constructor
  · rintro ⟨⟨t, ht, hRow⟩, hPolicy⟩
    exact ⟨t, ht, hRow, hPolicy⟩
  · rintro ⟨t, ht, hRow, hPolicy⟩
    exact ⟨⟨t, ht, hRow⟩, hPolicy⟩

theorem mem_cohortMembers_iff {cohortId : String} {r : MemberRow} : r ∈ s.cohortMembers cohortId ↔
    ∃ t ∈ committed s.fates s.members, t.row = r ∧ r.cohortId = cohortId := by
  rw [State.cohortMembers, List.mem_filter, List.mem_map, decide_eq_true_eq]
  constructor
  · rintro ⟨⟨t, ht, hRow⟩, hCohort⟩
    exact ⟨t, ht, hRow, hCohort⟩
  · rintro ⟨t, ht, hRow, hCohort⟩
    exact ⟨⟨t, ht, hRow⟩, hCohort⟩

theorem mem_stepsOf_iff {cohortId opportunityHash : String} {step : Int} :
    step ∈ s.stepsOf cohortId opportunityHash ↔
      ∃ r ∈ s.cohortMembers cohortId, r.opportunityHash = opportunityHash ∧ r.step = step := by
  rw [State.stepsOf, List.mem_insertionSort, List.mem_map]
  simp only [List.mem_filter, decide_eq_true_eq, and_assoc]

/-! ## Conflicts -/

theorem SelectionPolicyRow.Conflicts.symm {a b : SelectionPolicyRow pg} (h : a.Conflicts b) :
    b.Conflicts a := Eq.symm h

theorem ManifestRow.Conflicts.symm {a b : ManifestRow pg} (h : a.Conflicts b) : b.Conflicts a :=
  Eq.symm h

theorem MemberRow.Conflicts.symm {a b : MemberRow} (h : a.Conflicts b) : b.Conflicts a := by
  rcases h with ⟨hCohort, hForecast, hStep⟩ | ⟨hCohort, hOpportunity, hStep⟩ |
    ⟨hPolicy, hOpportunity, hStep⟩ | ⟨hPolicy, hOpportunity, hPurpose⟩
  · exact Or.inl ⟨hCohort.symm, hForecast.symm, hStep.symm⟩
  · exact Or.inr (Or.inl ⟨hCohort.symm, hOpportunity.symm, hStep.symm⟩)
  · exact Or.inr (Or.inr (Or.inl ⟨hPolicy.symm, hOpportunity.symm, hStep.symm⟩))
  · exact Or.inr (Or.inr (Or.inr ⟨hPolicy.symm, hOpportunity.symm, hPurpose.symm⟩))

namespace Cohorts

/-- Members of one policy in conflict are one and the same. -/
theorem members_eq (inv : Cohorts s) {r r' : Stored MemberRow} (hr : r ∈ committed s.fates s.members)
    (hr' : r' ∈ committed s.fates s.members) (both : r.row.Conflicts r'.row) : r = r' :=
  inv.members.eq (fun _ _ => MemberRow.Conflicts.symm) (live_of_committed hr) (live_of_committed hr')
    both

theorem manifests_eq (inv : Cohorts s) {m m' : Stored (ManifestRow pg)}
    (hm : m ∈ committed s.fates s.manifests) (hm' : m' ∈ live s.fates s.manifests)
    (both : m'.row.cohortId = m.row.cohortId) : m' = m :=
  inv.manifests.eq (fun _ _ => ManifestRow.Conflicts.symm) hm' (live_of_committed hm) both

/-- A committed member belongs to the manifest of its cohort. -/
theorem origin_committed (inv : Cohorts s) {m : Stored (ManifestRow pg)}
    (hm : m ∈ committed s.fates s.manifests) {r : Stored MemberRow}
    (hr : r ∈ live s.fates s.members) (cohort : r.row.cohortId = m.row.cohortId) :
    r.creator = m.creator ∧ r.row.selectionPolicyHash = m.row.selectionPolicyHash ∧
      r.row.purpose = m.row.purpose := by
  obtain ⟨origin, hOrigin, hCreator, hCohort, hPolicy, hPurpose⟩ := inv.origin r hr
  have hAlive : s.fates origin.creator ≠ .aborted := by
    rw [hCreator]
    exact (mem_live_iff.mp hr).2
  have hSame := inv.manifests_eq hm (mem_live_iff.mpr ⟨hOrigin, hAlive⟩) (hCohort.trans cohort)
  subst hSame
  exact ⟨hCreator.symm, hPolicy.symm, hPurpose.symm⟩

theorem cohortMembers_eq (inv : Cohorts s) {m : Stored (ManifestRow pg)}
    (hm : m ∈ committed s.fates s.manifests) :
    s.cohortMembers m.row.cohortId = s.membersOf m := by
  have hEnded := (mem_committed_iff.mp hm).2
  rw [State.cohortMembers, State.membersOf, committed, List.filter_map, List.filter_filter]
  congr 1
  apply List.filter_congr
  intro r hr
  rw [Function.comp_apply, ← Bool.decide_and, decide_eq_decide]
  constructor
  · rintro ⟨hCohort, hCommitted⟩
    have hLive := live_of_committed (mem_committed_iff.mpr ⟨hr, hCommitted⟩)
    exact ⟨(inv.origin_committed hm hLive hCohort).1, hCohort⟩
  · rintro ⟨hCreator, hCohort⟩
    exact ⟨hCohort, by rw [hCreator, hEnded]⟩

/-- A committed manifest has been taken apart, under the policy that it names. -/
theorem settled (inv : Cohorts s) {m : Stored (ManifestRow pg)} (hm : m ∈ committed s.fates s.manifests)
    {policy : Stored (SelectionPolicyRow pg)} (hPolicy : policy ∈ committed s.fates s.selectionPolicies)
    (named : m.row.selectionPolicyHash = policy.row.policyHash) : ∃ session documents,
      Complies session policy.row (some m.row.purpose.name) documents ∧
      List.Forall₂ (Describes session) documents (s.cohortMembers m.row.cohortId) := by
  obtain ⟨session, own, done, remaining, h⟩ := inv.materialized m (live_of_committed hm)
  have hEnded := (mem_committed_iff.mp hm).2
  have hNone : remaining = [] := by
    rcases h.rest with ⟨hEmpty, -⟩ | hWork
    · exact hEmpty
    · rw [inv.resting m.creator (by rw [hEnded]; decide)] at hWork
      cases hWork
  obtain ⟨stored, hStored, hRow⟩ := h.known.committed hEnded
  have hSame : stored = policy := inv.policies.eq (fun _ _ => SelectionPolicyRow.Conflicts.symm)
    (live_of_committed hStored) (live_of_committed hPolicy) (by
      rw [SelectionPolicyRow.Conflicts, hRow, h.named, named])
  refine ⟨session, done, ?_, ?_⟩
  · have hComplies := h.complies
    rwa [hNone, List.append_nil, ← hRow, hSame] at hComplies
  · rw [inv.cohortMembers_eq hm]
    exact h.members

end Cohorts

/-! ## Separation -/

/-- Fit and held-out cohorts of a policy share nothing. -/
structure Separated (s : State pg) (policy : SelectionPolicyRow pg) : Prop where
  steps : ∀ m ∈ s.cohortsOf policy, ∀ m' ∈ s.cohortsOf policy, ∀ r ∈ s.cohortMembers m.cohortId,
    ∀ r' ∈ s.cohortMembers m'.cohortId, r.opportunityHash = r'.opportunityHash → r.step = r'.step →
      m.cohortId = m'.cohortId
  purposes : ∀ m ∈ s.cohortsOf policy, ∀ m' ∈ s.cohortsOf policy, ∀ r ∈ s.cohortMembers m.cohortId,
    ∀ r' ∈ s.cohortMembers m'.cohortId, r.opportunityHash = r'.opportunityHash →
      m.purpose = m'.purpose
  cohorts : ∀ m ∈ s.cohortsOf policy, ∀ m' ∈ s.cohortsOf policy, ∀ r ∈ s.cohortMembers m.cohortId,
    ∀ r' ∈ s.cohortMembers m'.cohortId, r.opportunityHash = r'.opportunityHash →
      m.cohortId = m'.cohortId
  bundles : ∀ m ∈ s.cohortsOf policy, ∀ r ∈ s.cohortMembers m.cohortId,
    s.stepsOf m.cohortId r.opportunityHash = policy.selectedSteps
  windows : ∀ m ∈ s.cohortsOf policy, ∀ r ∈ s.cohortMembers m.cohortId,
    InWindow policy.toSelectionPolicyColumns m.purpose r.targetTime
  dates : ∀ m ∈ s.cohortsOf policy, ∀ m' ∈ s.cohortsOf policy, ∀ r ∈ s.cohortMembers m.cohortId,
    ∀ r' ∈ s.cohortMembers m'.cohortId, m.purpose ≠ m'.purpose →
      utcDay r.targetTime ≠ utcDay r'.targetTime

/-- No day lies in the windows of both purposes. -/
theorem inWindow_unique {policy : SelectionPolicyRow pg} {purpose purpose' : Purpose} {t t' : Int}
    (h : InWindow policy.toSelectionPolicyColumns purpose t)
    (h' : InWindow policy.toSelectionPolicyColumns purpose' t') (day : utcDay t = utcDay t') :
    purpose = purpose' := by
  obtain ⟨-, -, ⟨-, hDisjoint, -⟩, -⟩ := policy.checks
  rw [← Date.days_lt_iff] at hDisjoint
  cases purpose <;> cases purpose' <;> simp only [InWindow] at h h' ⊢ <;> omega

theorem Cohorts.separated (inv : Cohorts s) {policy : Stored (SelectionPolicyRow pg)}
    (registered : policy ∈ committed s.fates s.selectionPolicies) : Separated s policy.row := by
  have hSettled : ∀ m ∈ s.cohortsOf policy.row, ∃ session documents,
      Complies session policy.row (some m.purpose.name) documents ∧
      List.Forall₂ (Describes session) documents (s.cohortMembers m.cohortId) := by
    intro m hm
    obtain ⟨stored, hStored, rfl, hNamed⟩ := mem_cohortsOf_iff.mp hm
    exact inv.settled hStored registered hNamed
  have hBundles : ∀ m ∈ s.cohortsOf policy.row, ∀ r ∈ s.cohortMembers m.cohortId,
      s.stepsOf m.cohortId r.opportunityHash = policy.row.selectedSteps := by
    intro m hm r hr
    obtain ⟨session, documents, hComplies, hDescribes⟩ := hSettled m hm
    exact hComplies.steps hDescribes hr
  have hWindows : ∀ m ∈ s.cohortsOf policy.row, ∀ r ∈ s.cohortMembers m.cohortId,
      InWindow policy.row.toSelectionPolicyColumns m.purpose r.targetTime := by
    intro m hm r hr
    obtain ⟨session, documents, hComplies, hDescribes⟩ := hSettled m hm
    exact hComplies.inWindow hDescribes hr
  have hPolicy : ∀ m ∈ s.cohortsOf policy.row, ∀ r ∈ s.cohortMembers m.cohortId,
      r.selectionPolicyHash = policy.row.policyHash ∧ r.purpose = m.purpose := by
    intro m hm r hr
    obtain ⟨stored, hStored, rfl, hNamed⟩ := mem_cohortsOf_iff.mp hm
    obtain ⟨member, hMember, rfl, hCohort⟩ := mem_cohortMembers_iff.mp hr
    obtain ⟨-, hSelection, hPurpose⟩ :=
      inv.origin_committed hStored (live_of_committed hMember) hCohort
    exact ⟨hSelection.trans hNamed, hPurpose⟩
  -- Rows of the policy that the unique and the exclusion constraint cannot tell apart.
  have hSame : ∀ m ∈ s.cohortsOf policy.row, ∀ m' ∈ s.cohortsOf policy.row,
      ∀ r ∈ s.cohortMembers m.cohortId, ∀ r' ∈ s.cohortMembers m'.cohortId,
      r.opportunityHash = r'.opportunityHash → r.step = r'.step ∨ r.purpose ≠ r'.purpose → r = r' := by
    intro m hm m' hm' r hr r' hr' hOpportunity hEither
    have hHash := (hPolicy m hm r hr).1.trans (hPolicy m' hm' r' hr').1.symm
    obtain ⟨stored, hStored, rfl, -⟩ := mem_cohortMembers_iff.mp hr
    obtain ⟨stored', hStored', rfl, -⟩ := mem_cohortMembers_iff.mp hr'
    rcases hEither with hStep | hPurpose
    · rw [inv.members_eq hStored hStored' (Or.inr (Or.inr (Or.inl ⟨hHash, hOpportunity, hStep⟩)))]
    · rw [inv.members_eq hStored hStored' (Or.inr (Or.inr (Or.inr ⟨hHash, hOpportunity, hPurpose⟩)))]
  have hCohort : ∀ {m : ManifestRow pg} {r : MemberRow}, r ∈ s.cohortMembers m.cohortId →
      r.cohortId = m.cohortId := by
    intro m r hr
    obtain ⟨-, -, -, hCohort⟩ := mem_cohortMembers_iff.mp hr
    exact hCohort
  have hSteps : ∀ m ∈ s.cohortsOf policy.row, ∀ m' ∈ s.cohortsOf policy.row,
      ∀ r ∈ s.cohortMembers m.cohortId, ∀ r' ∈ s.cohortMembers m'.cohortId,
      r.opportunityHash = r'.opportunityHash → r.step = r'.step → m.cohortId = m'.cohortId := by
    intro m hm m' hm' r hr r' hr' hOpportunity hStep
    rw [← hCohort hr, ← hCohort hr', hSame m hm m' hm' r hr r' hr' hOpportunity (Or.inl hStep)]
  refine ⟨hSteps, ?_, ?_, hBundles, hWindows, ?_⟩
  · intro m hm m' hm' r hr r' hr' hOpportunity
    by_contra hPurpose
    have hOther : r.purpose ≠ r'.purpose := by
      rwa [(hPolicy m hm r hr).2, (hPolicy m' hm' r' hr').2]
    exact hOther (by rw [hSame m hm m' hm' r hr r' hr' hOpportunity (Or.inr hOther)])
  · intro m hm m' hm' r hr r' hr' hOpportunity
    -- The other cohort has the step of this member too, as both have all selected steps.
    have hStep : r.step ∈ s.stepsOf m'.cohortId r'.opportunityHash := by
      rw [hBundles m' hm' r' hr', ← hBundles m hm r hr]
      exact mem_stepsOf_iff.mpr ⟨r, hr, rfl, rfl⟩
    obtain ⟨other, hOther, hSameOpportunity, hSameStep⟩ := mem_stepsOf_iff.mp hStep
    exact hSteps m hm m' hm' r hr other hOther (hOpportunity.trans hSameOpportunity.symm)
      hSameStep.symm
  · intro m hm m' hm' r hr r' hr' hPurpose hDay
    exact hPurpose (inWindow_unique (hWindows m hm r hr) (hWindows m' hm' r' hr') hDay)

theorem Reachable.separated (h : Reachable s) {policy : Stored (SelectionPolicyRow pg)}
    (registered : policy ∈ committed s.fates s.selectionPolicies) : Separated s policy.row :=
  h.cohorts.separated registered

end StockApi.Evidence

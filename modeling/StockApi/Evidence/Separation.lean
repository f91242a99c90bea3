import StockApi.Evidence.Machine

/-!
# Purposes do not mix

What the validated manifests of a policy and their members look like in every reachable state: the
members of a manifest are its documents in order, each opportunity with the selected steps, each
target in the window of the purpose.
-/

namespace StockApi.Evidence

open Checked Jsonb JsonText Mvcc Postgres Relational Relation

variable {pg : Postgres}

/-! ## What the triggers establish -/

theorem castText_eq_ok {α : Type} {cast : String → Option α} {e : SqlError} {text : Option String}
    {value : α} : castText cast e text = .ok (some value) ↔ ∃ t, text = some t ∧ cast t = some value := by
  cases text with
  | none => simp [castText]
  | some t =>
    cases h : cast t with
    | none => simp [castText, h, orRefuse, Except.map]
    | some a => simp [castText, h, orRefuse, Except.map]

theorem Purpose.eq_name_of_ofName {name : String} {purpose : Purpose} (h : Purpose.ofName name = some purpose) :
    name = purpose.name := by
  unfold Purpose.ofName at h
  split_ifs at h with hFit hHeldout
  · cases h
    exact hFit
  · cases h
    exact hHeldout

theorem Purpose.ofName_name (purpose : Purpose) : Purpose.ofName purpose.name = some purpose := by
  cases purpose <;> rfl

/-- The documents of a manifest against a policy. -/
structure Complies (session : pg.Session) (policy : SelectionPolicyRow pg) (purpose : Option String)
    (documents : List Value) : Prop where
  window : ∃ targets, documents.mapM (memberTargetTime session) = .ok targets ∧
    ∀ t ∈ targets, ¬ OutsideWindow policy purpose t
  bundles : ∃ bundles, documents.mapM (memberBundle pg) = .ok bundles ∧ CompleteBundles policy bundles

theorem complies_of_validated {session : pg.Session} {policies : List (SelectionPolicyRow pg)}
    {runs : List (RunRow pg)} {snapshots : List SnapshotRow} {draft : ManifestDraft}
    (h : validateForecastCohortSelectionPolicy session policies runs snapshots draft = .ok ⟨⟩) :
    ∃ policy ∈ policies, some policy.policyHash = draft.selectionPolicyHash ∧
      ∀ documents, arrayElements (get (Jsonb.read draft.canonicalManifest) "members") = .ok documents →
        Complies session policy draft.purpose documents := by
  rw [validateForecastCohortSelectionPolicy, bind_eq_ok_iff] at h
  obtain ⟨policy, hFind, h⟩ := h
  rw [orRefuse_eq_ok_iff] at hFind
  rw [refuseIf_bind_eq_ok_iff, bind_eq_ok_iff] at h
  obtain ⟨-, manifest, hRead, h⟩ := h
  rw [bind_eq_ok_iff] at h
  obtain ⟨document, -, h⟩ := h
  rw [bind_eq_ok_iff] at h
  obtain ⟨members, hMembers, h⟩ := h
  rw [bind_eq_ok_iff] at h
  obtain ⟨targets, hTargets, h⟩ := h
  rw [refuseIf_bind_eq_ok_iff, bind_eq_ok_iff] at h
  obtain ⟨hWindow, bundles, hBundles, h⟩ := h
  rw [refuseIf_bind_eq_ok_iff] at h
  obtain ⟨hComplete, -⟩ := h
  refine ⟨policy, List.mem_of_find?_eq_some hFind, by simpa using List.find?_some hFind, ?_⟩
  intro documents hDocuments
  rw [orRefuse_eq_ok_iff] at hRead
  rw [hRead, hMembers] at hDocuments
  cases hDocuments
  refine ⟨⟨targets, hTargets, ?_⟩, bundles, hBundles, not_not.mp hComplete⟩
  exact fun t hMem hOutside => hWindow ⟨t, hMem, hOutside⟩

theorem ManifestDraft.toRow_eq_ok {draft : ManifestDraft} {row : ManifestRow pg}
    (h : draft.toRow = .ok row) : draft.selectionPolicyHash = some row.selectionPolicyHash ∧
      draft.purpose = some row.purpose.name ∧ row.canonicalManifest = draft.canonicalManifest ∧
      row.recordedAt = draft.recordedAt ∧ row.creatorXid = draft.creatorXid := by
  rw [ManifestDraft.toRow] at h
  simp only [notNull, bind_eq_ok_iff, orRefuse_eq_ok_iff] at h
  obtain ⟨selection, hSelection, outcome, -, availability, -, name, hName, earliest, -, latest, -,
    purpose, hPurpose, h⟩ := h
  split at h
  · cases h
    rw [Purpose.eq_name_of_ofName hPurpose] at hName
    exact ⟨hSelection, hName, rfl, rfl, rfl⟩
  · cases h

/-- The document that a member row was made of. -/
structure Describes (session : pg.Session) (document : Value) (row : MemberRow) : Prop where
  target : memberTargetTime session document = .ok (some row.targetTime)
  step : memberStep pg document = .ok (some row.step)
  opportunity : getText (some document) "opportunity_hash" = some row.opportunityHash

theorem describes_of_proposed {session : pg.Session} {manifest : ManifestRow pg} {document : Value}
    {draft : MemberDraft} {row : MemberRow} (proposed : proposeMember session manifest document = .ok draft)
    (checked : draft.toRow = .ok row) : Describes session document row ∧
      row.cohortId = manifest.cohortId ∧ row.selectionPolicyHash = manifest.selectionPolicyHash ∧
      row.purpose = manifest.purpose := by
  rw [proposeMember] at proposed
  simp only [bind_eq_ok_iff, pure_eq_ok] at proposed
  obtain ⟨forecastId, -, step, hStep, target, hTarget, proposed⟩ := proposed
  cases proposed
  rw [MemberDraft.toRow] at checked
  simp only [notNull, bind_eq_ok_iff, orRefuse_eq_ok_iff] at checked
  obtain ⟨forecast, -, ownStep, hOwnStep, ownTarget, hOwnTarget, opportunity, hOpportunity, output, -,
    checked⟩ := checked
  split at checked
  · cases checked
    subst hOwnStep hOwnTarget
    refine ⟨⟨?_, ?_, hOpportunity⟩, rfl, rfl, rfl⟩
    · exact castText_eq_ok.mpr (castText_eq_ok.mp hTarget)
    · exact castText_eq_ok.mpr (castText_eq_ok.mp hStep)
  · cases checked

/-! ## Documents and rows -/

theorem bundles_of_describes {session : pg.Session} {documents : List Value} {rows : List MemberRow}
    (describes : List.Forall₂ (Describes session) documents rows) :
    documents.mapM (memberBundle pg) = .ok (rows.map fun r => (some r.opportunityHash, some r.step)) := by
  apply mapM_of_forall₂
  rw [List.forall₂_map_right_iff]
  refine describes.imp fun document row h => ?_
  rw [memberBundle, h.step, ok_bind, h.opportunity]
  rfl

theorem opportunitySteps_map {α : Type} (opportunityHash : α → String) (step : α → Int) (rows : List α)
    (opportunity : String) :
    opportunitySteps (rows.map fun r => (some (opportunityHash r), some (step r))) (some opportunity) =
      some (((rows.filter fun r => decide (opportunityHash r = opportunity)).map step).insertionSort
        (· ≤ ·)) := by
  have hSteps : ∀ steps : List Int, (steps.map some).mapM id = some steps := by
    intro steps
    induction steps with
    | nil => rfl
    | cons s rest ih => simp [List.mapM_cons, ih]
  have hFilter : (((rows.map fun r => (some (opportunityHash r), some (step r))).filter
      fun b : Option String × Option Int => decide (b.1 = some opportunity)).map Prod.snd) =
      ((rows.filter fun r => decide (opportunityHash r = opportunity)).map step).map some := by
    rw [List.filter_map, List.map_map, List.map_map]
    simp only [Function.comp_def, Option.some.injEq]
  rw [opportunitySteps, hFilter, hSteps, Option.map_some]

variable {session : pg.Session} {policy : SelectionPolicyRow pg} {documents : List Value}
  {rows : List MemberRow}

/-- Every opportunity of a complying manifest has the selected steps. -/
theorem Complies.steps {purpose : Option String} (complies : Complies session policy purpose documents)
    (describes : List.Forall₂ (Describes session) documents rows) {row : MemberRow} (h : row ∈ rows) :
    ((rows.filter fun r => decide (r.opportunityHash = row.opportunityHash)).map
      fun r => r.step).insertionSort (· ≤ ·) = policy.selectedSteps := by
  obtain ⟨bundles, hBundles, hComplete⟩ := complies.bundles
  rw [bundles_of_describes describes] at hBundles
  cases hBundles
  have hSteps := hComplete (some row.opportunityHash, some row.step)
    (List.mem_map.mpr ⟨row, h, rfl⟩)
  rw [opportunitySteps_map fun r : MemberRow => r.opportunityHash] at hSteps
  exact Option.some.inj hSteps

/-- The target of a member of a purpose, against the windows of the policy. -/
def InWindow (policy : SelectionPolicyColumns) (purpose : Purpose) (target : Int) : Prop :=
  match purpose with
  | .calibrationFit =>
    (policy.fitWindowStart.days : Int) ≤ utcDay target ∧ utcDay target ≤ policy.fitWindowEnd.days
  | .heldoutEvaluation =>
    (policy.heldoutWindowStart.days : Int) ≤ utcDay target ∧
      utcDay target ≤ policy.heldoutWindowEnd.days

theorem outsideWindow_iff {purpose : Purpose} {target : Int} :
    OutsideWindow policy (some purpose.name) (some target) ↔
      ¬ InWindow policy.toSelectionPolicyColumns purpose target := by
  rw [OutsideWindow, Option.bind_some, Purpose.ofName_name]
  cases purpose <;> simp [InWindow]

theorem Complies.inWindow {purpose : Purpose}
    (complies : Complies session policy (some purpose.name) documents)
    (describes : List.Forall₂ (Describes session) documents rows) {row : MemberRow} (h : row ∈ rows) :
    InWindow policy.toSelectionPolicyColumns purpose row.targetTime := by
  obtain ⟨targets, hTargets, hInside⟩ := complies.window
  have hRows : documents.mapM (memberTargetTime session) = .ok (rows.map fun r => some r.targetTime) := by
    apply mapM_of_forall₂
    rw [List.forall₂_map_right_iff]
    exact describes.imp fun document row h => h.target
  rw [hRows] at hTargets
  cases hTargets
  have hOutside := hInside (some row.targetTime) (List.mem_map.mpr ⟨row, h, rfl⟩)
  rw [outsideWindow_iff] at hOutside
  exact not_not.mp hOutside

/-! ## The invariant -/

/-- The members of a manifest that its own transaction has inserted. -/
def State.membersOf (s : State pg) (m : Stored (ManifestRow pg)) : List MemberRow :=
  (s.members.filter fun r => decide (r.creator = m.creator ∧ r.row.cohortId = m.row.cohortId)).map
    Stored.row

/-- The manifest and the documents that a transaction is taking apart. -/
def Work.materialized : Work pg → Option (pg.Session × ManifestRow pg × List Value)
  | .materializing session manifest remaining => some (session, manifest, remaining)
  | _ => none

/-- What is left of a manifest to be materialized. -/
def Remaining (work : Work pg) (session : pg.Session) (manifest : ManifestRow pg) (remaining : List Value) :
    Prop :=
  (remaining = [] ∧ ∀ w, work.materialized = some w → w.2.1.cohortId ≠ manifest.cohortId ∨ w.2.2 = []) ∨
    work.materialized = some (session, manifest, remaining)

/-- A manifest, the policy it complies with, and its members so far. -/
structure Materialized (s : State pg) (m : Stored (ManifestRow pg)) (session : pg.Session)
    (policy : SelectionPolicyRow pg) (done remaining : List Value) : Prop where
  known : Known s.fates m.creator s.selectionPolicies policy
  named : policy.policyHash = m.row.selectionPolicyHash
  complies : Complies session policy (some m.row.purpose.name) (done ++ remaining)
  members : List.Forall₂ (Describes session) done (s.membersOf m)
  rest : Remaining (s.work m.creator) session m.row remaining

/-- A draft that complies with a policy its transaction may rely on. -/
def Validated (s : State pg) (x : Nat) (session : pg.Session) (draft : ManifestDraft) : Prop :=
  ∃ policy, Known s.fates x s.selectionPolicies policy ∧
    some policy.policyHash = draft.selectionPolicyHash ∧
    ∀ documents, arrayElements (get (Jsonb.read draft.canonicalManifest) "members") = .ok documents →
      Complies session policy draft.purpose documents

structure Cohorts (s : State pg) : Prop where
  policies : Excludes SelectionPolicyRow.Conflicts s.fates s.selectionPolicies
  manifests : Excludes ManifestRow.Conflicts s.fates s.manifests
  members : Excludes MemberRow.Conflicts s.fates s.members
  origin : ∀ r ∈ live s.fates s.members, ∃ m ∈ s.manifests, m.creator = r.creator ∧
    m.row.cohortId = r.row.cohortId ∧ m.row.selectionPolicyHash = r.row.selectionPolicyHash ∧
    m.row.purpose = r.row.purpose
  materialized : ∀ m ∈ live s.fates s.manifests, ∃ session policy done remaining,
    Materialized s m session policy done remaining
  validated : ∀ x session draft, s.work x = .manifestValidated session draft → Validated s x session draft
  materializing : ∀ x session manifest remaining, s.work x = .materializing session manifest remaining →
    ⟨x, manifest⟩ ∈ s.manifests
  resting : ∀ x, s.fates x ≠ .active → s.work x = .idle

theorem cohorts_initial (clock : Int) : Cohorts (State.initial pg clock) where
  policies := excludes_nil
  manifests := excludes_nil
  members := excludes_nil
  origin := by simp [State.initial, live]
  materialized := by simp [State.initial, live]
  validated := by simp [State.initial]
  materializing := by simp [State.initial]
  resting := by simp [State.initial]

/-- No manifest is being taken apart. -/
def Work.Plain (work : Work pg) : Prop := work.materialized = none

/-- Nothing is left of the manifest. -/
def Work.Settled : Work pg → Prop
  | .materializing _ _ remaining => remaining = []
  | _ => True

theorem Remaining.of_plain {work work' : Work pg} {session : pg.Session} {manifest : ManifestRow pg}
    {remaining : List Value} (h : Remaining work session manifest remaining) (settled : work.Settled)
    (plain : work'.Plain) : Remaining work' session manifest remaining := by
  have hRemaining : remaining = [] := by
    rcases h with ⟨hEmpty, -⟩ | hWork
    · exact hEmpty
    · cases work with
      | materializing _ _ rest =>
        cases hWork
        exact settled
      | _ => cases hWork
  refine Or.inl ⟨hRemaining, fun w hWork => ?_⟩
  rw [plain] at hWork
  cases hWork

/-- Steps that write neither manifests nor members keep the invariant. -/
theorem Cohorts.frame {s t : State pg} (inv : Cohorts s) (progress : Progress s.fates t.fates)
    (manifests : t.manifests = s.manifests) (members : t.members = s.members)
    (grows : s.selectionPolicies ⊆ t.selectionPolicies)
    (policies : Excludes SelectionPolicyRow.Conflicts t.fates t.selectionPolicies)
    (work : ∀ x, t.work x = s.work x ∨ (t.work x).Plain ∧ ((s.work x).Settled ∨ t.fates x = .aborted) ∧
      ∀ session draft, t.work x = .manifestValidated session draft → Validated t x session draft)
    (resting : ∀ x, t.fates x ≠ .active → t.work x = .idle) : Cohorts t := by
  have hSublist : ∀ {α : Type} (table : Table α), live t.fates table ⊆ live s.fates table :=
    fun table => (live_sublist progress table).subset
  refine ⟨policies, ?_, ?_, ?_, ?_, ?_, ?_, resting⟩
  · rw [manifests]
    exact inv.manifests.progress progress
  · rw [members]
    exact inv.members.progress progress
  · rw [manifests, members]
    exact fun r hr => inv.origin r (hSublist _ hr)
  · intro m hm
    rw [manifests] at hm
    obtain ⟨session, policy, done, remaining, h⟩ := inv.materialized m (hSublist _ hm)
    refine ⟨session, policy, done, remaining, h.known.mono progress grows, h.named, h.complies, ?_, ?_⟩
    · rw [State.membersOf, members]
      exact h.members
    · rcases work m.creator with hSame | ⟨hPlain, hSettled | hAborted, -⟩
      · rw [hSame]
        exact h.rest
      · exact h.rest.of_plain hSettled hPlain
      · exact absurd hAborted (mem_live_iff.mp hm).2
  · intro x session draft hWork
    rcases work x with hSame | ⟨-, -, hValidated⟩
    · obtain ⟨policy, hKnown, hRest⟩ := inv.validated x session draft (hSame ▸ hWork)
      exact ⟨policy, hKnown.mono progress grows, hRest⟩
    · exact hValidated session draft hWork
  · intro x session manifest remaining hWork
    rw [manifests]
    rcases work x with hSame | ⟨hPlain, -⟩
    · exact inv.materializing x session manifest remaining (hSame ▸ hWork)
    · rw [hWork] at hPlain
      cases hPlain

/-! ## Steps -/

variable {s : State pg} {x : Nat}

/-- A statement of one transaction that writes neither manifests nor members. -/
theorem Cohorts.setWork (inv : Cohorts s) {t : State pg} {work : Work pg}
    (works : t.work = Function.update s.work x work) (active : s.fates x = .active)
    (settled : (s.work x).Settled) (plain : work.Plain)
    (validated : ∀ session draft, work = .manifestValidated session draft → Validated t x session draft)
    (clock : t.fates = s.fates) (manifests : t.manifests = s.manifests) (members : t.members = s.members)
    (policies : t.selectionPolicies = s.selectionPolicies) : Cohorts t := by
  refine inv.frame ?_ manifests members ?_ ?_ ?_ ?_
  · rw [clock]
    exact Progress.refl _
  · rw [policies]
    exact List.Subset.refl _
  · rw [clock, policies]
    exact inv.policies
  · intro y
    rw [works]
    by_cases hOwn : y = x
    · subst hOwn
      rw [Function.update_self]
      exact Or.inr ⟨plain, Or.inl settled, validated⟩
    · rw [Function.update_of_ne hOwn]
      exact Or.inl rfl
  · intro y hRest
    rw [clock] at hRest
    have hOther : y ≠ x := by
      rintro rfl
      exact hRest active
    rw [works, Function.update_of_ne hOther]
    exact inv.resting y hRest

theorem settled_of_idle {work : Work pg} (h : work = .idle) : work.Settled := by
  rw [h]
  trivial

/-- A statement after which the transaction is idle as before. -/
theorem Cohorts.same (inv : Cohorts s) {t : State pg} (clock : t.fates = s.fates) (works : t.work = s.work)
    (manifests : t.manifests = s.manifests) (members : t.members = s.members)
    (grows : s.selectionPolicies ⊆ t.selectionPolicies)
    (policies : Excludes SelectionPolicyRow.Conflicts t.fates t.selectionPolicies) : Cohorts t := by
  refine inv.frame ?_ manifests members grows policies ?_ ?_
  · rw [clock]
    exact Progress.refl _
  · exact fun y => Or.inl (congrFun works y)
  · intro y hRest
    rw [clock] at hRest
    rw [works]
    exact inv.resting y hRest

theorem Cohorts.begin (inv : Cohorts s) (fresh : s.fates x = .fresh) :
    Cohorts { s with fates := Function.update s.fates x .active } := by
  refine inv.frame (progress_update (Or.inr fresh)) rfl rfl (List.Subset.refl _) ?_
    (fun y => Or.inl rfl) ?_
  · exact inv.policies.progress (progress_update (Or.inr fresh))
  · intro y hRest
    by_cases hOwn : y = x
    · subst hOwn
      exact inv.resting y (by rw [fresh]; decide)
    · exact inv.resting y (by simpa [Function.update_of_ne hOwn] using hRest)

theorem Cohorts.commit (inv : Cohorts s) (active : s.fates x = .active) (idle : s.work x = .idle) :
    Cohorts { s with fates := Function.update s.fates x .committed } := by
  refine inv.frame (progress_update (Or.inl active)) rfl rfl (List.Subset.refl _) ?_
    (fun y => Or.inl rfl) ?_
  · exact inv.policies.progress (progress_update (Or.inl active))
  · intro y hRest
    by_cases hOwn : y = x
    · subst hOwn
      exact idle
    · exact inv.resting y (by simpa [Function.update_of_ne hOwn] using hRest)

theorem Cohorts.abort (inv : Cohorts s) (active : s.fates x = .active) :
    Cohorts { s.setWork x .idle with fates := Function.update s.fates x .aborted } := by
  refine inv.frame (progress_update (Or.inl active)) rfl rfl (List.Subset.refl _) ?_ ?_ ?_
  · exact inv.policies.progress (progress_update (Or.inl active))
  · intro y
    by_cases hOwn : y = x
    · subst hOwn
      simp [State.setWork, Work.Plain, Work.materialized]
    · simp [State.setWork, Function.update_of_ne hOwn]
  · intro y hRest
    by_cases hOwn : y = x
    · subst hOwn
      simp [State.setWork]
    · have hBefore : s.fates y ≠ .active := by simpa [Function.update_of_ne hOwn] using hRest
      simpa [State.setWork, Function.update_of_ne hOwn] using inv.resting y hBefore

theorem Cohorts.insertManifest (inv : Cohorts s) (active : s.fates x = .active) {session : pg.Session}
    {draft : ManifestDraft} (work : s.work x = .manifestValidated session draft)
    {row : ManifestRow pg} (checked : draft.toRow = .ok row)
    (free : Free ManifestRow.Conflicts s.fates s.manifests row) {documents : List Value}
    (read : arrayElements (get (Jsonb.read row.canonicalManifest) "members") = .ok documents) :
    Cohorts { s.setWork x (.materializing session row documents) with
      manifests := s.manifests ++ [⟨x, row⟩] } := by
  obtain ⟨hSelection, hPurpose, hBytes, -⟩ := ManifestDraft.toRow_eq_ok checked
  have hOld : ∀ y, y ≠ x → Function.update s.work x (.materializing session row documents) y = s.work y :=
    fun y hOther => Function.update_of_ne hOther _ _
  refine ⟨inv.policies, inv.manifests.insert free, inv.members, ?_, ?_, ?_, ?_, ?_⟩
  case refine_1 =>
    intro r hr
    obtain ⟨m, hm, hSame⟩ := inv.origin r hr
    exact ⟨m, List.mem_append_left _ hm, hSame⟩
  case refine_2 =>
    intro m hm
    obtain ⟨hMem, hAlive⟩ := mem_live_iff.mp hm
    rcases List.mem_append.mp hMem with hMem | hMem
    · have hLive := mem_live_iff.mpr ⟨hMem, hAlive⟩
      obtain ⟨own, policy, done, remaining, h⟩ := inv.materialized m hLive
      refine ⟨own, policy, done, remaining, h.known, h.named, h.complies, h.members, ?_⟩
      by_cases hOwn : m.creator = x
      · have hRest := h.rest
        rw [hOwn, work] at hRest
        rcases hRest with ⟨hEmpty, -⟩ | hWork
        · refine Or.inl ⟨hEmpty, fun w hw => Or.inl ?_⟩
          simp only [State.setWork, hOwn, Function.update_self, Work.materialized,
            Option.some.injEq] at hw
          rw [← hw]
          exact fun hSame => free m hLive hSame.symm
        · cases hWork
      · have hRest := h.rest
        rw [← hOld m.creator hOwn] at hRest
        exact hRest
    · rw [List.mem_singleton.mp hMem]
      obtain ⟨policy, hKnown, hNamed, hComplies⟩ := inv.validated x session draft work
      rw [hSelection, Option.some.injEq] at hNamed
      refine ⟨session, policy, [], documents, hKnown, hNamed, ?_, ?_, Or.inr ?_⟩
      · rw [List.nil_append, ← hPurpose]
        exact hComplies documents (hBytes ▸ read)
      · have hNone : (s.members.filter fun r =>
            decide (r.creator = x ∧ r.row.cohortId = row.cohortId)) = [] := by
          rw [List.filter_eq_nil_iff]
          intro r hr hSame
          obtain ⟨hCreator, hCohort⟩ := of_decide_eq_true hSame
          have hAliveRow : s.fates r.creator ≠ .aborted := by rw [hCreator, active]; decide
          obtain ⟨m, hm, hmCreator, hmCohort, -⟩ := inv.origin r (mem_live_iff.mpr ⟨hr, hAliveRow⟩)
          exact free m (mem_live_iff.mpr ⟨hm, hmCreator ▸ hAliveRow⟩) (hmCohort.trans hCohort)
        simp only [State.membersOf, State.setWork, hNone, List.map_nil]
        exact .nil
      · simp [State.setWork, Work.materialized]
  case refine_3 =>
    intro y own other hWork
    by_cases hOwn : y = x
    · subst hOwn
      simp [State.setWork] at hWork
    · simp only [State.setWork] at hWork
      rw [hOld y hOwn] at hWork
      exact inv.validated y own other hWork
  case refine_4 =>
    intro y own manifest remaining hWork
    by_cases hOwn : y = x
    · subst hOwn
      simp only [State.setWork, Function.update_self, Work.materializing.injEq] at hWork
      rw [← hWork.2.1]
      exact List.mem_append_right _ (List.mem_singleton.mpr rfl)
    · simp only [State.setWork] at hWork
      rw [hOld y hOwn] at hWork
      exact List.mem_append_left _ (inv.materializing y own manifest remaining hWork)
  case refine_5 =>
    intro y hRest
    have hOther : y ≠ x := by
      rintro rfl
      exact hRest active
    simp only [State.setWork]
    rw [hOld y hOther]
    exact inv.resting y hRest

section Insertion

variable {t : State pg} {row : MemberRow} {m : Stored (ManifestRow pg)}

theorem membersOf_own (inserted : t.members = s.members ++ [⟨x, row⟩])
    (own : x = m.creator ∧ row.cohortId = m.row.cohortId) : t.membersOf m = s.membersOf m ++ [row] := by
  rw [State.membersOf, inserted, List.filter_append, List.map_append,
    List.filter_cons_of_pos (by simpa using own)]
  rfl

theorem membersOf_other (inserted : t.members = s.members ++ [⟨x, row⟩])
    (other : ¬ (x = m.creator ∧ row.cohortId = m.row.cohortId)) : t.membersOf m = s.membersOf m := by
  rw [State.membersOf, inserted, List.filter_append, List.map_append,
    List.filter_cons_of_neg (by simpa using other), List.filter_nil, List.map_nil, List.append_nil]
  rfl

end Insertion

/-- A row goes to one manifest, the one that its transaction is taking apart. -/
theorem Cohorts.insertMember (inv : Cohorts s) (active : s.fates x = .active) {session : pg.Session}
    {manifest : ManifestRow pg} {document : Value} {rest : List Value}
    (work : s.work x = .materializing session manifest (document :: rest)) {draft : MemberDraft}
    (proposed : proposeMember session manifest document = .ok draft) {row : MemberRow}
    (checked : draft.toRow = .ok row) (free : Free MemberRow.Conflicts s.fates s.members row) :
    Cohorts { s.setWork x (.materializing session manifest rest) with
      members := s.members ++ [⟨x, row⟩] } := by
  obtain ⟨hDescribes, hCohort, hPolicy, hPurpose⟩ := describes_of_proposed proposed checked
  have hManifest := inv.materializing x session manifest _ work
  have hOld : ∀ y, y ≠ x → Function.update s.work x (.materializing session manifest rest) y = s.work y :=
    fun y hOther => Function.update_of_ne hOther _ _
  refine ⟨inv.policies, inv.manifests, inv.members.insert free, ?_, ?_, ?_, ?_, ?_⟩
  case refine_1 =>
    intro r hr
    obtain ⟨hMem, hAlive⟩ := mem_live_iff.mp hr
    rcases List.mem_append.mp hMem with hMem | hMem
    · exact inv.origin r (mem_live_iff.mpr ⟨hMem, hAlive⟩)
    · rw [List.mem_singleton.mp hMem]
      exact ⟨_, hManifest, rfl, hCohort.symm, hPolicy.symm, hPurpose.symm⟩
  case refine_2 =>
    intro m hm
    obtain ⟨own, policy, done, remaining, h⟩ := inv.materialized m hm
    by_cases hOwn : m.creator = x
    · have hRest := h.rest
      rw [hOwn, work] at hRest
      rcases hRest with ⟨hEmpty, hOther⟩ | hWork
      · have hDifferent : manifest.cohortId ≠ m.row.cohortId := by
          rcases hOther _ rfl with hDifferent | hNone
          · exact hDifferent
          · cases hNone
        refine ⟨own, policy, done, remaining, h.known, h.named, h.complies, ?_, Or.inl ⟨hEmpty, ?_⟩⟩
        · rw [membersOf_other rfl (by simp [hCohort, hDifferent])]
          exact h.members
        · intro w hw
          simp only [State.setWork, hOwn, Function.update_self, Work.materialized,
            Option.some.injEq] at hw
          rw [← hw]
          exact Or.inl hDifferent
      · simp only [Work.materialized, Option.some.injEq, Prod.mk.injEq] at hWork
        obtain ⟨rfl, hRow, rfl⟩ := hWork
        refine ⟨session, policy, done ++ [document], rest, h.known, h.named, ?_, ?_, Or.inr ?_⟩
        · simpa using h.complies
        · rw [membersOf_own rfl ⟨hOwn.symm, by rw [hCohort, hRow]⟩]
          exact List.rel_append h.members (.cons hDescribes .nil)
        · simp [State.setWork, hOwn, Work.materialized, hRow]
    · refine ⟨own, policy, done, remaining, h.known, h.named, h.complies, ?_, ?_⟩
      · rw [membersOf_other rfl (by simp [Ne.symm hOwn])]
        exact h.members
      · have hRest := h.rest
        rw [← hOld m.creator hOwn] at hRest
        exact hRest
  case refine_3 =>
    intro y own other hWork
    by_cases hOwn : y = x
    · subst hOwn
      simp [State.setWork] at hWork
    · simp only [State.setWork] at hWork
      rw [hOld y hOwn] at hWork
      exact inv.validated y own other hWork
  case refine_4 =>
    intro y own other remaining hWork
    by_cases hOwn : y = x
    · subst hOwn
      simp only [State.setWork, Function.update_self, Work.materializing.injEq] at hWork
      rw [← hWork.2.1]
      exact hManifest
    · simp only [State.setWork] at hWork
      rw [hOld y hOwn] at hWork
      exact inv.materializing y own other remaining hWork
  case refine_5 =>
    intro y hRest
    have hOther : y ≠ x := by
      rintro rfl
      exact hRest active
    simp only [State.setWork]
    rw [hOld y hOther]
    exact inv.resting y hRest

theorem cohorts_step (s t : State pg) (inv : Cohorts s) (step : Step s t) : Cohorts t := by
  cases step with
  | begin _ fresh => exact inv.begin fresh
  | tick _ => exact inv.same rfl rfl rfl rfl (List.Subset.refl _) inv.policies
  | commit active idle => exact inv.commit active idle
  | abort active => exact inv.abort active
  | writeBars _ => exact inv.same rfl rfl rfl rfl (List.Subset.refl _) inv.policies
  | registerOutcomePolicy _ _ _ _ => exact inv.same rfl rfl rfl rfl (List.Subset.refl _) inv.policies
  | registerSelectionPolicy _ _ _ _ _ free =>
    exact inv.same rfl rfl rfl rfl (List.subset_append_left _ _) (inv.policies.insert free)
  | insertSnapshot _ _ _ _ => exact inv.same rfl rfl rfl rfl (List.Subset.refl _) inv.policies
  | insertRun _ _ _ _ _ _ => exact inv.same rfl rfl rfl rfl (List.Subset.refl _) inv.policies
  | stampManifest active idle _ =>
    exact inv.setWork rfl active (settled_of_idle idle) rfl (by simp) rfl rfl rfl rfl
  | validateManifest active work ofPolicies ofRuns validated =>
    refine inv.setWork rfl active ?_ rfl ?_ rfl rfl rfl rfl
    · rw [work]
      trivial
    · intro own other hWork
      cases hWork
      obtain ⟨policy, hMem, hNamed, hComplies⟩ := complies_of_validated validated
      exact ⟨policy, known_of_visible ofPolicies hMem, hNamed, hComplies⟩
  | insertManifest active work checked free _ _ read =>
    exact inv.insertManifest active work checked free read
  | insertMember active work proposed _ _ checked free =>
    exact inv.insertMember active work proposed checked free
  | finishManifest active work =>
    refine inv.setWork rfl active ?_ rfl (by simp) rfl rfl rfl rfl
    rw [work]
    rfl
  | sealCohort _ _ _ _ _ _ => exact inv.same rfl rfl rfl rfl (List.Subset.refl _) inv.policies
  | callPublisher active idle _ _ =>
    exact inv.setWork rfl active (settled_of_idle idle) rfl (by simp) rfl rfl rfl rfl
  | stampOutcome active work _ | storeOutcome active work _ _ _ _ | keepOutcome active work _ _ _ _ _ _
  | publish active work _ _ _ | alreadyPublished active work _ _ _ =>
    refine inv.setWork rfl active ?_ rfl (by simp) rfl rfl rfl rfl
    rw [work]
    trivial

theorem Reachable.cohorts (h : Reachable s) : Cohorts s := by
  obtain ⟨clock, run⟩ := h
  exact invariant_of_run cohorts_step run (cohorts_initial clock)

end StockApi.Evidence

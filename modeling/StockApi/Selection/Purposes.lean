import Mathlib.Data.List.Sort
import Mathlib.Data.String.Basic
import StockApi.Evidence.Rows
import StockApi.Library.Timestamp
import StockApi.Selection.Codec

/-!
# Purposes of candidates

`purpose_for_target_time` and `assign_selection_purposes`: the planner gives every candidate the purpose
of its target date and accepts complete bundles only.
-/

namespace StockApi.Selection

open Checked CivilTime Documents Evidence Text

/-- `ForecastSelectionCandidate`. -/
structure ForecastSelectionCandidate where
  opportunityHash : String
  step : Int
  targetTime : Instant
  isHash : IsHash opportunityHash
  stepBounds : 1 ≤ step ∧ step ≤ 252
deriving DecidableEq

/-- What the candidates of a call must not share. -/
def ForecastSelectionCandidate.key (c : ForecastSelectionCandidate) : String × Int :=
  (c.opportunityHash, c.step)

/-- `ForecastPurposeAssignment`. -/
structure ForecastPurposeAssignment where
  candidate : ForecastSelectionCandidate
  purpose : Purpose
  selectionPolicyHash : String
deriving DecidableEq

/-- The order in which the assignments are returned. -/
def ForecastPurposeAssignment.Before (a b : ForecastPurposeAssignment) : Prop :=
  a.candidate.targetTime < b.candidate.targetTime ∨
    a.candidate.targetTime = b.candidate.targetTime ∧
      (a.candidate.opportunityHash < b.candidate.opportunityHash ∨
        a.candidate.opportunityHash = b.candidate.opportunityHash ∧
          a.candidate.step ≤ b.candidate.step)

instance (a b : ForecastPurposeAssignment) : Decidable (a.Before b) :=
  inferInstanceAs (Decidable (_ ∨ _))

variable (floats : FloatText) (sha256 : Bytes → String) (p : ProspectiveForecastSelectionPolicy)

/-- `selection_policy_hash_for`. -/
def selectionPolicyHashFor : Except String String := do
  return sha256 (← canonicalSelectionPolicy floats p)

def purposeForTargetTime (targetTime : Instant) : Option Purpose :=
  let date := targetTime.date
  if p.fitWindow.start ≤ date ∧ date ≤ p.fitWindow.last then some .calibrationFit
  else if p.heldoutWindow.start ≤ date ∧ date ≤ p.heldoutWindow.last then some .heldoutEvaluation
  else none

/-- The variables of the loop. -/
structure Planned where
  assignments : List ForecastPurposeAssignment
  keys : Finset (String × Int)
  stepsByOpportunity : List (String × Finset Int)
  purposeByOpportunity : List (String × Purpose)

def Planned.start : Planned := ⟨[], ∅, [], []⟩

/-- One round of the loop. -/
def assignCandidate (policyHash : String) (planned : Planned) (c : ForecastSelectionCandidate) :
    Except String Planned := do
  refuseIf (c.step ∉ p.selectedSteps) "candidate step is not selected by the policy"
  let purpose ← orRefuse (purposeForTargetTime p c.targetTime)
    "candidate target is outside the prospective policy windows"
  let priorPurpose := (planned.purposeByOpportunity.lookup c.opportunityHash).getD purpose
  refuseIf (priorPurpose ≠ purpose) "one forecast opportunity cannot cross fit and held-out purposes"
  refuseIf (c.key ∈ planned.keys) "selection candidates contain a duplicate opportunity step"
  let steps := (planned.stepsByOpportunity.lookup c.opportunityHash).getD ∅
  return {
    assignments := planned.assignments ++ [⟨c, purpose, policyHash⟩]
    keys := insert c.key planned.keys
    stepsByOpportunity :=
      Dict.insert c.opportunityHash (insert c.step steps) planned.stepsByOpportunity
    purposeByOpportunity :=
      Dict.insert c.opportunityHash priorPurpose planned.purposeByOpportunity }

def assignSelectionPurposes (candidates : List ForecastSelectionCandidate) :
    Except String (List ForecastPurposeAssignment) := do
  refuseIf (¬ (1 ≤ candidates.length ∧ candidates.length ≤ 1000000))
    "selection candidates must be a nonempty bounded tuple"
  let policyHash ← selectionPolicyHashFor floats sha256 p
  let planned ← candidates.foldlM (assignCandidate p policyHash) Planned.start
  refuseIf (∃ e ∈ planned.stepsByOpportunity, e.2 ≠ p.selectedSteps.toFinset)
    "each forecast opportunity must provide exactly all selected steps"
  return planned.assignments.insertionSort ForecastPurposeAssignment.Before

/-! ## The loop -/

variable {p} {policyHash : String} {planned : Planned} {done : List ForecastSelectionCandidate}
  {c : ForecastSelectionCandidate}

/-- The purpose of a candidate in a window. -/
def purposeOf (p : ProspectiveForecastSelectionPolicy) (c : ForecastSelectionCandidate) : Purpose :=
  (purposeForTargetTime p c.targetTime).getD .calibrationFit

/-- The steps of an opportunity among the candidates. -/
def stepsAmong (candidates : List ForecastSelectionCandidate) (opportunityHash : String) : List Int :=
  (candidates.filter fun c => decide (c.opportunityHash = opportunityHash)).map
    ForecastSelectionCandidate.step

/-- What the variables hold after some candidates. -/
structure Planned.Holds (p : ProspectiveForecastSelectionPolicy) (policyHash : String)
    (done : List ForecastSelectionCandidate) (planned : Planned) : Prop where
  assignments : planned.assignments = done.map fun c => ⟨c, purposeOf p c, policyHash⟩
  keys : ∀ k, k ∈ planned.keys ↔ k ∈ done.map ForecastSelectionCandidate.key
  distinct : (planned.stepsByOpportunity.map Prod.fst).Nodup
  steps : ∀ o, planned.stepsByOpportunity.lookup o =
    if stepsAmong done o = [] then none else some (stepsAmong done o).toFinset
  purposes : ∀ c ∈ done, planned.purposeByOpportunity.lookup c.opportunityHash = some (purposeOf p c)
  known : ∀ o, stepsAmong done o = [] → planned.purposeByOpportunity.lookup o = none

/-- A candidate that may follow others. -/
structure Admissible (p : ProspectiveForecastSelectionPolicy) (done : List ForecastSelectionCandidate)
    (c : ForecastSelectionCandidate) : Prop where
  selected : c.step ∈ p.selectedSteps
  window : purposeForTargetTime p c.targetTime = some (purposeOf p c)
  purpose : ∀ d ∈ done, d.opportunityHash = c.opportunityHash → purposeOf p d = purposeOf p c
  fresh : c.key ∉ done.map ForecastSelectionCandidate.key

theorem mem_stepsAmong_iff {candidates : List ForecastSelectionCandidate} {o : String} {step : Int} :
    step ∈ stepsAmong candidates o ↔ ∃ c ∈ candidates, c.opportunityHash = o ∧ c.step = step := by
  simp only [stepsAmong, List.mem_map, List.mem_filter, decide_eq_true_eq, and_assoc]

theorem stepsAmong_eq_nil_iff {candidates : List ForecastSelectionCandidate} {o : String} :
    stepsAmong candidates o = [] ↔ ∀ c ∈ candidates, c.opportunityHash ≠ o := by
  simp only [stepsAmong, List.map_eq_nil_iff, List.filter_eq_nil_iff, decide_eq_true_eq, ne_eq]

theorem stepsAmong_append (c : ForecastSelectionCandidate) (o : String) :
    stepsAmong (done ++ [c]) o =
      if c.opportunityHash = o then stepsAmong done o ++ [c.step] else stepsAmong done o := by
  unfold stepsAmong
  split_ifs with hSame <;> simp [List.filter_append, hSame]

theorem holds_start : Planned.start.Holds p policyHash [] where
  assignments := rfl
  keys := by simp [Planned.start]
  distinct := List.nodup_nil
  steps := fun _ => rfl
  purposes := by simp
  known := fun _ _ => rfl

theorem Planned.Holds.lookup_steps (holds : planned.Holds p policyHash done) (o : String) :
    (planned.stepsByOpportunity.lookup o).getD ∅ = (stepsAmong done o).toFinset := by
  rw [holds.steps]
  split_ifs with hNone
  · rw [hNone]
    rfl
  · rfl

/-- A candidate of a known opportunity has the purpose of the others. -/
theorem Planned.Holds.prior (holds : planned.Holds p policyHash done) {purpose : Purpose} :
    (planned.purposeByOpportunity.lookup c.opportunityHash).getD purpose = purpose ↔
      ∀ d ∈ done, d.opportunityHash = c.opportunityHash → purposeOf p d = purpose := by
  constructor
  · intro h d hd hSame
    rw [← hSame, holds.purposes d hd, Option.getD_some] at h
    exact h
  · intro h
    cases hLookup : planned.purposeByOpportunity.lookup c.opportunityHash with
    | none => rfl
    | some prior =>
      have hSome : ¬ stepsAmong done c.opportunityHash = [] := by
        intro hNone
        rw [holds.known _ hNone] at hLookup
        cases hLookup
      rw [stepsAmong_eq_nil_iff] at hSome
      push Not at hSome
      obtain ⟨d, hd, hSame⟩ := hSome
      rw [← hSame, holds.purposes d hd] at hLookup
      cases hLookup
      exact h d hd hSame

/-- One round goes on exactly with an admissible candidate. -/
theorem assignCandidate_ok (holds : planned.Holds p policyHash done) :
    (∃ next, assignCandidate p policyHash planned c = .ok next) ↔ Admissible p done c := by
  simp only [assignCandidate, refuseIf_bind_eq_ok_iff, orRefuse_bind_eq_ok_iff, pure_eq_ok, ne_eq,
    not_not]
  constructor
  · rintro ⟨next, hStep, purpose, hPurpose, hPrior, hKey, -⟩
    have hOwn : purposeOf p c = purpose := by rw [purposeOf, hPurpose, Option.getD_some]
    refine ⟨hStep, by rw [hOwn, hPurpose], ?_, fun hMem => hKey ((holds.keys _).mpr hMem)⟩
    rw [hOwn]
    exact holds.prior.mp hPrior
  · rintro ⟨hStep, hWindow, hPurpose, hKey⟩
    exact ⟨_, hStep, _, hWindow, holds.prior.mpr hPurpose, fun hMem => hKey ((holds.keys _).mp hMem),
      rfl⟩

theorem holds_assignCandidate (holds : planned.Holds p policyHash done) {next : Planned}
    (h : assignCandidate p policyHash planned c = .ok next) :
    next.Holds p policyHash (done ++ [c]) := by
  simp only [assignCandidate, refuseIf_bind_eq_ok_iff, orRefuse_bind_eq_ok_iff, pure_eq_ok, ne_eq,
    not_not] at h
  obtain ⟨hStep, purpose, hPurpose, hPrior, hKey, h⟩ := h
  cases h
  have hOwn : purposeOf p c = purpose := by rw [purposeOf, hPurpose, Option.getD_some]
  refine ⟨?_, ?_, Dict.nodup_insert holds.distinct, ?_, ?_, ?_⟩
  · simp only [holds.assignments, List.map_append, List.map_cons, List.map_nil, hOwn]
  · intro k
    simp only [Finset.mem_insert, holds.keys, List.map_append, List.mem_append, List.map_cons,
      List.map_nil, List.mem_singleton, or_comm]
  · intro o
    rw [Dict.lookup_insert, holds.lookup_steps, holds.steps, stepsAmong_append]
    by_cases hSame : c.opportunityHash = o
    · subst hSame
      rw [if_pos rfl, if_pos rfl, if_neg (by simp), List.toFinset_append, Finset.union_comm]
      rfl
    · rw [if_neg (Ne.symm hSame), if_neg hSame]
  · intro d hd
    rw [Dict.lookup_insert, hPrior]
    split_ifs with hSame
    · rcases List.mem_append.mp hd with hd | hd
      · rw [holds.prior.mp hPrior d hd hSame]
      · rw [List.mem_singleton.mp hd, hOwn]
    · rcases List.mem_append.mp hd with hd | hd
      · exact holds.purposes d hd
      · exact absurd (by rw [List.mem_singleton.mp hd]) hSame
  · intro o hNone
    rw [stepsAmong_append] at hNone
    split_ifs at hNone with hSame
    · simp at hNone
    · rw [Dict.lookup_insert, if_neg (Ne.symm hSame)]
      exact holds.known o hNone

/-! ## What the planner accepts -/

/-- Candidates that the loop goes through. -/
structure Assignable (p : ProspectiveForecastSelectionPolicy)
    (candidates : List ForecastSelectionCandidate) : Prop where
  selected : ∀ c ∈ candidates, c.step ∈ p.selectedSteps
  windows : ∀ c ∈ candidates, purposeForTargetTime p c.targetTime = some (purposeOf p c)
  purposes : ∀ c ∈ candidates, ∀ d ∈ candidates, d.opportunityHash = c.opportunityHash →
    purposeOf p d = purposeOf p c
  distinct : (candidates.map ForecastSelectionCandidate.key).Nodup

theorem assignable_append : Assignable p (done ++ [c]) ↔ Assignable p done ∧ Admissible p done c := by
  constructor
  · intro h
    have hOld : ∀ d ∈ done, d ∈ done ++ [c] := fun d hd => List.mem_append_left _ hd
    have hNew : c ∈ done ++ [c] := List.mem_append_right _ (List.mem_singleton.mpr rfl)
    have hDistinct := h.distinct
    rw [List.map_append, List.nodup_append] at hDistinct
    refine ⟨⟨fun d hd => h.selected d (hOld d hd), fun d hd => h.windows d (hOld d hd),
      fun d hd e he => h.purposes d (hOld d hd) e (hOld e he), hDistinct.1⟩,
      h.selected c hNew, h.windows c hNew, fun d hd => h.purposes c hNew d (hOld d hd), ?_⟩
    exact fun hMem => hDistinct.2.2 _ hMem _ (List.mem_singleton.mpr rfl) rfl
  · rintro ⟨hDone, hLast⟩
    refine ⟨?_, ?_, ?_, ?_⟩
    · rw [List.forall_mem_append, List.forall_mem_singleton]
      exact ⟨hDone.selected, hLast.selected⟩
    · rw [List.forall_mem_append, List.forall_mem_singleton]
      exact ⟨hDone.windows, hLast.window⟩
    · intro d hd e he hSame
      rcases List.mem_append.mp hd with hd | hd <;> rcases List.mem_append.mp he with he | he
      · exact hDone.purposes d hd e he hSame
      · rw [List.mem_singleton.mp he] at hSame ⊢
        exact (hLast.purpose d hd hSame.symm).symm
      · rw [List.mem_singleton.mp hd] at hSame ⊢
        exact hLast.purpose e he hSame
      · rw [List.mem_singleton.mp hd, List.mem_singleton.mp he]
    · rw [List.map_append, List.nodup_append]
      refine ⟨hDone.distinct, List.nodup_singleton _, ?_⟩
      rintro k hk other hOther rfl
      rw [List.map_singleton, List.mem_singleton] at hOther
      exact hLast.fresh (hOther ▸ hk)

/-- The loop goes through assignable candidates, and its variables hold what they should. -/
theorem loop_ok (candidates : List ForecastSelectionCandidate) :
    ((∃ next, candidates.foldlM (assignCandidate p policyHash) Planned.start = .ok next) ↔
      Assignable p candidates) ∧
    ∀ next, candidates.foldlM (assignCandidate p policyHash) Planned.start = .ok next →
      next.Holds p policyHash candidates := by
  induction candidates using List.reverseRecOn with
  | nil =>
    refine ⟨⟨fun _ => ⟨by simp, by simp, by simp, List.nodup_nil⟩, fun _ => ⟨_, rfl⟩⟩, ?_⟩
    intro next h
    cases h
    exact holds_start
  | append_singleton done c ih =>
    obtain ⟨hAssignable, hHolds⟩ := ih
    have hStep : ∀ next, (done ++ [c]).foldlM (assignCandidate p policyHash) Planned.start = .ok next ↔
        ∃ planned, done.foldlM (assignCandidate p policyHash) Planned.start = .ok planned ∧
          assignCandidate p policyHash planned c = .ok next := by
      intro next
      simp only [List.foldlM_append, List.foldlM_cons, List.foldlM_nil, bind_pure, bind_eq_ok_iff]
    refine ⟨?_, ?_⟩
    · rw [assignable_append, ← hAssignable]
      simp only [hStep]
      constructor
      · rintro ⟨next, planned, hDone, hLast⟩
        exact ⟨⟨planned, hDone⟩, (assignCandidate_ok (hHolds planned hDone)).mp ⟨next, hLast⟩⟩
      · rintro ⟨⟨planned, hDone⟩, hAdmissible⟩
        obtain ⟨next, hLast⟩ := (assignCandidate_ok (hHolds planned hDone)).mpr hAdmissible
        exact ⟨next, planned, hDone, hLast⟩
    · intro next h
      obtain ⟨planned, hDone, hLast⟩ := (hStep next).mp h
      exact holds_assignCandidate (hHolds planned hDone) hLast

theorem Planned.Holds.complete_iff (holds : planned.Holds p policyHash done) {expected : Finset Int} :
    (∀ e ∈ planned.stepsByOpportunity, e.2 = expected) ↔
      ∀ c ∈ done, (stepsAmong done c.opportunityHash).toFinset = expected := by
  have hEntry : ∀ o steps, (o, steps) ∈ planned.stepsByOpportunity ↔
      (∃ c ∈ done, c.opportunityHash = o) ∧ steps = (stepsAmong done o).toFinset := by
    intro o steps
    rw [← Dict.lookup_eq_some_iff holds.distinct, holds.steps]
    split_ifs with hNone
    · rw [stepsAmong_eq_nil_iff] at hNone
      constructor
      · intro h
        cases h
      · rintro ⟨⟨d, hd, hSame⟩, -⟩
        exact absurd hSame (hNone d hd)
    · rw [stepsAmong_eq_nil_iff] at hNone
      push Not at hNone
      rw [Option.some.injEq, eq_comm]
      exact ⟨fun h => ⟨hNone, h⟩, And.right⟩
  constructor
  · intro h d hd
    exact h (d.opportunityHash, _) ((hEntry _ _).mpr ⟨⟨d, hd, rfl⟩, rfl⟩)
  · rintro h ⟨o, steps⟩ hMem
    obtain ⟨⟨d, hd, rfl⟩, rfl⟩ := (hEntry _ _).mp hMem
    exact h d hd

theorem assignSelectionPurposes_eq_ok {floats : FloatText} {sha256 : Bytes → String}
    {candidates : List ForecastSelectionCandidate} {assignments : List ForecastPurposeAssignment} :
    assignSelectionPurposes floats sha256 p candidates = .ok assignments ↔
      (1 ≤ candidates.length ∧ candidates.length ≤ 1000000) ∧
      ∃ bytes, canonicalSelectionPolicy floats p = .ok bytes ∧ Assignable p candidates ∧
        (∀ c ∈ candidates,
          (stepsAmong candidates c.opportunityHash).toFinset = p.selectedSteps.toFinset) ∧
        assignments = (candidates.map fun c => ⟨c, purposeOf p c, sha256 bytes⟩).insertionSort
          ForecastPurposeAssignment.Before := by
  have hChecked : assignSelectionPurposes floats sha256 p candidates = .ok assignments ↔
      (1 ≤ candidates.length ∧ candidates.length ≤ 1000000) ∧
      ∃ bytes, canonicalSelectionPolicy floats p = .ok bytes ∧
        ∃ planned, candidates.foldlM (assignCandidate p (sha256 bytes)) Planned.start = .ok planned ∧
          (∀ e ∈ planned.stepsByOpportunity, e.2 = p.selectedSteps.toFinset) ∧
          planned.assignments.insertionSort ForecastPurposeAssignment.Before = assignments := by
    rw [assignSelectionPurposes, refuseIf_bind_eq_ok_iff, not_not, selectionPolicyHashFor]
    simp only [bind_assoc, pure_bind]
    rw [bind_eq_ok_iff]
    simp only [bind_eq_ok_iff (x := List.foldlM _ _ _), refuseIf_bind_eq_ok_iff, pure_eq_ok,
      Except.ok.injEq, not_exists, not_and, not_not, ne_eq]
  rw [hChecked]
  constructor
  · rintro ⟨hBounds, bytes, hBytes, planned, hLoop, hComplete, rfl⟩
    have hHolds := (loop_ok candidates).2 planned hLoop
    exact ⟨hBounds, bytes, hBytes, (loop_ok candidates).1.mp ⟨planned, hLoop⟩,
      hHolds.complete_iff.mp hComplete, by rw [hHolds.assignments]⟩
  · rintro ⟨hBounds, bytes, hBytes, hAssignable, hComplete, rfl⟩
    obtain ⟨planned, hLoop⟩ := (loop_ok candidates).1.mpr hAssignable
    have hHolds := (loop_ok candidates).2 planned hLoop
    exact ⟨hBounds, bytes, hBytes, planned, hLoop, hHolds.complete_iff.mpr hComplete,
      by rw [hHolds.assignments]⟩

end StockApi.Selection

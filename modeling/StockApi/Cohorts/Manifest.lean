import StockApi.Calibration.FittedSet
import StockApi.Library.Uuid
import StockApi.Snapshots.Payload

/-!
# Cohort manifests

A cohort is a list of forecast steps that is fixed before any of their outcomes. `_normalized_manifest`
is described by its results, the normal manifests, and by what it keeps: the terms, and the members in
some order with their times in UTC.
-/

namespace StockApi.Cohorts

open Checked CivilTime Groups Text
open Calibration (sha256Text sha256Text_bind_eq_ok_iff)

/-- The target time is a datetime of any offset, or already the instant it stands for. -/
structure ForecastCohortMember (τ : Type) where
  forecastId : Uuid
  step : Int
  targetTime : τ
  opportunityHash : String
  outputHash : String
deriving DecidableEq

/-- The fields of a manifest other than its members. -/
structure CohortTerms where
  purpose : String
  selectionPolicyHash : String
  outcomeResolutionPolicyHash : String
  availabilityRuleSetHash : String
  schemaVersion : Int
deriving DecidableEq

structure ForecastCohortManifest (τ : Type) extends CohortTerms where
  members : List (ForecastCohortMember τ)
deriving DecidableEq

section Map

variable {σ τ υ : Type}

def ForecastCohortMember.map (f : σ → τ) (m : ForecastCohortMember σ) : ForecastCohortMember τ :=
  ⟨m.forecastId, m.step, f m.targetTime, m.opportunityHash, m.outputHash⟩

def ForecastCohortManifest.map (f : σ → τ) (m : ForecastCohortManifest σ) :
    ForecastCohortManifest τ :=
  ⟨m.toCohortTerms, m.members.map (·.map f)⟩

theorem ForecastCohortMember.map_injective {f : σ → τ} (h : Function.Injective f) :
    Function.Injective (ForecastCohortMember.map f) := by
  rintro ⟨_, _, s, _, _⟩ ⟨_, _, t, _, _⟩ hSame
  simp only [map, mk.injEq] at hSame ⊢
  exact ⟨hSame.1, hSame.2.1, h hSame.2.2.1, hSame.2.2.2⟩

end Map

/-- A normalized manifest as the argument of a further call. -/
def ForecastCohortManifest.inUtc (m : ForecastCohortManifest Instant) :
    ForecastCohortManifest ParsedDateTime :=
  m.map Instant.inUtc

/-! ## Normalization -/

/-- `_PURPOSES`. -/
def purposes : List String := ["calibration_fit", "heldout_evaluation"]

/-- `_purpose`. -/
def supportedPurpose (value : String) : Except String PUnit :=
  refuseIf (value ∉ purposes) "cohort purpose is not supported"

/-- `MAX_COHORT_MEMBERS`. -/
def maxCohortMembers : Nat := 10000

section Members

def ForecastCohortMember.forecastStep {τ : Type} (m : ForecastCohortMember τ) : Uuid × Int :=
  (m.forecastId, m.step)

def ForecastCohortMember.opportunityStep {τ : Type} (m : ForecastCohortMember τ) : String × Int :=
  (m.opportunityHash, m.step)

/-- The key that members are sorted by. -/
def ForecastCohortMember.key (m : ForecastCohortMember Instant) : Instant ×ₗ String ×ₗ Int :=
  toLex (m.targetTime, toLex (Uuid.text m.forecastId, m.step))

theorem ForecastCohortMember.forecastStep_of_key {a b : ForecastCohortMember Instant}
    (h : a.key = b.key) : a.forecastStep = b.forecastStep := by
  have hRest := toLex.injective (Prod.mk.inj (toLex.injective h)).2
  exact Prod.ext (Uuid.text_injective (Prod.mk.inj hRest).1) (Prod.mk.inj hRest).2

def normalizedMember (m : ForecastCohortMember ParsedDateTime) :
    Except String (ForecastCohortMember Instant) := do
  refuseIf (¬ (1 ≤ m.step ∧ m.step ≤ 252)) "cohort member step must be within 1..252"
  let targetTime ← utc m.targetTime "target_time"
  sha256Text m.opportunityHash "opportunity_hash"
  sha256Text m.outputHash "output_hash"
  return ⟨m.forecastId, m.step, targetTime, m.opportunityHash, m.outputHash⟩

structure ForecastCohortMember.Valid {τ : Type} (m : ForecastCohortMember τ) : Prop where
  stepRange : 1 ≤ m.step ∧ m.step ≤ 252
  opportunity : IsHash m.opportunityHash
  output : IsHash m.outputHash

theorem normalizedMember_eq_ok_iff {m : ForecastCohortMember ParsedDateTime}
    {n : ForecastCohortMember Instant} :
    normalizedMember m = .ok n ↔ m.map ParsedDateTime.toInstant = n.map some ∧ n.Valid := by
  rw [normalizedMember, refuseIf_bind_eq_ok_iff, not_not, utc_bind_eq_ok_iff]
  simp only [sha256Text_bind_eq_ok_iff, pure_eq_ok]
  constructor
  · rintro ⟨hStep, t, hTime, hOpportunity, hOutput, h⟩
    cases h
    exact ⟨by rw [ForecastCohortMember.map, hTime]; rfl, hStep, hOpportunity, hOutput⟩
  · rintro ⟨hSame, hValid⟩
    obtain ⟨id, step, targetTime, opportunity, output⟩ := m
    obtain ⟨id', step', t, opportunity', output'⟩ := n
    simp only [ForecastCohortMember.map, ForecastCohortMember.mk.injEq] at hSame
    obtain ⟨rfl, rfl, hTime, rfl, rfl⟩ := hSame
    exact ⟨hValid.stepRange, t, hTime, hValid.opportunity, hValid.output, rfl⟩

end Members

/-- `_normalized_manifest`. -/
def normalizedManifest (manifest : ForecastCohortManifest ParsedDateTime) :
    Except String (ForecastCohortManifest Instant) := do
  refuseIf (manifest.schemaVersion ≠ 1) "cohort schema_version is not supported"
  supportedPurpose manifest.purpose
  refuseIf (¬ (1 ≤ manifest.members.length ∧ manifest.members.length ≤ maxCohortMembers))
    "cohort member count is outside the supported bounds"
  let members ← manifest.members.mapM normalizedMember
  refuseIf (¬ (members.map (·.forecastStep)).Nodup) "cohort contains a duplicate forecast step"
  refuseIf (¬ (members.map (·.opportunityStep)).Nodup)
    "cohort contains a duplicate forecast opportunity step"
  let ordered := sortOn (·.key) members
  sha256Text manifest.selectionPolicyHash "selection_policy_hash"
  sha256Text manifest.outcomeResolutionPolicyHash "outcome_resolution_policy_hash"
  sha256Text manifest.availabilityRuleSetHash "availability_rule_set_hash"
  return ⟨manifest.toCohortTerms, ordered⟩

structure CohortTerms.Valid (t : CohortTerms) : Prop where
  version : t.schemaVersion = 1
  supported : t.purpose ∈ purposes
  selection : IsHash t.selectionPolicyHash
  resolution : IsHash t.outcomeResolutionPolicyHash
  availability : IsHash t.availabilityRuleSetHash

/-- What a normal manifest is. -/
structure NormalManifest (n : ForecastCohortManifest Instant) : Prop where
  terms : n.toCohortTerms.Valid
  size : 1 ≤ n.members.length ∧ n.members.length ≤ maxCohortMembers
  valid : ∀ m ∈ n.members, m.Valid
  forecastSteps : (n.members.map (·.forecastStep)).Nodup
  opportunitySteps : (n.members.map (·.opportunityStep)).Nodup
  ascending : n.members.Pairwise fun a b => a.key < b.key

/-- The same terms, and the same members up to their order and the offset of their times. -/
def SameCohort (m : ForecastCohortManifest ParsedDateTime) (n : ForecastCohortManifest Instant) : Prop :=
  m.toCohortTerms = n.toCohortTerms ∧
    (m.members.map (·.map ParsedDateTime.toInstant)).Perm (n.members.map (·.map some))

theorem normalizedMembers_eq_ok_iff {members : List (ForecastCohortMember ParsedDateTime)}
    {ns : List (ForecastCohortMember Instant)} :
    members.mapM normalizedMember = .ok ns ↔
      members.map (·.map ParsedDateTime.toInstant) = ns.map (·.map some) ∧ ∀ n ∈ ns, n.Valid := by
  have hPair : List.Forall₂ (fun m n => normalizedMember m = .ok n) members ns ↔
      List.Forall₂ (fun m n => m.map ParsedDateTime.toInstant = n.map some) members ns ∧
        ∀ n ∈ ns, n.Valid := by
    constructor
    · intro h
      refine ⟨h.imp fun _ _ hMember => (normalizedMember_eq_ok_iff.mp hMember).1, fun n hMem => ?_⟩
      obtain ⟨_, -, hMember⟩ := exists_left_of_forall₂ h hMem
      exact (normalizedMember_eq_ok_iff.mp hMember).2
    · rintro ⟨h, hValid⟩
      induction h with
      | nil => exact .nil
      | cons hSame _ ih =>
        refine .cons (normalizedMember_eq_ok_iff.mpr ⟨hSame, hValid _ List.mem_cons_self⟩) (ih ?_)
        exact fun n hMem => hValid n (List.mem_cons_of_mem _ hMem)
  rw [← List.forall₂_eq_eq_eq, List.forall₂_map_left_iff, List.forall₂_map_right_iff, ← hPair]
  exact ⟨forall₂_of_mapM, mapM_of_forall₂⟩

theorem nodup_keys {members : List (ForecastCohortMember Instant)}
    (h : (members.map (·.forecastStep)).Nodup) : (members.map (·.key)).Nodup := by
  rw [List.Nodup, List.pairwise_map] at h ⊢
  exact h.imp fun hStep hKey => hStep (ForecastCohortMember.forecastStep_of_key hKey)

theorem normalizedManifest_eq_ok_iff {m : ForecastCohortManifest ParsedDateTime}
    {n : ForecastCohortManifest Instant} :
    normalizedManifest m = .ok n ↔ SameCohort m n ∧ NormalManifest n := by
  rw [normalizedManifest, refuseIf_bind_eq_ok_iff, not_not, supportedPurpose, refuseIf_bind_eq_ok_iff,
    not_not, refuseIf_bind_eq_ok_iff, not_not, bind_eq_ok_iff]
  constructor
  · rintro ⟨hVersion, hPurpose, hSize, ns, hMembers, h⟩
    rw [refuseIf_bind_eq_ok_iff, not_not, refuseIf_bind_eq_ok_iff, not_not] at h
    obtain ⟨hForecasts, hOpportunities, h⟩ := h
    dsimp only at h
    rw [sha256Text_bind_eq_ok_iff, sha256Text_bind_eq_ok_iff, sha256Text_bind_eq_ok_iff] at h
    obtain ⟨hSelection, hResolution, hAvailability, h⟩ := h
    cases h
    obtain ⟨hSame, hValid⟩ := normalizedMembers_eq_ok_iff.mp hMembers
    have hPerm : (sortOn (·.key) ns).Perm ns := sortOn_perm ns
    refine ⟨⟨rfl, ?_⟩, ⟨hVersion, hPurpose, hSelection, hResolution, hAvailability⟩, ?_, ?_, ?_, ?_,
      sortOn_pairwise (nodup_keys hForecasts)⟩
    · rw [hSame]
      exact (hPerm.map _).symm
    · rw [hPerm.length_eq, ← (forall₂_of_mapM hMembers).length_eq]
      exact hSize
    · exact fun n hMem => hValid n (hPerm.mem_iff.mp hMem)
    · exact (hPerm.map _).nodup_iff.mpr hForecasts
    · exact (hPerm.map _).nodup_iff.mpr hOpportunities
  · rintro ⟨⟨hTerms, hPerm⟩, hNormal⟩
    obtain ⟨terms, members⟩ := m
    obtain rfl : terms = n.toCohortTerms := hTerms
    -- the members as they are before they are sorted
    obtain ⟨ns, hSame, hMembers⟩ : ∃ ns : List (ForecastCohortMember Instant),
        members.map (·.map ParsedDateTime.toInstant) = ns.map (·.map some) ∧ ns.Perm n.members := by
      have hComp := congrFun₂ (List.eq_map_comp_perm (ForecastCohortMember.map some))
        (members.map (·.map ParsedDateTime.toInstant)) n.members
      exact hComp.mpr hPerm
    have hMap : members.mapM normalizedMember = .ok ns := normalizedMembers_eq_ok_iff.mpr
      ⟨hSame, fun m hMem => hNormal.valid m (hMembers.mem_iff.mp hMem)⟩
    have hSize : 1 ≤ members.length ∧ members.length ≤ maxCohortMembers := by
      rw [(forall₂_of_mapM hMap).length_eq, hMembers.length_eq]
      exact hNormal.size
    refine ⟨hNormal.terms.version, hNormal.terms.supported, hSize, ns, hMap, ?_⟩
    rw [refuseIf_of_not (not_not.mpr ((hMembers.map _).nodup_iff.mpr hNormal.forecastSteps)), ok_bind,
      refuseIf_of_not (not_not.mpr ((hMembers.map _).nodup_iff.mpr hNormal.opportunitySteps)), ok_bind]
    dsimp only
    rw [sha256Text_bind_eq_ok_iff, sha256Text_bind_eq_ok_iff, sha256Text_bind_eq_ok_iff,
      sortOn_eq_of_perm hMembers hNormal.ascending]
    exact ⟨hNormal.terms.selection, hNormal.terms.resolution, hNormal.terms.availability, rfl⟩

end StockApi.Cohorts

import Mathlib.Data.Int.Interval
import StockApi.Evidence.Purposes
import StockApi.Library.JsonbText
import StockApi.Selection.Purposes

/-!
# The planner and the trigger

The planner accepts candidates with a purpose for each exactly when the members of the two parts comply
with the registered policy.
-/

namespace StockApi.Selection

open Checked CivilTime Documents Evidence Jsonb JsonText Postgres Text

variable {pg : Postgres} {session : pg.Session} {p : ProspectiveForecastSelectionPolicy}

/-- The columns that the registry keeps of a policy. -/
structure Projects (pg : Postgres) (p : PolicyFields) (bytes : Bytes) (c : SelectionPolicyColumns) : Prop where
  policyHash : c.policyHash = pg.sha256 bytes
  forecastResolution : c.forecastResolutionPolicyHash = p.forecastResolutionPolicyHash
  forecastAvailability : c.forecastAvailabilityRuleSetHash = p.forecastAvailabilityRuleSetHash
  outcomeResolution : c.outcomeResolutionPolicyHash = p.outcomeResolutionPolicyHash
  outcomeAvailability : c.outcomeAvailabilityRuleSetHash = p.outcomeAvailabilityRuleSetHash
  lag : c.resolutionLagSeconds = p.resolutionLagSeconds
  fitWindow : c.fitWindowStart = p.fitWindow.start ∧ c.fitWindowEnd = p.fitWindow.last
  heldoutWindow : c.heldoutWindowStart = p.heldoutWindow.start ∧ c.heldoutWindowEnd = p.heldoutWindow.last
  fitCount : c.minimumFitMemberCount = p.minimumFitMemberCount
  heldoutCount : c.minimumHeldoutMemberCount = p.minimumHeldoutMemberCount
  sealLead : c.minimumSealLeadSeconds = p.minimumSealLeadSeconds
  steps : c.selectedSteps = p.selectedSteps
  bytes : c.canonicalPolicy = bytes

/-- The member of a manifest that stands for a candidate. -/
structure Spells (document : Value) (c : ForecastSelectionCandidate) : Prop where
  opportunity : getText (some document) "opportunity_hash" = some c.opportunityHash
  step : getText (some document) "step" = some (String.ofList (natural c.step.toNat))
  target : getText (some document) "target_time" = some c.targetTime.timestamp

/-- The candidates of one purpose. -/
def part (purpose : ForecastSelectionCandidate → Purpose) (candidates : List ForecastSelectionCandidate)
    (q : Purpose) : List ForecastSelectionCandidate :=
  candidates.filter fun c => decide (purpose c = q)

/-! ## Windows -/

theorem day_of_instant (t : Instant) : utcDay t.micros = (t.date.days : Int) := by
  rw [utcDay, Instant.date, Date.days_ofDays]
  rfl

theorem inWindow_iff {bytes : Bytes} {row : SelectionPolicyColumns} (projects : Projects pg p.toPolicyFields bytes row)
    {q : Purpose} {t : Instant} : InWindow row q t.micros ↔ purposeForTargetTime p t = some q := by
  have hDisjoint := p.valid.windows
  have hFit := p.fitWindow.ordered
  have hHeldout := p.heldoutWindow.ordered
  cases q with
  | calibrationFit =>
    rw [InWindow, day_of_instant, projects.fitWindow.1, projects.fitWindow.2, Int.ofNat_le,
      Int.ofNat_le, Date.days_le_iff, Date.days_le_iff, purposeForTargetTime]
    split_ifs with hInFit hInHeldout
    · simp [hInFit]
    · simp [hInFit]
    · simp [hInFit]
  | heldoutEvaluation =>
    rw [InWindow, day_of_instant, projects.heldoutWindow.1, projects.heldoutWindow.2, Int.ofNat_le,
      Int.ofNat_le, Date.days_le_iff, Date.days_le_iff, purposeForTargetTime]
    split_ifs with hInFit hInHeldout
    · have hOutside : ¬ (p.heldoutWindow.start ≤ t.date ∧ t.date ≤ p.heldoutWindow.last) := by
        rintro ⟨hAfter, -⟩
        exact absurd (hAfter.trans hInFit.2) (not_le.mpr hDisjoint)
      simp [hOutside]
    · simp [hInHeldout]
    · simp [hInHeldout]

/-! ## Documents of a part -/

section Documents

variable {documents : List Value} {candidates : List ForecastSelectionCandidate}

theorem Spells.memberTargetTime {document : Value} {c : ForecastSelectionCandidate}
    (documented : pg.Documented) (h : Spells document c) :
    memberTargetTime session document = .ok (some (c.targetTime.micros : Int)) := by
  rw [Evidence.memberTargetTime, h.target]
  exact castText_eq_ok.mpr ⟨_, rfl, documented.timestamp session c.targetTime⟩

theorem Spells.memberBundle {document : Value} {c : ForecastSelectionCandidate}
    (documented : pg.Documented) (h : Spells document c) :
    memberBundle pg document = .ok (some c.opportunityHash, some c.step) := by
  have hBounds := c.stepBounds
  have hCast : pg.smallint (String.ofList (natural c.step.toNat)) = some c.step := by
    rw [Postgres.smallint, documented.integer c.step.toNat (by omega), Int.toNat_of_nonneg (by omega)]
    simp only [Option.filter_some, ite_eq_left_iff, decide_eq_true_eq]
    omega
  have hStep : memberStep pg document = .ok (some c.step) := by
    rw [memberStep, h.step]
    exact castText_eq_ok.mpr ⟨_, rfl, hCast⟩
  rw [Evidence.memberBundle, hStep, ok_bind, h.opportunity, pure_eq_ok]

/-- A manifest complies when each of its candidates is in the window and each bundle complete. -/
theorem complies_iff (documented : pg.Documented) {bytes : Bytes} {row : SelectionPolicyRow pg}
    (projects : Projects pg p.toPolicyFields bytes row.toSelectionPolicyColumns) {q : Purpose}
    (spells : List.Forall₂ Spells documents candidates) :
    Complies session row (some q.name) documents ↔
      (∀ c ∈ candidates, purposeForTargetTime p c.targetTime = some q) ∧
      ∀ c ∈ candidates,
        (stepsAmong candidates c.opportunityHash).insertionSort (· ≤ ·) = p.selectedSteps := by
  have hTargets : documents.mapM (memberTargetTime session) =
      .ok (candidates.map fun c => some (c.targetTime.micros : Int)) := by
    apply mapM_of_forall₂
    rw [List.forall₂_map_right_iff]
    exact spells.imp fun document c h => h.memberTargetTime documented
  have hBundles : documents.mapM (memberBundle pg) =
      .ok (candidates.map fun c => (some c.opportunityHash, some c.step)) := by
    apply mapM_of_forall₂
    rw [List.forall₂_map_right_iff]
    exact spells.imp fun document c h => h.memberBundle documented
  have hWindow : (∀ t ∈ candidates.map fun c => some (c.targetTime.micros : Int),
      ¬ OutsideWindow row (some q.name) t) ↔
      ∀ c ∈ candidates, purposeForTargetTime p c.targetTime = some q := by
    simp only [List.forall_mem_map, outsideWindow_iff, not_not, inWindow_iff projects]
  have hComplete : CompleteBundles row (candidates.map fun c => (some c.opportunityHash, some c.step)) ↔
      ∀ c ∈ candidates,
        (stepsAmong candidates c.opportunityHash).insertionSort (· ≤ ·) = p.selectedSteps := by
    simp only [CompleteBundles, List.forall_mem_map, Option.some.injEq, projects.steps, stepsAmong,
      opportunitySteps_map ForecastSelectionCandidate.opportunityHash]
  rw [← hWindow, ← hComplete]
  constructor
  · rintro ⟨⟨targets, hOwnTargets, hInside⟩, bundles, hOwnBundles, hOwnComplete⟩
    rw [hTargets] at hOwnTargets
    rw [hBundles] at hOwnBundles
    cases hOwnTargets
    cases hOwnBundles
    exact ⟨hInside, hOwnComplete⟩
  · rintro ⟨hInside, hOwnComplete⟩
    exact ⟨⟨_, hTargets, hInside⟩, _, hBundles, hOwnComplete⟩

end Documents

/-! ## Two parts -/

section Parts

variable {candidates : List ForecastSelectionCandidate} {purpose : ForecastSelectionCandidate → Purpose}

theorem mem_part_iff {q : Purpose} {c : ForecastSelectionCandidate} :
    c ∈ part purpose candidates q ↔ c ∈ candidates ∧ purpose c = q := by
  rw [part, List.mem_filter, decide_eq_true_eq]

theorem stepsAmong_perm {order : List ForecastSelectionCandidate} (h : order.Perm candidates) (o : String) :
    (stepsAmong order o).Perm (stepsAmong candidates o) := (h.filter _).map _

/-- The steps of an opportunity are distinct when its keys are. -/
theorem stepsAmong_nodup (distinct : (candidates.map ForecastSelectionCandidate.key).Nodup) (o : String) :
    (stepsAmong candidates o).Nodup := by
  have hNodup := distinct.of_map
  rw [List.nodup_map_iff_inj_on hNodup] at distinct
  apply (List.nodup_map_iff_inj_on (hNodup.filter _)).mpr
  intro c hc d hd hStep
  rw [List.mem_filter, decide_eq_true_eq] at hc hd
  exact distinct c hc.1 d hd.1 (Prod.ext (hc.2.trans hd.2.symm) hStep)

theorem sorted_eq_iff {steps selected : List Int} (distinct : steps.Nodup)
    (ordered : selected.Pairwise (· < ·)) :
    steps.insertionSort (· ≤ ·) = selected ↔ steps.toFinset = selected.toFinset := by
  have hPerm := List.perm_insertionSort (· ≤ ·) steps
  constructor
  · rintro rfl
    exact (List.toFinset_eq_of_perm _ _ hPerm).symm
  · intro h
    have hSame : selected.Perm steps :=
      (List.perm_of_nodup_nodup_toFinset_eq (ordered.imp ne_of_lt) distinct h.symm)
    exact (hPerm.trans hSame.symm).eq_of_pairwise' (List.pairwise_insertionSort (· ≤ ·) steps)
      (ordered.imp le_of_lt)

theorem stepsAmong_part {q : Purpose} {o : String}
    (same : ∀ c ∈ candidates, c.opportunityHash = o → purpose c = q) :
    stepsAmong (part purpose candidates q) o = stepsAmong candidates o := by
  rw [stepsAmong, part, List.filter_filter, stepsAmong]
  congr 1
  apply List.filter_congr
  intro c hc
  rw [← Bool.decide_and, decide_eq_decide]
  exact ⟨And.left, fun h => ⟨h, same c hc h⟩⟩

/-- Both parts comply exactly when the planner gives every candidate its purpose. -/
theorem parts_iff (distinct : (candidates.map ForecastSelectionCandidate.key).Nodup) :
    (∀ q, (∀ c ∈ part purpose candidates q, purposeForTargetTime p c.targetTime = some q) ∧
      ∀ c ∈ part purpose candidates q,
        (stepsAmong (part purpose candidates q) c.opportunityHash).insertionSort (· ≤ ·) =
          p.selectedSteps) ↔
    Assignable p candidates ∧
      (∀ c ∈ candidates,
        (stepsAmong candidates c.opportunityHash).toFinset = p.selectedSteps.toFinset) ∧
      ∀ c ∈ candidates, purposeOf p c = purpose c := by
  have hOrdered := p.valid.stepsSorted
  constructor
  · intro h
    have hWindow : ∀ c ∈ candidates, purposeForTargetTime p c.targetTime = some (purpose c) :=
      fun c hc => (h (purpose c)).1 c (mem_part_iff.mpr ⟨hc, rfl⟩)
    have hPurpose : ∀ c ∈ candidates, purposeOf p c = purpose c := by
      intro c hc
      rw [purposeOf, hWindow c hc, Option.getD_some]
    have hSteps : ∀ c ∈ candidates, ∀ step,
        step ∈ stepsAmong (part purpose candidates (purpose c)) c.opportunityHash ↔
          step ∈ p.selectedSteps := by
      intro c hc step
      rw [← (h (purpose c)).2 c (mem_part_iff.mpr ⟨hc, rfl⟩), List.mem_insertionSort]
    -- A step in both parts would be one candidate with two purposes.
    have hSame : ∀ c ∈ candidates, ∀ d ∈ candidates, d.opportunityHash = c.opportunityHash →
        purpose d = purpose c := by
      intro c hc d hd hOpportunity
      have hOwn : c.step ∈ p.selectedSteps := by
        rw [← hSteps c hc]
        exact mem_stepsAmong_iff.mpr ⟨c, mem_part_iff.mpr ⟨hc, rfl⟩, rfl, rfl⟩
      rw [← hSteps d hd] at hOwn
      obtain ⟨e, he, hOpportunity', hStep⟩ := mem_stepsAmong_iff.mp hOwn
      obtain ⟨hMem, hPart⟩ := mem_part_iff.mp he
      have hKey : e.key = c.key := Prod.ext (hOpportunity'.trans hOpportunity) hStep
      rw [(List.nodup_map_iff_inj_on distinct.of_map).mp distinct e hMem c hc hKey] at hPart
      exact hPart.symm
    refine ⟨⟨?_, ?_, ?_, distinct⟩, ?_, hPurpose⟩
    · intro c hc
      rw [← hSteps c hc]
      exact mem_stepsAmong_iff.mpr ⟨c, mem_part_iff.mpr ⟨hc, rfl⟩, rfl, rfl⟩
    · intro c hc
      rw [hPurpose c hc, hWindow c hc]
    · intro c hc d hd hOpportunity
      rw [hPurpose c hc, hPurpose d hd, hSame c hc d hd hOpportunity]
    · intro c hc
      rw [← stepsAmong_part fun d hd => hSame c hc d hd]
      ext step
      rw [List.mem_toFinset, List.mem_toFinset, hSteps c hc]
  · rintro ⟨hAssignable, hComplete, hPurpose⟩ q
    refine ⟨?_, ?_⟩
    · intro c hc
      obtain ⟨hMem, rfl⟩ := mem_part_iff.mp hc
      rw [← hPurpose c hMem, hAssignable.windows c hMem]
    · intro c hc
      obtain ⟨hMem, rfl⟩ := mem_part_iff.mp hc
      have hSame : ∀ d ∈ candidates, d.opportunityHash = c.opportunityHash → purpose d = purpose c := by
        intro d hd hOpportunity
        rw [← hPurpose d hd, ← hPurpose c hMem, hAssignable.purposes c hMem d hd hOpportunity]
      rw [stepsAmong_part hSame, sorted_eq_iff (stepsAmong_nodup distinct _) hOrdered]
      exact hComplete c hMem

end Parts

/-! ## The registered row -/

/-- The row that registering a policy leaves behind, up to its time and transaction. -/
def columnsOf (pg : Postgres) (p : PolicyFields) (bytes : Bytes) : SelectionPolicyColumns where
  policyHash := pg.sha256 bytes
  forecastResolutionPolicyHash := p.forecastResolutionPolicyHash
  forecastAvailabilityRuleSetHash := p.forecastAvailabilityRuleSetHash
  outcomeResolutionPolicyHash := p.outcomeResolutionPolicyHash
  outcomeAvailabilityRuleSetHash := p.outcomeAvailabilityRuleSetHash
  resolutionLagSeconds := p.resolutionLagSeconds
  fitWindowStart := p.fitWindow.start
  fitWindowEnd := p.fitWindow.last
  heldoutWindowStart := p.heldoutWindow.start
  heldoutWindowEnd := p.heldoutWindow.last
  minimumFitMemberCount := p.minimumFitMemberCount
  minimumHeldoutMemberCount := p.minimumHeldoutMemberCount
  minimumSealLeadSeconds := p.minimumSealLeadSeconds
  selectedSteps := p.selectedSteps
  canonicalPolicy := bytes
  recordedAt := 0
  creatorXid := 1

theorem projects_columnsOf (pg : Postgres) (p : PolicyFields) (bytes : Bytes) :
    Projects pg p bytes (columnsOf pg p bytes) :=
  ⟨rfl, rfl, rfl, rfl, rfl, rfl, ⟨rfl, rfl⟩, ⟨rfl, rfl⟩, rfl, rfl, rfl, rfl, rfl⟩

theorem length_selectedSteps {fields : PolicyFields} (valid : fields.Valid) :
    1 ≤ fields.selectedSteps.length ∧ fields.selectedSteps.length ≤ 252 := by
  have hNodup : fields.selectedSteps.Nodup := valid.stepsSorted.imp ne_of_lt
  have hSubset : fields.selectedSteps.toFinset ⊆ Finset.Icc 1 252 := by
    intro step hStep
    rw [List.mem_toFinset] at hStep
    exact Finset.mem_Icc.mpr (valid.steps step hStep).1
  have hCard := Finset.card_le_card hSubset
  rw [List.toFinset_card_of_nodup hNodup, Int.card_Icc] at hCard
  exact ⟨List.length_pos_iff.mpr valid.someStep, by omega⟩

theorem checks_columnsOf (documented : pg.Documented) {floats : FloatText} {bytes : Bytes}
    (h : canonicalSelectionPolicy floats p = .ok bytes) :
    (columnsOf pg p.toPolicyFields bytes).Checks pg := by
  obtain ⟨-, hBounds⟩ := canonicalSelectionPolicy_eq_ok.mp h
  have hValid := p.valid
  exact ⟨⟨documented.sha256 bytes, hValid.forecastResolution, hValid.forecastAvailability,
      hValid.outcomeResolution, hValid.outcomeAvailability⟩, hValid.lag,
    ⟨p.fitWindow.ordered, hValid.windows, p.heldoutWindow.ordered⟩,
    ⟨hValid.fitCount.1, hValid.fitCount.2, hValid.heldoutCount.1, hValid.heldoutCount.2⟩,
    hValid.sealLead, length_selectedSteps hValid, hBounds, rfl, Nat.one_pos⟩

/-! ## Agreement -/

/-- Members of the two parts that comply with the registered policy. -/
def PartsComply (session : pg.Session) (floats : FloatText) (p : ProspectiveForecastSelectionPolicy)
    (documents : Purpose → List Value) : Prop :=
  ∃ bytes, canonicalSelectionPolicy floats p = .ok bytes ∧ ∃ row : SelectionPolicyRow pg,
    Projects pg p.toPolicyFields bytes row.toSelectionPolicyColumns ∧
      ∀ q, Complies session row (some q.name) (documents q)

/-- The planner accepts the candidates and gives each its purpose. -/
def Assigns (floats : FloatText) (sha256 : Bytes → String) (p : ProspectiveForecastSelectionPolicy)
    (candidates : List ForecastSelectionCandidate) (purpose : ForecastSelectionCandidate → Purpose) :
    Prop :=
  ∃ assignments, assignSelectionPurposes floats sha256 p candidates = .ok assignments ∧
    (assignments.map ForecastPurposeAssignment.candidate).Perm candidates ∧
    ∀ a ∈ assignments, a.purpose = purpose a.candidate

theorem assigns_iff {floats : FloatText} {sha256 : Bytes → String}
    {candidates : List ForecastSelectionCandidate} {purpose : ForecastSelectionCandidate → Purpose}
    (some : candidates ≠ []) (bounded : candidates.length ≤ 10000) :
    Assigns floats sha256 p candidates purpose ↔
      (∃ bytes, canonicalSelectionPolicy floats p = .ok bytes) ∧ Assignable p candidates ∧
        (∀ c ∈ candidates,
          (stepsAmong candidates c.opportunityHash).toFinset = p.selectedSteps.toFinset) ∧
        ∀ c ∈ candidates, purposeOf p c = purpose c := by
  have hLength := List.length_pos_iff.mpr some
  simp only [Assigns, assignSelectionPurposes_eq_ok]
  constructor
  · rintro ⟨_, ⟨-, bytes, hBytes, hAssignable, hComplete, rfl⟩, -, hPurpose⟩
    refine ⟨⟨bytes, hBytes⟩, hAssignable, hComplete, fun c hc => ?_⟩
    exact hPurpose ⟨c, purposeOf p c, sha256 bytes⟩
      ((List.mem_insertionSort _).mpr (List.mem_map.mpr ⟨c, hc, rfl⟩))
  · rintro ⟨⟨bytes, hBytes⟩, hAssignable, hComplete, hPurpose⟩
    refine ⟨_, ⟨⟨hLength, by omega⟩, bytes, hBytes, hAssignable, hComplete, rfl⟩, ?_, ?_⟩
    · have hPerm := (List.perm_insertionSort ForecastPurposeAssignment.Before
        (candidates.map fun c => ⟨c, purposeOf p c, sha256 bytes⟩)).map
          ForecastPurposeAssignment.candidate
      rwa [List.map_map, Function.comp_def, List.map_id'] at hPerm
    · intro a ha
      obtain ⟨c, hc, rfl⟩ := List.mem_map.mp ((List.mem_insertionSort _).mp ha)
      exact hPurpose c hc

theorem assigns_iff_partsComply (documented : pg.Documented) {floats : FloatText}
    {candidates : List ForecastSelectionCandidate} {purpose : ForecastSelectionCandidate → Purpose}
    {documents : Purpose → List Value} (some : candidates ≠ []) (bounded : candidates.length ≤ 10000)
    (distinct : (candidates.map ForecastSelectionCandidate.key).Nodup)
    (spells : ∀ q, ∃ order, order.Perm (part purpose candidates q) ∧
      List.Forall₂ Spells (documents q) order) :
    Assigns floats pg.sha256 p candidates purpose ↔ PartsComply session floats p documents := by
  rw [assigns_iff some bounded, ← parts_iff distinct]
  have hComplies : ∀ {bytes : Bytes} {row : SelectionPolicyRow pg},
      Projects pg p.toPolicyFields bytes row.toSelectionPolicyColumns → ∀ q,
      (Complies session row (.some q.name) (documents q) ↔
        (∀ c ∈ part purpose candidates q, purposeForTargetTime p c.targetTime = .some q) ∧
        ∀ c ∈ part purpose candidates q,
          (stepsAmong (part purpose candidates q) c.opportunityHash).insertionSort (· ≤ ·) =
            p.selectedSteps) := by
    intro bytes row hProjects q
    obtain ⟨order, hPerm, hSpells⟩ := spells q
    have hSteps : ∀ o, (stepsAmong order o).insertionSort (· ≤ ·) =
        (stepsAmong (part purpose candidates q) o).insertionSort (· ≤ ·) := by
      intro o
      have hSorted := List.perm_insertionSort (· ≤ ·) (stepsAmong order o)
      have hSorted' := List.perm_insertionSort (· ≤ ·) (stepsAmong (part purpose candidates q) o)
      exact (hSorted.trans ((stepsAmong_perm hPerm o).trans hSorted'.symm)).eq_of_pairwise'
        (List.pairwise_insertionSort _ _) (List.pairwise_insertionSort _ _)
    rw [complies_iff documented hProjects hSpells]
    simp only [hPerm.mem_iff, hSteps]
  constructor
  · rintro ⟨⟨bytes, hBytes⟩, hParts⟩
    have hProjects := projects_columnsOf pg p.toPolicyFields bytes
    exact ⟨bytes, hBytes, ⟨_, checks_columnsOf documented hBytes⟩, hProjects,
      fun q => (hComplies hProjects q).mpr (hParts q)⟩
  · rintro ⟨bytes, hBytes, row, hProjects, hPasses⟩
    exact ⟨⟨bytes, hBytes⟩, fun q => (hComplies hProjects q).mp (hPasses q)⟩

/-! A policy of two symbols and two steps. -/

/-- A text of the form of a digest. -/
@[irreducible] def sampleHash (n : Nat) : String := String.ofList (['s', 'h', 'a', '2', '5', '6', ':'] ++
    Float64.hexChars 64 n)

theorem isHash_sampleHash (n : Nat) : IsHash (sampleHash n) := by
  have hLength : (Float64.hexChars 64 n).length = 64 := Float64.length_hexChars 64 n
  have hDigits : (Float64.hexChars 64 n).all hexChar = true := Float64.all_hexChars 64 n
  rw [IsHash, sampleHash, String.toList_ofList]
  generalize Float64.hexChars 64 n = digits at hLength hDigits
  refine ⟨rfl, ?_, hDigits⟩
  rw [List.length_append, hLength]
  rfl

theorem sampleFields_january : 1 ≤ 1 ∧ 1 ≤ 12 := by decide

def sampleFields : PolicyFields where
  symbols := ["AAPL", "SPY"]
  target := "close"
  seriesBasis := "raw"
  horizonUnit := "trading_day"
  currency := "USD"
  modelSelector := "baseline_naive"
  modelVersion := "baseline-naive@1"
  horizon := 2
  selectedSteps := [1, 2]
  intervalCoveragesMillis := [800]
  fitWindow := ⟨⟨2030, 1, 1, by decide, sampleFields_january, by decide⟩,
    ⟨2030, 1, 31, by decide, sampleFields_january, by decide⟩, by decide⟩
  heldoutWindow := ⟨⟨2030, 2, 1, by decide, by decide, by decide⟩,
    ⟨2030, 2, 28, by decide, by decide, by decide⟩, by decide⟩
  minimumFitMemberCount := 1
  minimumHeldoutMemberCount := 1
  minimumSealLeadSeconds := 14400
  cadence := "xnys_session_daily"
  snapshotBinding := "explicit_snapshot_id"
  selectionRule := "complete_selected_step_bundle_within_one_utc_target_window"
  resolutionLagSeconds := 86400
  forecastResolutionPolicyHash := sampleHash 3
  forecastAvailabilityRuleSetHash := sampleHash 4
  outcomeResolutionPolicyHash := sampleHash 1
  outcomeAvailabilityRuleSetHash := sampleHash 5
  schemaVersion := 1

theorem isModelVersion_sample : IsModelVersion sampleFields.modelVersion := by
  have hText : sampleFields.modelVersion.toList =
      ['b', 'a', 's', 'e', 'l', 'i', 'n', 'e', '-', 'n', 'a', 'i', 'v', 'e', '@', '1'] := by
    simp [sampleFields]
  simp [IsModelVersion, hText]

theorem valid_sampleFields : sampleFields.Valid where
  schemaVersion := rfl
  symbolCount := by decide
  symbols := by decide
  symbolsSorted := by decide
  target := rfl
  seriesBasis := rfl
  horizonUnit := rfl
  currency := rfl
  model := ⟨"baseline-naive@", by decide, isModelVersion_sample, by decide⟩
  horizon := by decide
  someStep := by decide
  steps := by decide
  stepsSorted := by decide
  coverageCount := by decide
  coverages := by decide
  coveragesSorted := List.pairwise_singleton _ _
  windows := by decide
  fitCount := by decide
  heldoutCount := by decide
  sealLead := by decide
  cadence := rfl
  snapshotBinding := rfl
  selectionRule := rfl
  forecastResolution := isHash_sampleHash 3
  forecastAvailability := isHash_sampleHash 4
  outcomeResolution := isHash_sampleHash 1
  outcomeAvailability := isHash_sampleHash 5
  lag := by decide

def samplePolicy : ProspectiveForecastSelectionPolicy := ⟨sampleFields, valid_sampleFields⟩

/-- A server whose digest tells texts of different lengths apart. -/
def sampleServer : Postgres :=
  { Postgres.minimal fun bytes => sampleHash bytes.length with
    numeric := fun text =>
      if text = "0.8" then some (4 / 5) else (Digits.read text.toList).map fun (n : Nat) => (n : Rat)
    uuid := Uuid.ofText asciiDigits
    uuidText := Uuid.text }

theorem documented_sampleServer : sampleServer.Documented :=
  have hMinimal := documented_minimal fun bytes : Bytes => isHash_sampleHash bytes.length
  ⟨hMinimal.timestamptz, hMinimal.integer, hMinimal.sha256⟩

end StockApi.Selection

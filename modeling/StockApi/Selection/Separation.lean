import StockApi.Selection.Registry
import StockApi.Selection.Size

/-!
# Fit and held-out evidence

What the database has committed under a policy keeps its two purposes apart, and the planner accepts what
the trigger of the manifests accepts.
-/

namespace StockApi.Selection

open Checked CivilTime Documents Evidence Jsonb JsonText Mvcc Postgres Relation Relational Text

section Trigger

variable {pg : Postgres} {session : pg.Session} {floats : FloatText} {p : ProspectiveForecastSelectionPolicy}
  {row : SelectionPolicyRow pg} {candidates : List ForecastSelectionCandidate}
  {purpose : ForecastSelectionCandidate → Purpose} {manifests : Purpose → Option Bytes} {q : Purpose}

/-- A manifest of candidates in some order. -/
def Lists (manifest : Bytes) (candidates : List ForecastSelectionCandidate) : Prop :=
  ∃ document members order, Jsonb.read manifest = some document ∧
    get (some document) "members" = some (.arr members) ∧ order.Perm candidates ∧
    List.Forall₂ Spells members order

/-- A manifest for each purpose that has candidates. -/
def Splits (purpose : ForecastSelectionCandidate → Purpose) (candidates : List ForecastSelectionCandidate)
    (manifests : Purpose → Option Bytes) : Prop :=
  ∀ q, (part purpose candidates q = [] ∧ manifests q = none) ∨
    ∃ manifest, manifests q = some manifest ∧ Lists manifest (part purpose candidates q)

/-- A manifest of a purpose as its first trigger leaves it, under the policy of a row. -/
structure Submits (row : SelectionPolicyRow pg) (q : Purpose) (manifest : Bytes) (draft : ManifestDraft) : Prop where
  bytes : draft.canonicalManifest = manifest
  policy : draft.selectionPolicyHash = some row.policyHash
  named : draft.purpose = some q.name
  resolution : draft.outcomeResolutionPolicyHash = some row.outcomeResolutionPolicyHash
  availability : draft.availabilityRuleSetHash = some row.outcomeAvailabilityRuleSetHash

/-- The last query of the validator, alone. -/
def checkRuns (session : pg.Session) (policy : SelectionPolicyRow pg) (runs : List (RunRow pg))
    (snapshots : List SnapshotRow) (manifest : Bytes) : Except SqlError PUnit := do
  let document ← orRefuse (Jsonb.read manifest) castError
  let selection ← orRefuse (Jsonb.read policy.canonicalPolicy) castError
  let members ← arrayElements (get (some document) "members")
  members.forM (checkRunEvidence session policy (get (some selection) "study") runs snapshots)

/-- The window and the bundle check let a manifest through: whatever runs are archived, the validator says what
its last query says. -/
def PassesChecks (session : pg.Session) (row : SelectionPolicyRow pg) (q : Purpose) (manifest : Bytes) : Prop :=
  ∀ draft, Submits row q manifest draft → ∀ policies : List (SelectionPolicyRow pg),
    policies.find? (fun other => decide (some other.policyHash = draft.selectionPolicyHash)) = some row →
      ∀ runs snapshots, validateForecastCohortSelectionPolicy session policies runs snapshots draft =
        checkRuns session row runs snapshots manifest

/-- The manifests of the two purposes pass both checks under the registered policy. -/
def PassesTrigger (session : pg.Session) (floats : FloatText) (p : ProspectiveForecastSelectionPolicy)
    (manifests : Purpose → Option Bytes) : Prop :=
  ∃ bytes, canonicalSelectionPolicy floats p = .ok bytes ∧ ∃ row : SelectionPolicyRow pg,
    Projects pg p.toPolicyFields bytes row.toSelectionPolicyColumns ∧
      ∀ q, ∀ manifest ∈ manifests q, PassesChecks session row q manifest

theorem outsideWindow_ne : SqlError.mk "23000" "cohort target lies outside its policy purpose window" ≠ castError ∧
    SqlError.mk "23000" "cohort target lies outside its policy purpose window" ≠ mismatch := by
  decide

theorem incompleteBundle_ne :
    SqlError.mk "23000" "each cohort opportunity must contain the exact selected-step bundle" ≠ castError ∧
      SqlError.mk "23000" "each cohort opportunity must contain the exact selected-step bundle" ≠ mismatch := by
  decide

/-- Without archived runs the last query refuses the first member, and not with the error of a check. -/
theorem forM_checkRunEvidence_ne {study : Option Value} {members : List Value} {e : SqlError} (some : members ≠ [])
    (other : e ≠ castError ∧ e ≠ mismatch) :
    .error e ≠ members.forM (checkRunEvidence session row study [] []) := by
  obtain ⟨first, rest, rfl⟩ := List.exists_cons_of_ne_nil some
  change .error e ≠ (checkRunEvidence session row study [] [] first >>= fun _ => rest.forM _)
  rw [checkRunEvidence]
  cases h : castText pg.uuid castError (getText (.some first) "forecast_id") with
  | error e' =>
    have hCast : e' = castError := by
      cases hText : getText (.some first) "forecast_id" with
      | none =>
        rw [hText] at h
        cases h
      | some text =>
        rw [hText] at h
        cases hId : pg.uuid text with
        | none =>
          rw [castText, hId] at h
          cases h
          rfl
        | some id =>
          rw [castText, hId] at h
          cases h
    rw [error_bind, error_bind, hCast]
    exact fun hSame => other.1 (Except.error.inj hSame)
  | ok id =>
    rw [ok_bind, List.find?_nil]
    exact fun hSame => other.2 (Except.error.inj hSame)

theorem passesChecks_iff (documented : pg.Documented) {bytes : Bytes}
    (canonical : canonicalSelectionPolicy floats p = .ok bytes)
    (projects : Projects pg p.toPolicyFields bytes row.toSelectionPolicyColumns) {manifest : Bytes}
    {document : Value} {members : List Value} {order : List ForecastSelectionCandidate}
    (reads : Jsonb.read manifest = some document) (lists : get (some document) "members" = some (.arr members))
    (spells : List.Forall₂ Spells members order) :
    PassesChecks session row q manifest ↔ Complies session row (some q.name) members := by
  obtain ⟨targets, hTargets⟩ : ∃ targets, members.mapM (memberTargetTime session) = .ok targets := by
    refine ⟨order.map fun c => some (c.targetTime.micros : Int), mapM_of_forall₂ ?_⟩
    rw [List.forall₂_map_right_iff]
    exact spells.imp fun member c h => h.memberTargetTime documented
  obtain ⟨bundles, hBundles⟩ : ∃ bundles, members.mapM (memberBundle pg) = .ok bundles := by
    refine ⟨order.map fun c => (some c.opportunityHash, some c.step), mapM_of_forall₂ ?_⟩
    rw [List.forall₂_map_right_iff]
    exact spells.imp fun member c h => h.memberBundle documented
  obtain ⟨selection, hSelection⟩ : ∃ selection, Jsonb.read row.canonicalPolicy = some selection := by
    rw [projects.bytes, (canonicalSelectionPolicy_eq_ok.mp canonical).1]
    exact ⟨_, read_canonical p.valid⟩
  have hRuns : ∀ runs snapshots, checkRuns session row runs snapshots manifest =
      members.forM (checkRunEvidence session row (get (some selection) "study") runs snapshots) := by
    intro runs snapshots
    rw [checkRuns, reads, orRefuse_some, ok_bind, hSelection, orRefuse_some, ok_bind, lists, arrayElements, ok_bind]
  have hValidate : ∀ draft policies runs snapshots, Submits row q manifest draft →
      policies.find? (fun other => decide (some other.policyHash = draft.selectionPolicyHash)) = some row →
      validateForecastCohortSelectionPolicy session policies runs snapshots draft = (do
        refuseIf (∃ t ∈ targets, OutsideWindow row (some q.name) t)
          (SqlError.mk "23000" "cohort target lies outside its policy purpose window")
        refuseIf (¬ CompleteBundles row bundles)
          (SqlError.mk "23000" "each cohort opportunity must contain the exact selected-step bundle")
        members.forM (checkRunEvidence session row (get (some selection) "study") runs snapshots)) := by
    intro draft policies runs snapshots hSubmits hFound
    have hEpoch : ¬ (draft.outcomeResolutionPolicyHash ≠ some row.outcomeResolutionPolicyHash ∨
        draft.availabilityRuleSetHash ≠ some row.outcomeAvailabilityRuleSetHash) := by
      simp [hSubmits.resolution, hSubmits.availability]
    rw [validateForecastCohortSelectionPolicy, hFound, orRefuse_some, ok_bind, refuseIf_of_not hEpoch, ok_bind,
      hSubmits.bytes, reads, orRefuse_some, ok_bind, hSelection, orRefuse_some, ok_bind, lists, arrayElements, ok_bind,
      hTargets, ok_bind, hBundles, hSubmits.named]
    rfl
  have hSome : targets ≠ [] ∨ bundles ≠ [] → members ≠ [] := by
    rintro hSome rfl
    rw [List.mapM_nil, pure_eq_ok, Except.ok.injEq] at hTargets hBundles
    rcases hSome with h | h
    · exact h hTargets.symm
    · exact h hBundles.symm
  constructor
  · intro hPasses
    let draft : ManifestDraft := ⟨"", some row.policyHash, some row.outcomeResolutionPolicyHash,
      some row.outcomeAvailabilityRuleSetHash, some q.name, 0, none, none, 0, 0, manifest⟩
    have hSubmits : Submits row q manifest draft := ⟨rfl, rfl, rfl, rfl, rfl⟩
    have hFound : [row].find? (fun other => decide (some other.policyHash = draft.selectionPolicyHash)) = some row :=
      List.find?_cons_of_pos (decide_eq_true rfl)
    have hSame := hPasses draft hSubmits [row] hFound [] []
    rw [hValidate draft [row] [] [] hSubmits hFound, hRuns] at hSame
    by_cases hWindow : ∃ t ∈ targets, OutsideWindow row (some q.name) t
    · rw [refuseIf_of hWindow, error_bind] at hSame
      obtain ⟨t, hMem, -⟩ := hWindow
      exact absurd hSame (forM_checkRunEvidence_ne (hSome (.inl (List.ne_nil_of_mem hMem))) outsideWindow_ne)
    rw [refuseIf_of_not hWindow, ok_bind] at hSame
    by_cases hComplete : CompleteBundles row bundles
    · exact ⟨⟨_, hTargets, fun t hMem hOutside => hWindow ⟨t, hMem, hOutside⟩⟩, _, hBundles, hComplete⟩
    · rw [refuseIf_of hComplete, error_bind] at hSame
      have hBundle : bundles ≠ [] := by
        rintro rfl
        exact hComplete fun b hMem => absurd hMem List.not_mem_nil
      exact absurd hSame (forM_checkRunEvidence_ne (hSome (.inr hBundle)) incompleteBundle_ne)
  · rintro ⟨⟨own, hOwnTargets, hInside⟩, ownBundles, hOwnBundles, hComplete⟩ draft hSubmits policies hFound runs
      snapshots
    obtain rfl := Except.ok.inj (hOwnTargets.symm.trans hTargets)
    obtain rfl := Except.ok.inj (hOwnBundles.symm.trans hBundles)
    have hWindow : ¬ ∃ t ∈ own, OutsideWindow row (some q.name) t := by
      rintro ⟨t, hMem, hOutside⟩
      exact hInside t hMem hOutside
    rw [hValidate draft policies runs snapshots hSubmits hFound, hRuns, refuseIf_of_not hWindow, ok_bind,
      refuseIf_of_not (not_not.mpr hComplete), ok_bind]

theorem assigns_iff_passesTrigger (documented : pg.Documented) (some : candidates ≠ [])
    (bounded : candidates.length ≤ 10000) (distinct : (candidates.map ForecastSelectionCandidate.key).Nodup)
    (splits : Splits purpose candidates manifests) :
    Assigns floats pg.sha256 p candidates purpose ↔ PassesTrigger session floats p manifests := by
  have hParts : ∀ q, ∃ members, (∃ order, order.Perm (part purpose candidates q) ∧
        List.Forall₂ Spells members order) ∧
      ∀ {bytes : Bytes} {row : SelectionPolicyRow pg}, canonicalSelectionPolicy floats p = .ok bytes →
        Projects pg p.toPolicyFields bytes row.toSelectionPolicyColumns →
          ((∀ manifest ∈ manifests q, PassesChecks session row q manifest) ↔
            Complies session row (.some q.name) members) := by
    intro q
    rcases splits q with ⟨hEmpty, hNone⟩ | ⟨manifest, hManifest, document, members, order, hRead, hLists, hPerm,
      hSpells⟩
    · refine ⟨[], ⟨[], by rw [hEmpty], .nil⟩, fun _ _ => ⟨fun _ => ⟨⟨[], rfl, ?_⟩, [], rfl, ?_⟩, ?_⟩⟩
      · exact fun t hMem => absurd hMem List.not_mem_nil
      · exact fun b hMem => absurd hMem List.not_mem_nil
      · intro _ manifest hMem
        rw [hNone] at hMem
        cases hMem
    · refine ⟨members, ⟨order, hPerm, hSpells⟩, fun hCanonical hProjects => ?_⟩
      have hChecks : PassesChecks session _ q manifest ↔ Complies session _ (.some q.name) members :=
        passesChecks_iff documented hCanonical hProjects hRead hLists hSpells
      rw [← hChecks, hManifest]
      exact ⟨fun h => h manifest rfl, fun h _ hMem => Option.some.inj hMem ▸ h⟩
  choose documents hLists hSame using hParts
  rw [assigns_iff_partsComply documented some bounded distinct hLists]
  constructor
  · rintro ⟨bytes, hBytes, row, hProjects, hComply⟩
    exact ⟨bytes, hBytes, row, hProjects, fun q => (hSame q hBytes hProjects).mpr (hComply q)⟩
  · rintro ⟨bytes, hBytes, row, hProjects, hPasses⟩
    exact ⟨bytes, hBytes, row, hProjects, fun q => (hSame q hBytes hProjects).mp (hPasses q)⟩

/-- Fit and held-out evidence of a policy never mix, and the planner plans what the trigger accepts. -/
theorem purposes_never_mix (documented : pg.Documented) :
    (∀ s : State pg, Reachable s → ∀ policy ∈ Mvcc.committed s.fates s.selectionPolicies,
      Separated s policy.row) ∧
    ∀ (session : pg.Session) (floats : FloatText) (p : ProspectiveForecastSelectionPolicy)
      (candidates : List ForecastSelectionCandidate) (purpose : ForecastSelectionCandidate → Purpose)
      (manifests : Purpose → Option Bytes), candidates ≠ [] → candidates.length ≤ 10000 →
      (candidates.map ForecastSelectionCandidate.key).Nodup → Splits purpose candidates manifests →
      (Assigns floats pg.sha256 p candidates purpose ↔ PassesTrigger session floats p manifests) :=
  ⟨fun _ reachable _ registered => reachable.separated registered,
    fun _ _ _ _ _ _ some bounded distinct splits => assigns_iff_passesTrigger documented some bounded distinct splits⟩

end Trigger

/-! ## A fit and a held-out cohort -/

def sampleSymbol : Purpose → String
  | .calibrationFit => "SPY"
  | .heldoutEvaluation => "AAPL"

def sampleForecast : Purpose → Uuid
  | .calibrationFit => 1
  | .heldoutEvaluation => 2

def sampleOpportunity : Purpose → String
  | .calibrationFit => sampleHash 11
  | .heldoutEvaluation => sampleHash 12

def sampleSnapshotId : Purpose → String
  | .calibrationFit => sampleHash 21
  | .heldoutEvaluation => sampleHash 22

/-- The selected steps. -/
inductive SampleStep where
  | first
  | second
deriving DecidableEq

def SampleStep.number : SampleStep → Nat
  | .first => 1
  | .second => 2

theorem SampleStep.number_bounds (step : SampleStep) : 1 ≤ step.number ∧ step.number ≤ 2 := by
  cases step <;> decide

/-- Days after the start of 2030: two of January, and two of February. -/
def sampleDay : Purpose → SampleStep → Nat
  | .calibrationFit, step => step.number
  | .heldoutEvaluation, step => 33 + step.number

theorem sampleTarget_lt (q : Purpose) (step : SampleStep) :
    64029128400000000 + sampleDay q step * dayMicros < maxDays * dayMicros := by
  cases q <;> cases step <;> decide

/-- The close of a day. -/
def sampleTarget (q : Purpose) (step : SampleStep) : Instant :=
  ⟨64029128400000000 + sampleDay q step * dayMicros, sampleTarget_lt q step⟩

theorem tenths_bounded : 8 < 10 ^ 1 := by decide

/-- The text of an interval coverage of four fifths. -/
def coverageFloats : FloatText :=
  ⟨fun _ => 4 / 5, fun _ => ⟨false, 0, some ⟨1, 8, Nat.one_pos, tenths_bounded⟩, none⟩⟩

def requestDocument (q : Purpose) : Document :=
  .obj [("format", .plain "forecast-run-request-v1"),
    ("payload", .obj [("as_of", .null), ("horizon", .int 2), ("horizon_unit", .plain "trading_day"),
      ("interval_coverages", .arr [.float (4 / 5)]), ("model", .plain "baseline_naive"),
      ("snapshot_id", .plain (sampleSnapshotId q)), ("symbol", .plain (sampleSymbol q)), ("target", .plain "close")]),
    ("schema_version", .int 1)]

def stepDocument (q : Purpose) (step : SampleStep) : Document :=
  .obj [("intervals", .arr [.obj [("coverage", .float (4 / 5))]]), ("point", .int 100),
    ("step", .int step.number), ("target_time", .plain (sampleTarget q step).timestamp)]

def outputDocument (q : Purpose) : Document :=
  .obj [("format", .plain "forecast-run-output-v1"),
    ("payload", .obj [("currency", .plain "USD"), ("forecasts", .arr [stepDocument q .first, stepDocument q .second]),
      ("horizon", .int 2), ("horizon_unit", .plain "trading_day"),
      ("provenance", .obj [("forecast_id", .plain (sampleForecast q).text),
      ("model_version", .plain "baseline-naive@1"),
        ("series_basis", .plain "raw"), ("snapshot_id", .plain (sampleSnapshotId q))]),
      ("symbol", .plain (sampleSymbol q)), ("target", .plain "close")]),
    ("schema_version", .int 1)]

def snapshotDocument (q : Purpose) : Document :=
  .obj [("availability", .obj [("rule_set_hash", .plain sampleFields.forecastAvailabilityRuleSetHash),
      ("status", .plain "passed")]),
    ("currency", .plain "USD"), ("format", .plain "forecast-input-snapshot-v1"), ("horizon_unit", .plain "trading_day"),
    ("resolution_policy_hash", .plain sampleFields.forecastResolutionPolicyHash), ("schema_version", .int 1),
    ("series_basis", .plain "raw"), ("symbol", .plain (sampleSymbol q)), ("target", .plain "close"),
    ("target_times", .arr [.plain (sampleTarget q .first).timestamp, .plain (sampleTarget q .second).timestamp])]

/-! The bytes that are hashed, with their lengths. -/

def policyLength : Nat := 1373

def requestLength : Purpose → Nat
  | .calibrationFit => 293
  | .heldoutEvaluation => 294

def outputLength : Purpose → Nat
  | .calibrationFit => 578
  | .heldoutEvaluation => 579

def cohortLength : Purpose → Nat
  | .calibrationFit => 984
  | .heldoutEvaluation => 987

def memberDocument (q : Purpose) (step : SampleStep) : Document :=
  .obj [("forecast_id", .plain (sampleForecast q).text), ("opportunity_hash", .plain (sampleOpportunity q)),
    ("output_hash", .plain (sampleHash (outputLength q))), ("step", .int step.number),
    ("target_time", .plain (sampleTarget q step).timestamp)]

def cohortDocument (q : Purpose) : Document :=
  .obj [("availability_rule_set_hash", .plain sampleFields.outcomeAvailabilityRuleSetHash),
    ("format", .plain "forecast-outcome-cohort-v1"), ("members", .arr
      [memberDocument q .first, memberDocument q .second]),
    ("outcome_resolution_policy_hash", .plain sampleFields.outcomeResolutionPolicyHash), ("purpose", .plain q.name),
    ("schema_version", .int 1), ("selection_policy_hash", .plain (sampleHash policyLength))]

theorem hasZero_of_plain {s : String} (h : PlainText s) : hasZero s = false := hasZero_of_all h (by decide)

theorem plain_sampleHash (n : Nat) : PlainText (sampleHash n) := plain_hash (isHash_sampleHash n)

/-- A document of a known length that the server keeps. -/
structure Archived (d : Document) (length : Nat) : Prop where
  plain : Plain d
  size : size coverageFloats d = length
  kept : Kept (toValue coverageFloats d)

section Archived

variable {d : Document} {n : Nat}

theorem Archived.length (h : Archived d n) : (dumps coverageFloats d).length = n :=
  (length_dumps _ h.plain).trans h.size

theorem Archived.sha256 (h : Archived d n) : sampleServer.sha256 (dumps coverageFloats d) = sampleHash n :=
  congrArg sampleHash h.length

theorem Archived.read (h : Archived d n) :
    Jsonb.read (dumps coverageFloats d) = some (stored (toValue coverageFloats d)) := read_dumps h.kept

end Archived

theorem archived_policy : Archived (policyDocument sampleFields) policyLength where
  plain := plain_policyDocument valid_sampleFields
  size := by
    rw [size_policyDocument valid_sampleFields]
    rfl
  kept := kept_policyDocument coverageFloats valid_sampleFields

/-- No text of the documents needs an escape, and the server keeps them. -/
theorem documents_plain (q : Purpose) : Plain (requestDocument q) ∧ Plain (outputDocument q) ∧
    Plain (cohortDocument q) := by
  refine ⟨?_, ?_, ?_⟩ <;> cases q <;> simp only [requestDocument, outputDocument, stepDocument, cohortDocument,
    memberDocument, sampleFields, sampleOpportunity, Plain, PlainItems, PlainEntries, Json.plain, sampleSnapshotId,
    plain_sampleHash, plain_uuid,
    plain_timestamp, and_true] <;> decide +kernel

theorem documents_kept (q : Purpose) : Kept (toValue coverageFloats (requestDocument q)) ∧
    Kept (toValue coverageFloats (outputDocument q)) ∧ Kept (toValue coverageFloats (cohortDocument q)) ∧
    Kept (toValue coverageFloats (snapshotDocument q)) := by
  refine ⟨?_, ?_, ?_, ?_⟩ <;> cases q <;> simp only [requestDocument, outputDocument, stepDocument, cohortDocument,
    memberDocument, snapshotDocument, sampleFields, sampleOpportunity, toValue, toEntries, toItems, Json.plain,
    Kept, KeptItems,
    KeptEntries, List.map_cons, List.map_nil, and_true, numeric_ofInt, sampleSnapshotId,
    hasZero_of_plain (plain_sampleHash _), hasZero_of_plain (plain_uuid _),
    hasZero_of_plain (plain_timestamp _)] <;> decide +kernel

theorem archived_request (q : Purpose) : Archived (requestDocument q) (requestLength q) where
  plain := (documents_plain q).1
  size := by
    cases q <;> simp only [requestDocument, size, sizeItems, sizeEntries, Json.plain, sampleSnapshotId,
      sampleSymbol, (isHash_sampleHash _).2.1, String.reduceToList, List.length_cons, List.length_nil] <;> rfl
  kept := (documents_kept q).1

theorem archived_output (q : Purpose) : Archived (outputDocument q) (outputLength q) where
  plain := (documents_plain q).2.1
  size := by
    cases q <;> simp only [outputDocument, stepDocument, size, sizeItems, sizeEntries, Json.plain, sampleSnapshotId,
      sampleSymbol, (isHash_sampleHash _).2.1, length_uuid, length_timestamp, String.reduceToList, List.length_cons,
      List.length_nil] <;> rfl
  kept := (documents_kept q).2.1

theorem archived_cohort (q : Purpose) : Archived (cohortDocument q) (cohortLength q) where
  plain := (documents_plain q).2.2
  size := by
    cases q <;> simp only [cohortDocument, memberDocument, sampleFields, sampleOpportunity, Purpose.name, size,
      sizeItems, sizeEntries, Json.plain, (isHash_sampleHash _).2.1, length_uuid, length_timestamp,
      String.reduceToList, List.length_cons, List.length_nil] <;> rfl
  kept := (documents_kept q).2.2.1

/-! Rows. -/

theorem canonical_sample : canonicalSelectionPolicy coverageFloats samplePolicy =
    .ok (dumps coverageFloats (policyDocument sampleFields)) := by
  refine canonicalSelectionPolicy_eq_ok.mpr ⟨rfl, ?_⟩
  rw [archived_policy.length]
  decide

theorem policyColumns_checks : (columnsOf sampleServer sampleFields
    (dumps coverageFloats (policyDocument sampleFields))).Checks sampleServer :=
  checks_columnsOf documented_sampleServer canonical_sample

def policyRow : SelectionPolicyRow sampleServer := ⟨_, policyColumns_checks⟩

def sampleSnapshot (q : Purpose) : SnapshotRow where
  snapshotId := sampleSnapshotId q
  resolutionPolicyHash := sampleFields.forecastResolutionPolicyHash
  symbol := sampleSymbol q
  target := "close"
  horizonUnit := "trading_day"
  seriesBasis := "raw"
  currency := some "USD"
  targetTimeCount := 2
  availabilityStatus := "passed"
  availabilityRuleSetHash := some sampleFields.forecastAvailabilityRuleSetHash
  canonicalPayload := dumps coverageFloats (snapshotDocument q)

def runColumns (q : Purpose) : RunColumns where
  forecastId := sampleForecast q
  originKind := .scheduledEvaluation
  idempotencyTokenDigest := none
  requestHash := sampleHash (requestLength q)
  opportunityHash := sampleOpportunity q
  outputHash := sampleHash (outputLength q)
  snapshotId := sampleSnapshotId q
  resolutionPolicyHash := sampleFields.forecastResolutionPolicyHash
  availabilityRuleSetHash := sampleFields.forecastAvailabilityRuleSetHash
  symbol := sampleSymbol q
  target := "close"
  horizon := 2
  horizonUnit := "trading_day"
  seriesBasis := "raw"
  asOf := 0
  maxAvailableAt := 0
  modelVersion := "baseline-naive@1"
  featureSetHash := sampleSnapshotId q
  generatedAt := 0
  recordedAt := 0
  canonicalRequest := dumps coverageFloats (requestDocument q)
  canonicalOutput := dumps coverageFloats (outputDocument q)

theorem sampleHashes (q : Purpose) : IsHash (sampleOpportunity q) ∧ IsHash (sampleSnapshotId q) := by
  cases q <;> exact ⟨isHash_sampleHash _, isHash_sampleHash _⟩

theorem lengths_bounded (q : Purpose) : (1 ≤ requestLength q ∧ requestLength q ≤ 1048576) ∧
    (1 ≤ outputLength q ∧ outputLength q ≤ 4194304) ∧ 1 ≤ cohortLength q ∧ cohortLength q ≤ 4194304 := by
  cases q <;> decide

theorem runColumns_checks (q : Purpose) : ((runColumns q).stamp 0).Checks sampleServer := by
  obtain ⟨hRequest, hOutput, -⟩ := lengths_bounded q
  obtain ⟨hOpportunity, hSnapshot⟩ := sampleHashes q
  have hSymbol : IsSymbol (sampleSymbol q) := by
    cases q <;> decide
  have hHashes : IsHash sampleFields.forecastResolutionPolicyHash ∧
    IsHash sampleFields.forecastAvailabilityRuleSetHash :=
    ⟨valid_sampleFields.forecastResolution, valid_sampleFields.forecastAvailability⟩
  rw [← (archived_request q).length] at hRequest
  rw [← (archived_output q).length] at hOutput
  unfold RunColumns.Checks
  simp only [RunColumns.stamp, runColumns, (archived_request q).sha256, (archived_output q).sha256]
  refine ⟨⟨isHash_sampleHash _, hOpportunity, isHash_sampleHash _, hSnapshot, hHashes.1, hHashes.2, hSnapshot⟩, ?_,
    hSymbol, by decide, by decide, by decide, by decide, by decide, hRequest, hOutput, trivial, trivial⟩
  rintro d hNone
  cases hNone

def sampleRun (q : Purpose) : RunRow sampleServer := ⟨(runColumns q).stamp 0, runColumns_checks q⟩

def manifestColumns (q : Purpose) : ManifestColumns where
  cohortId := sampleHash (cohortLength q)
  selectionPolicyHash := sampleHash policyLength
  outcomeResolutionPolicyHash := sampleFields.outcomeResolutionPolicyHash
  availabilityRuleSetHash := sampleFields.outcomeAvailabilityRuleSetHash
  purpose := q
  memberCount := 2
  earliestTargetTime := (sampleTarget q .first).micros
  latestTargetTime := (sampleTarget q .second).micros
  recordedAt := 0
  creatorXid := 1
  canonicalManifest := dumps coverageFloats (cohortDocument q)

theorem manifestColumns_checks (q : Purpose) : (manifestColumns q).Checks sampleServer := by
  obtain ⟨-, -, hCohort⟩ := lengths_bounded q
  have hTargets : (0 : Int) < (sampleTarget q .first).micros ∧ ((sampleTarget q .first).micros : Int) ≤
    (sampleTarget q .second).micros := by
    cases q <;> decide
  have hHashes : IsHash sampleFields.outcomeResolutionPolicyHash ∧ IsHash sampleFields.outcomeAvailabilityRuleSetHash :=
    ⟨valid_sampleFields.outcomeResolution, valid_sampleFields.outcomeAvailability⟩
  rw [← (archived_cohort q).length] at hCohort
  unfold ManifestColumns.Checks
  simp only [manifestColumns, (archived_cohort q).sha256]
  exact ⟨⟨isHash_sampleHash _, isHash_sampleHash _, hHashes.1, hHashes.2⟩, by decide, ⟨Nat.one_pos, hTargets⟩, hCohort,
    trivial⟩

def sampleManifest (q : Purpose) : ManifestRow sampleServer := ⟨manifestColumns q, manifestColumns_checks q⟩

def memberColumns (q : Purpose) (step : SampleStep) : MemberColumns where
  cohortId := sampleHash (cohortLength q)
  forecastId := sampleForecast q
  step := step.number
  targetTime := (sampleTarget q step).micros
  opportunityHash := sampleOpportunity q
  outputHash := sampleHash (outputLength q)
  selectionPolicyHash := sampleHash policyLength
  purpose := q

theorem memberColumns_checks (q : Purpose) (step : SampleStep) : (memberColumns q step).Checks := by
  have hStep := step.number_bounds
  unfold MemberColumns.Checks
  simp only [memberColumns]
  exact ⟨by omega, (sampleHashes q).1, isHash_sampleHash _, isHash_sampleHash _⟩

def sampleMember (q : Purpose) (step : SampleStep) : MemberRow := ⟨memberColumns q step, memberColumns_checks q step⟩

/-! Runs of the sample transaction. -/

theorem visible_own {α : Type} (x : Nat) (view : View) (rows : List α) :
    visible x view (rows.map (Stored.mk x)) = rows := by
  simp [visible, List.filter_map, Function.comp_def]

theorem sampleHash_ne {m n : Nat} (hm : m < 1000) (hn : n < 1000) (h : m ≠ n) : sampleHash m ≠ sampleHash n := by
  intro hSame
  rw [sampleHash, sampleHash, String.ofList_inj, List.append_cancel_left_eq] at hSame
  have hNumber := congrArg Float64.hexNumber hSame
  rw [Float64.hexNumber_hexChars 64 m (by omega), Float64.hexNumber_hexChars 64 n (by omega)] at hNumber
  exact h hNumber

/-- What one transaction has inserted before its manifests. -/
def preparedState : State sampleServer :=
  { State.initial sampleServer 0 with
    fates := Function.update (fun _ => .fresh) 1 .active
    outcomePolicies := [⟨1, sampleOutcomePolicy⟩]
    selectionPolicies := [⟨1, policyRow⟩]
    snapshots := [⟨1, sampleSnapshot .calibrationFit⟩, ⟨1, sampleSnapshot .heldoutEvaluation⟩]
    runs := [⟨1, sampleRun .calibrationFit⟩, ⟨1, sampleRun .heldoutEvaluation⟩] }

/-- No other transaction has written. -/
def noView : View := fun _ => false

theorem noView_of (fates : Nat → Fate) : noView.Of fates := fun _ h => Bool.noConfusion h

theorem Projects.eq_columnsOf {pg : Postgres} {p : PolicyFields} {bytes : Bytes} {c : SelectionPolicyColumns}
    (h : Projects pg p bytes c) (clock : c.recordedAt = 0) (creator : c.creatorXid = 1) : c = columnsOf pg p bytes := by
  obtain ⟨h1, h2, h3, h4, h5, h6, ⟨h7, h8⟩, ⟨h9, h10⟩, h11, h12, h13, h14, h15⟩ := h
  cases c
  simp only at h1 h2 h3 h4 h5 h6 h7 h8 h9 h10 h11 h12 h13 h14 h15 clock creator
  subst_vars
  rfl

theorem policy_stamped : stampForecastSelectionPolicy [sampleOutcomePolicy] 0 1
    (dumps coverageFloats (policyDocument sampleFields)) = .ok policyRow.toSelectionPolicyColumns := by
  have hNamed : ∃ row ∈ [sampleOutcomePolicy], (epochRead sampleFields).Names row :=
    ⟨sampleOutcomePolicy, List.mem_singleton_self _, rfl, rfl, rfl⟩
  obtain ⟨columns, hStamp⟩ := @stamp_of_policy sampleServer coverageFloats _ 0 1 _ _ canonical_sample hNamed
  obtain ⟨p, hCanonical, hProjects⟩ := policy_of_stamp coverageFloats hStamp
  obtain rfl : samplePolicy = p := Except.ok.inj ((parseSelectionPolicy_eq_ok.mpr canonical_sample).symm.trans
    (parseSelectionPolicy_eq_ok.mpr hCanonical))
  have hOwn : columns.recordedAt = 0 ∧ columns.creatorXid = 1 := by
    obtain ⟨-, _, -, -, _, _, _, _, _, _, -, -, rfl⟩ := stampForecastSelectionPolicy_eq_ok.mp hStamp
    exact ⟨rfl, rfl⟩
  rw [hStamp, hProjects.eq_columnsOf hOwn.1 hOwn.2]
  rfl

theorem policy_checked : policyRow.toSelectionPolicyColumns.toRow = .ok policyRow := dif_pos policyRow.checks

theorem prepared_reachable : ReflTransGen Step (State.initial sampleServer 0) preparedState := by
  let opened : State sampleServer :=
    { State.initial sampleServer 0 with fates := Function.update (fun _ => .fresh) 1 .active }
  have hActive : opened.fates 1 = .active := rfl
  have hOpened : Step (State.initial sampleServer 0) opened := .begin Nat.one_pos rfl
  let registered : State sampleServer := { opened with outcomePolicies := [⟨1, sampleOutcomePolicy⟩] }
  have hRegistered : Step opened registered :=
    .registerOutcomePolicy hActive rfl sampleOutcomePolicy fun _ hNone => absurd hNone List.not_mem_nil
  let selected : State sampleServer := { registered with selectionPolicies := [⟨1, policyRow⟩] }
  have hStamped : stampForecastSelectionPolicy (visible 1 noView registered.outcomePolicies) registered.clock 1
      (dumps coverageFloats (policyDocument sampleFields)) = .ok policyRow.toSelectionPolicyColumns := by
    rw [show visible 1 noView registered.outcomePolicies = [sampleOutcomePolicy] from
      visible_own 1 noView [sampleOutcomePolicy]]
    exact policy_stamped
  have hSelected : Step registered selected :=
    @Step.registerSelectionPolicy sampleServer registered 1 hActive rfl noView (noView_of _) _ _ policyRow hStamped
      policy_checked fun _ hNone => absurd hNone List.not_mem_nil
  let snapshot : State sampleServer := { selected with snapshots := [⟨1, sampleSnapshot .calibrationFit⟩] }
  have hSnapshot : Step selected snapshot :=
    @Step.insertSnapshot sampleServer selected 1 hActive rfl (sampleSnapshot .calibrationFit)
      fun _ hNone => absurd hNone List.not_mem_nil
  let snapshots : State sampleServer := { selected with
    snapshots := [⟨1, sampleSnapshot .calibrationFit⟩, ⟨1, sampleSnapshot .heldoutEvaluation⟩] }
  have hSnapshots : Step snapshot snapshots := by
    refine @Step.insertSnapshot sampleServer snapshot 1 hActive rfl (sampleSnapshot .heldoutEvaluation)
      fun stored hStored => ?_
    obtain rfl := List.mem_singleton.mp (mem_live_iff.mp hStored).1
    exact sampleHash_ne (by decide) (by decide) (by decide)
  have hSeen : ∀ q, ∃ r ∈ visible 1 noView snapshots.snapshots, r.snapshotId = (runColumns q).snapshotId := by
    intro q
    refine ⟨sampleSnapshot q, ?_, rfl⟩
    rw [show visible 1 noView snapshots.snapshots = [sampleSnapshot .calibrationFit, sampleSnapshot .heldoutEvaluation]
      from visible_own 1 noView [sampleSnapshot .calibrationFit, sampleSnapshot .heldoutEvaluation]]
    cases q with
    | calibrationFit => exact List.mem_cons_self
    | heldoutEvaluation => exact List.mem_cons_of_mem _ List.mem_cons_self
  let run : State sampleServer := { snapshots with runs := [⟨1, sampleRun .calibrationFit⟩] }
  have hRun : Step snapshots run :=
    @Step.insertRun sampleServer snapshots 1 hActive rfl noView (noView_of _) (runColumns .calibrationFit)
      (runColumns_checks .calibrationFit) (hSeen .calibrationFit) fun _ hNone => absurd hNone List.not_mem_nil
  have hRuns : Step run preparedState := by
    refine @Step.insertRun sampleServer run 1 hActive rfl noView (noView_of _) (runColumns .heldoutEvaluation)
      (runColumns_checks .heldoutEvaluation) (hSeen .heldoutEvaluation) fun stored hStored => ?_
    obtain rfl := List.mem_singleton.mp (mem_live_iff.mp hStored).1
    rintro (hForecast | ⟨hToken, -⟩ | ⟨-, -, hOpportunity⟩)
    · exact absurd hForecast (by decide)
    · exact Bool.noConfusion hToken
    · exact sampleHash_ne (by decide) (by decide) (by decide) hOpportunity
  exact ((((((ReflTransGen.single hOpened).tail hRegistered).tail hSelected).tail hSnapshot).tail hSnapshots).tail
    hRun).tail hRuns

/-! What the server reads of the sample documents. -/

theorem keys_member (q : Purpose) (step : SampleStep) :
    ((entriesOf (memberDocument q step)).map Prod.fst).Pairwise (· < ·) := by
  change memberKeys.Pairwise (· < ·)
  decide

theorem keys_cohort (q : Purpose) : ((entriesOf (cohortDocument q)).map Prod.fst).Pairwise (· < ·) := by
  change manifestKeys.Pairwise (· < ·)
  decide

/-- The member of a manifest as the server reads it. -/
def memberValue (q : Purpose) (step : SampleStep) : Value := stored (toValue coverageFloats (memberDocument q step))

theorem number_inj {step other : SampleStep} (h : (step.number : Int) = other.number) : step = other := by
  cases step <;> cases other <;> first | rfl | exact absurd h (by decide)

theorem step_bounds (step : SampleStep) : (1 : Int) ≤ step.number ∧ (step.number : Int) ≤ 252 := by
  cases step <;> decide

def sampleCandidate (q : Purpose) (step : SampleStep) : ForecastSelectionCandidate where
  opportunityHash := sampleOpportunity q
  step := step.number
  targetTime := sampleTarget q step
  isHash := (sampleHashes q).1
  stepBounds := step_bounds step

theorem get_step (q : Purpose) (step : SampleStep) :
    get (some (memberValue q step)) "step" = some (.number (ofInt step.number)) :=
  @get_entry coverageFloats _ (.int step.number) _ (keys_member q step) rfl

theorem text_step (step : SampleStep) :
    asText (some (.number (ofInt step.number))) = some (String.ofList (natural step.number)) := by
  match step with
  | .first => rfl
  | .second => rfl

theorem spells_member (q : Purpose) (step : SampleStep) : Spells (memberValue q step) (sampleCandidate q step) where
  opportunity := getText_entry (keys_member q step) rfl
  step := by
    rw [getText, get_step, text_step]
    rfl
  target := getText_entry (keys_member q step) rfl

theorem read_manifest (q : Purpose) : ∃ document, Jsonb.read (dumps coverageFloats (cohortDocument q)) = some document ∧
    get (some document) "members" = some (.arr [memberValue q .first, memberValue q .second]) ∧
    ManifestSupported (some document) ∧
    getText (some document) "selection_policy_hash" = some (sampleHash policyLength) ∧
    getText (some document) "outcome_resolution_policy_hash" = some sampleFields.outcomeResolutionPolicyHash ∧
    getText (some document) "availability_rule_set_hash" = some sampleFields.outcomeAvailabilityRuleSetHash ∧
    getText (some document) "purpose" = some q.name := by
  have hKeys := keys_cohort q
  have hMembers : get (some (stored (toValue coverageFloats (cohortDocument q)))) "members" =
      some (.arr [memberValue q .first, memberValue q .second]) :=
    @get_entry coverageFloats _ (.arr [memberDocument q .first, memberDocument q .second]) _ hKeys rfl
  have hVersion : get (some (stored (toValue coverageFloats (cohortDocument q)))) "schema_version" =
      some (.number (ofInt 1)) := @get_entry coverageFloats _ (.int 1) _ hKeys rfl
  refine ⟨_, (archived_cohort q).read, hMembers, ⟨hasKeys_document rfl, getText_entry hKeys rfl, ⟨?_, ?_⟩, ?_⟩,
    getText_entry hKeys rfl, getText_entry hKeys rfl, getText_entry hKeys rfl, getText_entry hKeys rfl⟩
  · rw [hVersion]
    rfl
  · rw [getText, hVersion]
    rfl
  · rw [hMembers]
    rfl

theorem stamp_manifest {pg : Postgres} {session : pg.Session} {clock : Int} {xid : Nat} {cohortId : String}
    {bytes : Bytes} {document : Value} {members : List Value} {targets : List (Option Int)}
    (bounds : 1 ≤ bytes.length ∧ bytes.length ≤ 4194304) (reads : Jsonb.read bytes = some document)
    (supported : ManifestSupported (some document)) (lists : get (some document) "members" = some (.arr members))
    (count : 1 ≤ members.length ∧ members.length ≤ 10000)
    (stamped : members.mapM (stampMember session) = .ok targets) :
    stampForecastOutcomeCohortManifest session clock xid cohortId bytes = .ok {
      cohortId
      selectionPolicyHash := getText (some document) "selection_policy_hash"
      outcomeResolutionPolicyHash := getText (some document) "outcome_resolution_policy_hash"
      availabilityRuleSetHash := getText (some document) "availability_rule_set_hash"
      purpose := getText (some document) "purpose"
      memberCount := members.length
      earliestTargetTime := targets.foldl (Option.merge min) none
      latestTargetTime := targets.foldl (Option.merge max) none
      recordedAt := clock
      creatorXid := xid
      canonicalManifest := bytes } := by
  rw [stampForecastOutcomeCohortManifest, refuseIf_of_not (not_not.mpr bounds), ok_bind, reads, orRefuse_some, ok_bind,
    refuseIf_of_not (not_not.mpr supported), ok_bind, lists, elements]
  dsimp only
  rw [refuseIf_of_not (not_not.mpr count), ok_bind, stamped, ok_bind, pure_eq_ok]

theorem earliest_pair {a b : Int} (h : a ≤ b) : [some a, some b].foldl (Option.merge min) none = some a := by
  simp [h]

theorem latest_pair {a b : Int} (h : a ≤ b) : [some a, some b].foldl (Option.merge max) none = some b := by
  simp [h]

/-- The manifest between its triggers. -/
def sampleDraft (q : Purpose) : ManifestDraft where
  cohortId := sampleHash (cohortLength q)
  selectionPolicyHash := some (sampleHash policyLength)
  outcomeResolutionPolicyHash := some sampleFields.outcomeResolutionPolicyHash
  availabilityRuleSetHash := some sampleFields.outcomeAvailabilityRuleSetHash
  purpose := some q.name
  memberCount := 2
  earliestTargetTime := some (sampleTarget q .first).micros
  latestTargetTime := some (sampleTarget q .second).micros
  recordedAt := 0
  creatorXid := 1
  canonicalManifest := dumps coverageFloats (cohortDocument q)

theorem stampMember_sample (session : sampleServer.Session) (q : Purpose) (step : SampleStep) :
    stampMember session (memberValue q step) = .ok (some ((sampleTarget q step).micros : Int)) := by
  have hStep : digitsOf 3 (get (some (memberValue q step)) "step") = some step.number := by
    rw [get_step]
    have hBound := step.number_bounds.2
    exact digitsOf_ofInt (by decide) (by omega)
  have hBounds := step.number_bounds
  have hFormed : MemberWellFormed (memberValue q step) :=
    ⟨hasKeys_document rfl, step.number, hStep, hBounds.1, by omega⟩
  rw [stampMember, refuseIf_of_not (not_not.mpr hFormed), ok_bind, (spells_member q step).target]
  exact castText_eq_ok.mpr ⟨_, rfl, documented_sampleServer.timestamp session _⟩

theorem targets_ordered (q : Purpose) : ((sampleTarget q .first).micros : Int) ≤ (sampleTarget q .second).micros := by
  cases q <;> decide

theorem stamp_sample (session : sampleServer.Session) (q : Purpose) : stampForecastOutcomeCohortManifest session 0 1
    (sampleHash (cohortLength q)) (dumps coverageFloats (cohortDocument q)) = .ok (sampleDraft q) := by
  obtain ⟨document, hRead, hMembers, hSupported, hPolicy, hResolution, hAvailability, hPurpose⟩ := read_manifest q
  have hBounds := (lengths_bounded q).2.2
  rw [← (archived_cohort q).length] at hBounds
  have hTargets : [memberValue q .first, memberValue q .second].mapM (stampMember session) =
      .ok [some ((sampleTarget q .first).micros : Int), some ((sampleTarget q .second).micros : Int)] :=
    mapM_of_forall₂ (.cons (stampMember_sample session q .first) (.cons (stampMember_sample session q .second) .nil))
  rw [stamp_manifest hBounds hRead hSupported hMembers ⟨by simp, by simp⟩ hTargets, hPolicy, hResolution,
    hAvailability, hPurpose, earliest_pair (targets_ordered q),
    latest_pair (targets_ordered q)]
  rfl

theorem sampleDraft_row (q : Purpose) : (sampleDraft q).toRow = .ok (sampleManifest q) := by
  have hName : Purpose.ofName q.name = some q := by
    cases q <;> decide
  have hChecks := manifestColumns_checks q
  simp only [ManifestDraft.toRow, sampleDraft, notNull, orRefuse_some, ok_bind, hName]
  exact dif_pos hChecks

theorem checkRunEvidence_of {pg : Postgres} {session : pg.Session} {policy : SelectionPolicyRow pg}
    {study : Option Value} {runs : List (RunRow pg)} {snapshots : List SnapshotRow} {member : Value} {id : Uuid}
    {run : RunRow pg} {snapshot : SnapshotRow} {request output payload : Value} {coverages : List (Option Rat)}
    {step : Int} {target : Option Int} {forecasts : List Value} {intervals : List (Option (List Rat))}
    (names : castText pg.uuid castError (getText (some member) "forecast_id") = .ok (some id))
    (archived : runs.find? (fun r => decide (some r.forecastId = some id)) = some run)
    (opened : snapshots.find? (fun s => decide (s.snapshotId = run.snapshotId)) = some snapshot)
    (columns : ColumnsMatch policy study member run snapshot)
    (requests : Jsonb.read run.canonicalRequest = some request)
    (outputs : Jsonb.read run.canonicalOutput = some output)
    (payloads : Jsonb.read snapshot.canonicalPayload = some payload)
    (documents : DocumentsMatch policy study run (some request) (some output) (some payload))
    (asked : numericElements pg (get (get (some request) "payload") "interval_coverages") = .ok coverages)
    (studied : policyCoverages pg study = .ok coverages)
    (steps : castText pg.integer castError (getText (some member) "step") = .ok (some step))
    (listed : castText (pg.timestamptz session) castError
      (getIndexText (get (some payload) "target_times") (step - 1)) = .ok target)
    (own : memberTargetTime session member = .ok target)
    (lists : arrayElements (get (get (some output) "payload") "forecasts") = .ok forecasts)
    (answered : forecasts.mapM (forecastCoverages pg) = .ok intervals)
    (same : ∀ c ∈ intervals, c = (coverages.mapM fun c => c).map (List.insertionSort (· ≤ ·))) :
    checkRunEvidence session policy study runs snapshots member = .ok ⟨⟩ := by
  rw [checkRunEvidence, names, ok_bind, archived, orRefuse_some, ok_bind, opened, orRefuse_some, ok_bind,
    refuseIf_of_not (not_not.mpr columns), ok_bind, requests, orRefuse_some, ok_bind, outputs, orRefuse_some, ok_bind,
    payloads, orRefuse_some, ok_bind, refuseIf_of_not (not_not.mpr documents), ok_bind, asked, ok_bind, studied,
    ok_bind,
    refuseIf_of_not (not_not.mpr rfl), ok_bind, steps, ok_bind, Option.bind_some, listed, ok_bind, own, ok_bind,
    refuseIf_of_not (not_not.mpr rfl), ok_bind, lists, ok_bind, answered, ok_bind, refuseIf_of_not]
  rintro ⟨c, hMem, hOther⟩
  exact hOther (same c hMem)

/-- The study of the policy as the server reads it. -/
def studyValue : Option Value := some (stored (toValue coverageFloats (studyDocument sampleFields)))

theorem study_read : ∃ selection, Jsonb.read policyRow.canonicalPolicy = some selection ∧
    get (some selection) "study" = studyValue :=
  ⟨_, archived_policy.read, get_document (ordered_policyDocument sampleFields) rfl⟩

theorem study_text {key s : String} (found : (entriesOf (studyDocument sampleFields)).lookup key = some (.plain s)) :
    getText studyValue key = some s := getText_document (ordered_studyDocument sampleFields) found

theorem study_horizon : getText studyValue "horizon" = some (toString (2 : Int)) := by
  have hGet : get studyValue "horizon" = some (stored (toValue coverageFloats (.int 2))) :=
    get_document (ordered_studyDocument sampleFields) rfl
  rw [getText, hGet]
  rfl

theorem study_symbols : elements (get studyValue "symbols") = [.str "AAPL", .str "SPY"] := by
  have hItems := @elements_document coverageFloats (studyDocument sampleFields) "symbols"
    (ordered_studyDocument sampleFields) (sampleFields.symbols.map .plain) rfl
  exact hItems

theorem columns_match (q : Purpose) (step : SampleStep) :
    ColumnsMatch policyRow studyValue (memberValue q step) (sampleRun q) (sampleSnapshot q) := by
  have hKeys := keys_member q step
  refine ⟨⟨rfl, (getText_entry hKeys rfl).symm, (getText_entry hKeys rfl).symm⟩, ?_,
    ⟨(study_text rfl).symm, (study_text rfl).symm, (study_text rfl).symm, study_horizon.symm, (study_text rfl).symm⟩,
    ⟨rfl, rfl⟩, ⟨rfl, (study_text rfl).symm, (study_text rfl).symm, (study_text rfl).symm, (study_text rfl).symm⟩,
    ⟨rfl, rfl, rfl⟩, le_refl 2⟩
  rw [study_symbols]
  cases q with
  | calibrationFit => exact ⟨.str "SPY", by simp, rfl, rfl⟩
  | heldoutEvaluation => exact ⟨.str "AAPL", by simp, rfl, rfl⟩

/-! The archived documents as the server reads them. -/

def requestValue (q : Purpose) : Value := stored (toValue coverageFloats (requestDocument q))

def outputValue (q : Purpose) : Value := stored (toValue coverageFloats (outputDocument q))

def snapshotValue (q : Purpose) : Value := stored (toValue coverageFloats (snapshotDocument q))

def fieldOf (document : Document) (key : String) : Document := ((entriesOf document).lookup key).getD .null

theorem keys_documents (q : Purpose) :
    (((entriesOf (requestDocument q)).map Prod.fst).Pairwise (· < ·) ∧
      ((entriesOf (fieldOf (requestDocument q) "payload")).map Prod.fst).Pairwise (· < ·)) ∧
    (((entriesOf (outputDocument q)).map Prod.fst).Pairwise (· < ·) ∧
      ((entriesOf (fieldOf (outputDocument q) "payload")).map Prod.fst).Pairwise (· < ·) ∧
      ((entriesOf (fieldOf (fieldOf (outputDocument q) "payload") "provenance")).map Prod.fst).Pairwise (· < ·)) ∧
    ((entriesOf (snapshotDocument q)).map Prod.fst).Pairwise (· < ·) ∧
      ((entriesOf (fieldOf (snapshotDocument q) "availability")).map Prod.fst).Pairwise (· < ·) := by
  cases q <;> decide

theorem documents_match (q : Purpose) : DocumentsMatch policyRow studyValue (sampleRun q) (some (requestValue q))
    (some (outputValue q)) (some (snapshotValue q)) := by
  obtain ⟨⟨hRequest, hAsked⟩, ⟨hOutput, hAnswered, hProvenance⟩, hSnapshot, hAvailability⟩ := keys_documents q
  have hAskedValue : get (some (requestValue q)) "payload" =
      some (stored (toValue coverageFloats (fieldOf (requestDocument q) "payload"))) := get_entry hRequest rfl
  have hAnsweredValue : get (some (outputValue q)) "payload" =
      some (stored (toValue coverageFloats (fieldOf (outputDocument q) "payload"))) := get_entry hOutput rfl
  have hProvenanceValue : get (some (stored (toValue coverageFloats (fieldOf (outputDocument q) "payload"))))
      "provenance" = some (stored (toValue coverageFloats
        (fieldOf (fieldOf (outputDocument q) "payload") "provenance"))) := get_entry hAnswered rfl
  have hAvailabilityValue : get (some (snapshotValue q)) "availability" =
      some (stored (toValue coverageFloats (fieldOf (snapshotDocument q) "availability"))) := get_entry hSnapshot rfl
  have hVersion : ∀ {d : Document}, ((entriesOf d).map Prod.fst).Pairwise (· < ·) →
      (entriesOf d).lookup "schema_version" = some (.int 1) →
        getText (some (stored (toValue coverageFloats d))) "schema_version" = some "1" := by
    intro d hKeys hFound
    rw [getText, get_entry hKeys hFound]
    rfl
  have hHorizon : ∀ {d : Document}, ((entriesOf d).map Prod.fst).Pairwise (· < ·) →
      (entriesOf d).lookup "horizon" = some (.int 2) →
        getText (some (stored (toValue coverageFloats d))) "horizon" = getText studyValue "horizon" := by
    intro d hKeys hFound
    rw [getText, get_entry hKeys hFound, study_horizon]
    rfl
  have hStudy : ∀ {d : Document} {key key' s : String}, ((entriesOf d).map Prod.fst).Pairwise (· < ·) →
      (entriesOf d).lookup key = some (.plain s) →
      (entriesOf (studyDocument sampleFields)).lookup key' = some (.plain s) →
        getText (some (stored (toValue coverageFloats d))) key = getText studyValue key' := by
    intro d key key' s hKeys hFound hSame
    rw [getText_entry hKeys hFound, study_text hSame]
  simp only [DocumentsMatch]
  rw [hAskedValue, hAnsweredValue, hProvenanceValue, hAvailabilityValue]
  refine ⟨⟨getText_entry hRequest rfl, hVersion hRequest rfl, getText_entry hAsked rfl, hStudy hAsked rfl rfl,
      hStudy hAsked rfl rfl, hHorizon hAsked rfl, hStudy hAsked rfl rfl, ?_, getText_entry hAsked rfl⟩,
    ⟨getText_entry hOutput rfl, hVersion hOutput rfl, getText_entry hAnswered rfl, hStudy hAnswered rfl rfl,
      hStudy hAnswered rfl rfl, hHorizon hAnswered rfl, hStudy hAnswered rfl rfl, hStudy hProvenance rfl rfl,
      hStudy hProvenance rfl rfl, getText_entry hProvenance rfl⟩,
    getText_entry hSnapshot rfl, hVersion hSnapshot rfl, getText_entry hSnapshot rfl, hStudy hSnapshot rfl rfl,
    hStudy hSnapshot rfl rfl, hStudy hSnapshot rfl rfl, hStudy hSnapshot rfl rfl, getText_entry hSnapshot rfl,
    getText_entry hAvailability rfl, getText_entry hAvailability rfl⟩
  rw [@get_entry coverageFloats _ .null "as_of" hAsked rfl]
  rfl

theorem sampleServer_numeric (text : String) : sampleServer.numeric text =
    if text = "0.8" then some (4 / 5) else (Digits.read text.toList).map fun (n : Nat) => (n : Rat) := rfl

theorem sampleServer_uuid : sampleServer.uuid = Uuid.ofText asciiDigits := rfl

theorem sampleServer_uuidText : sampleServer.uuidText = Uuid.text := rfl

theorem numeric_coverage : sampleServer.numeric "0.8" = some (4 / 5) := by rw [sampleServer_numeric, if_pos rfl]

theorem uuid_text (u : Uuid) : sampleServer.uuid u.text = some u := by
  rw [sampleServer_uuid, Uuid.ofText_text]

theorem text_coverage : asText (some (.number (coverageFloats.repr (4 / 5)))) = some "0.8" := by decide

theorem numeric_coverages : [Value.number (coverageFloats.repr (4 / 5))].mapM
    (fun item => castText sampleServer.numeric castError (asText (some item))) = .ok [some (4 / 5)] := by
  refine mapM_of_forall₂ (.cons ?_ .nil)
  rw [text_coverage]
  exact castText_eq_ok.mpr ⟨_, rfl, numeric_coverage⟩

theorem coverages_asked (q : Purpose) : numericElements sampleServer
    (get (get (some (requestValue q)) "payload") "interval_coverages") = .ok [some (4 / 5)] := by
  obtain ⟨⟨hRequest, hAsked⟩, -⟩ := keys_documents q
  have hPayload : get (some (requestValue q)) "payload" =
      some (stored (toValue coverageFloats (fieldOf (requestDocument q) "payload"))) := get_entry hRequest rfl
  have hCoverages : get (some (stored (toValue coverageFloats (fieldOf (requestDocument q) "payload"))))
      "interval_coverages" = some (stored (toValue coverageFloats (.arr [.float (4 / 5)]))) := get_entry hAsked rfl
  rw [hPayload, hCoverages, numericElements]
  exact numeric_coverages

theorem coverages_studied : policyCoverages sampleServer studyValue = .ok [some (4 / 5)] := by
  have hCoverages : get studyValue "interval_coverages_millis" =
      some (stored (toValue coverageFloats (.arr [.int 800]))) :=
    get_document (ordered_studyDocument sampleFields) rfl
  have hNumeric : sampleServer.numeric "800" = some 800 := by decide +kernel
  have hElements : numericElements sampleServer (some (stored (toValue coverageFloats (.arr [.int 800])))) =
      .ok [some 800] := by
    refine mapM_of_forall₂ (.cons ?_ .nil)
    exact castText_eq_ok.mpr ⟨"800", by decide, hNumeric⟩
  rw [policyCoverages, hCoverages, hElements]
  norm_num

/-- A forecast of an output as the server reads it. -/
def forecastValue (q : Purpose) (step : SampleStep) : Value := stored (toValue coverageFloats (stepDocument q step))

theorem keys_forecast (q : Purpose) (step : SampleStep) :
    ((entriesOf (stepDocument q step)).map Prod.fst).Pairwise (· < ·) := by
  change ["intervals", "point", "step", "target_time"].Pairwise (· < ·)
  decide

theorem forecasts_listed (q : Purpose) : arrayElements (get (get (some (outputValue q)) "payload") "forecasts") =
    .ok [forecastValue q .first, forecastValue q .second] := by
  obtain ⟨-, ⟨hOutput, hAnswered, -⟩, -⟩ := keys_documents q
  have hPayload : get (some (outputValue q)) "payload" =
      some (stored (toValue coverageFloats (fieldOf (outputDocument q) "payload"))) := get_entry hOutput rfl
  have hForecasts : get (some (stored (toValue coverageFloats (fieldOf (outputDocument q) "payload")))) "forecasts" =
      some (stored (toValue coverageFloats (.arr [stepDocument q .first, stepDocument q .second]))) :=
        get_entry hAnswered rfl
  rw [hPayload, hForecasts]
  rfl

theorem coverages_answered (q : Purpose) (step : SampleStep) :
    forecastCoverages sampleServer (forecastValue q step) = .ok (some [4 / 5]) := by
  have hIntervals : get (some (forecastValue q step)) "intervals" =
      some (stored (toValue coverageFloats (.arr [.obj [("coverage", .float (4 / 5))]]))) :=
    get_entry (keys_forecast q step) rfl
  have hCoverage : [stored (toValue coverageFloats (.obj [("coverage", .float (4 / 5))]))].mapM
      (fun interval => castText sampleServer.numeric castError (getText (some interval) "coverage")) =
        .ok [some (4 / 5)] := by
    refine mapM_of_forall₂ (.cons ?_ .nil)
    exact castText_eq_ok.mpr ⟨"0.8", by decide, numeric_coverage⟩
  have hElements : arrayElements (some (stored (toValue coverageFloats (.arr [.obj [("coverage", .float (4 / 5))]])))) =
      .ok [stored (toValue coverageFloats (.obj [("coverage", .float (4 / 5))]))] := rfl
  rw [forecastCoverages, hIntervals, hElements, ok_bind, hCoverage, ok_bind]
  rfl

theorem target_listed (session : sampleServer.Session) (q : Purpose) (step : SampleStep) :
    castText (sampleServer.timestamptz session) castError
      (getIndexText (get (some (snapshotValue q)) "target_times") (step.number - 1)) =
        .ok (some ((sampleTarget q step).micros : Int)) := by
  have hTargets : get (some (snapshotValue q)) "target_times" = some (stored (toValue coverageFloats
      (.arr [.plain (sampleTarget q .first).timestamp, .plain (sampleTarget q .second).timestamp]))) :=
    get_entry (keys_documents q).2.2.1 rfl
  have hListed : getIndexText (get (some (snapshotValue q)) "target_times") (step.number - 1) =
      some (sampleTarget q step).timestamp := by
    rw [hTargets]
    match step with
    | .first => rfl
    | .second => rfl
  rw [hListed]
  exact castText_eq_ok.mpr ⟨_, rfl, documented_sampleServer.timestamp session _⟩

theorem cast_step (q : Purpose) (step : SampleStep) (e : SqlError) {castStep : String → Option Int}
    (casts : castStep (String.ofList (natural step.number)) = some step.number) :
    castText castStep e (getText (some (memberValue q step)) "step") = .ok (some (step.number : Int)) := by
  rw [getText, get_step, text_step]
  exact castText_eq_ok.mpr ⟨_, rfl, casts⟩

def sampleRuns : List (RunRow sampleServer) := [sampleRun .calibrationFit, sampleRun .heldoutEvaluation]

def sampleSnapshots : List SnapshotRow := [sampleSnapshot .calibrationFit, sampleSnapshot .heldoutEvaluation]

theorem snapshotIds_ne : sampleSnapshotId .calibrationFit ≠ sampleSnapshotId .heldoutEvaluation :=
  sampleHash_ne (by decide) (by decide) (by decide)

theorem run_found (q : Purpose) :
    sampleRuns.find? (fun r => decide (some r.forecastId = some (sampleForecast q))) = some (sampleRun q) := by
  cases q with
  | calibrationFit => exact List.find?_cons_of_pos (decide_eq_true rfl)
  | heldoutEvaluation =>
    have hOther : ¬ some (sampleRun .calibrationFit).forecastId = some (sampleForecast .heldoutEvaluation) := by decide
    rw [sampleRuns, List.find?_cons_of_neg (by simpa using hOther)]
    exact List.find?_cons_of_pos (decide_eq_true rfl)

theorem snapshot_found (q : Purpose) :
    sampleSnapshots.find? (fun s => decide (s.snapshotId = (sampleRun q).snapshotId)) = some (sampleSnapshot q) := by
  cases q with
  | calibrationFit => exact List.find?_cons_of_pos (decide_eq_true rfl)
  | heldoutEvaluation =>
    have hOther : ¬ (sampleSnapshot .calibrationFit).snapshotId = (sampleRun .heldoutEvaluation).snapshotId :=
      snapshotIds_ne
    rw [sampleSnapshots, List.find?_cons_of_neg (by simpa using hOther)]
    exact List.find?_cons_of_pos (decide_eq_true rfl)

theorem uuid_member (q : Purpose) (step : SampleStep) (e : SqlError) :
    castText sampleServer.uuid e (getText (some (memberValue q step)) "forecast_id") = .ok (some (sampleForecast q)) :=
  castText_eq_ok.mpr ⟨(sampleForecast q).text, getText_entry (keys_member q step) rfl, uuid_text _⟩

theorem read_request (q : Purpose) : Jsonb.read (sampleRun q).canonicalRequest = some (requestValue q) := by
  simp only [sampleRun, RunColumns.stamp, runColumns, (archived_request q).read, requestValue]

theorem read_output (q : Purpose) : Jsonb.read (sampleRun q).canonicalOutput = some (outputValue q) := by
  simp only [sampleRun, RunColumns.stamp, runColumns, (archived_output q).read, outputValue]

theorem read_snapshot (q : Purpose) : Jsonb.read (sampleSnapshot q).canonicalPayload = some (snapshotValue q) := by
  simp only [sampleSnapshot, read_dumps (documents_kept q).2.2.2, snapshotValue]

theorem run_checked (session : sampleServer.Session) (q : Purpose) (step : SampleStep) :
    checkRunEvidence session policyRow studyValue sampleRuns sampleSnapshots (memberValue q step) = .ok ⟨⟩ := by
  have hStep := step.number_bounds
  have hInteger : sampleServer.integer (String.ofList (natural step.number)) = some (step.number : Int) :=
    documented_sampleServer.integer _ (by omega)
  have hForecasts : [forecastValue q .first, forecastValue q .second].mapM (forecastCoverages sampleServer) =
      .ok [some [4 / 5], some [4 / 5]] :=
    mapM_of_forall₂ (.cons (coverages_answered q .first) (.cons (coverages_answered q .second) .nil))
  have hSame : ∀ c ∈ [some [(4 / 5 : Rat)], some [4 / 5]], c = ([some (4 / 5 : Rat)].mapM fun c => c).map
    (List.insertionSort (· ≤ ·)) := by
    intro c hMem
    simp only [List.mem_cons, List.not_mem_nil, or_false, or_self] at hMem
    rw [hMem]
    rfl
  have hOwn : memberTargetTime session (memberValue q step) = .ok (some ((sampleTarget q step).micros : Int)) :=
    (spells_member q step).memberTargetTime documented_sampleServer
  exact @checkRunEvidence_of sampleServer session policyRow studyValue sampleRuns sampleSnapshots (memberValue q step)
    (sampleForecast q) (sampleRun q) (sampleSnapshot q) (requestValue q) (outputValue q) (snapshotValue q)
      [some (4 / 5)]
    step.number (some ((sampleTarget q step).micros : Int)) [forecastValue q .first, forecastValue q .second]
    [some [4 / 5], some [4 / 5]] (uuid_member q step _) (run_found q) (snapshot_found q) (columns_match q step)
    (read_request q) (read_output q) (read_snapshot q) (documents_match q)
    (coverages_asked q) coverages_studied (cast_step q step _ hInteger) (target_listed session q step)
    hOwn (forecasts_listed q) hForecasts hSame

theorem candidate_window (q : Purpose) (step : SampleStep) :
    purposeForTargetTime samplePolicy (sampleCandidate q step).targetTime = some q := by
  cases q <;> cases step <;> decide +kernel

theorem candidate_steps (q : Purpose) :
    (stepsAmong [sampleCandidate q .first, sampleCandidate q .second] (sampleOpportunity q)).insertionSort (· ≤ ·) =
      samplePolicy.selectedSteps := by
  have hSteps : stepsAmong [sampleCandidate q .first, sampleCandidate q .second] (sampleOpportunity q) = [1, 2] := by
    simp [stepsAmong, sampleCandidate, SampleStep.number]
  rw [hSteps]
  decide

theorem complies_sample (session : sampleServer.Session) (q : Purpose) :
    Complies session policyRow (some q.name) [memberValue q .first, memberValue q .second] := by
  have hProjects : Projects sampleServer samplePolicy.toPolicyFields
      (dumps coverageFloats (policyDocument sampleFields)) policyRow.toSelectionPolicyColumns :=
    projects_columnsOf sampleServer sampleFields _
  refine (complies_iff documented_sampleServer hProjects
    (.cons (spells_member q .first) (.cons (spells_member q .second) .nil))).mpr ⟨?_, ?_⟩
  · simp only [List.mem_cons, List.not_mem_nil, or_false, forall_eq_or_imp, forall_eq]
    exact ⟨candidate_window q .first, candidate_window q .second⟩
  · simp only [List.mem_cons, List.not_mem_nil, or_false, forall_eq_or_imp, forall_eq]
    exact ⟨candidate_steps q, candidate_steps q⟩

theorem policy_found (q : Purpose) : [policyRow].find?
    (fun other => decide (some other.policyHash = (sampleDraft q).selectionPolicyHash)) = some policyRow := by
  have hSame : policyRow.policyHash = sampleHash policyLength := archived_policy.sha256
  refine List.find?_cons_of_pos (decide_eq_true ?_)
  rw [hSame]
  rfl

theorem validate_sample (session : sampleServer.Session) (q : Purpose) :
    validateForecastCohortSelectionPolicy session [policyRow] sampleRuns sampleSnapshots (sampleDraft q) = .ok ⟨⟩ := by
  obtain ⟨document, hRead, hMembers, -⟩ := read_manifest q
  obtain ⟨selection, hSelection, hStudy⟩ := study_read
  have hSame : policyRow.policyHash = sampleHash policyLength := archived_policy.sha256
  have hProjects : Projects sampleServer samplePolicy.toPolicyFields
      (dumps coverageFloats (policyDocument sampleFields)) policyRow.toSelectionPolicyColumns :=
    projects_columnsOf sampleServer sampleFields _
  have hPasses : PassesChecks session policyRow q (dumps coverageFloats (cohortDocument q)) :=
    (passesChecks_iff documented_sampleServer canonical_sample hProjects hRead hMembers
      (.cons (spells_member q .first) (.cons (spells_member q .second) .nil))).mpr (complies_sample session q)
  have hSubmits : Submits policyRow q (dumps coverageFloats (cohortDocument q)) (sampleDraft q) :=
    ⟨rfl, congrArg some hSame.symm, rfl, rfl, rfl⟩
  rw [hPasses _ hSubmits _ (policy_found q) sampleRuns sampleSnapshots, checkRuns, hRead, orRefuse_some, ok_bind,
    hSelection,
    orRefuse_some, ok_bind, hMembers, arrayElements, ok_bind, hStudy]
  refine forM_eq_ok_iff.mpr fun member hMem => ?_
  simp only [List.mem_cons, List.not_mem_nil, or_false] at hMem
  rcases hMem with rfl | rfl
  · exact run_checked session q .first
  · exact run_checked session q .second

/-! Members. -/

theorem validateMember_of {pg : Postgres} {session : pg.Session} {xid : Nat} {manifests : List (ManifestRow pg)}
    {runs : List (RunRow pg)} {draft : MemberDraft} {manifest : ManifestRow pg} {run : RunRow pg} {output : Value}
    {forecasts : List Value}
    (found : manifests.find? (fun m => decide (m.cohortId = draft.cohortId)) = some manifest)
    (own : manifest.creatorXid = xid) (named : runs.find? (fun r => decide (draft.Names r)) = some run)
    (outputs : Jsonb.read run.canonicalOutput = some output)
    (lists : arrayElements (get (get (some output) "payload") "forecasts") = .ok forecasts)
    (counted : countForecastsAt session pg.integer draft.step draft.targetTime
      (forecasts.filter fun f => isObject (some f)) = .ok 1)
    (names : getText (get (get (some output) "payload") "provenance") "forecast_id" =
      draft.forecastId.map pg.uuidText) :
    validateForecastOutcomeCohortMember session xid manifests runs draft = .ok ⟨⟩ := by
  rw [validateForecastOutcomeCohortMember, found, orRefuse_some, ok_bind, refuseIf_of_not (not_not.mpr own),
    ok_bind, named,
    orRefuse_some, ok_bind, outputs]
  dsimp only
  rw [orRefuse_some, ok_bind, lists, ok_bind, counted]
  change (refuseIf _ _ : Except SqlError PUnit) = _
  rw [refuseIf_of_not (by simp [names])]

/-- A member as its materializer proposes it. -/
def memberDraft (q : Purpose) (step : SampleStep) : MemberDraft where
  cohortId := sampleHash (cohortLength q)
  forecastId := some (sampleForecast q)
  step := some step.number
  targetTime := some (sampleTarget q step).micros
  opportunityHash := some (sampleOpportunity q)
  outputHash := some (sampleHash (outputLength q))
  selectionPolicyHash := sampleHash policyLength
  purpose := q

theorem smallint_step (step : SampleStep) :
    sampleServer.smallint (String.ofList (natural step.number)) = some (step.number : Int) := by
  have hStep := step.number_bounds
  rw [Postgres.smallint, documented_sampleServer.integer _ (by omega), Option.filter_some,
    if_pos (decide_eq_true (by omega))]

theorem propose_sample (session : sampleServer.Session) (q : Purpose) (step : SampleStep) :
    proposeMember session (sampleManifest q) (memberValue q step) = .ok (memberDraft q step) := by
  have hKeys := keys_member q step
  have hOpportunity : getText (some (memberValue q step)) "opportunity_hash" = some (sampleOpportunity q) :=
    getText_entry hKeys rfl
  have hOutput : getText (some (memberValue q step)) "output_hash" = some (sampleHash (outputLength q)) :=
    getText_entry hKeys rfl
  have hTarget : getText (some (memberValue q step)) "target_time" = some (sampleTarget q step).timestamp :=
    getText_entry hKeys rfl
  have hTime : ∀ e, castText (sampleServer.timestamptz session) e (some (sampleTarget q step).timestamp) =
      .ok (some ((sampleTarget q step).micros : Int)) :=
    fun e => castText_eq_ok.mpr ⟨_, rfl, documented_sampleServer.timestamp session _⟩
  rw [proposeMember, uuid_member, ok_bind, cast_step q step _ (smallint_step step), ok_bind, hTarget, hTime,
    ok_bind, hOpportunity,
    hOutput, pure_eq_ok]
  rfl

theorem member_row (q : Purpose) (step : SampleStep) : (memberDraft q step).toRow = .ok (sampleMember q step) := by
  have hChecks := memberColumns_checks q step
  simp only [MemberDraft.toRow, memberDraft, notNull, orRefuse_some, ok_bind]
  exact dif_pos hChecks

theorem forecast_at (session : sampleServer.Session) (q : Purpose) (step other : SampleStep) :
    forecastAt session sampleServer.integer (some step.number) (some (sampleTarget q step).micros)
      (forecastValue q other) = .ok (decide (other = step)) := by
  have hKeys := keys_forecast q other
  have hStep : getText (some (forecastValue q other)) "step" = some (String.ofList (natural other.number)) := by
    have hGet : get (some (forecastValue q other)) "step" = some (.number (ofInt other.number)) :=
      @get_entry coverageFloats _ (.int other.number) "step" hKeys rfl
    rw [getText, hGet, text_step]
  have hTarget : getText (some (forecastValue q other)) "target_time" = some (sampleTarget q other).timestamp :=
    getText_entry hKeys rfl
  have hOther := other.number_bounds
  have hCast : castText sampleServer.integer castError (some (String.ofList (natural other.number))) =
      .ok (some (other.number : Int)) :=
    castText_eq_ok.mpr ⟨_, rfl, documented_sampleServer.integer _ (by omega)⟩
  have hTime : castText (sampleServer.timestamptz session) castError (some (sampleTarget q other).timestamp) =
      .ok (some ((sampleTarget q other).micros : Int)) :=
    castText_eq_ok.mpr ⟨_, rfl, documented_sampleServer.timestamp session _⟩
  rw [forecastAt, hStep, hCast, ok_bind, hTarget, hTime]
  by_cases hSame : other = step
  · subst hSame
    simp
  · have hDifferent : (other.number : Int) ≠ step.number := by
      intro hEqual
      exact hSame (number_inj (by omega))
    simp [hSame, hDifferent]

theorem forecasts_counted (session : sampleServer.Session) (q : Purpose) (step : SampleStep) :
    countForecastsAt session sampleServer.integer (some step.number) (some (sampleTarget q step).micros)
      ([forecastValue q .first, forecastValue q .second].filter fun f => isObject (some f)) = .ok 1 := by
  have hObjects : ([forecastValue q .first, forecastValue q .second].filter fun f => isObject (some f)) =
      [forecastValue q .first, forecastValue q .second] := rfl
  have hFound : [forecastValue q .first, forecastValue q .second].mapM
      (forecastAt session sampleServer.integer (some step.number) (some (sampleTarget q step).micros)) =
        .ok [decide (SampleStep.first = step), decide (SampleStep.second = step)] :=
    mapM_of_forall₂ (.cons (forecast_at session q step .first) (.cons (forecast_at session q step .second) .nil))
  rw [countForecastsAt, hObjects, hFound, ok_bind, pure_eq_ok]
  match step with
  | .first => rfl
  | .second => rfl

theorem forecasts_ne : sampleForecast .calibrationFit ≠ sampleForecast .heldoutEvaluation := by decide

theorem run_named (q : Purpose) (step : SampleStep) :
    sampleRuns.find? (fun r => decide ((memberDraft q step).Names r)) = some (sampleRun q) := by
  have hOwn : (memberDraft q step).Names (sampleRun q) := ⟨rfl, rfl, rfl, rfl⟩
  cases q with
  | calibrationFit => exact List.find?_cons_of_pos (decide_eq_true hOwn)
  | heldoutEvaluation =>
    have hOther : ¬ (memberDraft .heldoutEvaluation step).Names (sampleRun .calibrationFit) := by
      rintro ⟨hForecast, -⟩
      exact forecasts_ne (Option.some.inj hForecast)
    rw [sampleRuns, List.find?_cons_of_neg (by simpa using hOther)]
    exact List.find?_cons_of_pos (decide_eq_true hOwn)

theorem provenance_named (q : Purpose) :
    getText (get (get (some (outputValue q)) "payload") "provenance") "forecast_id" =
      (some (sampleForecast q)).map sampleServer.uuidText := by
  obtain ⟨-, ⟨hOutput, hAnswered, hProvenance⟩, -⟩ := keys_documents q
  have hPayload : get (some (outputValue q)) "payload" =
      some (stored (toValue coverageFloats (fieldOf (outputDocument q) "payload"))) := get_entry hOutput rfl
  have hProvenanceValue : get (some (stored (toValue coverageFloats (fieldOf (outputDocument q) "payload"))))
      "provenance" = some (stored (toValue coverageFloats
        (fieldOf (fieldOf (outputDocument q) "payload") "provenance"))) := get_entry hAnswered rfl
  rw [hPayload, hProvenanceValue, sampleServer_uuidText, Option.map_some]
  exact getText_entry hProvenance rfl

theorem validateMember_sample (session : sampleServer.Session) (q : Purpose) (step : SampleStep)
    {manifests : List (ManifestRow sampleServer)}
    (found : manifests.find? (fun m => decide (m.cohortId = sampleHash (cohortLength q))) = some (sampleManifest q)) :
    validateForecastOutcomeCohortMember session 1 manifests sampleRuns (memberDraft q step) = .ok ⟨⟩ :=
  validateMember_of found rfl (run_named q step) (read_output q) (forecasts_listed q) (forecasts_counted session q step)
    (provenance_named q)

/-! The two cohorts, in one transaction. -/

/-- The sample transaction while it writes its cohorts. -/
def writing (work : Work sampleServer) (manifests : List (ManifestRow sampleServer)) (members : List MemberRow) :
    State sampleServer :=
  { preparedState.setWork 1 work with
    manifests := manifests.map (Stored.mk 1)
    members := members.map (Stored.mk 1) }

section Writing

variable {session : sampleServer.Session} {work work' : Work sampleServer} {manifests : List (ManifestRow sampleServer)}
  {members : List MemberRow} {q : Purpose}

theorem writing_work : (writing work manifests members).work 1 = work := by simp [writing, State.setWork]

theorem writing_setWork : (writing work manifests members).setWork 1 work' = writing work' manifests members := by
  simp [writing, State.setWork, Function.update_idem]

theorem writing_prepared : writing .idle [] [] = preparedState := by
  simp [writing, State.setWork, preparedState, State.initial]

theorem writing_manifest {row : ManifestRow sampleServer} :
    { (writing work manifests members).setWork 1 work' with
      manifests := (writing work manifests members).manifests ++ [⟨1, row⟩] } =
      writing work' (manifests ++ [row]) members := by
  simp [writing, State.setWork, Function.update_idem]

theorem writing_member {row : MemberRow} :
    { (writing work manifests members).setWork 1 work' with
      members := (writing work manifests members).members ++ [⟨1, row⟩] } =
      writing work' manifests (members ++ [row]) := by
  simp [writing, State.setWork, Function.update_idem]

theorem writing_policies : visible 1 noView (writing work manifests members).selectionPolicies = [policyRow] :=
  visible_own 1 noView [policyRow]

theorem writing_outcomePolicies :
    visible 1 noView (writing work manifests members).outcomePolicies = [sampleOutcomePolicy] :=
  visible_own 1 noView [sampleOutcomePolicy]

theorem writing_runs : visible 1 noView (writing work manifests members).runs = sampleRuns :=
  visible_own 1 noView sampleRuns

theorem writing_snapshots : visible 1 noView (writing work manifests members).snapshots = sampleSnapshots :=
  visible_own 1 noView sampleSnapshots

theorem writing_manifests : visible 1 noView (writing work manifests members).manifests = manifests :=
  visible_own 1 noView manifests

theorem insert_member {remaining : List Value} (step : SampleStep)
    (found : manifests.find? (fun m => decide (m.cohortId = sampleHash (cohortLength q))) = some (sampleManifest q))
    (fresh : ∀ m ∈ members, (m.cohortId ≠ sampleHash (cohortLength q) ∧ m.opportunityHash ≠ sampleOpportunity q) ∨
      (m.step ≠ step.number ∧ m.purpose = q)) :
    Step (writing (.materializing session (sampleManifest q) (memberValue q step :: remaining)) manifests members)
      (writing (.materializing session (sampleManifest q) remaining) manifests (members ++ [sampleMember q step])) := by
  have hStep := @Step.insertMember sampleServer
    (writing (.materializing session (sampleManifest q) (memberValue q step :: remaining)) manifests members) 1
      rfl session
    (sampleManifest q) (memberValue q step) remaining writing_work (memberDraft q step) (propose_sample session q step)
    noView (noView_of _) (by rw [writing_manifests, writing_runs]; exact validateMember_sample session q step found)
    (sampleMember q step) (member_row q step) (by
      intro stored hStored
      obtain ⟨m, hMem, rfl⟩ := List.mem_map.mp (mem_live_iff.mp hStored).1
      rcases fresh m hMem with ⟨hCohort, hOpportunity⟩ | ⟨hOther, hPurpose⟩
      · rintro (⟨h, -, -⟩ | ⟨h, -, -⟩ | ⟨-, h, -⟩ | ⟨-, h, -⟩)
        · exact hCohort h
        · exact hCohort h
        · exact hOpportunity h
        · exact hOpportunity h
      · rintro (⟨-, -, h⟩ | ⟨-, -, h⟩ | ⟨-, -, h⟩ | ⟨-, -, h⟩)
        · exact hOther h
        · exact hOther h
        · exact hOther h
        · exact h hPurpose)
  rwa [writing_member] at hStep

theorem insert_cohort (session : sampleServer.Session) (q : Purpose)
    (freshManifest : ∀ m ∈ manifests, m.cohortId ≠ sampleHash (cohortLength q))
    (freshMembers : ∀ m ∈ members, m.cohortId ≠ sampleHash (cohortLength q) ∧ m.opportunityHash ≠ sampleOpportunity q) :
    ReflTransGen Step (writing .idle manifests members)
      (writing .idle (manifests ++ [sampleManifest q]) (members ++
        [sampleMember q .first, sampleMember q .second])) := by
  have hStamped : Step (writing .idle manifests members)
      (writing (.manifestStamped session (sampleDraft q)) manifests members) := by
    have hStep := @Step.stampManifest sampleServer (writing .idle manifests members) 1 rfl writing_work session _ _ _
      (stamp_sample session q)
    rwa [writing_setWork] at hStep
  have hValidated : Step (writing (.manifestStamped session (sampleDraft q)) manifests members)
      (writing (.manifestValidated session (sampleDraft q)) manifests members) := by
    have hStep := @Step.validateManifest sampleServer (writing (.manifestStamped session (sampleDraft q)) manifests
      members)
      1 rfl session _ writing_work noView noView (noView_of _) (noView_of _)
      (by rw [writing_policies, writing_runs, writing_snapshots]; exact validate_sample session q)
    rwa [writing_setWork] at hStep
  have hInserted : Step (writing (.manifestValidated session (sampleDraft q)) manifests members)
      (writing (.materializing session (sampleManifest q) [memberValue q .first, memberValue q .second])
        (manifests ++ [sampleManifest q]) members) := by
    obtain ⟨document, hRead, hMembers, -⟩ := read_manifest q
    have hStep := @Step.insertManifest sampleServer
      (writing (.manifestValidated session (sampleDraft q)) manifests members) 1 rfl session _ writing_work
      (sampleManifest q) (sampleDraft_row q) (by
        intro stored hStored
        obtain ⟨m, hMem, rfl⟩ := List.mem_map.mp (mem_live_iff.mp hStored).1
        exact freshManifest m hMem)
      noView (noView_of _) (by
        rw [writing_policies, writing_outcomePolicies]
        exact ⟨⟨sampleOutcomePolicy, List.mem_singleton_self _, rfl, rfl⟩, policyRow, List.mem_singleton_self _,
          archived_policy.sha256, rfl, rfl⟩)
      [memberValue q .first, memberValue q .second] (by
        rw [show (sampleManifest q).canonicalManifest = dumps coverageFloats (cohortDocument q) from rfl, hRead,
          hMembers]
        rfl)
    rwa [writing_manifest] at hStep
  have hFound : (manifests ++ [sampleManifest q]).find? (fun m => decide (m.cohortId = sampleHash (cohortLength q))) =
      some (sampleManifest q) := by
    rw [List.find?_append, List.find?_eq_none.mpr fun m hMem => by simpa using freshManifest m hMem, Option.none_or]
    exact List.find?_cons_of_pos (decide_eq_true rfl)
  have hFirst : Step (writing (.materializing session (sampleManifest q) [memberValue q .first, memberValue q .second])
      (manifests ++ [sampleManifest q]) members) (writing (.materializing session (sampleManifest q)
        [memberValue q .second])
        (manifests ++ [sampleManifest q]) (members ++ [sampleMember q .first])) :=
    insert_member .first hFound fun m hMem => .inl (freshMembers m hMem)
  have hSteps : (SampleStep.first.number : Int) ≠ SampleStep.second.number := by decide
  have hSecond : Step (writing (.materializing session (sampleManifest q) [memberValue q .second])
      (manifests ++ [sampleManifest q]) (members ++ [sampleMember q .first]))
      (writing (.materializing session (sampleManifest q) []) (manifests ++ [sampleManifest q])
        (members ++ [sampleMember q .first] ++ [sampleMember q .second])) := by
    refine insert_member .second hFound fun m hMem => ?_
    rcases List.mem_append.mp hMem with hMem | hMem
    · exact .inl (freshMembers m hMem)
    · obtain rfl := List.mem_singleton.mp hMem
      exact .inr ⟨hSteps, rfl⟩
  have hFinished : Step (writing (.materializing session (sampleManifest q) []) (manifests ++ [sampleManifest q])
      (members ++ [sampleMember q .first, sampleMember q .second])) (writing .idle (manifests ++ [sampleManifest q])
        (members ++ [sampleMember q .first, sampleMember q .second])) := by
    have hStep := @Step.finishManifest sampleServer (writing (.materializing session (sampleManifest q) [])
      (manifests ++ [sampleManifest q]) (members ++ [sampleMember q .first, sampleMember q .second])) 1 rfl session
        _ writing_work
    rwa [writing_setWork] at hStep
  rw [List.append_assoc] at hSecond
  exact (((((ReflTransGen.single hStamped).tail hValidated).tail hInserted).tail hFirst).tail hSecond).tail hFinished

end Writing

def sampleManifests : List (ManifestRow sampleServer) :=
  [sampleManifest .calibrationFit, sampleManifest .heldoutEvaluation]

def sampleMembers : List MemberRow :=
  [sampleMember .calibrationFit .first, sampleMember .calibrationFit .second, sampleMember .heldoutEvaluation .first,
    sampleMember .heldoutEvaluation .second]

/-- The state after the transaction has committed. -/
def committedState : State sampleServer :=
  { writing .idle sampleManifests sampleMembers with
    fates := Function.update (writing .idle sampleManifests sampleMembers).fates 1 .committed }

theorem cohortIds_ne :
    sampleHash (cohortLength .calibrationFit) ≠ sampleHash (cohortLength .heldoutEvaluation) :=
  sampleHash_ne (by decide) (by decide) (by decide)

theorem opportunities_ne : sampleOpportunity .calibrationFit ≠ sampleOpportunity .heldoutEvaluation :=
  sampleHash_ne (by decide) (by decide) (by decide)

theorem reachable_committed (session : sampleServer.Session) : Reachable committedState := by
  have hFit : ReflTransGen Step (writing .idle [] []) (writing .idle [sampleManifest .calibrationFit]
      [sampleMember .calibrationFit .first, sampleMember .calibrationFit .second]) :=
    insert_cohort session .calibrationFit (fun _ hNone => absurd hNone List.not_mem_nil)
      fun _ hNone => absurd hNone List.not_mem_nil
  have hHeldout : ReflTransGen Step (writing .idle [sampleManifest .calibrationFit]
      [sampleMember .calibrationFit .first, sampleMember .calibrationFit .second])
      (writing .idle sampleManifests sampleMembers) := by
    refine insert_cohort session .heldoutEvaluation (fun m hMem => ?_) fun m hMem => ?_
    · obtain rfl := List.mem_singleton.mp hMem
      exact cohortIds_ne
    · rcases List.mem_pair.mp hMem with rfl | rfl
      · exact ⟨cohortIds_ne, opportunities_ne⟩
      · exact ⟨cohortIds_ne, opportunities_ne⟩
  have hCommitted : Step (writing .idle sampleManifests sampleMembers) committedState := .commit rfl writing_work
  have hPrepared := prepared_reachable
  rw [← writing_prepared] at hPrepared
  exact ⟨0, (hPrepared.trans (hFit.trans hHeldout)).tail hCommitted⟩

theorem committed_rows {α : Type} (rows : List α) :
    (Mvcc.committed committedState.fates (rows.map (Stored.mk 1))).map Stored.row = rows := by
  have hFate : committedState.fates 1 = .committed := by simp [committedState]
  simp [Mvcc.committed, List.filter_map, Function.comp_def, hFate]

theorem cohort_committed (q : Purpose) : sampleManifest q ∈ committedState.cohortsOf policyRow ∧
    committedState.cohortMembers (sampleManifest q).cohortId = [sampleMember q .first, sampleMember q .second] := by
  have hManifests : (Mvcc.committed committedState.fates committedState.manifests).map Stored.row = sampleManifests :=
    committed_rows sampleManifests
  have hMembers : (Mvcc.committed committedState.fates committedState.members).map Stored.row = sampleMembers :=
    committed_rows sampleMembers
  have hPolicy : policyRow.policyHash = sampleHash policyLength := archived_policy.sha256
  refine ⟨?_, ?_⟩
  · rw [State.cohortsOf, hManifests, List.mem_filter, hPolicy]
    refine ⟨?_, decide_eq_true rfl⟩
    cases q <;> simp [sampleManifests]
  · have hOwn : ∀ step, (sampleMember q step).cohortId = (sampleManifest q).cohortId := fun _ => rfl
    have hIds : ∀ q' step, (sampleMember q' step).cohortId = sampleHash (cohortLength q') := fun _ _ => rfl
    have hId : (sampleManifest q).cohortId = sampleHash (cohortLength q) := rfl
    rw [State.cohortMembers, hMembers, sampleMembers, hId]
    cases q with
    | calibrationFit => simp [hIds, cohortIds_ne.symm]
    | heldoutEvaluation => simp [hIds, cohortIds_ne]

/-! The planner on the same members. -/

def sampleCandidates : List ForecastSelectionCandidate :=
  [sampleCandidate .calibrationFit .first, sampleCandidate .calibrationFit .second,
    sampleCandidate .heldoutEvaluation .first,
    sampleCandidate .heldoutEvaluation .second]

def samplePurpose (c : ForecastSelectionCandidate) : Purpose :=
  if c.opportunityHash = sampleOpportunity .calibrationFit then .calibrationFit else .heldoutEvaluation

theorem purpose_sample (q : Purpose) (step : SampleStep) : samplePurpose (sampleCandidate q step) = q := by
  cases q with
  | calibrationFit => exact if_pos rfl
  | heldoutEvaluation => exact if_neg opportunities_ne.symm

theorem part_sample (q : Purpose) :
    part samplePurpose sampleCandidates q = [sampleCandidate q .first, sampleCandidate q .second] := by
  cases q <;> simp [part, sampleCandidates, purpose_sample]

theorem distinct_sample : (sampleCandidates.map ForecastSelectionCandidate.key).Nodup := by
  simp [sampleCandidates, ForecastSelectionCandidate.key, sampleCandidate, opportunities_ne, SampleStep.number]

theorem assigns_sample : Assigns coverageFloats sampleServer.sha256 samplePolicy sampleCandidates samplePurpose := by
  refine (assigns_iff (List.cons_ne_nil _ _) (by decide)).mpr ⟨⟨_, canonical_sample⟩,
    (parts_iff distinct_sample).mp fun q => ?_⟩
  rw [part_sample q]
  simp only [List.mem_cons, List.not_mem_nil, or_false, forall_eq_or_imp, forall_eq]
  exact ⟨⟨candidate_window q .first, candidate_window q .second⟩, candidate_steps q, candidate_steps q⟩

theorem splits_sample : Splits samplePurpose sampleCandidates
    fun q => some (dumps coverageFloats (cohortDocument q)) := by
  intro q
  obtain ⟨document, hRead, hMembers, -⟩ := read_manifest q
  exact .inr ⟨_, rfl, document, _, [sampleCandidate q .first, sampleCandidate q .second], hRead, hMembers,
    by rw [part_sample q], .cons (spells_member q .first) (.cons (spells_member q .second) .nil)⟩

def sampleSession : sampleServer.Session := ()

/-- A committed policy with a fit and a held-out cohort of two steps each. -/
theorem purposes_never_mix_sample : ∃ s : State sampleServer, Reachable s ∧
    ∃ policy ∈ Mvcc.committed s.fates s.selectionPolicies,
      (∀ q, ∃ m ∈ s.cohortsOf policy.row, m.purpose = q ∧
        s.cohortMembers m.cohortId = [sampleMember q .first, sampleMember q .second]) ∧
      Separated s policy.row ∧
      PassesTrigger sampleSession coverageFloats samplePolicy
        fun q => some (dumps coverageFloats (cohortDocument q)) := by
  have hReachable := reachable_committed sampleSession
  have hPolicy : (⟨1, policyRow⟩ : Stored (SelectionPolicyRow sampleServer)) ∈
      Mvcc.committed committedState.fates committedState.selectionPolicies :=
    mem_committed_iff.mpr ⟨List.mem_singleton_self _, by simp [committedState]⟩
  obtain ⟨hSeparated, hAgree⟩ := purposes_never_mix documented_sampleServer
  exact ⟨committedState, hReachable, _, hPolicy,
    fun q => ⟨sampleManifest q, (cohort_committed q).1, rfl, (cohort_committed q).2⟩,
    hSeparated committedState hReachable _ hPolicy,
    (hAgree sampleSession coverageFloats samplePolicy sampleCandidates samplePurpose _ (List.cons_ne_nil _ _)
      (by decide)
      distinct_sample splits_sample).mp assigns_sample⟩

end StockApi.Selection

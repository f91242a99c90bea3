import StockApi.Selection.Policy

/-!
# The canonical bytes of a selection policy

`canonical_selection_policy` and `parse_selection_policy`. The parser returns a policy only from its
own canonical bytes, and from these it returns the policy itself.
-/

namespace StockApi.Selection

open Checked CivilTime Documents

/-! ## Writing -/

def windowDocument (window : ForecastSelectionWindow) (minimumMemberCount : Int) : Document :=
  .obj [("end", .plain window.last.isoformat), ("minimum_member_count", .int minimumMemberCount),
    ("start", .plain window.start.isoformat)]

def epochDocument (p : PolicyFields) : Document :=
  .obj [("forecast_availability_rule_set_hash", .plain p.forecastAvailabilityRuleSetHash),
    ("forecast_resolution_policy_hash", .plain p.forecastResolutionPolicyHash),
    ("outcome_availability_rule_set_hash", .plain p.outcomeAvailabilityRuleSetHash),
    ("outcome_resolution_policy_hash", .plain p.outcomeResolutionPolicyHash),
    ("resolution_lag_seconds", .int p.resolutionLagSeconds)]

def studyDocument (p : PolicyFields) : Document :=
  .obj [("cadence", .plain p.cadence), ("currency", .plain p.currency), ("horizon", .int p.horizon),
    ("horizon_unit", .plain p.horizonUnit),
    ("interval_coverages_millis", .arr (p.intervalCoveragesMillis.map .int)),
    ("model_selector", .plain p.modelSelector), ("model_version", .plain p.modelVersion),
    ("selected_steps", .arr (p.selectedSteps.map .int)), ("selection_rule", .plain p.selectionRule),
    ("series_basis", .plain p.seriesBasis), ("snapshot_binding", .plain p.snapshotBinding),
    ("symbols", .arr (p.symbols.map .plain)), ("target", .plain p.target)]

def windowsDocument (p : PolicyFields) : Document :=
  .obj [("fit", windowDocument p.fitWindow p.minimumFitMemberCount),
    ("heldout", windowDocument p.heldoutWindow p.minimumHeldoutMemberCount),
    ("membership_aggregation_rule",
      .plain "distinct_opportunity_steps_across_sealed_cohorts_by_policy_purpose_window"),
    ("membership_counting_unit", .plain "forecast_opportunity_step"),
    ("window_date_policy_version", .plain "utc-target-date-v1")]

/-- The document of a policy, its keys in order. -/
def policyDocument (p : PolicyFields) : Document :=
  .obj [("format", .plain "forecast-prospective-selection-policy-v1"),
    ("minimum_seal_lead_seconds", .int p.minimumSealLeadSeconds), ("policy_epoch", epochDocument p),
    ("schema_version", .int p.schemaVersion), ("study", studyDocument p),
    ("windows", windowsDocument p)]

variable (floats : FloatText)

def canonicalSelectionPolicy (p : ProspectiveForecastSelectionPolicy) : Except String Bytes := do
  let canonical := dumps floats (policyDocument p.toPolicyFields)
  refuseIf (¬ (1 ≤ canonical.length ∧ canonical.length ≤ 262144))
    "canonical selection policy exceeds the storage limit"
  return canonical

/-! ## Reading -/

/-- `_object` and `_exact_keys`. -/
def exactObject (value : Document) (schema : List String) (label : String) : Except String PUnit := do
  refuseIf (value.isObject = false) (label ++ " must be a JSON object")
  refuseIf (¬ value.HasKeys schema) (label ++ " has unknown or missing keys")

def stringField : Document → String → Except String String
  | .str (.plain s), _ => .ok s
  | _, label => .error (label ++ " must be a string")

def integerField (value : Document) (label : String) : Except String Int :=
  orRefuse value.int? (label ++ " must be an integer")

def arrayField (value : Document) (label : String) : Except String (List Document) :=
  orRefuse value.items? (label ++ " must be a JSON array")

/-- `_string_tuple`. -/
def stringTuple (value : Document) (label : String) : Except String (List String) := do
  (← arrayField value label).mapM fun item => stringField item label

def integerTuple (value : Document) (label : String) : Except String (List Int) := do
  (← arrayField value label).mapM fun item => integerField item label

/-- `_parse_date`. -/
def parseDate : Document → String → Except String Date
  | .str (.plain s), label => do
    let parsed ← orRefuse (Date.fromisoformat s) (label ++ " is not a valid date")
    refuseIf (parsed.isoformat ≠ s) (label ++ " must be a canonical ISO date")
    return parsed
  | _, label => .error (label ++ " must be a canonical ISO date")

def parseWindow (value : Document) (label : String) : Except String ForecastSelectionWindow := do
  let start ← parseDate (value.field "start") (label ++ ".start")
  let last ← parseDate (value.field "end") (label ++ ".end")
  if h : start ≤ last then return ⟨start, last, h⟩
  else .error "selection window end must be on or after its start"

/-- The constructor of the policy with its `__post_init__`. -/
def PolicyFields.build (p : PolicyFields) : Except String ProspectiveForecastSelectionPolicy :=
  match h : validatePolicy p with
  | .error e => .error e
  | .ok _ => .ok ⟨p, validatePolicy_eq_ok.mp h⟩

/-- The envelope of a document and the objects in it. -/
def checkObjects (document : Document) : Except String PUnit := do
  exactObject document ["format", "minimum_seal_lead_seconds", "policy_epoch", "schema_version", "study",
    "windows"] "selection policy"
  refuseIf (document.field "format" ≠ .plain "forecast-prospective-selection-policy-v1")
    "selection policy format is not supported"
  exactObject (document.field "study") ["cadence", "currency", "horizon", "horizon_unit",
    "interval_coverages_millis", "model_selector", "model_version", "selected_steps",
    "selection_rule", "series_basis", "snapshot_binding", "symbols", "target"] "study"
  let windows := document.field "windows"
  exactObject windows ["fit", "heldout", "membership_aggregation_rule", "membership_counting_unit",
    "window_date_policy_version"] "windows"
  refuseIf (windows.field "membership_aggregation_rule" ≠
      .plain "distinct_opportunity_steps_across_sealed_cohorts_by_policy_purpose_window")
    "membership aggregation rule is not supported"
  refuseIf (windows.field "membership_counting_unit" ≠ .plain "forecast_opportunity_step")
    "membership counting unit is not supported"
  refuseIf (windows.field "window_date_policy_version" ≠ .plain "utc-target-date-v1")
    "window date policy version is not supported"
  exactObject (windows.field "fit") ["end", "minimum_member_count", "start"] "windows.fit"
  exactObject (windows.field "heldout") ["end", "minimum_member_count", "start"] "windows.heldout"
  exactObject (document.field "policy_epoch") ["forecast_availability_rule_set_hash",
    "forecast_resolution_policy_hash", "outcome_availability_rule_set_hash",
    "outcome_resolution_policy_hash", "resolution_lag_seconds"] "policy_epoch"

/-- The arguments of the constructor. -/
def readFields (document : Document) : Except String PolicyFields := do
  let study := document.field "study"
  let windows := document.field "windows"
  let epoch := document.field "policy_epoch"
  let symbols ← stringTuple (study.field "symbols") "study.symbols"
  let target ← stringField (study.field "target") "study.target"
  let seriesBasis ← stringField (study.field "series_basis") "study.series_basis"
  let horizonUnit ← stringField (study.field "horizon_unit") "study.horizon_unit"
  let currency ← stringField (study.field "currency") "study.currency"
  let modelSelector ← stringField (study.field "model_selector") "study.model_selector"
  let modelVersion ← stringField (study.field "model_version") "study.model_version"
  let horizon ← integerField (study.field "horizon") "study.horizon"
  let selectedSteps ← integerTuple (study.field "selected_steps") "study.selected_steps"
  let intervalCoveragesMillis ← integerTuple (study.field "interval_coverages_millis")
    "study.interval_coverages_millis"
  let fitWindow ← parseWindow (windows.field "fit") "windows.fit"
  let heldoutWindow ← parseWindow (windows.field "heldout") "windows.heldout"
  let minimumFitMemberCount ← integerField ((windows.field "fit").field "minimum_member_count")
    "windows.fit.minimum_member_count"
  let minimumHeldoutMemberCount ← integerField ((windows.field "heldout").field "minimum_member_count")
    "windows.heldout.minimum_member_count"
  let minimumSealLeadSeconds ← integerField (document.field "minimum_seal_lead_seconds")
    "minimum_seal_lead_seconds"
  let cadence ← stringField (study.field "cadence") "study.cadence"
  let snapshotBinding ← stringField (study.field "snapshot_binding") "study.snapshot_binding"
  let selectionRule ← stringField (study.field "selection_rule") "study.selection_rule"
  let resolutionLagSeconds ← integerField (epoch.field "resolution_lag_seconds")
    "policy_epoch.resolution_lag_seconds"
  let forecastResolutionPolicyHash ← stringField (epoch.field "forecast_resolution_policy_hash")
    "policy_epoch.forecast_resolution_policy_hash"
  let forecastAvailabilityRuleSetHash ← stringField
    (epoch.field "forecast_availability_rule_set_hash")
    "policy_epoch.forecast_availability_rule_set_hash"
  let outcomeResolutionPolicyHash ← stringField (epoch.field "outcome_resolution_policy_hash")
    "policy_epoch.outcome_resolution_policy_hash"
  let outcomeAvailabilityRuleSetHash ← stringField (epoch.field "outcome_availability_rule_set_hash")
    "policy_epoch.outcome_availability_rule_set_hash"
  let schemaVersion ← integerField (document.field "schema_version") "schema_version"
  return {
    symbols, target, seriesBasis, horizonUnit, currency, modelSelector, modelVersion, horizon,
    selectedSteps, intervalCoveragesMillis, fitWindow, heldoutWindow, minimumFitMemberCount,
    minimumHeldoutMemberCount, minimumSealLeadSeconds, cadence, snapshotBinding, selectionRule,
    resolutionLagSeconds, forecastResolutionPolicyHash, forecastAvailabilityRuleSetHash,
    outcomeResolutionPolicyHash, outcomeAvailabilityRuleSetHash, schemaVersion }

def unreadable : Unreadable → String
  | .malformed => "canonical selection policy is not strict UTF-8 JSON"
  | .duplicateKey _ => "canonical selection policy contains a duplicate JSON key"

def parseSelectionPolicy (canonicalPolicy : Bytes) :
    Except String ProspectiveForecastSelectionPolicy := do
  refuseIf (¬ (1 ≤ canonicalPolicy.length ∧ canonicalPolicy.length ≤ 262144))
    "canonical selection policy must be nonempty bounded bytes"
  let document ← (loads floats canonicalPolicy).mapError unreadable
  checkObjects document
  let fields ← readFields document
  let policy ← fields.build
  let canonical ← canonicalSelectionPolicy floats policy
  refuseIf (canonical ≠ canonicalPolicy) "selection policy bytes are not canonical"
  return policy

/-! ## Round trips -/

variable {floats}

theorem canonicalSelectionPolicy_eq_ok {p : ProspectiveForecastSelectionPolicy} {bytes : Bytes} :
    canonicalSelectionPolicy floats p = .ok bytes ↔
      bytes = dumps floats (policyDocument p.toPolicyFields) ∧ 1 ≤ bytes.length ∧
        bytes.length ≤ 262144 := by
  rw [canonicalSelectionPolicy, refuseIf_bind_eq_ok_iff, pure_eq_ok, not_not]
  constructor
  · rintro ⟨hBounds, h⟩
    cases h
    exact ⟨rfl, hBounds⟩
  · rintro ⟨rfl, hBounds⟩
    exact ⟨hBounds, rfl⟩

theorem ordered_policyDocument (p : PolicyFields) : Ordered (policyDocument p) := by
  have hInts : ∀ values : List Int, OrderedItems (values.map (Json.int : Int → Document)) :=
    ordered_items fun _ => trivial
  have hTexts : ∀ values : List String, OrderedItems (values.map (Json.plain : String → Document)) :=
    ordered_items fun _ => trivial
  simp only [policyDocument, epochDocument, studyDocument, windowsDocument, windowDocument, Ordered,
    OrderedEntries, Json.plain, hInts, List.map_cons, List.map_nil, and_true, true_and]
  refine ⟨by decide, by decide, ⟨by decide, hTexts p.symbols⟩, by decide, by decide, by decide⟩

theorem PolicyFields.build_eq_ok {p : PolicyFields} {policy : ProspectiveForecastSelectionPolicy} :
    p.build = .ok policy ↔ policy.toPolicyFields = p := by
  unfold PolicyFields.build
  split
  · rename_i e h
    constructor
    · intro hError
      cases hError
    · rintro rfl
      rw [validatePolicy_eq_ok.mpr policy.valid] at h
      cases h
  · constructor
    · intro h
      cases h
      rfl
    · rintro rfl
      rfl

/-- Whatever bytes the parser accepts are the canonical ones. -/
theorem canonical_of_parse {bytes : Bytes} {policy : ProspectiveForecastSelectionPolicy}
    (h : parseSelectionPolicy floats bytes = .ok policy) :
    canonicalSelectionPolicy floats policy = .ok bytes := by
  rw [parseSelectionPolicy, refuseIf_bind_eq_ok_iff, bind_eq_ok_iff] at h
  obtain ⟨-, document, -, h⟩ := h
  rw [unit_bind_eq_ok_iff, bind_eq_ok_iff] at h
  obtain ⟨-, fields, -, h⟩ := h
  rw [bind_eq_ok_iff] at h
  obtain ⟨built, -, h⟩ := h
  rw [bind_eq_ok_iff] at h
  obtain ⟨canonical, hCanonical, h⟩ := h
  rw [refuseIf_bind_eq_ok_iff, pure_eq_ok, not_not] at h
  obtain ⟨rfl, h⟩ := h
  cases h
  exact hCanonical

theorem parseWindow_document (window : ForecastSelectionWindow) (count : Int) (label : String) :
    parseWindow (windowDocument window count) label = .ok window := by
  have hStart : (windowDocument window count).field "start" = .plain window.start.isoformat := rfl
  have hLast : (windowDocument window count).field "end" = .plain window.last.isoformat := rfl
  have hDate : ∀ (d : Date) (label : String), parseDate (.plain d.isoformat) label = .ok d := by
    intro d label
    rw [Json.plain, parseDate, Date.fromisoformat_isoformat, orRefuse_some, ok_bind,
      refuseIf_of_not (not_not.mpr rfl), ok_bind, pure_eq_ok]
  rw [parseWindow, hStart, hLast, hDate, ok_bind, hDate, ok_bind, dif_pos window.ordered]
  rfl

theorem stringTuple_map (values : List String) (label : String) :
    stringTuple (.arr (values.map .plain)) label = .ok values := by
  rw [stringTuple, arrayField, Json.items?, orRefuse_some, ok_bind]
  apply mapM_of_forall₂
  rw [List.forall₂_map_left_iff]
  exact List.forall₂_same.mpr fun s _ => rfl

theorem integerTuple_map (values : List Int) (label : String) :
    integerTuple (.arr (values.map .int)) label = .ok values := by
  rw [integerTuple, arrayField, Json.items?, orRefuse_some, ok_bind]
  apply mapM_of_forall₂
  rw [List.forall₂_map_left_iff]
  exact List.forall₂_same.mpr fun n _ => rfl

theorem readFields_document (p : PolicyFields) : readFields (policyDocument p) = .ok p := by
  have hSymbols : ∀ label, stringTuple (((policyDocument p).field "study").field "symbols") label =
      .ok p.symbols := stringTuple_map p.symbols
  have hSteps : ∀ label, integerTuple (((policyDocument p).field "study").field "selected_steps") label =
      .ok p.selectedSteps := integerTuple_map p.selectedSteps
  have hCoverages : ∀ label, integerTuple
      (((policyDocument p).field "study").field "interval_coverages_millis") label =
      .ok p.intervalCoveragesMillis := integerTuple_map p.intervalCoveragesMillis
  have hFit : ∀ label, parseWindow (((policyDocument p).field "windows").field "fit") label =
      .ok p.fitWindow := parseWindow_document p.fitWindow p.minimumFitMemberCount
  have hHeldout : ∀ label, parseWindow (((policyDocument p).field "windows").field "heldout") label =
      .ok p.heldoutWindow := parseWindow_document p.heldoutWindow p.minimumHeldoutMemberCount
  rw [readFields]
  simp only [hSymbols, hSteps, hCoverages, hFit, hHeldout, ok_bind]
  rfl

theorem checkObjects_document (p : PolicyFields) : checkObjects (policyDocument p) = .ok ⟨⟩ := by
  rfl

/-- The parser returns a policy from its canonical bytes. -/
theorem parse_canonical {policy : ProspectiveForecastSelectionPolicy} {bytes : Bytes}
    (h : canonicalSelectionPolicy floats policy = .ok bytes) :
    parseSelectionPolicy floats bytes = .ok policy := by
  obtain ⟨hBytes, hBounds⟩ := canonicalSelectionPolicy_eq_ok.mp h
  have hLoads : (loads floats bytes).mapError unreadable = .ok (policyDocument policy.toPolicyFields) := by
    rw [hBytes, loads_dumps floats (ordered_policyDocument _)]
    rfl
  rw [parseSelectionPolicy, refuseIf_of_not (not_not.mpr hBounds), ok_bind, hLoads, ok_bind,
    checkObjects_document, ok_bind, readFields_document, ok_bind,
    PolicyFields.build_eq_ok.mpr (rfl : policy.toPolicyFields = _), ok_bind, h, ok_bind,
    refuseIf_of_not (not_not.mpr rfl), ok_bind, pure_eq_ok]

/-- The parser and the writer are inverse to each other. -/
theorem parseSelectionPolicy_eq_ok {policy : ProspectiveForecastSelectionPolicy} {bytes : Bytes} :
    parseSelectionPolicy floats bytes = .ok policy ↔
      canonicalSelectionPolicy floats policy = .ok bytes :=
  ⟨canonical_of_parse, parse_canonical⟩

end StockApi.Selection

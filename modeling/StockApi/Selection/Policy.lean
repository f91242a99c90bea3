import StockApi.Library.CivilTime
import StockApi.Library.Dict
import StockApi.Library.Documents

/-!
# Selection policies

`forecast_selection_policies.py`: the policy with its validation, its canonical bytes, and the parser
of these bytes.
-/

namespace StockApi.Selection

open Checked CivilTime Documents Text

/-- `ForecastSelectionWindow`. -/
structure ForecastSelectionWindow where
  start : Date
  last : Date
  ordered : start ≤ last

instance : DecidableEq ForecastSelectionWindow := fun a b =>
  decidable_of_iff (a.start = b.start ∧ a.last = b.last) <| by
    cases a
    cases b
    simp

/-- The fields of `ProspectiveForecastSelectionPolicy`. -/
structure PolicyFields where
  symbols : List String
  target : String
  seriesBasis : String
  horizonUnit : String
  currency : String
  modelSelector : String
  modelVersion : String
  horizon : Int
  selectedSteps : List Int
  intervalCoveragesMillis : List Int
  fitWindow : ForecastSelectionWindow
  heldoutWindow : ForecastSelectionWindow
  minimumFitMemberCount : Int
  minimumHeldoutMemberCount : Int
  minimumSealLeadSeconds : Int
  cadence : String
  snapshotBinding : String
  selectionRule : String
  resolutionLagSeconds : Int
  forecastResolutionPolicyHash : String
  forecastAvailabilityRuleSetHash : String
  outcomeResolutionPolicyHash : String
  outcomeAvailabilityRuleSetHash : String
  schemaVersion : Int
deriving DecidableEq

/-! ## Validation -/

/-- The pattern `^[A-Za-z0-9][A-Za-z0-9._@-]{0,127}$`. -/
def IsModelVersion (s : String) : Prop :=
  let letter := fun c : Char => ('A' ≤ c && c ≤ 'Z') || ('a' ≤ c && c ≤ 'z') || ('0' ≤ c && c ≤ '9')
  (∃ c ∈ s.toList.head?, letter c = true) ∧ s.toList.length ≤ 128 ∧
    (s.toList.all fun c => letter c || c = '.' || c = '_' || c = '@' || c = '-') = true

instance (s : String) : Decidable (IsModelVersion s) := inferInstanceAs (Decidable (_ ∧ _))

/-- `_MODEL_VERSION_PREFIXES`. -/
def modelVersionStart : List (String × String) :=
  [("baseline_naive", "baseline-naive@"), ("baseline_drift", "baseline-drift@")]

/-- `_symbol`; a text of this alphabet is trimmed and in upper case. -/
def IsPolicySymbol (s : String) : Prop := IsSymbol s ∧ s.toList.length ≤ 32

instance (s : String) : Decidable (IsPolicySymbol s) := inferInstanceAs (Decidable (_ ∧ _))

def boundedStep (value : Int) (label : String) : Except String PUnit :=
  refuseIf (¬ (1 ≤ value ∧ value ≤ 252)) (label ++ " must be within 1..252")

def boundedCount (bound value : Int) (label : String) : Except String PUnit :=
  refuseIf (¬ (1 ≤ value ∧ value ≤ bound)) (label ++ " must be a positive bounded integer")

def hashField (value label : String) : Except String PUnit :=
  refuseIf (¬ IsHash value) (label ++ " must be a canonical sha256 hash")

def validateSymbols (symbols : List String) : Except String PUnit := do
  refuseIf (¬ (1 ≤ symbols.length ∧ symbols.length ≤ 10000))
    "selection symbols must be a nonempty bounded tuple"
  refuseIf (¬ ∀ s ∈ symbols, IsPolicySymbol s) "symbols must contain canonical uppercase symbols"
  refuseIf (symbols ≠ Dict.sortedSet symbols)
    "selection symbols must be sorted and contain no duplicates"

def validateSteps (steps : List Int) (horizon : Int) : Except String PUnit := do
  refuseIf (steps = []) "selected_steps must be a nonempty tuple"
  steps.forM fun step => boundedStep step "selected_steps"
  refuseIf (∃ step ∈ steps, horizon < step) "selected_steps must not exceed the forecast horizon"
  refuseIf (steps ≠ Dict.sortedSet steps) "selected_steps must be sorted and contain no duplicates"

def validateCoverages (values : List Int) : Except String PUnit := do
  refuseIf (¬ (1 ≤ values.length ∧ values.length ≤ 9))
    "interval coverages must be a nonempty tuple with at most nine values"
  refuseIf (¬ ∀ value ∈ values, 1 ≤ value ∧ value ≤ 999)
    "interval coverages must be canonical thousandths within 1..999"
  refuseIf (values ≠ Dict.sortedSet values)
    "interval coverages must be sorted and contain no duplicates"

def validatePolicy (p : PolicyFields) : Except String PUnit := do
  refuseIf (p.schemaVersion ≠ 1) "selection policy schema_version is not supported"
  validateSymbols p.symbols
  refuseIf (p.target ≠ "close") "selection target must be raw close v1"
  refuseIf (p.seriesBasis ≠ "raw") "selection series_basis must be raw v1"
  refuseIf (p.horizonUnit ≠ "trading_day") "selection horizon_unit must be trading_day v1"
  refuseIf (p.currency ≠ "USD") "selection currency must be USD v1"
  let start ← orRefuse (modelVersionStart.lookup p.modelSelector)
    "selection model_selector must be an explicit executable model"
  refuseIf (¬ IsModelVersion p.modelVersion) "selection model_version is not canonical"
  refuseIf (start.toList.isPrefixOf p.modelVersion.toList = false)
    "selection model_version does not match model_selector"
  boundedStep p.horizon "horizon"
  validateSteps p.selectedSteps p.horizon
  validateCoverages p.intervalCoveragesMillis
  refuseIf (p.heldoutWindow.start ≤ p.fitWindow.last)
    "fit window must end strictly before the held-out window starts"
  boundedCount 1000000 p.minimumFitMemberCount "minimum_fit_member_count"
  boundedCount 1000000 p.minimumHeldoutMemberCount "minimum_heldout_member_count"
  refuseIf (¬ (14400 ≤ p.minimumSealLeadSeconds ∧ p.minimumSealLeadSeconds ≤ 31622400))
    "minimum_seal_lead_seconds is below the safety fence or unbounded"
  refuseIf (p.cadence ≠ "xnys_session_daily") "selection cadence must be xnys_session_daily v1"
  refuseIf (p.snapshotBinding ≠ "explicit_snapshot_id")
    "selection snapshots must be explicitly pinned v1"
  refuseIf (p.selectionRule ≠ "complete_selected_step_bundle_within_one_utc_target_window")
    "selection rule is not supported"
  hashField p.forecastResolutionPolicyHash "forecast_resolution_policy_hash"
  hashField p.forecastAvailabilityRuleSetHash "forecast_availability_rule_set_hash"
  hashField p.outcomeResolutionPolicyHash "outcome_resolution_policy_hash"
  hashField p.outcomeAvailabilityRuleSetHash "outcome_availability_rule_set_hash"
  boundedCount 31622400 p.resolutionLagSeconds "resolution_lag_seconds"

/-- The clauses of `_validate_policy`. -/
structure PolicyFields.Valid (p : PolicyFields) : Prop where
  schemaVersion : p.schemaVersion = 1
  symbolCount : 1 ≤ p.symbols.length ∧ p.symbols.length ≤ 10000
  symbols : ∀ s ∈ p.symbols, IsPolicySymbol s
  symbolsSorted : p.symbols.Pairwise (· < ·)
  target : p.target = "close"
  seriesBasis : p.seriesBasis = "raw"
  horizonUnit : p.horizonUnit = "trading_day"
  currency : p.currency = "USD"
  model : ∃ start, modelVersionStart.lookup p.modelSelector = some start ∧
    IsModelVersion p.modelVersion ∧ start.toList.isPrefixOf p.modelVersion.toList = true
  horizon : 1 ≤ p.horizon ∧ p.horizon ≤ 252
  someStep : p.selectedSteps ≠ []
  steps : ∀ s ∈ p.selectedSteps, (1 ≤ s ∧ s ≤ 252) ∧ s ≤ p.horizon
  stepsSorted : p.selectedSteps.Pairwise (· < ·)
  coverageCount : 1 ≤ p.intervalCoveragesMillis.length ∧ p.intervalCoveragesMillis.length ≤ 9
  coverages : ∀ c ∈ p.intervalCoveragesMillis, 1 ≤ c ∧ c ≤ 999
  coveragesSorted : p.intervalCoveragesMillis.Pairwise (· < ·)
  windows : p.fitWindow.last < p.heldoutWindow.start
  fitCount : 1 ≤ p.minimumFitMemberCount ∧ p.minimumFitMemberCount ≤ 1000000
  heldoutCount : 1 ≤ p.minimumHeldoutMemberCount ∧ p.minimumHeldoutMemberCount ≤ 1000000
  sealLead : 14400 ≤ p.minimumSealLeadSeconds ∧ p.minimumSealLeadSeconds ≤ 31622400
  cadence : p.cadence = "xnys_session_daily"
  snapshotBinding : p.snapshotBinding = "explicit_snapshot_id"
  selectionRule : p.selectionRule = "complete_selected_step_bundle_within_one_utc_target_window"
  forecastResolution : IsHash p.forecastResolutionPolicyHash
  forecastAvailability : IsHash p.forecastAvailabilityRuleSetHash
  outcomeResolution : IsHash p.outcomeResolutionPolicyHash
  outcomeAvailability : IsHash p.outcomeAvailabilityRuleSetHash
  lag : 1 ≤ p.resolutionLagSeconds ∧ p.resolutionLagSeconds ≤ 31622400

theorem boundedStep_eq_ok {value : Int} {label : String} :
    boundedStep value label = .ok ⟨⟩ ↔ 1 ≤ value ∧ value ≤ 252 := by
  rw [boundedStep, refuseIf_eq_ok_iff, not_not]

theorem boundedCount_eq_ok {bound value : Int} {label : String} :
    boundedCount bound value label = .ok ⟨⟩ ↔ 1 ≤ value ∧ value ≤ bound := by
  rw [boundedCount, refuseIf_eq_ok_iff, not_not]

theorem hashField_eq_ok {value label : String} : hashField value label = .ok ⟨⟩ ↔ IsHash value := by
  rw [hashField, refuseIf_eq_ok_iff, not_not]

theorem ne_sortedSet_iff {α : Type} [LinearOrder α] {values : List α} :
    ¬ values ≠ Dict.sortedSet values ↔ values.Pairwise (· < ·) := by
  rw [not_not, eq_comm, Dict.sortedSet_eq_self_iff]

theorem validateSymbols_eq_ok {symbols : List String} : validateSymbols symbols = .ok ⟨⟩ ↔
    (1 ≤ symbols.length ∧ symbols.length ≤ 10000) ∧ (∀ s ∈ symbols, IsPolicySymbol s) ∧
      symbols.Pairwise (· < ·) := by
  rw [validateSymbols, refuseIf_bind_eq_ok_iff, refuseIf_bind_eq_ok_iff, refuseIf_eq_ok_iff, not_not,
    not_not, ne_sortedSet_iff]

theorem validateSteps_eq_ok {steps : List Int} {horizon : Int} : validateSteps steps horizon = .ok ⟨⟩ ↔
    steps ≠ [] ∧ (∀ s ∈ steps, (1 ≤ s ∧ s ≤ 252) ∧ s ≤ horizon) ∧ steps.Pairwise (· < ·) := by
  rw [validateSteps, refuseIf_bind_eq_ok_iff, unit_bind_eq_ok_iff, forM_eq_ok_iff,
    refuseIf_bind_eq_ok_iff, refuseIf_eq_ok_iff, ne_sortedSet_iff]
  simp only [boundedStep_eq_ok, not_exists, not_and, not_lt]
  constructor
  · rintro ⟨hSome, hBounded, hHorizon, hSorted⟩
    exact ⟨hSome, fun s hs => ⟨hBounded s hs, hHorizon s hs⟩, hSorted⟩
  · rintro ⟨hSome, hSteps, hSorted⟩
    exact ⟨hSome, fun s hs => (hSteps s hs).1, fun s hs => (hSteps s hs).2, hSorted⟩

theorem validateCoverages_eq_ok {values : List Int} : validateCoverages values = .ok ⟨⟩ ↔
    (1 ≤ values.length ∧ values.length ≤ 9) ∧ (∀ v ∈ values, 1 ≤ v ∧ v ≤ 999) ∧
      values.Pairwise (· < ·) := by
  rw [validateCoverages, refuseIf_bind_eq_ok_iff, refuseIf_bind_eq_ok_iff, refuseIf_eq_ok_iff, not_not,
    not_not, ne_sortedSet_iff]

theorem validatePolicy_eq_ok {p : PolicyFields} : validatePolicy p = .ok ⟨⟩ ↔ p.Valid := by
  rw [validatePolicy]
  simp only [unit_bind_eq_ok_iff, orRefuse_bind_eq_ok_iff, refuseIf_eq_ok_iff, boundedStep_eq_ok,
    boundedCount_eq_ok, hashField_eq_ok, validateSymbols_eq_ok, validateSteps_eq_ok,
    validateCoverages_eq_ok, ne_eq, Decidable.not_not, Bool.not_eq_false, not_le]
  constructor
  · rintro ⟨h1, ⟨h2, h3, h4⟩, h5, h6, h7, h8, start, h9, h10, h11, h12, ⟨h13, h14, h15⟩,
      ⟨h16, h17, h18⟩, h19, h20, h21, h22, h23, h24, h25, h26, h27, h28, h29, h30⟩
    exact ⟨h1, h2, h3, h4, h5, h6, h7, h8, ⟨start, h9, h10, h11⟩, h12, h13, h14, h15, h16, h17, h18,
      h19, h20, h21, h22, h23, h24, h25, h26, h27, h28, h29, h30⟩
  · intro h
    obtain ⟨start, hStart, hVersion, hMatches⟩ := h.model
    exact ⟨h.schemaVersion, ⟨h.symbolCount, h.symbols, h.symbolsSorted⟩, h.target, h.seriesBasis,
      h.horizonUnit, h.currency, start, hStart, hVersion, hMatches, h.horizon,
      ⟨h.someStep, h.steps, h.stepsSorted⟩, ⟨h.coverageCount, h.coverages, h.coveragesSorted⟩,
      h.windows, h.fitCount, h.heldoutCount, h.sealLead, h.cadence, h.snapshotBinding,
      h.selectionRule, h.forecastResolution, h.forecastAvailability, h.outcomeResolution,
      h.outcomeAvailability, h.lag⟩

theorem modelVersionStart_lookup {selector start : String} :
    modelVersionStart.lookup selector = some start ↔
      (selector = "baseline_naive" ∧ start = "baseline-naive@") ∨
        (selector = "baseline_drift" ∧ start = "baseline-drift@") := by
  rw [Dict.lookup_eq_some_iff (by decide)]
  simp [modelVersionStart]

/-- A policy that `__post_init__` let through. -/
structure ProspectiveForecastSelectionPolicy extends PolicyFields where
  valid : toPolicyFields.Valid

theorem ProspectiveForecastSelectionPolicy.ext {p q : ProspectiveForecastSelectionPolicy}
    (h : p.toPolicyFields = q.toPolicyFields) : p = q := by
  cases p
  cases q
  simp only at h
  subst h
  rfl

end StockApi.Selection

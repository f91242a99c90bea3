import StockApi.Evidence.Rows

/-!
# The registry of selection policies

`stamp_forecast_selection_policy`: which bytes the registry accepts, and the columns it projects from
them.
-/

namespace StockApi.Evidence

open Checked CivilTime Documents Jsonb JsonText Relational Text

variable (pg : Postgres)

/-! ## Canonical text -/

mutual

/-- The document with the keys of every object in byte order. -/
def byKey : Value → Value
  | .arr items => .arr (byKeyItems items)
  | .obj entries => .obj ((byKeyEntries entries).insertionSort fun a b => a.1 ≤ b.1)
  | value => value

def byKeyItems : List Value → List Value
  | [] => []
  | x :: xs => byKey x :: byKeyItems xs

def byKeyEntries : List (String × Value) → List (String × Value)
  | [] => []
  | (k, x) :: xs => (k, byKey x) :: byKeyEntries xs

end

def canonicalForecastSelectionJson (value : Value) : List Char := write [] (byKey value)

/-! ## Patterns -/

/-- The pattern `^[A-Za-z0-9][A-Za-z0-9._@-]{0,127}$`. -/
def IsModelVersion (s : String) : Prop :=
  let letter := fun c : Char => ('A' ≤ c && c ≤ 'Z') || ('a' ≤ c && c ≤ 'z') || ('0' ≤ c && c ≤ '9')
  (∃ c ∈ s.toList.head?, letter c = true) ∧ s.toList.length ≤ 128 ∧
    (s.toList.all fun c => letter c || c = '.' || c = '_' || c = '@' || c = '-') = true

instance (s : String) : Decidable (IsModelVersion s) := inferInstanceAs (Decidable (_ ∧ _))

def StartsWith (start s : String) : Prop := start.toList.isPrefixOf s.toList = true

instance (start s : String) : Decidable (StartsWith start s) := inferInstanceAs (Decidable (_ = _))

/-- The pattern `^[0-9]{4}-[0-9]{2}-[0-9]{2}$`, with its three numbers. -/
def dateFields (s : String) : Option (Nat × Nat × Nat) :=
  match s.toList with
  | [a, b, c, d, '-', e, f, '-', g, h] => do
    return (← Digits.read [a, b, c, d], ← Digits.read [e, f], ← Digits.read [g, h])
  | _ => none

/-- The cast of such a text to `date`. -/
def castDate (s : String) : Option Date := (dateFields s).bind fun (y, m, d) => Date.ofParts y m d

/-! ## Documents -/

def policyKeys : List String :=
  ["format", "minimum_seal_lead_seconds", "policy_epoch", "schema_version", "study", "windows"]

def studyKeys : List String :=
  ["cadence", "currency", "horizon", "horizon_unit", "interval_coverages_millis", "model_selector",
    "model_version", "selected_steps", "selection_rule", "series_basis", "snapshot_binding",
    "symbols", "target"]

def windowsKeys : List String :=
  ["fit", "heldout", "membership_aggregation_rule", "membership_counting_unit",
    "window_date_policy_version"]

def windowKeys : List String := ["end", "minimum_member_count", "start"]

def epochKeys : List String :=
  ["forecast_availability_rule_set_hash", "forecast_resolution_policy_hash",
    "outcome_availability_rule_set_hash", "outcome_resolution_policy_hash",
    "resolution_lag_seconds"]

/-- A number of at most so many digits. -/
def digitsOf (width : Nat) (value : Option Value) : Option Nat :=
  if isNumber value then boundedNatural width (asText value) else none

def EnvelopeSupported (policy : Option Value) : Prop :=
  HasKeys policy policyKeys ∧
  getText policy "format" = some "forecast-prospective-selection-policy-v1" ∧
  (isNumber (get policy "schema_version") = true ∧ getText policy "schema_version" = some "1") ∧
  (digitsOf 8 (get policy "minimum_seal_lead_seconds")).isSome = true ∧
  isObject (get policy "study") = true ∧ isObject (get policy "windows") = true ∧
  isObject (get policy "policy_epoch") = true

instance (policy : Option Value) : Decidable (EnvelopeSupported policy) :=
  inferInstanceAs (Decidable (_ ∧ _))

/-- The selector and the version it demands. -/
def ModelSupported (selector version : Option String) : Prop :=
  (selector = some "baseline_naive" ∨ selector = some "baseline_drift") ∧
  (∃ v ∈ version, IsModelVersion v ∧
    (selector = some "baseline_naive" → StartsWith "baseline-naive@" v) ∧
    (selector = some "baseline_drift" → StartsWith "baseline-drift@" v))

instance (selector version : Option String) : Decidable (ModelSupported selector version) :=
  inferInstanceAs (Decidable (_ ∧ _))

def StudySupported (study : Option Value) : Prop :=
  HasKeys study studyKeys ∧ getText study "target" = some "close" ∧
  getText study "series_basis" = some "raw" ∧ getText study "horizon_unit" = some "trading_day" ∧
  getText study "currency" = some "USD" ∧ getText study "cadence" = some "xnys_session_daily" ∧
  getText study "snapshot_binding" = some "explicit_snapshot_id" ∧
  getText study "selection_rule" =
    some "complete_selected_step_bundle_within_one_utc_target_window" ∧
  ModelSupported (getText study "model_selector") (getText study "model_version") ∧
  (digitsOf 3 (get study "horizon")).isSome = true ∧
  isArray (get study "selected_steps") = true ∧
  isArray (get study "interval_coverages_millis") = true ∧ isArray (get study "symbols") = true

instance (study : Option Value) : Decidable (StudySupported study) :=
  inferInstanceAs (Decidable (_ ∧ _))

def StudyArraysBounded (study : Option Value) : Prop :=
  let between := fun (low high : Nat) (key : String) =>
    low ≤ (elements (get study key)).length ∧ (elements (get study key)).length ≤ high
  between 1 252 "selected_steps" ∧ between 1 9 "interval_coverages_millis" ∧ between 1 10000 "symbols"

instance (study : Option Value) : Decidable (StudyArraysBounded study) :=
  inferInstanceAs (Decidable (_ ∧ _))

/-- A symbol of at most thirty-two characters. -/
def symbolOf (value : Value) : Option String :=
  match value with
  | .str s => if IsSymbol s ∧ s.toList.length ≤ 32 then some s else none
  | _ => none

def Increasing {α : Type} [LT α] (values : List α) : Prop := values.IsChain (· < ·)

instance {α : Type} [LT α] [DecidableLT α] (values : List α) : Decidable (Increasing values) :=
  inferInstanceAs (Decidable (List.IsChain _ _))

def StudyOrdered (horizon minimumSealLead : Nat) (steps coverages : List Nat) (symbols : List String) :
    Prop :=
  (1 ≤ horizon ∧ horizon ≤ 252) ∧ (14400 ≤ minimumSealLead ∧ minimumSealLead ≤ 31622400) ∧
  ((∀ s ∈ steps, 1 ≤ s ∧ s ≤ horizon) ∧ Increasing steps) ∧
  ((∀ c ∈ coverages, 1 ≤ c ∧ c ≤ 999) ∧ Increasing coverages) ∧ Increasing symbols

instance (horizon minimumSealLead : Nat) (steps coverages : List Nat) (symbols : List String) :
    Decidable (StudyOrdered horizon minimumSealLead steps coverages symbols) :=
  inferInstanceAs (Decidable (_ ∧ _))

def WindowsSupported (windows : Option Value) : Prop :=
  HasKeys windows windowsKeys ∧
  getText windows "membership_aggregation_rule" =
    some "distinct_opportunity_steps_across_sealed_cohorts_by_policy_purpose_window" ∧
  getText windows "membership_counting_unit" = some "forecast_opportunity_step" ∧
  getText windows "window_date_policy_version" = some "utc-target-date-v1" ∧
  isObject (get windows "fit") = true ∧ isObject (get windows "heldout") = true

instance (windows : Option Value) : Decidable (WindowsSupported windows) :=
  inferInstanceAs (Decidable (_ ∧ _))

/-- The texts of a window and its minimum count. -/
structure WindowText where
  start : String
  last : String
  minimumMemberCount : Nat

def windowTextOf (window : Option Value) : Option WindowText :=
  if HasKeys window windowKeys then do
    let count ← digitsOf 7 (get window "minimum_member_count")
    let start ← (getText window "start").filter fun s => (dateFields s).isSome
    let last ← (getText window "end").filter fun s => (dateFields s).isSome
    return ⟨start, last, count⟩
  else none

structure Window where
  text : WindowText
  start : Date
  last : Date

def WindowText.cast (text : WindowText) : Option Window := do
  return ⟨text, ← castDate text.start, ← castDate text.last⟩

def Window.RoundTrips (w : Window) : Prop :=
  w.start.isoformat = w.text.start ∧ w.last.isoformat = w.text.last

instance (w : Window) : Decidable w.RoundTrips := inferInstanceAs (Decidable (_ ∧ _))

def WindowsOrdered (fit heldout : Window) : Prop :=
  fit.RoundTrips ∧ heldout.RoundTrips ∧ fit.start ≤ fit.last ∧ fit.last < heldout.start ∧
  heldout.start ≤ heldout.last ∧
  (1 ≤ fit.text.minimumMemberCount ∧ fit.text.minimumMemberCount ≤ 1000000) ∧
  (1 ≤ heldout.text.minimumMemberCount ∧ heldout.text.minimumMemberCount ≤ 1000000)

instance (fit heldout : Window) : Decidable (WindowsOrdered fit heldout) :=
  inferInstanceAs (Decidable (_ ∧ _))

def hashOf (value : Option String) : Option String := value.filter fun s => decide (IsHash s)

/-- The hashes of an epoch and its lag. -/
structure Epoch where
  forecastAvailabilityRuleSetHash : String
  forecastResolutionPolicyHash : String
  outcomeAvailabilityRuleSetHash : String
  outcomeResolutionPolicyHash : String
  resolutionLagSeconds : Nat

def epochOf (epoch : Option Value) : Option Epoch :=
  if HasKeys epoch epochKeys then do
    let availability ← hashOf (getText epoch "forecast_availability_rule_set_hash")
    let resolution ← hashOf (getText epoch "forecast_resolution_policy_hash")
    let outcomeAvailability ← hashOf (getText epoch "outcome_availability_rule_set_hash")
    let outcomeResolution ← hashOf (getText epoch "outcome_resolution_policy_hash")
    let lag ← digitsOf 8 (get epoch "resolution_lag_seconds")
    return ⟨availability, resolution, outcomeAvailability, outcomeResolution, lag⟩
  else none

/-! ## The trigger -/

variable {pg}

/-- The outcome policy that an epoch names. -/
def Epoch.Names (epoch : Epoch) (row : OutcomePolicyRow pg) : Prop :=
  row.policyHash = epoch.outcomeResolutionPolicyHash ∧
  row.availabilityRuleSetHash = epoch.outcomeAvailabilityRuleSetHash ∧
  row.resolutionLagSeconds = epoch.resolutionLagSeconds

instance (epoch : Epoch) (row : OutcomePolicyRow pg) : Decidable (epoch.Names row) :=
  inferInstanceAs (Decidable (_ ∧ _))

def stampForecastSelectionPolicy (registered : List (OutcomePolicyRow pg)) (clock : Int) (xid : Nat)
    (canonicalPolicy : Bytes) : Except SqlError SelectionPolicyColumns := do
  refuseIf (¬ (1 ≤ canonicalPolicy.length ∧ canonicalPolicy.length ≤ 262144))
    (SqlError.mk "22023" "selection policy exceeds the storage bound")
  let document ← orRefuse (Jsonb.read canonicalPolicy)
    ⟨"22023", "selection policy is not valid UTF-8 JSON"⟩
  refuseIf (¬ EnvelopeSupported (some document))
    (SqlError.mk "22023" "selection policy envelope is not supported")
  refuseIf (encode (canonicalForecastSelectionJson document) ≠ canonicalPolicy)
    (SqlError.mk "22023" "selection policy bytes are not canonical")
  let study := get (some document) "study"
  refuseIf (¬ StudySupported study) (SqlError.mk "22023" "selection policy study is not supported")
  refuseIf (¬ StudyArraysBounded study)
    (SqlError.mk "22023" "selection policy study arrays are outside supported bounds")
  let invalid : SqlError := ⟨"22023", "selection policy study arrays contain invalid values"⟩
  let steps ← orRefuse
    ((elements (get study "selected_steps")).mapM fun item => digitsOf 3 (some item)) invalid
  let coverages ← orRefuse
    ((elements (get study "interval_coverages_millis")).mapM fun item => digitsOf 3 (some item)) invalid
  let symbols ← orRefuse ((elements (get study "symbols")).mapM symbolOf) invalid
  let horizon := (digitsOf 3 (get study "horizon")).getD 0
  let minimumSealLead := (digitsOf 8 (get (some document) "minimum_seal_lead_seconds")).getD 0
  refuseIf (¬ StudyOrdered horizon minimumSealLead steps coverages symbols)
    (SqlError.mk "22023" "selection policy study ordering or bounds are invalid")
  let windows := get (some document) "windows"
  refuseIf (¬ WindowsSupported windows)
    (SqlError.mk "22023" "selection policy windows are not supported")
  let malformed : SqlError := ⟨"22023", "selection policy window values are malformed"⟩
  let fitText ← orRefuse (windowTextOf (get windows "fit")) malformed
  let heldoutText ← orRefuse (windowTextOf (get windows "heldout")) malformed
  let uncastable : SqlError := ⟨"22023", "selection policy window values are invalid"⟩
  let fit ← orRefuse fitText.cast uncastable
  let heldout ← orRefuse heldoutText.cast uncastable
  refuseIf (¬ WindowsOrdered fit heldout)
    (SqlError.mk "22023" "selection policy windows are invalid or overlap")
  let epoch ← orRefuse (epochOf (get (some document) "policy_epoch"))
    ⟨"22023", "selection policy epoch is malformed"⟩
  refuseIf (¬ (1 ≤ epoch.resolutionLagSeconds ∧ epoch.resolutionLagSeconds ≤ 31622400))
    (SqlError.mk "22023" "selection policy epoch lag is outside supported bounds")
  refuseIf (¬ ∃ row ∈ registered, epoch.Names row)
    (SqlError.mk "23503" "selection policy does not match a registered outcome-policy epoch")
  return {
    policyHash := pg.sha256 canonicalPolicy
    forecastResolutionPolicyHash := epoch.forecastResolutionPolicyHash
    forecastAvailabilityRuleSetHash := epoch.forecastAvailabilityRuleSetHash
    outcomeResolutionPolicyHash := epoch.outcomeResolutionPolicyHash
    outcomeAvailabilityRuleSetHash := epoch.outcomeAvailabilityRuleSetHash
    resolutionLagSeconds := epoch.resolutionLagSeconds
    fitWindowStart := fit.start
    fitWindowEnd := fit.last
    heldoutWindowStart := heldout.start
    heldoutWindowEnd := heldout.last
    minimumFitMemberCount := fit.text.minimumMemberCount
    minimumHeldoutMemberCount := heldout.text.minimumMemberCount
    minimumSealLeadSeconds := minimumSealLead
    selectedSteps := steps.map fun (s : Nat) => (s : Int)
    canonicalPolicy
    recordedAt := clock
    creatorXid := xid }

/-- The row that the table accepts. -/
def SelectionPolicyColumns.toRow (c : SelectionPolicyColumns) : Except SqlError (SelectionPolicyRow pg) :=
  if h : c.Checks pg then .ok ⟨c, h⟩ else .error checkViolation

end StockApi.Evidence

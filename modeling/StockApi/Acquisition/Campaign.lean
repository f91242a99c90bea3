import StockApi.Acquisition.Calls

/-!
# Campaign scopes and the cumulative campaign state

A campaign is named by the digest of its scope. Its state counts what the ledger has
authorized and reserved; the bounds that `CampaignLedgerState.__post_init__` checks are fields
of the structure.
-/

namespace StockApi.Acquisition

open Checked CivilTime

variable {δ : Type}

/-- `CORPORATE_ACTION_QUERY_POLICY_DOCUMENT`. -/
def corporateActionQueryPolicyDocument : Json δ :=
  .obj [
    ("canonical_evidence", .obj [
      ("encoding", text "utf8-json-sort-keys-compact-no-nan"),
      ("provider_identifier_pattern", text "^[A-Za-z0-9._:\\-]\x7b1,128\x7d$"),
      ("storage_projection", text "database-derived-from-exact-canonical-bytes")]),
    ("format", text "corporate-action-query-policy-v1"),
    ("origin", text "https://api.massive.com"),
    ("page", .obj [
      ("count", .int 1),
      ("limit", .int 5000),
      ("next_url", text "must_be_absent"),
      ("retries", .int 0),
      ("status", text "OK")]),
    ("queries", .obj [
      ("dividend", .obj [
        ("date_field", text "ex_dividend_date"),
        ("endpoint", text dividendsEndpoint),
        ("sort", text "ex_dividend_date.asc")]),
      ("split", .obj [
        ("date_field", text "execution_date"),
        ("endpoint", text splitsEndpoint),
        ("sort", text "execution_date.asc")])]),
    ("scope", text "one_uppercase_symbol_and_inclusive_date_window"),
    ("source", text corporateActionSource),
    ("version_selection", .obj [
      ("eligibility", text "post_commit_receipt_available_at_lte_consumer_cutoff"),
      ("newest_order", .arr [text "collection_recorded_at_desc", text "collection_id_desc"])])]

theorem mapM_isoDate?_map_isoDate (dates : List Date) :
    (dates.map (isoDate : Date → Json δ)).mapM isoDate? = some dates := by
  induction dates with
  | nil => rfl
  | cons d rest ih => simp [ih]

variable [ContentHash δ]

def corporateActionQueryPolicyHash : δ := contentId corporateActionQueryPolicyDocument

def campaignScopeDocument (first last : Date) (expectedDates : List Date) : Json δ :=
  .obj [
    ("corporate_action_query_policy_hash", hash corporateActionQueryPolicyHash),
    ("dividend_endpoint", text dividendsEndpoint),
    ("expected_sessions", .arr (expectedDates.map isoDate)),
    ("format", text "stockapi-vendor-acquisition-campaign-v1"),
    ("initial_hard_max_calls", .int maxAuthorizedCalls),
    ("max_recovery_calls", .int maxRecoveryCalls),
    ("open_close_endpoint_format", text "/v1/open-close/\x7bsymbol\x7d/\x7bsession\x7d?adjusted=false"),
    ("source", text backfillSource),
    ("split_endpoint", text splitsEndpoint),
    ("symbol", text backfillSymbol),
    ("window_end", isoDate last),
    ("window_start", isoDate first)]

/-- `_campaign_scope`. -/
def campaignScope (expectedDates : List Date) : Except Raised (Json δ) :=
  match expectedDates with
  | [] => .error (.acquisitionRefused "campaign sessions must be non-empty, unique, and ordered")
  | first :: rest =>
    if Dict.sortedSet expectedDates ≠ expectedDates then
      .error (.acquisitionRefused "campaign sessions must be non-empty, unique, and ordered")
    else .ok (campaignScopeDocument first (rest.getLastD first) expectedDates)

/-- What a scope built from sessions looks like. -/
theorem campaignScope_eq_ok_iff {expectedDates : List Date} {scope : Json δ} :
    campaignScope expectedDates = .ok scope ↔
      expectedDates.Pairwise (· < ·) ∧ ∃ first rest, expectedDates = first :: rest ∧
        scope = campaignScopeDocument first (rest.getLastD first) expectedDates := by
  cases expectedDates with
  | nil => simp [campaignScope]
  | cons first rest =>
    by_cases hSorted : (first :: rest).Pairwise (· < ·)
    · have hSet := Dict.sortedSet_eq_self_iff.mpr hSorted
      simp only [campaignScope, hSet, ne_eq, not_true, if_false, hSorted, true_and]
      constructor
      · rintro ⟨⟩
        exact ⟨first, rest, rfl, rfl⟩
      · rintro ⟨_, _, hEq, rfl⟩
        cases hEq
        rfl
    · have hSet : Dict.sortedSet (first :: rest) ≠ first :: rest :=
        fun h => hSorted (Dict.sortedSet_eq_self_iff.mp h)
      simp [campaignScope, hSet, hSorted]

variable [DecidableEq δ]

def campaignScopeSchema : List String := [
  "corporate_action_query_policy_hash", "dividend_endpoint", "expected_sessions", "format",
  "initial_hard_max_calls", "max_recovery_calls", "open_close_endpoint_format", "source",
  "split_endpoint", "symbol", "window_end", "window_start"]

/-- `_validate_campaign_scope`. -/
def validateCampaignScope (value : Json δ) : Except Raised (Json δ) := do
  refuseIf (¬ value.HasKeys campaignScopeSchema) (Raised.valueError "campaign scope schema mismatch")
  let items ← orRefuse (value.field "expected_sessions").items?
    (Raised.valueError "campaign sessions must be a non-empty array")
  refuseIf (items = []) (Raised.valueError "campaign sessions must be a non-empty array")
  let sessions ← orRefuse (items.mapM isoDate?) (Raised.valueError "campaign sessions are invalid")
  let expected ← campaignScope sessions
  refuseIf (¬ value.pyEq expected) (Raised.valueError "campaign scope is not canonical")
  return expected

/-- A scope that was built is read back as itself. -/
theorem validateCampaignScope_of_built {expectedDates : List Date} {scope : Json δ}
    (h : campaignScope expectedDates = .ok scope) : validateCampaignScope scope = .ok scope := by
  obtain ⟨-, first, rest, rfl, rfl⟩ := campaignScope_eq_ok_iff.mp h
  set scope : Json δ := campaignScopeDocument first (rest.getLastD first) (first :: rest) with hScope
  have hKeys : scope.HasKeys campaignScopeSchema := by
    simp [hScope, Json.HasKeys, Json.isObject, Json.keys, campaignScopeSchema, campaignScopeDocument]
  have hItems : (scope.field "expected_sessions").items? =
      some ((first :: rest).map isoDate) := rfl
  have hNonempty : (first :: rest).map (isoDate : Date → Json δ) ≠ [] := by simp
  rw [validateCampaignScope, refuseIf_of_not (by simpa using hKeys), hItems]
  simp only [ok_bind, orRefuse_some, refuseIf_of_not hNonempty, mapM_isoDate?_map_isoDate, h,
    Json.pyEq_refl, not_true, refuseIf_of_not not_false, pure_eq_ok]

/-- What is accepted is equal to a scope built from sessions. -/
theorem validateCampaignScope_eq_ok {value scope : Json δ}
    (h : validateCampaignScope value = .ok scope) :
    value.pyEq scope = true ∧ ∃ dates, campaignScope dates = .ok scope := by
  rw [validateCampaignScope, refuseIf_bind_eq_ok_iff, bind_eq_ok_iff] at h
  obtain ⟨-, items, -, h⟩ := h
  rw [refuseIf_bind_eq_ok_iff, bind_eq_ok_iff] at h
  obtain ⟨-, dates, -, h⟩ := h
  rw [bind_eq_ok_iff] at h
  obtain ⟨expected, hExpected, h⟩ := h
  rw [refuseIf_bind_eq_ok_iff, pure_eq_ok] at h
  obtain ⟨hEq, h⟩ := h
  cases h
  exact ⟨by simpa using hEq, dates, hExpected⟩

/-! ## Campaign state -/

/-- `hard_max_authorized_calls`. -/
def hardMaxAuthorizedCalls : Option Int → Int
  | none => absoluteMaxCampaignCalls
  | some base => min (base + maxRecoveryCalls) absoluteMaxCampaignCalls

/-- The budget conditions of `CampaignLedgerState.__post_init__`. -/
def BudgetState (recordCount : Nat) (baseCalls : Option Int) (authorizedCalls reservedCalls : Int) :
    Prop :=
  match baseCalls with
  | none => recordCount = 0 ∧ authorizedCalls = 0 ∧ reservedCalls = 0
  | some base =>
    (1 ≤ base ∧ base ≤ maxAuthorizedCalls) ∧ 1 ≤ recordCount ∧
      (base ≤ authorizedCalls ∧ authorizedCalls ≤ hardMaxAuthorizedCalls (some base)) ∧
      (0 ≤ reservedCalls ∧ reservedCalls ≤ authorizedCalls)

instance : ∀ recordCount baseCalls authorizedCalls reservedCalls,
    Decidable (BudgetState recordCount baseCalls authorizedCalls reservedCalls)
  | _, none, _, _ => inferInstanceAs (Decidable (_ ∧ _))
  | _, some _, _, _ => inferInstanceAs (Decidable (_ ∧ _))

/-- Cumulative authorization and reservation state for one stable scope. -/
structure CampaignLedgerState (δ : Type) [ContentHash δ] where
  campaignId : δ
  campaignScope : Json δ
  ledgerSha256 : δ
  recordCount : Nat
  globalLedgerSha256 : δ
  globalRecordCount : Nat
  baseCalls : Option Int
  authorizedCalls : Int
  reservedCalls : Int
  failedAfterAdmissionCallIds : List δ
  identity : campaignId = contentId campaignScope
  counted : recordCount ≤ globalRecordCount
  budget : BudgetState recordCount baseCalls authorizedCalls reservedCalls
deriving DecidableEq

namespace CampaignLedgerState

/-- `CampaignLedgerState(...)` with its `__post_init__`; the failed identities are read from
outcome records. -/
def construct (campaignId : δ) (campaignScope : Json δ) (ledgerSha256 : δ) (recordCount : Nat)
    (globalLedgerSha256 : δ) (globalRecordCount : Nat) (baseCalls : Option Int)
    (authorizedCalls reservedCalls : Int) (failed : List (Json δ)) :
    Except Raised (CampaignLedgerState δ) :=
  if hIdentity : campaignId = contentId campaignScope then
    if hCounted : recordCount ≤ globalRecordCount then
      match failed.mapM digest? with
      | some failedAfterAdmissionCallIds =>
        if hBudget : BudgetState recordCount baseCalls authorizedCalls reservedCalls then
          .ok {
            campaignId, campaignScope, ledgerSha256, recordCount, globalLedgerSha256
            globalRecordCount, baseCalls, authorizedCalls, reservedCalls
            failedAfterAdmissionCallIds
            identity := hIdentity, counted := hCounted, budget := hBudget }
        else if baseCalls = none then
          .error (.acquisitionRefused "uninitialized campaign has cumulative activity")
        else .error (.acquisitionRefused "campaign cumulative budget state is invalid")
      | none => .error (.acquisitionRefused "campaign admitted-failure identity is invalid")
    else .error (.acquisitionRefused "acquisition ledger record counts are invalid")
  else .error (.acquisitionRefused "campaign identity does not match its stable scope")

theorem construct_eq_ok {campaignId : δ} {scope : Json δ} {recordCount globalRecordCount : Nat}
    {baseCalls : Option Int} {authorizedCalls reservedCalls : Int} {failed : List (Json δ)}
    {failedIds : List δ} (ledgerSha256 globalLedgerSha256 : δ)
    (hIdentity : campaignId = contentId scope) (hCounted : recordCount ≤ globalRecordCount)
    (hFailed : failed.mapM digest? = some failedIds)
    (hBudget : BudgetState recordCount baseCalls authorizedCalls reservedCalls) :
    construct campaignId scope ledgerSha256 recordCount globalLedgerSha256 globalRecordCount
        baseCalls authorizedCalls reservedCalls failed =
      .ok ⟨campaignId, scope, ledgerSha256, recordCount, globalLedgerSha256, globalRecordCount,
        baseCalls, authorizedCalls, reservedCalls, failedIds, hIdentity, hCounted, hBudget⟩ := by
  rw [construct, dif_pos hIdentity, dif_pos hCounted, hFailed]
  exact dif_pos hBudget

/-- The state of a campaign on an empty ledger, with the dataclass defaults. -/
def initial (scope : Json δ) : Except Raised (CampaignLedgerState δ) :=
  construct (contentId scope) scope (contentId (.arr [])) 0 (contentId (.arr [])) 0 none 0 0 []

variable (state : CampaignLedgerState δ)

def recoveryCallsAuthorized : Int :=
  match state.baseCalls with
  | none => 0
  | some base => state.authorizedCalls - base

def recoveryCallsRemaining : Int := maxRecoveryCalls - state.recoveryCallsAuthorized

def requiredBudgetDelta (requiredCalls : Int) : Except Raised Int :=
  if requiredCalls < 0 then .error (.acquisitionRefused "campaign required calls cannot be negative")
  else .ok (max 0 (state.reservedCalls + requiredCalls - state.authorizedCalls))

def budgetBlocked (requiredCalls : Int) : Except Raised Bool := do
  let delta ← state.requiredBudgetDelta requiredCalls
  match state.baseCalls with
  | none => return decide (requiredCalls > maxAuthorizedCalls)
  | some _ =>
    return decide (delta > state.recoveryCallsRemaining ∨
      state.authorizedCalls + delta > hardMaxAuthorizedCalls state.baseCalls)

end CampaignLedgerState

end StockApi.Acquisition

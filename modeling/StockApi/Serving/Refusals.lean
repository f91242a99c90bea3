import StockApi.Serving.Answers

/-!
# Refusals

Why a configured service does not answer: a gate that names itself, a row from which the baseline cannot be
computed, or a cutoff that no instant has.
-/

namespace StockApi.Serving

open Checked CivilTime Text
open Baselines (Baseline)
open Forecasts (Literal TextRules asciiRules)
open Snapshots (ForecastInputSnapshot ForecastInputSnapshotPayload validateAndResolveSnapshot)

/-! ## Configured services -/

theorem arguments_of_forecastServingPolicy {p : PolicyArguments} {policy : ForecastServingPolicy}
    (h : forecastServingPolicy p = .ok policy) : policy.toPolicyArguments = p := by
  unfold forecastServingPolicy at h
  split at h
  · split at h
    · cases h
      rfl
    · cases h
  · cases h

section Configured

variable {settings : Settings} {service : SnapshotForecastService} {codeVersion : Option String}

/-- What the settings give to every service. -/
structure ConfiguredBy (settings : Settings) (service : SnapshotForecastService) : Prop where
  seasonal : service.policy.seasonalPeriod = settings.forecastSeasonalPeriod
  trusted : service.repositoryTrusted = some service.policy.trustedAvailabilityRuleSetHash
  daily : service.policy.inputTimespan = "day" ∧ service.policy.inputMultiplier = 1
  /-- The hashes of the service for raw closes. -/
  hashes : service.policy.target = "close" →
    settings.forecastResolutionPolicyHash = some service.policy.resolutionPolicyHash ∧
      settings.forecastTrustedAvailabilityRuleSetHash = some service.policy.trustedAvailabilityRuleSetHash

theorem configuredBy_of_build {target seriesBasis : String} {hashes : String × String}
    (h : buildTargetService settings target seriesBasis hashes codeVersion = .ok service)
    (given : target = "close" → settings.forecastResolutionPolicyHash = some hashes.1 ∧
      settings.forecastTrustedAvailabilityRuleSetHash = some hashes.2) : ConfiguredBy settings service := by
  rw [buildTargetService, bind_eq_ok_iff] at h
  obtain ⟨policy, hPolicy, h⟩ := h
  have hArguments := arguments_of_forecastServingPolicy (mapError_eq_ok_iff.mp hPolicy)
  cases h
  constructor <;> rw [hArguments]
  · exact ⟨rfl, rfl⟩
  · exact given

theorem hashes_of_configuredPolicyPair {resolutionHash availabilityHash : Option String} {target : String}
    {hashes : String × String} (h : configuredPolicyPair resolutionHash availabilityHash target = .ok (some hashes)) :
    resolutionHash = some hashes.1 ∧ availabilityHash = some hashes.2 := by
  unfold configuredPolicyPair at h
  split at h
  · cases h
  · rw [refuseIf_bind_eq_ok_iff] at h
    cases h.2
    exact ⟨rfl, rfl⟩
  · cases h

theorem configuredBy_of_childServices {rawHashes adjustedHashes : Option (String × String)}
    {services : List SnapshotForecastService}
    (h : childServices settings rawHashes adjustedHashes codeVersion = .ok services) (member : service ∈ services)
    (given : ∀ hashes ∈ rawHashes, settings.forecastResolutionPolicyHash = some hashes.1 ∧
      settings.forecastTrustedAvailabilityRuleSetHash = some hashes.2) : ConfiguredBy settings service := by
  rw [childServices, bind_eq_ok_iff] at h
  obtain ⟨raw, hRaw, h⟩ := h
  rw [bind_eq_ok_iff] at h
  obtain ⟨adjusted, hAdjusted, h⟩ := h
  cases h
  rcases List.mem_append.mp member with hMem | hMem
  · obtain ⟨hashes, hHashes, hBuild⟩ := exists_left_of_forall₂ (forall₂_of_mapM hRaw) hMem
    exact configuredBy_of_build hBuild fun _ => given hashes (Option.mem_toList.mp hHashes)
  · obtain ⟨hashes, -, hBuild⟩ := exists_left_of_forall₂ (forall₂_of_mapM hAdjusted) hMem
    exact configuredBy_of_build hBuild fun hClose => absurd hClose (by decide)

theorem configuredBy_of_services {rules : TextRules} {revision : Option (Option String)}
    {services : List SnapshotForecastService} (h : buildForecastServices rules settings revision = .ok services)
    (member : service ∈ services) : ConfiguredBy settings service := by
  rw [buildForecastServices, bind_eq_ok_iff] at h
  obtain ⟨rawHashes, hRaw, h⟩ := h
  rw [bind_eq_ok_iff] at h
  obtain ⟨adjustedHashes, -, h⟩ := h
  split at h
  · cases h
    exact absurd member List.not_mem_nil
  · rw [bind_eq_ok_iff] at h
    obtain ⟨codeVersion, -, h⟩ := h
    rw [bind_eq_ok_iff] at h
    obtain ⟨children, hChildren, h⟩ := h
    rw [refuseIf_bind_eq_ok_iff, pure_eq_ok, Except.ok.injEq] at h
    obtain ⟨-, rfl⟩ := h
    refine configuredBy_of_childServices hChildren member fun hashes hSome => ?_
    exact hashes_of_configuredPolicyPair (hSome ▸ mapError_eq_ok_iff.mp hRaw)

end Configured

/-! ## The gates -/

/-- The codes of the gates in front of the baseline, with their statuses. -/
def gateCodes : List (String × Nat) :=
  [("horizon_unit_not_servable", 409), ("target_not_servable", 409), ("not_found", 404),
    ("snapshot_validation_failed", 409), ("snapshot_not_verified", 503), ("not_implemented", 501)]

def AppError.Named (error : AppError) : Prop := (error.code, error.statusCode) ∈ gateCodes

section Gates

variable {runtime : ServingRuntime} {service : SnapshotForecastService} {request : AcceptedRequest runtime.rules}
  {table : List ForecastInputSnapshot} {seriesBasis : String} {e : ServingError}

/-- A cutoff that the driver cannot convert. -/
def Overflows {rules : TextRules} (request : AcceptedRequest rules) : Prop :=
  request.snapshotId = none ∧ ∃ requested ∈ request.asOf, requested.toInstant = none

theorem findRecord_eq_error (h : service.findRecord request seriesBasis table = .error e) :
    e = .unhandled .overflowError ∧ Overflows request := by
  cases hPinned : request.snapshotId with
  | some snapshotId =>
    simp only [SnapshotForecastService.findRecord, hPinned] at h
    cases h
  | none =>
    simp only [SnapshotForecastService.findRecord, hPinned, latest, SnapshotForecastService.selector] at h
    cases hAsOf : request.asOf with
    | none =>
      rw [hAsOf] at h
      cases h
    | some requested =>
      rw [hAsOf] at h
      cases hInstant : requested.toInstant with
      | none =>
        simp only [hInstant] at h
        cases h
        exact ⟨rfl, hPinned, requested, hAsOf, hInstant⟩
      | some cutoff =>
        simp only [hInstant, orRefuse_some, ok_bind] at h
        cases h

theorem loadRecord_eq_error (h : service.loadRecord request seriesBasis table = .error e) :
    (∃ error : AppError, e = .app error ∧ error.Named) ∨ e = .unhandled .overflowError ∧ Overflows request := by
  rw [SnapshotForecastService.loadRecord] at h
  cases hFound : service.findRecord request seriesBasis table with
  | error cause =>
    rw [hFound, error_bind] at h
    cases h
    exact .inr (findRecord_eq_error hFound)
  | ok found =>
    rw [hFound, ok_bind] at h
    cases found with
    | some row => cases h
    | none =>
      cases h
      exact .inl ⟨_, rfl, by simp [AppError.Named, gateCodes]⟩

theorem resolve_eq_error {row : ForecastInputSnapshot}
    (h : service.resolve runtime request seriesBasis row = .error e) :
    ∃ error : AppError, e = .app error ∧ error.Named := by
  rw [SnapshotForecastService.resolve] at h
  cases hResolved : validateAndResolveSnapshot runtime.rules.toNormalForm runtime.floats runtime.sha256
      (row.map Instant.inUtc) (SnapshotForecastService.resolverRequest request) (service.expectation seriesBasis) with
  | error message =>
    rw [hResolved] at h
    cases h
    exact ⟨_, rfl, by simp [AppError.Named, gateCodes]⟩
  | ok resolved =>
    rw [hResolved, mapError_eq_ok_iff.mpr rfl, ok_bind] at h
    by_cases hVerified : resolved.availabilityVerified = false
    · rw [refuseIf_of hVerified, error_bind] at h
      cases h
      exact ⟨_, rfl, by simp [AppError.Named, gateCodes]⟩
    · rw [refuseIf_of_not hVerified, ok_bind] at h
      cases h

theorem forecaster_eq_error {model : Forecasts.ForecastModelSelector} (positive : 0 < service.policy.seasonalPeriod)
    (h : service.forecaster model = .error e) : ∃ error : AppError, e = .app error ∧ error.Named := by
  cases model with
  | auto => cases h
  | baselineNaive => cases h
  | baselineDrift => cases h
  | baselineSeasonalNaive =>
    simp only [SnapshotForecastService.forecaster, dif_pos positive] at h
    cases h
  | arima =>
    cases h
    exact ⟨_, rfl, by simp [AppError.Named, gateCodes]⟩
  | chronos =>
    cases h
    exact ⟨_, rfl, by simp [AppError.Named, gateCodes]⟩

inductive Refusal (runtime : ServingRuntime) (service : SnapshotForecastService)
    (request : AcceptedRequest runtime.rules) (table : List ForecastInputSnapshot) : ServingError → Prop
  | gate {error : AppError} (named : error.Named)
      (closed : ∀ row payload baseline, ¬ Gated runtime service request table row payload baseline) :
      Refusal runtime service request table (.app error)
  /-- A gated row that cannot feed the baseline. -/
  | notComputable {row : ForecastInputSnapshot} {payload : ForecastInputSnapshotPayload Instant} {baseline : Baseline}
      {message : String} (gated : Gated runtime service request table row payload baseline)
      (none : ∀ fitted, ¬ Computes baseline payload request.horizon.toNat fitted) :
      Refusal runtime service request table (.notComputable (.valueError message) row.snapshotId)
  | overflow (overflows : Overflows request) : Refusal runtime service request table (.unhandled .overflowError)

theorem refusal_of_error {readings : SnapshotForecastService.RunReadings}
    (positive : 0 < service.policy.seasonalPeriod)
    (h : service.produce runtime request readings table = .error e) : Refusal runtime service request table e := by
  by_cases hGated : ∃ row payload baseline, Gated runtime service request table row payload baseline
  · obtain ⟨row, payload, baseline, hGated⟩ := hGated
    rcases hGated.produce readings with ⟨fitted, -, hOk⟩ | ⟨hNot, message, hError⟩
    · rw [hOk] at h
      cases h
    · rw [hError] at h
      cases h
      exact .notComputable hGated hNot
  · have hClosed : ∀ row payload baseline, ¬ Gated runtime service request table row payload baseline :=
      fun row payload baseline hOpen => hGated ⟨row, payload, baseline, hOpen⟩
    rw [SnapshotForecastService.produce] at h
    by_cases hUnit : request.horizonUnit ≠ .tradingDay
    · rw [refuseIf_of hUnit, error_bind] at h
      cases h
      exact .gate (by simp [AppError.Named, gateCodes]) hClosed
    rw [refuseIf_of_not hUnit, ok_bind, ForecastServingPolicy.seriesBasisFor] at h
    by_cases hTarget : Literal.text request.target ≠ service.policy.target
    · rw [refuseIf_of hTarget, error_bind, error_bind] at h
      cases h
      exact .gate (by simp [AppError.Named, gateCodes]) hClosed
    rw [refuseIf_of_not hTarget, ok_bind, pure_eq_ok, ok_bind] at h
    cases hRow : service.loadRecord request service.policy.seriesBasis table with
    | error cause =>
      rw [hRow, error_bind] at h
      cases h
      rcases loadRecord_eq_error hRow with ⟨error, rfl, hNamed⟩ | ⟨rfl, hOverflows⟩
      · exact .gate hNamed hClosed
      · exact .overflow hOverflows
    | ok row =>
      rw [hRow, ok_bind] at h
      cases hResolved : service.resolve runtime request service.policy.seriesBasis row with
      | error cause =>
        rw [hResolved, error_bind] at h
        cases h
        obtain ⟨error, rfl, hNamed⟩ := resolve_eq_error hResolved
        exact .gate hNamed hClosed
      | ok resolved =>
        rw [hResolved, ok_bind] at h
        cases hModel : service.forecaster request.model with
        | error cause =>
          rw [hModel, error_bind] at h
          cases h
          obtain ⟨error, rfl, hNamed⟩ := forecaster_eq_error positive hModel
          exact .gate hNamed hClosed
        | ok baseline =>
          obtain ⟨payload, hRecord, hBinds, hProved, -⟩ := resolve_eq_ok_iff.mp hResolved
          exact absurd ⟨not_not.mp hUnit, not_not.mp hTarget, hRow, hRecord, hBinds, hProved, hModel⟩
            (hClosed row payload baseline)

end Gates

/-! ## Routing -/

theorem mem_of_route {services : List SnapshotForecastService} {service : SnapshotForecastService}
    {symbol target : String} (h : route services symbol target = .ok service) : service ∈ services := by
  unfold route at h
  split at h
  · cases h
  · cases h
    exact List.mem_singleton_self _
  · exact List.mem_of_find?_eq_some (orRefuse_eq_ok_iff.mp h)

theorem route_eq_error {services : List SnapshotForecastService} {symbol target : String} {e : ServingError}
    (h : route services symbol target = .error e) : ∃ error : AppError, e = .app error ∧ error.Named := by
  unfold route at h
  split at h
  · cases h
    exact ⟨_, rfl, by simp [AppError.Named, gateCodes]⟩
  · cases h
  · cases hFound : services.find? fun service => service.policy.target = target with
    | none =>
      rw [hFound] at h
      cases h
      exact ⟨_, rfl, by simp [AppError.Named, gateCodes]⟩
    | some service =>
      rw [hFound, orRefuse_some] at h
      cases h

/-- A service of the settings fails for a reason that it names: a closed gate, or a row that passed every gate
and cannot feed the baseline. Only a cutoff without an instant escapes its handlers; nothing that the assembly
checks does. -/
theorem refusals_have_reasons {runtime : ServingRuntime} {settings : Settings} {revision : Option (Option String)}
    {services : List SnapshotForecastService}
    (configured : buildForecastServices runtime.rules settings revision = .ok services)
    (request : AcceptedRequest runtime.rules) (readings : SnapshotForecastService.RunReadings)
    (table : List ForecastInputSnapshot) :
    (∀ e, route services request.symbol (Literal.text request.target) = .error e →
      ∃ error : AppError, e = .app error ∧ error.Named) ∧
    ∀ service, route services request.symbol (Literal.text request.target) = .ok service →
      ∀ e, service.produce runtime request readings table = .error e →
        Refusal runtime service request table e := by
  refine ⟨fun e => route_eq_error, fun service hRoute e hRefused => ?_⟩
  have hConfigured := configuredBy_of_services configured (mem_of_route hRoute)
  have hSeasonal := settings.seasonal
  exact refusal_of_error (by rw [hConfigured.seasonal]; omega) hRefused

def weekSettings : Settings where
  forecastResolutionPolicyHash := some (weekPolicy.resolutionPolicyHash)
  forecastTrustedAvailabilityRuleSetHash := some (weekPolicy.trustedAvailabilityRuleSetHash)
  forecastAdjustedCloseResolutionPolicyHash := none
  forecastAdjustedCloseTrustedAvailabilityRuleSetHash := none
  forecastSeasonalPeriod := 5
  seasonal := by decide

theorem weekService_configured : buildForecastServices asciiRules weekSettings none = .ok [weekService] := by
  have hPair : configuredPolicyPair weekSettings.forecastResolutionPolicyHash
      weekSettings.forecastTrustedAvailabilityRuleSetHash "close" =
        .ok (some (weekPolicy.resolutionPolicyHash, weekPolicy.trustedAvailabilityRuleSetHash)) := by
    rw [weekSettings, configuredPolicyPair, refuseIf_of_not (not_not.mpr ⟨weekPolicy_hash, weekRules_hash⟩)]
    rfl
  have hPolicy : forecastServingPolicy weekPolicy.toPolicyArguments = .ok weekPolicy := by
    rw [forecastServingPolicy, dif_pos weekPolicy.supported, dif_pos ⟨weekPolicy_hash, weekRules_hash⟩]
  have hBuilt : buildTargetService weekSettings "close" "raw"
      (weekPolicy.resolutionPolicyHash, weekPolicy.trustedAvailabilityRuleSetHash) none = .ok weekService := by
    rw [buildTargetService]
    change (forecastServingPolicy weekPolicy.toPolicyArguments).mapError ConfigurationError.valueError >>= _ = _
    rw [hPolicy]
    rfl
  have hChildren : childServices weekSettings
      (some (weekPolicy.resolutionPolicyHash, weekPolicy.trustedAvailabilityRuleSetHash)) none none =
        .ok [weekService] := by
    rw [childServices, Option.toList_some, List.mapM_cons, hBuilt]
    rfl
  have hOne : ¬ (2 ≤ [weekService].length ∧
      ¬ ([weekService].map fun service => service.policy.target).Nodup) := fun h => absurd h.1 (by simp)
  have hNone : configuredPolicyPair weekSettings.forecastAdjustedCloseResolutionPolicyHash
      weekSettings.forecastAdjustedCloseTrustedAvailabilityRuleSetHash "adjusted_close" = .ok none := rfl
  rw [buildForecastServices, hPair, mapError_eq_ok_iff.mpr rfl, ok_bind, hNone, mapError_eq_ok_iff.mpr rfl, ok_bind,
    if_neg (fun h => absurd h.1 (Option.some_ne_none _)), readBuildRevision, mapError_eq_ok_iff.mpr rfl, ok_bind,
    hChildren, ok_bind, refuseIf_of_not hOne]
  rfl

/-- The seasonal model lags five values and the row of the Tuesday holds three. -/
theorem refusals_have_reasons_week : ∃ (row : ForecastInputSnapshot) (message : String),
    weekService.produce weekRuntime (weekAccepted .baselineSeasonalNaive) weekReadings [row] =
        .error (.notComputable (.valueError message) row.snapshotId) ∧
      Refusal weekRuntime weekService (weekAccepted .baselineSeasonalNaive) [row]
        (.notComputable (.valueError message) row.snapshotId) ∧
      Gated weekRuntime weekService (weekAccepted .baselineSeasonalNaive) [row] row
        (Snapshots.Builder.canonicalValues (weekPayload 3 8 9)) (.seasonalNaive 5 (by decide)) := by
  obtain ⟨row, -, hChecked, hFound⟩ := exists_tuesday .baselineSeasonalNaive
  have hGated : Gated weekRuntime weekService (weekAccepted .baselineSeasonalNaive) [row] row _
      (.seasonalNaive 5 (by decide)) := week_gated week_assembled.2.1 hChecked hFound rfl
  have hConfigured : buildForecastServices weekRuntime.rules weekSettings none = .ok [weekService] :=
    weekService_configured
  obtain ⟨-, hReasons⟩ :=
    refusals_have_reasons hConfigured (weekAccepted .baselineSeasonalNaive) weekReadings [row]
  rcases hGated.produce weekReadings with ⟨fitted, hComputes, -⟩ | ⟨-, message, hRefused⟩
  · have hEnough := fitted.enough
    rw [hComputes.baseline, hComputes.history, week_values] at hEnough
    exact absurd hEnough (by decide)
  · exact ⟨row, message, hRefused, hReasons weekService rfl _ hRefused, hGated⟩

end StockApi.Serving

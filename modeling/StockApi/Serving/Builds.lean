import StockApi.Serving.Refusals
import StockApi.Snapshots.Contents

/-!
# From a build to an answer

The builder and the service share their settings and the table. What a build has sealed passes every gate of
the service ever after, so only its baseline can keep a request for it from being answered.
-/

namespace StockApi.Serving

open Checked CivilTime Documents Relation SessionCalendar Text
open Bars (SnapshotBuildSpec SpecArgument)
open Baselines (Baseline)
open Forecasts (Literal asciiRules)
open Snapshots (ForecastInputSnapshot ForecastInputSnapshotPayload IsDigest PointInTimeBar SnapshotStep TableSound
  sampleCalendar sampleClose)
open Snapshots.Builder (BuildRuntime ClockReadings Database FitsPolicy ForecastSnapshotBuildPolicy PolicyValid
  SnapshotBuildResult SnapshotStore Tells Transaction afterMonday argument assembleVerifiedSnapshotPayload
  assembleVerifiedSnapshotPayload_eq_ok_iff availabilityRuleSetHash build build_eq_ok canonicalValues
  checkExistingRecord databaseSound_of_run isDigest_lengthDigits lengthDigits lengthDigits_ne length_sample
  mondayArchive mondayBar mondayClock mondayDatabase_run mondayPayload mondaySpec mondaySpec_valid monday_build
  payloadDigest payloadOfBar resolutionPolicyHash samplePolicy samplePolicy_valid sampleRuntime
  snapshotId_of_checked step_of_assembled validateRecord_of_checked validateSpec)

/-- The service of a process that also builds. -/
def servingOf (runtime : BuildRuntime) : ServingRuntime := ⟨runtime.rules, runtime.floats, runtime.sha256⟩

/-- A service of the settings that the builder was checked against. -/
structure Serves (runtime : BuildRuntime) (policy : ForecastSnapshotBuildPolicy)
    (service : SnapshotForecastService) : Prop where
  policyHash : service.policy.resolutionPolicyHash = resolutionPolicyHash runtime policy
  rulesHash : service.policy.trustedAvailabilityRuleSetHash = availabilityRuleSetHash runtime
  target : service.policy.target = "close"
  daily : service.policy.inputTimespan = policy.inputTimespan ∧ service.policy.inputMultiplier = policy.inputMultiplier
  trusted : service.repositoryTrusted = some service.policy.trustedAvailabilityRuleSetHash

theorem serves_of_configured {runtime : BuildRuntime} {policy : ForecastSnapshotBuildPolicy} {settings : Settings}
    {service : SnapshotForecastService} (configured : ConfiguredBy settings service)
    (close : service.policy.target = "close")
    (checked : Snapshots.Builder.validateConfiguredHashes runtime policy settings.forecastResolutionPolicyHash
      settings.forecastTrustedAvailabilityRuleSetHash = .ok PUnit.unit.{1})
    (daily : policy.inputTimespan = "day" ∧ policy.inputMultiplier = 1) : Serves runtime policy service := by
  rw [Snapshots.Builder.validateConfiguredHashes, refuseIf_bind_eq_ok_iff, refuseIf_eq_ok_iff, not_not,
    not_not] at checked
  obtain ⟨hHash, hRules⟩ := configured.hashes close
  exact {
    policyHash := Option.some.inj (hHash.symm.trans checked.1)
    rulesHash := Option.some.inj (hRules.symm.trans checked.2)
    target := close
    daily := ⟨configured.daily.1.trans daily.1.symm, configured.daily.2.trans daily.2.symm⟩
    trusted := configured.trusted }

/-- A request for what was built: by its identity, or by its cutoff. -/
structure Asks {runtime : BuildRuntime} (request : AcceptedRequest (servingOf runtime).rules)
    (policy : ForecastSnapshotBuildPolicy) (spec : SnapshotBuildSpec) (snapshotId : String) : Prop where
  symbol : request.symbol = spec.symbol
  target : request.target = .close
  horizonUnit : request.horizonUnit = .tradingDay
  horizon : request.horizon.toNat ≤ policy.targetTimeCount
  row : request.snapshotId = some snapshotId ∨
    request.snapshotId = none ∧ ∃ cutoff, request.asOf = some cutoff ∧ cutoff.toInstant = some spec.asOf

section Rows

variable {runtime : BuildRuntime} {policy : ForecastSnapshotBuildPolicy} {spec : SnapshotBuildSpec}
  {service : SnapshotForecastService} {request : AcceptedRequest (servingOf runtime).rules}
  {row : ForecastInputSnapshot} {payload : ForecastInputSnapshotPayload Instant} {table : List ForecastInputSnapshot}

theorem Serves.binds (serves : Serves runtime policy service) (asks : Asks request policy spec row.snapshotId)
    (close : spec.target = "close") (days : spec.horizonUnit = "trading_day") (valid : PolicyValid policy)
    (fits : FitsPolicy runtime spec policy payload) (counted : payload.targetTimes.length = policy.targetTimeCount) :
    Binds service request row payload := by
  obtain ⟨hHash, hSymbol, hTarget, hUnit, hBasis, hTimespan, hMultiplier, hAsOf, -⟩ := fits
  have hRaw : service.policy.seriesBasis = "raw" := by
    have hSupported := service.policy.supported
    rw [serves.target] at hSupported
    exact (Option.some.inj hSupported).symm
  constructor
  · exact hHash.trans serves.policyHash.symm
  · rw [hBasis, valid.basis, hRaw]
  · exact hTimespan.trans serves.daily.1.symm
  · exact hMultiplier.trans serves.daily.2.symm
  · exact hSymbol.trans asks.symbol.symm
  · rw [hTarget, close, asks.target]
    rfl
  · rw [hUnit, days, asks.horizonUnit]
    rfl
  · rintro s hPinned
    rcases asks.row with hRow | ⟨hNone, -⟩
    · rw [hRow] at hPinned
      exact Option.some.inj hPinned
    · rw [hNone] at hPinned
      cases hPinned
  · rintro hUnpinned requested hRequested
    rcases asks.row with hRow | ⟨-, cutoff, hCutoff, hInstant⟩
    · rw [hRow] at hUnpinned
      cases hUnpinned
    · rw [hCutoff] at hRequested
      cases hRequested
      exact ⟨spec.asOf, hInstant, hAsOf.le⟩
  · rw [counted]
    exact asks.horizon

theorem serves_verified (serves : Serves runtime policy service) (fits : FitsPolicy runtime spec policy payload) :
    Snapshots.availabilityVerified payload.availability
      (some service.policy.trustedAvailabilityRuleSetHash) = true := by
  obtain ⟨-, -, -, -, -, -, -, -, -, hStatus, hRules, -⟩ := fits
  rw [Snapshots.availabilityVerified, hStatus, hRules, serves.rulesHash]
  simp

theorem Serves.selects (serves : Serves runtime policy service) (binds : Binds service request row payload)
    (fits : FitsPolicy runtime spec policy payload) (version : payload.schemaVersion = 1)
    (describes : Snapshots.Describes runtime.sha256 payload row) :
    (service.selector request service.policy.seriesBasis).Selects (some spec.asOf) service.repositoryTrusted row := by
  obtain ⟨-, -, -, -, -, -, -, hAsOf, -, hStatus, hRules, -⟩ := fits
  have hAvailability := describes.availability
  rw [hAvailability] at hStatus hRules
  refine ⟨?_, ?_, ?_⟩
  · rw [ForecastInputSnapshotSelector.InSeries, describes.terms]
    exact ⟨version, binds.policyHash, binds.symbol, binds.target, binds.horizonUnit, binds.basis, binds.timespan,
      binds.multiplier⟩
  · rintro t hSame
    cases hSame
    exact (describes.asOf.trans hAsOf).le
  · rintro rules hTrusted
    rw [serves.trusted, serves.rulesHash] at hTrusted
    cases hTrusted
    exact ⟨hStatus, hRules⟩

theorem Asks.found (asks : Asks request policy spec row.snapshotId)
    (sound : TableSound runtime.sha256 table) (member : row ∈ table)
    (selects : (service.selector request service.policy.seriesBasis).Selects (some spec.asOf)
      service.repositoryTrusted row) (cutoff : row.asOf = spec.asOf) :
    service.loadRecord request service.policy.seriesBasis table = .ok row := by
  rw [loadRecord_eq_ok_iff]
  rcases asks.row with hPinned | ⟨hUnpinned, requested, hRequested, hInstant⟩
  · have hRow := (getSnapshot_eq_some_iff sound).mpr ⟨member, rfl⟩
    simp only [SnapshotForecastService.findRecord, hPinned, hRow]
  · have hLatest : latestSnapshot (service.selector request service.policy.seriesBasis) (some spec.asOf)
        service.repositoryTrusted table = some row := by
      refine (latestSnapshot_eq_some_iff sound).mpr ⟨⟨member, selects⟩, fun other _ hOther => ?_⟩
      rw [cutoff]
      exact hOther.2.1 spec.asOf rfl
    have hSelector : (service.selector request service.policy.seriesBasis).cutoff = some requested := hRequested
    simp only [SnapshotForecastService.findRecord, hUnpinned, latest, hSelector, hInstant, orRefuse_some, ok_bind,
      hLatest, pure_eq_ok]

end Rows

/-- What a build has sealed is served ever after: whatever the table takes later, a request for the snapshot
passes every gate with the row of the build, whose payload tells the history of its symbol; so it is answered
from that row, unless the baseline cannot be computed from it. -/
theorem built_snapshots_are_served {runtime : BuildRuntime} {policy : ForecastSnapshotBuildPolicy}
    {settings : Settings} {revision : Option (Option String)} {services : List SnapshotForecastService}
    {service : SnapshotForecastService} {start : Int} {d : Database} {arg : SpecArgument} {spec : SnapshotBuildSpec}
    {clock : ClockReadings} {result : SnapshotBuildResult} {store : SnapshotStore} {table : List ForecastInputSnapshot}
    {request : AcceptedRequest (servingOf runtime).rules} {baseline : Baseline}
    (valid : PolicyValid policy) (daily : policy.inputTimespan = "day" ∧ policy.inputMultiplier = 1)
    (digest : IsDigest runtime.sha256)
    (checked : Snapshots.Builder.validateConfiguredHashes runtime policy settings.forecastResolutionPolicyHash
      settings.forecastTrustedAvailabilityRuleSetHash = .ok PUnit.unit.{1})
    (configured : buildForecastServices runtime.rules settings revision = .ok services)
    (member : service ∈ services) (close : service.policy.target = "close")
    (run : ReflTransGen (Transaction runtime) (Database.empty start) d)
    (specified : validateSpec runtime policy arg = .ok spec)
    (built : build runtime policy arg clock d.toSnapshotStore = .ok (result, store))
    (later : ReflTransGen (SnapshotStep runtime.sha256) store.snapshots table)
    (asks : Asks request policy spec result.snapshotId)
    (model : service.forecaster request.model = .ok baseline) :
    ∃ row payload calendar last, row.snapshotId = result.snapshotId ∧
      Tells calendar store.archive policy spec payload last ∧
      Gated (servingOf runtime) service request table row payload baseline ∧
      ∀ readings,
        (∃ fitted, Computes baseline payload request.horizon.toNat fitted ∧
          service.produce (servingOf runtime) request readings table =
            .ok (answerOf service request readings row payload fitted)) ∨
        (∀ fitted, ¬ Computes baseline payload request.horizon.toNat fitted) ∧
          ∃ message, service.produce (servingOf runtime) request readings table =
            .error (.notComputable (.valueError message) row.snapshotId) := by
  have hServes := serves_of_configured (configuredBy_of_services configured member) close checked daily
  have sound := databaseSound_of_run run
  obtain ⟨spec', row, checkedAt, hSpec, -, hMem, hSealed, hResult, hArchive, hStore⟩ := build_eq_ok built
  obtain rfl : spec' = spec := Except.ok.inj (hSpec.symm.trans specified)
  have hId : row.snapshotId = result.snapshotId := by
    rw [hResult]
    rfl
  rw [← hId] at asks
  have hStored : TableSound runtime.sha256 store.snapshots := by
    rcases hStore with rfl | hStep
    · exact sound.table
    · exact (Snapshots.snapshotStep_sound sound.table hStep).1
  obtain ⟨hTable, hKept⟩ := tableSound_of_run later hStored
  -- the payload of the row is the normal form of verified rows
  obtain ⟨_, hRecord, hFits, -⟩ := Snapshots.Builder.validateExistingRecord_eq_ok_iff.mp hSealed.valid
  obtain ⟨rows, payload, hRows, hPayload, hRead⟩ := Snapshots.Builder.payload_of_sealed valid digest hSealed
  obtain rfl := Except.ok.inj (hRead.symm.trans hRecord)
  obtain ⟨calendar, last, -, hTells⟩ := Snapshots.Builder.tells_of_assembled sound.archived valid
    (Snapshots.Builder.validateSpec_argument hSpec) hRows hPayload
  obtain ⟨hNormal, -⟩ := Snapshots.Builder.assembled_normalizes valid digest
    (Snapshots.Builder.length_pointInTimeRows hRows) hPayload
  obtain ⟨hValidated, -, hDescribes⟩ := validateRecord_of_checked digest hRecord
  -- the gates
  obtain ⟨-, -, ⟨-, hClose⟩, ⟨-, hDays⟩, -⟩ := Snapshots.Builder.validateSpec_eq_ok_iff.mp hSpec
  have hBinds := hServes.binds asks hClose hDays valid hFits hTells.counted
  have hSelects := hServes.selects hBinds hFits hNormal.termsValid.version hDescribes
  have hFound := asks.found hTable (hKept hMem) hSelects (hDescribes.asOf.trans hFits.2.2.2.2.2.2.2.1)
  have hTarget : Literal.text request.target = service.policy.target := by
    rw [asks.target, close]
    rfl
  have hGated : Gated (servingOf runtime) service request table row (canonicalValues payload) baseline :=
    ⟨asks.horizonUnit, hTarget, hFound, hValidated, hBinds,
      Snapshots.availabilityProved_of_verified hNormal (serves_verified hServes hFits), model⟩
  exact ⟨row, _, calendar, last, hId, hArchive ▸ hTells, hGated, fun readings => hGated.produce readings⟩

def mondayRequest : Forecasts.ForecastRequest where
  symbol := "SPY"
  horizon := 1
  horizonUnit := .tradingDay
  target := .close
  asOf := some mondaySpec.asOf.inUtc
  snapshotId := none
  model := .baselineNaive
  intervalCoverages := (weekRequest .baselineNaive).intervalCoverages

theorem mondayRequest_sound : Forecasts.SoundRequest asciiRules mondayRequest := by
  have hSound := weekRequest_sound .baselineNaive
  constructor
  · exact hSound.symbol
  · exact hSound.symbolUpper
  · exact hSound.pattern
  · exact hSound.horizon
  · rintro t hSame
    cases hSame
    exact Option.some_ne_none _
  · rintro s hNone
    cases hNone
  · exact hSound.count
  · exact hSound.coverages
  · exact hSound.ascending

theorem mondayRequest_asks (snapshotId : String) :
    @Asks sampleRuntime ⟨mondayRequest, mondayRequest_sound⟩ samplePolicy mondaySpec snapshotId where
  symbol := rfl
  target := rfl
  horizonUnit := rfl
  horizon := le_rfl
  row := .inr ⟨rfl, _, rfl, Instant.toInstant_inUtc _⟩

/-- The hashes of a builder do not depend on its calendars. -/
theorem hashes_of_calendars (runtime : BuildRuntime) (calendars : String → Option Calendar)
    (policy : ForecastSnapshotBuildPolicy) :
    resolutionPolicyHash { runtime with calendars := calendars } policy = resolutionPolicyHash runtime policy ∧
      availabilityRuleSetHash { runtime with calendars := calendars } = availabilityRuleSetHash runtime :=
  ⟨rfl, rfl⟩

theorem weekSettings_checked : Snapshots.Builder.validateConfiguredHashes sampleRuntime samplePolicy
    weekSettings.forecastResolutionPolicyHash weekSettings.forecastTrustedAvailabilityRuleSetHash =
      .ok PUnit.unit.{1} := by
  obtain ⟨hHash, hRules⟩ := hashes_of_calendars sampleRuntime (fun _ => some weekCalendar) samplePolicy
  rw [Snapshots.Builder.validateConfiguredHashes, refuseIf_bind_eq_ok_iff, refuseIf_eq_ok_iff, not_not, not_not]
  exact ⟨congrArg some hHash, congrArg some hRules⟩

/-- Another symbol at the same cutoff. -/
def appleSpec : SnapshotBuildSpec := { mondaySpec with symbol := "AAPL" }

def appleBar : PointInTimeBar := { mondayBar with symbol := "AAPL" }

def applePayload : ForecastInputSnapshotPayload Instant := payloadOfBar appleSpec appleBar

theorem applePayload_assembled : assembleVerifiedSnapshotPayload sampleRuntime [appleBar] (argument appleSpec)
    mondayClock.checkedAt samplePolicy = .ok applePayload := by
  refine assembleVerifiedSnapshotPayload_eq_ok_iff.mpr ⟨appleSpec, by decide +kernel, ?_, sampleCalendar, rfl,
    [appleBar], by decide +kernel, [sampleClose 8], by decide +kernel, afterMonday 1, rfl, rfl⟩
  exact Instant.le_iff.mpr (Nat.le_succ _)

theorem monday_digest_ne : payloadDigest sampleRuntime mondayPayload ≠ payloadDigest sampleRuntime applePayload := by
  have hMonday : (dumps sampleRuntime.floats (Snapshots.payloadDocument (canonicalValues mondayPayload))).length =
      895 := @length_sample sampleRuntime mondaySpec _ _ _ [mondayBar] isDigest_lengthDigits (by decide)
        rfl rfl Nat.one_pos
  have hApple : (dumps sampleRuntime.floats (Snapshots.payloadDocument (canonicalValues applePayload))).length =
      896 := @length_sample sampleRuntime appleSpec _ _ _ [appleBar] isDigest_lengthDigits (by decide)
        rfl rfl Nat.one_pos
  intro hSame
  rw [payloadDigest, payloadDigest, String.append_right_inj] at hSame
  refine lengthDigits_ne ?_ ?_ ?_ hSame
  · rw [hMonday]
    decide
  · rw [hApple]
    decide
  · rw [hMonday, hApple]
    decide

/-- A snapshot of another symbol is inserted between the build and the request. -/
theorem built_snapshots_are_served_monday : ∃ (sealed other row : ForecastInputSnapshot)
    (payload : ForecastInputSnapshotPayload Instant) (calendar : Calendar) (last : Nat),
    SnapshotStep lengthDigits [sealed] [sealed, other] ∧
      Tells calendar mondayArchive samplePolicy mondaySpec payload last ∧
      Gated (servingOf sampleRuntime) weekService ⟨mondayRequest, mondayRequest_sound⟩ [sealed, other] row payload
        .naive := by
  obtain ⟨sealed, hRecord, hBuild⟩ := monday_build
  have hFree : ∀ row ∈ [sealed], row.snapshotId ≠ payloadDigest sampleRuntime applePayload ∧
      row.semanticKey ≠ applePayload.toSnapshotTerms.semanticKey applePayload.asOf := by
    intro row hRow
    obtain rfl := List.mem_singleton.mp hRow
    constructor
    · rw [snapshotId_of_checked hRecord]
      exact monday_digest_ne
    · intro hSame
      have hTerms := (@validateRecord_of_checked sampleRuntime _ _ isDigest_lengthDigits hRecord).2.2.terms
      have hSymbol : row.symbol = "AAPL" := congrArg Snapshots.SemanticKey.symbol hSame
      have hKept : row.symbol = "SPY" := congrArg Snapshots.SnapshotTerms.symbol hTerms
      exact absurd (hKept.symm.trans hSymbol) (by decide)
  obtain ⟨other, hInserted, -⟩ := @step_of_assembled sampleRuntime samplePolicy [sealed] [appleBar]
    (argument appleSpec) mondayClock.checkedAt mondayClock.checkedAt applePayload samplePolicy_valid
    isDigest_lengthDigits (by decide) le_rfl applePayload_assembled hFree
  have hServices : buildForecastServices sampleRuntime.rules weekSettings none = .ok [weekService] :=
    weekService_configured
  obtain ⟨row, payload, calendar, last, -, hTells, hGated, -⟩ :=
    @built_snapshots_are_served sampleRuntime samplePolicy weekSettings none [weekService] weekService 0 _
      (argument mondaySpec) mondaySpec mondayClock _ _ [sealed, other] ⟨mondayRequest, mondayRequest_sound⟩ .naive
      samplePolicy_valid ⟨rfl, rfl⟩ isDigest_lengthDigits weekSettings_checked hServices (List.mem_singleton_self _) rfl
      mondayDatabase_run mondaySpec_valid hBuild (.single hInserted) (mondayRequest_asks _) rfl
  exact ⟨sealed, other, row, payload, calendar, last, hInserted, hTells, hGated⟩

end StockApi.Serving

import StockApi.Serving.Contract
import StockApi.Serving.Selection
import StockApi.Snapshots.Assembled

/-!
# Answers and refusals

`_produce` as a whole: when it answers, what the answer holds, and why it refuses.
-/

namespace StockApi.Serving

open Checked CivilTime Documents Relation Text
open Bars (SnapshotBuildSpec)
open Baselines (AssembledResponse AssemblyError Baseline Fitted assembleBaselineForecastResponse forecastSteps_eq
  requestedCoverages requestedQuantileLevels responseValue stepOf)
open Forecasts (Literal SoundRequest TextRules asciiRules)
open Snapshots (AvailabilityProved ForecastInputSnapshot ForecastInputSnapshotPayload Normalizes PointInTimeBar
  IsDigest isHash_digest plainFloats sampleClose sampleSession SnapshotStep TableSound validateRecord)
open Snapshots.Builder (BuildRuntime argument assembleVerifiedSnapshotPayload assembleVerifiedSnapshotPayload_eq_ok_iff
  assembled_normalizes availabilityRuleSetHash canonicalValues checkExistingRecord isDigest_lengthDigits lengthDigits
  lengthDigits_ne length_sample payloadDigest payloadOf resolutionPolicyHash samplePolicy samplePolicy_valid
  snapshotId_of_checked step_of_assembled validateRecord_of_checked)

section Assemble

variable {rules : TextRules} {p : ForecastInputSnapshotPayload ParsedDateTime}
  {payload : ForecastInputSnapshotPayload Instant} {service : SnapshotForecastService}
  {request : AcceptedRequest rules} {row : ForecastInputSnapshot} {baseline : Baseline}

theorem Computes.unique {horizon : Nat} {fitted other : Fitted ℚ} (h : Computes baseline payload horizon fitted)
    (same : Computes baseline payload horizon other) : fitted = other := by
  have hFitted := fit_eq_ok_iff.mpr ⟨h.baseline, h.history⟩
  have hOther := fit_eq_ok_iff.mpr ⟨same.baseline, same.history⟩
  exact Except.ok.inj (hFitted.symm.trans hOther)

/-- The assembly answers when the baseline can be computed, and refuses with a `ValueError` when not. -/
theorem Binds.assemble (binds : Binds service request row payload) (normal : Normalizes rules.toNormalForm p payload)
    (isHash : IsHash row.snapshotId) (selected : service.forecaster request.model = .ok baseline)
    (readings : SnapshotForecastService.RunReadings) :
    (∃ fitted, Computes baseline payload request.horizon.toNat fitted ∧
        assembleBaselineForecastResponse rules baseline request.toForecastRequest (inputOf request row payload)
          (identityOf service readings row payload.asOf baseline) =
            .ok (answerOf service request readings row payload fitted)) ∨
      (∀ fitted, ¬ Computes baseline payload request.horizon.toNat fitted) ∧
        ∃ message, assembleBaselineForecastResponse rules baseline request.toForecastRequest
          (inputOf request row payload) (identityOf service readings row payload.asOf baseline) =
            .error (.valueError message) := by
  have hInputs : Baselines.validatedInputs rules request.toForecastRequest (inputOf request row payload)
      (identityOf service readings row payload.asOf baseline) =
        .ok (inputsOf payload request.horizon.toNat (max readings.now payload.asOf)) :=
    binds.validatedInputs normal isHash rfl (le_max_right _ _)
  have hValues : (inputsOf payload request.horizon.toNat (max readings.now payload.asOf)).observations.map
      Baselines.ForecastObservation.value = values payload := by
    rw [inputsOf, values, List.map_map]
    rfl
  have hPos : 1 ≤ request.horizon.toNat := by
    have := request.sound.horizon
    omega
  have hVersion : ¬ baseline.modelVersion ≠ (identityOf service readings row payload.asOf baseline).modelVersion :=
    not_not.mpr rfl
  have hSelection : Baselines.validateModelSelection request.toForecastRequest
      (identityOf service readings row payload.asOf baseline).modelVersion = .ok PUnit.unit :=
    validateModelSelection_of_forecaster selected
  rw [assembleBaselineForecastResponse, hInputs, ok_bind, hValues]
  cases hFit : baseline.fit (values payload) with
  | error message =>
    right
    refine ⟨fun fitted h => ?_, message, rfl⟩
    rw [fit_eq_ok_iff.mpr ⟨h.baseline, h.history⟩] at hFit
    cases hFit
  | ok fitted =>
    obtain ⟨hBaseline, hHistory⟩ := fit_eq_ok_iff.mp hFit
    have hPoints : fitted.predict request.horizon.toNat =
        .ok ((List.range' 1 request.horizon.toNat).map (fitted.baseline.forecastAt fitted.history)) :=
      Fitted.predict_eq_ok.mpr ⟨hPos, rfl⟩
    rw [mapError_eq_ok_iff.mpr rfl, ok_bind, refuseIf_of_not hVersion, ok_bind, hSelection, ok_bind,
      mapError_eq_ok_iff.mpr hPoints, ok_bind]
    cases hQuantiles : fitted.predictQuantiles request.horizon.toNat
        (requestedQuantileLevels (requestedCoverages request.toForecastRequest)) with
    | error message =>
      right
      refine ⟨fun other h => ?_, message, rfl⟩
      have hSame : other = fitted := by
        have hOther := fit_eq_ok_iff.mpr ⟨h.baseline, h.history⟩
        rw [hFit] at hOther
        exact (Except.ok.inj hOther).symm
      have hReturned := Fitted.predictQuantiles_eq_ok.mpr
        ⟨hPos, Baselines.validLevels_requested request.sound, hSame ▸ h.dispersed, rfl⟩
      rw [hReturned] at hQuantiles
      cases hQuantiles
    | ok rawQuantiles =>
      left
      refine ⟨fitted, ⟨hBaseline, hHistory, (Fitted.predictQuantiles_eq_ok.mp hQuantiles).2.2.1⟩, ?_⟩
      have hTimes : (inputsOf payload request.horizon.toNat (max readings.now payload.asOf)).targetTimes.length =
          request.horizon.toNat := by
        rw [inputsOf, List.length_take]
        exact min_eq_left binds.horizon
      have hSources : (inputsOf payload request.horizon.toNat (max readings.now payload.asOf)).dataSources.map
          Prod.snd = payload.dataSources.map lineage := by
        rw [inputsOf, List.map_map]
        rfl
      rw [mapError_eq_ok_iff.mpr rfl, ok_bind, forecastSteps_eq request.sound hTimes hPoints hQuantiles, ok_bind,
        hSources, answerOf, hBaseline]
      rfl

end Assemble

section Produce

variable {runtime : ServingRuntime} {service : SnapshotForecastService} {request : AcceptedRequest runtime.rules}
  {readings : SnapshotForecastService.RunReadings} {table : List ForecastInputSnapshot}

/-- A request that passed every gate in front of the baseline. -/
structure Gated (runtime : ServingRuntime) (service : SnapshotForecastService)
    (request : AcceptedRequest runtime.rules) (table : List ForecastInputSnapshot) (row : ForecastInputSnapshot)
    (payload : ForecastInputSnapshotPayload Instant) (baseline : Baseline) : Prop where
  horizonUnit : request.horizonUnit = .tradingDay
  target : Literal.text request.target = service.policy.target
  found : service.loadRecord request service.policy.seriesBasis table = .ok row
  validated : validateRecord runtime.rules.toNormalForm runtime.floats runtime.sha256 (row.map Instant.inUtc) =
    .ok payload
  binds : Binds service request row payload
  proved : AvailabilityProved payload (some service.policy.trustedAvailabilityRuleSetHash)
  model : service.forecaster request.model = .ok baseline

/-- A gated request is answered or, where the baseline cannot be computed, refused for that. -/
theorem Gated.produce {row : ForecastInputSnapshot} {payload : ForecastInputSnapshotPayload Instant}
    {baseline : Baseline} (gated : Gated runtime service request table row payload baseline)
    (readings : SnapshotForecastService.RunReadings) :
    (∃ fitted, Computes baseline payload request.horizon.toNat fitted ∧
        service.produce runtime request readings table = .ok (answerOf service request readings row payload fitted)) ∨
      (∀ fitted, ¬ Computes baseline payload request.horizon.toNat fitted) ∧
        ∃ message, service.produce runtime request readings table =
          .error (.notComputable (.valueError message) row.snapshotId) := by
  obtain ⟨-, p, hNormal⟩ := Snapshots.validateRecord_eq_ok gated.validated
  have hHash : IsHash row.snapshotId := isHash_of_validateRecord gated.validated
  have hResolved := resolve_eq_ok_iff.mpr ⟨payload, gated.validated, gated.binds, gated.proved, rfl⟩
  have hProduce : service.produce runtime request readings table =
      (assembleBaselineForecastResponse runtime.rules baseline request.toForecastRequest
        (inputOf request row payload) (identityOf service readings row payload.asOf baseline)).mapError
          (translate row.snapshotId) := by
    rw [SnapshotForecastService.produce, refuseIf_of_not (not_not.mpr gated.horizonUnit), ok_bind,
      ForecastServingPolicy.seriesBasisFor, refuseIf_of_not (not_not.mpr gated.target), ok_bind, pure_eq_ok, ok_bind,
      gated.found, ok_bind, hResolved, ok_bind, gated.model, ok_bind]
    dsimp only
    rw [gated.binds.assemblyInput, ok_bind]
    rfl
  rcases gated.binds.assemble hNormal hHash gated.model readings with ⟨fitted, hComputes, hOk⟩ | ⟨hNot, message, hError⟩
  · left
    refine ⟨fitted, hComputes, ?_⟩
    rw [hProduce, hOk]
    rfl
  · right
    refine ⟨hNot, message, ?_⟩
    rw [hProduce, hError]
    rfl

theorem exists_gated {response : AssembledResponse}
    (h : service.produce runtime request readings table = .ok response) :
    ∃ row payload baseline, Gated runtime service request table row payload baseline := by
  rw [SnapshotForecastService.produce, refuseIf_bind_eq_ok_iff, not_not, ForecastServingPolicy.seriesBasisFor,
    bind_eq_ok_iff] at h
  obtain ⟨hUnit, seriesBasis, hBasis, h⟩ := h
  rw [refuseIf_bind_eq_ok_iff, not_not, pure_eq_ok, Except.ok.injEq] at hBasis
  obtain ⟨hTarget, rfl⟩ := hBasis
  rw [bind_eq_ok_iff] at h
  obtain ⟨row, hRow, h⟩ := h
  rw [bind_eq_ok_iff] at h
  obtain ⟨resolved, hResolved, h⟩ := h
  rw [bind_eq_ok_iff] at h
  obtain ⟨baseline, hBaseline, -⟩ := h
  obtain ⟨payload, hRecord, hBinds, hProved, -⟩ := resolve_eq_ok_iff.mp hResolved
  exact ⟨row, payload, baseline, hUnit, hTarget, hRow, hRecord, hBinds, hProved, hBaseline⟩

theorem produce_eq_ok_iff {response : AssembledResponse} :
    service.produce runtime request readings table = .ok response ↔
      ∃ row payload baseline fitted, Gated runtime service request table row payload baseline ∧
        Computes baseline payload request.horizon.toNat fitted ∧
        response = answerOf service request readings row payload fitted := by
  constructor
  · intro h
    obtain ⟨row, payload, baseline, hGated⟩ := exists_gated h
    rcases hGated.produce readings with ⟨fitted, hComputes, hOk⟩ | ⟨-, message, hError⟩
    · rw [hOk] at h
      exact ⟨row, payload, baseline, fitted, hGated, hComputes, (Except.ok.inj h).symm⟩
    · rw [hError] at h
      cases h
  · rintro ⟨row, payload, baseline, fitted, hGated, hComputes, rfl⟩
    rcases hGated.produce readings with ⟨other, hOther, hOk⟩ | ⟨hNot, -⟩
    · rw [hOk, hComputes.unique hOther]
    · exact absurd hComputes (hNot fitted)

end Produce

/-! ## What an answer holds -/

/-- An answer is made from what was available by its cutoff, says so, and meets the contract of its steps. -/
structure Honest (request : Forecasts.ForecastRequest) (payload : ForecastInputSnapshotPayload Instant)
    (response : AssembledResponse) : Prop where
  observations : ∀ o ∈ payload.observations, o.observedAt ≤ o.availableAt ∧ o.availableAt ≤ response.maxAvailableAt
  sources : ∀ s ∈ payload.dataSources, s.maxAvailableAt ≤ response.maxAvailableAt
  cutoff : response.maxAvailableAt ≤ response.asOf
  generated : response.asOf ≤ response.generatedAt
  passed : response.lookaheadCheck.status = .passed ∧ response.lookaheadCheck.violations = []
  targets : response.forecasts.map (·.targetTime) =
    (payload.targetTimes.take request.horizon.toNat).map Instant.inUtc
  count : response.forecasts.length = request.horizon.toNat
  later : ∀ t ∈ payload.targetTimes, response.asOf < t
  fits : ∀ s ∈ response.forecasts, s.Fits request.target

theorem foldl_max_bounds (times : List Instant) (first : Instant) :
    (∀ t ∈ first :: times, t ≤ times.foldl max first) ∧
      ∀ bound, (∀ t ∈ first :: times, t ≤ bound) → times.foldl max first ≤ bound := by
  induction times generalizing first with
  | nil => simp
  | cons second rest ih =>
    obtain ⟨hAbove, hBelow⟩ := ih (max first second)
    have hMax : max first second ≤ rest.foldl max (max first second) := hAbove _ List.mem_cons_self
    constructor
    · intro t hMem
      rw [List.foldl_cons]
      rcases List.mem_cons.mp hMem with rfl | hMem
      · exact (le_max_left _ _).trans hMax
      · rcases List.mem_cons.mp hMem with rfl | hRest
        · exact (le_max_right _ _).trans hMax
        · exact hAbove t (List.mem_cons_of_mem _ hRest)
    · intro bound hBound
      rw [List.foldl_cons]
      apply hBelow
      intro t hMem
      rcases List.mem_cons.mp hMem with rfl | hRest
      · exact max_le (hBound _ List.mem_cons_self) (hBound _ (List.mem_cons_of_mem _ List.mem_cons_self))
      · exact hBound t (List.mem_cons_of_mem _ (List.mem_cons_of_mem _ hRest))

theorem maxAvailableAt_bounds {inputs : Baselines.ValidatedInputs}
    (available : ∀ t ∈ inputs.observations.map Baselines.ForecastObservation.availableAt ++
      inputs.dataSources.map Prod.fst, t ≤ inputs.asOf) :
    (∀ t ∈ inputs.observations.map Baselines.ForecastObservation.availableAt ++ inputs.dataSources.map Prod.fst,
      t ≤ Baselines.maxAvailableAt inputs) ∧ Baselines.maxAvailableAt inputs ≤ inputs.asOf := by
  rw [Baselines.maxAvailableAt]
  generalize inputs.observations.map Baselines.ForecastObservation.availableAt ++ inputs.dataSources.map Prod.fst =
    times at available ⊢
  cases times with
  | nil => exact ⟨fun t hMem => absurd hMem List.not_mem_nil, le_rfl⟩
  | cons first rest =>
    obtain ⟨hAbove, hBelow⟩ := foldl_max_bounds rest first
    exact ⟨hAbove, hBelow inputs.asOf available⟩

section Honest

variable {runtime : ServingRuntime} {service : SnapshotForecastService} {request : AcceptedRequest runtime.rules}
  {table : List ForecastInputSnapshot} {row : ForecastInputSnapshot}
  {payload : ForecastInputSnapshotPayload Instant} {baseline : Baseline} {fitted : Fitted ℚ}

theorem honest_answerOf (gated : Gated runtime service request table row payload baseline)
    (computes : Computes baseline payload request.horizon.toNat fitted)
    (readings : SnapshotForecastService.RunReadings) :
    Honest request.toForecastRequest payload (answerOf service request readings row payload fitted) := by
  obtain ⟨-, p, hNormal⟩ := Snapshots.validateRecord_eq_ok gated.validated
  have hObservation : ∀ o ∈ payload.observations, o.availableAt ≤ payload.asOf := fun o hMem =>
    (hNormal.observedValid.admissible o hMem).cutoff
  have hAvailable : ∀ t ∈ (inputsOf payload request.horizon.toNat
      (max readings.now payload.asOf)).observations.map Baselines.ForecastObservation.availableAt ++
        (inputsOf payload request.horizon.toNat (max readings.now payload.asOf)).dataSources.map Prod.fst,
      t ≤ payload.asOf := by
    intro t hMem
    rw [inputsOf, List.mem_append, List.map_map, List.map_map, List.mem_map, List.mem_map] at hMem
    rcases hMem with ⟨o, hMem, rfl⟩ | ⟨s, hMem, rfl⟩
    · exact hObservation o hMem
    · exact hNormal.source_cutoff s hMem
  obtain ⟨hAbove, hBelow⟩ := maxAvailableAt_bounds hAvailable
  have hLength : (payload.targetTimes.take request.horizon.toNat).length = request.horizon.toNat := by
    rw [List.length_take]
    exact min_eq_left gated.binds.horizon
  constructor
  · intro o hMem
    refine ⟨(hNormal.observedValid.admissible o hMem).available, hAbove _ (List.mem_append_left _ ?_)⟩
    rw [inputsOf, List.map_map]
    exact List.mem_map_of_mem hMem
  · intro s hMem
    refine hAbove _ (List.mem_append_right _ ?_)
    rw [inputsOf, List.map_map]
    exact List.mem_map_of_mem hMem
  · exact hBelow
  · exact le_max_right _ _
  · exact ⟨rfl, rfl⟩
  · rw [answerOf, List.map_map]
    calc (payload.targetTimes.take request.horizon.toNat).zipIdx.map (Instant.inUtc ∘ Prod.fst)
        = ((payload.targetTimes.take request.horizon.toNat).zipIdx.map Prod.fst).map Instant.inUtc := by
          rw [List.map_map]
      _ = (payload.targetTimes.take request.horizon.toNat).map Instant.inUtc := by rw [List.zipIdx_map_fst]
  · rw [answerOf, List.length_map, List.length_zipIdx]
    exact hLength
  · exact hNormal.targetedValid.later
  · intro s hMem
    obtain ⟨position, hPosition, rfl⟩ := List.mem_map.mp hMem
    have hIndex : position.2 < (payload.targetTimes.take request.horizon.toNat).length + 0 :=
      List.snd_lt_of_mem_zipIdx hPosition
    rw [hLength] at hIndex
    exact Baselines.fits_stepOf request.sound (computes.dispersed _ (by rw [List.mem_range'_1]; omega)) position

end Honest

/-- In exact arithmetic a request is answered exactly when its row passes the gates and the baseline of its model
can be computed from that row alone; the answer is then determined by the row and the readings of the run, and holds
nothing from after its cutoff. -/
theorem served_forecasts_are_honest (runtime : ServingRuntime) (service : SnapshotForecastService)
    (request : AcceptedRequest runtime.rules) (readings : SnapshotForecastService.RunReadings)
    (table : List ForecastInputSnapshot) :
    (∀ response, service.produce runtime request readings table = .ok response ↔
      ∃ row payload baseline fitted, Gated runtime service request table row payload baseline ∧
        Computes baseline payload request.horizon.toNat fitted ∧
        response = answerOf service request readings row payload fitted) ∧
    ∀ row payload baseline fitted, Gated runtime service request table row payload baseline →
      Computes baseline payload request.horizon.toNat fitted →
        Honest request.toForecastRequest payload (answerOf service request readings row payload fitted) :=
  ⟨fun _ => produce_eq_ok_iff, fun _ _ _ _ gated computes => honest_answerOf gated computes readings⟩

/-! ### A week -/

def weekSessions : List (Fin 20) := [3, 4, 7, 8, 9, 10]

theorem weekSessions_ascending :
    (weekSessions.map sampleSession).Pairwise fun a b => a.label < b.label := by
  rw [List.pairwise_map]
  exact List.Pairwise.imp Snapshots.sampleClose_date_lt (by decide)

theorem weekSessions_closes : ∀ s ∈ weekSessions.map sampleSession, s.close.date = s.label := by
  intro s hs
  obtain ⟨day, -, rfl⟩ := List.mem_map.mp hs
  rfl

def weekCalendar : SessionCalendar.Calendar :=
  ⟨weekSessions.map sampleSession, weekSessions_ascending, weekSessions_closes⟩

def weekBuilder : BuildRuntime :=
  ⟨asciiRules, plainFloats, lengthDigits, fun _ => some weekCalendar, "4.13.2", "2025.2", "2.3.3"⟩

def weekRuntime : ServingRuntime := ⟨asciiRules, plainFloats, lengthDigits⟩

/-- A bar that was fetched at the close of its session. -/
def weekBar (day : Fin 20) (close : Float64) : PointInTimeBar :=
  ⟨"SPY", "day", 1, "polygon_open_close", "raw", sampleClose day, close, sampleClose day, sampleClose day,
    sampleClose day, sampleClose day, 1⟩

/-- The closes one, two, four and eight. -/
def weekBars : List PointInTimeBar :=
  [weekBar 4 ⟨0x3FF0000000000000⟩, weekBar 7 ⟨0x4000000000000000⟩, weekBar 8 ⟨0x4010000000000000⟩,
    weekBar 9 ⟨0x4020000000000000⟩]

def weekSpec (day : Fin 20) : SnapshotBuildSpec := ⟨"SPY", "close", "trading_day", sampleClose day⟩

/-- What is assembled at the close of a day from the bars so far. -/
def weekPayload (count : Nat) (day next : Fin 20) : ForecastInputSnapshotPayload Instant :=
  payloadOf weekBuilder (weekSpec day) (sampleClose day) samplePolicy (weekBars.take count) [sampleClose next]
    (sampleClose day)

def WeekAssembled (count : Nat) (day next : Fin 20) : Prop :=
  assembleVerifiedSnapshotPayload weekBuilder (weekBars.take count) (argument (weekSpec day)) (sampleClose day)
    samplePolicy = .ok (weekPayload count day next)

theorem week_assembled : WeekAssembled 2 7 8 ∧ WeekAssembled 3 8 9 ∧ WeekAssembled 4 9 10 := by
  refine ⟨?_, ?_, ?_⟩
  · exact assembleVerifiedSnapshotPayload_eq_ok_iff.mpr ⟨weekSpec 7, by decide +kernel, le_rfl, weekCalendar, rfl,
      weekBars.take 2, by decide +kernel, [sampleClose 8], by decide +kernel, sampleClose 7, by decide +kernel, rfl⟩
  · exact assembleVerifiedSnapshotPayload_eq_ok_iff.mpr ⟨weekSpec 8, by decide +kernel, le_rfl, weekCalendar, rfl,
      weekBars.take 3, by decide +kernel, [sampleClose 9], by decide +kernel, sampleClose 8, by decide +kernel, rfl⟩
  · exact assembleVerifiedSnapshotPayload_eq_ok_iff.mpr ⟨weekSpec 9, by decide +kernel, le_rfl, weekCalendar, rfl,
      weekBars.take 4, by decide +kernel, [sampleClose 10], by decide +kernel, sampleClose 9, by decide +kernel, rfl⟩

theorem week_values (count : Nat) (day next : Fin 20) :
    values (canonicalValues (weekPayload count day next)) = ([1, 2, 4, 8] : List ℚ).take count := by
  have hKept : (weekBars.map fun row => row.close.canonicalZero.value) = [1, 2, 4, 8] := by decide +kernel
  calc values (canonicalValues (weekPayload count day next))
      = (weekBars.take count).map fun row => row.close.canonicalZero.value := by
        rw [values, canonicalValues, weekPayload, payloadOf]
        simp only [List.map_map]
        rfl
    _ = ([1, 2, 4, 8] : List ℚ).take count := by rw [List.map_take, hKept]

theorem weekBuilder_digest : IsDigest weekBuilder.sha256 := isDigest_lengthDigits

/-- Payloads of different bars have different digests. -/
theorem week_digest_ne {m n : Nat} {day day' next next' : Fin 20} (hm : 0 < m ∧ m ≤ 4) (hn : 0 < n ∧ n ≤ 4)
    (h : m ≠ n) :
    payloadDigest weekBuilder (weekPayload m day next) ≠ payloadDigest weekBuilder (weekPayload n day' next') := by
  have hLength : ∀ {count : Nat} (day next : Fin 20), 0 < count ∧ count ≤ 4 →
      (dumps plainFloats (Snapshots.payloadDocument (canonicalValues (weekPayload count day next)))).length =
        count * 122 + 773 := by
    intro count day next hCount
    have hTaken : (weekBars.take count).length = count := by
      rw [List.length_take]
      exact min_eq_left hCount.2
    have hAllowed : "SPY" ∈ samplePolicy.allowedSymbols := by decide
    have hSymbol : (weekSpec day).symbol.toList.length = 3 := String.length_toList.trans (by decide : "SPY".length = 3)
    have hSample := @length_sample weekBuilder (weekSpec day) (sampleClose day) (sampleClose day) (sampleClose next)
      (weekBars.take count) weekBuilder_digest hAllowed rfl rfl (hTaken.symm ▸ hCount.1)
    rw [hTaken, hSymbol] at hSample
    rw [weekPayload]
    refine hSample.trans ?_
    omega
  have hBound : ∀ {count : Nat}, count ≤ 4 → count * 122 + 773 < 16 ^ 64 := by
    intro count hCount
    calc count * 122 + 773 ≤ 4 * 122 + 773 := by omega
      _ < 16 ^ 64 := by decide
  intro hSame
  rw [payloadDigest, payloadDigest, String.append_right_inj] at hSame
  refine lengthDigits_ne ?_ ?_ ?_ hSame
  · exact (hLength day next hm).symm ▸ hBound hm.2
  · exact (hLength day' next' hn).symm ▸ hBound hn.2
  · rw [show (weekBuilder.floats) = plainFloats from rfl, hLength day next hm, hLength day' next' hn]
    omega

theorem weekPolicy_hash : IsHash (resolutionPolicyHash weekBuilder samplePolicy) := isHash_digest weekBuilder_digest _

theorem weekRules_hash : IsHash (availabilityRuleSetHash weekBuilder) := isHash_digest weekBuilder_digest _

def weekPolicy : ForecastServingPolicy where
  resolutionPolicyHash := resolutionPolicyHash weekBuilder samplePolicy
  trustedAvailabilityRuleSetHash := availabilityRuleSetHash weekBuilder
  supported := rfl
  isHash := weekPolicy_hash
  isTrustedHash := weekRules_hash

def weekService : SnapshotForecastService := ⟨some weekPolicy.trustedAvailabilityRuleSetHash, weekPolicy, none⟩

theorem isDouble_weekCoverage : Float64.IsDouble (Calibration.thousandth 800) :=
  Forecasts.isDouble_thousandth (by decide)

/-- A forecast for the next session from the latest row. -/
def weekRequest (model : Forecasts.ForecastModelSelector) : Forecasts.ForecastRequest where
  symbol := "SPY"
  horizon := 1
  horizonUnit := .tradingDay
  target := .close
  asOf := none
  snapshotId := none
  model := model
  intervalCoverages := [⟨_, isDouble_weekCoverage⟩]

theorem weekRequest_sound (model : Forecasts.ForecastModelSelector) : SoundRequest asciiRules (weekRequest model) where
  symbol := by
    have hStrip : asciiRules.strip "SPY" = "SPY" := by decide +kernel
    have hLength : 1 ≤ "SPY".length ∧ "SPY".length ≤ 32 := by decide
    exact ⟨hStrip, hLength⟩
  symbolUpper := by
    have hUpper : asciiRules.upper "SPY" = "SPY" := by decide +kernel
    exact hUpper
  pattern := by
    have hPattern : Forecasts.IsRequestSymbol "SPY" := by decide
    exact hPattern
  horizon := ⟨le_rfl, by norm_num [weekRequest]⟩
  time := by
    rintro t hNone
    cases hNone
  snapshot := by
    rintro s hNone
    cases hNone
  count := by
    rw [weekRequest, List.length_singleton]
    decide
  coverages := by
    intro q hMem
    obtain rfl := List.mem_singleton.mp hMem
    exact ⟨800, by decide, rfl⟩
  ascending := List.pairwise_singleton _ _

def weekReadings : SnapshotForecastService.RunReadings := ⟨sampleClose 9, 0⟩

def weekAccepted (model : Forecasts.ForecastModelSelector) : AcceptedRequest asciiRules :=
  ⟨weekRequest model, weekRequest_sound model⟩

section Rows

variable {count : Nat} {day next : Fin 20} {model : Forecasts.ForecastModelSelector} {baseline : Baseline}
  {row : ForecastInputSnapshot} {table : List ForecastInputSnapshot}

theorem week_binds : Binds weekService (weekAccepted model) row (canonicalValues (weekPayload count day next)) where
  policyHash := rfl
  basis := rfl
  timespan := rfl
  multiplier := rfl
  symbol := rfl
  target := rfl
  horizonUnit := rfl
  pinned := by
    rintro s hNone
    cases hNone
  cutoff := by
    rintro - c hNone
    cases hNone
  horizon := le_rfl

theorem week_verified : Snapshots.availabilityVerified (canonicalValues (weekPayload count day next)).availability
    (some weekService.policy.trustedAvailabilityRuleSetHash) = true := by
  simp [Snapshots.availabilityVerified, canonicalValues, weekPayload, payloadOf, weekService, weekPolicy]

theorem week_asOf (checked : checkExistingRecord weekBuilder row = .ok (canonicalValues (weekPayload count day next))) :
    row.asOf = sampleClose day :=
  (validateRecord_of_checked weekBuilder_digest checked).2.2.asOf

theorem week_selects (checked : checkExistingRecord weekBuilder row =
    .ok (canonicalValues (weekPayload count day next))) :
    (weekService.selector (weekAccepted model) weekService.policy.seriesBasis).Selects none
      weekService.repositoryTrusted row := by
  obtain ⟨-, -, hDescribes⟩ := validateRecord_of_checked weekBuilder_digest checked
  have hAvailability := hDescribes.availability
  refine ⟨?_, ?_, ?_⟩
  · rw [ForecastInputSnapshotSelector.InSeries, hDescribes.terms]
    exact ⟨rfl, rfl, rfl, rfl, rfl, rfl, rfl, rfl⟩
  · rintro t hNone
    cases hNone
  · rintro rules hTrusted
    obtain rfl := Option.some.inj hTrusted
    have hStatus : (canonicalValues (weekPayload count day next)).availability.status = "passed" := rfl
    have hRules : (canonicalValues (weekPayload count day next)).availability.ruleSetHash =
        some weekService.policy.trustedAvailabilityRuleSetHash := rfl
    rw [hAvailability] at hStatus hRules
    exact ⟨hStatus, hRules⟩

/-- The latest row of the week is found. -/
theorem week_found (sound : TableSound lengthDigits table) (member : row ∈ table)
    (checked : checkExistingRecord weekBuilder row = .ok (canonicalValues (weekPayload count day next)))
    (latest : ∀ other ∈ table, other.asOf ≤ row.asOf) :
    weekService.loadRecord (weekAccepted model) weekService.policy.seriesBasis table = .ok row := by
  have hRow : latestSnapshot (weekService.selector (weekAccepted model) weekService.policy.seriesBasis) none
      weekService.repositoryTrusted table = some row := (latestSnapshot_eq_some_iff sound).mpr
    ⟨⟨member, week_selects checked⟩, fun other hOther _ => latest other hOther⟩
  have hFound : weekService.findRecord (weekAccepted model) weekService.policy.seriesBasis table =
      .ok (latestSnapshot (weekService.selector (weekAccepted model) weekService.policy.seriesBasis) none
        weekService.repositoryTrusted table) := rfl
  rw [SnapshotForecastService.loadRecord, hFound, hRow, ok_bind, orRefuse_some]

theorem week_gated (assembled : WeekAssembled count day next)
    (checked : checkExistingRecord weekBuilder row = .ok (canonicalValues (weekPayload count day next)))
    (found : weekService.loadRecord (weekAccepted model) weekService.policy.seriesBasis table = .ok row)
    (served : weekService.forecaster model = .ok baseline) :
    Gated weekRuntime weekService (weekAccepted model) table row (canonicalValues (weekPayload count day next))
      baseline := by
  have hMost : (weekBars.take count).length ≤ samplePolicy.observationLimit :=
    (List.length_take_le' _ _).trans (by decide)
  obtain ⟨hNormal, -⟩ := assembled_normalizes samplePolicy_valid weekBuilder_digest hMost assembled
  exact ⟨rfl, rfl, found, (validateRecord_of_checked weekBuilder_digest checked).1, week_binds,
    Snapshots.availabilityProved_of_verified hNormal week_verified, served⟩

/-- The row of a day is sealed next to rows of other days and other numbers of bars. -/
theorem exists_week_row (assembled : WeekAssembled count day next) (some : 0 < count ∧ count ≤ 4)
    (others : ∀ other ∈ table, ∃ (m : Nat) (day' next' : Fin 20), (0 < m ∧ m ≤ 4) ∧ m ≠ count ∧
      sampleClose day' ≠ sampleClose day ∧
      checkExistingRecord weekBuilder other = .ok (canonicalValues (weekPayload m day' next'))) :
    ∃ row, SnapshotStep lengthDigits table (table ++ [row]) ∧
      checkExistingRecord weekBuilder row = .ok (canonicalValues (weekPayload count day next)) := by
  have hMost : (weekBars.take count).length ≤ samplePolicy.observationLimit :=
    (List.length_take_le' _ _).trans (by decide)
  have hFree : ∀ other ∈ table, other.snapshotId ≠ payloadDigest weekBuilder (weekPayload count day next) ∧
      other.semanticKey ≠ (weekPayload count day next).toSnapshotTerms.semanticKey
        (weekPayload count day next).asOf := by
    intro other hOther
    obtain ⟨m, day', next', hCount, hDifferent, hDay, hChecked⟩ := others other hOther
    constructor
    · rw [snapshotId_of_checked hChecked]
      exact week_digest_ne hCount some hDifferent
    · intro hSame
      exact hDay ((week_asOf hChecked).symm.trans (congrArg Snapshots.SemanticKey.asOf hSame))
  obtain ⟨row, hStep, hChecked, -⟩ :=
    step_of_assembled samplePolicy_valid weekBuilder_digest hMost le_rfl assembled hFree
  exact ⟨row, hStep, hChecked⟩

end Rows

/-- The naive forecaster errs by one, then by two. -/
def weekFitted : Fitted ℚ := ⟨.naive, [1, 2, 4], by decide⟩

/-- A day later it also errs by four. -/
def longerFitted : Fitted ℚ := ⟨.naive, [1, 2, 4, 8], by decide⟩

theorem week_dispersed : weekFitted.Dispersed 1 ∧ longerFitted.Dispersed 1 := by
  unfold Fitted.Dispersed
  decide +kernel

theorem week_computes : Computes .naive (canonicalValues (weekPayload 3 8 9)) 1 weekFitted where
  baseline := rfl
  history := (week_values 3 8 9).symm
  dispersed step hStep := by
    obtain rfl := List.mem_singleton.mp hStep
    exact week_dispersed.1

theorem longer_computes : Computes .naive (canonicalValues (weekPayload 4 9 10)) 1 longerFitted where
  baseline := rfl
  history := (week_values 4 9 10).symm
  dispersed step hStep := by
    obtain rfl := List.mem_singleton.mp hStep
    exact week_dispersed.2

/-- The row of the Tuesday is sealed and found. -/
theorem exists_tuesday (model : Forecasts.ForecastModelSelector) : ∃ row : ForecastInputSnapshot,
    ReflTransGen (SnapshotStep lengthDigits) [] [row] ∧
      checkExistingRecord weekBuilder row = .ok (canonicalValues (weekPayload 3 8 9)) ∧
      weekService.loadRecord (weekAccepted model) weekService.policy.seriesBasis [row] = .ok row := by
  obtain ⟨row, hStep, hChecked⟩ := @exists_week_row 3 8 9 [] week_assembled.2.1 (by decide)
    (fun _ hNone => absurd hNone List.not_mem_nil)
  have hSound := (Snapshots.snapshotStep_sound TableSound.empty hStep).1
  refine ⟨row, .single hStep, hChecked, week_found hSound (List.mem_singleton_self row) hChecked ?_⟩
  intro other hOther
  exact (List.mem_singleton.mp hOther ▸ le_rfl)

theorem served_forecasts_are_honest_week : ∃ (row : ForecastInputSnapshot) (request : AcceptedRequest asciiRules)
    (response : AssembledResponse),
    weekService.produce weekRuntime request weekReadings [row] = .ok response ∧
      Honest request.toForecastRequest (canonicalValues (weekPayload 3 8 9)) response := by
  obtain ⟨row, -, hChecked, hFound⟩ := exists_tuesday .baselineNaive
  have hGated : Gated weekRuntime weekService (weekAccepted .baselineNaive) [row] row _ .naive :=
    week_gated week_assembled.2.1 hChecked hFound rfl
  obtain ⟨hAnswers, hHonest⟩ :=
    served_forecasts_are_honest weekRuntime weekService (weekAccepted .baselineNaive) weekReadings [row]
  exact ⟨row, weekAccepted .baselineNaive, answerOf weekService (weekAccepted .baselineNaive) weekReadings row _
    weekFitted,
    (hAnswers _).mpr ⟨row, _, .naive, weekFitted, hGated, week_computes, rfl⟩,
    hHonest row _ .naive weekFitted hGated week_computes⟩

/-! ## Later tables -/

section Later

variable {runtime : ServingRuntime} {service : SnapshotForecastService} {request : AcceptedRequest runtime.rules}

def cutoffOf {rules : TextRules} (request : AcceptedRequest rules) : Option Instant :=
  request.asOf.bind ParsedDateTime.toInstant

theorem findRecord_eq_ok {seriesBasis : String} {table : List ForecastInputSnapshot}
    {found : Option ForecastInputSnapshot} (h : service.findRecord request seriesBasis table = .ok found) :
    (∃ snapshotId, request.snapshotId = some snapshotId ∧ ∀ t, service.findRecord request seriesBasis t =
        .ok (getSnapshot snapshotId t)) ∨
      (request.snapshotId = none ∧ ∀ t, service.findRecord request seriesBasis t =
        .ok (latestSnapshot (service.selector request seriesBasis) (cutoffOf request) service.repositoryTrusted
          t)) := by
  cases hPinned : request.snapshotId with
  | some snapshotId =>
    refine .inl ⟨snapshotId, rfl, fun t => ?_⟩
    simp only [SnapshotForecastService.findRecord, hPinned]
  | none =>
    refine .inr ⟨rfl, fun t => ?_⟩
    simp only [SnapshotForecastService.findRecord, hPinned, latest, SnapshotForecastService.selector] at h ⊢
    cases hAsOf : request.asOf with
    | none => simp only [cutoffOf, hAsOf, Option.bind_none]
    | some requested =>
      rw [hAsOf] at h
      simp only [orRefuse_bind_eq_ok_iff] at h
      obtain ⟨cutoff, hCutoff, -⟩ := h
      simp only [cutoffOf, hAsOf, Option.bind_some, hCutoff, orRefuse_some, ok_bind, pure_eq_ok]

theorem loadRecord_eq_ok_iff {seriesBasis : String} {table : List ForecastInputSnapshot}
    {row : ForecastInputSnapshot} : service.loadRecord request seriesBasis table = .ok row ↔
      service.findRecord request seriesBasis table = .ok (some row) := by
  rw [SnapshotForecastService.loadRecord, bind_eq_ok_iff]
  constructor
  · rintro ⟨found, hFound, h⟩
    rw [hFound, orRefuse_eq_ok_iff.mp h]
  · intro h
    exact ⟨some row, h, rfl⟩

theorem Gated.produces {table : List ForecastInputSnapshot} {row : ForecastInputSnapshot}
    {payload : ForecastInputSnapshotPayload Instant} {baseline : Baseline} {fitted : Fitted ℚ}
    (gated : Gated runtime service request table row payload baseline)
    (computes : Computes baseline payload request.horizon.toNat fitted)
      (readings : SnapshotForecastService.RunReadings) :
    service.produce runtime request readings table = .ok (answerOf service request readings row payload fitted) :=
  produce_eq_ok_iff.mpr ⟨row, payload, baseline, fitted, gated, computes, rfl⟩

/-- The table enters an answer through one row. -/
theorem produce_congr {readings : SnapshotForecastService.RunReadings} {table table' : List ForecastInputSnapshot}
    (same : service.loadRecord request service.policy.seriesBasis table' =
      service.loadRecord request service.policy.seriesBasis table) :
    service.produce runtime request readings table' = service.produce runtime request readings table := by
  have hBasis : ∀ {β : Type} (f g : String → Except ServingError β),
      f service.policy.seriesBasis = g service.policy.seriesBasis →
        (service.policy.seriesBasisFor (Literal.text request.target) >>= f) =
          (service.policy.seriesBasisFor (Literal.text request.target) >>= g) := by
    intro β f g hSame
    rw [ForecastServingPolicy.seriesBasisFor]
    by_cases hTarget : Literal.text request.target ≠ service.policy.target
    · rw [refuseIf_of hTarget, error_bind, error_bind, error_bind]
    · rw [refuseIf_of_not hTarget, ok_bind, pure_eq_ok, ok_bind, ok_bind, hSame]
  rw [SnapshotForecastService.produce, SnapshotForecastService.produce]
  refine congrArg _ (funext fun _ => hBasis _ _ ?_)
  rw [same]

/-- In every run of the table, a request that found a row finds one ever after, and its answer stands until
a row of its series is sealed that is newer, within its cutoff and proved by the trusted rules. The answer
to a request that pins its snapshot stands for good. -/
theorem answers_stand {sha256 : Bytes → String} {table table' : List ForecastInputSnapshot}
    {row : ForecastInputSnapshot} (reached : ReflTransGen (SnapshotStep sha256) [] table)
    (run : ReflTransGen (SnapshotStep sha256) table table')
    (found : service.loadRecord request service.policy.seriesBasis table = .ok row) :
    ∃ row', service.loadRecord request service.policy.seriesBasis table' = .ok row' ∧
      ((∀ readings, service.produce runtime request readings table' =
          service.produce runtime request readings table) ∨
        request.snapshotId = none ∧ row' ∉ table ∧ row.asOf < row'.asOf ∧
          (service.selector request service.policy.seriesBasis).Selects (cutoffOf request)
            service.repositoryTrusted row') := by
  have sound := (tableSound_of_run reached TableSound.empty).1
  obtain ⟨sound', kept⟩ := tableSound_of_run run sound
  have hStands : service.loadRecord request service.policy.seriesBasis table' = .ok row →
      ∀ readings, service.produce runtime request readings table' = service.produce runtime request readings table :=
    fun hSame _ => produce_congr (hSame.trans found.symm)
  simp only [loadRecord_eq_ok_iff] at found hStands ⊢
  rcases findRecord_eq_ok found with ⟨snapshotId, hPinned, hFind⟩ | ⟨hPinned, hFind⟩
  · rw [hFind, Except.ok.injEq, getSnapshot_eq_some_iff sound] at found
    have hSame : service.findRecord request service.policy.seriesBasis table' = .ok (some row) := by
      rw [hFind, (getSnapshot_eq_some_iff sound').mpr ⟨kept found.1, found.2⟩]
    exact ⟨row, hSame, .inl (hStands hSame)⟩
  · rw [hFind, Except.ok.injEq] at found
    rcases latestSnapshot_of_run run sound found with hLatest | ⟨newer, hNewer, hNew, hSelects, hLater⟩
    · have hSame : service.findRecord request service.policy.seriesBasis table' = .ok (some row) := by
        rw [hFind, hLatest]
      exact ⟨row, hSame, .inl (hStands hSame)⟩
    · refine ⟨newer, ?_, .inr ⟨hPinned, hNew, hLater, hSelects⟩⟩
      rw [hFind, hNewer]

/-- Monday's row, sealed after Tuesday's, leaves the answer as it was. Wednesday's row replaces it. -/
theorem answers_stand_week : ∃ tuesday monday wednesday : ForecastInputSnapshot,
    SnapshotStep lengthDigits [tuesday] [tuesday, monday] ∧
      SnapshotStep lengthDigits [tuesday, monday] [tuesday, monday, wednesday] ∧
      (∀ readings, weekService.produce weekRuntime (weekAccepted .baselineNaive) readings [tuesday, monday] =
        weekService.produce weekRuntime (weekAccepted .baselineNaive) readings [tuesday]) ∧
      ∃ row', weekService.loadRecord (weekAccepted .baselineNaive) weekService.policy.seriesBasis
          [tuesday, monday, wednesday] = .ok row' ∧
        row' ∉ [tuesday, monday] ∧ tuesday.asOf < row'.asOf := by
  obtain ⟨tuesday, hReached, hTuesday, hFound⟩ := exists_tuesday .baselineNaive
  have hTuesdayAsOf : tuesday.asOf = sampleClose 8 := week_asOf hTuesday
  obtain ⟨monday, hSealed, hMonday⟩ := @exists_week_row 2 7 8 [tuesday] week_assembled.1 (by decide)
    (fun other hOther => ⟨3, 8, 9, by decide, by decide, by decide,
      List.mem_singleton.mp hOther ▸ hTuesday⟩)
  have hMondayAsOf : monday.asOf = sampleClose 7 := week_asOf hMonday
  have hPair : ∀ other ∈ [tuesday, monday], ∃ (m : Nat) (day' next' : Fin 20), (0 < m ∧ m ≤ 4) ∧ m ≠ 4 ∧
      sampleClose day' ≠ sampleClose 9 ∧
      checkExistingRecord weekBuilder other = .ok (canonicalValues (weekPayload m day' next')) := by
    intro other hOther
    rcases List.mem_pair.mp hOther with rfl | rfl
    · exact ⟨3, 8, 9, by decide, by decide, by decide, hTuesday⟩
    · exact ⟨2, 7, 8, by decide, by decide, by decide, hMonday⟩
  obtain ⟨wednesday, hReplaced, hWednesday⟩ := exists_week_row week_assembled.2.2 (by decide) hPair
  have hWednesdayAsOf : wednesday.asOf = sampleClose 9 := week_asOf hWednesday
  have hSealedReached := hReached.tail hSealed
  have hSound := (tableSound_of_run (hSealedReached.tail hReplaced) TableSound.empty).1
  have hStill : weekService.loadRecord (weekAccepted .baselineNaive) weekService.policy.seriesBasis
      [tuesday, monday] = .ok tuesday := by
    refine week_found (tableSound_of_run hSealedReached TableSound.empty).1 List.mem_cons_self hTuesday ?_
    intro other hOther
    rcases List.mem_pair.mp hOther with rfl | rfl
    · exact le_rfl
    · rw [hMondayAsOf, hTuesdayAsOf]
      decide
  have hNewest : weekService.loadRecord (weekAccepted .baselineNaive) weekService.policy.seriesBasis
      [tuesday, monday, wednesday] = .ok wednesday := by
    refine week_found hSound (by simp) hWednesday ?_
    intro other hOther
    simp only [List.mem_cons, List.not_mem_nil, or_false] at hOther
    rcases hOther with rfl | rfl | rfl
    · rw [hTuesdayAsOf, hWednesdayAsOf]
      decide
    · rw [hMondayAsOf, hWednesdayAsOf]
      decide
    · exact le_rfl
  refine ⟨tuesday, monday, wednesday, hSealed, hReplaced, ?_, ?_⟩
  · obtain ⟨row', hRow, hSame | ⟨-, -, hLater, -⟩⟩ :=
      @answers_stand weekRuntime weekService (weekAccepted .baselineNaive) lengthDigits _ _ _ hReached
        (.single hSealed) hFound
    · exact hSame
    · -- the row of the Monday is no newer
      obtain rfl := Except.ok.inj (hStill.symm.trans hRow)
      exact absurd hLater (lt_irrefl _)
  · obtain ⟨row', hRow, hSame | ⟨-, hNew, hLater, -⟩⟩ :=
      @answers_stand weekRuntime weekService (weekAccepted .baselineNaive) lengthDigits _ _ _ hSealedReached
        (.single hReplaced) hStill
    · -- the two answers have different cutoffs
      have hBefore := (week_gated week_assembled.2.1 hTuesday hStill rfl).produces week_computes weekReadings
      have hAfter := (week_gated week_assembled.2.2 hWednesday hNewest rfl).produces longer_computes weekReadings
      have hAnswers := Except.ok.inj (hAfter.symm.trans ((hSame weekReadings).trans hBefore))
      have hCutoffs : sampleClose 9 = sampleClose 8 := congrArg AssembledResponse.asOf hAnswers
      exact absurd hCutoffs (by decide)
    · exact ⟨row', hRow, hNew, hLater⟩

end Later

end StockApi.Serving

import StockApi.Forecasts.Opportunity
import StockApi.Forecasts.Rearrangement

/-!
# The store of forecast runs

`SqlForecastRunStore.execute` archives the bytes of a run beside the headers of its response, and a retry
replays the row. The database is what it answers: the row of a key, the response of the producer, the time
of completion and the outcome of the transaction.
-/

namespace StockApi.Forecasts

open Checked CivilTime Documents Groups

/-! ## Errors -/

/-- What a validator of runs raises. -/
inductive RunError where
  | validation (message : String)
  /-- `_ForecastRunClockError`. -/
  | clock (message : String)
  /-- The `OverflowError` of `astimezone`. -/
  | overflow
deriving DecidableEq

/-- An `AppError` with the entries of its `details`. -/
structure ArchiveError where
  message : String
  code : String
  statusCode : Nat
  forecastId : Option Uuid := none
  retryable : Option Bool := none
deriving DecidableEq

inductive StoreError where
  | app (error : ArchiveError)
  | raised (error : RunError)
deriving DecidableEq

/-- What the handlers of `execute` make of an error of `_finalized_row`. -/
def archivalFailure : RunError → StoreError
  | .clock _ => .app ⟨"Forecast output could not be archived safely.", "forecast_archive_clock_invalid", 503,
      none, some false⟩
  | .validation _ => .app ⟨"Forecast output could not be archived safely.", "forecast_archive_validation_failed",
      500, none, some false⟩
  | .overflow => .raised .overflow

/-- What the handler of `_replay` makes of an error. -/
def replayFailure (forecastId : Uuid) : RunError → StoreError
  | .overflow => .raised .overflow
  | _ => .app ⟨"Persisted forecast replay evidence failed validation.", "forecast_archive_corrupt", 500,
      some forecastId, some false⟩

def keyConflict : StoreError :=
  .app ⟨"Idempotency-Key was already used with a different forecast request.", "idempotency_key_conflict", 409,
    none, none⟩

/-! ## Rows -/

/-- The columns of a row that repeat what its output says. -/
structure RunHeaders where
  schemaVersion : Int
  opportunityHash : String
  forecastId : Uuid
  snapshotId : String
  resolutionPolicyHash : String
  availabilityRuleSetHash : String
  symbol : String
  target : ForecastTarget
  horizon : Int
  horizonUnit : ForecastHorizonUnit
  seriesBasis : ForecastSeriesBasis
  asOf : Instant
  maxAvailableAt : Instant
  modelVersion : String
  featureSetHash : String
  codeVersion : Option String
  calibrationSetVersion : String
  calibrationMethod : CalibrationMethod
  generatedAt : Instant
deriving DecidableEq

/-- A row of `forecast_runs`, as it is written and read back. -/
structure ForecastRun extends RunHeaders where
  originKind : String
  idempotencyTokenDigest : Option String
  requestHash : String
  outputHash : String
  canonicalRequest : Bytes
  canonicalOutput : Bytes

/-- `SqlForecastRunStore`. -/
structure RunStore where
  resolutionPolicyHash : String
  availabilityRuleSetHash : String
  originKind : String

def RunStore.context (store : RunStore) : OpportunityContext :=
  ⟨store.resolutionPolicyHash, store.availabilityRuleSetHash, store.originKind⟩

def ForecastRun.context (row : ForecastRun) : OpportunityContext :=
  ⟨row.resolutionPolicyHash, row.availabilityRuleSetHash, row.originKind⟩

/-- `_as_utc`. -/
def asUtc (value : ParsedDateTime) : Except RunError Instant := do
  refuseIf (value.offset = none) (.validation "forecast-run timestamps must be timezone-aware")
  orRefuse value.toInstant .overflow

/-- `_feature_hash`. -/
def markedFeatureHash (value : String) : String :=
  let normalized := value.toList.map Char.toLower
  String.ofList (if normalized.take 7 = hashMark then normalized else hashMark ++ normalized)

/-- `request.as_of`, which the response must not exceed. -/
def withinCutoff (asOf : ParsedDateTime) : Option ParsedDateTime → Except RunError Unit
  | none => .ok ⟨⟩
  | some cutoff => do
    let asOf ← asUtc asOf
    let cutoff ← asUtc cutoff
    refuseIf (cutoff < asOf) (.validation "forecast output exceeds the request cutoff")

/-- `_validate_request_response`. -/
def validateRequestResponse (request : ForecastRequest) (response : ForecastResponse) : Except RunError Unit := do
  refuseIf (response.symbol ≠ request.symbol ∨ response.target ≠ request.target ∨
      response.horizon ≠ request.horizon ∨ response.horizonUnit ≠ request.horizonUnit)
    (.validation "forecast output identity does not match its accepted request")
  refuseIf (∃ pinned ∈ request.snapshotId, response.provenance.snapshotId ≠ pinned)
    (.validation "forecast output snapshot does not match the pinned request")
  withinCutoff response.asOf request.asOf
  refuseIf (∃ step ∈ response.forecasts,
      (step.intervals.map ForecastInterval.coverage).toFinset ≠ request.intervalCoverages.toFinset)
    (.validation "forecast output interval coverages do not match the request")

/-- The headers of a response under the hashes of a policy. -/
def runHeaders (context : OpportunityContext) (opportunityHash : String) (response : ForecastResponse) :
    Except RunError RunHeaders := do
  let asOf ← asUtc response.asOf
  let maxAvailableAt ← asUtc response.provenance.maxAvailableAt
  let generatedAt ← asUtc response.provenance.generatedAt
  return {
    schemaVersion := 1
    opportunityHash
    forecastId := response.provenance.forecastId
    snapshotId := response.provenance.snapshotId
    resolutionPolicyHash := context.resolutionPolicyHash
    availabilityRuleSetHash := context.availabilityRuleSetHash
    symbol := response.symbol
    target := response.target
    horizon := response.horizon
    horizonUnit := response.horizonUnit
    seriesBasis := response.provenance.seriesBasis
    asOf
    maxAvailableAt
    modelVersion := response.provenance.modelVersion
    featureSetHash := markedFeatureHash response.provenance.featureSetHash
    codeVersion := response.provenance.codeVersion
    calibrationSetVersion := response.calibration.calibrationSetVersion
    calibrationMethod := response.calibration.method
    generatedAt }

/-- The time of completion in place of the provisional times of a response. -/
def ForecastResponse.stamped (response : ForecastResponse) (completed : Instant) : ForecastResponse :=
  { response with
    provenance := { response.provenance with
      generatedAt := completed.inUtc
      lookaheadCheck := { response.provenance.lookaheadCheck with checkedAt := completed.inUtc } } }

section Store

variable (rules : TextRules) (floats : FloatText) (coercions : Coercions) (sha256 : Bytes → String)

/-- `request_hash` of bytes. -/
def requestHash (canonicalPayload : Bytes) : Except String String := do
  let request ← parseRequest rules floats coercions canonicalPayload
  let canonical ← canonicalRequest rules floats request
  return sha256 canonical

/-- `output_hash` of bytes. -/
def outputHash (canonicalPayload : Bytes) : Except String String := do
  let response ← parseOutput rules floats coercions canonicalPayload
  let canonical ← canonicalOutput rules floats response
  return sha256 canonical

/-- `_with_database_completion_time`. -/
def withDatabaseCompletionTime (response : ForecastResponse) (completedAt : ParsedDateTime) :
    Except RunError ForecastResponse := do
  let completed ← asUtc completedAt
  let early := RunError.clock "database completion time precedes forecast input availability"
  let asOf ← asUtc response.asOf
  refuseIf (completed < asOf) early
  let maxAvailableAt ← asUtc response.provenance.maxAvailableAt
  refuseIf (completed < maxAvailableAt) early
  (validateResponse rules (response.stamped completed)).mapError fun _ =>
    .validation "database-finalized forecast response fails validation"

/-- `_row`. -/
def runRow (store : RunStore) (requestPayload : Bytes) (requestIdentity : String) (retryIdentity : Option String)
    (response : ForecastResponse) : Except RunError ForecastRun := do
  let request ← (parseRequest rules floats coercions requestPayload).mapError .validation
  validateRequestResponse request response
  let outputPayload ← (canonicalOutput rules floats response).mapError .validation
  let opportunity ← (opportunityHash rules floats sha256 response store.context).mapError .validation
  let output ← (outputHash rules floats coercions sha256 outputPayload).mapError .validation
  let headers ← runHeaders store.context opportunity response
  return { headers with
    originKind := store.originKind
    idempotencyTokenDigest := retryIdentity
    requestHash := requestIdentity
    outputHash := output
    canonicalRequest := requestPayload
    canonicalOutput := outputPayload }

/-- `_validate_headers`. -/
def validateHeaders (row : ForecastRun) (response : ForecastResponse) : Except RunError Unit := do
  let opportunity ← (opportunityHash rules floats sha256 response row.context).mapError .validation
  let expected ← runHeaders row.context opportunity response
  refuseIf (row.toRunHeaders ≠ expected) (.validation "forecast-run headers do not match canonical output")

/-- The part of `_replay` whose errors make a row corrupt. -/
def replayEvidence (row : ForecastRun) (expectedRequest : Bytes) : Except RunError ForecastResponse := do
  refuseIf (row.canonicalRequest ≠ expectedRequest)
    (.validation "stored request bytes do not match their retry request")
  let stored ← (requestHash rules floats coercions sha256 row.canonicalRequest).mapError .validation
  refuseIf (stored ≠ row.requestHash) (.validation "stored request hash is invalid")
  let request ← (parseRequest rules floats coercions row.canonicalRequest).mapError .validation
  let expected ← (parseRequest rules floats coercions expectedRequest).mapError .validation
  refuseIf (request ≠ expected) (.validation "stored request semantics are invalid")
  let response ← (parseOutput rules floats coercions row.canonicalOutput).mapError .validation
  let output ← (outputHash rules floats coercions sha256 row.canonicalOutput).mapError .validation
  refuseIf (output ≠ row.outputHash) (.validation "stored output hash is invalid")
  validateRequestResponse request response
  validateHeaders rules floats sha256 row response
  return response

/-- `_replay`. -/
def replay (row : ForecastRun) (expectedRequest : Bytes) (expectedRequestHash : String) :
    Except StoreError ForecastResponse := do
  refuseIf (row.requestHash ≠ expectedRequestHash) keyConflict
  (replayEvidence rules floats coercions sha256 row expectedRequest).mapError (replayFailure row.forecastId)

/-- What the transaction of `_commit_candidate` comes to, with the reconciliation of its errors. -/
inductive Committed where
  | inserted
  /-- A row of the key, or of the scheduled opportunity, is replayed in its place. -/
  | found (row : ForecastRun)
  | refused (error : StoreError)

/-- `execute`: the response, and the row that was stored. -/
def execute (store : RunStore) (request : ForecastRequest) (retryIdentity : Except StoreError (Option String))
    (preflight : Except StoreError (Option ForecastRun)) (producer : Except StoreError ForecastResponse)
    (completedAt : Except StoreError ParsedDateTime) (commit : ForecastRun → Committed) :
    Except StoreError (ForecastResponse × Option ForecastRun) := do
  let requestPayload ← (canonicalRequest rules floats request).mapError (StoreError.raised ∘ .validation)
  let requestIdentity ← (requestHash rules floats coercions sha256 requestPayload).mapError
    (StoreError.raised ∘ .validation)
  let retryIdentity ← retryIdentity
  let existing ← preflight
  match existing with
  | some row => do
    let response ← replay rules floats coercions sha256 row requestPayload requestIdentity
    return (response, none)
  | none => do
    let provisional ← producer
    let completed ← completedAt
    let finalized ← (withDatabaseCompletionTime rules provisional completed).mapError archivalFailure
    let row ← (runRow rules floats coercions sha256 store requestPayload requestIdentity retryIdentity
      finalized).mapError archivalFailure
    match commit row with
    | .inserted => return (finalized, some row)
    | .found other => do
      let response ← replay rules floats coercions sha256 other requestPayload requestIdentity
      return (response, none)
    | .refused error => .error error

end Store

section Laws

variable {rules : TextRules} {floats : FloatText} {coercions : Coercions} {sha256 : Bytes → String}

/-! ## Bytes that are read back -/

theorem canonicalRequest_of_parse {b : Bytes} {q : ForecastRequest}
    (h : parseRequest rules floats coercions b = .ok q) : canonicalRequest rules floats q = .ok b := by
  rw [parseRequest, bind_eq_ok_iff] at h
  obtain ⟨payload, -, h⟩ := h
  simp only [bind_eq_ok_iff, refuseIf_eq_ok_iff, not_not, pure_eq_ok, Except.ok.injEq, exists_const] at h
  obtain ⟨-, -, request, -, canonical, hCanonical, rfl, rfl⟩ := h
  exact hCanonical

theorem canonicalOutput_of_parse {b : Bytes} {s : ForecastResponse}
    (h : parseOutput rules floats coercions b = .ok s) : canonicalOutput rules floats s = .ok b := by
  rw [parseOutput, bind_eq_ok_iff] at h
  obtain ⟨payload, -, h⟩ := h
  simp only [bind_eq_ok_iff, refuseIf_eq_ok_iff, not_not, pure_eq_ok, Except.ok.injEq, exists_const] at h
  obtain ⟨-, -, response, -, canonical, hCanonical, rfl, rfl⟩ := h
  exact hCanonical

theorem requestHash_eq_ok_iff {b : Bytes} {hash : String} :
    requestHash rules floats coercions sha256 b = .ok hash ↔
      (∃ q, parseRequest rules floats coercions b = .ok q) ∧ hash = sha256 b := by
  rw [requestHash, bind_eq_ok_iff]
  constructor
  · rintro ⟨q, hParse, h⟩
    rw [canonicalRequest_of_parse hParse, ok_bind] at h
    exact ⟨⟨q, hParse⟩, (Except.ok.inj h).symm⟩
  · rintro ⟨⟨q, hParse⟩, rfl⟩
    refine ⟨q, hParse, ?_⟩
    rw [canonicalRequest_of_parse hParse, ok_bind, pure_eq_ok]

theorem outputHash_eq_ok_iff {b : Bytes} {hash : String} :
    outputHash rules floats coercions sha256 b = .ok hash ↔
      (∃ s, parseOutput rules floats coercions b = .ok s) ∧ hash = sha256 b := by
  rw [outputHash, bind_eq_ok_iff]
  constructor
  · rintro ⟨s, hParse, h⟩
    rw [canonicalOutput_of_parse hParse, ok_bind] at h
    exact ⟨⟨s, hParse⟩, (Except.ok.inj h).symm⟩
  · rintro ⟨⟨s, hParse⟩, rfl⟩
    refine ⟨s, hParse, ?_⟩
    rw [canonicalOutput_of_parse hParse, ok_bind, pure_eq_ok]

/-- What the bytes of a request are read back as is in normal form. -/
theorem parsed_request (reads : ReadsBack floats) {request q : ForecastRequest} {b : Bytes}
    (hBytes : canonicalRequest rules floats request = .ok b)
    (hParse : parseRequest rules floats coercions b = .ok q) : SoundRequest rules q ∧ q.normal rules = q := by
  rw [canonicalRequest, bind_eq_ok_iff] at hBytes
  obtain ⟨v, hValid, hBytes⟩ := hBytes
  have hSound := validateRequest_sound (mapError_eq_ok_iff.mp hValid)
  have hCanonical : canonicalRequest rules floats v = .ok b := by
    rw [canonicalRequest, hSound.validate]
    exact hBytes
  obtain ⟨hTimed, rfl, hLength⟩ := (canonicalRequest_eq_ok_iff hSound).mp hCanonical
  obtain ⟨hFits, rfl⟩ := (parseRequest_eq_ok_iff reads hSound hTimed hLength).mp hParse
  exact ⟨hSound.normal hFits, normal_normal_request v⟩

theorem parsed_output (reads : ReadsBack floats) {r s : ForecastResponse} (h : SoundResponse rules r) {b : Bytes}
    (hBytes : canonicalOutput rules floats r = .ok b) :
    parseOutput rules floats coercions b = .ok s ↔ (Fits rules r ∧ Ascending rules r) ∧ s = r.archived rules := by
  obtain ⟨hTimed, rfl, hLength⟩ := (canonicalOutput_eq_ok_iff h).mp hBytes
  exact parseOutput_eq_ok_iff reads h hTimed hLength

/-! ## Times -/

theorem asUtc_eq_ok_iff {t : ParsedDateTime} {i : Instant} : asUtc t = .ok i ↔ t.toInstant = some i := by
  rw [asUtc, refuseIf_bind_eq_ok_iff, orRefuse_eq_ok_iff]
  exact ⟨fun h => h.2, fun h => ⟨(micros_of_toInstant h).2, h⟩⟩

@[simp] theorem asUtc_utc (t : ParsedDateTime) : asUtc (utc t) = asUtc t := by
  obtain ⟨instant, hInstant, hUtc⟩ | ⟨-, hUtc⟩ := utc_cases t
  · rw [hUtc, asUtc_eq_ok_iff.mpr (Instant.toInstant_inUtc instant), asUtc_eq_ok_iff.mpr hInstant]
  · rw [hUtc]

/-! ## The archived form keeps the checks -/

theorem markedFeatureHash_of {value : String} (h : IsFeatureHash value) :
    markedFeatureHash value = featureHash value := by
  have hMark : hashMark.map Char.toLower = hashMark := by decide
  rw [← lowered_featureHash h, markedFeatureHash]
  split
  · rfl
  · rw [List.map_append, hMark]

theorem markedFeatureHash_archived {r : ForecastResponse} (h : IsFeatureHash r.provenance.featureSetHash) :
    markedFeatureHash (r.archived rules).provenance.featureSetHash =
      markedFeatureHash r.provenance.featureSetHash := by
  change markedFeatureHash (rules.nfc (featureHash r.provenance.featureSetHash)) = _
  rw [nfc_featureHash rules h, markedFeatureHash_of (isFeatureHash_featureHash h), featureHash_featureHash h,
    markedFeatureHash_of h]

theorem coverages_archived (s : ForecastStep) :
    (s.ordered.normal.intervals.map ForecastInterval.coverage).toFinset =
      (s.intervals.map ForecastInterval.coverage).toFinset :=
  List.toFinset_eq_of_perm _ _ ((sortOn_perm s.intervals).map ForecastInterval.coverage)

/-- The archived form answers the request that its response answered. -/
theorem validateRequestResponse_archived {q : ForecastRequest} {r : ForecastResponse} (sound : SoundRequest rules q)
    (normal : q.normal rules = q) (h : validateRequestResponse q r = .ok ⟨⟩) :
    validateRequestResponse q (r.archived rules) = .ok ⟨⟩ := by
  have hSnapshot : q.snapshotId.map rules.nfc = q.snapshotId := congrArg ForecastRequest.snapshotId normal
  simp only [validateRequestResponse, unit_bind_eq_ok_iff, refuseIf_eq_ok_iff, not_or, not_exists, not_and, not_not]
    at h ⊢
  obtain ⟨⟨hSymbol, hTarget, hHorizon, hUnit⟩, hPinned, hCutoff, hCoverages⟩ := h
  refine ⟨⟨?_, hTarget, hHorizon, hUnit⟩, ?_, ?_, ?_⟩
  · change rules.nfc r.symbol = q.symbol
    rw [hSymbol, sound.nfc_symbol]
  · intro pinned hMem
    have hNormal : rules.nfc pinned ∈ q.snapshotId.map rules.nfc := Option.mem_map_of_mem rules.nfc hMem
    rw [hSnapshot] at hNormal
    change rules.nfc r.provenance.snapshotId = pinned
    rw [hPinned pinned hMem]
    exact Option.mem_unique hNormal hMem
  · change withinCutoff (utc r.asOf) q.asOf = .ok ⟨⟩
    rw [← hCutoff]
    cases q.asOf with
    | none => rfl
    | some cutoff => rw [withinCutoff, withinCutoff, asUtc_utc]
  · change ∀ step ∈ (r.forecasts.map ForecastStep.ordered).map ForecastStep.normal, _
    rw [List.forall_mem_map, List.forall_mem_map]
    intro step hMem
    rw [coverages_archived]
    exact hCoverages step hMem

/-- The archived form agrees with its response on what identifies the forecast. -/
theorem agrees_archived {r : ForecastResponse} (h : IsFeatureHash r.provenance.featureSetHash) :
    Agrees rules r (r.archived rules) := by
  have hSteps : List.Forall₂ StepAgrees r.forecasts (r.archived rules).forecasts := by
    change List.Forall₂ StepAgrees r.forecasts ((r.forecasts.map ForecastStep.ordered).map ForecastStep.normal)
    rw [List.map_map, List.forall₂_map_right_iff, List.forall₂_same]
    exact fun s _ => ⟨rfl, (toInstant_utc s.targetTime).symm, ((sortOn_perm s.intervals).map _).symm⟩
  have hHash : (hashDigits r.provenance.featureSetHash).map Char.toLower =
      (hashDigits (rules.nfc (featureHash r.provenance.featureSetHash))).map Char.toLower := by
    rw [nfc_featureHash rules h, ← featureHash_inj, featureHash_featureHash h]
  exact {
    asOf := (toInstant_utc r.asOf).symm
    symbol := (rules.idempotent r.symbol).symm
    target := rfl
    currency := by
      change r.currency.map rules.nfc = (r.currency.map rules.nfc).map rules.nfc
      simp [rules.idempotent, Function.comp_def]
    horizon := rfl
    horizonUnit := rfl
    seriesBasis := rfl
    snapshotId := (rules.idempotent r.provenance.snapshotId).symm
    modelVersion := (rules.idempotent r.provenance.modelVersion).symm
    codeVersion := by
      change r.provenance.codeVersion.map rules.nfc = (r.provenance.codeVersion.map rules.nfc).map rules.nfc
      simp [rules.idempotent, Function.comp_def]
    hash := hHash
    status := rfl
    maxAvailableAt := (toInstant_utc r.provenance.maxAvailableAt).symm
    steps := hSteps
    calibrationSetVersion := (rules.idempotent r.calibration.calibrationSetVersion).symm
    method := rfl
    windowStart := rfl
    windowEnd := rfl
    sampleCount := rfl
    rows := ((sortOn_perm r.calibration.byInterval).map IntervalCalibration.counts).symm }

/-! ## Replays -/

/-- The texts that a row repeats are in normal form. -/
structure HeadersNormal (rules : TextRules) (r : ForecastResponse) : Prop where
  snapshot : rules.nfc r.provenance.snapshotId = r.provenance.snapshotId
  model : rules.nfc r.provenance.modelVersion = r.provenance.modelVersion
  code : r.provenance.codeVersion.map rules.nfc = r.provenance.codeVersion
  calibration : rules.nfc r.calibration.calibrationSetVersion = r.calibration.calibrationSetVersion

/-- The headers of the archived form are those of its response when their texts are in normal form. -/
theorem runHeaders_archived {context : OpportunityContext} {opportunity : String} {r : ForecastResponse}
    {headers : RunHeaders} (hash : IsFeatureHash r.provenance.featureSetHash)
    (symbol : rules.nfc r.symbol = r.symbol) (h : runHeaders context opportunity r = .ok headers) :
    runHeaders context opportunity (r.archived rules) = .ok headers ↔ HeadersNormal rules r := by
  simp only [runHeaders, bind_eq_ok_iff, pure_eq_ok, Except.ok.injEq] at h
  obtain ⟨asOf, hAsOf, available, hAvailable, generated, hGenerated, rfl⟩ := h
  have hMark : markedFeatureHash (rules.nfc (featureHash r.provenance.featureSetHash)) =
      markedFeatureHash r.provenance.featureSetHash := markedFeatureHash_archived hash
  simp only [runHeaders, ForecastResponse.archived, ForecastResponse.normal, ForecastResponse.ordered,
    ForecastProvenance.normal, ForecastProvenance.ordered, ForecastCalibration.normal,
    ForecastCalibration.ordered, asUtc_utc, hAsOf, hAvailable, hGenerated, ok_bind, pure_eq_ok, Except.ok.injEq,
    RunHeaders.mk.injEq, true_and, and_true, hMark, symbol]
  constructor
  · rintro ⟨hSnapshot, hModel, hCode, hCalibration⟩
    exact ⟨hSnapshot, hModel, hCode, hCalibration⟩
  · intro hNormal
    exact ⟨hNormal.snapshot, hNormal.model, hNormal.code, hNormal.calibration⟩

theorem runHeaders_context {context : OpportunityContext} {opportunity : String} {r : ForecastResponse}
    {headers : RunHeaders} (h : runHeaders context opportunity r = .ok headers) :
    headers.resolutionPolicyHash = context.resolutionPolicyHash ∧
      headers.availabilityRuleSetHash = context.availabilityRuleSetHash := by
  simp only [runHeaders, bind_eq_ok_iff, pure_eq_ok, Except.ok.injEq] at h
  obtain ⟨asOf, -, available, -, generated, -, rfl⟩ := h
  exact ⟨rfl, rfl⟩

theorem opportunityHash_archived {r : ForecastResponse} (sound : SoundResponse rules r)
    (archived : SoundResponse rules (r.archived rules)) {context : OpportunityContext} {hash : String}
    (h : opportunityHash rules floats sha256 r context = .ok hash) :
    opportunityHash rules floats sha256 (r.archived rules) context = .ok hash := by
  rw [opportunityHash, bind_eq_ok_iff] at h ⊢
  obtain ⟨m, hManifest, hValue⟩ := h
  exact ⟨m, (agrees_archived sound.provenance.hash).manifest sound archived hManifest, hValue⟩

/-- What a row holds: the bytes of its request and of its response, and the headers of the response. -/
theorem runRow_eq_ok {store : RunStore} {b : Bytes} {identity : String} {retry : Option String}
    {r : ForecastResponse} {row : ForecastRun}
    (h : runRow rules floats coercions sha256 store b identity retry r = .ok row) :
    ∃ q, parseRequest rules floats coercions b = .ok q ∧ validateRequestResponse q r = .ok ⟨⟩ ∧
      canonicalOutput rules floats r = .ok row.canonicalOutput ∧
      opportunityHash rules floats sha256 r store.context = .ok row.opportunityHash ∧
      outputHash rules floats coercions sha256 row.canonicalOutput = .ok row.outputHash ∧
      runHeaders store.context row.opportunityHash r = .ok row.toRunHeaders ∧
      row.context = store.context ∧ row.requestHash = identity ∧ row.canonicalRequest = b := by
  simp only [runRow, bind_eq_ok_iff, mapError_eq_ok_iff, pure_eq_ok, Except.ok.injEq] at h
  obtain ⟨q, hParse, ⟨⟩, hAnswers, bytes, hBytes, opportunity, hOpportunity, output, hOutput, headers, hHeaders,
    rfl⟩ := h
  obtain ⟨hPolicy, hRules⟩ := runHeaders_context hHeaders
  have hSame : headers.opportunityHash = opportunity := by
    simp only [runHeaders, bind_eq_ok_iff, pure_eq_ok, Except.ok.injEq] at hHeaders
    obtain ⟨asOf, -, available, -, generated, -, rfl⟩ := hHeaders
    rfl
  refine ⟨q, hParse, hAnswers, hBytes, ?_, hOutput, ?_, ?_, rfl, rfl⟩
  · exact hOpportunity.trans (congrArg Except.ok hSame.symm)
  · exact hSame.symm ▸ hHeaders
  · rw [ForecastRun.context, RunStore.context]
    dsimp only
    rw [hPolicy, hRules, RunStore.context]

/-- A stored row is replayed, as what its bytes are read back as, exactly when its headers are in normal form. -/
theorem replay_runRow (reads : ReadsBack floats) {store : RunStore} {request : ForecastRequest} {b : Bytes}
    {identity : String} {retry : Option String} {r s : ForecastResponse} {row : ForecastRun}
    (hBytes : canonicalRequest rules floats request = .ok b)
    (hIdentity : requestHash rules floats coercions sha256 b = .ok identity) (sound : SoundResponse rules r)
    (hRow : runRow rules floats coercions sha256 store b identity retry r = .ok row) :
    replay rules floats coercions sha256 row b identity = .ok s ↔
      HeadersNormal rules r ∧ s = r.archived rules := by
  obtain ⟨q, hParse, hAnswers, hOutput, hOpportunity, hHash, hHeaders, hContext, hRequest, hPayload⟩ :=
    runRow_eq_ok hRow
  obtain ⟨⟨parsed, hParsed⟩, hOutputHash⟩ := outputHash_eq_ok_iff.mp hHash
  obtain ⟨⟨hFits, -⟩, rfl⟩ := (parsed_output reads sound hOutput).mp hParsed
  obtain ⟨hSound, hNormal⟩ := parsed_request reads hBytes hParse
  have hSymbol : rules.nfc r.symbol = r.symbol := by
    simp only [validateRequestResponse, unit_bind_eq_ok_iff, refuseIf_eq_ok_iff, not_or, not_not] at hAnswers
    rw [hAnswers.1.1, hSound.nfc_symbol]
  have hAgain := validateRequestResponse_archived hSound hNormal hAnswers
  have hArchived := opportunityHash_archived sound (sound.archived hFits) hOpportunity
  have hCheck : validateHeaders rules floats sha256 row (r.archived rules) = .ok ⟨⟩ ↔ HeadersNormal rules r := by
    rw [validateHeaders, hContext, hArchived, Except.mapError, ok_bind, ← runHeaders_archived
      sound.provenance.hash hSymbol hHeaders, bind_eq_ok_iff]
    simp only [refuseIf_eq_ok_iff, ne_eq, not_not]
    constructor
    · rintro ⟨_, hExpected, rfl⟩
      exact hExpected
    · intro hExpected
      exact ⟨_, hExpected, rfl⟩
  rw [replay, refuseIf_of_not (not_not.mpr hRequest), ok_bind, mapError_eq_ok_iff, replayEvidence, hPayload,
    refuseIf_of_not (not_not.mpr rfl), ok_bind, hIdentity, Except.mapError, ok_bind,
    refuseIf_of_not (not_not.mpr hRequest.symm), ok_bind, hParse, Except.mapError, ok_bind, ok_bind,
    refuseIf_of_not (not_not.mpr rfl), ok_bind, hParsed, Except.mapError, ok_bind, hHash, Except.mapError, ok_bind,
    refuseIf_of_not (not_not.mpr rfl), ok_bind, hAgain, ok_bind, unit_bind_eq_ok_iff, hCheck, pure_eq_ok,
    Except.ok.injEq, eq_comm (a := s)]

/-- Of a response that is stamped only the invariants are in doubt. -/
theorem validateResponse_stamped {r : ForecastResponse} (sound : SoundResponse rules r) (completed : Instant) :
    validateResponse rules (r.stamped completed) =
      validateInvariants (r.stamped completed) >>= fun _ => .ok (r.stamped completed) := by
  have hAware : completed.inUtc.offset ≠ none := by simp [Instant.inUtc]
  have hLookahead : SoundLookahead rules (r.stamped completed).provenance.lookaheadCheck :=
    { sound.provenance.lookahead with checked := hAware }
  have hProvenance : SoundProvenance rules (r.stamped completed).provenance :=
    { sound.provenance with generated := hAware, lookahead := hLookahead }
  have hSteps : (r.stamped completed).forecasts.mapM (validateStep rules) = .ok r.forecasts :=
    mapM_self fun s hMem => (sound.steps s hMem).validate
  exact validateResponse_of_parts sound.symbolStripped sound.symbolUpper sound.horizon sound.time sound.currency
    sound.someStep hSteps hProvenance sound.calibration sound.disclaimer

theorem withDatabaseCompletionTime_eq_ok {r f : ForecastResponse} {t : ParsedDateTime}
    (sound : SoundResponse rules r) (h : withDatabaseCompletionTime rules r t = .ok f) :
    SoundResponse rules f ∧ ∃ completed, f = r.stamped completed := by
  simp only [withDatabaseCompletionTime, bind_eq_ok_iff, refuseIf_eq_ok_iff, exists_const] at h
  obtain ⟨completed, -, asOf, -, -, available, -, -, h⟩ := h
  rw [mapError_eq_ok_iff] at h
  refine ⟨validateResponse_sound h, completed, ?_⟩
  rw [validateResponse_stamped sound, unit_bind_eq_ok_iff] at h
  exact (Except.ok.inj h.2).symm

end Laws

end StockApi.Forecasts

import StockApi.Snapshots.RoundTrip

/-!
# Resolving a request from a stored record

`validate_and_resolve_snapshot` takes a row as it was read, whoever wrote it. What it returns holds
nothing from after the cutoff, and a proof of availability only when the caller trusts its rules.
-/

namespace StockApi.Snapshots

open Checked CivilTime Documents Groups Text

section Map

variable {σ τ : Type} (f : σ → τ)

def ForecastInputSnapshotRecord.map (r : ForecastInputSnapshotRecord σ) :
    ForecastInputSnapshotRecord τ where
  toSnapshotTerms := r.toSnapshotTerms
  snapshotId := r.snapshotId
  asOf := f r.asOf
  sealedAt := f r.sealedAt
  observationCount := r.observationCount
  targetTimeCount := r.targetTimeCount
  firstObservedAt := f r.firstObservedAt
  lastObservedAt := f r.lastObservedAt
  maxAvailableAt := f r.maxAvailableAt
  availabilityStatus := r.availabilityStatus
  availabilityRuleSetHash := r.availabilityRuleSetHash
  availabilityCheckedAt := r.availabilityCheckedAt.map f
  canonicalPayload := r.canonicalPayload

end Map

/-- The fields of a validated request that the resolver reads. -/
structure ForecastRequest where
  symbol : String
  horizon : Nat
  horizonUnit : String
  target : String
  asOf : Option ParsedDateTime
  snapshotId : Option String
  horizonRange : 1 ≤ horizon ∧ horizon ≤ 252

/-- The keyword arguments of `validate_and_resolve_snapshot`. -/
structure SnapshotExpectation where
  seriesBasis : String
  resolutionPolicyHash : String
  inputTimespan : String
  inputMultiplier : Int
  trustedAvailabilityRuleSetHash : Option String

structure ResolvedForecastInput where
  symbol : String
  target : String
  horizonUnit : String
  seriesBasis : String
  snapshotId : String
  asOf : Instant
  observations : List (SnapshotObservation Instant)
  targetTimes : List Instant
  dataSources : List (SnapshotSourceLineage Instant)
  currency : Option String
  availabilityVerified : Bool

/-- The checks of the arguments before the record is read. -/
def checkExpectation (e : SnapshotExpectation) : Except String PUnit := do
  hash e.resolutionPolicyHash "expected_resolution_policy_hash"
  refuseIf (e.seriesBasis ∉ seriesBases) "expected_series_basis is not supported"
  refuseIf (e.inputTimespan ∉ inputTimespans) "expected_input_timespan is not supported"
  positiveInteger e.inputMultiplier "expected_input_multiplier"
  match e.trustedAvailabilityRuleSetHash with
  | none => return ⟨⟩
  | some trusted => hash trusted "trusted_availability_rule_set_hash"

/-- The binding to the request's snapshot or to its cutoff. -/
def checkPinned (request : ForecastRequest) (snapshotId : String) (asOf : Instant) :
    Except String PUnit :=
  match request.snapshotId, request.asOf with
  | some pinned, _ =>
    refuseIf (pinned ≠ snapshotId) "pinned snapshot_id does not match the loaded record"
  | none, some cutoff => do
    let cutoff ← orRefuse cutoff.toInstant "date value out of range"
    refuseIf (cutoff < asOf) "snapshot is later than the requested as_of cutoff"
  | none, none => return ⟨⟩

/-- The comparison of the payload with the expectation and the request. -/
def checkBinding (e : SnapshotExpectation) (request : ForecastRequest) (snapshotId : String)
    (payload : ForecastInputSnapshotPayload Instant) : Except String PUnit := do
  refuseIf (payload.resolutionPolicyHash ≠ e.resolutionPolicyHash)
    "snapshot resolution policy does not match"
  refuseIf (payload.seriesBasis ≠ e.seriesBasis) "snapshot series basis does not match"
  refuseIf (payload.inputTimespan ≠ e.inputTimespan) "snapshot input_timespan does not match"
  refuseIf (payload.inputMultiplier ≠ e.inputMultiplier) "snapshot input_multiplier does not match"
  refuseIf (payload.symbol ≠ request.symbol) "snapshot symbol does not match the request"
  refuseIf (payload.target ≠ request.target) "snapshot target does not match the request"
  refuseIf (payload.horizonUnit ≠ request.horizonUnit)
    "snapshot horizon unit does not match the request"
  checkPinned request snapshotId payload.asOf
  refuseIf (payload.targetTimes.length < request.horizon)
    "snapshot does not contain the requested target horizon"

/-- The test behind `availability_verified`. -/
def availabilityVerified (availability : SnapshotAvailabilityEvidence Instant)
    (trusted : Option String) : Bool :=
  availability.status = "passed" && trusted.isSome && availability.ruleSetHash.isSome &&
    availability.ruleSetHash = trusted

section Resolve

variable (form : NormalForm) (floats : FloatText) (sha256 : Bytes → String)

/-- The part of `validate_and_resolve_snapshot` that reads the record. -/
def validateRecord (record : ForecastInputSnapshotRecord ParsedDateTime) :
    Except String (ForecastInputSnapshotPayload Instant) := do
  let payload ← parseSnapshotPayload form floats record.canonicalPayload
  let canonical ← canonicalSnapshotPayload form floats payload.inUtc
  refuseIf (canonical ≠ record.canonicalPayload) "canonical_payload bytes are not canonical"
  hash record.snapshotId "snapshot_id"
  let actualSnapshotId ← snapshotIdForPayload sha256 record.canonicalPayload
  refuseIf (record.snapshotId ≠ actualSnapshotId) "snapshot_id does not match canonical_payload"
  let expectedRecord ← buildSnapshotRecord form floats sha256 payload.inUtc record.sealedAt
  refuseIf (record.map ParsedDateTime.toInstant ≠ expectedRecord.map some)
    "snapshot header does not match canonical_payload"
  return payload

def validateAndResolveSnapshot (record : ForecastInputSnapshotRecord ParsedDateTime)
    (request : ForecastRequest) (expected : SnapshotExpectation) :
    Except String ResolvedForecastInput := do
  checkExpectation expected
  let payload ← validateRecord form floats sha256 record
  checkBinding expected request record.snapshotId payload
  return {
    symbol := payload.symbol
    target := payload.target
    horizonUnit := payload.horizonUnit
    seriesBasis := payload.seriesBasis
    snapshotId := record.snapshotId
    asOf := payload.asOf
    observations := payload.observations
    targetTimes := payload.targetTimes.take request.horizon
    dataSources := payload.dataSources
    currency := payload.currency
    availabilityVerified :=
      availabilityVerified payload.availability expected.trustedAvailabilityRuleSetHash }

end Resolve

/-! ## What is returned -/

/-- Nothing in the input is from after its cutoff. -/
structure NoLookAhead (horizon : Nat) (r : ResolvedForecastInput) : Prop where
  observationsAscend : r.observations.Pairwise fun a b => a.observedAt < b.observedAt
  observationsAvailable : ∀ o ∈ r.observations, o.observedAt ≤ o.availableAt ∧ o.availableAt ≤ r.asOf
  sourcesAvailable : ∀ s ∈ r.dataSources, s.maxAvailableAt ≤ r.asOf
  targetsAscend : r.targetTimes.Pairwise (· < ·)
  targetsLater : ∀ t ∈ r.targetTimes, r.asOf < t
  targetCount : r.targetTimes.length = horizon

/-- The record holds what its bytes say. -/
structure HeaderDerived (form : NormalForm) (floats : FloatText) (sha256 : Bytes → String)
    (record : ForecastInputSnapshotRecord ParsedDateTime)
    (payload : ForecastInputSnapshotPayload Instant) : Prop where
  parsed : parseSnapshotPayload form floats record.canonicalPayload = .ok payload
  header : ∃ derived, buildSnapshotRecord form floats sha256 payload.inUtc record.sealedAt = .ok derived ∧
    Describes sha256 payload derived ∧ record.map ParsedDateTime.toInstant = derived.map some
  identity : record.snapshotId = "sha256:" ++ sha256 record.canonicalPayload

/-- The input is the one that was asked for. -/
structure AnswersRequest (request : ForecastRequest) (expected : SnapshotExpectation)
    (r : ResolvedForecastInput) : Prop where
  symbol : r.symbol = request.symbol
  target : r.target = request.target
  horizonUnit : r.horizonUnit = request.horizonUnit
  seriesBasis : r.seriesBasis = expected.seriesBasis
  pinned : ∀ s ∈ request.snapshotId, r.snapshotId = s
  cutoff : request.snapshotId = none → ∀ c ∈ request.asOf, ∃ t, c.toInstant = some t ∧ r.asOf ≤ t

/-- A proof that the caller trusts and that is as late as everything it covers. -/
def AvailabilityProved (payload : ForecastInputSnapshotPayload Instant) (trusted : Option String) :
    Prop :=
  payload.availability.status = "passed" ∧
    (∃ rules, trusted = some rules ∧ payload.availability.ruleSetHash = some rules) ∧
    ∃ checkedAt, payload.availability.checkedAt = some checkedAt ∧ payload.asOf ≤ checkedAt ∧
      (∀ o ∈ payload.observations, o.availableAt ≤ checkedAt) ∧
      ∀ s ∈ payload.dataSources, s.maxAvailableAt ≤ checkedAt

section Sound

variable {form : NormalForm} {floats : FloatText} {sha256 : Bytes → String}

/-- Everything available is available by the latest of the availability times. -/
theorem le_maxAvailableAt {observations : List (SnapshotObservation Instant)}
    {sources : List (SnapshotSourceLineage Instant)} {latest : Instant}
    (h : maxAvailableAt observations sources = some latest) :
    (∀ o ∈ observations, o.availableAt ≤ latest) ∧ ∀ s ∈ sources, s.maxAvailableAt ≤ latest := by
  have hLatest := (List.max?_eq_some_iff.mp h).2
  constructor
  · exact fun o hMem => hLatest _ (List.mem_append_left _ (List.mem_map_of_mem hMem))
  · exact fun s hMem => hLatest _ (List.mem_append_right _ (List.mem_map_of_mem hMem))

theorem Normalizes.source_cutoff {p : ForecastInputSnapshotPayload ParsedDateTime}
    {q : ForecastInputSnapshotPayload Instant} (h : Normalizes form p q) :
    ∀ s ∈ q.dataSources, s.maxAvailableAt ≤ q.asOf :=
  h.sourced.cutoff

theorem availabilityProved_of_verified {p : ForecastInputSnapshotPayload ParsedDateTime}
    {q : ForecastInputSnapshotPayload Instant} (h : Normalizes form p q) {trusted : Option String}
    (verified : availabilityVerified q.availability trusted = true) : AvailabilityProved q trusted := by
  simp only [availabilityVerified, Bool.and_eq_true, decide_eq_true_eq] at verified
  obtain ⟨⟨⟨hStatus, hTrusted⟩, -⟩, hSame⟩ := verified
  obtain ⟨rules, hRules⟩ := Option.isSome_iff_exists.mp hTrusted
  have hValid := h.provedValid
  rw [AvailabilityProved]
  generalize q.availability = a at hStatus hSame hValid ⊢
  cases hValid with
  | notRun => exact absurd hStatus (by decide)
  | passed isHash isLatest covers =>
    obtain ⟨hObservations, hSources⟩ := le_maxAvailableAt isLatest
    have hLatest := (le_max_left _ _).trans covers
    exact ⟨rfl, ⟨rules, hRules, hSame.trans hRules⟩, _, rfl, (le_max_right _ _).trans covers,
      fun o hMem => (hObservations o hMem).trans hLatest,
      fun s hMem => (hSources s hMem).trans hLatest⟩

/-- What the checks of the record establish. -/
theorem validateRecord_eq_ok {record : ForecastInputSnapshotRecord ParsedDateTime}
    {payload : ForecastInputSnapshotPayload Instant}
    (h : validateRecord form floats sha256 record = .ok payload) :
    HeaderDerived form floats sha256 record payload ∧ ∃ p, Normalizes form p payload := by
  rw [validateRecord, bind_eq_ok_iff] at h
  obtain ⟨parsed, hParsed, h⟩ := h
  rw [bind_eq_ok_iff] at h
  obtain ⟨canonical, -, h⟩ := h
  rw [refuseIf_bind_eq_ok_iff, hash_bind_eq_ok_iff, bind_eq_ok_iff] at h
  obtain ⟨-, -, actual, hActual, h⟩ := h
  rw [refuseIf_bind_eq_ok_iff, not_not, bind_eq_ok_iff] at h
  obtain ⟨hId, derived, hDerived, h⟩ := h
  rw [refuseIf_bind_eq_ok_iff, not_not, pure_eq_ok] at h
  obtain ⟨hHeader, h⟩ := h
  cases h
  rw [snapshotIdForPayload, refuseIf_bind_eq_ok_iff, pure_eq_ok] at hActual
  have hIdentity := Except.ok.inj hActual.2
  obtain ⟨q, hNormal, -, -, -, -, hDescribes⟩ := buildSnapshotRecord_eq_ok_iff.mp hDerived
  have hNormalParsed : ∃ p, Normalizes form p payload := by
    rw [parseSnapshotPayload, refuseIf_bind_eq_ok_iff, bind_eq_ok_iff] at hParsed
    obtain ⟨-, document, -, hParsed⟩ := hParsed
    rw [bind_eq_ok_iff] at hParsed
    obtain ⟨read, -, hParsed⟩ := hParsed
    exact ⟨read.inUtc, normalizedPayload_eq_ok_iff.mp hParsed⟩
  obtain ⟨p, hp⟩ := hNormalParsed
  rw [(hp.again_iff.mp hNormal).2] at hDescribes
  exact ⟨⟨hParsed, ⟨derived, hDerived, hDescribes, hHeader⟩, hId.trans hIdentity.symm⟩, p, hp⟩

theorem checkPinned_eq_ok {request : ForecastRequest} {snapshotId : String} {asOf : Instant}
    (h : checkPinned request snapshotId asOf = .ok ⟨⟩) :
    (∀ s ∈ request.snapshotId, snapshotId = s) ∧
      (request.snapshotId = none → ∀ c ∈ request.asOf, ∃ t, c.toInstant = some t ∧ asOf ≤ t) := by
  rw [checkPinned] at h
  split at h
  · rename_i pinned _ hPinned
    rw [refuseIf_eq_ok_iff, not_not] at h
    rw [hPinned]
    simp [h]
  · rename_i cutoff hNone hCutoff
    rw [orRefuse_bind_eq_ok_iff] at h
    obtain ⟨t, hInstant, h⟩ := h
    rw [refuseIf_eq_ok_iff, not_lt] at h
    rw [hNone, hCutoff]
    simp [hInstant, h]
  · rename_i hNone hCutoff
    rw [hNone, hCutoff]
    simp

/-- Whatever the row holds, a resolved input has no look-ahead. -/
theorem resolved_without_look_ahead (form : NormalForm) (floats : FloatText) (sha256 : Bytes → String)
    (record : ForecastInputSnapshotRecord ParsedDateTime) (request : ForecastRequest)
    (expected : SnapshotExpectation) (resolved : ResolvedForecastInput)
    (returns : validateAndResolveSnapshot form floats sha256 record request expected = .ok resolved) :
    NoLookAhead request.horizon resolved ∧ AnswersRequest request expected resolved ∧
      ∃ payload, HeaderDerived form floats sha256 record payload ∧
        (resolved.availabilityVerified = true →
          AvailabilityProved payload expected.trustedAvailabilityRuleSetHash) ∧
        resolved.snapshotId = record.snapshotId ∧ resolved.asOf = payload.asOf ∧
        resolved.observations = payload.observations ∧ resolved.dataSources = payload.dataSources := by
  rw [validateAndResolveSnapshot, unit_bind_eq_ok_iff, bind_eq_ok_iff] at returns
  obtain ⟨-, payload, hRecord, h⟩ := returns
  obtain ⟨hHeader, p, hNormal⟩ := validateRecord_eq_ok hRecord
  rw [unit_bind_eq_ok_iff, checkBinding] at h
  obtain ⟨hBinding, h⟩ := h
  rw [refuseIf_bind_eq_ok_iff, refuseIf_bind_eq_ok_iff, refuseIf_bind_eq_ok_iff,
    refuseIf_bind_eq_ok_iff, refuseIf_bind_eq_ok_iff, refuseIf_bind_eq_ok_iff,
    refuseIf_bind_eq_ok_iff, unit_bind_eq_ok_iff, refuseIf_eq_ok_iff] at hBinding
  simp only [not_not, not_lt] at hBinding
  obtain ⟨-, hBasis, -, -, hSymbol, hTarget, hUnit, hPinned, hHorizon⟩ := hBinding
  obtain ⟨hPin, hCutoff⟩ := checkPinned_eq_ok hPinned
  cases h
  refine ⟨?_, ⟨hSymbol, hTarget, hUnit, hBasis, hPin, hCutoff⟩, payload, hHeader,
    availabilityProved_of_verified hNormal, rfl, rfl, rfl, rfl⟩
  exact {
    observationsAscend := hNormal.observedValid.ascending
    observationsAvailable := fun o hMem =>
      ⟨(hNormal.observedValid.admissible o hMem).available,
        (hNormal.observedValid.admissible o hMem).cutoff⟩
    sourcesAvailable := hNormal.source_cutoff
    targetsAscend := hNormal.targetedValid.ascending.sublist (List.take_sublist _ _)
    targetsLater := fun t hMem => hNormal.targetedValid.later t (List.mem_of_mem_take hMem)
    targetCount := by
      rw [List.length_take]
      exact min_eq_left hHorizon }

/-- A record as it was built passes the checks of its bytes and header. -/
theorem validateRecord_of_built {p : ForecastInputSnapshotPayload ParsedDateTime}
    {sealedAt : ParsedDateTime} {record : ForecastInputSnapshotRecord Instant}
    (built : buildSnapshotRecord form floats sha256 p sealedAt = .ok record)
    (isHash : IsHash record.snapshotId) :
    ∃ q, Normalizes form p q ∧ validateRecord form floats sha256 (record.map Instant.inUtc) = .ok q := by
  obtain ⟨q, hNormal, hParsed, hBytes, hAgain⟩ := record_round_trip built
  obtain ⟨q', hNormal', -, hCutoff, hChecked, hCanonical, hDescribes⟩ :=
    buildSnapshotRecord_eq_ok_iff.mp hAgain
  have hBuilt : buildSnapshotRecord form floats sha256 q.inUtc record.sealedAt.inUtc = .ok record :=
    buildSnapshotRecord_eq_ok_iff.mpr
      ⟨q', hNormal', Instant.toInstant_inUtc _, hCutoff, hChecked, hCanonical, hDescribes⟩
  have hHeader : (record.map Instant.inUtc).map ParsedDateTime.toInstant = record.map some := by
    simp only [ForecastInputSnapshotRecord.map, Instant.toInstant_inUtc, Option.map_map,
      Function.comp_def]
  obtain ⟨_, -, hDumps, hSize⟩ := canonicalSnapshotPayload_eq_ok_iff.mp hBytes
  have hBounds : ¬ (record.canonicalPayload = [] ∨
      maxPayloadBytes < record.canonicalPayload.length) := by
    refine not_or.mpr ⟨?_, Nat.not_lt.mpr hSize⟩
    rw [hDumps]
    exact dumps_ne_nil _ _
  have hId : snapshotIdForPayload sha256 record.canonicalPayload = .ok record.snapshotId := by
    rw [snapshotIdForPayload, refuseIf_of_not hBounds, ok_bind, pure_eq_ok, hDescribes.snapshotId]
  refine ⟨q, normalizedPayload_eq_ok_iff.mp hNormal, ?_⟩
  have hParsedRow : parseSnapshotPayload form floats (record.map Instant.inUtc).canonicalPayload =
      .ok q := hParsed
  have hSealedRow : (record.map Instant.inUtc).sealedAt = record.sealedAt.inUtc := rfl
  have hBytesRow : (record.map Instant.inUtc).canonicalPayload = record.canonicalPayload := rfl
  have hIdRow : (record.map Instant.inUtc).snapshotId = record.snapshotId := rfl
  rw [validateRecord, hParsedRow, ok_bind, hBytes, ok_bind, hBytesRow, hIdRow,
    refuseIf_of_not (not_not.mpr rfl), ok_bind, hash_bind_eq_ok_iff]
  refine ⟨isHash, ?_⟩
  rw [hId, ok_bind, refuseIf_of_not (not_not.mpr rfl), ok_bind, hSealedRow, hBuilt, ok_bind,
    refuseIf_of_not (not_not.mpr hHeader), ok_bind, pure_eq_ok]

end Sound

/-! ### A sample -/

def sampleRequest : ForecastRequest := ⟨"SPY", 2, "trading_day", "return", none, none, by decide⟩

def sampleExpectation : SnapshotExpectation := ⟨"raw", sampleHash, "day", 1, some sampleHash⟩

theorem sampleRecord_resolves : ∃ resolved, validateAndResolveSnapshot plainForm plainFloats
    sampleDigits (sampleRecord.map Instant.inUtc) sampleRequest sampleExpectation = .ok resolved ∧
      resolved.availabilityVerified = true := by
  have hHash : IsHash sampleRecord.snapshotId := isHash_append (by simp) (by decide)
  obtain ⟨q, hNormal, hRecord⟩ := validateRecord_of_built (sampleRecord_built oneLine_normalize) hHash
  have hSample : q = sampleNormal [oneLine] :=
    hNormal.unique (sample_normalizes oneLine_normalize)
  have hExpectation : checkExpectation sampleExpectation = .ok ⟨⟩ := by
    rw [checkExpectation, hash_bind_eq_ok_iff]
    refine ⟨sampleTerms_valid.policyHash, ?_⟩
    have hTrusted : hash sampleHash "trusted_availability_rule_set_hash" = .ok ⟨⟩ := by
      rw [hash, refuseIf_eq_ok_iff, not_not]
      exact sampleTerms_valid.policyHash
    simp [sampleExpectation, seriesBases, inputTimespans, positiveInteger, refuseIf]
    exact hTrusted
  rw [hSample] at hRecord
  have hBinding : checkBinding sampleExpectation sampleRequest
      (sampleRecord.map Instant.inUtc).snapshotId (sampleNormal [oneLine]) = .ok ⟨⟩ := by
    simp [checkBinding, checkPinned, sampleExpectation, sampleRequest, sampleNormal, sampleTerms,
      refuseIf]
  have hVerified : availabilityVerified (sampleNormal [oneLine]).availability
      sampleExpectation.trustedAvailabilityRuleSetHash = true := by
    simp [availabilityVerified, sampleNormal, sampleExpectation]
  rw [validateAndResolveSnapshot, hExpectation, ok_bind, hRecord, ok_bind, hBinding, ok_bind]
  exact ⟨_, rfl, hVerified⟩

/-- Two observations and two targets, and a rule set that the caller trusts. -/
theorem resolved_without_look_ahead_sample : ∃ resolved payload,
    validateAndResolveSnapshot plainForm plainFloats sampleDigits (sampleRecord.map Instant.inUtc)
        sampleRequest sampleExpectation = .ok resolved ∧ NoLookAhead 2 resolved ∧
      AvailabilityProved payload (some sampleHash) ∧ resolved.observations = payload.observations := by
  obtain ⟨resolved, hReturns, hVerified⟩ := sampleRecord_resolves
  obtain ⟨hHonest, -, payload, -, hProved, -, -, hObservations, -⟩ :=
    resolved_without_look_ahead plainForm plainFloats sampleDigits _ sampleRequest sampleExpectation resolved hReturns
  exact ⟨resolved, payload, hReturns, hHonest, hProved hVerified, hObservations⟩

end StockApi.Snapshots

import StockApi.Baselines.Contract
import StockApi.Serving.Service

/-!
# What an answer is

A row that the resolver lets through passes every check of the assembly: `_validated_inputs` repeats what
sealing has established. So a request is answered exactly when its row is served and the baseline can be
computed, and the answer is made from nothing but that row.
-/

namespace StockApi.Serving

open Checked CivilTime Documents Groups Text
open Baselines (AssembledResponse AssemblyError Baseline Fitted ForecastRunIdentity ValidatedInputs
  assembleBaselineForecastResponse requestedCoverages requestedQuantileLevels responseValue stepOf validatedInputs)
open Forecasts (DataSourceLineage Literal SoundSource TextRules)
open Snapshots (AvailabilityProved ForecastInputSnapshot ForecastInputSnapshotPayload ForecastInputSnapshotRecord
  Normalizes SnapshotSourceLineage checkBinding checkExpectation sourceLine validateAndResolveSnapshot
  validateRecord)

/-! ## Texts -/

theorem isSpace_of_hexChar {c : Char} (h : hexChar c = true) : isSpace c = false := by
  simp only [hexChar, Bool.or_eq_true, Bool.and_eq_true, decide_eq_true_eq, Char.le_def, UInt32.le_iff_toNat_le] at h
  simp only [isSpace, Bool.or_eq_false_iff, Bool.and_eq_false_iff, decide_eq_false_iff_not]
  simp only [Char.toNat, Char.reduceVal, UInt32.reduceToNat] at h ⊢
  omega

theorem trimmed_of_isHash {s : String} (h : IsHash s) : Trimmed s := by
  obtain ⟨hMark, hLength, hDigits⟩ := h
  have hRest : s.toList.drop 7 ≠ [] := by
    rw [← List.length_pos_iff, List.length_drop, hLength]
    omega
  rw [Trimmed, ← List.take_append_drop 7 s.toList, hMark]
  constructor
  · intro c hFirst
    cases hFirst
    rfl
  · intro c hLast
    rw [List.getLast?_append_of_ne_nil _ hRest] at hLast
    exact isSpace_of_hexChar (List.all_eq_true.mp hDigits c (List.mem_of_getLast? hLast))

theorem isBounded_of_isText {rules : TextRules} {s : String} {most : Nat} (h : Snapshots.IsText most s) :
    Forecasts.IsBounded rules s 1 most := by
  obtain ⟨hNonempty, hTrimmed, hLength⟩ := h
  refine ⟨rules.strip_trimmed s hTrimmed, ?_, hLength⟩
  exact Nat.one_le_iff_ne_zero.mpr fun hZero => hNonempty (String.length_eq_zero_iff.mp hZero)

/-! ## Sources -/

def lineage (s : SnapshotSourceLineage Instant) : DataSourceLineage :=
  ⟨s.name, s.snapshotId, s.maxAvailableAt.inUtc, s.fields⟩

section Assembly

variable {rules : TextRules} {p : ForecastInputSnapshotPayload ParsedDateTime}
  {payload : ForecastInputSnapshotPayload Instant}

theorem asUtc_inUtc (t : Instant) (label : String) : Baselines.asUtc t.inUtc label = .ok t := by
  have hOffset : t.inUtc.offset ≠ none := Option.some_ne_none _
  rw [Baselines.asUtc, refuseIf_of_not hOffset, ok_bind, Instant.toInstant_inUtc, orRefuse_some]

theorem sourceItem_lineage (group : Snapshots.SourceKey × Finset String) :
    Baselines.sourceItem (lineage (sourceLine group)) = .ok group := by
  rw [Baselines.sourceItem, lineage, sourceLine]
  dsimp only
  rw [asUtc_inUtc, ok_bind, pure_eq_ok, Finset.sort_toFinset]

theorem canonicalDataSources_lineage (normal : Normalizes rules.toNormalForm p payload) :
    Baselines.canonicalDataSources rules (payload.dataSources.map lineage) =
      .ok (payload.dataSources.map fun s => (s.maxAvailableAt, lineage s)) := by
  obtain ⟨items, -, hValid, hLines⟩ := normal.sourced.merges
  have hItems : (payload.dataSources.map lineage).mapM Baselines.sourceItem = .ok (grouped items) := by
    apply mapM_of_forall₂
    rw [hLines, List.map_map, List.forall₂_map_left_iff, List.forall₂_same]
    exact fun group _ => sourceItem_lineage group
  rw [Baselines.canonicalDataSources, hItems, ok_bind, grouped_of_pairwise (grouped_pairwise items), hLines,
    List.map_map]
  apply mapM_of_forall₂
  rw [List.forall₂_map_right_iff, List.forall₂_same]
  intro group hGroup
  obtain ⟨hKey, hUnion⟩ := mem_grouped.mp hGroup
  obtain ⟨item, hItem, hSame⟩ := List.mem_map.mp hKey
  have hItemValid := hValid item hItem
  have hName : Snapshots.IsText 64 group.1.name := hSame ▸ hItemValid.nameText
  have hId : Snapshots.IsText 128 group.1.snapshotId := hSame ▸ hItemValid.idText
  have hSound : SoundSource rules (lineage (sourceLine group)) := by
    constructor
    · exact isBounded_of_isText hName
    · exact isBounded_of_isText hId
    · exact Option.some_ne_none _
    · intro f hField
      rw [lineage, sourceLine, Finset.mem_sort, hUnion, mem_union] at hField
      obtain ⟨other, hOther, -, hOtherField⟩ := hField
      exact (isBounded_of_isText ((hValid other hOther).fieldTexts f hOtherField)).1
  have hLine : Forecasts.validateSource rules ⟨group.1.name, group.1.snapshotId, group.1.maxAvailableAt.inUtc,
      group.2.sort (· ≤ ·)⟩ = .ok (lineage (sourceLine group)) := hSound.validate
  rw [Baselines.sourceLine, hLine]
  rfl

/-! ## Inputs -/

/-- The closing values, in the order of their sessions. -/
def values (payload : ForecastInputSnapshotPayload Instant) : List ℚ := payload.observations.map fun o => o.value.value

def inputsOf (payload : ForecastInputSnapshotPayload Instant) (horizon : Nat) (generatedAt : Instant) :
    ValidatedInputs where
  observations := payload.observations.map fun o => ⟨o.observedAt, o.availableAt, o.value.value⟩
  targetTimes := payload.targetTimes.take horizon
  dataSources := payload.dataSources.map fun s => (s.maxAvailableAt, lineage s)
  asOf := payload.asOf
  generatedAt := generatedAt

/-- What `checkBinding` compares. -/
structure Binds (service : SnapshotForecastService) (request : AcceptedRequest rules)
    (row : ForecastInputSnapshot) (payload : ForecastInputSnapshotPayload Instant) : Prop where
  policyHash : payload.resolutionPolicyHash = service.policy.resolutionPolicyHash
  basis : payload.seriesBasis = service.policy.seriesBasis
  timespan : payload.inputTimespan = service.policy.inputTimespan
  multiplier : payload.inputMultiplier = service.policy.inputMultiplier
  symbol : payload.symbol = request.symbol
  target : payload.target = Literal.text request.target
  horizonUnit : payload.horizonUnit = Literal.text request.horizonUnit
  pinned : ∀ s ∈ request.snapshotId, row.snapshotId = s
  cutoff : request.snapshotId = none → ∀ c ∈ request.asOf, ∃ t, c.toInstant = some t ∧ payload.asOf ≤ t
  horizon : request.horizon.toNat ≤ payload.targetTimes.length

/-! ### Binding -/

section Binding

variable {service : SnapshotForecastService} {request : AcceptedRequest rules} {row : ForecastInputSnapshot}

theorem checkPinned_eq_ok_iff {pinning : Snapshots.ForecastRequest} {snapshotId : String} {asOf : Instant} :
    Snapshots.checkPinned pinning snapshotId asOf = .ok ⟨⟩ ↔
      (∀ s ∈ pinning.snapshotId, snapshotId = s) ∧
        (pinning.snapshotId = none → ∀ c ∈ pinning.asOf, ∃ t, c.toInstant = some t ∧ asOf ≤ t) := by
  refine ⟨Snapshots.checkPinned_eq_ok, ?_⟩
  rintro ⟨hPinned, hCutoff⟩
  rw [Snapshots.checkPinned]
  split
  · rename_i pinned hSome
    exact refuseIf_of_not (not_not.mpr (hPinned pinned hSome).symm)
  · rename_i cutoff hNone hSome
    obtain ⟨t, hInstant, hLe⟩ := hCutoff hNone cutoff hSome
    rw [orRefuse_bind_eq_ok_iff]
    exact ⟨t, hInstant, refuseIf_of_not (not_lt.mpr hLe)⟩
  · rfl

theorem checkBinding_eq_ok_iff : checkBinding (service.expectation service.policy.seriesBasis)
    (SnapshotForecastService.resolverRequest request) row.snapshotId payload = .ok ⟨⟩ ↔
      Binds service request row payload := by
  rw [checkBinding, refuseIf_bind_eq_ok_iff, refuseIf_bind_eq_ok_iff, refuseIf_bind_eq_ok_iff,
    refuseIf_bind_eq_ok_iff, refuseIf_bind_eq_ok_iff, refuseIf_bind_eq_ok_iff, refuseIf_bind_eq_ok_iff,
    unit_bind_eq_ok_iff, refuseIf_eq_ok_iff, checkPinned_eq_ok_iff]
  simp only [not_not, not_lt]
  constructor
  · rintro ⟨hHash, hBasis, hTimespan, hMultiplier, hSymbol, hTarget, hUnit, ⟨hPinned, hCutoff⟩, hHorizon⟩
    exact ⟨hHash, hBasis, hTimespan, hMultiplier, hSymbol, hTarget, hUnit, hPinned, hCutoff, hHorizon⟩
  · intro h
    exact ⟨h.policyHash, h.basis, h.timespan, h.multiplier, h.symbol, h.target, h.horizonUnit,
      ⟨h.pinned, h.cutoff⟩, h.horizon⟩

/-- The expectation of a policy fails no check once a payload meets it. -/
theorem Binds.checkExpectation (binds : Binds service request row payload)
    (normal : Normalizes rules.toNormalForm p payload) :
    checkExpectation (service.expectation service.policy.seriesBasis) = .ok PUnit.unit.{1} := by
  have hBasis : service.policy.seriesBasis ∈ Snapshots.seriesBases := by
    rw [← binds.basis]
    exact normal.termsValid.isBasis
  have hTimespan : service.policy.inputTimespan ∈ Snapshots.inputTimespans := by
    rw [← binds.timespan]
    exact normal.termsValid.isTimespan
  have hMultiplier : 1 ≤ service.policy.inputMultiplier ∧ service.policy.inputMultiplier ≤ 10000 := by
    rw [← binds.multiplier]
    exact normal.termsValid.multiplierRange
  rw [Snapshots.checkExpectation, Snapshots.hash_bind_eq_ok_iff]
  refine ⟨service.policy.isHash, ?_⟩
  rw [refuseIf_bind_eq_ok_iff, not_not, refuseIf_bind_eq_ok_iff, not_not,
    Snapshots.positiveInteger_bind_eq_ok_iff]
  exact ⟨hBasis, hTimespan, hMultiplier, refuseIf_of_not (not_not.mpr service.policy.isTrustedHash)⟩

/-! ### The resolved input -/

def resolvedOf (request : AcceptedRequest rules) (row : ForecastInputSnapshot)
    (payload : ForecastInputSnapshotPayload Instant) : Snapshots.ResolvedForecastInput where
  symbol := payload.symbol
  target := payload.target
  horizonUnit := payload.horizonUnit
  seriesBasis := payload.seriesBasis
  snapshotId := row.snapshotId
  asOf := payload.asOf
  observations := payload.observations
  targetTimes := payload.targetTimes.take request.horizon.toNat
  dataSources := payload.dataSources
  currency := payload.currency
  availabilityVerified := true

theorem availabilityVerified_iff (normal : Normalizes rules.toNormalForm p payload) {trusted : String} :
    Snapshots.availabilityVerified payload.availability (some trusted) = true ↔
      AvailabilityProved payload (some trusted) := by
  refine ⟨Snapshots.availabilityProved_of_verified normal, ?_⟩
  rintro ⟨hStatus, ⟨ruleSet, hTrusted, hRules⟩, -⟩
  rw [Snapshots.availabilityVerified, hStatus, hRules, hTrusted]
  simp

end Binding

section Resolve

variable {runtime : ServingRuntime} {service : SnapshotForecastService} {request : AcceptedRequest runtime.rules}
  {row : ForecastInputSnapshot}

/-- The gates between the row and the forecaster, as facts about the row. -/
theorem resolve_eq_ok_iff {resolved : Snapshots.ResolvedForecastInput} :
    service.resolve runtime request service.policy.seriesBasis row = .ok resolved ↔
      ∃ payload, validateRecord runtime.rules.toNormalForm runtime.floats runtime.sha256
          (row.map Instant.inUtc) = .ok payload ∧ Binds service request row payload ∧
        AvailabilityProved payload (some service.policy.trustedAvailabilityRuleSetHash) ∧
        resolved = resolvedOf request row payload := by
  rw [SnapshotForecastService.resolve, bind_eq_ok_iff]
  simp only [mapError_eq_ok_iff, refuseIf_bind_eq_ok_iff, pure_eq_ok, Bool.not_eq_false, Except.ok.injEq]
  constructor
  · rintro ⟨_, hResolved, hVerified, rfl⟩
    rw [validateAndResolveSnapshot, unit_bind_eq_ok_iff, bind_eq_ok_iff] at hResolved
    obtain ⟨-, payload, hRecord, h⟩ := hResolved
    rw [unit_bind_eq_ok_iff] at h
    obtain ⟨hBinding, h⟩ := h
    obtain ⟨-, p, hNormal⟩ := Snapshots.validateRecord_eq_ok hRecord
    cases h
    refine ⟨payload, hRecord, checkBinding_eq_ok_iff.mp hBinding, (availabilityVerified_iff hNormal).mp hVerified, ?_⟩
    rw [resolvedOf, ← hVerified]
    rfl
  · rintro ⟨payload, hRecord, hBinds, hProved, rfl⟩
    obtain ⟨-, p, hNormal⟩ := Snapshots.validateRecord_eq_ok hRecord
    refine ⟨resolvedOf request row payload, ?_, rfl, rfl⟩
    have hVerified := (availabilityVerified_iff hNormal).mpr hProved
    have hBinding : checkBinding (service.expectation service.policy.seriesBasis)
        (SnapshotForecastService.resolverRequest request) (row.map Instant.inUtc).snapshotId payload =
          .ok PUnit.unit := checkBinding_eq_ok_iff.mpr hBinds
    rw [validateAndResolveSnapshot, hBinds.checkExpectation hNormal, ok_bind, hRecord, ok_bind, hBinding, ok_bind,
      resolvedOf, ← hVerified]
    rfl

end Resolve

/-! ### Validated inputs -/

section Inputs

variable {service : SnapshotForecastService} {request : AcceptedRequest rules} {row : ForecastInputSnapshot}

theorem isHash_of_validateRecord {form : NormalForm} {floats : FloatText} {sha256 : Bytes → String}
    {record : ForecastInputSnapshotRecord ParsedDateTime}
    (h : validateRecord form floats sha256 record = .ok payload) : IsHash record.snapshotId := by
  rw [validateRecord, bind_eq_ok_iff] at h
  obtain ⟨_, -, h⟩ := h
  rw [bind_eq_ok_iff] at h
  obtain ⟨_, -, h⟩ := h
  rw [refuseIf_bind_eq_ok_iff, Snapshots.hash_bind_eq_ok_iff] at h
  exact h.2.1

theorem isPriceTarget_iff (target : Forecasts.ForecastTarget) :
    Baselines.IsPriceTarget target ↔ Literal.text target ∈ Snapshots.priceTargets := by
  cases target <;> simp [Baselines.IsPriceTarget, Snapshots.priceTargets, Literal.text]

/-- The input that the assembly reads for a payload. -/
def inputOf (request : AcceptedRequest rules) (row : ForecastInputSnapshot)
    (payload : ForecastInputSnapshotPayload Instant) : Baselines.ResolvedForecastInput where
  symbol := payload.symbol
  target := request.target
  horizonUnit := request.horizonUnit
  seriesBasis := payload.seriesBasis
  snapshotId := row.snapshotId
  asOf := payload.asOf.inUtc
  observations := payload.observations.map fun o => ⟨o.observedAt.inUtc, o.availableAt.inUtc, o.value.value⟩
  targetTimes := (payload.targetTimes.take request.horizon.toNat).map Instant.inUtc
  dataSources := payload.dataSources.map lineage
  currency := payload.currency
  availabilityVerified := true

theorem Binds.assemblyInput (binds : Binds service request row payload) :
    assemblyInput (resolvedOf request row payload) = .ok (inputOf request row payload) := by
  have hTarget : Literal.ofText (resolvedOf request row payload).target = some request.target := by
    rw [resolvedOf, binds.target, Literal.ofText_text]
  have hUnit : Literal.ofText (resolvedOf request row payload).horizonUnit = some request.horizonUnit := by
    rw [resolvedOf, binds.horizonUnit, Literal.ofText_text]
  rw [Serving.assemblyInput, hTarget, orRefuse_some, ok_bind, hUnit, orRefuse_some, ok_bind]
  rfl

/-- The cutoff of a request is read once more, and again admits the payload. -/
theorem Binds.requestedCutoff (binds : Binds service request row payload) :
    ∃ cutoff, Baselines.requestedCutoff request.toForecastRequest = .ok cutoff ∧
      ∀ requested ∈ cutoff, payload.asOf ≤ requested := by
  rw [Baselines.requestedCutoff]
  split
  · rename_i requested hNone hSome
    obtain ⟨t, hInstant, hLe⟩ := binds.cutoff hNone requested hSome
    refine ⟨some t, ?_, by simpa using hLe⟩
    rw [Baselines.asUtc, refuseIf_of_not (request.sound.time requested hSome), ok_bind, hInstant]
    rfl
  · exact ⟨none, rfl, by simp⟩

/-- Every observation of a normalized payload passes the checks of the assembly. -/
theorem observations_of_normalizes (normal : Normalizes rules.toNormalForm p payload) (generatedAt : Instant)
    (horizon : Nat) :
    (inputsOf payload horizon generatedAt).observations.forM (Baselines.checkObservation payload.asOf) =
      .ok PUnit.unit := by
  rw [forM_eq_ok_iff]
  intro o hMem
  obtain ⟨source, hSource, rfl⟩ := List.mem_map.mp hMem
  have hAdmissible := normal.observedValid.admissible source hSource
  rw [Baselines.checkObservation, refuseIf_bind_eq_ok_iff, refuseIf_bind_eq_ok_iff, refuseIf_eq_ok_iff]
  simp only [not_lt]
  exact ⟨hAdmissible.available.trans hAdmissible.cutoff, hAdmissible.available, hAdmissible.cutoff⟩

theorem dataSources_ne_nil (normal : Normalizes rules.toNormalForm p payload) : payload.dataSources ≠ [] := by
  obtain ⟨hSize, -, items, hItems, -, hLines⟩ := normal.sourced
  have hLength := congrArg List.length hItems
  rw [List.length_map, List.length_map] at hLength
  have hSome : items ≠ [] := List.ne_nil_of_length_pos (hLength ▸ hSize.1)
  rw [hLines]
  exact fun hNil => grouped_ne_nil hSome (List.map_eq_nil_iff.mp hNil)

/-- The basis of the payload is one for its target. -/
theorem Binds.basisFits (binds : Binds service request row payload) (normal : Normalizes rules.toNormalForm p payload) :
    ¬ (request.target = .close ∧ payload.seriesBasis ≠ "raw") ∧
      ¬ (request.target = .adjustedClose ∧ payload.seriesBasis = "raw") := by
  constructor
  · rintro ⟨hTarget, hNotRaw⟩
    refine normal.termsValid.closeIsRaw ⟨?_, hNotRaw⟩
    rw [binds.target, hTarget]
    rfl
  · rintro ⟨hTarget, hIsRaw⟩
    refine normal.termsValid.adjustedIsNotRaw ⟨?_, hIsRaw⟩
    rw [binds.target, hTarget]
    rfl

/-- Prices have a currency and returns have none. -/
theorem Binds.currencyFits (binds : Binds service request row payload)
    (normal : Normalizes rules.toNormalForm p payload) :
    ¬ (Baselines.IsPriceTarget request.target ∧ payload.currency = none) ∧
      ¬ (¬ Baselines.IsPriceTarget request.target ∧ payload.currency ≠ none) := by
  have hFits := normal.termsValid.currencyFits
  rw [Snapshots.CurrencyFits, binds.target] at hFits
  constructor
  · rintro ⟨hPrice, hNone⟩
    rw [if_pos ((isPriceTarget_iff _).mp hPrice), hNone] at hFits
    simp at hFits
  · rintro ⟨hReturn, hCurrency⟩
    rw [if_neg fun h => hReturn ((isPriceTarget_iff _).mpr h)] at hFits
    exact hCurrency hFits

/-- The targets of any horizon ascend from the cutoff. -/
theorem targets_of_normalizes (normal : Normalizes rules.toNormalForm p payload) (horizon : Nat) :
    (¬ ∃ first ∈ (payload.targetTimes.take horizon).head?, first ≤ payload.asOf) ∧
      (payload.targetTimes.take horizon).IsChain fun current following => current < following := by
  constructor
  · rintro ⟨first, hMem, hLe⟩
    have hTarget := List.mem_of_mem_take (List.mem_of_mem_head? hMem)
    exact not_lt.mpr hLe (normal.targetedValid.later first hTarget)
  · exact (normal.targetedValid.ascending.sublist (List.take_sublist _ _)).isChain

/-- `_validated_inputs` refuses nothing that the resolver let through. -/
theorem Binds.validatedInputs (binds : Binds service request row payload)
    (normal : Normalizes rules.toNormalForm p payload) (isHash : IsHash row.snapshotId)
    {identity : ForecastRunIdentity} {generatedAt : Instant} (stamped : identity.generatedAt = generatedAt.inUtc)
    (later : payload.asOf ≤ generatedAt) :
    validatedInputs rules request.toForecastRequest (inputOf request row payload) identity =
      .ok (inputsOf payload request.horizon.toNat generatedAt) := by
  obtain ⟨cutoff, hCutoff, hAdmits⟩ := binds.requestedCutoff
  obtain ⟨hRaw, hAdjusted⟩ := binds.basisFits normal
  obtain ⟨hFirst, hTimesAscend⟩ := targets_of_normalizes normal request.horizon.toNat
  obtain ⟨hPriced, hUnpriced⟩ := binds.currencyFits normal
  apply Baselines.validatedInputs_eq_ok_iff.mpr
  constructor
  case target | horizonUnit => rfl
  case seriesBasis => exact normal.termsValid.isBasis
  case rawBasis => exact hRaw
  case adjustedBasis => exact hAdjusted
  case generatedLater => exact later
  case observedAdmissible => exact observations_of_normalizes normal generatedAt request.horizon.toNat
  case dataSources => exact canonicalDataSources_lineage normal
  case targetsLater => exact hFirst
  case targetsAscending => exact hTimesAscend
  case priced => exact hPriced
  case unpriced => exact hUnpriced
  case asOf => exact asUtc_inUtc _ _
  case generatedAt =>
    rw [stamped, asUtc_inUtc]
    rfl
  case symbol => rw [inputOf, binds.symbol, request.sound.symbol.1, request.sound.symbolUpper]
  case snapshotId =>
    rw [inputOf, rules.strip_trimmed _ (trimmed_of_isHash isHash)]
    rintro hEmpty
    have hLength := isHash.2.1
    rw [hEmpty] at hLength
    cases hLength
  case pinned =>
    rintro ⟨s, hMem, hOther⟩
    exact hOther (binds.pinned s hMem).symm
  case cutoff =>
    refine ⟨cutoff, hCutoff, ?_⟩
    rintro ⟨requested, hMem, hLess⟩
    exact not_lt.mpr (hAdmits requested hMem) hLess
  case observed =>
    rw [List.isEmpty_iff, inputOf, List.map_eq_nil_iff]
    exact List.ne_nil_of_length_pos normal.observedValid.size.1
  case sourced =>
    rw [List.isEmpty_iff, inputOf, List.map_eq_nil_iff]
    exact dataSources_ne_nil normal
  case horizon =>
    rw [inputOf, List.length_map, List.length_take]
    exact min_eq_left binds.horizon
  case observations =>
    apply mapM_of_forall₂
    rw [inputOf, inputsOf, List.forall₂_map_left_iff, List.forall₂_map_right_iff, List.forall₂_same]
    intro o _
    rw [Baselines.utcObservation, asUtc_inUtc, ok_bind, asUtc_inUtc, ok_bind]
    rfl
  case observedAscending =>
    apply List.Pairwise.isChain
    rw [inputsOf, List.pairwise_map]
    exact normal.observedValid.ascending
  case sourcesAvailable =>
    rintro ⟨source, hMem, hLess⟩
    obtain ⟨s, hSource, rfl⟩ := List.mem_map.mp hMem
    exact not_lt.mpr (normal.source_cutoff s hSource) hLess
  case targetTimes =>
    apply mapM_of_forall₂
    rw [inputOf, List.forall₂_map_left_iff, inputsOf, List.forall₂_same]
    exact fun t _ => asUtc_inUtc t _

end Inputs

/-! ## Answers -/

/-- A baseline with the values of a payload, and errors from which its quantiles can be told. -/
structure Computes (baseline : Baseline) (payload : ForecastInputSnapshotPayload Instant) (horizon : Nat)
    (fitted : Fitted ℚ) : Prop where
  baseline : fitted.baseline = baseline
  history : fitted.history = values payload
  dispersed : ∀ step ∈ List.range' 1 horizon, fitted.Dispersed step

def identityOf (service : SnapshotForecastService) (readings : SnapshotForecastService.RunReadings)
    (row : ForecastInputSnapshot) (asOf : Instant) (baseline : Baseline) : ForecastRunIdentity where
  forecastId := readings.forecastId
  generatedAt := (max readings.now asOf).inUtc
  modelVersion := baseline.modelVersion
  featureSetHash := row.snapshotId
  codeVersion := service.codeVersion

def answerOf (service : SnapshotForecastService) (request : AcceptedRequest rules)
    (readings : SnapshotForecastService.RunReadings) (row : ForecastInputSnapshot)
    (payload : ForecastInputSnapshotPayload Instant) (fitted : Fitted ℚ) : AssembledResponse :=
  let coverages := requestedCoverages request.toForecastRequest
  let inputs := inputsOf payload request.horizon.toNat (max readings.now payload.asOf)
  { symbol := request.symbol
    target := request.target
    horizon := request.horizon.toNat
    horizonUnit := request.horizonUnit
    asOf := payload.asOf
    currency := payload.currency
    forecasts := inputs.targetTimes.zipIdx.map fun position =>
      stepOf coverages (requestedQuantileLevels coverages) (responseValue fitted request.target (position.2 + 1))
        position
    snapshotId := row.snapshotId
    modelVersion := fitted.baseline.modelVersion
    seriesBasis := payload.seriesBasis
    featureSetHash := row.snapshotId
    maxAvailableAt := Baselines.maxAvailableAt inputs
    generatedAt := inputs.generatedAt
    codeVersion := service.codeVersion
    dataSources := payload.dataSources.map lineage
    lookaheadCheck := {
      status := .passed
      checkedAt := inputs.generatedAt.inUtc
      maxFeatureAvailableAt := (Baselines.maxAvailableAt inputs).inUtc
      violations := [] }
    forecastId := readings.forecastId
    calibrationSetVersion := "uncalibrated:" ++ fitted.baseline.modelVersion }

theorem isPrefixOf_append (start rest : String) : start.toList.isPrefixOf (start ++ rest).toList = true := by
  rw [String.toList_append, List.isPrefixOf_iff_prefix]
  exact List.prefix_append _ _

theorem validateModelSelection_of_forecaster {service : SnapshotForecastService} {request : AcceptedRequest rules}
    {baseline : Baseline} (h : service.forecaster request.model = .ok baseline) :
    Baselines.validateModelSelection request.toForecastRequest baseline.modelVersion = .ok PUnit.unit := by
  have hSelected : ∀ start rest : String, Baselines.baselineModelStart request.model = some start →
      baseline.modelVersion = start ++ rest →
        Baselines.validateModelSelection request.toForecastRequest baseline.modelVersion = .ok PUnit.unit := by
    intro start rest hStart hVersion
    rw [Baselines.validateModelSelection]
    split
    · rfl
    · rw [hStart, orRefuse_some, ok_bind, hVersion, isPrefixOf_append]
      exact refuseIf_of_not Bool.noConfusion
  cases hModel : request.model with
  | auto => rw [Baselines.validateModelSelection, if_pos hModel]
  | baselineNaive =>
    rw [hModel] at h
    have hNaive : Baseline.naive = baseline := Except.ok.inj h
    have hVersion : Baseline.naive.modelVersion = "baseline-naive@1" := rfl
    refine hSelected "baseline-naive@" "1" (by rw [hModel]; rfl) ?_
    rw [← hNaive, hVersion]
    decide
  | baselineDrift =>
    rw [hModel] at h
    have hDrift : Baseline.drift = baseline := Except.ok.inj h
    have hVersion : Baseline.drift.modelVersion = "baseline-drift@1" := rfl
    refine hSelected "baseline-drift@" "1" (by rw [hModel]; rfl) ?_
    rw [← hDrift, hVersion]
    decide
  | baselineSeasonalNaive =>
    rw [hModel] at h
    simp only [SnapshotForecastService.forecaster] at h
    split at h
    · rename_i positive
      have hSeasonal : Baseline.seasonalNaive service.policy.seasonalPeriod positive = baseline := Except.ok.inj h
      have hVersion : (Baseline.seasonalNaive service.policy.seasonalPeriod positive).modelVersion =
          "baseline-seasonal-naive-s" ++ toString service.policy.seasonalPeriod ++ "@1" := rfl
      refine hSelected "baseline-seasonal-naive-s" (toString service.policy.seasonalPeriod ++ "@1")
        (by rw [hModel]; rfl) ?_
      rw [← hSeasonal, hVersion, String.append_assoc]
    · cases h
  | arima =>
    rw [hModel] at h
    cases h
  | chronos =>
    rw [hModel] at h
    cases h

theorem fit_eq_ok_iff {baseline : Baseline} {history : List ℚ} {fitted : Fitted ℚ} :
    baseline.fit history = .ok fitted ↔ fitted.baseline = baseline ∧ fitted.history = history := by
  rw [Baseline.fit]
  constructor
  · intro h
    split at h
    · cases h
      exact ⟨rfl, rfl⟩
    · cases h
  · rintro ⟨rfl, rfl⟩
    exact dif_pos fitted.enough

end Assembly

end StockApi.Serving

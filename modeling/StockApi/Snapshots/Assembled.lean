import StockApi.Forecasts.AsciiRules
import StockApi.Library.DocumentSize
import StockApi.Snapshots.Builder

/-!
# What the builder assembles

The payload of verified rows is accepted as it is: its texts, its times and its size meet the rules of
the snapshot for every policy with admissible settings. A build is refused by the verification of its
rows or by a row that occupies its key, and by nothing after that.
-/

namespace StockApi.Snapshots.Builder

open Checked CivilTime SessionCalendar Documents Relational Text Groups
open Bars (SnapshotBuildSpec SpecArgument)
open Forecasts (TextRules IsAscii asciiRules)

/-- Settings within the limits of the snapshot. -/
structure PolicyValid (policy : ForecastSnapshotBuildPolicy) : Prop where
  basis : policy.seriesBasis = "raw"
  timespan : policy.inputTimespan ∈ inputTimespans
  multiplier : 1 ≤ policy.inputMultiplier ∧ policy.inputMultiplier ≤ 10000
  currency : IsCurrency policy.currency
  source : IsText 64 policy.source
  sourcePlain : PlainText policy.source
  symbols : ∀ s ∈ policy.allowedSymbols, IsSymbol s ∧ s.length ≤ 32
  least : 1 ≤ policy.minimumObservations
  most : policy.observationLimit ≤ 10000
  targets : 1 ≤ policy.targetTimeCount ∧ policy.targetTimeCount ≤ 252

/-! ## Texts -/

theorem isAscii_of_plain {s : String} (h : PlainText s) : IsAscii s := by
  intro c hc
  have hChar := List.all_eq_true.mp h c hc
  simp only [plainChar, Bool.and_eq_true, decide_eq_true_eq] at hChar
  exact hChar.1.1.2

/-- A plain text without a blank is trimmed. -/
theorem isText_of_plain {s : String} {most : Nat} (plain : PlainText s) (noBlank : ' ' ∉ s.toList)
    (nonempty : s.toList ≠ []) (short : s.length ≤ most) : IsText most s := by
  have hSpace : ∀ c ∈ s.toList, isSpace c = false := by
    intro c hc
    have hChar := List.all_eq_true.mp plain c hc
    simp only [plainChar, Bool.and_eq_true, decide_eq_true_eq] at hChar
    have hBlank : c.toNat ≠ 32 := by
      intro h
      have hSame : c.toNat = Char.toNat ' ' := h
      exact noBlank (Char.toNat_inj.mp hSame ▸ hc)
    simp only [isSpace, Bool.or_eq_false_iff, Bool.and_eq_false_iff, decide_eq_false_iff_not]
    omega
  refine ⟨fun h => nonempty (by rw [h]; rfl), ⟨fun c hc => ?_, fun c hc => ?_⟩, short⟩
  · exact hSpace c (List.mem_of_head? hc)
  · exact hSpace c (List.mem_of_getLast? hc)

/-- The form of it that is decided for a literal. -/
theorem isText_of_chars {s : String} {most : Nat} (plain : PlainText s)
    (noBlank : (s.toList.all fun c => c ≠ ' ') = true) (nonempty : s.toList ≠ []) (short : s.length ≤ most) :
    IsText most s :=
  isText_of_plain plain (fun hBlank => absurd (List.all_eq_true.mp noBlank ' ' hBlank) (by decide)) nonempty short

theorem plain_currency {s : String} (h : IsCurrency s) : PlainText s := by
  apply List.all_eq_true.mpr
  intro c hc
  have hChar := List.all_eq_true.mp h.2 c hc
  rw [decide_eq_true_eq] at hChar
  exact plainChar_between hChar.1 hChar.2 (by decide)

theorem plain_hex (x : Float64) : PlainText x.hex := by
  apply List.all_eq_true.mpr
  intro c hc
  rw [Float64.hex, String.toList_ofList] at hc
  exact plainChar_of_hexChar (List.all_eq_true.mp (Float64.all_hexChars 16 x.word.toNat) c hc)

theorem isText_hash {s : String} (h : IsHash s) : IsText 128 s := by
  refine isText_of_plain (plain_hash h) ?_ (fun hNil => ?_) ?_
  · intro hBlank
    rw [← List.take_append_drop 7 s.toList, List.mem_append, h.1] at hBlank
    rcases hBlank with hStart | hRest
    · exact absurd hStart (by decide)
    · exact absurd (List.all_eq_true.mp h.2.2 ' ' hRest) (by decide)
  · have hLength := h.2.1
    rw [hNil] at hLength
    cases hLength
  · have hLength : s.length = 71 := h.2.1
    omega

theorem isText_symbol {s : String} (h : IsSymbol s) (short : s.length ≤ 32) : IsText 32 s :=
  isText_of_plain (plain_symbol h) (fun hBlank => absurd (List.all_eq_true.mp h.2 ' ' hBlank) (by decide)) h.1 short

theorem isText_currency {s : String} (h : IsCurrency s) : IsText 3 s := by
  refine isText_of_plain (plain_currency h) ?_ (fun hNil => ?_) ?_
  · exact fun hBlank => absurd (List.all_eq_true.mp h.2 ' ' hBlank) (by decide)
  · have hLength := h.1
    rw [hNil] at hLength
    cases hLength
  · have hLength : s.length = 3 := h.1
    omega

/-! ## The rows -/

section Rows

variable {calendar : Calendar} {rows ordered : List PointInTimeBar} {spec : SnapshotBuildSpec}
  {policy : Snapshots.ForecastSnapshotBuildPolicy}

/-- What the verification of one row checks besides its times. -/
theorem row_of_verifyBar {row : PointInTimeBar} (h : verifyBar calendar spec policy row = .ok ⟨⟩) :
    row.close.isFinite = true ∧ row.close.isNegative = false := by
  rw [verifyBar, refuseIf_bind_eq_ok_iff] at h
  obtain ⟨-, h⟩ := h
  rw [refuseIf_bind_eq_ok_iff] at h
  obtain ⟨-, h⟩ := h
  rw [refuseIf_bind_eq_ok_iff] at h
  obtain ⟨hClose, -⟩ := h
  simpa using hClose

theorem values_of_verified (h : verifyAndOrderBars calendar rows spec policy = .ok ordered) :
    ∀ row ∈ ordered, row.close.isFinite = true ∧ row.close.isNegative = false := by
  obtain ⟨last, hLast, -, -, -, -, hVerified⟩ := verifyAndOrderBars_eq_ok_iff.mp h
  exact fun row hRow => row_of_verifyBar (hVerified row hRow)

theorem EndsAt.times {last : Nat} {hLast : last < calendar.sessions.length}
    (ends : EndsAt calendar rows spec policy ordered last hLast) :
    ∀ row ∈ ordered, row.observedAt ≤ row.availableAt ∧ row.availableAt ≤ spec.asOf := by
  intro row hRow
  obtain ⟨close, -, hObserved, hFetched, hSource, hRecorded, hAvailable, hCutoff⟩ := ends.timely row hRow
  exact ⟨hObserved.trans (hFetched.trans (hSource.trans (hRecorded.trans hAvailable))), hCutoff⟩

/-- Rows on consecutive sessions ascend. -/
theorem EndsAt.ascending {last : Nat} {hLast : last < calendar.sessions.length}
    (ends : EndsAt calendar rows spec policy ordered last hLast) :
    ordered.Pairwise fun a b => a.observedAt < b.observedAt := by
  have hDates : (ordered.map PointInTimeBar.date).Pairwise (· < ·) := by
    rw [ends.consecutive]
    refine List.Pairwise.drop ?_
    rw [List.pairwise_map]
    exact calendar.hasAscendingLabels.take
  rw [List.pairwise_map] at hDates
  exact hDates.imp fun hLess => lt_of_not_ge fun hGe => absurd hLess (not_lt.mpr (Instant.date_mono hGe))

/-- No session has two of the selected rows. -/
theorem length_le_of_supplied (ascending : ordered.Pairwise fun a b => a.observedAt < b.observedAt)
    (supplied : ∀ row ∈ ordered, row ∈ rows) : ordered.length ≤ rows.length := by
  have hNodup : ordered.Nodup := ascending.imp fun hLess hSame => absurd (hSame ▸ hLess) (lt_irrefl _)
  exact (List.subperm_of_subset hNodup supplied).length_le

end Rows

/-! ## The normal form -/

/-- The payload with the zeros of its values in one form. -/
def canonicalValues (p : ForecastInputSnapshotPayload Instant) : ForecastInputSnapshotPayload Instant :=
  { p with observations := p.observations.map fun o => { o with value := o.value.canonicalZero } }

section Normal

variable {runtime : BuildRuntime} {policy : ForecastSnapshotBuildPolicy} {spec : SnapshotBuildSpec}

theorem nfc_of_plain {s : String} (h : PlainText s) : runtime.rules.nfc s = s :=
  runtime.rules.nfc_ascii s (isAscii_of_plain h)

theorem payloadOf_terms {checkedAt latest : Instant} {ordered : List PointInTimeBar} {closes : List Instant}
    (valid : PolicyValid policy) (digest : IsDigest runtime.sha256) (hSymbol : spec.symbol ∈ policy.allowedSymbols)
    (hTarget : spec.target = "close") (hUnit : spec.horizonUnit = "trading_day") :
    (payloadOf runtime spec checkedAt policy ordered closes latest).toSnapshotTerms.Valid ∧
      (payloadOf runtime spec checkedAt policy ordered closes latest).toSnapshotTerms.normal
        runtime.rules.toNormalForm =
        (payloadOf runtime spec checkedAt policy ordered closes latest).toSnapshotTerms := by
  have hHash : IsHash (resolutionPolicyHash runtime policy) := isHash_digest digest _
  obtain ⟨hIsSymbol, hShort⟩ := valid.symbols _ hSymbol
  have hBasis := valid.basis
  have hClose : PlainText "close" := by decide
  have hDay : PlainText "trading_day" := by decide
  have hRaw : PlainText "raw" := by decide
  have hTargetText : IsText 32 spec.target ∧ spec.target ∈ targets ∧ spec.target ∈ priceTargets := by
    rw [hTarget]
    exact ⟨isText_of_chars hClose (by decide) (by decide) (by decide), by decide, by decide⟩
  have hUnitText : IsText 32 spec.horizonUnit ∧ spec.horizonUnit ∈ horizonUnits := by
    rw [hUnit]
    exact ⟨isText_of_chars hDay (by decide) (by decide) (by decide), by decide⟩
  have hBasisText : IsText 32 policy.seriesBasis ∧ policy.seriesBasis ∈ seriesBases := by
    rw [hBasis]
    exact ⟨isText_of_chars hRaw (by decide) (by decide) (by decide), by decide⟩
  have hTimespan : PlainText policy.inputTimespan ∧ IsText 16 policy.inputTimespan := by
    have hMem := valid.timespan
    simp only [inputTimespans, List.mem_cons, List.not_mem_nil, or_false] at hMem
    rcases hMem with hIs | hIs | hIs | hIs <;> rw [hIs] <;>
      exact ⟨by decide, isText_of_chars (by decide) (by decide) (by decide) (by decide)⟩
  constructor
  · exact {
      version := rfl
      policyHash := hHash
      symbolText := isText_symbol hIsSymbol hShort
      isSymbol := hIsSymbol
      targetText := hTargetText.1
      isTarget := hTargetText.2.1
      unitText := hUnitText.1
      isUnit := hUnitText.2
      basisText := hBasisText.1
      isBasis := hBasisText.2
      closeIsRaw := fun h => h.2 hBasis
      adjustedIsNotRaw := fun h => absurd (hTarget.symm.trans h.1) (by decide +kernel)
      timespanText := hTimespan.2
      isTimespan := valid.timespan
      multiplierRange := valid.multiplier
      currencyText := fun s hMem => by
        cases hMem
        exact isText_currency valid.currency
      currencyFits := by
        rw [CurrencyFits, if_pos]
        · exact ⟨_, rfl, valid.currency⟩
        · exact hTargetText.2.2 }
  · rw [SnapshotTerms.normal, payloadOf]
    simp only [hTarget, hUnit, hBasis, nfc_of_plain (plain_symbol hIsSymbol), nfc_of_plain hClose,
      nfc_of_plain hDay, nfc_of_plain hRaw, nfc_of_plain hTimespan.1, Option.map_some,
      nfc_of_plain (plain_currency valid.currency)]

theorem payloadOf_sources {latest : Instant} {ordered : List PointInTimeBar} (valid : PolicyValid policy)
    (digest : IsDigest runtime.sha256) (hLatest : latest ≤ spec.asOf) :
    SourcesNormalize runtime.rules.toNormalForm spec.asOf
      [(SnapshotSourceLineage.mk policy.source (sourceSnapshotId runtime ordered spec policy) latest ["close"]).map
        Instant.inUtc]
      [⟨policy.source, sourceSnapshotId runtime ordered spec policy, latest, ["close"]⟩] := by
  have hHash : IsHash (sourceSnapshotId runtime ordered spec policy) := isHash_digest digest _
  have hPlain : PlainText "close" := by decide
  have hClose : PlainText "close" ∧ IsText 128 "close" :=
    ⟨hPlain, isText_of_chars hPlain (by decide) (by decide) (by decide)⟩
  refine ⟨by simp, ?_, [(⟨policy.source, sourceSnapshotId runtime ordered spec policy, latest⟩, {"close"})], ?_, ?_, ?_⟩
  · intro s hMem
    rw [List.mem_singleton.mp hMem, SnapshotSourceLineage.map, List.length_singleton]
    omega
  · rw [List.map_singleton, List.map_singleton, List.singleton_inj, sourceItem_eq_some_iff, sourceKey]
    simp only [SnapshotSourceLineage.map, Instant.toInstant_inUtc, Option.map_some, List.map_singleton,
      nfc_of_plain valid.sourcePlain, nfc_of_plain (plain_hash hHash), nfc_of_plain hClose.1]
    exact ⟨trivial, rfl⟩
  · intro item hMem
    rw [List.mem_singleton.mp hMem]
    refine ⟨valid.source, isText_hash hHash, hLatest, fun f hField => ?_⟩
    rw [Finset.mem_singleton.mp hField]
    exact hClose.2
  · rw [grouped_of_pairwise (List.pairwise_singleton _ _), List.map_singleton, sourceLine, Finset.sort_singleton]

theorem isNegative_zero : Float64.zero.isNegative = false := by
  have hZero : Float64.zero.isZero = true := by decide
  simp [Float64.isNegative, hZero]

theorem canonicalZero_nonneg {x : Float64} (h : x.isNegative = false) : x.canonicalZero.isNegative = false := by
  rw [Float64.canonicalZero]
  cases x.isZero with
  | true => exact isNegative_zero
  | false => exact h

theorem observe_finite {o : SnapshotObservation Instant} (h : o.value.isFinite = true) :
    observe (o.map Instant.inUtc) = some ⟨o.observedAt, o.availableAt, o.value.canonicalZero⟩ := by
  simp [observe, SnapshotObservation.map, h]

/-- The observations of verified rows. -/
theorem observations_normalize {calendar : Calendar} {rows ordered : List PointInTimeBar}
    {verified : Snapshots.ForecastSnapshotBuildPolicy} {last : Nat} {hLast : last < calendar.sessions.length}
    (ends : EndsAt calendar rows spec verified ordered last hLast) (least : 1 ≤ verified.minimumObservations)
    (most : rows.length ≤ 10000)
    (values : ∀ row ∈ ordered, row.close.isFinite = true ∧ row.close.isNegative = false) :
    (((ordered.map fun row => SnapshotObservation.mk row.observedAt row.availableAt row.close).map
      (·.map Instant.inUtc)).map observe).Perm
      ((ordered.map fun row =>
        SnapshotObservation.mk row.observedAt row.availableAt row.close.canonicalZero).map some) ∧
    ObservationsValid spec.asOf spec.target (ordered.map fun row =>
      SnapshotObservation.mk row.observedAt row.availableAt row.close.canonicalZero) := by
  constructor
  · refine .of_eq ?_
    have hEach : ∀ row ∈ ordered, observe ((SnapshotObservation.mk row.observedAt row.availableAt row.close).map
        Instant.inUtc) = some ⟨row.observedAt, row.availableAt, row.close.canonicalZero⟩ :=
      fun row hRow => observe_finite (values row hRow).1
    simp only [List.map_map, Function.comp_def]
    exact List.map_congr_left hEach
  · have hLength := (length_le_of_supplied (EndsAt.ascending ends) ends.supplied).trans most
    have hEnough := least.trans ends.enough
    refine ⟨?_, ?_, ?_⟩
    · rw [List.length_map]
      exact ⟨hEnough, hLength⟩
    · rw [List.pairwise_map]
      exact EndsAt.ascending ends
    · intro o hMem
      obtain ⟨row, hRow, rfl⟩ := List.mem_map.mp hMem
      obtain ⟨hObserved, hAvailable⟩ := EndsAt.times ends row hRow
      refine ⟨hObserved, hAvailable, fun h => ?_⟩
      rw [canonicalZero_nonneg (values row hRow).2] at h
      exact absurd h.2 Bool.false_ne_true

/-- The closes after a cutoff are target times. -/
theorem targetTimesValid_of_closes {calendar : Calendar} {verified : Snapshots.ForecastSnapshotBuildPolicy}
    {closes : List Instant} (inside : calendar.InBounds spec.asOf.date)
    (count : 1 ≤ verified.targetTimeCount ∧ verified.targetTimeCount ≤ 252)
    (h : targetTimes spec.asOf verified calendar = .ok closes) : TargetTimesValid spec.asOf closes := by
  obtain ⟨hLength, hLater⟩ := (meets calendar inside count.1).later closes h
  obtain ⟨-, hWindow⟩ := (closesAfter_eq_ok_iff calendar inside count.1).mp h
  refine ⟨hLength ▸ count, ?_, hLater⟩
  rw [hWindow, List.pairwise_map]
  exact (calendar.closes_ascend.drop).take

/-- The payload of verified rows is accepted. -/
theorem assembled_normalizes {rows : List PointInTimeBar} {arg : SpecArgument} {checkedAt : Instant}
    {p : ForecastInputSnapshotPayload Instant} (valid : PolicyValid policy) (digest : IsDigest runtime.sha256)
    (most : rows.length ≤ policy.observationLimit)
    (h : assembleVerifiedSnapshotPayload runtime rows arg checkedAt policy = .ok p) :
    Normalizes runtime.rules.toNormalForm p.inUtc (canonicalValues p) ∧
      (canonicalValues p).observations.length ≤ policy.observationLimit := by
  obtain ⟨spec, hSpec, hChecked, calendar, -, ordered, hOrdered, closes, hCloses, latest, hLatest, rfl⟩ :=
    assembleVerifiedSnapshotPayload_eq_ok_iff.mp h
  obtain ⟨-, hSymbol, ⟨-, hTarget⟩, ⟨-, hUnit⟩, -⟩ := validateSpec_eq_ok_iff.mp hSpec
  obtain ⟨last, hLast, ends⟩ := endsAt_of_verifyAndOrderBars hOrdered
  have hLatestSpec := List.max?_eq_some_iff.mp hLatest
  have hLatestCutoff : latest ≤ spec.asOf := by
    obtain ⟨row, hRow, rfl⟩ := List.mem_map.mp hLatestSpec.1
    exact (EndsAt.times ends row hRow).2
  have hObservations := observations_normalize ends valid.least (most.trans valid.most) (values_of_verified hOrdered)
  have hTerms : (payloadOf runtime spec checkedAt policy ordered closes latest).toSnapshotTerms.Valid ∧ _ :=
    payloadOf_terms valid digest hSymbol hTarget hUnit
  obtain ⟨_, _, -, inside, -⟩ := verifyAndOrderBars_eq_ok_iff.mp hOrdered
  have hTimes : TargetTimesValid spec.asOf closes := targetTimesValid_of_closes inside valid.targets hCloses
  have hMax : maxAvailableAt (ordered.map fun row =>
      SnapshotObservation.mk row.observedAt row.availableAt row.close.canonicalZero)
      [⟨policy.source, sourceSnapshotId runtime ordered spec policy, latest, ["close"]⟩] = some latest := by
    rw [maxAvailableAt, List.max?_eq_some_iff, List.map_map, List.map_singleton]
    refine ⟨List.mem_append_right _ (List.mem_singleton_self _), fun t hMem => ?_⟩
    rcases List.mem_append.mp hMem with hObserved | hSource
    · exact hLatestSpec.2 t hObserved
    · exact (List.mem_singleton.mp hSource).le
  have hSealed : canonicalValues (payloadOf runtime spec checkedAt policy ordered closes latest) =
      { payloadOf runtime spec checkedAt policy ordered closes latest with
        observations := ordered.map fun row =>
          SnapshotObservation.mk row.observedAt row.availableAt row.close.canonicalZero } := by
    rw [canonicalValues, payloadOf, List.map_map]
    rfl
  rw [hSealed]
  refine ⟨?_, ?_⟩
  · exact {
      terms := hTerms.2
      termsValid := hTerms.1
      cutoff := Instant.toInstant_inUtc _
      observed := hObservations.1
      observedValid := hObservations.2
      targeted := by
        refine .of_eq ?_
        simp only [payloadOf, ForecastInputSnapshotPayload.inUtc, ForecastInputSnapshotPayload.map, List.map_map,
          Function.comp_def, Instant.toInstant_inUtc]
      targetedValid := hTimes
      sourced := payloadOf_sources valid digest hLatestCutoff
      proved := by
        simp only [payloadOf, ForecastInputSnapshotPayload.inUtc, ForecastInputSnapshotPayload.map,
          SnapshotAvailabilityEvidence.map, Option.map_some, Instant.toInstant_inUtc]
      provedValid := .passed (isHash_digest digest _) hMax (max_le (hLatestCutoff.trans hChecked) hChecked) }
  · rw [List.length_map]
    exact (length_le_of_supplied (EndsAt.ascending ends) ends.supplied).trans most

/-! ## The size -/

theorem size_timeDocument (floats : FloatText) (t : Instant) : size floats (timeDocument t) = 29 := by
  rw [timeDocument, Json.plain, size, length_timestamp]

theorem size_observationDocument (floats : FloatText) (o : SnapshotObservation Instant) :
    size floats (observationDocument o) = 121 := by
  have hBits : (floatBits o.value).toList.length = 16 := by
    rw [floatBits, Float64.hex, String.toList_ofList, Float64.length_hexChars]
  simp only [observationDocument, Json.plain, size, sizeEntries, size_timeDocument, hBits, String.reduceToList,
    List.length_cons, List.length_nil]
  decide

theorem plain_observationDocument (o : SnapshotObservation Instant) : Plain (observationDocument o) := by
  simp only [observationDocument, timeDocument, Json.plain, Plain, PlainEntries, plain_timestamp, floatBits, plain_hex,
    and_true, true_and]
  decide

theorem plain_timeDocument (t : Instant) : Plain (timeDocument t) := plain_timestamp t

/-- The documents of assembled payloads have no escapes. -/
theorem plain_assembled {checkedAt latest : Instant} {ordered : List PointInTimeBar} {closes : List Instant}
    (valid : PolicyValid policy) (digest : IsDigest runtime.sha256) (hSymbol : spec.symbol ∈ policy.allowedSymbols)
    (hTarget : spec.target = "close") (hUnit : spec.horizonUnit = "trading_day") :
    Plain (payloadDocument (canonicalValues (payloadOf runtime spec checkedAt policy ordered closes latest))) := by
  have hTimespan : PlainText policy.inputTimespan := by
    have hMem := valid.timespan
    simp only [inputTimespans, List.mem_cons, List.not_mem_nil, or_false] at hMem
    rcases hMem with hIs | hIs | hIs | hIs <;> rw [hIs] <;> decide
  have hHash : ∀ document, PlainText (hashDocument runtime document) := fun _ => plain_hash (isHash_digest digest _)
  have hObservations : ∀ observations : List (SnapshotObservation Instant),
      PlainItems (observations.map observationDocument) := by
    intro observations
    refine plainItems_of_all fun x hx => ?_
    obtain ⟨o, -, rfl⟩ := List.mem_map.mp hx
    exact plain_observationDocument o
  have hTimes : PlainItems (closes.map timeDocument) := by
    refine plainItems_of_all fun x hx => ?_
    obtain ⟨t, -, rfl⟩ := List.mem_map.mp hx
    exact plain_timeDocument t
  simp only [payloadDocument, canonicalValues, payloadOf, availabilityDocument, sourceDocument, Plain, PlainEntries,
    PlainItems, Json.plain, plain_timeDocument, hObservations, hTimes, resolutionPolicyHash, availabilityRuleSetHash,
    sourceSnapshotId, hHash, Option.elim_some, List.map_cons, List.map_nil, plain_symbol (valid.symbols _ hSymbol).1,
    hTimespan, plain_currency valid.currency, valid.sourcePlain, hTarget, hUnit, valid.basis, and_true, true_and]
  decide

/-- They fit into the storage limit. -/
theorem size_assembled {checkedAt latest : Instant} {ordered : List PointInTimeBar} {closes : List Instant}
    (valid : PolicyValid policy) (digest : IsDigest runtime.sha256) (hSymbol : spec.symbol ∈ policy.allowedSymbols)
    (hTarget : spec.target = "close") (hUnit : spec.horizonUnit = "trading_day") (rows : ordered.length ≤ 10000)
    (times : closes.length ≤ 252) :
    size runtime.floats (payloadDocument
      (canonicalValues (payloadOf runtime spec checkedAt policy ordered closes latest))) ≤ maxPayloadBytes := by
  have hHash : ∀ document, (hashDocument runtime document).toList.length = 71 := fun _ => (isHash_digest digest _).2.1
  have hSymbolLength : spec.symbol.toList.length ≤ 32 := (valid.symbols _ hSymbol).2
  have hSourceLength : policy.source.toList.length ≤ 64 := valid.source.2.2
  have hCurrencyLength : policy.currency.toList.length = 3 := valid.currency.1
  have hTimespan : policy.inputTimespan.toList.length ≤ 6 := by
    have hMem := valid.timespan
    simp only [inputTimespans, List.mem_cons, List.not_mem_nil, or_false] at hMem
    rcases hMem with hIs | hIs | hIs | hIs <;> rw [hIs] <;> decide
  have hMultiplier : (ofInt policy.inputMultiplier).chars.length ≤ 5 :=
    length_chars_le (by decide) (by have := valid.multiplier; omega) (by have := valid.multiplier; omega)
  have hSchema : (ofInt 1).chars.length = 1 := by decide
  have hObservations : ∀ observations : List (SnapshotObservation Instant),
      sizeItems runtime.floats (observations.map observationDocument) ≤ observations.length * 122 := by
    intro observations
    refine (sizeItems_le runtime.floats fun x hx => ?_).trans (Nat.le_of_eq (congrArg (· * 122) (List.length_map _)))
    obtain ⟨o, -, rfl⟩ := List.mem_map.mp hx
    exact (size_observationDocument _ o).le
  have hRows := hObservations ((ordered.map fun row =>
    SnapshotObservation.mk row.observedAt row.availableAt row.close).map fun o =>
      { o with value := o.value.canonicalZero })
  have hTimes : sizeItems runtime.floats (closes.map timeDocument) ≤ closes.length * 30 := by
    refine (sizeItems_le runtime.floats fun x hx => ?_).trans (Nat.le_of_eq (congrArg (· * 30) (List.length_map _)))
    obtain ⟨t, -, rfl⟩ := List.mem_map.mp hx
    exact (size_timeDocument _ t).le
  rw [List.length_map, List.length_map] at hRows
  simp only [payloadDocument, canonicalValues, payloadOf, availabilityDocument, sourceDocument, size, sizeEntries,
    sizeItems, Json.plain, size_timeDocument, resolutionPolicyHash, availabilityRuleSetHash, sourceSnapshotId, hHash,
    Option.elim_some, List.map_cons, List.map_nil, hTarget, hUnit, valid.basis, hSchema, hCurrencyLength,
    maxPayloadBytes, String.reduceToList, List.length_cons, List.length_nil, Nat.reduceAdd]
  omega

/-- A source of one field stays within the limit. -/
theorem merges_single {form : NormalForm} {p : ForecastInputSnapshotPayload ParsedDateTime}
    {source : SnapshotSourceLineage ParsedDateTime} {field : String} (single : p.dataSources = [source])
    (one : source.fields = [field]) : MergesWithinLimit form p := by
  rw [MergesWithinLimit, single]
  intro other hOther
  rw [List.mem_singleton.mp hOther, mergedFields, List.filter_cons_of_pos (by simp), List.filter_nil,
    List.flatMap_singleton, one, List.map_singleton]
  exact Nat.le_of_ble_eq_true rfl

/-- A payload whose bytes fit into the storage limit has a record. -/
theorem exists_record {form : NormalForm} {floats : FloatText} {sha256 : Bytes → String}
    {p : ForecastInputSnapshotPayload ParsedDateTime} {q : ForecastInputSnapshotPayload Instant} {sealedAt : Instant}
    (h : Normalizes form p q) (merges : MergesWithinLimit form p)
    (fits : (dumps floats (payloadDocument q)).length ≤ maxPayloadBytes) (cutoff : q.asOf ≤ sealedAt)
    (checked : ∀ t ∈ q.availability.checkedAt, t ≤ sealedAt) :
    ∃ record, buildSnapshotRecord form floats sha256 p sealedAt.inUtc = .ok record ∧ record.sealedAt = sealedAt := by
  have hNonempty : q.observations ≠ [] := List.ne_nil_of_length_pos h.observedValid.size.1
  obtain ⟨first, hFirst⟩ := Option.ne_none_iff_exists'.mp (mt List.head?_eq_none_iff.mp hNonempty)
  obtain ⟨last, hLast⟩ := Option.ne_none_iff_exists'.mp (mt List.getLast?_eq_none_iff.mp hNonempty)
  obtain ⟨latest, hLatest⟩ : ∃ latest, maxAvailableAt q.observations q.dataSources = some latest := by
    refine Option.ne_none_iff_exists'.mp (mt List.max?_eq_none_iff.mp ?_)
    rw [List.append_eq_nil_iff, List.map_eq_nil_iff]
    exact fun hBoth => hNonempty hBoth.1
  obtain ⟨bytes, hDumps⟩ : ∃ bytes, bytes = dumps floats (payloadDocument q) := ⟨_, rfl⟩
  rw [← hDumps] at fits
  have hBytes : canonicalSnapshotPayload form floats q.inUtc = .ok bytes :=
    canonicalSnapshotPayload_eq_ok_iff.mpr ⟨q, h.again_iff.mpr ⟨merges, rfl⟩, hDumps, fits⟩
  refine ⟨{
    toSnapshotTerms := q.toSnapshotTerms
    snapshotId := "sha256:" ++ sha256 bytes
    asOf := q.asOf
    sealedAt := sealedAt
    observationCount := q.observations.length
    targetTimeCount := q.targetTimes.length
    firstObservedAt := first.observedAt
    lastObservedAt := last.observedAt
    maxAvailableAt := latest
    availabilityStatus := q.availability.status
    availabilityRuleSetHash := q.availability.ruleSetHash
    availabilityCheckedAt := q.availability.checkedAt
    canonicalPayload := bytes }, ?_, rfl⟩
  refine buildSnapshotRecord_eq_ok_iff.mpr ⟨q, h, Instant.toInstant_inUtc _, cutoff, checked, hBytes, ?_⟩
  refine ⟨rfl, rfl, rfl, rfl, rfl, ?_, ?_, hLatest, rfl⟩
  · rw [hFirst, Option.map_some]
  · rw [hLast, Option.map_some]

/-- The record of an assembled payload is built. -/
theorem record_of_assembled {rows : List PointInTimeBar} {arg : SpecArgument} {checkedAt sealedAt : Instant}
    {p : ForecastInputSnapshotPayload Instant} (valid : PolicyValid policy) (digest : IsDigest runtime.sha256)
    (most : rows.length ≤ policy.observationLimit) (checked : checkedAt ≤ sealedAt)
    (h : assembleVerifiedSnapshotPayload runtime rows arg checkedAt policy = .ok p) :
    ∃ record, buildSnapshotRecord runtime.rules.toNormalForm runtime.floats runtime.sha256 p.inUtc sealedAt.inUtc =
      .ok record ∧ record.sealedAt = sealedAt := by
  have hNormal := (assembled_normalizes valid digest most h).1
  obtain ⟨spec, hSpec, hCutoff, calendar, -, ordered, -, closes, -, latest, -, rfl⟩ :=
    assembleVerifiedSnapshotPayload_eq_ok_iff.mp h
  obtain ⟨-, hSymbol, ⟨-, hTarget⟩, ⟨-, hUnit⟩, -⟩ := validateSpec_eq_ok_iff.mp hSpec
  have hCounts := hNormal.observedValid.size.2
  rw [canonicalValues, payloadOf, List.length_map, List.length_map] at hCounts
  have hPlain : Plain (payloadDocument
      (canonicalValues (payloadOf runtime spec checkedAt policy ordered closes latest))) :=
    plain_assembled valid digest hSymbol hTarget hUnit
  refine exists_record hNormal (merges_single rfl rfl) ?_ (hCutoff.trans checked) fun t hMem => ?_
  · rw [length_dumps _ hPlain]
    exact size_assembled valid digest hSymbol hTarget hUnit hCounts hNormal.targetedValid.size.2
  · cases hMem
    exact checked

/-! ## A new snapshot -/

/-- A record that was built is read back as its normal form. -/
theorem checkExistingRecord_of_built {p : ForecastInputSnapshotPayload ParsedDateTime}
    {q : ForecastInputSnapshotPayload Instant} {row : ForecastInputSnapshot}
    (h : Normalizes runtime.rules.toNormalForm p q)
    (built : buildSnapshotRecord runtime.rules.toNormalForm runtime.floats runtime.sha256 p row.sealedAt.inUtc =
      .ok row) : checkExistingRecord runtime row = .ok q := by
  obtain ⟨q', hNormal, hParsed, hCanonical, hAgain⟩ := record_round_trip built
  obtain rfl : q' = q := (normalizedPayload_eq_ok_iff.mp hNormal).unique h
  obtain ⟨_, -, -, -, -, hBytes, d⟩ := buildSnapshotRecord_eq_ok_iff.mp hAgain
  obtain ⟨_, -, hDumps, hSize⟩ := canonicalSnapshotPayload_eq_ok_iff.mp hBytes
  have hBounds : ¬ (row.canonicalPayload = [] ∨ maxPayloadBytes < row.canonicalPayload.length) := by
    refine not_or.mpr ⟨?_, Nat.not_lt.mpr hSize⟩
    rw [hDumps]
    exact dumps_ne_nil _ _
  rw [checkExistingRecord, hParsed, ok_bind, hCanonical, ok_bind, refuseIf_of_not (not_not.mpr rfl), ok_bind,
    snapshotIdForPayload, refuseIf_of_not hBounds, ok_bind, pure_eq_ok, ok_bind,
    refuseIf_of_not (not_not.mpr d.snapshotId.symm), ok_bind, hAgain, ok_bind,
    refuseIf_of_not (not_not.mpr rfl), ok_bind, pure_eq_ok]

theorem length_pointInTimeRows {rows : List PointInTimeBar} {tables : Bars.BarTables} {arg : SpecArgument}
    (h : pointInTimeRows runtime arg policy tables = .ok rows) : rows.length ≤ policy.observationLimit := by
  obtain ⟨spec, -, hRows⟩ := pointInTimeRows_eq_ok h
  rw [← (forall₂_of_mapM hRows).length_eq, Bars.limitedBarVersions, List.length_take]
  exact min_le_left _ _

/-- What was verified is stored, unless another row has its digest. -/
theorem build_of_assembled {arg : SpecArgument} {clock : ClockReadings} {store : SnapshotStore}
    {rows : List PointInTimeBar} {payload : ForecastInputSnapshotPayload Instant} (valid : PolicyValid policy)
    (digest : IsDigest runtime.sha256) (hSpec : validateSpec runtime policy arg = .ok spec)
    (hNow : spec.asOf ≤ clock.databaseNow) (checked : clock.checkedAt ≤ clock.sealedAt)
    (vacant : ∀ row ∈ store.snapshots, row.semanticKey ≠ semanticKey runtime spec policy)
    (hRows : pointInTimeRows runtime (argument spec) policy store.archive.tables = .ok rows)
    (hPayload : assembleVerifiedSnapshotPayload runtime rows (argument spec) clock.checkedAt policy = .ok payload) :
    ∃ row, checkExistingRecord runtime row = .ok (canonicalValues payload) ∧ row.sealedAt = clock.sealedAt ∧
      build runtime policy arg clock store =
        if ∃ other ∈ store.snapshots, other.snapshotId = row.snapshotId then
          .error (.sql uniqueViolation)
        else .ok (resultOf spec row clock.checkedAt true,
          { store with snapshots := store.snapshots ++ [row] }) := by
  have hMost := length_pointInTimeRows hRows
  obtain ⟨record, hBuilt, hSealedAt⟩ := record_of_assembled valid digest hMost le_rfl hPayload
  obtain ⟨hStored, hStamped⟩ := insertSnapshot_of_built store.snapshots digest hBuilt (hSealedAt ▸ checked)
  have hNormal := (assembled_normalizes valid digest hMost hPayload).1
  have hRecord : checkExistingRecord runtime (stampSealedAt clock.sealedAt record) = .ok (canonicalValues payload) :=
    checkExistingRecord_of_built hNormal hStamped
  have hFits : FitsPolicy runtime spec policy (canonicalValues payload) := by
    obtain ⟨spec', hSpec', -, _, -, _, -, _, -, _, -, rfl⟩ := assembleVerifiedSnapshotPayload_eq_ok_iff.mp hPayload
    obtain rfl : spec' = spec := Except.ok.inj (hSpec'.symm.trans (validateSpec_argument hSpec))
    obtain ⟨-, -, ⟨-, hTarget⟩, ⟨-, hUnit⟩, -⟩ := validateSpec_eq_ok_iff.mp hSpec
    simp only [FitsPolicy, canonicalValues, payloadOf, hTarget, hUnit, ne_eq, reduceCtorEq, not_false_eq_true,
      and_self]
  have hTime : (canonicalValues payload).availability.checkedAt = some clock.checkedAt := by
    obtain ⟨_, -, -, _, -, _, -, _, -, _, -, rfl⟩ := assembleVerifiedSnapshotPayload_eq_ok_iff.mp hPayload
    rw [canonicalValues, payloadOf]
  have hValid : validateExistingRecord runtime (stampSealedAt clock.sealedAt record) spec policy =
      .ok clock.checkedAt := validateExistingRecord_eq_ok_iff.mpr ⟨_, hRecord, hFits, hTime⟩
  have hKey : record.semanticKey = semanticKey runtime spec policy := by
    rw [← semanticKey_of_valid hValid]
    rfl
  have hExisting : existingSnapshot runtime spec policy store.snapshots = .ok none := by
    rw [existingSnapshot, List.filter_eq_nil_iff.mpr]
    · rfl
    · simpa using vacant
  refine ⟨stampSealedAt clock.sealedAt record, hRecord, rfl, ?_⟩
  have hTaken : (∃ other ∈ store.snapshots, other.snapshotId = record.snapshotId ∨
      other.semanticKey = record.semanticKey) ↔
        ∃ other ∈ store.snapshots, other.snapshotId = (stampSealedAt clock.sealedAt record).snapshotId := by
    refine exists_congr fun other => and_congr_right fun hMem => ?_
    rw [hKey, or_iff_left (vacant other hMem)]
    rfl
  rw [build, hSpec, ok_bind, refuseIf_of_not (not_lt.mpr hNow), ok_bind, hExisting, ok_bind, createSnapshot, hRows,
    ok_bind, hPayload, ok_bind, hBuilt, Except.mapError, ok_bind, hStored, if_congr hTaken rfl rfl]
  split_ifs with hOther
  · rfl
  · rw [Except.mapError, ok_bind]
    simp only [hValid, ok_bind, pure_eq_ok]
    rfl

/-- The digest under which a verified payload is stored. -/
def payloadDigest (runtime : BuildRuntime) (payload : ForecastInputSnapshotPayload Instant) : String :=
  "sha256:" ++ runtime.sha256 (dumps runtime.floats (payloadDocument (canonicalValues payload)))

theorem snapshotId_of_checked {row : ForecastInputSnapshot} {payload : ForecastInputSnapshotPayload Instant}
    (h : checkExistingRecord runtime row = .ok (canonicalValues payload)) :
    row.snapshotId = payloadDigest runtime payload := by
  obtain ⟨hParsed, -, hBuilt⟩ := checkExistingRecord_eq_ok h
  obtain ⟨q, hNormal, -, -, -, hBytes, d⟩ := buildSnapshotRecord_eq_ok_iff.mp hBuilt
  obtain ⟨q', hNormal', hDumps, -⟩ := canonicalSnapshotPayload_eq_ok_iff.mp hBytes
  obtain ⟨_, hp⟩ := normalizes_of_parsed hParsed
  obtain rfl := (hp.again_iff.mp hNormal).2
  obtain rfl := (hp.again_iff.mp hNormal').2
  rw [d.snapshotId, hDumps, payloadDigest]

/-- A row that is read back passes the validation of a reader. -/
theorem validateRecord_of_checked {row : ForecastInputSnapshot} {q : ForecastInputSnapshotPayload Instant}
    (digest : IsDigest runtime.sha256) (h : checkExistingRecord runtime row = .ok q) :
    validateRecord runtime.rules.toNormalForm runtime.floats runtime.sha256 (row.map Instant.inUtc) = .ok q ∧
      IsHash row.snapshotId ∧ Describes runtime.sha256 q row := by
  obtain ⟨hParsed, -, hBuilt⟩ := checkExistingRecord_eq_ok h
  obtain ⟨again, hAgain, -, -, -, -, hDescribes⟩ := buildSnapshotRecord_eq_ok_iff.mp hBuilt
  obtain ⟨_, hp⟩ := normalizes_of_parsed hParsed
  obtain rfl := (hp.again_iff.mp hAgain).2
  have hHash : IsHash row.snapshotId := hDescribes.snapshotId ▸ isHash_digest digest row.canonicalPayload
  obtain ⟨accepted, hAccepted, hValidated⟩ := validateRecord_of_built hBuilt hHash
  obtain rfl := hAccepted.unique hAgain
  exact ⟨hValidated, hHash, hDescribes⟩

/-- Any writer may insert the record of a verified payload whose digest and key are free. -/
theorem step_of_assembled {table : List ForecastInputSnapshot} {rows : List PointInTimeBar} {arg : SpecArgument}
    {checkedAt sealedAt : Instant} {payload : ForecastInputSnapshotPayload Instant} (valid : PolicyValid policy)
    (digest : IsDigest runtime.sha256) (most : rows.length ≤ policy.observationLimit) (checked : checkedAt ≤ sealedAt)
    (h : assembleVerifiedSnapshotPayload runtime rows arg checkedAt policy = .ok payload)
    (free : ∀ other ∈ table, other.snapshotId ≠ payloadDigest runtime payload ∧
      other.semanticKey ≠ payload.toSnapshotTerms.semanticKey payload.asOf) :
    ∃ row, SnapshotStep runtime.sha256 table (table ++ [row]) ∧
      checkExistingRecord runtime row = .ok (canonicalValues payload) ∧ row.sealedAt = sealedAt := by
  obtain ⟨record, hBuilt, hSealedAt⟩ := record_of_assembled valid digest most checked h
  obtain ⟨hStored, hStamped⟩ := insertSnapshot_of_built table digest hBuilt hSealedAt.le
  have hNormal := (assembled_normalizes valid digest most h).1
  have hRecord : checkExistingRecord runtime (stampSealedAt sealedAt record) = .ok (canonicalValues payload) :=
    checkExistingRecord_of_built hNormal hStamped
  have hStampedId := snapshotId_of_checked hRecord
  have hId : record.snapshotId = payloadDigest runtime payload := hStampedId
  have hKey : record.semanticKey = payload.toSnapshotTerms.semanticKey payload.asOf := by
    obtain ⟨q, hOwn, -, -, -, -, d⟩ := buildSnapshotRecord_eq_ok_iff.mp hBuilt
    rw [ForecastInputSnapshotRecord.semanticKey, d.terms, d.asOf, hOwn.unique hNormal]
    rfl
  rw [if_neg] at hStored
  · exact ⟨_, ⟨.insert sealedAt record, congrArg (Except.map Prod.snd) hStored⟩, hRecord, rfl⟩
  · rintro ⟨other, hMem, hSame | hSame⟩
    · exact (free other hMem).1 (hSame.trans hId)
    · exact (free other hMem).2 (hSame.trans hKey)

/-- A build of a key that no row occupies succeeds exactly when the cutoff is not ahead of the clock, the rows
pass the verification and the digest of the payload is free. It then appends the row that is read back as the
verified payload. -/
theorem builds_store_what_was_verified {arg : SpecArgument} {clock : ClockReadings} {store : SnapshotStore}
    (valid : PolicyValid policy) (digest : IsDigest runtime.sha256)
    (hSpec : validateSpec runtime policy arg = .ok spec) (checked : clock.checkedAt ≤ clock.sealedAt)
    (vacant : ∀ row ∈ store.snapshots, row.semanticKey ≠ semanticKey runtime spec policy) :
    ((∃ result store', build runtime policy arg clock store = .ok (result, store')) ↔
      spec.asOf ≤ clock.databaseNow ∧ ∃ rows payload,
        pointInTimeRows runtime (argument spec) policy store.archive.tables = .ok rows ∧
        assembleVerifiedSnapshotPayload runtime rows (argument spec) clock.checkedAt policy = .ok payload ∧
        ∀ other ∈ store.snapshots, other.snapshotId ≠ payloadDigest runtime payload) ∧
    ∀ result store', build runtime policy arg clock store = .ok (result, store') → ∃ rows payload row,
      pointInTimeRows runtime (argument spec) policy store.archive.tables = .ok rows ∧
      assembleVerifiedSnapshotPayload runtime rows (argument spec) clock.checkedAt policy = .ok payload ∧
      checkExistingRecord runtime row = .ok (canonicalValues payload) ∧ row.sealedAt = clock.sealedAt ∧
      row.snapshotId = payloadDigest runtime payload ∧ result = resultOf spec row clock.checkedAt true ∧
      store' = { store with snapshots := store.snapshots ++ [row] } := by
  have hStored : ∀ result store', build runtime policy arg clock store = .ok (result, store') →
      spec.asOf ≤ clock.databaseNow ∧ ∃ rows payload row,
        pointInTimeRows runtime (argument spec) policy store.archive.tables = .ok rows ∧
        assembleVerifiedSnapshotPayload runtime rows (argument spec) clock.checkedAt policy = .ok payload ∧
        checkExistingRecord runtime row = .ok (canonicalValues payload) ∧ row.sealedAt = clock.sealedAt ∧
        (∀ other ∈ store.snapshots, other.snapshotId ≠ row.snapshotId) ∧
        result = resultOf spec row clock.checkedAt true ∧
        store' = { store with snapshots := store.snapshots ++ [row] } := by
    intro result store' h
    have hParts := h
    rw [build, hSpec, ok_bind, refuseIf_bind_eq_ok_iff, not_lt, bind_eq_ok_iff] at hParts
    obtain ⟨hNow, existing, hExisting, hParts⟩ := hParts
    cases existing with
    | some row =>
      obtain ⟨hMem, hKey⟩ := mem_of_existingSnapshot hExisting
      exact absurd hKey (vacant row hMem)
    | none =>
      simp only [createSnapshot, bind_eq_ok_iff] at hParts
      obtain ⟨rows, hRows, payload, hPayload, -⟩ := hParts
      obtain ⟨row, hRecord, hSealedAt, hBuild⟩ :=
        build_of_assembled valid digest hSpec hNow checked vacant hRows hPayload
      rw [hBuild] at h
      split_ifs at h with hTaken
      cases h
      exact ⟨hNow, rows, payload, row, hRows, hPayload, hRecord, hSealedAt,
        fun other hMem hSame => hTaken ⟨other, hMem, hSame⟩, rfl, rfl⟩
  refine ⟨⟨?_, ?_⟩, ?_⟩
  · rintro ⟨result, store', h⟩
    obtain ⟨hNow, rows, payload, row, hRows, hPayload, hRecord, -, hFree, -⟩ := hStored result store' h
    exact ⟨hNow, rows, payload, hRows, hPayload, snapshotId_of_checked hRecord ▸ hFree⟩
  · rintro ⟨hNow, rows, payload, hRows, hPayload, hFree⟩
    obtain ⟨row, hRecord, -, hBuild⟩ := build_of_assembled valid digest hSpec hNow checked vacant hRows hPayload
    refine ⟨_, _, hBuild.trans (if_neg ?_)⟩
    rintro ⟨other, hMem, hSame⟩
    exact hFree other hMem (hSame.trans (snapshotId_of_checked hRecord))
  · intro result store' h
    obtain ⟨-, rows, payload, row, hRows, hPayload, hRecord, hSealedAt, -, hResult, hStore⟩ := hStored result store' h
    exact ⟨rows, payload, row, hRows, hPayload, hRecord, hSealedAt, snapshotId_of_checked hRecord, hResult, hStore⟩

end Normal

theorem defaultSnapshotBuildPolicy_valid : PolicyValid defaultSnapshotBuildPolicy where
  basis := rfl
  timespan := by decide
  multiplier := by decide
  currency := by decide
  source := isText_of_chars (by decide) (by decide) (by decide) (by decide)
  sourcePlain := by decide
  symbols := by decide
  least := by decide
  most := by decide
  targets := by decide

/-! ### A Monday -/

/-- A digest that tells texts of different lengths apart. -/
def lengthDigits (bytes : Bytes) : String := String.ofList (Float64.hexChars 64 bytes.length)

theorem isDigest_lengthDigits : IsDigest lengthDigits := by
  intro bytes
  rw [lengthDigits, String.toList_ofList]
  exact ⟨Float64.length_hexChars 64 _, Float64.all_hexChars 64 _⟩

theorem lengthDigits_ne {a b : Bytes} (ha : a.length < 16 ^ 64) (hb : b.length < 16 ^ 64) (h : a.length ≠ b.length) :
    lengthDigits a ≠ lengthDigits b := by
  intro hSame
  have hChars := congrArg (fun s : String => Float64.hexNumber s.toList) hSame
  simp only [lengthDigits, String.toList_ofList, Float64.hexNumber_hexChars 64 _ ha,
    Float64.hexNumber_hexChars 64 _ hb] at hChars
  exact h hChars

def sampleRuntime : BuildRuntime :=
  ⟨asciiRules, plainFloats, lengthDigits, fun _ => some sampleCalendar, "4.13.2", "2025.2", "2.3.3"⟩

def samplePolicy : ForecastSnapshotBuildPolicy := { minimumObservations := 1, targetTimeCount := 1 }

theorem samplePolicy_valid : PolicyValid samplePolicy where
  basis := rfl
  timespan := by decide
  multiplier := by decide
  currency := by decide
  source := isText_of_chars (by decide) (by decide) (by decide) (by decide)
  sourcePlain := by decide
  symbols := by decide
  least := by decide
  most := by decide
  targets := by decide

theorem length_sample {runtime : BuildRuntime} {spec : SnapshotBuildSpec} {checkedAt latest close : Instant}
    {ordered : List PointInTimeBar} (digest : IsDigest runtime.sha256)
    (hSymbol : spec.symbol ∈ samplePolicy.allowedSymbols) (hTarget : spec.target = "close")
    (hUnit : spec.horizonUnit = "trading_day") (some : 0 < ordered.length) :
    (dumps runtime.floats (payloadDocument
      (canonicalValues (payloadOf runtime spec checkedAt samplePolicy ordered [close] latest)))).length =
        spec.symbol.toList.length + ordered.length * 122 + 770 := by
  have hHash : ∀ document, (hashDocument runtime document).toList.length = 71 := fun _ => (isHash_digest digest _).2.1
  have hSchema : (ofInt 1).chars.length = 1 := by decide
  have hObservations : sizeItems runtime.floats (((ordered.map fun row =>
      SnapshotObservation.mk row.observedAt row.availableAt row.close).map fun o =>
        { o with value := o.value.canonicalZero }).map observationDocument) = ordered.length * 122 := by
    clear some
    induction ordered with
    | nil => rfl
    | cons row rest ih =>
      rw [List.map_cons, List.map_cons, List.map_cons, sizeItems, ih, size_observationDocument, List.length_cons]
      omega
  rw [length_dumps _ (plain_assembled samplePolicy_valid digest hSymbol hTarget hUnit)]
  simp only [payloadDocument, canonicalValues, payloadOf, availabilityDocument, sourceDocument, size, sizeEntries,
    sizeItems, Json.plain, size_timeDocument, resolutionPolicyHash, availabilityRuleSetHash, sourceSnapshotId, hHash,
    Option.elim_some, List.map_cons, List.map_nil, hTarget, hUnit, samplePolicy, hSchema, hObservations,
    String.reduceToList, List.length_cons, List.length_nil, Nat.reduceAdd]
  omega

def afterMonday (micros : Fin 1000) : Instant :=
  ⟨(sampleClose 7).micros + micros, by
    have hClose : (sampleClose 7).micros = 7 * dayMicros + 75600000000 := rfl
    have := micros.isLt
    unfold dayMicros maxDays at *
    omega⟩

def mondayKey : Bars.BarKey := ⟨"SPY", "day", 1, (sampleClose 7).micros, "polygon_open_close", "raw"⟩

/-- The bar of the session, fetched at its close. -/
def mondayInsert : Bars.BarRow :=
  ⟨mondayKey, ⟨1, 1, 1, 1, 0, none, none⟩, (sampleClose 7).micros, (sampleClose 7).micros⟩

def mondayWrites : List Bars.BarWrite :=
  [.insert ⟨(sampleClose 7).micros, 7⟩ mondayInsert,
    .receipt ⟨(sampleClose 7).micros + 1, 8⟩ mondayKey (sampleClose 7).micros]

def mondayArchive : Bars.Archive :=
  ⟨⟨[Bars.stampInsert ⟨(sampleClose 7).micros, 7⟩ mondayInsert], [],
    [⟨mondayKey, (sampleClose 7).micros, (sampleClose 7).micros + 1⟩]⟩,
    [Bars.stampInsert ⟨(sampleClose 7).micros, 7⟩ mondayInsert]⟩

def mondaySpec : SnapshotBuildSpec := ⟨"SPY", "close", "trading_day", afterMonday 5⟩

def mondayBar : PointInTimeBar :=
  ⟨"SPY", "day", 1, "polygon_open_close", "raw", sampleClose 7, Float64.ofValue 1, sampleClose 7, sampleClose 7,
    sampleClose 7, afterMonday 1, 1⟩

def mondayClock : ClockReadings := ⟨afterMonday 6, afterMonday 6, afterMonday 7⟩

theorem mondaySpec_valid : validateSpec sampleRuntime samplePolicy (argument mondaySpec) = .ok mondaySpec := by
  decide +kernel

theorem mondayRows : pointInTimeRows sampleRuntime (argument mondaySpec) samplePolicy mondayArchive.tables =
    .ok [mondayBar] := by
  decide +kernel

/-- What is assembled from one bar of the Monday. -/
def payloadOfBar (spec : SnapshotBuildSpec) (bar : PointInTimeBar) : ForecastInputSnapshotPayload Instant :=
  payloadOf sampleRuntime spec mondayClock.checkedAt samplePolicy [bar] [sampleClose 8] (afterMonday 1)

def mondayPayload : ForecastInputSnapshotPayload Instant := payloadOfBar mondaySpec mondayBar

theorem mondayPayload_assembled : assembleVerifiedSnapshotPayload sampleRuntime [mondayBar] (argument mondaySpec)
    mondayClock.checkedAt samplePolicy = .ok mondayPayload := by
  refine assembleVerifiedSnapshotPayload_eq_ok_iff.mpr ⟨mondaySpec, mondaySpec_valid, ?_, sampleCalendar, rfl,
    [mondayBar], by decide +kernel, [sampleClose 8], by decide +kernel, afterMonday 1, rfl, rfl⟩
  exact Instant.le_iff.mpr (Nat.le_succ _)

theorem monday_build : ∃ row, checkExistingRecord sampleRuntime row = .ok (canonicalValues mondayPayload) ∧
    build sampleRuntime samplePolicy (argument mondaySpec) mondayClock ⟨mondayArchive, []⟩ =
      .ok (resultOf mondaySpec row mondayClock.checkedAt true, ⟨mondayArchive, [row]⟩) := by
  have hNow : mondaySpec.asOf ≤ mondayClock.databaseNow := Instant.le_iff.mpr (Nat.le_succ _)
  have hChecked : mondayClock.checkedAt ≤ mondayClock.sealedAt := Instant.le_iff.mpr (Nat.le_succ _)
  obtain ⟨row, hRecord, -, hBuild⟩ : ∃ row, _ ∧ _ ∧ build sampleRuntime samplePolicy (argument mondaySpec) mondayClock
      ⟨mondayArchive, []⟩ = _ :=
    build_of_assembled samplePolicy_valid isDigest_lengthDigits mondaySpec_valid hNow hChecked
      (fun _ hMem => absurd hMem List.not_mem_nil) mondayRows mondayPayload_assembled
  rw [if_neg (fun ⟨_, hMem, _⟩ => absurd hMem List.not_mem_nil)] at hBuild
  exact ⟨row, hRecord, hBuild⟩

theorem builds_store_what_was_verified_monday : ∃ result store,
    build sampleRuntime samplePolicy (argument mondaySpec) mondayClock ⟨mondayArchive, []⟩ = .ok (result, store) ∧
      ∃ row payload, store.snapshots = [row] ∧ checkExistingRecord sampleRuntime row = .ok (canonicalValues payload) ∧
        row.snapshotId = payloadDigest sampleRuntime payload := by
  have hNow : mondaySpec.asOf ≤ mondayClock.databaseNow := Instant.le_iff.mpr (Nat.le_succ _)
  have hChecked : mondayClock.checkedAt ≤ mondayClock.sealedAt := Instant.le_iff.mpr (Nat.le_succ _)
  obtain ⟨hReturns, hStores⟩ := @builds_store_what_was_verified sampleRuntime samplePolicy mondaySpec
    (argument mondaySpec) mondayClock ⟨mondayArchive, []⟩ samplePolicy_valid isDigest_lengthDigits mondaySpec_valid
    hChecked (fun _ hMem => absurd hMem List.not_mem_nil)
  obtain ⟨result, store, hBuild⟩ := hReturns.mpr
    ⟨hNow, [mondayBar], _, mondayRows, mondayPayload_assembled, fun _ hMem => absurd hMem List.not_mem_nil⟩
  obtain ⟨-, payload, row, -, -, hRecord, -, hDigest, -, hStore⟩ := hStores result store hBuild
  exact ⟨result, store, hBuild, row, payload, congrArg SnapshotStore.snapshots hStore, hRecord, hDigest⟩

end StockApi.Snapshots.Builder

import StockApi.Library.DocumentSize
import StockApi.Snapshots.Records

/-!
# What the snapshot bytes determine

The bytes of a payload stand for its normal form. They are read back exactly when no merge of data
sources exceeds the limit on fields, and a record is built only from bytes that are.
-/

namespace StockApi.Snapshots

open Checked CivilTime Documents Groups Text

section Bytes

variable {form : NormalForm} {floats : FloatText}

theorem Normalizes.readable {p : ForecastInputSnapshotPayload ParsedDateTime}
    {q : ForecastInputSnapshotPayload Instant} (h : Normalizes form p q) : Readable q := by
  constructor
  · intro o hMem
    obtain ⟨entry, -, hEntry⟩ := List.mem_map.mp (h.observed.mem_iff.mpr (List.mem_map_of_mem hMem))
    simp only [observe, Option.bind_eq_bind, Option.bind_eq_some_iff, Option.ite_none_right_eq_some,
      Option.some.injEq] at hEntry
    obtain ⟨observedAt, -, availableAt, -, hFinite, rfl⟩ := hEntry
    exact ⟨Float64.isFinite_canonicalZero hFinite, Float64.canonicalZero_canonicalZero _⟩
  · have hValid := h.provedValid
    generalize q.availability = a at hValid ⊢
    cases hValid <;> simp

theorem canonicalSnapshotPayload_eq_ok_iff {p : ForecastInputSnapshotPayload ParsedDateTime}
    {bytes : Bytes} :
    canonicalSnapshotPayload form floats p = .ok bytes ↔
      ∃ q, Normalizes form p q ∧ bytes = dumps floats (payloadDocument q) ∧
        bytes.length ≤ maxPayloadBytes := by
  rw [canonicalSnapshotPayload, bind_eq_ok_iff]
  constructor
  · rintro ⟨q, hNormal, h⟩
    rw [refuseIf_bind_eq_ok_iff, Nat.not_lt, pure_eq_ok] at h
    obtain ⟨hSize, h⟩ := h
    have hBytes := (Except.ok.inj h).symm
    exact ⟨q, normalizedPayload_eq_ok_iff.mp hNormal, hBytes, hBytes ▸ hSize⟩
  · rintro ⟨q, hNormal, hBytes, hSize⟩
    refine ⟨q, normalizedPayload_eq_ok_iff.mpr hNormal, ?_⟩
    rw [← hBytes]
    exact refuseIf_bind_eq_ok_iff.mpr ⟨Nat.not_lt.mpr hSize, rfl⟩

/-- The reader normalizes the normal form again. -/
theorem parse_dumps {q : ForecastInputSnapshotPayload Instant} (readable : Readable q)
    (size : (dumps floats (payloadDocument q)).length ≤ maxPayloadBytes) :
    parseSnapshotPayload form floats (dumps floats (payloadDocument q)) =
      normalizedPayload form q.inUtc := by
  have hBounds : ¬ (dumps floats (payloadDocument q) = [] ∨
      maxPayloadBytes < (dumps floats (payloadDocument q)).length) :=
    not_or.mpr ⟨dumps_ne_nil _ _, Nat.not_lt.mpr size⟩
  rw [parseSnapshotPayload, refuseIf_of_not hBounds, ok_bind,
    loads_dumps floats (ordered_payloadDocument q)]
  have hRead := readPayload_document readable
  rw [Except.mapError, ok_bind, hRead, ok_bind]

/-- Normal forms with the same bytes are the same. -/
theorem dumps_payloadDocument_inj {q r : ForecastInputSnapshotPayload Instant} (hq : Readable q)
    (hr : Readable r) (h : dumps floats (payloadDocument q) = dumps floats (payloadDocument r)) :
    q = r := by
  have hLoads := congrArg (loads floats) h
  rw [loads_dumps floats (ordered_payloadDocument q), loads_dumps floats (ordered_payloadDocument r)]
    at hLoads
  have hRead := readPayload_document hq
  rw [Except.ok.inj hLoads, readPayload_document hr] at hRead
  exact (Except.ok.inj hRead).symm

end Bytes

/-! ## Reading back -/

/-- A normal form is returned unchanged, and its bytes are parsed, exactly when the sources that are
merged have no more fields together than one source may list. -/
theorem normalization_reads_back_iff (form : NormalForm) (floats : FloatText)
    (p : ForecastInputSnapshotPayload ParsedDateTime) (q : ForecastInputSnapshotPayload Instant)
    (accepted : normalizedPayload form p = .ok q) :
    (normalizedPayload form q.inUtc = .ok q ↔ MergesWithinLimit form p) ∧
      ∀ bytes, canonicalSnapshotPayload form floats p = .ok bytes →
        ((∃ r, parseSnapshotPayload form floats bytes = .ok r) ↔ MergesWithinLimit form p) := by
  have hNormal := normalizedPayload_eq_ok_iff.mp accepted
  constructor
  · rw [normalizedPayload_eq_ok_iff, hNormal.again_iff]
    exact and_iff_left rfl
  · intro bytes hBytes
    obtain ⟨q', hNormal', hDumps, hSize⟩ := canonicalSnapshotPayload_eq_ok_iff.mp hBytes
    rw [hNormal'.unique hNormal] at hDumps
    rw [hDumps] at hSize ⊢
    rw [parse_dumps hNormal.readable hSize]
    simp only [normalizedPayload_eq_ok_iff, hNormal.again_iff]
    exact ⟨fun ⟨_, hLimit, _⟩ => hLimit, fun hLimit => ⟨_, hLimit, rfl⟩⟩

/-! ### A sample -/

theorem plainForm_again (s : String) : id (id s) = id s := rfl

def plainForm : NormalForm := ⟨id, plainForm_again⟩

def plainFloats : FloatText := ⟨fun _ => 0, fun _ => ⟨false, 0, none, none⟩⟩

theorem sampleCutoff_inRange : 63763200000000000 < maxDays * dayMicros := by decide

def sampleCutoff : Instant := ⟨63763200000000000, sampleCutoff_inRange⟩

theorem sampleEarlier_inRange : 63763113600000000 < maxDays * dayMicros := by decide

def sampleEarlier : Instant := ⟨63763113600000000, sampleEarlier_inRange⟩

theorem sampleTarget_inRange : 63849600000000000 < maxDays * dayMicros := by decide

def sampleTarget : Instant := ⟨63849600000000000, sampleTarget_inRange⟩

theorem laterTarget_inRange : 63849686400000000 < maxDays * dayMicros := by decide

def laterTarget : Instant := ⟨63849686400000000, laterTarget_inRange⟩

/-- The observations, the targets and the bounds come one after the other. -/
theorem sample_ordered : sampleEarlier < sampleCutoff ∧ sampleCutoff < sampleTarget ∧ sampleTarget < laterTarget := by
  simp only [Instant.lt_iff]
  decide

def sampleHash : String :=
  String.ofList (['s', 'h', 'a', '2', '5', '6', ':'] ++ List.replicate 64 '0')

def sampleTerms : SnapshotTerms where
  resolutionPolicyHash := sampleHash
  symbol := "SPY"
  target := "return"
  horizonUnit := "trading_day"
  seriesBasis := "raw"
  inputTimespan := "day"
  inputMultiplier := 1
  currency := none
  schemaVersion := 1

def sampleValue : Float64 := ⟨0x3FF0000000000000⟩

/-- A payload of two observations and two target times with a passed check, normalized up to its sources. -/
def sampleNormal (lines : List (SnapshotSourceLineage Instant)) :
    ForecastInputSnapshotPayload Instant where
  toSnapshotTerms := sampleTerms
  asOf := sampleCutoff
  observations := [⟨sampleEarlier, sampleEarlier, sampleValue⟩, ⟨sampleCutoff, sampleCutoff, .zero⟩]
  targetTimes := [sampleTarget, laterTarget]
  dataSources := lines
  availability := ⟨"passed", some sampleHash, some sampleCutoff⟩

def samplePayload (sources : List (SnapshotSourceLineage Instant)) :
    ForecastInputSnapshotPayload ParsedDateTime :=
  (sampleNormal sources).inUtc

def sampleLine (fields : List String) : SnapshotSourceLineage Instant :=
  ⟨"polygon", "run", sampleCutoff, fields⟩

theorem sampleTerms_valid : sampleTerms.Valid where
  version := rfl
  policyHash := isHash_ofList (by decide)
  symbolText := (isText_ofList (by decide) (by decide) (by decide) :
    IsText 32 (String.ofList ['S', 'P', 'Y']))
  isSymbol := (isSymbol_ofList (by decide) : IsSymbol (String.ofList ['S', 'P', 'Y']))
  targetText := (isText_ofList (by decide) (by decide) (by decide) :
    IsText 32 (String.ofList ['r', 'e', 't', 'u', 'r', 'n']))
  isTarget := by simp [sampleTerms, targets]
  unitText := (isText_ofList (by decide) (by decide) (by decide) :
    IsText 32 (String.ofList ['t', 'r', 'a', 'd', 'i', 'n', 'g', '_', 'd', 'a', 'y']))
  isUnit := by simp [sampleTerms, horizonUnits]
  basisText := (isText_ofList (by decide) (by decide) (by decide) :
    IsText 32 (String.ofList ['r', 'a', 'w']))
  isBasis := by simp [sampleTerms, seriesBases]
  closeIsRaw := by simp [sampleTerms]
  adjustedIsNotRaw := by simp [sampleTerms]
  timespanText := (isText_ofList (by decide) (by decide) (by decide) :
    IsText 16 (String.ofList ['d', 'a', 'y']))
  isTimespan := by simp [sampleTerms, inputTimespans]
  multiplierRange := by decide
  currencyText := by simp [sampleTerms]
  currencyFits := by simp [sampleTerms, CurrencyFits, priceTargets]

/-- The latest evidence is the observation at the cutoff, whatever the sources are. -/
theorem sample_latest {sources : List (SnapshotSourceLineage ParsedDateTime)}
    {lines : List (SnapshotSourceLineage Instant)} (h : SourcesNormalize plainForm sampleCutoff sources lines) :
    maxAvailableAt (sampleNormal lines).observations lines = some sampleCutoff := by
  rw [maxAvailableAt, List.max?_eq_some_iff]
  constructor
  · simp [sampleNormal]
  · intro t hMem
    rcases List.mem_append.mp hMem with hObserved | hSource
    · obtain ⟨o, hObservation, rfl⟩ := List.mem_map.mp hObserved
      rcases List.mem_pair.mp hObservation with rfl | rfl
      · exact sample_ordered.1.le
      · exact le_rfl
    · obtain ⟨line, hLine, rfl⟩ := List.mem_map.mp hSource
      exact h.cutoff line hLine

/-- The sample is accepted as soon as its sources are. -/
theorem sample_normalizes {sources lines : List (SnapshotSourceLineage Instant)}
    (h : SourcesNormalize plainForm sampleCutoff (sources.map (·.map Instant.inUtc)) lines) :
    Normalizes plainForm (samplePayload sources) (sampleNormal lines) where
  terms := rfl
  termsValid := sampleTerms_valid
  cutoff := Instant.toInstant_inUtc sampleCutoff
  observed := by
    have hFinite : sampleValue.isFinite = true ∧ sampleValue.canonicalZero = sampleValue := by decide
    have hZero : Float64.zero.isFinite = true ∧ Float64.zero.canonicalZero = Float64.zero := by decide
    simp [samplePayload, sampleNormal, ForecastInputSnapshotPayload.inUtc,
      ForecastInputSnapshotPayload.map, SnapshotObservation.map, observe, hFinite, hZero]
  observedValid := by
    refine ⟨by simp [sampleNormal], List.pairwise_pair.mpr sample_ordered.1, ?_⟩
    intro o hMem
    rcases List.mem_pair.mp hMem with rfl | rfl
    · exact ⟨le_rfl, sample_ordered.1.le, fun h => absurd h.2 (by decide)⟩
    · exact ⟨le_rfl, le_rfl, fun h => absurd h.2 (by decide)⟩
  targeted := by
    simp [samplePayload, sampleNormal, ForecastInputSnapshotPayload.inUtc,
      ForecastInputSnapshotPayload.map]
  targetedValid := by
    refine ⟨by simp [sampleNormal], List.pairwise_pair.mpr sample_ordered.2.2, ?_⟩
    intro t hMem
    rcases List.mem_pair.mp hMem with rfl | rfl
    · exact sample_ordered.2.1
    · exact sample_ordered.2.1.trans sample_ordered.2.2
  sourced := h
  proved := by
    simp [samplePayload, sampleNormal, ForecastInputSnapshotPayload.inUtc, ForecastInputSnapshotPayload.map,
      SnapshotAvailabilityEvidence.map]
  provedValid := .passed sampleTerms_valid.policyHash (sample_latest h) (max_self sampleCutoff).le

/-- The key and the fields of a line. -/
def lineItem (line : SnapshotSourceLineage Instant) : SourceKey × Finset String :=
  (⟨line.name, line.snapshotId, line.maxAvailableAt⟩, line.fields.toFinset)

theorem sourceItem_lineItem (line : SnapshotSourceLineage Instant) :
    sourceItem plainForm (line.map Instant.inUtc) = some (lineItem line) := by
  rw [sourceItem_eq_some_iff]
  constructor
  · rw [sourceKey, SnapshotSourceLineage.map, Instant.toInstant_inUtc]
    rfl
  · rw [SnapshotSourceLineage.map, lineItem]
    exact congrArg List.toFinset (List.map_id _)

theorem sampleLine_itemValid {fields : List String} (h : ∀ f ∈ fields, IsText 128 f) :
    SourceItemValid sampleCutoff (lineItem (sampleLine fields)) where
  nameText := (isText_ofList (by decide) (by decide) (by decide) :
    IsText 64 (String.ofList ['p', 'o', 'l', 'y', 'g', 'o', 'n']))
  idText := (isText_ofList (by decide) (by decide) (by decide) :
    IsText 128 (String.ofList ['r', 'u', 'n']))
  cutoff := le_rfl
  fieldTexts := fun f hMem => h f (List.mem_toFinset.mp hMem)

/-- A few sources under the key of the sample. -/
theorem sampleLines_normalize {lists : List (List String)} (size : 1 ≤ lists.length ∧ lists.length ≤ 64)
    (counts : ∀ fields ∈ lists, 1 ≤ fields.length ∧ fields.length ≤ 128)
    (texts : ∀ fields ∈ lists, ∀ f ∈ fields, IsText 128 f) :
    SourcesNormalize plainForm sampleCutoff ((lists.map sampleLine).map (·.map Instant.inUtc))
      ((grouped ((lists.map sampleLine).map lineItem)).map sourceLine) := by
  refine ⟨by simpa using size, ?_, (lists.map sampleLine).map lineItem, ?_, ?_, rfl⟩
  · intro s hMem
    rw [List.map_map, List.mem_map] at hMem
    obtain ⟨fields, hFields, rfl⟩ := hMem
    exact counts fields hFields
  · rw [List.map_map, List.map_map (g := some)]
    apply List.map_congr_left
    intro line _
    rw [Function.comp_apply, sourceItem_lineItem, Function.comp_apply]
  · intro item hMem
    rw [List.map_map, List.mem_map] at hMem
    obtain ⟨fields, hFields, rfl⟩ := hMem
    exact sampleLine_itemValid (texts fields hFields)

/-- `"a"`, `"aa"`, `"aaa"` and so on. -/
def aField (i : Nat) : String := String.ofList (List.replicate (i + 1) 'a')

/-- One source with as many fields as are allowed, and one more field from the same lineage. -/
def wideLists : List (List String) := [(List.range 128).map aField, ["b"]]

theorem isText_aField {i : Nat} (h : i < 128) : IsText 128 (aField i) := by
  have hSpace : isSpace 'a' = false := by decide
  refine isText_ofList (by simp) ?_ (by rw [List.length_replicate]; omega)
  rw [List.replicate_succ, List.head?_cons, ← List.replicate_succ, List.getLast?_replicate]
  simp [hSpace]

theorem wideLists_normalize : SourcesNormalize plainForm sampleCutoff
    ((wideLists.map sampleLine).map (·.map Instant.inUtc))
    ((grouped ((wideLists.map sampleLine).map lineItem)).map sourceLine) := by
  refine sampleLines_normalize (by decide) ?_ ?_
  · intro fields hMem
    rcases List.mem_pair.mp hMem with rfl | rfl <;> simp
  · intro fields hMem f hField
    rcases List.mem_pair.mp hMem with rfl | rfl
    · obtain ⟨i, hi, rfl⟩ := List.mem_map.mp hField
      exact isText_aField (List.mem_range.mp hi)
    · rw [List.mem_singleton.mp hField]
      exact (isText_ofList (by decide) (by decide) (by decide) : IsText 128 (String.ofList ['b']))

theorem wideFields_nodup : ((List.range 128).map aField ++ ["b"]).Nodup := by
  rw [List.nodup_append]
  refine ⟨?_, List.nodup_singleton _, ?_⟩
  · refine List.Nodup.map (fun i j h => ?_) List.nodup_range
    have hLength := congrArg String.length h
    rw [aField, aField, String.length_ofList, String.length_ofList, List.length_replicate,
      List.length_replicate] at hLength
    omega
  · rintro f hMem other hOther rfl
    obtain ⟨i, -, hField⟩ := List.mem_map.mp hMem
    rw [List.mem_singleton.mp hOther, aField, List.replicate_succ] at hField
    have hChars : (String.ofList ('a' :: List.replicate i 'a')).toList = (String.ofList ['b']).toList :=
      congrArg String.toList hField
    rw [String.toList_ofList, String.toList_ofList] at hChars
    cases hChars

theorem wide_not_within_limit : ¬ MergesWithinLimit plainForm (samplePayload (wideLists.map sampleLine)) := by
  intro h
  have hFirst := h ((sampleLine ((List.range 128).map aField)).map Instant.inUtc) (List.mem_cons_self ..)
  have hSubset : ((List.range 128).map aField ++ ["b"]).toFinset ⊆ mergedFields plainForm
      (samplePayload (wideLists.map sampleLine)).dataSources
      ((sampleLine ((List.range 128).map aField)).map Instant.inUtc) := by
    intro f hMem
    rw [List.mem_toFinset, List.mem_append] at hMem
    rw [mergedFields, List.mem_toFinset, List.mem_flatMap]
    rcases hMem with hMem | hMem
    · refine ⟨(sampleLine ((List.range 128).map aField)).map Instant.inUtc, ?_, ?_⟩
      · rw [List.mem_filter]
        exact ⟨List.mem_cons_self .., by simp⟩
      · exact (List.map_id _).symm ▸ hMem
    · refine ⟨(sampleLine ["b"]).map Instant.inUtc, ?_, ?_⟩
      · rw [List.mem_filter]
        refine ⟨List.mem_cons_of_mem _ (List.mem_cons_self ..), ?_⟩
        simp [sourceKey, sampleLine, SnapshotSourceLineage.map]
      · exact (List.map_id _).symm ▸ hMem
  have hCard := (Finset.card_le_card hSubset).trans hFirst
  rw [List.toFinset_card_of_nodup wideFields_nodup] at hCard
  simp at hCard

/-- Two sources of one lineage with a hundred and twenty-nine fields together. -/
theorem normalization_refuses_its_result :
    ∃ q, normalizedPayload plainForm (samplePayload (wideLists.map sampleLine)) = .ok q ∧
      ∀ r, normalizedPayload plainForm q.inUtc ≠ .ok r := by
  have hNormal := sample_normalizes wideLists_normalize
  refine ⟨_, normalizedPayload_eq_ok_iff.mpr hNormal, fun r hAgain => ?_⟩
  exact wide_not_within_limit (hNormal.limit_of_again (normalizedPayload_eq_ok_iff.mp hAgain))

theorem card_mergedFields_le (form : NormalForm)
    (sources : List (SnapshotSourceLineage ParsedDateTime))
    (source : SnapshotSourceLineage ParsedDateTime) :
    (mergedFields form sources source).card ≤ (sources.flatMap SnapshotSourceLineage.fields).length := by
  have hSubset : mergedFields form sources source ⊆
      ((sources.flatMap SnapshotSourceLineage.fields).map form.nfc).toFinset := by
    intro f hMem
    rw [mergedFields, List.mem_toFinset, List.mem_flatMap] at hMem
    obtain ⟨other, hOther, hField⟩ := hMem
    obtain ⟨value, hValue, rfl⟩ := List.mem_map.mp hField
    exact List.mem_toFinset.mpr (List.mem_map_of_mem
      (List.mem_flatMap.mpr ⟨other, List.mem_of_mem_filter hOther, hValue⟩))
  calc (mergedFields form sources source).card
      ≤ ((sources.flatMap SnapshotSourceLineage.fields).map form.nfc).toFinset.card :=
        Finset.card_le_card hSubset
    _ ≤ ((sources.flatMap SnapshotSourceLineage.fields).map form.nfc).length := List.toFinset_card_le _
    _ = (sources.flatMap SnapshotSourceLineage.fields).length := List.length_map _

/-- Two sources of one lineage. -/
def pairLists : List (List String) := [["close"], ["volume"]]

theorem pairLists_normalize : SourcesNormalize plainForm sampleCutoff
    ((pairLists.map sampleLine).map (·.map Instant.inUtc))
    ((grouped ((pairLists.map sampleLine).map lineItem)).map sourceLine) := by
  refine sampleLines_normalize (by decide) ?_ ?_
  · intro fields hMem
    rcases List.mem_pair.mp hMem with rfl | rfl <;> simp
  · intro fields hMem f hField
    rcases List.mem_pair.mp hMem with rfl | rfl
    · rw [List.mem_singleton.mp hField]
      exact (isText_ofList (by decide) (by decide) (by decide) :
        IsText 128 (String.ofList ['c', 'l', 'o', 's', 'e']))
    · rw [List.mem_singleton.mp hField]
      exact (isText_ofList (by decide) (by decide) (by decide) :
        IsText 128 (String.ofList ['v', 'o', 'l', 'u', 'm', 'e']))

theorem normalization_reads_back_pair :
    ∃ q, normalizedPayload plainForm (samplePayload (pairLists.map sampleLine)) = .ok q ∧
      normalizedPayload plainForm q.inUtc = .ok q := by
  have hNormal := normalizedPayload_eq_ok_iff.mpr (sample_normalizes pairLists_normalize)
  refine ⟨_, hNormal, (normalization_reads_back_iff plainForm plainFloats _ _ hNormal).1.mpr ?_⟩
  intro source _
  exact (card_mergedFields_le plainForm _ source).trans (by decide)

/-! ## Records -/

section Records

variable {form : NormalForm} {floats : FloatText} {sha256 : Bytes → String}

/-- The header fields that a normalized payload and its bytes determine. -/
structure Describes (sha256 : Bytes → String) (q : ForecastInputSnapshotPayload Instant)
    (record : ForecastInputSnapshotRecord Instant) : Prop where
  terms : record.toSnapshotTerms = q.toSnapshotTerms
  snapshotId : record.snapshotId = "sha256:" ++ sha256 record.canonicalPayload
  asOf : record.asOf = q.asOf
  observationCount : record.observationCount = q.observations.length
  targetTimeCount : record.targetTimeCount = q.targetTimes.length
  first : q.observations.head?.map SnapshotObservation.observedAt = some record.firstObservedAt
  last : q.observations.getLast?.map SnapshotObservation.observedAt = some record.lastObservedAt
  latest : maxAvailableAt q.observations q.dataSources = some record.maxAvailableAt
  availability : q.availability =
    ⟨record.availabilityStatus, record.availabilityRuleSetHash, record.availabilityCheckedAt⟩

/-- A record is built from a payload whose bytes are read back. -/
theorem buildSnapshotRecord_eq_ok_iff {p : ForecastInputSnapshotPayload ParsedDateTime}
    {sealedAt : ParsedDateTime} {record : ForecastInputSnapshotRecord Instant} :
    buildSnapshotRecord form floats sha256 p sealedAt = .ok record ↔
      ∃ q, Normalizes form p q ∧ sealedAt.toInstant = some record.sealedAt ∧
        q.asOf ≤ record.sealedAt ∧ (∀ t ∈ q.availability.checkedAt, t ≤ record.sealedAt) ∧
        canonicalSnapshotPayload form floats q.inUtc = .ok record.canonicalPayload ∧
        Describes sha256 q record := by
  rw [buildSnapshotRecord, bind_eq_ok_iff]
  refine exists_congr fun q => ?_
  rw [normalizedPayload_eq_ok_iff, utc_bind_eq_ok_iff]
  refine and_congr_right fun hNormal => ?_
  have hProof : ∀ t : Instant, ¬ q.availability.checkedAt.any (t < ·) = true ↔
      ∀ c ∈ q.availability.checkedAt, c ≤ t := by
    intro t
    cases q.availability.checkedAt <;> simp
  constructor
  · rintro ⟨sealedUtc, hSealed, h⟩
    rw [refuseIf_bind_eq_ok_iff, not_lt, refuseIf_bind_eq_ok_iff, hProof, bind_eq_ok_iff] at h
    obtain ⟨hCutoff, hChecked, bytes, hBytes, h⟩ := h
    rw [orRefuse_bind_eq_ok_iff] at h
    obtain ⟨latest, hLatest, h⟩ := h
    rw [snapshotIdForPayload, bind_assoc, refuseIf_bind_eq_ok_iff, pure_eq_ok, ok_bind,
      orRefuse_bind_eq_ok_iff] at h
    obtain ⟨-, first, hFirst, h⟩ := h
    rw [orRefuse_bind_eq_ok_iff] at h
    obtain ⟨last, hLast, h⟩ := h
    cases h
    refine ⟨hSealed, hCutoff, hChecked, hBytes, rfl, rfl, rfl, rfl, rfl, ?_, ?_, hLatest, rfl⟩
    · rw [hFirst, Option.map_some]
    · rw [hLast, Option.map_some]
  · rintro ⟨hSealed, hCutoff, hChecked, hBytes, d⟩
    obtain ⟨_, -, hDumps, hSize⟩ := canonicalSnapshotPayload_eq_ok_iff.mp hBytes
    have hBounds : ¬ (record.canonicalPayload = [] ∨
        maxPayloadBytes < record.canonicalPayload.length) := by
      refine not_or.mpr ⟨?_, Nat.not_lt.mpr hSize⟩
      rw [hDumps]
      exact dumps_ne_nil _ _
    obtain ⟨first, hFirst, hFirstAt⟩ := Option.map_eq_some_iff.mp d.first
    obtain ⟨last, hLast, hLastAt⟩ := Option.map_eq_some_iff.mp d.last
    refine ⟨record.sealedAt, hSealed, ?_⟩
    rw [refuseIf_of_not (not_lt.mpr hCutoff), ok_bind, refuseIf_of_not ((hProof _).mpr hChecked),
      ok_bind, hBytes, ok_bind, d.latest, orRefuse_some, ok_bind, snapshotIdForPayload,
      refuseIf_of_not hBounds, ok_bind, pure_eq_ok, ok_bind, hFirst, orRefuse_some, ok_bind, hLast,
      orRefuse_some, ok_bind, pure_eq_ok, hFirstAt, hLastAt, ← d.terms, ← d.snapshotId, ← d.asOf,
      ← d.observationCount, ← d.targetTimeCount, d.availability]

/-- The bytes of a record are read back as the normal form, from which the record is built again. -/
theorem record_round_trip {p : ForecastInputSnapshotPayload ParsedDateTime} {sealedAt : ParsedDateTime}
    {record : ForecastInputSnapshotRecord Instant}
    (built : buildSnapshotRecord form floats sha256 p sealedAt = .ok record) :
    ∃ q, normalizedPayload form p = .ok q ∧
      parseSnapshotPayload form floats record.canonicalPayload = .ok q ∧
      canonicalSnapshotPayload form floats q.inUtc = .ok record.canonicalPayload ∧
      buildSnapshotRecord form floats sha256 q.inUtc sealedAt = .ok record := by
  obtain ⟨q, hNormal, hSealed, hCutoff, hChecked, hBytes, hDescribes⟩ :=
    buildSnapshotRecord_eq_ok_iff.mp built
  obtain ⟨q', hAgain, hDumps, hSize⟩ := canonicalSnapshotPayload_eq_ok_iff.mp hBytes
  have hSame := (hNormal.again_iff.mp hAgain).2
  rw [hSame] at hAgain hDumps
  refine ⟨q, normalizedPayload_eq_ok_iff.mpr hNormal, ?_, hBytes, ?_⟩
  · rw [hDumps] at hSize ⊢
    rw [parse_dumps hNormal.readable hSize, normalizedPayload_eq_ok_iff]
    exact hAgain
  · exact buildSnapshotRecord_eq_ok_iff.mpr
      ⟨q, hAgain, hSealed, hCutoff, hChecked, hBytes, hDescribes⟩

/-- The bytes stand for the normal form. -/
theorem same_bytes_iff {p p' : ForecastInputSnapshotPayload ParsedDateTime} {bytes bytes' : Bytes}
    (h : canonicalSnapshotPayload form floats p = .ok bytes)
    (h' : canonicalSnapshotPayload form floats p' = .ok bytes') :
    bytes = bytes' ↔ normalizedPayload form p = normalizedPayload form p' := by
  obtain ⟨q, hNormal, hDumps, -⟩ := canonicalSnapshotPayload_eq_ok_iff.mp h
  obtain ⟨q', hNormal', hDumps', -⟩ := canonicalSnapshotPayload_eq_ok_iff.mp h'
  rw [normalizedPayload_eq_ok_iff.mpr hNormal, normalizedPayload_eq_ok_iff.mpr hNormal', hDumps, hDumps',
    Except.ok.injEq]
  exact ⟨dumps_payloadDocument_inj hNormal.readable hNormal'.readable, fun hSame => by rw [hSame]⟩

/-- Along any number of respellings the normal form stays. -/
theorem normalizes_iff_of_run {p p' : ForecastInputSnapshotPayload ParsedDateTime}
    (run : Relation.ReflTransGen Respelled p p') (q : ForecastInputSnapshotPayload Instant) :
    Normalizes form p q ↔ Normalizes form p' q := by
  induction run with
  | refl => exact Iff.rfl
  | tail _ last ih => exact ih.trans last.normalizes_iff

end Records

/-- Records round-trip, bytes stand for normal forms, and other spellings of the same evidence have
the same bytes as long as no source lists more fields than it may. -/
theorem snapshot_records_round_trip (form : NormalForm) (floats : FloatText) (sha256 : Bytes → String) :
    (∀ p sealedAt record, buildSnapshotRecord form floats sha256 p sealedAt = .ok record →
      ∃ q, normalizedPayload form p = .ok q ∧
        parseSnapshotPayload form floats record.canonicalPayload = .ok q ∧
        canonicalSnapshotPayload form floats q.inUtc = .ok record.canonicalPayload ∧
        buildSnapshotRecord form floats sha256 q.inUtc sealedAt = .ok record) ∧
    (∀ p p' bytes bytes', canonicalSnapshotPayload form floats p = .ok bytes →
      canonicalSnapshotPayload form floats p' = .ok bytes' →
        (bytes = bytes' ↔ normalizedPayload form p = normalizedPayload form p')) ∧
    ∀ p p', Relation.ReflTransGen Respelled p p' → ∀ bytes,
      canonicalSnapshotPayload form floats p = .ok bytes ↔
        canonicalSnapshotPayload form floats p' = .ok bytes := by
  refine ⟨fun p sealedAt record => record_round_trip, fun p p' bytes bytes' => same_bytes_iff, ?_⟩
  intro p p' run bytes
  simp only [canonicalSnapshotPayload_eq_ok_iff, normalizes_iff_of_run run]

/-! ### A repetition too many -/

/-- A source that lists one field as often as it may. -/
def fullLists : List (List String) := [List.replicate 128 "close"]

def overfullLists : List (List String) := ["close" :: List.replicate 128 "close"]

def oneLine : SnapshotSourceLineage Instant := sampleLine ["close"]

theorem isText_close : IsText 128 "close" :=
  (isText_ofList (by decide) (by decide) (by decide) :
    IsText 128 (String.ofList ['c', 'l', 'o', 's', 'e']))

/-- A source that lists its one field any number of times. -/
theorem repeatedLists_normalize {n : Nat} (h : 1 ≤ n ∧ n ≤ 128) :
    SourcesNormalize plainForm sampleCutoff
      (([List.replicate n "close"].map sampleLine).map (·.map Instant.inUtc)) [oneLine] := by
  have hCounts : ∀ fields ∈ [List.replicate n "close"], 1 ≤ fields.length ∧ fields.length ≤ 128 := by
    intro fields hMem
    rw [List.mem_singleton.mp hMem, List.length_replicate]
    exact h
  have hTexts : ∀ fields ∈ [List.replicate n "close"], ∀ f ∈ fields, IsText 128 f := by
    intro fields hMem f hField
    rw [List.mem_singleton.mp hMem] at hField
    rw [List.eq_of_mem_replicate hField]
    exact isText_close
  have hSize : 1 ≤ [List.replicate n "close"].length ∧ [List.replicate n "close"].length ≤ 64 := by
    simp
  have hNormal := sampleLines_normalize hSize hCounts hTexts
  have hItem : lineItem (sampleLine (List.replicate n "close")) =
      (⟨"polygon", "run", sampleCutoff⟩, {"close"}) := by
    rw [lineItem, sampleLine, List.toFinset_replicate_of_ne_zero (Nat.ne_of_gt h.1)]
  have hLines : (grouped (([List.replicate n "close"].map sampleLine).map lineItem)).map sourceLine =
      [oneLine] := by
    rw [List.map_singleton, List.map_singleton, hItem,
      grouped_of_pairwise (List.pairwise_singleton _ _), List.map_singleton, sourceLine,
      Finset.sort_singleton]
    rfl
  rwa [hLines] at hNormal

def sampleBytes : Bytes := dumps plainFloats (payloadDocument (sampleNormal [oneLine]))

theorem sampleBytes_eq : sampleBytes = dumps plainFloats (payloadDocument (sampleNormal [oneLine])) := by
  rw [sampleBytes]

theorem length_sampleBytes : sampleBytes.length ≤ maxPayloadBytes := by
  refine (length_dumps_le plainFloats _).trans ?_
  have hHash : sampleHash.toList.length = 71 := sampleTerms_valid.policyHash.2.1
  simp only [payloadDocument, availabilityDocument, sourceDocument, observationDocument, timeDocument, sampleNormal,
    sampleTerms, oneLine, sampleLine, size, sizeItems, sizeEntries, Json.plain, length_timestamp, floatBits,
    Float64.hex, String.toList_ofList, Float64.length_hexChars, hHash, Option.elim_some, Option.elim_none,
    List.map_cons, List.map_nil, String.reduceToList, List.length_cons, List.length_nil, Nat.reduceAdd]
  decide

theorem full_canonical : ∃ bytes,
    canonicalSnapshotPayload plainForm plainFloats (samplePayload (fullLists.map sampleLine)) =
      .ok bytes := by
  have hRange : 1 ≤ 128 ∧ 128 ≤ 128 := by decide
  exact ⟨sampleBytes, canonicalSnapshotPayload_eq_ok_iff.mpr ⟨sampleNormal [oneLine],
    sample_normalizes (repeatedLists_normalize hRange), rfl, length_sampleBytes⟩⟩

theorem oneLine_normalize : SourcesNormalize plainForm sampleCutoff
    ([oneLine].map (·.map Instant.inUtc)) [oneLine] := by
  have hRange : 1 ≤ 1 ∧ 1 ≤ 128 := by decide
  exact repeatedLists_normalize hRange

def sampleDigits : Bytes → String := fun _ => String.ofList (List.replicate 64 '0')

theorem sampleDigits_eq (bytes : Bytes) :
    sampleDigits bytes = String.ofList (List.replicate 64 '0') := rfl

def sampleRecord : ForecastInputSnapshotRecord Instant where
  toSnapshotTerms := sampleTerms
  snapshotId := "sha256:" ++ String.ofList (List.replicate 64 '0')
  asOf := sampleCutoff
  sealedAt := sampleCutoff
  observationCount := 2
  targetTimeCount := 2
  firstObservedAt := sampleEarlier
  lastObservedAt := sampleCutoff
  maxAvailableAt := sampleCutoff
  availabilityStatus := "passed"
  availabilityRuleSetHash := some sampleHash
  availabilityCheckedAt := some sampleCutoff
  canonicalPayload := sampleBytes

theorem sampleRecord_id :
    sampleRecord.snapshotId = "sha256:" ++ String.ofList (List.replicate 64 '0') := by
  rw [sampleRecord]

theorem sampleRecord_bytes : sampleRecord.canonicalPayload = sampleBytes := by rw [sampleRecord]

theorem oneLine_canonical : canonicalSnapshotPayload plainForm plainFloats (samplePayload [oneLine]) =
    .ok sampleRecord.canonicalPayload := by
  rw [sampleRecord_bytes]
  exact canonicalSnapshotPayload_eq_ok_iff.mpr
    ⟨sampleNormal [oneLine], sample_normalizes oneLine_normalize, sampleBytes_eq, length_sampleBytes⟩

theorem sampleRecord_built {sources : List (SnapshotSourceLineage Instant)}
    (h : SourcesNormalize plainForm sampleCutoff (sources.map (·.map Instant.inUtc)) [oneLine]) :
    buildSnapshotRecord plainForm plainFloats sampleDigits (samplePayload sources) sampleCutoff.inUtc =
      .ok sampleRecord := by
  have hNormal : Normalizes plainForm (samplePayload sources) (sampleNormal [oneLine]) := sample_normalizes h
  refine buildSnapshotRecord_eq_ok_iff.mpr ⟨sampleNormal [oneLine], hNormal,
    Instant.toInstant_inUtc _, le_rfl, ?_, oneLine_canonical, ?_⟩
  · rintro t ht
    obtain rfl := Option.some.inj ht
    exact le_rfl
  · refine ⟨rfl, ?_, rfl, rfl, rfl, rfl, rfl, sample_latest oneLine_normalize, rfl⟩
    rw [sampleDigits_eq, sampleRecord_id]

/-- The sample with its observations and targets from the last to the first and its one field twice. -/
def respelledPayload : ForecastInputSnapshotPayload ParsedDateTime :=
  { samplePayload [sampleLine ["close", "close"]] with
    observations := (samplePayload [oneLine]).observations.reverse
    targetTimes := (samplePayload [oneLine]).targetTimes.reverse }

theorem respelled_run : Relation.ReflTransGen Respelled (samplePayload [oneLine]) respelledPayload := by
  have hField : "close" ∈ (oneLine.map Instant.inUtc).fields := List.mem_singleton_self _
  have hRoom : (oneLine.map Instant.inUtc).fields.length < 128 := Nat.one_lt_ofNat
  have hRepeated := @Respelled.repeated (samplePayload [oneLine]) [] [] _ _ hField hRoom
  exact ((Relation.ReflTransGen.single hRepeated).tail (.observations _ (List.reverse_perm _).symm)).tail
    (.targetTimes _ (List.reverse_perm _).symm)

/-- A record is read back and built again, and another spelling of its evidence has its bytes. -/
theorem snapshot_records_round_trip_sample :
    ∃ q, parseSnapshotPayload plainForm plainFloats sampleRecord.canonicalPayload = .ok q ∧
      buildSnapshotRecord plainForm plainFloats sampleDigits q.inUtc sampleCutoff.inUtc = .ok sampleRecord ∧
      canonicalSnapshotPayload plainForm plainFloats respelledPayload = .ok sampleRecord.canonicalPayload := by
  obtain ⟨hRecords, -, hRespelled⟩ := snapshot_records_round_trip plainForm plainFloats sampleDigits
  obtain ⟨q, -, hParsed, -, hAgain⟩ := hRecords _ _ _ (sampleRecord_built oneLine_normalize)
  exact ⟨q, hParsed, hAgain, (hRespelled _ _ respelled_run _).mp oneLine_canonical⟩

/-- Repeating a field of a source that lists as many as it may leaves no bytes at all. -/
theorem repeated_field_refused :
    ∃ bytes, canonicalSnapshotPayload plainForm plainFloats
        (samplePayload (fullLists.map sampleLine)) = .ok bytes ∧
      ∀ bytes', canonicalSnapshotPayload plainForm plainFloats
        (samplePayload (overfullLists.map sampleLine)) ≠ .ok bytes' := by
  obtain ⟨bytes, hBytes⟩ := full_canonical
  refine ⟨bytes, hBytes, fun bytes' h => ?_⟩
  obtain ⟨q, hNormal, -⟩ := canonicalSnapshotPayload_eq_ok_iff.mp h
  have hCount : ("close" :: List.replicate 128 "close").length ≤ 128 :=
    (hNormal.sourced.fieldCounts _ (List.mem_cons_self ..)).2
  rw [List.length_cons, List.length_replicate] at hCount
  omega

end StockApi.Snapshots

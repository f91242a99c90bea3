import StockApi.Snapshots.Payload

/-!
# The normal form of a payload

`_normalized_payload` as one relation between a payload and its normal form. Payloads that list the
same evidence have the same normal form. A normal form is accepted again and returned unchanged as
long as no merged source has outgrown the limit on fields, which is checked before the merge only.
-/

namespace StockApi.Snapshots

open Checked CivilTime Groups Text

/-! ## Availability -/

def maxAvailableAt (observations : List (SnapshotObservation Instant))
    (sources : List (SnapshotSourceLineage Instant)) : Option Instant :=
  (observations.map SnapshotObservation.availableAt ++
    sources.map SnapshotSourceLineage.maxAvailableAt).max?

def normalizedAvailability (asOf : Instant) (observations : List (SnapshotObservation Instant))
    (sources : List (SnapshotSourceLineage Instant))
    (availability : SnapshotAvailabilityEvidence ParsedDateTime) :
    Except String (SnapshotAvailabilityEvidence Instant) :=
  if availability.status = "not_run" then do
    refuseIf (availability.ruleSetHash ≠ none ∨ availability.checkedAt ≠ none)
      "not_run availability cannot include proof fields"
    return ⟨"not_run", none, none⟩
  else if availability.status = "passed" then
    match availability.ruleSetHash, availability.checkedAt with
    | some ruleSetHash, some checkedAt => do
      hash ruleSetHash "availability rule_set_hash"
      let checkedAt ← utc checkedAt "availability checked_at"
      let latest ← orRefuse (maxAvailableAt observations sources) "max() iterable argument is empty"
      refuseIf (checkedAt < max latest asOf) "availability proof predates its snapshot cutoff"
      return ⟨"passed", some ruleSetHash, some checkedAt⟩
    | _, _ => .error "passed availability requires proof fields"
  else .error "availability status is not supported"

/-- No proof, or a proof no older than the cutoff and everything available by it. -/
inductive AvailabilityValid (asOf : Instant) (observations : List (SnapshotObservation Instant))
    (sources : List (SnapshotSourceLineage Instant)) : SnapshotAvailabilityEvidence Instant → Prop
  | notRun : AvailabilityValid asOf observations sources ⟨"not_run", none, none⟩
  | passed {ruleSetHash : String} {checkedAt latest : Instant} (isHash : IsHash ruleSetHash)
      (isLatest : maxAvailableAt observations sources = some latest)
      (covers : max latest asOf ≤ checkedAt) :
      AvailabilityValid asOf observations sources ⟨"passed", some ruleSetHash, some checkedAt⟩

section Availability

variable {asOf : Instant} {observations : List (SnapshotObservation Instant)}
  {sources : List (SnapshotSourceLineage Instant)}

theorem normalizedAvailability_eq_ok_iff {a : SnapshotAvailabilityEvidence ParsedDateTime}
    {b : SnapshotAvailabilityEvidence Instant} :
    normalizedAvailability asOf observations sources a = .ok b ↔
      a.map ParsedDateTime.toInstant = b.map some ∧ AvailabilityValid asOf observations sources b := by
  obtain ⟨status, ruleSetHash, checkedAt⟩ := a
  rw [normalizedAvailability]
  constructor
  · intro h
    split_ifs at h with hNotRun hPassed
    · rw [refuseIf_bind_eq_ok_iff, not_or, not_not, not_not, pure_eq_ok] at h
      obtain ⟨⟨rfl, rfl⟩, h⟩ := h
      cases h
      cases hNotRun
      exact ⟨rfl, .notRun⟩
    · cases hPassed
      split at h
      · rename_i hash time hHash hTime
        cases hHash
        cases hTime
        rw [hash_bind_eq_ok_iff, utc_bind_eq_ok_iff] at h
        obtain ⟨hIsHash, t, hInstant, h⟩ := h
        rw [orRefuse_bind_eq_ok_iff] at h
        obtain ⟨latest, hLatest, h⟩ := h
        rw [refuseIf_bind_eq_ok_iff, not_lt, pure_eq_ok] at h
        obtain ⟨hCovers, h⟩ := h
        cases h
        refine ⟨?_, .passed hIsHash hLatest hCovers⟩
        simp [SnapshotAvailabilityEvidence.map, hInstant]
      · cases h
  · rintro ⟨hSame, hValid⟩
    simp only [SnapshotAvailabilityEvidence.map, SnapshotAvailabilityEvidence.mk.injEq] at hSame
    obtain ⟨rfl, rfl, hTime⟩ := hSame
    cases hValid with
    | notRun =>
      rw [Option.map_none, Option.map_eq_none_iff] at hTime
      subst hTime
      rfl
    | passed isHash isLatest covers =>
      rw [Option.map_some, Option.map_eq_some_iff] at hTime
      obtain ⟨time, rfl, hInstant⟩ := hTime
      have hStatus : ¬ ("passed" = "not_run") := by decide
      simp only [if_neg hStatus, if_true]
      rw [hash_bind_eq_ok_iff, utc_bind_eq_ok_iff]
      refine ⟨isHash, _, hInstant, ?_⟩
      rw [isLatest, orRefuse_some, ok_bind, refuseIf_of_not (not_lt.mpr covers), ok_bind, pure_eq_ok]

end Availability

/-! ## The payload -/

section Payload

variable (form : NormalForm)

/-- `_normalized_payload`. -/
def normalizedPayload (p : ForecastInputSnapshotPayload ParsedDateTime) :
    Except String (ForecastInputSnapshotPayload Instant) := do
  let terms ← normalizedTerms form p.toSnapshotTerms
  let asOf ← utc p.asOf "as_of"
  let observations ← normalizedObservations asOf terms.target p.observations
  let targetTimes ← normalizedTargetTimes asOf p.targetTimes
  let dataSources ← normalizedSources form asOf p.dataSources
  let availability ← normalizedAvailability asOf observations dataSources p.availability
  return {
    toSnapshotTerms := terms
    asOf, observations, targetTimes, dataSources, availability }

/-- `q` is the normal form of the payload `p`. -/
structure Normalizes (p : ForecastInputSnapshotPayload ParsedDateTime)
    (q : ForecastInputSnapshotPayload Instant) : Prop where
  terms : p.toSnapshotTerms.normal form = q.toSnapshotTerms
  termsValid : q.toSnapshotTerms.Valid
  cutoff : p.asOf.toInstant = some q.asOf
  observed : (p.observations.map observe).Perm (q.observations.map some)
  observedValid : ObservationsValid q.asOf q.target q.observations
  targeted : (p.targetTimes.map ParsedDateTime.toInstant).Perm (q.targetTimes.map some)
  targetedValid : TargetTimesValid q.asOf q.targetTimes
  sourced : SourcesNormalize form q.asOf p.dataSources q.dataSources
  proved : p.availability.map ParsedDateTime.toInstant = q.availability.map some
  provedValid : AvailabilityValid q.asOf q.observations q.dataSources q.availability

variable {form}

theorem normalizedPayload_eq_ok_iff {p : ForecastInputSnapshotPayload ParsedDateTime}
    {q : ForecastInputSnapshotPayload Instant} :
    normalizedPayload form p = .ok q ↔ Normalizes form p q := by
  constructor
  · intro h
    rw [normalizedPayload, bind_eq_ok_iff] at h
    obtain ⟨terms, hTerms, h⟩ := h
    rw [utc_bind_eq_ok_iff] at h
    obtain ⟨asOf, hCutoff, h⟩ := h
    rw [bind_eq_ok_iff] at h
    obtain ⟨observations, hObservations, h⟩ := h
    rw [bind_eq_ok_iff] at h
    obtain ⟨targetTimes, hTargets, h⟩ := h
    rw [bind_eq_ok_iff] at h
    obtain ⟨dataSources, hSources, h⟩ := h
    rw [bind_eq_ok_iff] at h
    obtain ⟨availability, hAvailability, h⟩ := h
    cases h
    obtain ⟨hNormal, hValid⟩ := normalizedTerms_eq_ok_iff.mp hTerms
    obtain ⟨hObserved, hObservedValid⟩ := normalizedObservations_eq_ok_iff.mp hObservations
    obtain ⟨hTargeted, hTargetedValid⟩ := normalizedTargetTimes_eq_ok_iff.mp hTargets
    obtain ⟨hProved, hProvedValid⟩ := normalizedAvailability_eq_ok_iff.mp hAvailability
    exact ⟨hNormal, hValid, hCutoff, hObserved, hObservedValid, hTargeted, hTargetedValid,
      normalizedSources_eq_ok_iff.mp hSources, hProved, hProvedValid⟩
  · intro h
    rw [normalizedPayload, normalizedTerms_eq_ok_iff.mpr ⟨h.terms, h.termsValid⟩, ok_bind,
      (utc_eq_ok_iff p.asOf "as_of" q.asOf).mpr h.cutoff, ok_bind,
      normalizedObservations_eq_ok_iff.mpr ⟨h.observed, h.observedValid⟩, ok_bind,
      normalizedTargetTimes_eq_ok_iff.mpr ⟨h.targeted, h.targetedValid⟩, ok_bind,
      normalizedSources_eq_ok_iff.mpr h.sourced, ok_bind,
      normalizedAvailability_eq_ok_iff.mpr ⟨h.proved, h.provedValid⟩, ok_bind]
    rfl

end Payload

/-! ## Other spellings of the same evidence -/

/-- A payload with other data sources. -/
def ForecastInputSnapshotPayload.withSources {τ : Type} (p : ForecastInputSnapshotPayload τ)
    (sources : List (SnapshotSourceLineage τ)) : ForecastInputSnapshotPayload τ :=
  { p with dataSources := sources }

/-- One rearrangement, one repetition of a field, or other offsets of the same instants. -/
inductive Respelled : ForecastInputSnapshotPayload ParsedDateTime →
    ForecastInputSnapshotPayload ParsedDateTime → Prop
  | observations (p : ForecastInputSnapshotPayload ParsedDateTime)
      {entries : List (SnapshotObservation ParsedDateTime)} (h : p.observations.Perm entries) :
      Respelled p { p with observations := entries }
  | targetTimes (p : ForecastInputSnapshotPayload ParsedDateTime) {entries : List ParsedDateTime}
      (h : p.targetTimes.Perm entries) : Respelled p { p with targetTimes := entries }
  | dataSources (p : ForecastInputSnapshotPayload ParsedDateTime)
      {entries : List (SnapshotSourceLineage ParsedDateTime)} (h : p.dataSources.Perm entries) :
      Respelled p (p.withSources entries)
  | fields (p : ForecastInputSnapshotPayload ParsedDateTime)
      {before after : List (SnapshotSourceLineage ParsedDateTime)}
      {source : SnapshotSourceLineage ParsedDateTime} {entries : List String}
      (h : source.fields.Perm entries) :
      Respelled (p.withSources (before ++ source :: after))
        (p.withSources (before ++ { source with fields := entries } :: after))
  | repeated (p : ForecastInputSnapshotPayload ParsedDateTime)
      {before after : List (SnapshotSourceLineage ParsedDateTime)}
      {source : SnapshotSourceLineage ParsedDateTime} {field : String} (h : field ∈ source.fields)
      (room : source.fields.length < 128) :
      Respelled (p.withSources (before ++ source :: after))
        (p.withSources (before ++ { source with fields := field :: source.fields } :: after))
  | offsets {p p' : ForecastInputSnapshotPayload ParsedDateTime}
      (h : p.map ParsedDateTime.toInstant = p'.map ParsedDateTime.toInstant) : Respelled p p'

section Respelled

variable {form : NormalForm} {asOf : Instant} {lines : List (SnapshotSourceLineage Instant)}

theorem observe_determined (a b : SnapshotObservation ParsedDateTime)
    (h : a.map ParsedDateTime.toInstant = b.map ParsedDateTime.toInstant) : observe a = observe b := by
  simp only [SnapshotObservation.map, SnapshotObservation.mk.injEq] at h
  rw [observe, observe, h.1, h.2.1, h.2.2]

theorem sourceItem_determined (a b : SnapshotSourceLineage ParsedDateTime)
    (h : a.map ParsedDateTime.toInstant = b.map ParsedDateTime.toInstant) :
    sourceItem form a = sourceItem form b := by
  simp only [SnapshotSourceLineage.map, SnapshotSourceLineage.mk.injEq] at h
  rw [sourceItem, sourceItem, sourceKey, sourceKey, h.1, h.2.1, h.2.2.1, h.2.2.2]

theorem fields_determined (a b : SnapshotSourceLineage ParsedDateTime)
    (h : a.map ParsedDateTime.toInstant = b.map ParsedDateTime.toInstant) : a.fields = b.fields := by
  simp only [SnapshotSourceLineage.map, SnapshotSourceLineage.mk.injEq] at h
  exact h.2.2.2

theorem SourcesNormalize.perm {sources entries : List (SnapshotSourceLineage ParsedDateTime)}
    (perm : sources.Perm entries) (h : SourcesNormalize form asOf sources lines) :
    SourcesNormalize form asOf entries lines := by
  obtain ⟨hSize, hCounts, items, hItems, hValid, hLines⟩ := h
  have hImages : (entries.map (sourceItem form)).Perm (items.map some) :=
    (perm.map _).symm.trans (by rw [hItems])
  obtain ⟨others, hOthers, hSame⟩ := exists_map_some_of_perm hImages
  refine ⟨perm.length_eq ▸ hSize, fun s hMem => hCounts s (perm.mem_iff.mpr hMem), others, hOthers,
    fun item hMem => hValid item (hSame.mem_iff.mp hMem), ?_⟩
  rw [hLines, grouped_congr fun i => hSame.mem_iff]

/-- Sources that add the same fields under the same key. -/
theorem SourcesNormalize.of_items {sources entries : List (SnapshotSourceLineage ParsedDateTime)}
    (same : sources.map (sourceItem form) = entries.map (sourceItem form))
    (counts : ∀ s ∈ entries, 1 ≤ s.fields.length ∧ s.fields.length ≤ 128)
    (h : SourcesNormalize form asOf sources lines) : SourcesNormalize form asOf entries lines := by
  have hLength := congrArg List.length same
  rw [List.length_map, List.length_map] at hLength
  obtain ⟨items, hItems, hRest⟩ := h.merges
  exact ⟨hLength ▸ h.size, counts, items, same ▸ hItems, hRest⟩

/-- Rewriting the fields of one source. -/
theorem SourcesNormalize.of_source {before after : List (SnapshotSourceLineage ParsedDateTime)}
    {source other : SnapshotSourceLineage ParsedDateTime}
    (same : sourceItem form source = sourceItem form other)
    (counts : 1 ≤ source.fields.length ∧ source.fields.length ≤ 128 →
      1 ≤ other.fields.length ∧ other.fields.length ≤ 128)
    (h : SourcesNormalize form asOf (before ++ source :: after) lines) :
    SourcesNormalize form asOf (before ++ other :: after) lines := by
  refine h.of_items ?_ ?_
  · rw [List.map_append, List.map_append, List.map_cons, List.map_cons, same]
  · intro s hMem
    rcases List.mem_append.mp hMem with hBefore | hRest
    · exact h.fieldCounts s (List.mem_append_left _ hBefore)
    rcases List.mem_cons.mp hRest with rfl | hAfter
    · exact counts (h.fieldCounts source (List.mem_append_right _ List.mem_cons_self))
    · exact h.fieldCounts s (List.mem_append_right _ (List.mem_cons_of_mem _ hAfter))

/-- A source depends on the set of its fields. -/
theorem sourceItem_fields (form : NormalForm) {source : SnapshotSourceLineage ParsedDateTime} {entries : List String}
    (same : ∀ f, f ∈ source.fields ↔ f ∈ entries) :
    sourceItem form source = sourceItem form { source with fields := entries } := by
  have hFields : (source.fields.map form.nfc).toFinset = (entries.map form.nfc).toFinset := by
    ext f
    simp only [List.mem_toFinset, List.mem_map, same]
  rw [sourceItem, sourceItem, hFields]
  rfl

theorem SourcesNormalize.of_offsets {sources entries : List (SnapshotSourceLineage ParsedDateTime)}
    (same : sources.map (·.map ParsedDateTime.toInstant) = entries.map (·.map ParsedDateTime.toInstant))
    (h : SourcesNormalize form asOf sources lines) : SourcesNormalize form asOf entries lines := by
  refine h.of_items (map_eq_of_determined sourceItem_determined same) ?_
  have hFields : sources.map SnapshotSourceLineage.fields = entries.map SnapshotSourceLineage.fields :=
    map_eq_of_determined fields_determined same
  intro s hMem
  have hListed : s.fields ∈ sources.map SnapshotSourceLineage.fields :=
    hFields ▸ List.mem_map_of_mem hMem
  obtain ⟨other, hOther, hSame⟩ := List.mem_map.mp hListed
  exact hSame ▸ h.fieldCounts other hOther

theorem Normalizes.of_offsets {p p' : ForecastInputSnapshotPayload ParsedDateTime}
    {q : ForecastInputSnapshotPayload Instant}
    (same : p.map ParsedDateTime.toInstant = p'.map ParsedDateTime.toInstant)
    (h : Normalizes form p q) : Normalizes form p' q := by
  simp only [ForecastInputSnapshotPayload.map, ForecastInputSnapshotPayload.mk.injEq] at same
  obtain ⟨hTerms, hCutoff, hObservations, hTargets, hSources, hAvailability⟩ := same
  exact {
    terms := hTerms ▸ h.terms
    termsValid := h.termsValid
    cutoff := hCutoff ▸ h.cutoff
    observed := map_eq_of_determined observe_determined hObservations ▸ h.observed
    observedValid := h.observedValid
    targeted := hTargets ▸ h.targeted
    targetedValid := h.targetedValid
    sourced := h.sourced.of_offsets hSources
    proved := hAvailability ▸ h.proved
    provedValid := h.provedValid }

/-- Another spelling has the same normal form, or is refused as well. -/
theorem Respelled.normalizes_iff {p p' : ForecastInputSnapshotPayload ParsedDateTime}
    {q : ForecastInputSnapshotPayload Instant} (r : Respelled p p') :
    Normalizes form p q ↔ Normalizes form p' q := by
  cases r with
  | observations p h =>
    exact ⟨fun n => { n with observed := (h.map observe).symm.trans n.observed },
      fun n => { n with observed := (h.map observe).trans n.observed }⟩
  | targetTimes p h =>
    exact ⟨fun n => { n with targeted := (h.map _).symm.trans n.targeted },
      fun n => { n with targeted := (h.map _).trans n.targeted }⟩
  | dataSources p h =>
    exact ⟨fun n => { n with sourced := n.sourced.perm h },
      fun n => { n with sourced := n.sourced.perm h.symm }⟩
  | fields p h =>
    have hSame := sourceItem_fields form fun f => h.mem_iff
    constructor
    · intro n
      exact { n with sourced := n.sourced.of_source hSame (h.length_eq ▸ id) }
    · intro n
      exact { n with sourced := n.sourced.of_source hSame.symm (h.length_eq ▸ id) }
  | @repeated p before after source field h room =>
    have hMem : ∀ f, f ∈ source.fields ↔ f ∈ field :: source.fields := by
      intro f
      rw [List.mem_cons]
      exact ⟨Or.inr, fun hMem => hMem.elim (fun hEq => hEq ▸ h) id⟩
    have hSame := sourceItem_fields form hMem
    constructor
    · intro n
      exact { n with sourced := n.sourced.of_source hSame fun _ => ⟨Nat.succ_pos _, room⟩ }
    · intro n
      exact { n with
        sourced := n.sourced.of_source hSame.symm fun _ => ⟨List.length_pos_of_mem h, room.le⟩ }
  | offsets h => exact ⟨Normalizes.of_offsets h, Normalizes.of_offsets h.symm⟩

end Respelled

/-! ## Normalizing again -/

section Again

variable {form : NormalForm}

theorem observe_inUtc {entry : SnapshotObservation ParsedDateTime} {o : SnapshotObservation Instant}
    (h : observe entry = some o) : observe (o.map Instant.inUtc) = some o := by
  simp only [observe, Option.bind_eq_bind, Option.bind_eq_some_iff, Option.ite_none_right_eq_some,
    Option.some.injEq] at h
  obtain ⟨observedAt, -, availableAt, -, hFinite, rfl⟩ := h
  have hCanonical := Float64.isFinite_canonicalZero hFinite
  simp [observe, SnapshotObservation.map, hCanonical]

/-- The fields of all sources under the key of one. -/
def mergedFields (form : NormalForm) (sources : List (SnapshotSourceLineage ParsedDateTime))
    (source : SnapshotSourceLineage ParsedDateTime) : Finset String :=
  ((sources.filter fun other => sourceKey form other = sourceKey form source).flatMap fun other =>
    other.fields.map form.nfc).toFinset

/-- Every source is within the limit on fields together with those it is merged with. -/
def MergesWithinLimit (form : NormalForm) (p : ForecastInputSnapshotPayload ParsedDateTime) : Prop :=
  ∀ source ∈ p.dataSources, (mergedFields form p.dataSources source).card ≤ 128

theorem sourceItem_eq_some_iff {source : SnapshotSourceLineage ParsedDateTime}
    {item : SourceKey × Finset String} :
    sourceItem form source = some item ↔
      sourceKey form source = some item.1 ∧ (source.fields.map form.nfc).toFinset = item.2 := by
  obtain ⟨k, fields⟩ := item
  rw [sourceItem, Option.map_eq_some_iff]
  constructor
  · rintro ⟨k', hKey, h⟩
    cases h
    exact ⟨hKey, rfl⟩
  · rintro ⟨hKey, rfl⟩
    exact ⟨k, hKey, rfl⟩

/-- A merged group is the merge under its key. -/
theorem union_eq_mergedFields {sources : List (SnapshotSourceLineage ParsedDateTime)}
    {items : List (SourceKey × Finset String)}
    (hItems : sources.map (sourceItem form) = items.map some)
    {source : SnapshotSourceLineage ParsedDateTime} {k : SourceKey}
    (hKey : sourceKey form source = some k) : union items k = mergedFields form sources source := by
  ext f
  simp only [mem_union, mergedFields, List.mem_toFinset, List.mem_flatMap, List.mem_filter,
    decide_eq_true_eq, hKey]
  constructor
  · rintro ⟨item, hMem, rfl, hField⟩
    have hListed : some item ∈ sources.map (sourceItem form) := hItems ▸ List.mem_map_of_mem hMem
    obtain ⟨other, hOther, hItem⟩ := List.mem_map.mp hListed
    obtain ⟨hOtherKey, hFields⟩ := sourceItem_eq_some_iff.mp hItem
    rw [← hFields, List.mem_toFinset] at hField
    exact ⟨other, ⟨hOther, hOtherKey⟩, hField⟩
  · rintro ⟨other, ⟨hOther, hOtherKey⟩, hField⟩
    have hItem : sourceItem form other = some (k, (other.fields.map form.nfc).toFinset) :=
      sourceItem_eq_some_iff.mpr ⟨hOtherKey, rfl⟩
    have hListed : some (k, (other.fields.map form.nfc).toFinset) ∈ items.map some := by
      rw [← hItems, ← hItem]
      exact List.mem_map_of_mem hOther
    obtain ⟨item, hMem, hEq⟩ := List.mem_map.mp hListed
    cases hEq
    exact ⟨_, hMem, rfl, List.mem_toFinset.mpr hField⟩

/-- The line of a group that came from sources is read back as the group. -/
theorem sourceItem_sourceLine {sources : List (SnapshotSourceLineage ParsedDateTime)}
    {items : List (SourceKey × Finset String)}
    (hItems : sources.map (sourceItem form) = items.map some) {group : SourceKey × Finset String}
    (hGroup : group ∈ grouped items) :
    sourceItem form ((sourceLine group).map Instant.inUtc) = some group := by
  have hOrigin : ∀ item ∈ items, ∃ source, sourceItem form source = some item := by
    intro item hMem
    have hListed : some item ∈ sources.map (sourceItem form) := hItems ▸ List.mem_map_of_mem hMem
    obtain ⟨source, -, hItem⟩ := List.mem_map.mp hListed
    exact ⟨source, hItem⟩
  obtain ⟨hKey, hUnion⟩ := mem_grouped.mp hGroup
  have hFields : (group.2.sort (· ≤ ·)).map form.nfc = group.2.sort (· ≤ ·) := by
    refine (List.map_congr_left fun f hMem => ?_).trans (List.map_id _)
    rw [Finset.mem_sort, hUnion, mem_union] at hMem
    obtain ⟨item, hItem, -, hField⟩ := hMem
    obtain ⟨source, hSource⟩ := hOrigin item hItem
    rw [← (sourceItem_eq_some_iff.mp hSource).2, List.mem_toFinset, List.mem_map] at hField
    obtain ⟨value, -, rfl⟩ := hField
    exact form.idempotent value
  obtain ⟨item, hItem, hSame⟩ := List.mem_map.mp hKey
  obtain ⟨source, hSource⟩ := hOrigin item hItem
  have hSourceKey := (sourceItem_eq_some_iff.mp hSource).1
  rw [hSame, sourceKey, Option.map_eq_some_iff] at hSourceKey
  obtain ⟨t, -, hNames⟩ := hSourceKey
  rw [sourceItem_eq_some_iff]
  constructor
  · rw [sourceKey, SnapshotSourceLineage.map, sourceLine, Instant.toInstant_inUtc, Option.map_some,
      ← hNames, form.idempotent, form.idempotent]
  · rw [SnapshotSourceLineage.map, sourceLine, hFields, Finset.sort_toFinset]

/-- No line is later than the cutoff. -/
theorem SourcesNormalize.cutoff {sources : List (SnapshotSourceLineage ParsedDateTime)}
    (h : SourcesNormalize form asOf sources lines) : ∀ s ∈ lines, s.maxAvailableAt ≤ asOf := by
  obtain ⟨items, -, hValid, hLines⟩ := h.merges
  intro s hMem
  rw [hLines] at hMem
  obtain ⟨group, hGroup, rfl⟩ := List.mem_map.mp hMem
  obtain ⟨item, hItem, hSame⟩ := List.mem_map.mp (mem_grouped.mp hGroup).1
  have hCutoff := (hValid item hItem).cutoff
  rwa [hSame] at hCutoff

/-- Lines that are accepted again show that no merge outgrew the limit. -/
theorem SourcesNormalize.limit_of_again {asOf asOf' : Instant}
    {sources : List (SnapshotSourceLineage ParsedDateTime)}
    {lines lines' : List (SnapshotSourceLineage Instant)}
    (h : SourcesNormalize form asOf sources lines)
    (again : SourcesNormalize form asOf' (lines.map (·.map Instant.inUtc)) lines') :
    ∀ source ∈ sources, (mergedFields form sources source).card ≤ 128 := by
  obtain ⟨-, -, items, hItems, -, rfl⟩ := h
  intro source hMem
  have hListed : sourceItem form source ∈ items.map some := hItems ▸ List.mem_map_of_mem hMem
  obtain ⟨item, hItem, hEq⟩ := List.mem_map.mp hListed
  have hKey := (sourceItem_eq_some_iff.mp hEq.symm).1
  have hGroup : (item.1, mergedFields form sources source) ∈ grouped items :=
    mem_grouped.mpr ⟨List.mem_map.mpr ⟨item, hItem, rfl⟩, (union_eq_mergedFields hItems hKey).symm⟩
  have hCard := (again.fieldCounts _ (List.mem_map_of_mem (List.mem_map_of_mem hGroup))).2
  rwa [SnapshotSourceLineage.map, sourceLine, Finset.length_sort] at hCard

/-- Lines of merges within the limit are sources with these lines. -/
theorem SourcesNormalize.again {asOf : Instant}
    {sources : List (SnapshotSourceLineage ParsedDateTime)}
    {lines : List (SnapshotSourceLineage Instant)} (h : SourcesNormalize form asOf sources lines)
    (hLimit : ∀ source ∈ sources, (mergedFields form sources source).card ≤ 128) :
    SourcesNormalize form asOf (lines.map (·.map Instant.inUtc)) lines := by
  obtain ⟨hSize, hCounts, items, hItems, hValid, rfl⟩ := h
  have hLength := congrArg List.length hItems
  rw [List.length_map, List.length_map] at hLength
  refine ⟨?_, ?_, grouped items, ?_, ?_, ?_⟩
  · have hNonempty : items ≠ [] := List.ne_nil_of_length_pos (hLength ▸ hSize.1)
    have hPositive := List.length_pos_of_ne_nil (grouped_ne_nil hNonempty)
    have hBound := length_grouped_le items
    simp only [List.length_map]
    omega
  · intro line hMem
    rw [List.map_map, List.mem_map] at hMem
    obtain ⟨group, hGroup, rfl⟩ := hMem
    obtain ⟨hKey, hUnion⟩ := mem_grouped.mp hGroup
    obtain ⟨item, hItem, hSame⟩ := List.mem_map.mp hKey
    have hListed : some item ∈ sources.map (sourceItem form) := hItems ▸ List.mem_map_of_mem hItem
    obtain ⟨source, hSource, hEq⟩ := List.mem_map.mp hListed
    obtain ⟨hSourceKey, hFields⟩ := sourceItem_eq_some_iff.mp hEq
    have hMerged : group.2 = mergedFields form sources source := by
      rw [hUnion, ← hSame, union_eq_mergedFields hItems hSourceKey]
    obtain ⟨f, hField⟩ := List.exists_mem_of_length_pos (hCounts source hSource).1
    have hInGroup : form.nfc f ∈ group.2 := by
      rw [hUnion, mem_union]
      exact ⟨item, hItem, hSame, hFields ▸ List.mem_toFinset.mpr (List.mem_map_of_mem hField)⟩
    have hPositive := Finset.card_pos.mpr ⟨_, hInGroup⟩
    have hCard := hMerged ▸ hLimit source hSource
    rw [Function.comp_apply, SnapshotSourceLineage.map, sourceLine, Finset.length_sort]
    exact ⟨hPositive, hCard⟩
  · rw [List.map_map, List.map_map]
    apply List.map_congr_left
    intro group hGroup
    rw [Function.comp_apply, Function.comp_apply, sourceItem_sourceLine hItems hGroup]
  · intro group hGroup
    obtain ⟨hKey, hUnion⟩ := mem_grouped.mp hGroup
    obtain ⟨item, hItem, hSame⟩ := List.mem_map.mp hKey
    have hItemValid := hValid item hItem
    refine ⟨hSame ▸ hItemValid.nameText, hSame ▸ hItemValid.idText, hSame ▸ hItemValid.cutoff, ?_⟩
    intro f hField
    rw [hUnion, mem_union] at hField
    obtain ⟨other, hOther, -, hOtherField⟩ := hField
    exact (hValid other hOther).fieldTexts f hOtherField
  · rw [grouped_of_pairwise (grouped_pairwise items)]

theorem Normalizes.limit_of_again {p : ForecastInputSnapshotPayload ParsedDateTime}
    {q r : ForecastInputSnapshotPayload Instant} (h : Normalizes form p q)
    (again : Normalizes form q.inUtc r) : MergesWithinLimit form p :=
  h.sourced.limit_of_again again.sourced

theorem Normalizes.again {p : ForecastInputSnapshotPayload ParsedDateTime}
    {q : ForecastInputSnapshotPayload Instant} (h : Normalizes form p q)
    (hLimit : MergesWithinLimit form p) : Normalizes form q.inUtc q := by
  have hObserved : (q.observations.map (·.map Instant.inUtc)).map observe =
      q.observations.map some := by
    rw [List.map_map]
    apply List.map_congr_left
    intro o hMem
    obtain ⟨entry, -, hEntry⟩ := List.mem_map.mp (h.observed.mem_iff.mpr (List.mem_map_of_mem hMem))
    rw [Function.comp_apply, observe_inUtc hEntry]
  have hTargeted : (q.targetTimes.map Instant.inUtc).map ParsedDateTime.toInstant =
      q.targetTimes.map some := by
    rw [List.map_map]
    apply List.map_congr_left
    intro t _
    rw [Function.comp_apply, Instant.toInstant_inUtc]
  have hProved : (q.availability.map Instant.inUtc).map ParsedDateTime.toInstant =
      q.availability.map some := by
    simp only [SnapshotAvailabilityEvidence.map, Option.map_map, Function.comp_def,
      Instant.toInstant_inUtc]
  exact {
    terms := by
      rw [← h.terms]
      exact (congrArg _ h.terms.symm).trans (SnapshotTerms.normal_normal _)
    termsValid := h.termsValid
    cutoff := Instant.toInstant_inUtc q.asOf
    observed := .of_eq hObserved
    observedValid := h.observedValid
    targeted := .of_eq hTargeted
    targetedValid := h.targetedValid
    sourced := h.sourced.again hLimit
    proved := hProved
    provedValid := h.provedValid }

/-- The normal form of a payload is unique. -/
theorem Normalizes.unique {p : ForecastInputSnapshotPayload ParsedDateTime}
    {q q' : ForecastInputSnapshotPayload Instant} (h : Normalizes form p q)
    (h' : Normalizes form p q') : q = q' :=
  Except.ok.inj ((normalizedPayload_eq_ok_iff.mpr h).symm.trans (normalizedPayload_eq_ok_iff.mpr h'))

/-- What a normal form is accepted as is the normal form itself. -/
theorem Normalizes.again_iff {p : ForecastInputSnapshotPayload ParsedDateTime}
    {q r : ForecastInputSnapshotPayload Instant} (h : Normalizes form p q) :
    Normalizes form q.inUtc r ↔ MergesWithinLimit form p ∧ r = q := by
  constructor
  · intro hAgain
    have hLimit := h.limit_of_again hAgain
    exact ⟨hLimit, hAgain.unique (h.again hLimit)⟩
  · rintro ⟨hLimit, rfl⟩
    exact h.again hLimit

end Again

end StockApi.Snapshots

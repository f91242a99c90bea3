import StockApi.Library.Relational
import StockApi.Snapshots.Resolve

/-!
# The snapshot table

`forecast_input_snapshots` with its constraints and its triggers. A record that was built meets every
check of the table, also after the trigger has stamped the time of its insertion, and a row that was
inserted stays as it is.
-/

namespace StockApi.Snapshots

open Checked CivilTime Documents Relational Text

/-- The columns of `uq_forecast_input_snapshots_semantic_key`. -/
structure SemanticKey where
  schemaVersion : Int
  resolutionPolicyHash : String
  symbol : String
  target : String
  horizonUnit : String
  seriesBasis : String
  inputTimespan : String
  inputMultiplier : Int
  asOf : Instant
deriving DecidableEq

def SnapshotTerms.semanticKey (t : SnapshotTerms) (asOf : Instant) : SemanticKey :=
  ⟨t.schemaVersion, t.resolutionPolicyHash, t.symbol, t.target, t.horizonUnit, t.seriesBasis,
    t.inputTimespan, t.inputMultiplier, asOf⟩

/-- A row of `forecast_input_snapshots`. -/
abbrev ForecastInputSnapshot := ForecastInputSnapshotRecord Instant

def ForecastInputSnapshotRecord.semanticKey (row : ForecastInputSnapshot) : SemanticKey :=
  row.toSnapshotTerms.semanticKey row.asOf

/-! ## Constraints -/

/-- The checks on the columns that hold no times. -/
def SnapshotTerms.Checks (t : SnapshotTerms) : Prop :=
  t.schemaVersion = 1 ∧ t.symbol = t.symbol.toUpper ∧ IsSymbol t.symbol ∧
  t.target ∈ ["close", "adjusted_close", "return", "log_return"] ∧
  t.horizonUnit ∈ ["trading_day", "calendar_day", "minute", "hour", "week"] ∧
  t.seriesBasis ∈ ["raw", "split_adjusted", "split_dividend_adjusted"] ∧
  t.inputTimespan ∈ ["minute", "hour", "day", "week"] ∧
  (1 ≤ t.inputMultiplier ∧ t.inputMultiplier ≤ 10000) ∧
  ((t.target = "close" ∧ t.seriesBasis = "raw") ∨ (t.target = "adjusted_close" ∧ t.seriesBasis ≠ "raw") ∨
    t.target ∈ ["return", "log_return"]) ∧
  ((t.target ∈ ["close", "adjusted_close"] ∧ t.currency ≠ none) ∨
    (t.target ∈ ["return", "log_return"] ∧ t.currency = none)) ∧
  (∀ s ∈ t.currency, IsCurrency s) ∧ IsHash t.resolutionPolicyHash

instance (t : SnapshotTerms) : Decidable t.Checks := inferInstanceAs (Decidable (_ ∧ _))

/-- `availability_evidence`. -/
def ForecastInputSnapshotRecord.AvailabilityEvidence (row : ForecastInputSnapshot) : Prop :=
  (row.availabilityStatus = "not_run" ∧ row.availabilityRuleSetHash = none ∧
    row.availabilityCheckedAt = none) ∨
  (row.availabilityStatus = "passed" ∧ row.availabilityRuleSetHash ≠ none ∧
    ∃ t ∈ row.availabilityCheckedAt, row.maxAvailableAt ≤ t ∧ row.asOf ≤ t ∧ t ≤ row.sealedAt)

instance (row : ForecastInputSnapshot) : Decidable row.AvailabilityEvidence :=
  inferInstanceAs (Decidable (_ ∨ _))

def ForecastInputSnapshotRecord.Checks (sha256 : Bytes → String) (row : ForecastInputSnapshot) : Prop :=
  row.toSnapshotTerms.Checks ∧ IsHash row.snapshotId ∧ (∀ s ∈ row.availabilityRuleSetHash, IsHash s) ∧
  (1 ≤ row.observationCount ∧ row.observationCount ≤ 10000) ∧
  (1 ≤ row.targetTimeCount ∧ row.targetTimeCount ≤ 252) ∧
  (row.firstObservedAt ≤ row.lastObservedAt ∧ row.lastObservedAt ≤ row.asOf) ∧
  row.maxAvailableAt ≤ row.asOf ∧ row.asOf ≤ row.sealedAt ∧
  (1 ≤ row.canonicalPayload.length ∧ row.canonicalPayload.length ≤ 4194304) ∧
  row.snapshotId = "sha256:" ++ sha256 row.canonicalPayload ∧ row.AvailabilityEvidence

instance (sha256 : Bytes → String) (row : ForecastInputSnapshot) : Decidable (row.Checks sha256) :=
  inferInstanceAs (Decidable (_ ∧ _))

/-! ## Writes -/

/-- `stamp_forecast_input_snapshot_sealed_at`, at a reading of the clock. -/
def stampSealedAt (clock : Instant) (row : ForecastInputSnapshot) : ForecastInputSnapshot :=
  { row with sealedAt := clock }

section Writes

variable (sha256 : Bytes → String)

/-- `INSERT INTO forecast_input_snapshots`, with the row it stored. -/
def insertSnapshot (clock : Instant) (row : ForecastInputSnapshot) (table : List ForecastInputSnapshot) :
    Except SqlError (ForecastInputSnapshot × List ForecastInputSnapshot) := do
  refuseIf (¬ (stampSealedAt clock row).Checks sha256) checkViolation
  refuseIf (∃ other ∈ table, other.snapshotId = row.snapshotId) uniqueViolation
  refuseIf (∃ other ∈ table, other.semanticKey = row.semanticKey) uniqueViolation
  return (stampSealedAt clock row, table ++ [stampSealedAt clock row])

/-- A statement that writes to the table. -/
inductive SnapshotWrite where
  | insert (clock : Instant) (row : ForecastInputSnapshot)
  | update (snapshotId : String) (row : ForecastInputSnapshot)
  | delete (snapshotId : String)
  | truncate

/-- The triggers reject every statement but an insertion. A statement that no row matches fires no row
trigger. -/
def writeSnapshots : SnapshotWrite → List ForecastInputSnapshot → Except SqlError (List ForecastInputSnapshot)
  | .insert clock row, table => (insertSnapshot sha256 clock row table).map Prod.snd
  | .update snapshotId _, table => do
    refuseIf (∃ row ∈ table, row.snapshotId = snapshotId)
      (SqlError.mk "55000" "forecast input snapshots are insert-only")
    return table
  | .delete snapshotId, table => do
    refuseIf (∃ row ∈ table, row.snapshotId = snapshotId)
      (SqlError.mk "55000" "forecast input snapshots are insert-only")
    return table
  | .truncate, _ => .error ⟨"55000", "forecast input snapshots are insert-only"⟩

end Writes

/-! ## Rows that were inserted -/

/-- What holds of the rows of the table. -/
structure TableSound (sha256 : Bytes → String) (table : List ForecastInputSnapshot) : Prop where
  checked : ∀ row ∈ table, row.Checks sha256
  ids : (table.map ForecastInputSnapshotRecord.snapshotId).Nodup
  keys : (table.map ForecastInputSnapshotRecord.semanticKey).Nodup

section Table

variable {sha256 : Bytes → String} {table : List ForecastInputSnapshot}

theorem TableSound.empty : TableSound sha256 [] := ⟨by simp, by simp, by simp⟩

theorem TableSound.eq_of_id (sound : TableSound sha256 table) {a b : ForecastInputSnapshot} (ha : a ∈ table)
    (hb : b ∈ table) (h : a.snapshotId = b.snapshotId) : a = b :=
  List.inj_on_of_nodup_map sound.ids ha hb h

theorem TableSound.eq_of_key (sound : TableSound sha256 table) {a b : ForecastInputSnapshot} (ha : a ∈ table)
    (hb : b ∈ table) (h : a.semanticKey = b.semanticKey) : a = b :=
  List.inj_on_of_nodup_map sound.keys ha hb h

theorem insertSnapshot_eq_ok_iff {clock : Instant} {row : ForecastInputSnapshot}
    {result : ForecastInputSnapshot × List ForecastInputSnapshot} :
    insertSnapshot sha256 clock row table = .ok result ↔
      (stampSealedAt clock row).Checks sha256 ∧
      (∀ other ∈ table, other.snapshotId ≠ row.snapshotId ∧ other.semanticKey ≠ row.semanticKey) ∧
      result = (stampSealedAt clock row, table ++ [stampSealedAt clock row]) := by
  rw [insertSnapshot, refuseIf_bind_eq_ok_iff, refuseIf_bind_eq_ok_iff, refuseIf_bind_eq_ok_iff, not_not,
    pure_eq_ok, Except.ok.injEq]
  simp only [not_exists, not_and]
  constructor
  · rintro ⟨hChecks, hIds, hKeys, rfl⟩
    exact ⟨hChecks, fun other hMem => ⟨hIds other hMem, hKeys other hMem⟩, rfl⟩
  · rintro ⟨hChecks, hFree, rfl⟩
    exact ⟨hChecks, fun other hMem => (hFree other hMem).1, fun other hMem => (hFree other hMem).2, rfl⟩

theorem tableSound_insert (sound : TableSound sha256 table) {clock : Instant} {row : ForecastInputSnapshot}
    {result : ForecastInputSnapshot × List ForecastInputSnapshot}
    (h : insertSnapshot sha256 clock row table = .ok result) : TableSound sha256 result.2 := by
  obtain ⟨hChecks, hFree, rfl⟩ := insertSnapshot_eq_ok_iff.mp h
  refine ⟨?_, ?_, ?_⟩
  · intro other hMem
    rcases List.mem_append.mp hMem with hOld | hNew
    · exact sound.checked other hOld
    · rw [List.mem_singleton.mp hNew]
      exact hChecks
  · rw [List.map_append, List.map_singleton, ← List.concat_eq_append]
    refine sound.ids.concat fun hMem => ?_
    obtain ⟨other, hOther, hSame⟩ := List.mem_map.mp hMem
    exact (hFree other hOther).1 hSame
  · rw [List.map_append, List.map_singleton, ← List.concat_eq_append]
    refine sound.keys.concat fun hMem => ?_
    obtain ⟨other, hOther, hSame⟩ := List.mem_map.mp hMem
    exact (hFree other hOther).2 hSame

/-- A write leaves the rows as they are and may add one. -/
theorem writeSnapshots_eq_ok {w : SnapshotWrite} {table' : List ForecastInputSnapshot}
    (h : writeSnapshots sha256 w table = .ok table') :
    table' = table ∨ ∃ clock row stored, insertSnapshot sha256 clock row table = .ok (stored, table') := by
  cases w with
  | insert clock row =>
    right
    rw [writeSnapshots] at h
    cases hInsert : insertSnapshot sha256 clock row table with
    | error e =>
      rw [hInsert] at h
      cases h
    | ok result =>
      rw [hInsert] at h
      cases h
      exact ⟨clock, row, result.1, hInsert⟩
  | update snapshotId row =>
    rw [writeSnapshots, refuseIf_bind_eq_ok_iff, pure_eq_ok] at h
    exact .inl (Except.ok.inj h.2).symm
  | delete snapshotId =>
    rw [writeSnapshots, refuseIf_bind_eq_ok_iff, pure_eq_ok] at h
    exact .inl (Except.ok.inj h.2).symm
  | truncate => cases h

def SnapshotStep (sha256 : Bytes → String) (table table' : List ForecastInputSnapshot) : Prop :=
  ∃ w, writeSnapshots sha256 w table = .ok table'

/-- A step keeps the rows and what holds of them. -/
theorem snapshotStep_sound {table' : List ForecastInputSnapshot} (sound : TableSound sha256 table)
    (step : SnapshotStep sha256 table table') : TableSound sha256 table' ∧ table <+: table' := by
  obtain ⟨w, h⟩ := step
  rcases writeSnapshots_eq_ok h with rfl | ⟨clock, row, stored, hInsert⟩
  · exact ⟨sound, List.prefix_refl _⟩
  · refine ⟨tableSound_insert sound hInsert, ?_⟩
    obtain ⟨-, -, hResult⟩ := insertSnapshot_eq_ok_iff.mp hInsert
    cases hResult
    exact List.prefix_append _ _

end Table

/-! ## Records that were built -/

section Built

variable {form : NormalForm} {floats : FloatText} {sha256 : Bytes → String}

theorem toUpper_symbolChar {c : Char} (h : symbolChar c = true) : c.toUpper = c := by
  refine dif_neg ?_
  rintro ⟨hLow, -⟩
  have hLower : 97 ≤ c.toNat := hLow
  simp only [symbolChar, Bool.or_eq_true, Bool.and_eq_true, decide_eq_true_eq] at h
  rcases h with ((((⟨-, hUpper⟩ | ⟨-, hDigit⟩) | rfl) | rfl) | rfl) | rfl
  · have hUpperCode : c.toNat ≤ 90 := hUpper
    omega
  · have hDigitCode : c.toNat ≤ 57 := hDigit
    omega
  all_goals exact absurd hLower (by decide)

theorem toUpper_of_isSymbol {s : String} (h : IsSymbol s) : s.toUpper = s := by
  rw [← String.toList_inj, String.toUpper, String.toList_map]
  calc s.toList.map Char.toUpper
      = s.toList.map id := List.map_congr_left fun c hc => toUpper_symbolChar (List.all_eq_true.mp h.2 c hc)
    _ = s.toList := List.map_id _

theorem SnapshotTerms.Valid.checks {t : SnapshotTerms} (h : t.Valid) : t.Checks := by
  have hTarget : t.target = "adjusted_close" ∨ t.target = "close" ∨ t.target = "log_return" ∨
      t.target = "return" := by simpa [targets] using h.isTarget
  have hFits := h.currencyFits
  have hClose := h.closeIsRaw
  have hAdjusted := h.adjustedIsNotRaw
  rw [CurrencyFits] at hFits
  have hFormat : ∀ s ∈ t.currency, IsCurrency s := by
    intro s hMem
    split_ifs at hFits
    · obtain ⟨other, hOther, hFormat⟩ := hFits
      rwa [Option.mem_unique hMem hOther]
    · rw [hFits] at hMem
      cases hMem
  have hCurrency : (t.target ∈ ["close", "adjusted_close"] ∧ t.currency ≠ none) ∨
      (t.target ∈ ["return", "log_return"] ∧ t.currency = none) := by
    split_ifs at hFits with hPrice
    · obtain ⟨s, hSome, -⟩ := hFits
      refine .inl ⟨?_, fun hNone => by simp [hNone] at hSome⟩
      rcases List.mem_pair.mp hPrice with hIs | hIs <;> simp [hIs]
    · refine .inr ⟨?_, hFits⟩
      rcases hTarget with hIs | hIs | hIs | hIs <;> simp_all [priceTargets]
  have hBasis : (t.target = "close" ∧ t.seriesBasis = "raw") ∨
      (t.target = "adjusted_close" ∧ t.seriesBasis ≠ "raw") ∨ t.target ∈ ["return", "log_return"] := by
    rcases hTarget with hIs | hIs | hIs | hIs
    · exact .inr (.inl ⟨hIs, fun hRaw => hAdjusted ⟨hIs, hRaw⟩⟩)
    · exact .inl ⟨hIs, not_not.mp fun hOther => hClose ⟨hIs, hOther⟩⟩
    · exact .inr (.inr (by simp [hIs]))
    · exact .inr (.inr (by simp [hIs]))
  refine ⟨h.version, (toUpper_of_isSymbol h.isSymbol).symm, h.isSymbol, ?_, ?_, ?_, ?_, h.multiplierRange,
    hBasis, hCurrency, hFormat, h.policyHash⟩
  · rcases hTarget with hIs | hIs | hIs | hIs <;> simp [hIs]
  · have hUnit := h.isUnit
    simp only [horizonUnits, List.mem_cons, List.not_mem_nil, or_false] at hUnit
    rcases hUnit with hIs | hIs | hIs | hIs | hIs <;> simp [hIs]
  · exact h.isBasis
  · have hTimespan := h.isTimespan
    simp only [inputTimespans, List.mem_cons, List.not_mem_nil, or_false] at hTimespan
    rcases hTimespan with hIs | hIs | hIs | hIs <;> simp [hIs]

/-- The first and the last of ascending observations. -/
theorem ObservationsValid.window {asOf first last : Instant} {target : String}
    {observations : List (SnapshotObservation Instant)} (h : ObservationsValid asOf target observations)
    (hFirst : observations.head?.map SnapshotObservation.observedAt = some first)
    (hLast : observations.getLast?.map SnapshotObservation.observedAt = some last) :
    first ≤ last ∧ last ≤ asOf := by
  obtain ⟨o, hHead, rfl⟩ := Option.map_eq_some_iff.mp hFirst
  obtain ⟨p, hEnd, rfl⟩ := Option.map_eq_some_iff.mp hLast
  have hMem := List.mem_of_getLast? hEnd
  constructor
  · cases observations with
    | nil => cases hHead
    | cons other rest =>
      cases hHead
      rcases List.mem_cons.mp hMem with rfl | hRest
      · exact le_rfl
      · exact ((List.pairwise_cons.mp h.ascending).1 p hRest).le
  · exact (h.admissible p hMem).available.trans (h.admissible p hMem).cutoff

theorem Normalizes.latest_le {p : ForecastInputSnapshotPayload ParsedDateTime}
    {q : ForecastInputSnapshotPayload Instant} (h : Normalizes form p q) {latest : Instant}
    (isLatest : maxAvailableAt q.observations q.dataSources = some latest) : latest ≤ q.asOf := by
  rcases List.mem_append.mp (List.max?_eq_some_iff.mp isLatest).1 with hObserved | hSourced
  · obtain ⟨o, hMem, rfl⟩ := List.mem_map.mp hObserved
    exact (h.observedValid.admissible o hMem).cutoff
  · obtain ⟨s, hMem, rfl⟩ := List.mem_map.mp hSourced
    exact h.source_cutoff s hMem

/-- A record stamped later is the record that is built with the later time. -/
theorem buildSnapshotRecord_stamped {p : ForecastInputSnapshotPayload ParsedDateTime} {sealedAt : ParsedDateTime}
    {record : ForecastInputSnapshot} {clock : Instant}
    (built : buildSnapshotRecord form floats sha256 p sealedAt = .ok record) (later : record.sealedAt ≤ clock) :
    buildSnapshotRecord form floats sha256 p clock.inUtc = .ok (stampSealedAt clock record) := by
  obtain ⟨q, hNormal, -, hCutoff, hChecked, hBytes, d⟩ := buildSnapshotRecord_eq_ok_iff.mp built
  refine buildSnapshotRecord_eq_ok_iff.mpr ⟨q, hNormal, Instant.toInstant_inUtc clock, hCutoff.trans later,
    fun t hMem => (hChecked t hMem).trans later, hBytes, ?_⟩
  exact ⟨d.terms, d.snapshotId, d.asOf, d.observationCount, d.targetTimeCount, d.first, d.last, d.latest,
    d.availability⟩

/-- A built record meets the checks of the table. -/
theorem checks_of_built {p : ForecastInputSnapshotPayload ParsedDateTime} {sealedAt : ParsedDateTime}
    {record : ForecastInputSnapshot} (built : buildSnapshotRecord form floats sha256 p sealedAt = .ok record)
    (isHash : IsHash record.snapshotId) : record.Checks sha256 := by
  obtain ⟨q, hNormal, -, hCutoff, hChecked, hBytes, d⟩ := buildSnapshotRecord_eq_ok_iff.mp built
  obtain ⟨_, -, hDumps, hSize⟩ := canonicalSnapshotPayload_eq_ok_iff.mp hBytes
  have hNonempty : record.canonicalPayload ≠ [] := by
    rw [hDumps]
    exact dumps_ne_nil _ _
  have hWindow := hNormal.observedValid.window d.first d.last
  have hLatest := hNormal.latest_le d.latest
  have hObserved := hNormal.observedValid.size
  have hTargeted := hNormal.targetedValid.size
  have hProved := hNormal.provedValid
  have hTerms := d.terms
  have hEvidence : (∀ s ∈ record.availabilityRuleSetHash, IsHash s) ∧ record.AvailabilityEvidence := by
    rw [d.availability] at hProved hChecked
    rw [ForecastInputSnapshotRecord.AvailabilityEvidence, d.asOf]
    simp only at hChecked
    generalize hStatus : record.availabilityStatus = status at hProved ⊢
    generalize hRules : record.availabilityRuleSetHash = rules at hProved ⊢
    generalize hTime : record.availabilityCheckedAt = time at hProved hChecked ⊢
    cases hProved with
    | notRun => exact ⟨by simp, .inl ⟨rfl, rfl, rfl⟩⟩
    | passed isHash isLatest covers =>
      rw [d.latest, Option.some.injEq] at isLatest
      subst isLatest
      refine ⟨by simpa using isHash, .inr ⟨rfl, by simp, _, rfl, ?_, ?_, hChecked _ rfl⟩⟩
      · exact (le_max_left _ _).trans covers
      · exact (le_max_right _ _).trans covers
  refine ⟨hTerms ▸ hNormal.termsValid.checks, isHash, hEvidence.1, ?_, ?_, ?_, ?_, ?_, ?_, d.snapshotId,
    hEvidence.2⟩
  · rw [d.observationCount]
    omega
  · rw [d.targetTimeCount]
    omega
  · rw [d.asOf]
    exact hWindow
  · rw [d.asOf]
    exact hLatest
  · rw [d.asOf]
    exact hCutoff
  · refine ⟨List.length_pos_of_ne_nil hNonempty, ?_⟩
    rw [maxPayloadBytes] at hSize
    omega

/-- A digest in lowercase hexadecimal. -/
def IsDigest (sha256 : Bytes → String) : Prop :=
  ∀ bytes, (sha256 bytes).toList.length = 64 ∧ (sha256 bytes).toList.all hexChar = true

theorem isHash_digest (digest : IsDigest sha256) (bytes : Bytes) : IsHash ("sha256:" ++ sha256 bytes) := by
  obtain ⟨hLength, hHex⟩ := digest bytes
  rw [← String.ofList_toList (s := sha256 bytes)]
  exact isHash_append hLength hHex

/-- The table takes every record that was built, at any later time, unless its identity or its semantic
key is taken; and the row that is stored is the record built at that time. -/
theorem insertSnapshot_of_built (table : List ForecastInputSnapshot) (digest : IsDigest sha256)
    {p : ForecastInputSnapshotPayload ParsedDateTime} {sealedAt : ParsedDateTime}
    {record : ForecastInputSnapshot} {clock : Instant}
    (built : buildSnapshotRecord form floats sha256 p sealedAt = .ok record) (later : record.sealedAt ≤ clock) :
    insertSnapshot sha256 clock record table =
        (if ∃ other ∈ table, other.snapshotId = record.snapshotId ∨ other.semanticKey = record.semanticKey then
          .error uniqueViolation
        else .ok (stampSealedAt clock record, table ++ [stampSealedAt clock record])) ∧
      buildSnapshotRecord form floats sha256 p clock.inUtc = .ok (stampSealedAt clock record) := by
  have hStamped := buildSnapshotRecord_stamped built later
  obtain ⟨_, _, _, _, _, _, d⟩ := buildSnapshotRecord_eq_ok_iff.mp built
  have hChecks : (stampSealedAt clock record).Checks sha256 := by
    refine checks_of_built hStamped ?_
    exact d.snapshotId ▸ isHash_digest digest record.canonicalPayload
  refine ⟨?_, hStamped⟩
  split_ifs with hTaken
  · obtain ⟨other, hMem, hSame⟩ := hTaken
    rw [insertSnapshot, refuseIf_of_not (not_not.mpr hChecks), ok_bind]
    by_cases hId : ∃ other ∈ table, other.snapshotId = record.snapshotId
    · rw [refuseIf_of hId, error_bind]
    · have hKey : other.semanticKey = record.semanticKey :=
        hSame.resolve_left fun hSameId => hId ⟨other, hMem, hSameId⟩
      rw [refuseIf_of_not hId, ok_bind, refuseIf_of ⟨other, hMem, hKey⟩, error_bind]
  · refine insertSnapshot_eq_ok_iff.mpr ⟨hChecks, fun other hMem => ⟨?_, ?_⟩, rfl⟩
    · exact fun hSame => hTaken ⟨other, hMem, .inl hSame⟩
    · exact fun hSame => hTaken ⟨other, hMem, .inr hSame⟩

theorem isDigest_sampleDigits : IsDigest sampleDigits := by
  intro bytes
  rw [sampleDigits_eq, String.toList_ofList]
  exact ⟨by simp, by decide⟩

end Built

end StockApi.Snapshots

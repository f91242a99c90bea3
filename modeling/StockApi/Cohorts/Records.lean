import StockApi.Cohorts.Codec

/-!
# Cohort records and seals

`build_cohort_record`, `validate_cohort_record` and `validate_cohort_seal`. A record is determined by
its bytes, its time and its transaction; a sealed one was visible before any of its targets.
-/

namespace StockApi.Cohorts

open Checked CivilTime Documents Groups Text
open Calibration (sha256Text sha256Text_bind_eq_ok_iff)

/-- The headers that a record takes from its manifest. -/
structure CohortHeaders (τ : Type) extends CohortTerms where
  cohortId : String
  memberCount : Int
  earliestTargetTime : τ
  latestTargetTime : τ
deriving DecidableEq

structure ForecastCohortRecord (τ : Type) extends CohortHeaders τ where
  recordedAt : τ
  creatorXid : Int
  canonicalManifest : Bytes
deriving DecidableEq

structure ForecastCohortSeal where
  cohortId : String
  manifestRecordedAt : ParsedDateTime
  sealedAt : ParsedDateTime
  sealerXid : Int

section Map

variable {σ τ υ : Type}

def CohortHeaders.map (f : σ → τ) (h : CohortHeaders σ) : CohortHeaders τ :=
  ⟨h.toCohortTerms, h.cohortId, h.memberCount, f h.earliestTargetTime, f h.latestTargetTime⟩

def ForecastCohortRecord.map (f : σ → τ) (r : ForecastCohortRecord σ) : ForecastCohortRecord τ :=
  ⟨r.toCohortHeaders.map f, f r.recordedAt, r.creatorXid, r.canonicalManifest⟩

def ForecastCohortRecord.inUtc (r : ForecastCohortRecord Instant) :
    ForecastCohortRecord ParsedDateTime :=
  r.map Instant.inUtc

theorem ForecastCohortRecord.toInstant_inUtc (r : ForecastCohortRecord Instant) :
    r.inUtc.map ParsedDateTime.toInstant = r.map some := by
  simp [inUtc, map, CohortHeaders.map]

end Map

/-! ## Building and validating -/

/-- `_xid`. -/
def positiveXid (value : Int) (label : String) : Except String PUnit :=
  refuseIf (value ≤ 0) (label ++ " must be a positive transaction identity")

section Records

variable (decimal : DecimalDigits) (floats : FloatText) (sha256 : Bytes → String)

/-- `cohort_id_for_manifest` of bytes. -/
def cohortIdForManifest (canonicalManifest : Bytes) : Except String String := do
  let manifest ← parseCohortManifest decimal floats canonicalManifest
  let canonical ← canonicalCohortManifest floats manifest.inUtc
  return "sha256:" ++ sha256 canonical

def buildCohortRecord (manifest : ForecastCohortManifest ParsedDateTime)
    (recordedAt : ParsedDateTime) (creatorXid : Int) :
    Except String (ForecastCohortRecord Instant) := do
  let normalized ← normalizedManifest manifest
  let recorded ← utc recordedAt "recorded_at"
  positiveXid creatorXid "creator_xid"
  let earliest ← orRefuse (normalized.members.map (·.targetTime)).head? "tuple index out of range"
  let latest ← orRefuse (normalized.members.map (·.targetTime)).max? "max() iterable argument is empty"
  refuseIf (earliest ≤ recorded) "cohort manifest must be recorded before its earliest target"
  let canonical ← canonicalCohortManifest floats normalized.inUtc
  let cohortId ← cohortIdForManifest decimal floats sha256 canonical
  return {
    toCohortTerms := normalized.toCohortTerms
    cohortId
    memberCount := normalized.members.length
    earliestTargetTime := earliest
    latestTargetTime := latest
    recordedAt := recorded
    creatorXid
    canonicalManifest := canonical }

def validateCohortRecord (record : ForecastCohortRecord ParsedDateTime) :
    Except String (ForecastCohortManifest Instant) := do
  let manifest ← parseCohortManifest decimal floats record.canonicalManifest
  let expected ← buildCohortRecord decimal floats sha256 manifest.inUtc record.recordedAt
    record.creatorXid
  refuseIf (record.map ParsedDateTime.toInstant ≠ expected.map some)
    "cohort record headers do not match the canonical manifest"
  return manifest

def validateCohortSeal (record : ForecastCohortRecord ParsedDateTime) (receipt : ForecastCohortSeal) :
    Except String (ForecastCohortManifest Instant) := do
  let manifest ← validateCohortRecord decimal floats sha256 record
  sha256Text receipt.cohortId "seal cohort_id"
  refuseIf (receipt.cohortId ≠ record.cohortId) "cohort seal identifies a different manifest"
  let manifestRecorded ← utc receipt.manifestRecordedAt "manifest_recorded_at"
  refuseIf (some manifestRecorded ≠ record.recordedAt.toInstant)
    "cohort seal does not bind the manifest recording receipt"
  let sealedUtc ← utc receipt.sealedAt "sealed_at"
  positiveXid receipt.sealerXid "sealer_xid"
  refuseIf (receipt.sealerXid = record.creatorXid)
    "cohort seal must be recorded in a transaction after the manifest commits"
  refuseIf (record.recordedAt.toInstant.any (sealedUtc < ·) = true)
    "cohort seal predates the manifest record"
  refuseIf (record.earliestTargetTime.toInstant.any (· ≤ sealedUtc) = true)
    "cohort must be sealed strictly before its earliest target"
  return manifest

end Records

/-! ## What a record says -/

section Spec

variable {decimal : DecimalDigits} {floats : FloatText} {sha256 : Bytes → String}
  {n : ForecastCohortManifest Instant} {r : ForecastCohortRecord Instant}

/-- The record of a normal manifest. -/
structure Describes (floats : FloatText) (sha256 : Bytes → String) (n : ForecastCohortManifest Instant)
    (r : ForecastCohortRecord Instant) : Prop where
  terms : r.toCohortTerms = n.toCohortTerms
  identity : r.cohortId = "sha256:" ++ sha256 r.canonicalManifest
  counted : r.memberCount = n.members.length
  earliest : (n.members.map (·.targetTime)).head? = some r.earliestTargetTime
  latest : (n.members.map (·.targetTime)).max? = some r.latestTargetTime
  recordedBefore : r.recordedAt < r.earliestTargetTime
  transaction : 0 < r.creatorXid
  encoded : canonicalCohortManifest floats n.inUtc = .ok r.canonicalManifest

theorem cohortIdForManifest_canonical {m : ForecastCohortManifest ParsedDateTime} {bytes : Bytes}
    (h : canonicalCohortManifest floats m = .ok bytes) :
    cohortIdForManifest decimal floats sha256 bytes = .ok ("sha256:" ++ sha256 bytes) := by
  obtain ⟨n, -, -, hParsed, hAgain⟩ : ∃ n, _ ∧ _ ∧
      parseCohortManifest decimal floats bytes = .ok n ∧ _ := parse_canonicalCohortManifest h
  rw [cohortIdForManifest, hParsed, ok_bind, hAgain, ok_bind, pure_eq_ok]

theorem buildCohortRecord_eq_ok_iff {m : ForecastCohortManifest ParsedDateTime}
    {recordedAt : ParsedDateTime} {creatorXid : Int} :
    buildCohortRecord decimal floats sha256 m recordedAt creatorXid = .ok r ↔
      ∃ n, SameCohort m n ∧ NormalManifest n ∧ recordedAt.toInstant = some r.recordedAt ∧
        r.creatorXid = creatorXid ∧ Describes floats sha256 n r := by
  rw [buildCohortRecord, bind_eq_ok_iff]
  constructor
  · rintro ⟨n, hNormal, h⟩
    obtain ⟨hSame, hValid⟩ := normalizedManifest_eq_ok_iff.mp hNormal
    rw [utc_bind_eq_ok_iff] at h
    obtain ⟨recorded, hRecorded, h⟩ := h
    rw [positiveXid, refuseIf_bind_eq_ok_iff, not_le, orRefuse_bind_eq_ok_iff] at h
    obtain ⟨hXid, earliest, hEarliest, h⟩ := h
    rw [orRefuse_bind_eq_ok_iff] at h
    obtain ⟨latest, hLatest, h⟩ := h
    rw [refuseIf_bind_eq_ok_iff, not_le, bind_eq_ok_iff] at h
    obtain ⟨hBefore, canonical, hCanonical, h⟩ := h
    rw [cohortIdForManifest_canonical hCanonical, ok_bind, pure_eq_ok] at h
    cases h
    exact ⟨n, hSame, hValid, hRecorded, rfl,
      ⟨rfl, rfl, rfl, hEarliest, hLatest, hBefore, hXid, hCanonical⟩⟩
  · rintro ⟨n, hSame, hNormal, hRecorded, rfl, hDescribes⟩
    refine ⟨n, normalizedManifest_eq_ok_iff.mpr ⟨hSame, hNormal⟩, ?_⟩
    rw [(utc_eq_ok_iff recordedAt "recorded_at" r.recordedAt).mpr hRecorded, ok_bind, positiveXid,
      refuseIf_of_not (not_le.mpr hDescribes.transaction), ok_bind, hDescribes.earliest, orRefuse_some,
      ok_bind, hDescribes.latest, orRefuse_some, ok_bind,
      refuseIf_of_not (not_le.mpr hDescribes.recordedBefore), ok_bind, hDescribes.encoded, ok_bind,
      cohortIdForManifest_canonical hDescribes.encoded, ok_bind, pure_eq_ok, ← hDescribes.terms,
      ← hDescribes.identity, ← hDescribes.counted]

/-- A record is accepted when it is what its bytes, its time and its transaction make it. -/
theorem validateCohortRecord_eq_ok_iff {record : ForecastCohortRecord ParsedDateTime} :
    validateCohortRecord decimal floats sha256 record = .ok n ↔
      NormalManifest n ∧
        ∃ r, record.map ParsedDateTime.toInstant = r.map some ∧ Describes floats sha256 n r := by
  rw [validateCohortRecord, bind_eq_ok_iff]
  constructor
  · rintro ⟨manifest, hParsed, h⟩
    rw [bind_eq_ok_iff] at h
    obtain ⟨r, hBuilt, h⟩ := h
    rw [refuseIf_bind_eq_ok_iff, not_not, pure_eq_ok] at h
    obtain ⟨hRecord, h⟩ := h
    cases h
    obtain ⟨n', hSame, hNormal', -, -, hDescribes⟩ := buildCohortRecord_eq_ok_iff.mp hBuilt
    have hNormal := (canonical_of_parseCohortManifest hParsed).1
    rw [sameCohort_unique hSame (SameCohort.inUtc n) hNormal' hNormal] at hDescribes
    exact ⟨hNormal, r, hRecord, hDescribes⟩
  · rintro ⟨hNormal, r, hRecord, hDescribes⟩
    obtain ⟨headers, recordedAt, creatorXid, canonicalManifest⟩ := record
    simp only [ForecastCohortRecord.map, ForecastCohortRecord.mk.injEq] at hRecord
    obtain ⟨hHeaders, hRecorded, rfl, rfl⟩ := hRecord
    obtain ⟨n', hSame, hNormal', hParsed, -⟩ : ∃ n', _ ∧ _ ∧
        parseCohortManifest decimal floats r.canonicalManifest = .ok n' ∧ _ :=
      parse_canonicalCohortManifest hDescribes.encoded
    rw [sameCohort_unique hSame (SameCohort.inUtc n) hNormal' hNormal] at hParsed
    have hBuilt : buildCohortRecord decimal floats sha256 n.inUtc recordedAt r.creatorXid = .ok r :=
      buildCohortRecord_eq_ok_iff.mpr
        ⟨n, SameCohort.inUtc n, hNormal, hRecorded, rfl, hDescribes⟩
    have hSameRecord : ForecastCohortRecord.map ParsedDateTime.toInstant
        ⟨headers, recordedAt, r.creatorXid, r.canonicalManifest⟩ = r.map some := by
      rw [ForecastCohortRecord.map, ForecastCohortRecord.map, hHeaders, hRecorded]
    refine ⟨n, hParsed, ?_⟩
    rw [hBuilt, ok_bind, refuseIf_of_not (not_not.mpr hSameRecord), ok_bind, pure_eq_ok]

/-- The headers of a record follow from its manifest. -/
theorem Describes.headers_eq {r' : ForecastCohortRecord Instant} (h : Describes floats sha256 n r)
    (h' : Describes floats sha256 n r') : r.toCohortHeaders = r'.toCohortHeaders := by
  have hBytes := Except.ok.inj (h.encoded.symm.trans h'.encoded)
  have hIdentity := h.identity
  rw [hBytes, ← h'.identity] at hIdentity
  have hTerms := h.terms.trans h'.terms.symm
  have hCounted := h.counted.trans h'.counted.symm
  have hEarliest := Option.some.inj (h.earliest.symm.trans h'.earliest)
  have hLatest := Option.some.inj (h.latest.symm.trans h'.latest)
  obtain ⟨⟨terms, id, count, earliest, latest⟩, recordedAt, creatorXid, bytes⟩ := r
  obtain ⟨⟨terms', id', count', earliest', latest'⟩, recordedAt', creatorXid', bytes'⟩ := r'
  simp only at hIdentity hTerms hCounted hEarliest hLatest
  rw [hIdentity, hTerms, hCounted, hEarliest, hLatest]

/-- The first target time of a normal manifest is its earliest. -/
theorem NormalManifest.earliest_le (h : NormalManifest n) {t : Instant}
    (first : (n.members.map (·.targetTime)).head? = some t) : ∀ m ∈ n.members, t ≤ m.targetTime := by
  have hAscending := h.ascending
  cases hMembers : n.members with
  | nil => simp
  | cons a rest =>
    rw [hMembers] at first hAscending
    obtain rfl : a.targetTime = t := Option.some.inj first
    intro m hMem
    rcases List.mem_cons.mp hMem with rfl | hMem
    · exact le_rfl
    · exact (Prod.Lex.toLex_lt_toLex.mp (List.rel_of_pairwise_cons hAscending hMem)).elim le_of_lt
        fun hTie => hTie.1.le

/-- What a seal proves: another transaction saw the record, before any of its targets. -/
structure PreCommitted (record : ForecastCohortRecord ParsedDateTime) (receipt : ForecastCohortSeal)
    (n : ForecastCohortManifest Instant) : Prop where
  distinct : receipt.sealerXid ≠ record.creatorXid
  timely : ∃ recorded sealedUtc, record.recordedAt.toInstant = some recorded ∧
    receipt.sealedAt.toInstant = some sealedUtc ∧ recorded ≤ sealedUtc ∧
    ∀ m ∈ n.members, sealedUtc < m.targetTime
  forecastSteps : (n.members.map (·.forecastStep)).Nodup
  opportunitySteps : (n.members.map (·.opportunityStep)).Nodup

theorem preCommitted_of_validateCohortSeal {record : ForecastCohortRecord ParsedDateTime}
    {receipt : ForecastCohortSeal}
    (h : validateCohortSeal decimal floats sha256 record receipt = .ok n) :
    validateCohortRecord decimal floats sha256 record = .ok n ∧ PreCommitted record receipt n := by
  rw [validateCohortSeal, bind_eq_ok_iff] at h
  obtain ⟨manifest, hRecord, h⟩ := h
  rw [sha256Text_bind_eq_ok_iff, refuseIf_bind_eq_ok_iff, utc_bind_eq_ok_iff] at h
  obtain ⟨-, -, manifestRecorded, -, h⟩ := h
  rw [refuseIf_bind_eq_ok_iff, not_not, utc_bind_eq_ok_iff] at h
  obtain ⟨hRecorded, sealedUtc, hSealed, h⟩ := h
  rw [positiveXid, refuseIf_bind_eq_ok_iff, refuseIf_bind_eq_ok_iff, refuseIf_bind_eq_ok_iff,
    refuseIf_bind_eq_ok_iff, pure_eq_ok] at h
  obtain ⟨-, hDistinct, hLater, hBefore, h⟩ := h
  cases h
  obtain ⟨hNormal, r, hSame, hDescribes⟩ := validateCohortRecord_eq_ok_iff.mp hRecord
  have hEarliest : record.earliestTargetTime.toInstant = some r.earliestTargetTime :=
    congrArg (fun r => r.earliestTargetTime) hSame
  rw [hEarliest, Option.any_some, decide_eq_true_eq, not_le] at hBefore
  rw [← hRecorded, Option.any_some, decide_eq_true_eq, not_lt] at hLater
  refine ⟨hRecord, hDistinct, ⟨manifestRecorded, sealedUtc, hRecorded.symm, hSealed, hLater, ?_⟩,
    hNormal.forecastSteps, hNormal.opportunitySteps⟩
  exact fun m hMem => hBefore.trans_le (hNormal.earliest_le hDescribes.earliest m hMem)

end Spec

/-- The cohort codec is exact, a record is its manifest's, and a seal proves that the cohort was fixed
before any of its outcomes. -/
theorem cohort_codec_and_seal (decimal : DecimalDigits) (floats : FloatText)
    (sha256 : Bytes → String) :
    (∀ bytes, (∃ n, parseCohortManifest decimal floats bytes = .ok n) ↔
      ∃ m, canonicalCohortManifest floats m = .ok bytes) ∧
    (∀ bytes n, parseCohortManifest decimal floats bytes = .ok n →
      canonicalCohortManifest floats n.inUtc = .ok bytes) ∧
    (∀ m m' bytes bytes', canonicalCohortManifest floats m = .ok bytes →
      canonicalCohortManifest floats m' = .ok bytes' →
      (bytes = bytes' ↔ m.toCohortTerms = m'.toCohortTerms ∧
        (m.members.map (·.map ParsedDateTime.toInstant)).Perm
          (m'.members.map (·.map ParsedDateTime.toInstant)))) ∧
    (∀ m recordedAt creatorXid r,
      buildCohortRecord decimal floats sha256 m recordedAt creatorXid = .ok r →
      (∃ n, validateCohortRecord decimal floats sha256 r.inUtc = .ok n) ∧
      ∀ headers : CohortHeaders ParsedDateTime,
        headers.map ParsedDateTime.toInstant ≠ r.toCohortHeaders.map some →
        ∀ n, validateCohortRecord decimal floats sha256
          { r.inUtc with toCohortHeaders := headers } ≠ .ok n) ∧
    ∀ record receipt n, validateCohortSeal decimal floats sha256 record receipt = .ok n →
      validateCohortRecord decimal floats sha256 record = .ok n ∧ PreCommitted record receipt n := by
  refine ⟨?_, fun bytes n h => (canonical_of_parseCohortManifest h).2,
    fun m m' bytes bytes' h h' => canonical_eq_iff h h', ?_,
    fun record receipt n h => preCommitted_of_validateCohortSeal h⟩
  · intro bytes
    constructor
    · rintro ⟨n, h⟩
      exact ⟨n.inUtc, (canonical_of_parseCohortManifest h).2⟩
    · rintro ⟨m, h⟩
      obtain ⟨n, -, -, hParsed, -⟩ := parse_canonicalCohortManifest h
      exact ⟨n, hParsed⟩
  · intro m recordedAt creatorXid r h
    obtain ⟨n, -, hNormal, -, -, hDescribes⟩ := buildCohortRecord_eq_ok_iff.mp h
    refine ⟨⟨n, validateCohortRecord_eq_ok_iff.mpr ⟨hNormal, r, r.toInstant_inUtc, hDescribes⟩⟩, ?_⟩
    intro headers hOther n' hAccepted
    obtain ⟨hNormal', r', hRecord, hDescribes'⟩ := validateCohortRecord_eq_ok_iff.mp hAccepted
    obtain ⟨hHeaders, -, -, hBytes⟩ := (ForecastCohortRecord.mk.injEq ..).mp hRecord
    -- the bytes are the same, and so is the manifest that they stand for
    have hManifest : n' = n := by
      have hEncoded := hDescribes'.encoded
      rw [← hBytes] at hEncoded
      obtain ⟨hTerms, hPerm⟩ := (canonical_eq_iff hEncoded hDescribes.encoded).mp rfl
      exact sameCohort_unique (SameCohort.inUtc n')
        ((sameCohort_iff (SameCohort.inUtc n)).mpr ⟨hTerms.symm, hPerm.symm⟩) hNormal' hNormal
    rw [hManifest] at hDescribes'
    rw [hDescribes'.headers_eq hDescribes] at hHeaders
    exact hOther hHeaders

/-! ### A sample -/

section Sample

open Calibration (sampleFloats sampleDigest sampleDigest_isHash)

def sampleTarget : Instant := ⟨63849600000000000, by decide⟩

def laterTarget : Instant := ⟨63849686400000000, by decide⟩

def sampleRecorded : Instant := ⟨63763200000000000, by decide⟩

def sampleSealed : Instant := ⟨63763200000250000, by decide⟩

/-- Two steps of one forecast. -/
def sampleManifest : ForecastCohortManifest Instant where
  purpose := "calibration_fit"
  selectionPolicyHash := sampleDigest
  outcomeResolutionPolicyHash := sampleDigest
  availabilityRuleSetHash := sampleDigest
  schemaVersion := 1
  members := [⟨7, 1, sampleTarget, sampleDigest, sampleDigest⟩, ⟨7, 2, laterTarget, sampleDigest, sampleDigest⟩]

/-- The later step first. -/
def reversedManifest : ForecastCohortManifest Instant :=
  { sampleManifest with members := sampleManifest.members.reverse }

def sampleHex : Bytes → String := fun _ => String.ofList (List.replicate 64 '0')

def sampleRecord : ForecastCohortRecord Instant where
  toCohortTerms := sampleManifest.toCohortTerms
  cohortId := sampleDigest
  memberCount := 2
  earliestTargetTime := sampleTarget
  latestTargetTime := laterTarget
  recordedAt := sampleRecorded
  creatorXid := 1
  canonicalManifest := dumps sampleFloats (manifestDocument sampleManifest)

def sampleSeal : ForecastCohortSeal :=
  ⟨sampleDigest, sampleRecorded.inUtc, sampleSealed.inUtc, 2⟩

theorem sampleManifest_normal : NormalManifest sampleManifest where
  terms := ⟨rfl, List.mem_cons_self, sampleDigest_isHash, sampleDigest_isHash, sampleDigest_isHash⟩
  size := by decide
  valid := by
    have hEach : ∀ {step : Int} {t : Instant}, 1 ≤ step ∧ step ≤ 252 →
        (⟨7, step, t, sampleDigest, sampleDigest⟩ : ForecastCohortMember Instant).Valid :=
      fun hStep => ⟨hStep, sampleDigest_isHash, sampleDigest_isHash⟩
    exact List.forall_mem_cons.mpr ⟨hEach (by decide), List.forall_mem_singleton.mpr (hEach (by decide))⟩
  forecastSteps := by decide
  opportunitySteps := by
    rw [sampleManifest, List.map_cons, List.map_singleton, List.nodup_cons, List.mem_singleton]
    exact ⟨fun hSame => absurd (Prod.mk.inj hSame).2 (by decide), List.nodup_singleton _⟩
  ascending := List.pairwise_pair.mpr (Prod.Lex.toLex_lt_toLex.mpr (Or.inl (by decide)))

theorem size_sampleManifest : 24 * size sampleFloats (manifestDocument sampleManifest) ≤ maxCanonicalBytes := by
  simp only [manifestDocument, memberDocument, sampleManifest, size, sizeItems, sizeEntries, Json.plain, List.map_cons,
    List.map_nil, length_uuid, length_timestamp, sampleDigest_isHash.2.1, String.reduceToList, List.length_cons,
    List.length_nil, Nat.reduceAdd]
  decide

theorem canonical_sampleManifest {m : ForecastCohortManifest ParsedDateTime} (h : SameCohort m sampleManifest) :
    canonicalCohortManifest sampleFloats m = .ok (dumps sampleFloats (manifestDocument sampleManifest)) :=
  canonicalCohortManifest_eq_ok_iff.mpr ⟨sampleManifest, h, sampleManifest_normal, rfl,
    (length_dumps_le sampleFloats _).trans size_sampleManifest⟩

theorem same_reversed : SameCohort reversedManifest.inUtc sampleManifest :=
  ⟨rfl, (SameCohort.inUtc reversedManifest).2.trans ((List.reverse_perm _).map _)⟩

theorem sampleRecord_bytes : sampleRecord.canonicalManifest =
    dumps sampleFloats (manifestDocument sampleManifest) := by rw [sampleRecord]

theorem sampleRecord_described : Describes sampleFloats sampleHex sampleManifest sampleRecord where
  terms := rfl
  identity := rfl
  counted := rfl
  earliest := rfl
  latest := by decide
  recordedBefore := by decide
  transaction := by decide
  encoded := (canonical_sampleManifest (SameCohort.inUtc _)).trans (congrArg _ sampleRecord_bytes.symm)

theorem sampleSeal_valid : validateCohortSeal asciiDigits sampleFloats sampleHex sampleRecord.inUtc
    sampleSeal = .ok sampleManifest := by
  have hRecord : validateCohortRecord asciiDigits sampleFloats sampleHex sampleRecord.inUtc =
      .ok sampleManifest := validateCohortRecord_eq_ok_iff.mpr
    ⟨sampleManifest_normal, sampleRecord, sampleRecord.toInstant_inUtc, sampleRecord_described⟩
  have hUtc : ∀ (t : Instant) label, utc t.inUtc label = .ok t := fun t label =>
    (utc_eq_ok_iff _ label _).mpr (Instant.toInstant_inUtc t)
  have hTimes : sampleRecord.inUtc.recordedAt.toInstant = some sampleRecorded ∧
      sampleRecord.inUtc.earliestTargetTime.toInstant = some sampleTarget :=
    ⟨Instant.toInstant_inUtc _, Instant.toInstant_inUtc _⟩
  rw [validateCohortSeal, hRecord, ok_bind, sha256Text_bind_eq_ok_iff]
  refine ⟨sampleDigest_isHash, ?_⟩
  have hIdentity : ¬ sampleSeal.cohortId ≠ sampleRecord.inUtc.cohortId := not_not.mpr rfl
  rw [refuseIf_of_not hIdentity, ok_bind, sampleSeal, hUtc, ok_bind, hTimes.1, hTimes.2,
    refuseIf_of_not (not_not.mpr rfl), ok_bind, hUtc, ok_bind, positiveXid,
    refuseIf_of_not (by decide), ok_bind, refuseIf_of_not (by decide), ok_bind,
    refuseIf_of_not (by decide), ok_bind, refuseIf_of_not (by decide), ok_bind, pure_eq_ok]

/-- The members in another order have the same bytes, these are accepted, and a seal of the record between its
insertion and the first target is one that came before every outcome. -/
theorem cohort_codec_and_seal_sample :
    (∃ bytes n, canonicalCohortManifest sampleFloats sampleManifest.inUtc = .ok bytes ∧
      canonicalCohortManifest sampleFloats reversedManifest.inUtc = .ok bytes ∧
      parseCohortManifest asciiDigits sampleFloats bytes = .ok n) ∧
    validateCohortRecord asciiDigits sampleFloats sampleHex sampleRecord.inUtc = .ok sampleManifest ∧
      PreCommitted sampleRecord.inUtc sampleSeal sampleManifest := by
  obtain ⟨hAccepted, -, -, -, hSealed⟩ := cohort_codec_and_seal asciiDigits sampleFloats sampleHex
  have hCanonical := canonical_sampleManifest (SameCohort.inUtc sampleManifest)
  obtain ⟨n, hParsed⟩ := (hAccepted _).mpr ⟨_, hCanonical⟩
  exact ⟨⟨_, n, hCanonical, canonical_sampleManifest same_reversed, hParsed⟩, hSealed _ _ _ sampleSeal_valid⟩

end Sample

end StockApi.Cohorts

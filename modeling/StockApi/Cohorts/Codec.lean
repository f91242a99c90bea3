import StockApi.Calibration.FittedSetCodec
import StockApi.Cohorts.Manifest

/-!
# The canonical bytes of a cohort

`canonical_cohort_manifest` and `parse_cohort_manifest`. The bytes stand for the normal manifest, so
that they tell two cohorts apart and two spellings of one cohort not; the parser accepts these bytes
and no others.
-/

namespace StockApi.Cohorts

open Checked CivilTime Documents Groups Text
open Calibration (textOr integerField readHash readHash_plain)

/-! ## Timestamps -/

section Pattern

variable (decimal : DecimalDigits)

/-- `int(match.group(..))` of a group `\d{n}`. -/
def group (text : List Char) : Option Nat :=
  if text.all (fun c => (decimal.value c).isSome) then decimal.number text else none

/-- The numbers of a text that `_TIMESTAMP_PATTERN` matches. -/
def matchTimestamp : List Char → Option Stamp
  | [a, b, c, d, '-', e, f, '-', g, h, 'T', i, j, ':', k, l, ':', m, n, '.', o, p, q, r, s, t, 'Z'] => do
    return ⟨← group decimal [a, b, c, d], ← group decimal [e, f], ← group decimal [g, h],
      ← group decimal [i, j], ← group decimal [k, l], ← group decimal [m, n],
      ← group decimal [o, p, q, r, s, t]⟩
  | _ => none

/-- `datetime(.., tzinfo=UTC)`. -/
def datetimeOf (s : Stamp) : Option Instant := do
  let date ← Date.ofParts s.year s.month s.day
  if s.hour < 24 ∧ s.minute < 60 ∧ s.second < 60 ∧ s.micro < 1000000 then
    Instant.ofMicros (date.days * dayMicros + s.clock : Nat)
  else none

/-- `_parse_timestamp`. -/
def parseTimestamp (value : Document) (label : String) : Except String Instant := do
  let text ← textOr value (label ++ " must be a canonical UTC timestamp")
  let stamp ← orRefuse (matchTimestamp decimal text.toList)
    (label ++ " must be a canonical UTC timestamp")
  let parsed ← orRefuse (datetimeOf stamp) (label ++ " is not a valid timestamp")
  refuseIf (parsed.timestamp ≠ text) (label ++ " must be a canonical UTC timestamp")
  return parsed

/-- `_parse_uuid`. -/
def parseUuid (value : Document) (label : String) : Except String Uuid := do
  let text ← textOr value (label ++ " must be a canonical UUID")
  let parsed ← orRefuse (Uuid.ofText decimal text) (label ++ " must be a canonical UUID")
  refuseIf (Uuid.text parsed ≠ text) (label ++ " must be a canonical UUID")
  return parsed

variable {decimal}

theorem group_of_read {text : List Char} {n : Nat} (h : Digits.read text = some n) :
    group decimal text = some n := by
  obtain ⟨hNumber, hAll⟩ : decimal.number text = some n ∧ _ := DecimalDigits.number_of_read h
  rw [group, if_pos (List.all_eq_true.mpr hAll), hNumber]

theorem matchTimestamp_of_read {text : List Char} {s : Stamp} (h : Stamp.read text = some s) :
    matchTimestamp decimal text = some s := by
  unfold Stamp.read at h
  split at h
  · simp only [Option.bind_eq_bind, Option.bind_eq_some_iff] at h
    obtain ⟨year, hYear, month, hMonth, day, hDay, hour, hHour, minute, hMinute, second, hSecond,
      micro, hMicro, h⟩ := h
    simp only [matchTimestamp, group_of_read hYear, group_of_read hMonth, group_of_read hDay,
      group_of_read hHour, group_of_read hMinute, group_of_read hSecond, group_of_read hMicro]
    exact h
  · cases h

theorem datetimeOf_ofInstant (t : Instant) : datetimeOf (Stamp.ofInstant t) = some t := by
  have hClock : t.clock < dayMicros := Nat.mod_lt _ (by decide)
  have hBounds : (Stamp.ofInstant t).hour < 24 ∧ (Stamp.ofInstant t).minute < 60 ∧
      (Stamp.ofInstant t).second < 60 ∧ (Stamp.ofInstant t).micro < 1000000 := by
    unfold dayMicros at hClock
    simp only [Stamp.ofInstant]
    omega
  have hDate : Date.ofParts (Stamp.ofInstant t).year (Stamp.ofInstant t).month (Stamp.ofInstant t).day =
      some t.date := Date.ofParts_self t.date
  rw [datetimeOf, hDate, Option.bind_eq_bind, Option.bind_some, if_pos hBounds, Stamp.clock_ofInstant,
    Instant.micros_split, Instant.ofMicros_micros]

theorem parseTimestamp_plain (t : Instant) (label : String) :
    parseTimestamp decimal (.plain t.timestamp) label = .ok t := by
  have hMatch : matchTimestamp decimal t.timestamp.toList = some (Stamp.ofInstant t) := by
    rw [Instant.timestamp, String.toList_ofList]
    exact matchTimestamp_of_read (Stamp.read_timestampChars t)
  rw [parseTimestamp, Json.plain, textOr, ok_bind, hMatch, orRefuse_some, ok_bind,
    datetimeOf_ofInstant, orRefuse_some, ok_bind, refuseIf_of_not (not_not.mpr rfl), ok_bind, pure_eq_ok]

theorem parseUuid_plain (u : Uuid) (label : String) :
    parseUuid decimal (.plain (Uuid.text u)) label = .ok u := by
  rw [parseUuid, Json.plain, textOr, ok_bind, Uuid.ofText_text, orRefuse_some, ok_bind,
    refuseIf_of_not (not_not.mpr rfl), ok_bind, pure_eq_ok]

end Pattern

/-! ## Writing -/

def memberDocument (m : ForecastCohortMember Instant) : Document :=
  .obj [("forecast_id", .plain (Uuid.text m.forecastId)),
    ("opportunity_hash", .plain m.opportunityHash), ("output_hash", .plain m.outputHash),
    ("step", .int m.step), ("target_time", .plain m.targetTime.timestamp)]

/-- The document of a normal manifest, its keys in order. -/
def manifestDocument (n : ForecastCohortManifest Instant) : Document :=
  .obj [("availability_rule_set_hash", .plain n.availabilityRuleSetHash),
    ("format", .plain "forecast-outcome-cohort-v1"), ("members", .arr (n.members.map memberDocument)),
    ("outcome_resolution_policy_hash", .plain n.outcomeResolutionPolicyHash),
    ("purpose", .plain n.purpose), ("schema_version", .int n.schemaVersion),
    ("selection_policy_hash", .plain n.selectionPolicyHash)]

/-- `MAX_CANONICAL_BYTES`. -/
def maxCanonicalBytes : Nat := 4 * 1024 * 1024

def canonicalCohortManifest (floats : FloatText) (manifest : ForecastCohortManifest ParsedDateTime) :
    Except String Bytes := do
  let normalized ← normalizedManifest manifest
  let canonical := dumps floats (manifestDocument normalized)
  refuseIf (canonical = [] ∨ maxCanonicalBytes < canonical.length)
    "canonical cohort manifest exceeds the storage limit"
  return canonical

/-! ## Reading -/

section Reader

variable (decimal : DecimalDigits)

/-- One entry of `members` with its index. -/
def readMember (entry : Document × Nat) : Except String (ForecastCohortMember Instant) := do
  let (raw, index) := entry
  let label := "members[" ++ toString index ++ "]"
  refuseIf (¬ raw.HasKeys ["forecast_id", "opportunity_hash", "output_hash", "step", "target_time"])
    ("cohort member " ++ toString index ++ " has unknown or missing keys")
  let forecastId ← parseUuid decimal (raw.field "forecast_id") (label ++ ".forecast_id")
  let step ← integerField (raw.field "step") (label ++ ".step")
  let targetTime ← parseTimestamp decimal (raw.field "target_time") (label ++ ".target_time")
  let opportunityHash ← readHash (raw.field "opportunity_hash") (label ++ ".opportunity_hash")
  let outputHash ← readHash (raw.field "output_hash") (label ++ ".output_hash")
  return ⟨forecastId, step, targetTime, opportunityHash, outputHash⟩

/-- The part of `parse_cohort_manifest` between the JSON reader and the normalization. -/
def readManifest (document : Document) : Except String (ForecastCohortManifest Instant) := do
  refuseIf (document.isObject = false) "cohort manifest must be a JSON object"
  refuseIf (¬ document.HasKeys ["availability_rule_set_hash", "format", "members",
      "outcome_resolution_policy_hash", "purpose", "schema_version", "selection_policy_hash"])
    "cohort manifest has unknown or missing keys"
  refuseIf (document.field "format" ≠ .plain "forecast-outcome-cohort-v1")
    "cohort manifest format is not supported"
  let schemaVersion ← orRefuse (document.field "schema_version").int?
    "cohort schema_version must be an integer"
  let rawMembers ← orRefuse (document.field "members").items? "cohort members must be a JSON array"
  let members ← rawMembers.zipIdx.mapM (readMember decimal)
  let purpose ← textOr (document.field "purpose") "cohort purpose is not supported"
  supportedPurpose purpose
  let selectionPolicyHash ← readHash (document.field "selection_policy_hash") "selection_policy_hash"
  let outcomeResolutionPolicyHash ← readHash (document.field "outcome_resolution_policy_hash")
    "outcome_resolution_policy_hash"
  let availabilityRuleSetHash ← readHash (document.field "availability_rule_set_hash")
    "availability_rule_set_hash"
  return {
    purpose, selectionPolicyHash, outcomeResolutionPolicyHash, availabilityRuleSetHash, schemaVersion,
    members }

def unreadableManifest : Unreadable → String
  | .malformed => "canonical cohort manifest is not strict UTF-8 JSON"
  | .duplicateKey _ => "canonical cohort manifest contains a duplicate JSON key"

def parseCohortManifest (floats : FloatText) (canonicalManifest : Bytes) :
    Except String (ForecastCohortManifest Instant) := do
  refuseIf (canonicalManifest = [] ∨ maxCanonicalBytes < canonicalManifest.length)
    "canonical cohort manifest must be non-empty bounded bytes"
  let document ← (loads floats canonicalManifest).mapError unreadableManifest
  let manifest ← readManifest decimal document
  let normalized ← normalizedManifest manifest.inUtc
  let canonical ← canonicalCohortManifest floats normalized.inUtc
  refuseIf (canonical ≠ canonicalManifest) "cohort manifest bytes are not canonical"
  return normalized

end Reader

/-! ## The reader inverts the writer -/

section RoundTrip

variable {decimal : DecimalDigits} {floats : FloatText} {n : ForecastCohortManifest Instant}

theorem SameCohort.inUtc (n : ForecastCohortManifest Instant) : SameCohort n.inUtc n := by
  refine ⟨rfl, ?_⟩
  have hTimes : n.inUtc.members.map (·.map ParsedDateTime.toInstant) = n.members.map (·.map some) := by
    rw [ForecastCohortManifest.inUtc, ForecastCohortManifest.map, List.map_map]
    refine List.map_congr_left fun m _ => ?_
    simp [ForecastCohortMember.map]
  rw [hTimes]

theorem NormalManifest.again (h : NormalManifest n) : normalizedManifest n.inUtc = .ok n :=
  normalizedManifest_eq_ok_iff.mpr ⟨SameCohort.inUtc n, h⟩

theorem readMember_document {m : ForecastCohortMember Instant} (h : m.Valid) (index : Nat) :
    readMember decimal (memberDocument m, index) = .ok m := by
  have hKeys : (memberDocument m).HasKeys
      ["forecast_id", "opportunity_hash", "output_hash", "step", "target_time"] :=
    ⟨rfl, fun _ hMem => hMem, fun _ hMem => hMem⟩
  have hId : ∀ label, parseUuid decimal ((memberDocument m).field "forecast_id") label =
      .ok m.forecastId := parseUuid_plain m.forecastId
  have hStep : ∀ label, integerField ((memberDocument m).field "step") label = .ok m.step :=
    fun _ => rfl
  have hTime : ∀ label, parseTimestamp decimal ((memberDocument m).field "target_time") label =
      .ok m.targetTime := parseTimestamp_plain m.targetTime
  have hOpportunity : ∀ label, readHash ((memberDocument m).field "opportunity_hash") label =
      .ok m.opportunityHash := readHash_plain h.opportunity
  have hOutput : ∀ label, readHash ((memberDocument m).field "output_hash") label =
      .ok m.outputHash := readHash_plain h.output
  simp only [readMember, hId, hStep, hTime, hOpportunity, hOutput, ok_bind,
    refuseIf_of_not (not_not.mpr hKeys), pure_eq_ok]

theorem readManifest_document (h : NormalManifest n) :
    readManifest decimal (manifestDocument n) = .ok n := by
  have hObject : ¬ (manifestDocument n).isObject = false := Bool.true_eq_false_eq_False
  have hKeys : (manifestDocument n).HasKeys ["availability_rule_set_hash", "format", "members",
      "outcome_resolution_policy_hash", "purpose", "schema_version", "selection_policy_hash"] :=
    ⟨rfl, fun _ hMem => hMem, fun _ hMem => hMem⟩
  have hFormat : ¬ (manifestDocument n).field "format" ≠ .plain "forecast-outcome-cohort-v1" :=
    not_not.mpr rfl
  have hVersion : ((manifestDocument n).field "schema_version").int? = some n.schemaVersion := rfl
  have hItems : ((manifestDocument n).field "members").items? =
      some (n.members.map memberDocument) := rfl
  have hMembers : (n.members.map memberDocument).zipIdx.mapM (readMember decimal) = .ok n.members :=
    mapM_zipIdx (fun m hMem index => readMember_document (h.valid m hMem) index) 0
  have hPurpose : textOr ((manifestDocument n).field "purpose") "cohort purpose is not supported" =
      .ok n.purpose := rfl
  have hSelection : readHash ((manifestDocument n).field "selection_policy_hash")
      "selection_policy_hash" = .ok n.selectionPolicyHash := readHash_plain h.terms.selection _
  have hResolution : readHash ((manifestDocument n).field "outcome_resolution_policy_hash")
      "outcome_resolution_policy_hash" = .ok n.outcomeResolutionPolicyHash :=
    readHash_plain h.terms.resolution _
  have hAvailability : readHash ((manifestDocument n).field "availability_rule_set_hash")
      "availability_rule_set_hash" = .ok n.availabilityRuleSetHash :=
    readHash_plain h.terms.availability _
  rw [readManifest, refuseIf_of_not hObject, ok_bind, refuseIf_of_not (not_not.mpr hKeys), ok_bind,
    refuseIf_of_not hFormat, ok_bind, hVersion, orRefuse_some, ok_bind, hItems, orRefuse_some, ok_bind,
    hMembers, ok_bind, hPurpose, ok_bind, supportedPurpose,
    refuseIf_of_not (not_not.mpr h.terms.supported), ok_bind, hSelection, ok_bind, hResolution, ok_bind,
    hAvailability, ok_bind, pure_eq_ok]

theorem ordered_manifestDocument (n : ForecastCohortManifest Instant) :
    Ordered (manifestDocument n) := by
  have hMember : ∀ m : ForecastCohortMember Instant, Ordered (memberDocument m) := fun m =>
    ⟨(by decide : ["forecast_id", "opportunity_hash", "output_hash", "step",
      "target_time"].Pairwise (· < ·)), trivial, trivial, trivial, trivial, trivial, trivial⟩
  rw [manifestDocument, Ordered]
  exact ⟨(by decide : ["availability_rule_set_hash", "format", "members",
    "outcome_resolution_policy_hash", "purpose", "schema_version",
    "selection_policy_hash"].Pairwise (· < ·)), trivial, trivial, ordered_items hMember _, trivial,
    trivial, trivial, trivial, trivial⟩

theorem canonicalCohortManifest_eq_ok_iff {m : ForecastCohortManifest ParsedDateTime}
    {bytes : Bytes} : canonicalCohortManifest floats m = .ok bytes ↔
      ∃ n, SameCohort m n ∧ NormalManifest n ∧ bytes = dumps floats (manifestDocument n) ∧
        bytes.length ≤ maxCanonicalBytes := by
  rw [canonicalCohortManifest, bind_eq_ok_iff]
  constructor
  · rintro ⟨n, hNormal, h⟩
    dsimp only at h
    rw [refuseIf_bind_eq_ok_iff, not_or, not_lt, pure_eq_ok] at h
    obtain ⟨⟨-, hSize⟩, h⟩ := h
    have hBytes := (Except.ok.inj h).symm
    obtain ⟨hSame, hValid⟩ := normalizedManifest_eq_ok_iff.mp hNormal
    exact ⟨n, hSame, hValid, hBytes, hBytes ▸ hSize⟩
  · rintro ⟨n, hSame, hNormal, hBytes, hSize⟩
    have hBounds : ¬ (dumps floats (manifestDocument n) = [] ∨
        maxCanonicalBytes < (dumps floats (manifestDocument n)).length) :=
      not_or.mpr ⟨dumps_ne_nil _ _, not_lt.mpr (hBytes ▸ hSize)⟩
    refine ⟨n, normalizedManifest_eq_ok_iff.mpr ⟨hSame, hNormal⟩, ?_⟩
    dsimp only
    rw [refuseIf_of_not hBounds, ok_bind, pure_eq_ok, hBytes]

theorem dumps_manifestDocument_inj {m : ForecastCohortManifest Instant} (hn : NormalManifest n)
    (hm : NormalManifest m)
    (h : dumps floats (manifestDocument n) = dumps floats (manifestDocument m)) : n = m := by
  have hLoads := congrArg (loads floats) h
  rw [loads_dumps floats (ordered_manifestDocument n),
    loads_dumps floats (ordered_manifestDocument m)] at hLoads
  have hRead : readManifest asciiDigits (manifestDocument n) = .ok n := readManifest_document hn
  rw [Except.ok.inj hLoads, readManifest_document hm] at hRead
  exact (Except.ok.inj hRead).symm

/-- The canonical bytes are parsed to the normal manifest, which is encoded to them again. -/
theorem parse_canonicalCohortManifest {m : ForecastCohortManifest ParsedDateTime} {bytes : Bytes}
    (h : canonicalCohortManifest floats m = .ok bytes) :
    ∃ n, SameCohort m n ∧ NormalManifest n ∧ parseCohortManifest decimal floats bytes = .ok n ∧
      canonicalCohortManifest floats n.inUtc = .ok bytes := by
  obtain ⟨n, hSame, hNormal, hBytes, hSize⟩ := canonicalCohortManifest_eq_ok_iff.mp h
  have hAgain : canonicalCohortManifest floats n.inUtc = .ok bytes :=
    canonicalCohortManifest_eq_ok_iff.mpr ⟨n, SameCohort.inUtc n, hNormal, hBytes, hSize⟩
  have hBounds : ¬ (bytes = [] ∨ maxCanonicalBytes < bytes.length) := by
    refine not_or.mpr ⟨?_, not_lt.mpr hSize⟩
    rw [hBytes]
    exact dumps_ne_nil _ _
  have hLoads : (loads floats bytes).mapError unreadableManifest = .ok (manifestDocument n) := by
    rw [hBytes, loads_dumps floats (ordered_manifestDocument n)]
    rfl
  refine ⟨n, hSame, hNormal, ?_, hAgain⟩
  rw [parseCohortManifest, refuseIf_of_not hBounds, ok_bind, hLoads, ok_bind,
    readManifest_document hNormal, ok_bind, hNormal.again, ok_bind, hAgain, ok_bind,
    refuseIf_of_not (not_not.mpr rfl), ok_bind, pure_eq_ok]

/-- Whatever the parser accepts is the encoding of what it returns, a normal manifest. -/
theorem canonical_of_parseCohortManifest {bytes : Bytes}
    (h : parseCohortManifest decimal floats bytes = .ok n) :
    NormalManifest n ∧ canonicalCohortManifest floats n.inUtc = .ok bytes := by
  rw [parseCohortManifest, refuseIf_bind_eq_ok_iff, bind_eq_ok_iff] at h
  obtain ⟨-, document, -, h⟩ := h
  rw [bind_eq_ok_iff] at h
  obtain ⟨manifest, -, h⟩ := h
  rw [bind_eq_ok_iff] at h
  obtain ⟨normalized, hNormalized, h⟩ := h
  rw [bind_eq_ok_iff] at h
  obtain ⟨canonical, hCanonical, h⟩ := h
  rw [refuseIf_bind_eq_ok_iff, not_not, pure_eq_ok] at h
  obtain ⟨rfl, h⟩ := h
  cases h
  exact ⟨(normalizedManifest_eq_ok_iff.mp hNormalized).2, hCanonical⟩

/-- What a manifest is, without the order of its members and the offsets of their times. -/
theorem sameCohort_iff {m m' : ForecastCohortManifest ParsedDateTime} (h : SameCohort m n) :
    SameCohort m' n ↔ m.toCohortTerms = m'.toCohortTerms ∧
      (m.members.map (·.map ParsedDateTime.toInstant)).Perm
        (m'.members.map (·.map ParsedDateTime.toInstant)) := by
  constructor
  · rintro ⟨hTerms, hPerm⟩
    exact ⟨h.1.trans hTerms.symm, h.2.trans hPerm.symm⟩
  · rintro ⟨hTerms, hPerm⟩
    exact ⟨hTerms.symm.trans h.1, hPerm.symm.trans h.2⟩

theorem sameCohort_unique {m : ForecastCohortManifest ParsedDateTime}
    {n' : ForecastCohortManifest Instant} (h : SameCohort m n) (h' : SameCohort m n')
    (hn : NormalManifest n) (hn' : NormalManifest n') : n = n' := by
  have hFirst := normalizedManifest_eq_ok_iff.mpr ⟨h, hn⟩
  rw [normalizedManifest_eq_ok_iff.mpr ⟨h', hn'⟩] at hFirst
  exact (Except.ok.inj hFirst).symm

/-- Two manifests have the same bytes exactly when they list the same members. -/
theorem canonical_eq_iff {m m' : ForecastCohortManifest ParsedDateTime} {bytes bytes' : Bytes}
    (h : canonicalCohortManifest floats m = .ok bytes)
    (h' : canonicalCohortManifest floats m' = .ok bytes') :
    bytes = bytes' ↔ m.toCohortTerms = m'.toCohortTerms ∧
      (m.members.map (·.map ParsedDateTime.toInstant)).Perm
        (m'.members.map (·.map ParsedDateTime.toInstant)) := by
  obtain ⟨n, hSame, hNormal, hBytes, -⟩ := canonicalCohortManifest_eq_ok_iff.mp h
  obtain ⟨n', hSame', hNormal', hBytes', -⟩ := canonicalCohortManifest_eq_ok_iff.mp h'
  rw [← sameCohort_iff hSame]
  constructor
  · intro hEq
    rw [hBytes, hBytes'] at hEq
    rwa [dumps_manifestDocument_inj hNormal hNormal' hEq]
  · intro hBoth
    rw [hBytes, hBytes', sameCohort_unique hBoth hSame' hNormal hNormal']

end RoundTrip

end StockApi.Cohorts

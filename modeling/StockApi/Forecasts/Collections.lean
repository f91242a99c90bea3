import StockApi.Forecasts.Records
import Mathlib.Data.List.Lex
import Mathlib.Data.Prod.Lex

/-!
# The collections of a response

`_normalize_output_collections` sorts what the schema leaves in any order and writes the feature hash
in lower case with its mark. The order of a collection depends on its members only.
-/

namespace StockApi.Forecasts

open Checked CivilTime Groups Text

/-! ## The feature hash -/

/-- `_normalized_feature_hash`. -/
def normalizedFeatureHash (value : String) : Except String String := do
  let marked := if (value.toList.map Char.toLower).take 7 = hashMark then value.toList
    else hashMark ++ value.toList
  let normalized := String.ofList (marked.map Char.toLower)
  refuseIf (¬ IsHash normalized) "feature_set_hash is not a SHA-256 identity"
  return normalized

/-- The hash that a feature hash stands for, whatever its case and its mark. -/
def featureHash (value : String) : String :=
  String.ofList (hashMark ++ (hashDigits value).map Char.toLower)

theorem hexLetter_ascii {c : Char} (h : hexLetter c = true) : c.toNat < 128 := by
  have hBelow : ∀ d : Char, d.toNat < 128 → c ≤ d → c.toNat < 128 :=
    fun d hSmall hLe => lt_of_le_of_lt hLe hSmall
  simp only [hexLetter, Bool.or_eq_true, Bool.and_eq_true, decide_eq_true_eq] at h
  rcases h with (⟨-, h⟩ | ⟨-, h⟩) | ⟨-, h⟩
  · exact hBelow '9' (by decide) h
  · exact hBelow 'F' (by decide) h
  · exact hBelow 'f' (by decide) h

/-- What the lower case of a hexadecimal digit is. -/
structure LowerDigit (c : Char) : Prop where
  hex : hexChar c = true
  letter : hexLetter c = true
  stays : c.toLower = c
  unmarked : c ≠ ':'
  solid : isSpace c = false
  ascii : c.toNat < 128

instance (c : Char) : Decidable (LowerDigit c) :=
  decidable_of_iff (hexChar c = true ∧ hexLetter c = true ∧ c.toLower = c ∧ c ≠ ':' ∧ isSpace c = false ∧
    c.toNat < 128) ⟨fun ⟨a, b, d, e, f, g⟩ => ⟨a, b, d, e, f, g⟩, fun ⟨a, b, d, e, f, g⟩ => ⟨a, b, d, e, f, g⟩⟩

theorem hexLetter_lower {c : Char} (h : hexLetter c = true) : LowerDigit c.toLower := by
  have hAll : ∀ n < 128, hexLetter (Char.ofNat n) = true → LowerDigit (Char.ofNat n).toLower := by decide
  have hSelf := hAll c.toNat (hexLetter_ascii h)
  rw [Char.ofNat_toNat] at hSelf
  exact hSelf h

theorem lowerDigits {value : String} (h : IsFeatureHash value) :
    ∀ c ∈ (hashDigits value).map Char.toLower, LowerDigit c := by
  intro c hMem
  obtain ⟨d, hDigit, rfl⟩ := List.mem_map.mp hMem
  exact hexLetter_lower (List.all_eq_true.mp h.2 d hDigit)

theorem take_hashMark (digits : List Char) : (hashMark ++ digits).take 7 = hashMark := rfl

theorem drop_hashMark (digits : List Char) : (hashMark ++ digits).drop 7 = digits := rfl

theorem toList_featureHash (value : String) :
    (featureHash value).toList = hashMark ++ (hashDigits value).map Char.toLower :=
  String.toList_ofList

theorem hashDigits_featureHash (value : String) :
    hashDigits (featureHash value) = (hashDigits value).map Char.toLower := by
  rw [hashDigits, toList_featureHash, take_hashMark, if_pos rfl, drop_hashMark]

theorem hashMark_chars : ∀ c ∈ hashMark, c.toNat < 128 ∧ isSpace c = false := by
  simp only [hashMark, List.forall_mem_cons, List.not_mem_nil, false_imp_iff, implies_true, and_true]
  decide

theorem IsFeatureHash.ascii {value : String} (h : IsFeatureHash value) : IsAscii value := by
  have hDigits : ∀ c ∈ hashDigits value, c.toNat < 128 :=
    fun c hMem => hexLetter_ascii (List.all_eq_true.mp h.2 c hMem)
  intro c hMem
  rw [hashDigits] at hDigits
  split at hDigits
  · next hTake =>
    rw [← List.take_append_drop 7 value.toList, List.mem_append, hTake] at hMem
    rcases hMem with hMem | hMem
    · exact (hashMark_chars c hMem).1
    · exact hDigits c hMem
  · exact hDigits c hMem

theorem isHash_featureHash {value : String} (h : IsFeatureHash value) : IsHash (featureHash value) := by
  apply isHash_ofList
  refine ⟨take_hashMark _, ?_, ?_⟩
  · rw [List.length_append, List.length_map, h.1]
    rfl
  · rw [drop_hashMark, List.all_eq_true]
    exact fun c hMem => (lowerDigits h c hMem).hex

theorem length_featureHash {value : String} (h : IsFeatureHash value) : (featureHash value).length = 71 := by
  rw [← String.length_toList, toList_featureHash, List.length_append, List.length_map, h.1]
  rfl

/-- A feature hash in lower case, with its mark. -/
theorem lowered_featureHash {value : String} (h : IsFeatureHash value) :
    String.ofList ((if (value.toList.map Char.toLower).take 7 = hashMark then value.toList
      else hashMark ++ value.toList).map Char.toLower) = featureHash value := by
  rw [featureHash]
  by_cases hMark : value.toList.take 7 = hashMark
  · have hLower : (value.toList.map Char.toLower).take 7 = hashMark := by
      rw [← List.map_take, hMark]
      decide
    rw [if_pos hLower, hashDigits, if_pos hMark]
    conv_lhs => rw [← List.take_append_drop 7 value.toList, hMark, List.map_append]
    congr 1
  · have hDigits : hashDigits value = value.toList := if_neg hMark
    have hLower : ¬ (value.toList.map Char.toLower).take 7 = hashMark := by
      intro hTake
      have hColon : ':' ∈ value.toList.map Char.toLower := by
        apply List.mem_of_mem_take (i := 7)
        rw [hTake]
        decide
      rw [← hDigits] at hColon
      exact (lowerDigits h ':' hColon).unmarked rfl
    rw [if_neg hLower, hDigits, List.map_append]
    congr 1

theorem normalizedFeatureHash_of {value : String} (h : IsFeatureHash value) :
    normalizedFeatureHash value = .ok (featureHash value) := by
  rw [normalizedFeatureHash, lowered_featureHash h,
    refuseIf_of_not (not_not.mpr (isHash_featureHash h)), ok_bind, pure_eq_ok]

/-- A normalized hash is a feature hash in normal form. -/
theorem featureHash_featureHash {value : String} (h : IsFeatureHash value) :
    featureHash (featureHash value) = featureHash value := by
  have hStays : ((hashDigits value).map Char.toLower).map Char.toLower = (hashDigits value).map Char.toLower :=
    (List.map_congr_left fun c hMem => (lowerDigits h c hMem).stays).trans (List.map_id _)
  rw [featureHash, hashDigits_featureHash, hStays, featureHash]

theorem isFeatureHash_featureHash {value : String} (h : IsFeatureHash value) :
    IsFeatureHash (featureHash value) := by
  rw [IsFeatureHash, hashDigits_featureHash, List.length_map, List.all_eq_true]
  exact ⟨h.1, fun c hMem => (lowerDigits h c hMem).letter⟩

theorem featureHash_chars {value : String} (h : IsFeatureHash value) :
    ∀ c ∈ (featureHash value).toList, c.toNat < 128 ∧ isSpace c = false := by
  intro c hMem
  rw [toList_featureHash, List.mem_append] at hMem
  rcases hMem with hMem | hMem
  · exact hashMark_chars c hMem
  · exact ⟨(lowerDigits h c hMem).ascii, (lowerDigits h c hMem).solid⟩

theorem strip_featureHash (rules : TextRules) {value : String} (h : IsFeatureHash value) :
    rules.strip (featureHash value) = featureHash value := by
  apply rules.strip_trimmed
  exact ⟨fun c hMem => (featureHash_chars h c (List.mem_of_mem_head? hMem)).2,
    fun c hMem => (featureHash_chars h c (List.mem_of_mem_getLast? hMem)).2⟩

theorem nfc_featureHash (rules : TextRules) {value : String} (h : IsFeatureHash value) :
    rules.nfc (featureHash value) = featureHash value :=
  rules.nfc_ascii _ fun c hMem => (featureHash_chars h c hMem).1

/-! ## Sorted collections -/

def byBounds (i : ForecastInterval) : ℚ ×ₗ ℚ ×ₗ ℚ :=
  toLex (i.coverage.1, toLex (i.lowerQuantile.1, i.upperQuantile.1))

def byLevel (q : ForecastQuantile) : ℚ := q.level.1

def byBucket (b : IntervalCalibration) : Int ×ₗ ℚ := toLex (b.horizon, b.nominalCoverage.1)

def ForecastStep.ordered (s : ForecastStep) : ForecastStep :=
  { s with quantiles := sortOn byLevel s.quantiles, intervals := sortOn byBounds s.intervals }

def DataSourceLineage.ordered (s : DataSourceLineage) : DataSourceLineage :=
  { s with fields := sortOn id s.fields }

abbrev SourceKey := String ×ₗ String ×ₗ String ×ₗ List String

/-- The key that data sources are sorted by, with `_timestamp_key`. -/
def sourceKey (s : DataSourceLineage) : Except String SourceKey := do
  let key ← timestamp s.maxAvailableAt
  return toLex (s.name, toLex (s.snapshotId, toLex (key, s.fields)))

/-- `sorted(sources, key=..)`. -/
def sortedSources (sources : List DataSourceLineage) : Except String (List DataSourceLineage) := do
  let keyed ← sources.mapM fun s => do
    let key ← sourceKey s
    return (key, s)
  return (sortOn Prod.fst keyed).map Prod.snd

/-- `_normalize_output_collections`. -/
def normalizeOutputCollections (r : ForecastResponse) : Except String ForecastResponse := do
  let hash ← normalizedFeatureHash r.provenance.featureSetHash
  let sources ← sortedSources (r.provenance.dataSources.map DataSourceLineage.ordered)
  return { r with
    forecasts := r.forecasts.map ForecastStep.ordered
    provenance := { r.provenance with
      featureSetHash := hash
      dataSources := sources
      lookaheadCheck := { r.provenance.lookaheadCheck with
        violations := sortOn id r.provenance.lookaheadCheck.violations } }
    calibration := { r.calibration with byInterval := sortOn byBucket r.calibration.byInterval } }

/-- The key of a source whose datetime has an instant. -/
def byOrigin (s : DataSourceLineage) : SourceKey :=
  toLex (s.name, toLex (s.snapshotId, toLex (utcText s.maxAvailableAt, s.fields)))

def LookaheadCheck.ordered (l : LookaheadCheck) : LookaheadCheck :=
  { l with violations := sortOn id l.violations }

def ForecastProvenance.ordered (p : ForecastProvenance) : ForecastProvenance :=
  { p with
    featureSetHash := featureHash p.featureSetHash
    dataSources := sortOn byOrigin (p.dataSources.map DataSourceLineage.ordered)
    lookaheadCheck := p.lookaheadCheck.ordered }

def ForecastCalibration.ordered (c : ForecastCalibration) : ForecastCalibration :=
  { c with byInterval := sortOn byBucket c.byInterval }

/-- A response with its collections in order. -/
def ForecastResponse.ordered (r : ForecastResponse) : ForecastResponse :=
  { r with
    forecasts := r.forecasts.map ForecastStep.ordered
    provenance := r.provenance.ordered
    calibration := r.calibration.ordered }

theorem sourceKey_eq_ok_iff {s : DataSourceLineage} {key : SourceKey} :
    sourceKey s = .ok key ↔ s.maxAvailableAt.toInstant.isSome = true ∧ key = byOrigin s := by
  rw [sourceKey, bind_eq_ok_iff_of fun _ => timestamp_eq_ok_iff, pure_eq_ok, Except.ok.injEq, byOrigin,
    eq_comm (a := key)]

theorem sortOn_decorated {α κ : Type} [LinearOrder κ] (key : α → κ) (values : List α) :
    (sortOn Prod.fst (values.map fun a => (key a, a))).map Prod.snd = sortOn key values := by
  have hMap : (sortOn key values).map (fun a => (key a, a)) = sortOn Prod.fst (values.map fun a => (key a, a)) :=
    List.map_insertionSort (NotLater key) (NotLater Prod.fst) _ values fun _ _ _ _ => Iff.rfl
  rw [← hMap, List.map_map]
  exact List.map_id _

theorem sortedSources_eq_ok_iff {sources sorted : List DataSourceLineage} :
    sortedSources sources = .ok sorted ↔
      (∀ s ∈ sources, s.maxAvailableAt.toInstant.isSome = true) ∧ sorted = sortOn byOrigin sources := by
  have hKeyed : ∀ (s : DataSourceLineage) (entry : SourceKey × DataSourceLineage),
      (do let key ← sourceKey s; return (key, s)) = .ok entry ↔
        s.maxAvailableAt.toInstant.isSome = true ∧ entry = (byOrigin s, s) := by
    intro s entry
    rw [bind_eq_ok_iff_of fun _ => sourceKey_eq_ok_iff, pure_eq_ok, Except.ok.injEq, eq_comm (a := entry)]
  rw [sortedSources, bind_eq_ok_iff_of (mapM_eq_ok_iff_of hKeyed), pure_eq_ok, Except.ok.injEq, sortOn_decorated,
    eq_comm (a := sorted)]

theorem normalizeOutputCollections_eq_ok_iff {r n : ForecastResponse}
    (hash : IsFeatureHash r.provenance.featureSetHash) : normalizeOutputCollections r = .ok n ↔
      (∀ s ∈ r.provenance.dataSources, s.maxAvailableAt.toInstant.isSome = true) ∧ n = r.ordered := by
  have hSources : (∀ s ∈ r.provenance.dataSources.map DataSourceLineage.ordered,
      s.maxAvailableAt.toInstant.isSome = true) ↔
      ∀ s ∈ r.provenance.dataSources, s.maxAvailableAt.toInstant.isSome = true := by
    rw [List.forall_mem_map]
    rfl
  rw [normalizeOutputCollections, normalizedFeatureHash_of hash, ok_bind,
    bind_eq_ok_iff_of fun _ => sortedSources_eq_ok_iff, hSources, pure_eq_ok, Except.ok.injEq,
    eq_comm (a := n)]
  rfl

end StockApi.Forecasts

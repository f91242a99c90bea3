import StockApi.Library.Checked
import StockApi.Library.Float64
import StockApi.Library.Groups
import StockApi.Library.Timestamp
import Mathlib.Data.Prod.Lex
import Mathlib.Data.String.Basic

/-!
# Forecast input payloads and their normal form

`_normalized_payload` takes times in any UTC offset and returns instants; the other fields keep their
types. What it accepts and what it returns is one relation, `Normalizes`, that does not mention the
order of observations, target times, sources or fields.
-/

namespace StockApi.Snapshots

open Checked CivilTime Groups Text

/-! ## Data -/

structure SnapshotObservation (τ : Type) where
  observedAt : τ
  availableAt : τ
  value : Float64
deriving DecidableEq

structure SnapshotSourceLineage (τ : Type) where
  name : String
  snapshotId : String
  maxAvailableAt : τ
  fields : List String
deriving DecidableEq

structure SnapshotAvailabilityEvidence (τ : Type) where
  status : String
  ruleSetHash : Option String
  checkedAt : Option τ
deriving DecidableEq

/-- The fields of a payload that hold no times. -/
structure SnapshotTerms where
  resolutionPolicyHash : String
  symbol : String
  target : String
  horizonUnit : String
  seriesBasis : String
  inputTimespan : String
  inputMultiplier : Int
  currency : Option String
  schemaVersion : Int
deriving DecidableEq

structure ForecastInputSnapshotPayload (τ : Type) extends SnapshotTerms where
  asOf : τ
  observations : List (SnapshotObservation τ)
  targetTimes : List τ
  dataSources : List (SnapshotSourceLineage τ)
  availability : SnapshotAvailabilityEvidence τ
deriving DecidableEq

section Map

variable {σ τ : Type} (f : σ → τ)

def SnapshotObservation.map (o : SnapshotObservation σ) : SnapshotObservation τ :=
  ⟨f o.observedAt, f o.availableAt, o.value⟩

def SnapshotSourceLineage.map (s : SnapshotSourceLineage σ) : SnapshotSourceLineage τ :=
  ⟨s.name, s.snapshotId, f s.maxAvailableAt, s.fields⟩

def SnapshotAvailabilityEvidence.map (a : SnapshotAvailabilityEvidence σ) :
    SnapshotAvailabilityEvidence τ :=
  ⟨a.status, a.ruleSetHash, a.checkedAt.map f⟩

def ForecastInputSnapshotPayload.map (p : ForecastInputSnapshotPayload σ) :
    ForecastInputSnapshotPayload τ where
  toSnapshotTerms := p.toSnapshotTerms
  asOf := f p.asOf
  observations := p.observations.map (·.map f)
  targetTimes := p.targetTimes.map f
  dataSources := p.dataSources.map (·.map f)
  availability := p.availability.map f

end Map

/-- A normalized payload as the argument of a further call. -/
def ForecastInputSnapshotPayload.inUtc (p : ForecastInputSnapshotPayload Instant) :
    ForecastInputSnapshotPayload ParsedDateTime :=
  p.map Instant.inUtc

/-! ## Checks of single values -/

/-- `_finite` of a float. -/
def finite (value : Float64) (label : String) : Except String Float64 := do
  refuseIf (value.isFinite = false) (label ++ " must be finite")
  return value.canonicalZero

/-- `_hash`. -/
def hash (value label : String) : Except String PUnit :=
  refuseIf (¬ IsHash value) (label ++ " must be a canonical sha256 hash")

/-- `_positive_integer`. -/
def positiveInteger (value : Int) (label : String) : Except String PUnit :=
  refuseIf (¬ (1 ≤ value ∧ value ≤ 10000)) (label ++ " must be a positive integer")

/-- A nonempty trimmed text of at most so many characters. -/
def IsText (maxLength : Nat) (s : String) : Prop := s ≠ "" ∧ Trimmed s ∧ s.length ≤ maxLength

instance (maxLength : Nat) (s : String) : Decidable (IsText maxLength s) :=
  inferInstanceAs (Decidable (_ ∧ _))

theorem isText_ofList {maxLength : Nat} {cs : List Char} (nonempty : cs ≠ [])
    (ends : (cs.head?.all (fun c => !isSpace c) && cs.getLast?.all fun c => !isSpace c) = true)
    (short : cs.length ≤ maxLength) : IsText maxLength (String.ofList cs) := by
  refine ⟨?_, ?_, ?_⟩
  · intro h
    have hChars := congrArg String.toList h
    rw [String.toList_ofList] at hChars
    exact nonempty hChars
  · rw [Trimmed, String.toList_ofList]
    simpa [Option.all_eq_true] using ends
  · rw [String.length_ofList]
    exact short

/-- The pattern `^[A-Z]{3}$`. -/
def IsCurrency (s : String) : Prop :=
  s.toList.length = 3 ∧ s.toList.all (fun c => 'A' ≤ c ∧ c ≤ 'Z') = true

instance (s : String) : Decidable (IsCurrency s) := inferInstanceAs (Decidable (_ ∧ _))

variable (form : NormalForm)

/-- `_text`. -/
def text (value label : String) (maxLength : Nat) : Except String String := do
  refuseIf (¬ IsText maxLength (form.nfc value)) (label ++ " must be a non-empty trimmed string")
  return form.nfc value

/-- `_optional_text`. -/
def optionalText (value : Option String) (label : String) (maxLength : Nat) :
    Except String (Option String) :=
  match value with
  | none => .ok none
  | some s => do
    let normalized ← text form s label maxLength
    return some normalized

theorem hash_bind_eq_ok_iff {β : Type} {value label : String} {f : PUnit → Except String β} {b : β} :
    (hash value label >>= f) = .ok b ↔ IsHash value ∧ f ⟨⟩ = .ok b := by
  rw [hash, refuseIf_bind_eq_ok_iff, not_not]

theorem positiveInteger_bind_eq_ok_iff {β : Type} {value : Int} {label : String}
    {f : PUnit → Except String β} {b : β} :
    (positiveInteger value label >>= f) = .ok b ↔ (1 ≤ value ∧ value ≤ 10000) ∧ f ⟨⟩ = .ok b := by
  rw [positiveInteger, refuseIf_bind_eq_ok_iff, not_not]

variable {form}

theorem text_eq_ok_iff {value label s : String} {maxLength : Nat} :
    text form value label maxLength = .ok s ↔ IsText maxLength s ∧ form.nfc value = s := by
  rw [text, refuseIf_bind_eq_ok_iff, not_not]
  constructor
  · rintro ⟨hText, h⟩
    cases h
    exact ⟨hText, rfl⟩
  · rintro ⟨hText, rfl⟩
    exact ⟨hText, rfl⟩

theorem text_bind_eq_ok_iff {β : Type} {value label : String} {maxLength : Nat}
    {f : String → Except String β} {b : β} :
    (text form value label maxLength >>= f) = .ok b ↔
      IsText maxLength (form.nfc value) ∧ f (form.nfc value) = .ok b := by
  simp only [bind_eq_ok_iff, text_eq_ok_iff]
  constructor
  · rintro ⟨s, ⟨hText, rfl⟩, h⟩
    exact ⟨hText, h⟩
  · rintro ⟨hText, h⟩
    exact ⟨_, ⟨hText, rfl⟩, h⟩

theorem optionalText_bind_eq_ok_iff {β : Type} {value : Option String} {label : String}
    {maxLength : Nat} {f : Option String → Except String β} {b : β} :
    (optionalText form value label maxLength >>= f) = .ok b ↔
      (∀ s ∈ value.map form.nfc, IsText maxLength s) ∧ f (value.map form.nfc) = .ok b := by
  cases value with
  | none => simp [optionalText]
  | some s => simp [optionalText, text_bind_eq_ok_iff, bind_assoc]

/-! ## Terms -/

def targets : List String := ["adjusted_close", "close", "log_return", "return"]

def priceTargets : List String := ["adjusted_close", "close"]

def horizonUnits : List String := ["calendar_day", "hour", "minute", "trading_day", "week"]

def seriesBases : List String := ["raw", "split_adjusted", "split_dividend_adjusted"]

def inputTimespans : List String := ["day", "hour", "minute", "week"]

/-- A price has a currency and a return has none. -/
def CurrencyFits (target : String) (currency : Option String) : Prop :=
  if target ∈ priceTargets then ∃ s ∈ currency, IsCurrency s else currency = none

def checkCurrency (target : String) (currency : Option String) : Except String PUnit :=
  if target ∈ priceTargets then
    refuseIf (¬ ∃ s ∈ currency, IsCurrency s) "price snapshots require uppercase ISO currency"
  else refuseIf (currency ≠ none) "return snapshots must not specify currency"

theorem checkCurrency_bind_eq_ok_iff {β : Type} {target : String} {currency : Option String}
    {f : PUnit → Except String β} {b : β} :
    (checkCurrency target currency >>= f) = .ok b ↔ CurrencyFits target currency ∧ f ⟨⟩ = .ok b := by
  rw [checkCurrency, CurrencyFits]
  split <;> rw [refuseIf_bind_eq_ok_iff, not_not]

section Terms

variable (form)

def SnapshotTerms.normal (t : SnapshotTerms) : SnapshotTerms :=
  { t with
    symbol := form.nfc t.symbol
    target := form.nfc t.target
    horizonUnit := form.nfc t.horizonUnit
    seriesBasis := form.nfc t.seriesBasis
    inputTimespan := form.nfc t.inputTimespan
    currency := t.currency.map form.nfc }

/-- The part of `_normalized_payload` up to the cutoff. A symbol of the pattern is in upper case. -/
def normalizedTerms (t : SnapshotTerms) : Except String SnapshotTerms := do
  refuseIf (t.schemaVersion ≠ 1) "snapshot schema_version is not supported"
  hash t.resolutionPolicyHash "resolution_policy_hash"
  let symbol ← text form t.symbol "symbol" 32
  refuseIf (¬ IsSymbol symbol) "symbol must be uppercase and canonical"
  let target ← text form t.target "target" 32
  refuseIf (target ∉ targets) "target is not supported"
  let horizonUnit ← text form t.horizonUnit "horizon_unit" 32
  refuseIf (horizonUnit ∉ horizonUnits) "horizon_unit is not supported"
  let seriesBasis ← text form t.seriesBasis "series_basis" 32
  refuseIf (seriesBasis ∉ seriesBases) "series_basis is not supported"
  refuseIf (target = "close" ∧ seriesBasis ≠ "raw") "close snapshots require raw series basis"
  refuseIf (target = "adjusted_close" ∧ seriesBasis = "raw")
    "adjusted_close snapshots require adjusted series basis"
  let inputTimespan ← text form t.inputTimespan "input_timespan" 16
  refuseIf (inputTimespan ∉ inputTimespans) "input_timespan is not supported"
  positiveInteger t.inputMultiplier "input_multiplier"
  let currency ← optionalText form t.currency "currency" 3
  checkCurrency target currency
  return {
    resolutionPolicyHash := t.resolutionPolicyHash
    symbol, target, horizonUnit, seriesBasis, inputTimespan
    inputMultiplier := t.inputMultiplier
    currency
    schemaVersion := 1 }

end Terms

structure SnapshotTerms.Valid (t : SnapshotTerms) : Prop where
  version : t.schemaVersion = 1
  policyHash : IsHash t.resolutionPolicyHash
  symbolText : IsText 32 t.symbol
  isSymbol : IsSymbol t.symbol
  targetText : IsText 32 t.target
  isTarget : t.target ∈ targets
  unitText : IsText 32 t.horizonUnit
  isUnit : t.horizonUnit ∈ horizonUnits
  basisText : IsText 32 t.seriesBasis
  isBasis : t.seriesBasis ∈ seriesBases
  closeIsRaw : ¬ (t.target = "close" ∧ t.seriesBasis ≠ "raw")
  adjustedIsNotRaw : ¬ (t.target = "adjusted_close" ∧ t.seriesBasis = "raw")
  timespanText : IsText 16 t.inputTimespan
  isTimespan : t.inputTimespan ∈ inputTimespans
  multiplierRange : 1 ≤ t.inputMultiplier ∧ t.inputMultiplier ≤ 10000
  currencyText : ∀ s ∈ t.currency, IsText 3 s
  currencyFits : CurrencyFits t.target t.currency

theorem normalizedTerms_eq_ok_iff {t u : SnapshotTerms} :
    normalizedTerms form t = .ok u ↔ t.normal form = u ∧ u.Valid := by
  rw [normalizedTerms, refuseIf_bind_eq_ok_iff, hash_bind_eq_ok_iff, text_bind_eq_ok_iff,
    refuseIf_bind_eq_ok_iff, text_bind_eq_ok_iff, refuseIf_bind_eq_ok_iff, text_bind_eq_ok_iff,
    refuseIf_bind_eq_ok_iff, text_bind_eq_ok_iff, refuseIf_bind_eq_ok_iff, refuseIf_bind_eq_ok_iff,
    refuseIf_bind_eq_ok_iff, text_bind_eq_ok_iff, refuseIf_bind_eq_ok_iff,
    positiveInteger_bind_eq_ok_iff, optionalText_bind_eq_ok_iff, checkCurrency_bind_eq_ok_iff]
  simp only [not_not]
  constructor
  · rintro ⟨hVersion, hHash, hSymbol, hIsSymbol, hTarget, hIsTarget, hUnit, hIsUnit, hBasis, hIsBasis,
      hClose, hAdjusted, hTimespan, hIsTimespan, hMultiplier, hCurrency, hFits, h⟩
    cases h
    refine ⟨?_, rfl, hHash, hSymbol, hIsSymbol, hTarget, hIsTarget, hUnit, hIsUnit, hBasis, hIsBasis,
      hClose, hAdjusted, hTimespan, hIsTimespan, hMultiplier, hCurrency, hFits⟩
    rw [SnapshotTerms.normal, hVersion]
  · rintro ⟨rfl, v⟩
    refine ⟨v.version, v.policyHash, v.symbolText, v.isSymbol, v.targetText, v.isTarget, v.unitText,
      v.isUnit, v.basisText, v.isBasis, v.closeIsRaw, v.adjustedIsNotRaw, v.timespanText, v.isTimespan,
      v.multiplierRange, v.currencyText, v.currencyFits, ?_⟩
    have hVersion : t.schemaVersion = 1 := v.version
    rw [SnapshotTerms.normal, hVersion, pure_eq_ok]

@[simp] theorem SnapshotTerms.normal_normal (t : SnapshotTerms) :
    (t.normal form).normal form = t.normal form := by
  simp [SnapshotTerms.normal, form.idempotent, Function.comp_def]

/-! ## Observations -/

/-- The observation an entry stands for. -/
def observe (item : SnapshotObservation ParsedDateTime) : Option (SnapshotObservation Instant) := do
  let observedAt ← item.observedAt.toInstant
  let availableAt ← item.availableAt.toInstant
  if item.value.isFinite then some ⟨observedAt, availableAt, item.value.canonicalZero⟩ else none

def normalizedObservation (item : SnapshotObservation ParsedDateTime) :
    Except String (SnapshotObservation Instant) := do
  let observedAt ← utc item.observedAt "observation observed_at"
  let availableAt ← utc item.availableAt "observation available_at"
  let value ← finite item.value "observation value"
  return ⟨observedAt, availableAt, value⟩

/-- The body of the loop over the sorted observations. -/
def checkObservation (asOf : Instant) (target : String) (item : SnapshotObservation Instant) :
    Except String PUnit := do
  refuseIf (asOf < item.observedAt) "observation time must not be later than as_of"
  refuseIf (item.availableAt < item.observedAt ∨ asOf < item.availableAt)
    "observation availability must be within its cutoff"
  refuseIf (target ∈ priceTargets ∧ item.value.isNegative = true)
    "price snapshot values must be nonnegative"

def normalizedObservations (asOf : Instant) (target : String)
    (observations : List (SnapshotObservation ParsedDateTime)) :
    Except String (List (SnapshotObservation Instant)) := do
  refuseIf (¬ (1 ≤ observations.length ∧ observations.length ≤ 10000))
    "snapshot observations must be within the size limit"
  let items ← observations.mapM normalizedObservation
  let ordered := sortOn SnapshotObservation.observedAt items
  refuseIf (¬ (ordered.map SnapshotObservation.observedAt).Nodup)
    "observation timestamps must be unique"
  ordered.forM (checkObservation asOf target)
  return ordered

structure SnapshotObservation.Admissible (asOf : Instant) (target : String)
    (o : SnapshotObservation Instant) : Prop where
  available : o.observedAt ≤ o.availableAt
  cutoff : o.availableAt ≤ asOf
  nonnegative : ¬ (target ∈ priceTargets ∧ o.value.isNegative = true)

/-- Observations as a normalized payload lists them. -/
structure ObservationsValid (asOf : Instant) (target : String)
    (observations : List (SnapshotObservation Instant)) : Prop where
  size : 1 ≤ observations.length ∧ observations.length ≤ 10000
  ascending : observations.Pairwise fun a b => a.observedAt < b.observedAt
  admissible : ∀ o ∈ observations, o.Admissible asOf target

theorem normalizedObservation_eq_ok_iff (item : SnapshotObservation ParsedDateTime)
    (o : SnapshotObservation Instant) : normalizedObservation item = .ok o ↔ observe item = some o := by
  simp only [normalizedObservation, utc_bind_eq_ok_iff, finite, bind_assoc, refuseIf_bind_eq_ok_iff,
    observe, Option.bind_eq_bind, Option.bind_eq_some_iff, pure_eq_ok, ok_bind, Except.ok.injEq,
    Option.ite_none_right_eq_some, Option.some.injEq, Bool.not_eq_false]

theorem checkObservation_eq_ok_iff {asOf : Instant} {target : String}
    {o : SnapshotObservation Instant} :
    checkObservation asOf target o = .ok ⟨⟩ ↔ o.Admissible asOf target := by
  rw [checkObservation, refuseIf_bind_eq_ok_iff, refuseIf_bind_eq_ok_iff, refuseIf_eq_ok_iff]
  constructor
  · rintro ⟨-, hAvailable, hValue⟩
    rw [not_or, not_lt, not_lt] at hAvailable
    exact ⟨hAvailable.1, hAvailable.2, hValue⟩
  · rintro ⟨hAvailable, hCutoff, hValue⟩
    exact ⟨not_lt.mpr (hAvailable.trans hCutoff),
      not_or.mpr ⟨not_lt.mpr hAvailable, not_lt.mpr hCutoff⟩, hValue⟩

/-- What is accepted is a valid list, whatever the order of the entries. -/
theorem normalizedObservations_eq_ok_iff {asOf : Instant} {target : String}
    {entries : List (SnapshotObservation ParsedDateTime)}
    {observations : List (SnapshotObservation Instant)} :
    normalizedObservations asOf target entries = .ok observations ↔
      (entries.map observe).Perm (observations.map some) ∧
        ObservationsValid asOf target observations := by
  rw [normalizedObservations, refuseIf_bind_eq_ok_iff, not_not, bind_eq_ok_iff]
  constructor
  · rintro ⟨hSize, items, hItems, h⟩
    rw [refuseIf_bind_eq_ok_iff, not_not, unit_bind_eq_ok_iff, forM_eq_ok_iff, pure_eq_ok] at h
    obtain ⟨hDistinct, hChecks, h⟩ := h
    cases h
    rw [mapM_eq_ok_iff normalizedObservation_eq_ok_iff] at hItems
    have hPerm : (sortOn SnapshotObservation.observedAt items).Perm items := sortOn_perm items
    have hLength := congrArg List.length hItems
    rw [List.length_map, List.length_map] at hLength
    refine ⟨hItems ▸ (hPerm.map some).symm, ?_, ?_, ?_⟩
    · rw [hPerm.length_eq, ← hLength]
      exact hSize
    · exact sortOn_pairwise ((hPerm.map _).nodup_iff.mp hDistinct)
    · exact fun o hMem => checkObservation_eq_ok_iff.mp (hChecks o hMem)
  · rintro ⟨hPerm, hSize, hAscending, hAdmissible⟩
    obtain ⟨items, hItems, hSame⟩ := exists_map_some_of_perm hPerm
    have hSorted : sortOn SnapshotObservation.observedAt items = observations :=
      sortOn_eq_of_perm hSame hAscending
    have hLength := hPerm.length_eq
    rw [List.length_map, List.length_map] at hLength
    refine ⟨hLength ▸ hSize, items, (mapM_eq_ok_iff normalizedObservation_eq_ok_iff).mpr hItems, ?_⟩
    rw [hSorted, refuseIf_bind_eq_ok_iff, not_not, unit_bind_eq_ok_iff, forM_eq_ok_iff, pure_eq_ok]
    exact ⟨List.pairwise_map.mpr (hAscending.imp ne_of_lt),
      fun o hMem => checkObservation_eq_ok_iff.mpr (hAdmissible o hMem), rfl⟩

/-! ## Target times -/

def normalizedTargetTimes (asOf : Instant) (times : List ParsedDateTime) :
    Except String (List Instant) := do
  refuseIf (¬ (1 ≤ times.length ∧ times.length ≤ 252))
    "snapshot target_times must be within the size limit"
  let instants ← times.mapM fun value => utc value "target_time"
  let ordered := sortOn id instants
  refuseIf (¬ ordered.Nodup) "target_times must be unique"
  refuseIf (ordered.head?.any (· ≤ asOf) = true) "target_times must be later than as_of"
  return ordered

structure TargetTimesValid (asOf : Instant) (times : List Instant) : Prop where
  size : 1 ≤ times.length ∧ times.length ≤ 252
  ascending : times.Pairwise (· < ·)
  later : ∀ t ∈ times, asOf < t

theorem head_any_le_iff {asOf : Instant} {times : List Instant} (ascending : times.Pairwise (· < ·)) :
    ¬ times.head?.any (· ≤ asOf) = true ↔ ∀ t ∈ times, asOf < t := by
  cases times with
  | nil => simp
  | cons first rest =>
    rw [List.pairwise_cons] at ascending
    simp only [List.head?_cons, Option.any_some, decide_eq_true_eq, not_le, List.mem_cons,
      forall_eq_or_imp]
    exact ⟨fun h => ⟨h, fun t hMem => h.trans (ascending.1 t hMem)⟩, fun h => h.1⟩

theorem normalizedTargetTimes_eq_ok_iff {asOf : Instant} {entries : List ParsedDateTime}
    {times : List Instant} :
    normalizedTargetTimes asOf entries = .ok times ↔
      (entries.map ParsedDateTime.toInstant).Perm (times.map some) ∧ TargetTimesValid asOf times := by
  have hUtc := fun value t => utc_eq_ok_iff value "target_time" t
  rw [normalizedTargetTimes, refuseIf_bind_eq_ok_iff, not_not, bind_eq_ok_iff]
  constructor
  · rintro ⟨hSize, items, hItems, h⟩
    rw [refuseIf_bind_eq_ok_iff, not_not, refuseIf_bind_eq_ok_iff, pure_eq_ok] at h
    obtain ⟨hDistinct, hHead, h⟩ := h
    cases h
    rw [mapM_eq_ok_iff hUtc] at hItems
    have hPerm : (sortOn id items).Perm items := sortOn_perm items
    have hItemsDistinct : (items.map id).Nodup := by
      rw [List.map_id]
      exact hPerm.nodup_iff.mp hDistinct
    have hAscending : (sortOn id items).Pairwise (· < ·) := sortOn_pairwise hItemsDistinct
    have hLength := congrArg List.length hItems
    rw [List.length_map, List.length_map] at hLength
    refine ⟨hItems ▸ (hPerm.map some).symm, ?_, hAscending, (head_any_le_iff hAscending).mp hHead⟩
    rw [hPerm.length_eq, ← hLength]
    exact hSize
  · rintro ⟨hPerm, hSize, hAscending, hLater⟩
    obtain ⟨items, hItems, hSame⟩ := exists_map_some_of_perm hPerm
    have hSorted : sortOn id items = times := sortOn_eq_of_perm hSame hAscending
    have hLength := hPerm.length_eq
    rw [List.length_map, List.length_map] at hLength
    refine ⟨hLength ▸ hSize, items, (mapM_eq_ok_iff hUtc).mpr hItems, ?_⟩
    rw [hSorted, refuseIf_bind_eq_ok_iff, not_not, refuseIf_bind_eq_ok_iff, pure_eq_ok]
    exact ⟨hAscending.imp ne_of_lt, (head_any_le_iff hAscending).mpr hLater, rfl⟩

/-! ## Data sources -/

/-- `(name, source_snapshot_id, max_available_at)`. -/
structure SourceKey where
  name : String
  snapshotId : String
  maxAvailableAt : Instant

namespace SourceKey

def tuple (k : SourceKey) : Lex (String × Lex (String × Instant)) :=
  toLex (k.name, toLex (k.snapshotId, k.maxAvailableAt))

theorem tuple_injective : Function.Injective tuple := by
  intro a b h
  have hPairs := congrArg ofLex h
  simp only [tuple, ofLex_toLex, Prod.mk.injEq, EmbeddingLike.apply_eq_iff_eq] at hPairs
  cases a
  cases b
  simpa using hPairs

instance : LinearOrder SourceKey := LinearOrder.lift' tuple tuple_injective

end SourceKey

/-- A line of the normalized payload. -/
def sourceLine (group : SourceKey × Finset String) : SnapshotSourceLineage Instant :=
  ⟨group.1.name, group.1.snapshotId, group.1.maxAvailableAt, group.2.sort (· ≤ ·)⟩

section Sources

variable (form)

/-- The key a source is grouped under. -/
def sourceKey (source : SnapshotSourceLineage ParsedDateTime) : Option SourceKey :=
  source.maxAvailableAt.toInstant.map fun t => ⟨form.nfc source.name, form.nfc source.snapshotId, t⟩

/-- The key of a source and the fields it adds. -/
def sourceItem (source : SnapshotSourceLineage ParsedDateTime) :
    Option (SourceKey × Finset String) :=
  (sourceKey form source).map fun k => (k, (source.fields.map form.nfc).toFinset)

/-- The body of the loop over the sources, up to the grouping. -/
def normalizedSource (asOf : Instant) (source : SnapshotSourceLineage ParsedDateTime) :
    Except String (SourceKey × Finset String) := do
  let name ← text form source.name "source name" 64
  let sourceSnapshotId ← text form source.snapshotId "source snapshot_id" 128
  let maxAvailableAt ← utc source.maxAvailableAt "source max_available_at"
  refuseIf (asOf < maxAvailableAt) "source availability must not be later than as_of"
  refuseIf (¬ (1 ≤ source.fields.length ∧ source.fields.length ≤ 128))
    "source fields must be within the size limit"
  let fields ← source.fields.mapM fun field => text form field "source field" 128
  refuseIf (¬ (1 ≤ fields.toFinset.card ∧ fields.toFinset.card ≤ 128))
    "source fields must be within the size limit"
  return (⟨name, sourceSnapshotId, maxAvailableAt⟩, fields.toFinset)

def normalizedSources (asOf : Instant) (sources : List (SnapshotSourceLineage ParsedDateTime)) :
    Except String (List (SnapshotSourceLineage Instant)) := do
  refuseIf (¬ (1 ≤ sources.length ∧ sources.length ≤ 64))
    "snapshot data_sources must be within the size limit"
  let items ← sources.mapM (normalizedSource form asOf)
  return (grouped items).map sourceLine

end Sources

structure SourceItemValid (asOf : Instant) (item : SourceKey × Finset String) : Prop where
  nameText : IsText 64 item.1.name
  idText : IsText 128 item.1.snapshotId
  cutoff : item.1.maxAvailableAt ≤ asOf
  fieldTexts : ∀ f ∈ item.2, IsText 128 f

/-- The lines of the sources, each source within its limits. -/
structure SourcesNormalize (form : NormalForm) (asOf : Instant)
    (sources : List (SnapshotSourceLineage ParsedDateTime))
    (lines : List (SnapshotSourceLineage Instant)) : Prop where
  size : 1 ≤ sources.length ∧ sources.length ≤ 64
  fieldCounts : ∀ s ∈ sources, 1 ≤ s.fields.length ∧ s.fields.length ≤ 128
  merges : ∃ items, sources.map (sourceItem form) = items.map some ∧
    (∀ item ∈ items, SourceItemValid asOf item) ∧ lines = (grouped items).map sourceLine

theorem mapM_text_eq_ok_iff {label : String} {maxLength : Nat} {values texts : List String} :
    (values.mapM fun value => text form value label maxLength) = .ok texts ↔
      (∀ s ∈ texts, IsText maxLength s) ∧ values.map form.nfc = texts := by
  induction values generalizing texts with
  | nil =>
    rw [List.mapM_nil, pure_eq_ok, List.map_nil]
    constructor
    · intro h
      cases h
      simp
    · rintro ⟨-, rfl⟩
      rfl
  | cons value rest ih =>
    rw [List.mapM_cons, text_bind_eq_ok_iff, bind_eq_ok_iff, List.map_cons]
    constructor
    · rintro ⟨hText, others, hOthers, h⟩
      cases h
      obtain ⟨hTexts, rfl⟩ := ih.mp hOthers
      exact ⟨List.forall_mem_cons.mpr ⟨hText, hTexts⟩, rfl⟩
    · rintro ⟨hTexts, rfl⟩
      rw [List.forall_mem_cons] at hTexts
      exact ⟨hTexts.1, _, ih.mpr ⟨hTexts.2, rfl⟩, rfl⟩

theorem normalizedSource_eq_ok_iff {asOf : Instant} {source : SnapshotSourceLineage ParsedDateTime}
    {item : SourceKey × Finset String} :
    normalizedSource form asOf source = .ok item ↔ sourceItem form source = some item ∧
      (1 ≤ source.fields.length ∧ source.fields.length ≤ 128) ∧ SourceItemValid asOf item := by
  rw [normalizedSource, text_bind_eq_ok_iff, text_bind_eq_ok_iff, utc_bind_eq_ok_iff, sourceItem,
    sourceKey, Option.map_map, Option.map_eq_some_iff]
  constructor
  · rintro ⟨hName, hId, t, hTime, h⟩
    rw [refuseIf_bind_eq_ok_iff, refuseIf_bind_eq_ok_iff, bind_eq_ok_iff, not_lt, not_not] at h
    obtain ⟨hCutoff, hCount, fields, hFields, h⟩ := h
    rw [refuseIf_bind_eq_ok_iff, pure_eq_ok] at h
    obtain ⟨-, h⟩ := h
    cases h
    obtain ⟨hTexts, rfl⟩ := mapM_text_eq_ok_iff.mp hFields
    exact ⟨⟨t, hTime, rfl⟩, hCount, hName, hId, hCutoff, fun f hMem =>
      hTexts f (List.mem_toFinset.mp hMem)⟩
  · rintro ⟨⟨t, hTime, rfl⟩, hCount, hName, hId, hCutoff, hTexts⟩
    have hFields : ∀ s ∈ source.fields.map form.nfc, IsText 128 s := fun s hMem =>
      hTexts s (List.mem_toFinset.mpr hMem)
    have hCard : (source.fields.map form.nfc).toFinset.card ≤ 128 :=
      (List.toFinset_card_le _).trans ((List.length_map _).trans_le hCount.2)
    have hPositive : 1 ≤ (source.fields.map form.nfc).toFinset.card := by
      obtain ⟨first, rest, hCons⟩ := List.exists_cons_of_length_pos hCount.1
      refine Finset.card_pos.mpr ⟨form.nfc first, ?_⟩
      simp [hCons]
    have hNotLater : ¬ asOf < t := not_lt.mpr hCutoff
    refine ⟨hName, hId, t, hTime, ?_⟩
    rw [refuseIf_of_not hNotLater, ok_bind, refuseIf_of_not (not_not.mpr hCount), ok_bind,
      mapM_text_eq_ok_iff.mpr ⟨hFields, rfl⟩, ok_bind,
      refuseIf_of_not (not_not.mpr ⟨hPositive, hCard⟩), ok_bind]
    rfl

theorem normalizedSources_eq_ok_iff {asOf : Instant}
    {sources : List (SnapshotSourceLineage ParsedDateTime)}
    {lines : List (SnapshotSourceLineage Instant)} :
    normalizedSources form asOf sources = .ok lines ↔ SourcesNormalize form asOf sources lines := by
  rw [normalizedSources, refuseIf_bind_eq_ok_iff, not_not, bind_eq_ok_iff]
  constructor
  · rintro ⟨hSize, items, hItems, h⟩
    cases h
    have hEach := forall₂_of_mapM hItems
    refine ⟨hSize, ?_, items, ?_, ?_, rfl⟩
    · intro s hMem
      obtain ⟨item, -, hItem⟩ := exists_right_of_forall₂ hEach hMem
      exact (normalizedSource_eq_ok_iff.mp hItem).2.1
    · rw [← List.forall₂_eq_eq_eq, List.forall₂_map_left_iff, List.forall₂_map_right_iff]
      exact hEach.imp fun s item h => (normalizedSource_eq_ok_iff.mp h).1
    · intro item hMem
      obtain ⟨s, -, hItem⟩ := exists_left_of_forall₂ hEach hMem
      exact (normalizedSource_eq_ok_iff.mp hItem).2.2
  · rintro ⟨hSize, hCounts, items, hItems, hValid, rfl⟩
    refine ⟨hSize, items, ?_, rfl⟩
    apply mapM_of_forall₂
    rw [← List.forall₂_eq_eq_eq, List.forall₂_map_left_iff, List.forall₂_map_right_iff] at hItems
    obtain ⟨hLength, hPairs⟩ := List.forall₂_iff_zip.mp hItems
    refine List.forall₂_iff_zip.mpr ⟨hLength, fun {s item} hZip => ?_⟩
    obtain ⟨hSource, hItem⟩ := List.of_mem_zip hZip
    exact normalizedSource_eq_ok_iff.mpr ⟨hPairs hZip, hCounts s hSource, hValid item hItem⟩

end StockApi.Snapshots

import StockApi.Bars.History
import StockApi.Library.Text
import StockApi.Library.Timestamp
import Mathlib.Data.Prod.Lex

/-!
# The point-in-time selectors

The statements of the snapshot builder, of the outcome resolver and of the factor builder, each
a union of the three lanes joined with the receipts. On an archive each of them chooses the
newest visible version of a key.
-/

namespace StockApi.Bars

open Checked CivilTime Relational VersionChain Relation

/-! ## Statements -/

/-- A projected version with the time of its receipt. -/
structure Visible (π : Type) where
  version : π
  availableAt : Int
deriving DecidableEq

section Statements

variable {π : Type} [DecidableEq π]

/-- The union of the current, the previous and the incoming rows that pass the filter. -/
def storedVersions (keep : Bar → Bool) (project : Bar → π) (t : BarTables) : List π :=
  ((t.lanes.filter keep).map project).dedup

/-- The receipts of the projected versions, stamped by the cutoff. -/
def joinReceipts (key : π → BarKey) (recordedAt : π → Int) (cutoff : Int) (t : BarTables)
    (versions : List π) : List (Visible π) :=
  versions.flatMap fun p =>
    (t.receipts.filter fun r => decide (r.key = key p ∧ r.versionRecordedAt = recordedAt p ∧
      r.availableAt ≤ cutoff)).map fun r => ⟨p, r.availableAt⟩

end Statements

/-- The columns of the snapshot and of the outcome statement. -/
structure CloseVersion where
  key : BarKey
  close : Rat
  fetchedAt : Int
  sourceAsOf : Int
  recordedAt : Int
deriving DecidableEq

def closeVersion (v : Bar) : CloseVersion := ⟨v.key, v.values.close, v.fetchedAt, v.asOf, v.recordedAt⟩

/-! ## The snapshot statement -/

/-- A `SnapshotBuildSpec` as a caller passes it. -/
structure SpecArgument where
  symbol : String
  target : String
  horizonUnit : String
  asOf : ParsedDateTime

/-- A `SnapshotBuildSpec` that was validated. -/
structure SnapshotBuildSpec where
  symbol : String
  target : String
  horizonUnit : String
  asOf : Instant
deriving DecidableEq

/-- What a snapshot specification is refused with. -/
inductive SpecError where
  | outsideUniverse (symbol : String)
  | build (message : String)
  | availability (message : String)
deriving DecidableEq

/-- `str.strip` and `str.upper`. -/
structure SymbolText where
  strip : String → String
  upper : String → String

structure ForecastSnapshotBuildPolicy where
  source : String := "polygon_open_close"
  inputTimespan : String := "day"
  inputMultiplier : Int := 1
  seriesBasis : String := "raw"
  currency : String := "USD"
  observationLimit : Nat := 512
  minimumObservations : Nat := 258
  targetTimeCount : Nat := 252
  allowedSymbols : List String := ["AAPL", "MSFT", "NVDA", "QQQ", "SPY"]

def defaultSnapshotBuildPolicy : ForecastSnapshotBuildPolicy := {}

/-- `validate_spec`. -/
def ForecastSnapshotBuildPolicy.validateSpec (policy : ForecastSnapshotBuildPolicy) (text : SymbolText)
    (spec : SpecArgument) : Except SpecError SnapshotBuildSpec := do
  let symbol := text.upper (text.strip spec.symbol)
  refuseIf (symbol ∉ policy.allowedSymbols) (SpecError.outsideUniverse symbol)
  refuseIf (spec.target ≠ "close") (SpecError.build "only raw close snapshots are supported by policy v1")
  refuseIf (spec.horizonUnit ≠ "trading_day")
    (SpecError.build "only trading_day horizons are supported by policy v1")
  let asOf ← (utc spec.asOf "as_of").mapError SpecError.availability
  return ⟨symbol, "close", "trading_day", asOf⟩

theorem validateSpec_eq_ok_iff {policy : ForecastSnapshotBuildPolicy} {text : SymbolText} {arg : SpecArgument}
    {spec : SnapshotBuildSpec} :
    policy.validateSpec text arg = .ok spec ↔
      text.upper (text.strip arg.symbol) = spec.symbol ∧ spec.symbol ∈ policy.allowedSymbols ∧
      (arg.target = "close" ∧ spec.target = "close") ∧
      (arg.horizonUnit = "trading_day" ∧ spec.horizonUnit = "trading_day") ∧
      arg.asOf.toInstant = some spec.asOf := by
  rw [ForecastSnapshotBuildPolicy.validateSpec, refuseIf_bind_eq_ok_iff, refuseIf_bind_eq_ok_iff,
    refuseIf_bind_eq_ok_iff, bind_eq_ok_iff]
  simp only [mapError_eq_ok_iff, utc_eq_ok_iff, not_not, pure_eq_ok]
  constructor
  · rintro ⟨hSymbol, hTarget, hUnit, asOf, hTime, h⟩
    cases h
    exact ⟨rfl, hSymbol, ⟨hTarget, rfl⟩, ⟨hUnit, rfl⟩, hTime⟩
  · rintro ⟨hUpper, hSymbol, ⟨hTarget, hTarget'⟩, ⟨hUnit, hUnit'⟩, hTime⟩
    refine ⟨hUpper ▸ hSymbol, hTarget, hUnit, spec.asOf, hTime, ?_⟩
    rw [hUpper, ← hTarget', ← hUnit']

/-- The key filters of the snapshot statement. -/
def ForecastSnapshotBuildPolicy.InSeries (policy : ForecastSnapshotBuildPolicy) (symbol : String) (key : BarKey) :
    Prop :=
  key.symbol = symbol ∧ key.timespan = policy.inputTimespan ∧
    key.multiplier = policy.inputMultiplier ∧ key.source = policy.source ∧
    key.adjustmentBasis = policy.seriesBasis

instance (policy : ForecastSnapshotBuildPolicy) (symbol : String) (key : BarKey) :
    Decidable (policy.InSeries symbol key) := inferInstanceAs (Decidable (_ ∧ _))

/-- The finalized versions, before they are ranked. -/
def finalizedBarVersions (spec : SnapshotBuildSpec) (policy : ForecastSnapshotBuildPolicy) (t : BarTables) :
    List (Visible CloseVersion) :=
  joinReceipts (·.key) (·.recordedAt) spec.asOf.micros t
    (storedVersions (fun v => decide (policy.InSeries spec.symbol v.key ∧ v.key.ts ≤ spec.asOf.micros ∧
      v.asOf ≤ spec.asOf.micros)) closeVersion t)

/-- The versions of rank one, one for each `observed_at`. -/
def rankedBarVersions (spec : SnapshotBuildSpec) (policy : ForecastSnapshotBuildPolicy) (t : BarTables) :
    List (Visible CloseVersion) :=
  rowNumberOne (·.version.key.ts) (·.version.recordedAt) (finalizedBarVersions spec policy t)

/-- The rows of the statement for a validated specification. -/
def limitedBarVersions (spec : SnapshotBuildSpec) (policy : ForecastSnapshotBuildPolicy) (t : BarTables) :
    List (Visible CloseVersion) :=
  (orderDesc (·.version.key.ts) (rankedBarVersions spec policy t)).take policy.observationLimit

/-- `build_point_in_time_bars_statement`, executed. -/
def pointInTimeBars (text : SymbolText) (spec : SpecArgument) (policy : ForecastSnapshotBuildPolicy)
    (t : BarTables) : Except SpecError (List (Visible CloseVersion)) := do
  let spec ← policy.validateSpec text spec
  return limitedBarVersions spec policy t

theorem pointInTimeBars_of_valid {text : SymbolText} {arg : SpecArgument} {policy : ForecastSnapshotBuildPolicy}
    {spec : SnapshotBuildSpec} (h : policy.validateSpec text arg = .ok spec) (t : BarTables) :
    pointInTimeBars text arg policy t = .ok (limitedBarVersions spec policy t) := by
  rw [pointInTimeBars, h]
  rfl

/-! ## The outcome statement -/

structure OutcomeResolutionRequest where
  symbol : String
  targetTime : Int
  resolutionCutoff : Int

def OutcomeResolutionRequest.key (request : OutcomeResolutionRequest) : BarKey :=
  ⟨request.symbol, "day", 1, request.targetTime, "polygon_open_close", "raw"⟩

def outcomeBarVersions (request : OutcomeResolutionRequest) (t : BarTables) :
    List (Visible CloseVersion) :=
  joinReceipts (·.key) (·.recordedAt) request.resolutionCutoff t
    (storedVersions (fun v => decide (v.key = request.key)) closeVersion t)

/-- `build_exact_bar_version_statement`. -/
def exactBarVersion (request : OutcomeResolutionRequest) (t : BarTables) :
    List (Visible CloseVersion) :=
  (orderDesc (fun r => toLex (r.version.recordedAt, toLex (r.version.fetchedAt,
      toLex (r.version.sourceAsOf, r.version.close))))
    (rankOne (·.version.recordedAt) (outcomeBarVersions request t))).take 2

/-! ## The factor statement -/

/-- The columns of the factor statement. -/
structure FactorVersion where
  key : BarKey
  recordedAt : Int
  close : Rat
deriving DecidableEq

def factorVersion (v : Bar) : FactorVersion := ⟨v.key, v.recordedAt, v.values.close⟩

/-- An `AdjustmentFactorBuildSpec` as a caller passes it. -/
structure FactorSpecArgument where
  symbol : String
  coverageStart : Date
  coverageEnd : Date
  cutoff : ParsedDateTime

/-- An `AdjustmentFactorBuildSpec` that was validated. -/
structure AdjustmentFactorBuildSpec where
  symbol : String
  coverageStart : Date
  coverageEnd : Date
  cutoff : Instant
deriving DecidableEq

structure AdjustmentFactorBuildError where
  message : String
deriving DecidableEq

theorem calendarStart_year : 1 ≤ 1990 ∧ 1990 ≤ 9999 := by decide

theorem calendarStart_month : 1 ≤ 1 ∧ 1 ≤ 12 := by decide

theorem calendarStart_day : 1 ≤ 1 ∧ 1 ≤ daysInMonth 1990 1 := by decide

def calendarStart : Date := ⟨1990, 1, 1, calendarStart_year, calendarStart_month, calendarStart_day⟩

theorem calendarEnd_year : 1 ≤ 2100 ∧ 2100 ≤ 9999 := by decide

theorem calendarEnd_month : 1 ≤ 12 ∧ 12 ≤ 12 := by decide

theorem calendarEnd_day : 1 ≤ 31 ∧ 31 ≤ daysInMonth 2100 12 := by decide

def calendarEnd : Date := ⟨2100, 12, 31, calendarEnd_year, calendarEnd_month, calendarEnd_day⟩

/-- `_validate_spec` of the factor builder. -/
def validateFactorSpec (text : SymbolText) (spec : FactorSpecArgument) :
    Except AdjustmentFactorBuildError AdjustmentFactorBuildSpec := do
  refuseIf (spec.symbol ≠ text.upper (text.strip spec.symbol) ∨ spec.symbol = "" ∨
      32 < spec.symbol.length ∨ ¬ Text.IsSymbol spec.symbol)
    (AdjustmentFactorBuildError.mk "factor symbol must be uppercase and canonical")
  refuseIf (spec.coverageEnd < spec.coverageStart)
    (AdjustmentFactorBuildError.mk "factor coverage is inverted")
  refuseIf (¬ (calendarStart ≤ spec.coverageStart ∧ spec.coverageStart ≤ spec.coverageEnd ∧
      spec.coverageEnd ≤ calendarEnd))
    (AdjustmentFactorBuildError.mk "factor coverage is outside the pinned calendar")
  let cutoff ← (utc spec.cutoff "factor cutoff").mapError AdjustmentFactorBuildError.mk
  return ⟨spec.symbol, spec.coverageStart, spec.coverageEnd, cutoff⟩

theorem validateFactorSpec_eq_ok_iff {text : SymbolText} {arg : FactorSpecArgument}
    {spec : AdjustmentFactorBuildSpec} :
    validateFactorSpec text arg = .ok spec ↔
      (arg.symbol = spec.symbol ∧ text.upper (text.strip spec.symbol) = spec.symbol ∧
        spec.symbol.length ≤ 32 ∧ Text.IsSymbol spec.symbol) ∧
      (arg.coverageStart = spec.coverageStart ∧ arg.coverageEnd = spec.coverageEnd) ∧
      (calendarStart ≤ spec.coverageStart ∧ spec.coverageStart ≤ spec.coverageEnd ∧
        spec.coverageEnd ≤ calendarEnd) ∧
      arg.cutoff.toInstant = some spec.cutoff := by
  rw [validateFactorSpec, refuseIf_bind_eq_ok_iff, refuseIf_bind_eq_ok_iff, refuseIf_bind_eq_ok_iff,
    bind_eq_ok_iff]
  simp only [mapError_eq_ok_iff, utc_eq_ok_iff, not_not, not_or, not_lt, ne_eq, pure_eq_ok]
  constructor
  · rintro ⟨⟨hUpper, -, hShort, hSymbol⟩, -, hCalendar, cutoff, hTime, h⟩
    cases h
    exact ⟨⟨rfl, hUpper.symm, hShort, hSymbol⟩, ⟨rfl, rfl⟩, hCalendar, hTime⟩
  · rintro ⟨⟨hSame, hUpper, hShort, hSymbol⟩, ⟨hStart, hEnd⟩, hCalendar, hTime⟩
    rw [hSame, hStart, hEnd]
    refine ⟨⟨hUpper.symm, ?_, hShort, hSymbol⟩, hCalendar.2.1, hCalendar, spec.cutoff, hTime, rfl⟩
    rintro hEmpty
    exact hSymbol.1 (by rw [hEmpty]; rfl)

/-- Midnight UTC, in microseconds. -/
def startOfDay (d : Date) : Int := d.days * 86400000000

/-- The key filters of the factor statement. -/
def AdjustmentFactorBuildSpec.Covers (spec : AdjustmentFactorBuildSpec) (key : BarKey) : Prop :=
  key.symbol = spec.symbol ∧ key.timespan = "day" ∧ key.multiplier = 1 ∧
    key.source = "polygon_open_close" ∧ key.adjustmentBasis = "raw" ∧
    startOfDay spec.coverageStart ≤ key.ts ∧ key.ts < startOfDay spec.coverageEnd + 86400000000

instance (spec : AdjustmentFactorBuildSpec) (key : BarKey) : Decidable (spec.Covers key) :=
  inferInstanceAs (Decidable (_ ∧ _))

def factorBarVersions (spec : AdjustmentFactorBuildSpec) (t : BarTables) :
    List (Visible FactorVersion) :=
  joinReceipts (·.key) (·.recordedAt) spec.cutoff.micros t
    (storedVersions (fun v => decide (spec.Covers v.key)) factorVersion t)

/-- A row of the factor statement. -/
structure FactorRow where
  chosen : Visible FactorVersion
  greatestCount : Nat
deriving DecidableEq

/-- The rows of the statement for a validated specification. -/
def orderedFactorRows (spec : AdjustmentFactorBuildSpec) (t : BarTables) : List FactorRow :=
  let visible := factorBarVersions spec t
  ((rowNumberOne (·.version.key.ts)
      (fun r => toLex (r.version.recordedAt, r.availableAt)) visible).mergeSort
    fun a b => decide (a.version.key.ts ≤ b.version.key.ts)).map fun r =>
      ⟨r, visible.countP fun other => decide (other.version.key.ts = r.version.key.ts ∧
        other.version.recordedAt = r.version.recordedAt)⟩

/-- `build_factor_raw_inputs_statement`, executed. -/
def factorRawInputs (text : SymbolText) (spec : FactorSpecArgument) (t : BarTables) :
    Except AdjustmentFactorBuildError (List FactorRow) := do
  let spec ← validateFactorSpec text spec
  return orderedFactorRows spec t

theorem factorRawInputs_of_valid {text : SymbolText} {arg : FactorSpecArgument} {spec : AdjustmentFactorBuildSpec}
    (h : validateFactorSpec text arg = .ok spec) (t : BarTables) :
    factorRawInputs text arg t = .ok (orderedFactorRows spec t) := by
  rw [factorRawInputs, h]
  rfl

/-! ## The visible rows of an archive -/

section Rows

variable {π : Type} [DecidableEq π] {a : Archive} {keep : Bar → Bool} {project : Bar → π}
  {key : π → BarKey} {recordedAt : π → Int} {cutoff : Int}

/-- The row of a version, if it is visible. -/
def visibleRow (project : Bar → π) (t : BarTables) (cutoff : Int) (v : Bar) : Option (Visible π) :=
  (t.receiptBy cutoff v).map fun r => ⟨project v, r.availableAt⟩

/-- The rows that the three statements rank. -/
def visibleRows (keep : Bar → Bool) (project : Bar → π) (key : π → BarKey) (recordedAt : π → Int)
    (cutoff : Int) (t : BarTables) : List (Visible π) :=
  joinReceipts key recordedAt cutoff t (storedVersions keep project t)

variable (hKey : ∀ v, key (project v) = v.key) (hRecorded : ∀ v, recordedAt (project v) = v.recordedAt)
include hKey hRecorded

theorem Archived.mem_visibleRows_iff (inv : Archived a) {row : Visible π} :
    row ∈ visibleRows keep project key recordedAt cutoff a.tables ↔
      ∃ v ∈ a.written, keep v = true ∧ visibleRow project a.tables cutoff v = some row := by
  rw [visibleRows, joinReceipts, List.mem_flatMap]
  constructor
  · rintro ⟨p, hp, hRow⟩
    rw [storedVersions, List.mem_dedup, List.mem_map] at hp
    obtain ⟨v, hv, rfl⟩ := hp
    obtain ⟨hLane, hKeep⟩ := List.mem_filter.mp hv
    obtain ⟨r, hr, rfl⟩ := List.mem_map.mp hRow
    obtain ⟨hReceipt, hMatch⟩ := List.mem_filter.mp hr
    rw [decide_eq_true_eq, hKey, hRecorded] at hMatch
    refine ⟨v, inv.mem_lanes_iff.mp hLane, hKeep, ?_⟩
    rw [visibleRow, inv.receiptBy_eq_some_iff.mpr ⟨hReceipt, hMatch⟩, Option.map_some]
  · rintro ⟨v, hv, hKeep, hRow⟩
    obtain ⟨r, hr, rfl⟩ := Option.map_eq_some_iff.mp hRow
    refine ⟨project v, ?_, ?_⟩
    · rw [storedVersions, List.mem_dedup]
      exact List.mem_map.mpr ⟨v, List.mem_filter.mpr ⟨inv.mem_lanes_iff.mpr hv, hKeep⟩, rfl⟩
    · obtain ⟨hReceipt, hMatch⟩ := BarTables.receiptBy_eq_some hr
      refine List.mem_map.mpr ⟨r, List.mem_filter.mpr ⟨hReceipt, ?_⟩, rfl⟩
      rw [decide_eq_true_eq, hKey, hRecorded]
      exact hMatch

/-- Key and recorded time identify a row. -/
theorem Archived.visibleRow_unique (inv : Archived a) {x y : Visible π}
    (hx : x ∈ visibleRows keep project key recordedAt cutoff a.tables)
    (hy : y ∈ visibleRows keep project key recordedAt cutoff a.tables)
    (hSameKey : key x.version = key y.version)
    (hSame : recordedAt x.version = recordedAt y.version) : x = y := by
  obtain ⟨v, hv, -, hvRow⟩ := (inv.mem_visibleRows_iff hKey hRecorded).mp hx
  obtain ⟨w, hw, -, hwRow⟩ := (inv.mem_visibleRows_iff hKey hRecorded).mp hy
  obtain ⟨r, hr, rfl⟩ := Option.map_eq_some_iff.mp hvRow
  obtain ⟨s, hs, rfl⟩ := Option.map_eq_some_iff.mp hwRow
  rw [hKey, hKey] at hSameKey
  rw [hRecorded, hRecorded] at hSame
  have hVersion : v = w := (inv.chain w.key).unique v (Archive.mem_lane_iff.mpr ⟨hv, hSameKey⟩) w
    (Archive.mem_lane_iff.mpr ⟨hw, rfl⟩) hSame
  subst hVersion
  rw [hr, Option.some.injEq] at hs
  rw [hs]

theorem Archived.visibleRows_nodup (inv : Archived a) :
    (visibleRows keep project key recordedAt cutoff a.tables).Nodup := by
  rw [visibleRows, joinReceipts, List.nodup_flatMap]
  constructor
  · intro p hp
    rw [storedVersions, List.mem_dedup, List.mem_map] at hp
    obtain ⟨v, -, rfl⟩ := hp
    have hOnce : (a.tables.receipts.filter fun r => decide (r.key = key (project v) ∧
        r.versionRecordedAt = recordedAt (project v) ∧ r.availableAt ≤ cutoff)) =
          (a.tables.receiptBy cutoff v).toList := by
      refine eq_toList_of_mem_iff ?_ ?_
      · refine List.Nodup.filter _ (inv.once.imp ?_)
        rintro r s hNot rfl
        exact hNot ⟨rfl, rfl⟩
      · intro r
        rw [List.mem_filter, decide_eq_true_eq, hKey, hRecorded, inv.receiptBy_eq_some_iff]
    rw [hOnce]
    cases a.tables.receiptBy cutoff v <;> simp
  · refine (List.nodup_dedup _).imp ?_
    intro p q hNe
    rw [Function.onFun_apply, List.disjoint_left]
    intro row hp hq
    obtain ⟨r, -, rfl⟩ := List.mem_map.mp hp
    obtain ⟨s, -, hEq⟩ := List.mem_map.mp hq
    exact hNe (congrArg Visible.version hEq).symm

/-- Ranked by any order that refines the recorded time, the first row of a key is the row of its
newest visible version. -/
theorem Archived.latest_visible (inv : Archived a) {κ : Type} [LinearOrder κ] {order : Visible π → κ}
    (refines : ∀ x y : Visible π, recordedAt x.version < recordedAt y.version → order x < order y)
    {k : BarKey} (hKeep : ∀ v ∈ a.lane k, (a.tables.receiptBy cutoff v).isSome = true → keep v = true) :
    latestBy order ((visibleRows keep project key recordedAt cutoff a.tables).filter
        fun row => decide (key row.version = k)) =
      (a.newestVisible k cutoff).bind (visibleRow project a.tables cutoff) := by
  have hMem : ∀ row, row ∈ (visibleRows keep project key recordedAt cutoff a.tables).filter
      (fun row => decide (key row.version = k)) ↔
        ∃ v ∈ a.lane k, visibleRow project a.tables cutoff v = some row := by
    intro row
    rw [List.mem_filter, decide_eq_true_eq, inv.mem_visibleRows_iff hKey hRecorded]
    constructor
    · rintro ⟨⟨v, hv, -, hRow⟩, hk⟩
      obtain ⟨r, -, rfl⟩ := Option.map_eq_some_iff.mp hRow
      exact ⟨v, Archive.mem_lane_iff.mpr ⟨hv, by rw [← hk, hKey]⟩, hRow⟩
    · rintro ⟨v, hv, hRow⟩
      obtain ⟨r, hr, rfl⟩ := Option.map_eq_some_iff.mp hRow
      obtain ⟨hWritten, hk⟩ := Archive.mem_lane_iff.mp hv
      exact ⟨⟨v, hWritten, hKeep v hv (by rw [hr]; rfl), hRow⟩, by rw [← hk, hKey]⟩
  cases hNewest : a.newestVisible k cutoff with
  | none =>
    rw [Option.bind_none, latestBy_eq_none_iff, List.eq_nil_iff_forall_not_mem]
    intro row hRow
    obtain ⟨v, hv, hVisible⟩ := (hMem row).mp hRow
    obtain ⟨r, hr, -⟩ := Option.map_eq_some_iff.mp hVisible
    rw [Archive.newestVisible, newest, latestBy_eq_none_iff, List.filter_eq_nil_iff] at hNewest
    exact hNewest v hv (by rw [hr]; rfl)
  | some v =>
    obtain ⟨⟨hv, hVisible⟩, hLast⟩ := (newest_eq_some_iff (inv.chain k)).mp hNewest
    obtain ⟨r, hr⟩ := Option.isSome_iff_exists.mp hVisible
    have hRow : visibleRow project a.tables cutoff v = some ⟨project v, r.availableAt⟩ := by
      rw [visibleRow, hr, Option.map_some]
    rw [Option.bind_some, hRow, latestBy_eq_some_iff]
    · refine ⟨(hMem _).mpr ⟨v, hv, hRow⟩, ?_⟩
      intro other hOther
      obtain ⟨w, hw, hOtherRow⟩ := (hMem other).mp hOther
      obtain ⟨s, hs, rfl⟩ := Option.map_eq_some_iff.mp hOtherRow
      rcases (hLast w hw (by rw [hs]; rfl)).lt_or_eq with hLess | hEq
      · refine (refines _ _ ?_).le
        rw [hRecorded, hRecorded]
        exact hLess
      · have hSame : w = v := (inv.chain k).unique w hw v hv hEq
        subst hSame
        rw [hr, Option.some.injEq] at hs
        rw [hs]
    · intro x hx y hy hEq
      obtain ⟨hxRow, hxKey⟩ := List.mem_filter.mp hx
      obtain ⟨hyRow, hyKey⟩ := List.mem_filter.mp hy
      rw [decide_eq_true_eq] at hxKey hyKey
      refine inv.visibleRow_unique hKey hRecorded hxRow hyRow (hxKey.trans hyKey.symm) ?_
      rcases lt_trichotomy (recordedAt x.version) (recordedAt y.version) with h | h | h
      · exact absurd hEq (refines x y h).ne
      · exact h
      · exact absurd hEq (refines y x h).ne'

end Rows

end StockApi.Bars

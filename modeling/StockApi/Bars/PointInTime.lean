import StockApi.Bars.Selectors

/-!
# Reconstruction at a point in time

What the three statements return on an archive. The snapshot statement ranks one symbol and
cuts the rows off at the observation limit; the outcome and the factor statement have no limit.
-/

namespace StockApi.Bars

open Checked CivilTime Relational VersionChain Relation

variable {a : Archive}

/-- The row of the newest visible version of a key. -/
def Archive.newestRow {π : Type} (project : Bar → π) (a : Archive) (key : BarKey) (cutoff : Int) :
    Option (Visible π) :=
  (a.newestVisible key cutoff).bind (visibleRow project a.tables cutoff)

/-- The later keys of the series that have a visible version. -/
def Archive.newerKeys (a : Archive) (policy : ForecastSnapshotBuildPolicy) (spec : SnapshotBuildSpec)
    (ts : Int) : List BarKey :=
  (a.written.map fun v => v.key).dedup.filter fun key =>
    decide (policy.InSeries spec.symbol key ∧ ts < key.ts) && (a.newestVisible key spec.asOf.micros).isSome

theorem ForecastSnapshotBuildPolicy.InSeries.eq_of_ts {policy : ForecastSnapshotBuildPolicy} {symbol : String}
    {k l : BarKey} (hk : policy.InSeries symbol k) (hl : policy.InSeries symbol l)
    (h : k.ts = l.ts) : k = l := by
  obtain ⟨hSymbol, hTimespan, hMultiplier, hSource, hBasis⟩ := hk
  obtain ⟨hSymbol', hTimespan', hMultiplier', hSource', hBasis'⟩ := hl
  obtain ⟨symbol, timespan, multiplier, ts, source, basis⟩ := k
  obtain ⟨symbol', timespan', multiplier', ts', source', basis'⟩ := l
  simp only at *
  subst_vars
  rfl

theorem key_of_visibleRow {π : Type} {project : Bar → π} {cutoff : Int} {v : Bar} {row : Visible π}
    {t : BarTables} (h : visibleRow project t cutoff v = some row) : row.version = project v := by
  obtain ⟨r, -, rfl⟩ := Option.map_eq_some_iff.mp h
  rfl

theorem Archived.newestRow_mem (inv : Archived a) {π : Type} {project : Bar → π} {k : BarKey}
    {cutoff : Int} {row : Visible π} (h : a.newestRow project k cutoff = some row) :
    ∃ v ∈ a.written, v.key = k ∧ row.version = project v ∧
      visibleRow project a.tables cutoff v = some row := by
  obtain ⟨v, hNewest, hRow⟩ := Option.bind_eq_some_iff.mp h
  obtain ⟨⟨hLane, -⟩, -⟩ := (newest_eq_some_iff (inv.chain k)).mp hNewest
  obtain ⟨hWritten, hKey⟩ := Archive.mem_lane_iff.mp hLane
  exact ⟨v, hWritten, hKey, key_of_visibleRow hRow, hRow⟩

/-- A newest visible version has a row. -/
theorem Archived.newestRow_isSome (inv : Archived a) {π : Type} (project : Bar → π) (k : BarKey)
    (cutoff : Int) :
    (a.newestRow project k cutoff).isSome = (a.newestVisible k cutoff).isSome := by
  cases hNewest : a.newestVisible k cutoff with
  | none => rw [Archive.newestRow, hNewest]; rfl
  | some v =>
    obtain ⟨⟨-, hVisible⟩, -⟩ := (newest_eq_some_iff (inv.chain k)).mp hNewest
    rw [Archive.newestRow, hNewest, Option.bind_some, visibleRow, Option.isSome_map]
    exact hVisible

section Partitions

variable {π : Type} [DecidableEq π] {keep : Bar → Bool} {project : Bar → π} {key : π → BarKey}
  {recordedAt : π → Int} {cutoff : Int} {κ : Type} [LinearOrder κ] {order : Visible π → κ}

/-- Within one series the partition by `ts` is a partition by key, and its first row is that of the
newest visible version. -/
theorem Archived.rowNumberOne_iff (inv : Archived a) (hKey : ∀ v, key (project v) = v.key)
    (hRecorded : ∀ v, recordedAt (project v) = v.recordedAt)
    (refines : ∀ x y : Visible π, recordedAt x.version < recordedAt y.version → order x < order y)
    (series : BarKey → Prop) (within : ∀ v, keep v = true → series v.key)
    (one : ∀ k l, series k → series l → k.ts = l.ts → k = l)
    (kept : ∀ k, series k → ∀ v ∈ a.lane k,
      (a.tables.receiptBy cutoff v).isSome = true → keep v = true) {row : Visible π} :
    row ∈ rowNumberOne (fun r => (key r.version).ts) order
        (visibleRows keep project key recordedAt cutoff a.tables) ↔
      series (key row.version) ∧ a.newestRow project (key row.version) cutoff = some row := by
  have hSeries : ∀ r ∈ visibleRows keep project key recordedAt cutoff a.tables,
      series (key r.version) := by
    intro r hMem
    obtain ⟨v, -, hKeep, hRow⟩ := (inv.mem_visibleRows_iff hKey hRecorded).mp hMem
    rw [key_of_visibleRow hRow, hKey]
    exact within v hKeep
  have hPart : ∀ k, series k →
      ((visibleRows keep project key recordedAt cutoff a.tables).filter
        fun r => decide ((key r.version).ts = k.ts)) =
      (visibleRows keep project key recordedAt cutoff a.tables).filter
        fun r => decide (key r.version = k) := by
    intro k hk
    apply List.filter_congr
    intro r hMem
    rw [decide_eq_decide]
    constructor
    · exact one _ _ (hSeries r hMem) hk
    · rintro rfl
      rfl
  have hLatest : ∀ k, series k →
      latestBy order ((visibleRows keep project key recordedAt cutoff a.tables).filter
        fun r => decide (key r.version = k)) = a.newestRow project k cutoff :=
    fun k hk => inv.latest_visible hKey hRecorded refines (kept k hk)
  rw [mem_rowNumberOne_iff]
  constructor
  · intro h
    have hk := hSeries row (List.mem_filter.mp (mem_of_latestBy h)).1
    rw [hPart _ hk, hLatest _ hk] at h
    exact ⟨hk, h⟩
  · rintro ⟨hk, h⟩
    rw [hPart _ hk, hLatest _ hk]
    exact h

end Partitions

/-! ## The snapshot statement -/

section Snapshot

variable {spec : SnapshotBuildSpec} {policy : ForecastSnapshotBuildPolicy}

theorem Archived.finalizedBarVersions_nodup (inv : Archived a) :
    (finalizedBarVersions spec policy a.tables).Nodup := by
  refine inv.visibleRows_nodup ?_ ?_
  · exact fun _ => rfl
  · exact fun _ => rfl

/-- The filters on `ts` and `as_of` let every version through that has a receipt by the cutoff. -/
theorem Archived.kept_of_receipt (inv : Archived a) {k : BarKey}
    (series : policy.InSeries spec.symbol k) {v : Bar} (hLane : v ∈ a.lane k)
    (hVisible : (a.tables.receiptBy spec.asOf.micros v).isSome = true) :
    policy.InSeries spec.symbol v.key ∧ v.key.ts ≤ spec.asOf.micros ∧ v.asOf ≤ spec.asOf.micros := by
  obtain ⟨hWritten, hKey⟩ := Archive.mem_lane_iff.mp hLane
  obtain ⟨r, hReceipt⟩ := Option.isSome_iff_exists.mp hVisible
  obtain ⟨hFetched, hAsOf, hStored, hAvailable, hCutoff⟩ := inv.times_le_of_receipt hWritten hReceipt
  rw [hKey] at hFetched ⊢
  exact ⟨series, by omega, by omega⟩

theorem Archived.mem_rankedBarVersions_iff (inv : Archived a) {row : Visible CloseVersion} :
    row ∈ rankedBarVersions spec policy a.tables ↔ policy.InSeries spec.symbol row.version.key ∧
      a.newestRow closeVersion row.version.key spec.asOf.micros = some row := by
  refine inv.rowNumberOne_iff ?_ ?_ (fun _ _ h => h) (policy.InSeries spec.symbol) ?_
    (fun k l hk hl => hk.eq_of_ts hl) ?_
  · exact fun _ => rfl
  · exact fun _ => rfl
  · exact fun v hKeep => (of_decide_eq_true hKeep).1
  · exact fun k hk v hLane hVisible => decide_eq_true (inv.kept_of_receipt hk hLane hVisible)

/-- The rows above a given time are the rows of the later keys. -/
theorem Archived.countP_ranked (inv : Archived a) (ts : Int) :
    (rankedBarVersions spec policy a.tables).countP (fun row => decide (ts < row.version.key.ts)) =
      (a.newerKeys policy spec ts).length := by
  have hPerm : (((rankedBarVersions spec policy a.tables).filter
      fun row => decide (ts < row.version.key.ts)).map fun row => row.version.key).Perm
        (a.newerKeys policy spec ts) := by
    rw [List.perm_ext_iff_of_nodup]
    · intro key
      rw [Archive.newerKeys, List.mem_filter, List.mem_dedup, Bool.and_eq_true, decide_eq_true_eq,
        ← inv.newestRow_isSome closeVersion]
      constructor
      · intro h
        obtain ⟨row, hMem, rfl⟩ := List.mem_map.mp h
        obtain ⟨hRanked, hLater⟩ := List.mem_filter.mp hMem
        obtain ⟨series, hRow⟩ := inv.mem_rankedBarVersions_iff.mp hRanked
        obtain ⟨v, hWritten, hKey, -, -⟩ := inv.newestRow_mem hRow
        exact ⟨List.mem_map.mpr ⟨v, hWritten, hKey⟩, ⟨series, of_decide_eq_true hLater⟩,
          by rw [hRow]; rfl⟩
      · rintro ⟨-, ⟨series, hLater⟩, hSome⟩
        obtain ⟨row, hRow⟩ := Option.isSome_iff_exists.mp hSome
        obtain ⟨v, -, hKey, hProjected, -⟩ := inv.newestRow_mem hRow
        have hRowKey : row.version.key = key := by rw [hProjected]; exact hKey
        refine List.mem_map.mpr ⟨row, List.mem_filter.mpr ⟨?_, ?_⟩, hRowKey⟩
        · rw [inv.mem_rankedBarVersions_iff, hRowKey]
          exact ⟨series, hRow⟩
        · rw [decide_eq_true_eq, hRowKey]
          exact hLater
    · refine List.Nodup.map_on ?_ ((rowNumberOne_nodup inv.finalizedBarVersions_nodup).filter _)
      intro x hx y hy hSame
      exact eq_of_mem_rowNumberOne (List.mem_filter.mp hx).1 (List.mem_filter.mp hy).1
        (congrArg BarKey.ts hSame)
    · exact (List.nodup_dedup _).filter _
  rw [← hPerm.length_eq, List.length_map, List.countP_eq_length_filter]

theorem Archived.mem_limitedBarVersions_iff (inv : Archived a) {row : Visible CloseVersion} :
    row ∈ limitedBarVersions spec policy a.tables ↔
      (policy.InSeries spec.symbol row.version.key ∧
        a.newestRow closeVersion row.version.key spec.asOf.micros = some row) ∧
      (a.newerKeys policy spec row.version.key.ts).length < policy.observationLimit := by
  have hNodup : (rankedBarVersions spec policy a.tables).Nodup :=
    rowNumberOne_nodup inv.finalizedBarVersions_nodup
  rw [limitedBarVersions, mem_take_orderDesc_iff hNodup
    (fun _ hx _ hy hSame => eq_of_mem_rowNumberOne hx hy hSame), inv.countP_ranked]
  exact and_congr_left' inv.mem_rankedBarVersions_iff

/-- The row of a key is that of its newest visible version, unless the limit cuts it off. -/
theorem Archived.limitedBarVersions_filter (inv : Archived a) {k : BarKey}
    (series : policy.InSeries spec.symbol k) :
    ((limitedBarVersions spec policy a.tables).filter fun row => decide (row.version.key = k)) =
      if (a.newerKeys policy spec k.ts).length < policy.observationLimit then
        (a.newestRow closeVersion k spec.asOf.micros).toList
      else [] := by
  have hNodup : ((limitedBarVersions spec policy a.tables).filter
      fun row => decide (row.version.key = k)).Nodup := by
    refine List.Nodup.filter _ (List.Nodup.sublist (List.take_sublist _ _) ?_)
    exact orderDesc_perm.nodup_iff.mpr (rowNumberOne_nodup inv.finalizedBarVersions_nodup)
  have hMem : ∀ row, row ∈ (limitedBarVersions spec policy a.tables).filter
      (fun row => decide (row.version.key = k)) ↔
        a.newestRow closeVersion k spec.asOf.micros = some row ∧
          (a.newerKeys policy spec k.ts).length < policy.observationLimit := by
    intro row
    rw [List.mem_filter, decide_eq_true_eq, inv.mem_limitedBarVersions_iff]
    constructor
    · rintro ⟨⟨⟨-, hRow⟩, hLimit⟩, rfl⟩
      exact ⟨hRow, hLimit⟩
    · rintro ⟨hRow, hLimit⟩
      obtain ⟨v, -, hKey, hProjected, -⟩ := inv.newestRow_mem hRow
      have hRowKey : row.version.key = k := by rw [hProjected]; exact hKey
      rw [hRowKey]
      exact ⟨⟨⟨series, hRow⟩, hLimit⟩, rfl⟩
  split
  · rename_i hLimit
    exact eq_toList_of_mem_iff hNodup fun row => (hMem row).trans (and_iff_left hLimit)
  · rename_i hLimit
    rw [List.eq_nil_iff_forall_not_mem]
    exact fun row hRow => hLimit ((hMem row).mp hRow).2

end Snapshot

/-- Whatever was written and receipted, the lanes of a key hold its versions, each under its own
recorded time, and for a specification it accepts the snapshot statement returns for the key the newest
version whose receipt was stamped by the cutoff, as it was written. -/
theorem point_in_time_bars_of_history (run : ReflTransGen BarStep Archive.empty a) (key : BarKey) :
    (∀ v, v ∈ a.tables.lanes ∧ v.key = key ↔ v ∈ a.lane key) ∧
    (∀ v ∈ a.tables.lanes, ∀ w ∈ a.tables.lanes, v.key = key → w.key = key →
      v.recordedAt = w.recordedAt → v = w) ∧
    ∀ (text : SymbolText) (policy : ForecastSnapshotBuildPolicy) (arg : SpecArgument) (spec : SnapshotBuildSpec),
      policy.validateSpec text arg = .ok spec → policy.InSeries spec.symbol key →
      (a.newerKeys policy spec key.ts).length < policy.observationLimit →
      ∃ rows, pointInTimeBars text arg policy a.tables = .ok rows ∧
        (rows.filter fun row => decide (row.version.key = key)) =
          (a.newestRow closeVersion key spec.asOf.micros).toList := by
  have inv := archived_of_run run
  refine ⟨?_, ?_, ?_⟩
  · intro v
    rw [inv.mem_lanes_iff, Archive.mem_lane_iff]
  · intro v hv w hw hvKey hwKey hSame
    exact (inv.chain key).unique v (Archive.mem_lane_iff.mpr ⟨inv.mem_lanes_iff.mp hv, hvKey⟩) w
      (Archive.mem_lane_iff.mpr ⟨inv.mem_lanes_iff.mp hw, hwKey⟩) hSame
  · intro text policy arg spec valid series hLimit
    refine ⟨_, pointInTimeBars_of_valid valid a.tables, ?_⟩
    rw [inv.limitedBarVersions_filter series, if_pos hLimit]

/-- Text functions that are right on upper-case symbols. -/
def upperText : SymbolText := ⟨id, id⟩

def spyArgument (micros : Nat) (inRange : micros < maxDays * dayMicros) : SpecArgument :=
  ⟨"SPY", "close", "trading_day", Instant.inUtc ⟨micros, inRange⟩⟩

theorem validateSpec_spy (micros : Nat) (inRange : micros < maxDays * dayMicros) :
    defaultSnapshotBuildPolicy.validateSpec upperText (spyArgument micros inRange) =
      .ok ⟨"SPY", "close", "trading_day", ⟨micros, inRange⟩⟩ := by
  have hAllowed : "SPY" ∈ defaultSnapshotBuildPolicy.allowedSymbols := by decide
  exact validateSpec_eq_ok_iff.mpr
    ⟨rfl, hAllowed, ⟨rfl, rfl⟩, ⟨rfl, rfl⟩, Instant.toInstant_inUtc _⟩

theorem point_in_time_bars_of_history_restated :
    ∃ rows, pointInTimeBars upperText (spyArgument 6 (by decide)) defaultSnapshotBuildPolicy
        restatedArchive.tables = .ok rows ∧
      (rows.filter fun row => decide (row.version.key = restatedKey)) = [⟨⟨restatedKey, 5, 1, 1, 2⟩, 3⟩] := by
  obtain ⟨rows, hRows, hFilter⟩ := (point_in_time_bars_of_history restatedArchive_run restatedKey).2.2
    upperText defaultSnapshotBuildPolicy _ _ (validateSpec_spy 6 (by decide)) (by decide) (by decide)
  exact ⟨rows, hRows, hFilter.trans (by decide)⟩

end StockApi.Bars

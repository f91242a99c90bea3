import StockApi.Bars.PointInTime

/-!
# The three selectors agree

The outcome statement and the factor statement return the row of the newest visible version; the
snapshot statement returns it as well, unless its observation limit is used up by later keys.
-/

namespace StockApi.Bars

open Checked CivilTime Relational VersionChain Relation

variable {a : Archive}

/-! ## The outcome statement -/

section Outcome

variable {request : OutcomeResolutionRequest}

/-- The statement selects one key, so nothing but its newest visible version has rank one. -/
theorem Archived.rankOne_outcome (inv : Archived a) :
    rankOne (fun r => r.version.recordedAt) (outcomeBarVersions request a.tables) =
      (a.newestRow closeVersion request.key request.resolutionCutoff).toList := by
  have hNodup : (outcomeBarVersions request a.tables).Nodup := by
    refine inv.visibleRows_nodup ?_ ?_
    · exact fun _ => rfl
    · exact fun _ => rfl
  have hKeys : ∀ row ∈ outcomeBarVersions request a.tables, row.version.key = request.key := by
    intro row hMem
    have hStored : ∃ v ∈ a.written, decide (v.key = request.key) = true ∧
        visibleRow closeVersion a.tables request.resolutionCutoff v = some row := by
      refine (inv.mem_visibleRows_iff ?_ ?_).mp hMem
      · exact fun _ => rfl
      · exact fun _ => rfl
    obtain ⟨v, -, hKeep, hRow⟩ := hStored
    rw [key_of_visibleRow hRow]
    exact of_decide_eq_true hKeep
  have hUnique : ∀ x ∈ outcomeBarVersions request a.tables,
      ∀ y ∈ outcomeBarVersions request a.tables,
        x.version.recordedAt = y.version.recordedAt → x = y := by
    intro x hx y hy hSame
    refine inv.visibleRow_unique ?_ ?_ hx hy ((hKeys x hx).trans (hKeys y hy).symm) hSame
    · exact fun _ => rfl
    · exact fun _ => rfl
  have hAll : ((outcomeBarVersions request a.tables).filter
      fun row => decide (row.version.key = request.key)) = outcomeBarVersions request a.tables :=
    List.filter_eq_self.mpr fun row hMem => decide_eq_true (hKeys row hMem)
  rw [rankOne_eq_toList hNodup hUnique, ← hAll]
  refine congrArg Option.toList (inv.latest_visible ?_ ?_ (fun _ _ h => h) ?_)
  · exact fun _ => rfl
  · exact fun _ => rfl
  · exact fun v hLane _ => decide_eq_true (Archive.mem_lane_iff.mp hLane).2

/-- The statement never returns a second row. -/
theorem Archived.exactBarVersion_eq (inv : Archived a) :
    exactBarVersion request a.tables =
      (a.newestRow closeVersion request.key request.resolutionCutoff).toList := by
  rw [exactBarVersion, inv.rankOne_outcome]
  cases a.newestRow closeVersion request.key request.resolutionCutoff with
  | none => simp [orderDesc]
  | some row => simp [orderDesc]

end Outcome

/-! ## The factor statement -/

section Factor

variable {spec : AdjustmentFactorBuildSpec}

theorem AdjustmentFactorBuildSpec.Covers.eq_of_ts {k l : BarKey} (hk : spec.Covers k)
    (hl : spec.Covers l) (h : k.ts = l.ts) : k = l := by
  obtain ⟨hSymbol, hTimespan, hMultiplier, hSource, hBasis, -⟩ := hk
  obtain ⟨hSymbol', hTimespan', hMultiplier', hSource', hBasis', -⟩ := hl
  obtain ⟨symbol, timespan, multiplier, ts, source, basis⟩ := k
  obtain ⟨symbol', timespan', multiplier', ts', source', basis'⟩ := l
  simp only at *
  subst_vars
  rfl

def factorOrder (r : Visible FactorVersion) : Lex (Int × Int) :=
  toLex (r.version.recordedAt, r.availableAt)

theorem Archived.mem_factor_iff (inv : Archived a) {row : Visible FactorVersion} :
    row ∈ rowNumberOne (fun r => r.version.key.ts) factorOrder (factorBarVersions spec a.tables) ↔
      spec.Covers row.version.key ∧
        a.newestRow factorVersion row.version.key spec.cutoff.micros = some row := by
  refine inv.rowNumberOne_iff ?_ ?_ ?_ spec.Covers ?_ (fun k l hk hl => hk.eq_of_ts hl) ?_
  · exact fun _ => rfl
  · exact fun _ => rfl
  · intro x y h
    exact Prod.Lex.toLex_lt_toLex.mpr (Or.inl h)
  · exact fun v hKeep => of_decide_eq_true hKeep
  · intro k hk v hLane _
    rw [decide_eq_true_eq, (Archive.mem_lane_iff.mp hLane).2]
    exact hk

theorem Archived.factorBarVersions_nodup (inv : Archived a) :
    (factorBarVersions spec a.tables).Nodup := by
  refine inv.visibleRows_nodup ?_ ?_
  · exact fun _ => rfl
  · exact fun _ => rfl

/-- No two visible versions of a session are recorded at the same time. -/
theorem Archived.countP_factor (inv : Archived a) {row : Visible FactorVersion}
    (h : row ∈ factorBarVersions spec a.tables) :
    ((factorBarVersions spec a.tables).countP fun other =>
      decide (other.version.key.ts = row.version.key.ts ∧
        other.version.recordedAt = row.version.recordedAt)) = 1 := by
  have hCovers : ∀ r ∈ factorBarVersions spec a.tables, spec.Covers r.version.key := by
    intro r hMem
    have hStored : ∃ v ∈ a.written, decide (spec.Covers v.key) = true ∧
        visibleRow factorVersion a.tables spec.cutoff.micros v = some r := by
      refine (inv.mem_visibleRows_iff ?_ ?_).mp hMem
      · exact fun _ => rfl
      · exact fun _ => rfl
    obtain ⟨v, -, hKeep, hRow⟩ := hStored
    rw [key_of_visibleRow hRow]
    exact of_decide_eq_true hKeep
  have hOnly : ((factorBarVersions spec a.tables).filter fun other =>
      decide (other.version.key.ts = row.version.key.ts ∧
        other.version.recordedAt = row.version.recordedAt)) = (some row).toList := by
    refine eq_toList_of_mem_iff (inv.factorBarVersions_nodup.filter _) fun other => ?_
    rw [List.mem_filter, decide_eq_true_eq, Option.some.injEq]
    constructor
    · rintro ⟨hOther, hTs, hRecorded⟩
      refine inv.visibleRow_unique ?_ ?_ h hOther ?_ hRecorded.symm
      · exact fun _ => rfl
      · exact fun _ => rfl
      · exact ((hCovers other hOther).eq_of_ts (hCovers row h) hTs).symm
    · rintro rfl
      exact ⟨h, rfl, rfl⟩
  rw [List.countP_eq_length_filter, hOnly, Option.toList_some, List.length_singleton]

theorem Archived.mem_orderedFactorRows_iff (inv : Archived a) {row : FactorRow} :
    row ∈ orderedFactorRows spec a.tables ↔ row.greatestCount = 1 ∧
      spec.Covers row.chosen.version.key ∧
        a.newestRow factorVersion row.chosen.version.key spec.cutoff.micros = some row.chosen := by
  have hRanked : ∀ r ∈ rowNumberOne (fun r => r.version.key.ts) factorOrder
      (factorBarVersions spec a.tables), r ∈ factorBarVersions spec a.tables :=
    fun r hMem => (List.mem_filter.mp (mem_of_latestBy (mem_rowNumberOne_iff.mp hMem))).1
  rw [orderedFactorRows, List.mem_map]
  constructor
  · rintro ⟨r, hMem, rfl⟩
    have hRow := (List.mergeSort_perm _ _).mem_iff.mp hMem
    exact ⟨inv.countP_factor (hRanked r hRow), inv.mem_factor_iff.mp hRow⟩
  · obtain ⟨r, count⟩ := row
    rintro ⟨rfl, h⟩
    have hRow := inv.mem_factor_iff.mpr h
    refine ⟨r, (List.mergeSort_perm _ _).mem_iff.mpr hRow, ?_⟩
    rw [inv.countP_factor (hRanked r hRow)]

theorem Archived.orderedFactorRows_filter (inv : Archived a) {k : BarKey} (covers : spec.Covers k) :
    ((orderedFactorRows spec a.tables).filter fun row => decide (row.chosen.version.key = k)) =
      ((a.newestRow factorVersion k spec.cutoff.micros).map fun row => FactorRow.mk row 1).toList := by
  refine eq_toList_of_mem_iff ?_ fun row => ?_
  · refine List.Nodup.filter _ (List.Nodup.map ?_ ?_)
    · exact fun x y h => congrArg FactorRow.chosen h
    · exact (List.mergeSort_perm _ _).nodup_iff.mpr (rowNumberOne_nodup inv.factorBarVersions_nodup)
  · rw [List.mem_filter, decide_eq_true_eq, inv.mem_orderedFactorRows_iff, Option.map_eq_some_iff]
    constructor
    · rintro ⟨⟨hCount, -, hRow⟩, rfl⟩
      exact ⟨row.chosen, hRow, by rw [← hCount]⟩
    · rintro ⟨chosen, hRow, rfl⟩
      obtain ⟨v, -, hKey, hProjected, -⟩ := inv.newestRow_mem hRow
      have hRowKey : chosen.version.key = k := by rw [hProjected]; exact hKey
      rw [hRowKey]
      exact ⟨⟨rfl, covers, hRow⟩, rfl⟩

end Factor

/-! ## Agreement -/

/-- At every cutoff the outcome statement and the factor statement choose the newest visible
version of a session close, each exactly once; the factor statement for every specification it accepts.
The snapshot statement, for a specification its policy accepts, chooses it too, unless
`observation_limit` later keys of its series have a visible version; then it has no row for it. -/
theorem selectors_agree (run : ReflTransGen BarStep Archive.empty a)
    (request : OutcomeResolutionRequest) :
    exactBarVersion request a.tables =
      (a.newestRow closeVersion request.key request.resolutionCutoff).toList ∧
    (∀ (text : SymbolText) (arg : FactorSpecArgument) (spec : AdjustmentFactorBuildSpec),
      validateFactorSpec text arg = .ok spec → spec.cutoff.micros = request.resolutionCutoff →
      ∃ rows, factorRawInputs text arg a.tables = .ok rows ∧
        (∀ row ∈ rows, row.greatestCount = 1) ∧
        (spec.Covers request.key →
          (rows.filter fun row => decide (row.chosen.version.key = request.key)) =
            ((a.newestRow factorVersion request.key request.resolutionCutoff).map
              fun row => FactorRow.mk row 1).toList)) ∧
    ∀ (text : SymbolText) (policy : ForecastSnapshotBuildPolicy) (arg : SpecArgument) (spec : SnapshotBuildSpec),
      policy.validateSpec text arg = .ok spec → spec.asOf.micros = request.resolutionCutoff →
      policy.InSeries spec.symbol request.key →
      ∃ rows, pointInTimeBars text arg policy a.tables = .ok rows ∧
        (rows.filter fun row => decide (row.version.key = request.key)) =
          if policy.observationLimit ≤ (a.newerKeys policy spec request.targetTime).length
          then [] else exactBarVersion request a.tables := by
  have inv := archived_of_run run
  refine ⟨inv.exactBarVersion_eq, ?_, ?_⟩
  · intro text arg spec valid hCutoff
    refine ⟨_, factorRawInputs_of_valid valid a.tables, ?_⟩
    rw [← hCutoff]
    exact ⟨fun row hMem => (inv.mem_orderedFactorRows_iff.mp hMem).1, inv.orderedFactorRows_filter⟩
  · intro text policy arg spec valid hCutoff series
    refine ⟨_, pointInTimeBars_of_valid valid a.tables, ?_⟩
    rw [inv.limitedBarVersions_filter series, inv.exactBarVersion_eq, hCutoff]
    simp only [← not_lt, ite_not]
    rfl

/-! ## A restated session -/

theorem session_inRange : 63839826000000008 < maxDays * dayMicros := by decide

def sessionCutoff : Instant := ⟨63839826000000008, session_inRange⟩

def sessionClose : Visible CloseVersion :=
  ⟨⟨sessionKey, 5, sessionTime 1, sessionTime 1, sessionTime 2⟩, sessionTime 3⟩

/-- The restatement has no receipt, so that the three statements choose the first version. -/
theorem selectors_agree_restated :
    exactBarVersion ⟨"SPY", sessionTime 0, sessionTime 8⟩ restatedSession.tables = [sessionClose] ∧
    (∃ rows, factorRawInputs upperText
          ⟨"SPY", sessionCutoff.date, sessionCutoff.date, sessionCutoff.inUtc⟩ restatedSession.tables = .ok rows ∧
      (rows.filter fun row => decide (row.chosen.version.key = sessionKey)) =
        [⟨⟨⟨sessionKey, sessionTime 2, 5⟩, sessionTime 3⟩, 1⟩]) ∧
    ∃ rows, pointInTimeBars upperText (spyArgument 63839826000000008 session_inRange) defaultSnapshotBuildPolicy
        restatedSession.tables = .ok rows ∧
      (rows.filter fun row => decide (row.version.key = sessionKey)) = [sessionClose] := by
  have hRun : ReflTransGen BarStep Archive.empty restatedSession :=
    sessionArchive_run.tail ⟨_, restatedSession_write⟩
  obtain ⟨hOutcome, hFactor, hSnapshot⟩ := selectors_agree hRun ⟨"SPY", sessionTime 0, sessionTime 8⟩
  have hExact : exactBarVersion ⟨"SPY", sessionTime 0, sessionTime 8⟩ restatedSession.tables = [sessionClose] :=
    hOutcome.trans (by decide)
  refine ⟨hExact, ?_, ?_⟩
  · obtain ⟨rows, hRows, -, hFilter⟩ := hFactor upperText
      ⟨"SPY", sessionCutoff.date, sessionCutoff.date, sessionCutoff.inUtc⟩
      ⟨"SPY", sessionCutoff.date, sessionCutoff.date, sessionCutoff⟩
      (validateFactorSpec_eq_ok_iff.mpr ⟨⟨rfl, rfl, by decide, by decide⟩, ⟨rfl, rfl⟩, by decide,
        Instant.toInstant_inUtc _⟩) rfl
    exact ⟨rows, hRows, (hFilter (by decide)).trans (by decide)⟩
  · obtain ⟨rows, hRows, hFilter⟩ := hSnapshot upperText defaultSnapshotBuildPolicy _ _
      (validateSpec_spy 63839826000000008 session_inRange) rfl (by decide)
    refine ⟨rows, hRows, hFilter.trans ?_⟩
    rw [if_neg (by decide)]
    exact hExact

/-! ## Two years of sessions

One bar a day from the session close of 2024-01-02, each with its receipt. -/

def dailyTs (i : Nat) : Int := 63839826000000000 + i * 86400000000

def dailyKey (i : Nat) : BarKey := ⟨"SPY", "day", 1, dailyTs i, "polygon_open_close", "raw"⟩

def dailyRow (i : Nat) : BarRow := ⟨dailyKey i, ⟨1, 1, 1, 1, 0, none, none⟩, dailyTs i, dailyTs i⟩

def dailyBar (i : Nat) : Bar := stampInsert ⟨dailyTs i, 2 * i⟩ (dailyRow i)

def dailyReceipt (i : Nat) : Receipt := ⟨dailyKey i, dailyTs i, dailyTs i⟩

def dailyArchive (n : Nat) : Archive :=
  ⟨⟨(List.range n).map dailyBar, [], (List.range n).map dailyReceipt⟩, (List.range n).map dailyBar⟩

theorem dailyTs_inj {i j : Nat} : dailyTs i = dailyTs j ↔ i = j := by
  simp only [dailyTs]
  omega

theorem dailyKey_inj {i j : Nat} : dailyKey i = dailyKey j ↔ i = j := by
  simp [dailyKey, dailyTs_inj]

theorem dailyBar_checks (i : Nat) : (dailyBar i).Checks := by
  refine ⟨le_refl _, ?_, le_refl _, le_refl _, le_refl _, ?_⟩
  · show BarValues.Checks ⟨1, 1, 1, 1, 0, none, none⟩
    decide
  · exact Int.mul_nonneg (by decide) (Int.natCast_nonneg i)

theorem dailyKey_ne {i n : Nat} (h : i ∈ List.range n) : dailyKey i ≠ dailyKey n := by
  rw [ne_eq, dailyKey_inj]
  exact (List.mem_range.mp h).ne

theorem dailyArchive_run (n : Nat) : ReflTransGen BarStep Archive.empty (dailyArchive n) := by
  induction n with
  | zero => exact .refl
  | succ n ih =>
    have hFree : (dailyArchive n).tables.current (dailyRow n).key = none := by
      rw [BarTables.current, List.find?_eq_none]
      intro b hMem
      obtain ⟨i, hi, rfl⟩ := List.mem_map.mp hMem
      exact fun hSame => dailyKey_ne hi (of_decide_eq_true hSame)
    have hInsert : (dailyArchive n).write (.insert ⟨dailyTs n, 2 * n⟩ (dailyRow n)) =
        .ok ⟨⟨(List.range (n + 1)).map dailyBar, [], (List.range n).map dailyReceipt⟩,
          (List.range (n + 1)).map dailyBar⟩ := by
      rw [Archive.write, insertBar_of_new (dailyBar_checks n) hFree, List.range_succ, List.map_append]
      rfl
    have hReceipt : insertReceipt ⟨dailyTs n, 2 * n + 1⟩ (dailyKey n) (dailyTs n)
          ⟨(List.range (n + 1)).map dailyBar, [], (List.range n).map dailyReceipt⟩ =
        .ok (dailyArchive (n + 1)).tables := by
      have hStored : dailyBar n ∈ (BarTables.mk ((List.range (n + 1)).map dailyBar) []
          ((List.range n).map dailyReceipt)).lanes := by
        simp only [BarTables.lanes, List.filterMap_nil, List.append_nil]
        exact List.mem_map.mpr ⟨n, List.self_mem_range_succ, rfl⟩
      refine (insertReceipt_of_stored hStored rfl rfl ?_ ⟨le_refl 1, le_refl _⟩ ?_).trans ?_
      · intro w hw hKey _
        simp only [BarTables.lanes, List.filterMap_nil, List.append_nil] at hw
        obtain ⟨i, -, rfl⟩ := List.mem_map.mp hw
        obtain rfl : i = n := dailyKey_inj.mp hKey
        show (2 * i : Int) ≠ 2 * i + 1
        omega
      · intro r hr hSame
        obtain ⟨i, hi, rfl⟩ := List.mem_map.mp hr
        exact dailyKey_ne hi hSame.1
      · rw [dailyArchive, List.range_succ, List.map_append, List.map_append]
        rfl
    have hWrite : (Archive.mk ⟨(List.range (n + 1)).map dailyBar, [],
          (List.range n).map dailyReceipt⟩ ((List.range (n + 1)).map dailyBar)).write
            (.receipt ⟨dailyTs n, 2 * n + 1⟩ (dailyKey n) (dailyTs n)) =
        .ok (dailyArchive (n + 1)) := by
      rw [Archive.write, hReceipt]
      rfl
    exact (ih.tail ⟨_, hInsert⟩).tail ⟨_, hWrite⟩

theorem newestVisible_dailyArchive {i n : Nat} (h : i < n) {cutoff : Int} (hCutoff : dailyTs i ≤ cutoff) :
    ((dailyArchive n).newestVisible (dailyKey i) cutoff).isSome = true := by
  have hVisible : dailyBar i ∈ ((dailyArchive n).lane (dailyKey i)).filter
      fun v => ((dailyArchive n).tables.receiptBy cutoff v).isSome := by
    rw [List.mem_filter, Archive.mem_lane_iff, BarTables.receiptBy, List.find?_isSome]
    refine ⟨⟨List.mem_map.mpr ⟨i, List.mem_range.mpr h, rfl⟩, rfl⟩, dailyReceipt i, ?_, ?_⟩
    · exact List.mem_map.mpr ⟨i, List.mem_range.mpr h, rfl⟩
    · exact decide_eq_true ⟨rfl, rfl, hCutoff⟩
  exact Option.isSome_iff_exists.mpr (exists_latestBy (List.ne_nil_of_mem hVisible))

/-- The specification at the close of the last day. -/
def dailySpec (n : Nat) (inRange : 63839826000000000 + n * 86400000000 < maxDays * dayMicros) : SnapshotBuildSpec :=
  ⟨"SPY", "close", "trading_day", ⟨63839826000000000 + n * 86400000000, inRange⟩⟩

theorem dailySpec_micros {n : Nat} (inRange : 63839826000000000 + n * 86400000000 < maxDays * dayMicros) :
    ((dailySpec n inRange).asOf.micros : Int) = dailyTs n := by
  rw [dailySpec, dailyTs]
  push_cast
  rfl

/-- Every later day is a later key of the series. -/
theorem le_newerKeys_dailyArchive (n : Nat)
    (inRange : 63839826000000000 + n * 86400000000 < maxDays * dayMicros) :
    n ≤ ((dailyArchive (n + 1)).newerKeys defaultSnapshotBuildPolicy (dailySpec n inRange) (dailyTs 0)).length := by
  have hSubset : (List.range n).map (fun i => dailyKey (i + 1)) ⊆
      (dailyArchive (n + 1)).newerKeys defaultSnapshotBuildPolicy (dailySpec n inRange) (dailyTs 0) := by
    intro key hMem
    obtain ⟨i, hi, rfl⟩ := List.mem_map.mp hMem
    have hLess := List.mem_range.mp hi
    rw [Archive.newerKeys, List.mem_filter, List.mem_dedup, Bool.and_eq_true, decide_eq_true_eq, dailySpec_micros]
    refine ⟨List.mem_map.mpr ⟨dailyBar (i + 1), ?_, rfl⟩, ⟨⟨rfl, rfl, rfl, rfl, rfl⟩, ?_⟩, ?_⟩
    · exact List.mem_map.mpr ⟨i + 1, List.mem_range.mpr (by omega), rfl⟩
    · simp only [dailyKey, dailyTs]
      omega
    · refine newestVisible_dailyArchive (by omega) ?_
      simp only [dailyTs]
      omega
  have hNodup : ((List.range n).map fun i => dailyKey (i + 1)).Nodup := by
    refine List.nodup_range.map ?_
    intro i j hSame
    have := dailyKey_inj.mp hSame
    omega
  simpa using (List.subperm_of_subset hNodup hSubset).length_le

theorem daily_inRange : 63839826000000000 + 512 * 86400000000 < maxDays * dayMicros := by decide

/-- With the default limit of 512 observations the oldest of 513 session closes is chosen by the
outcome statement and left out by the snapshot statement. -/
theorem snapshot_leaves_out_oldest_close :
    ReflTransGen BarStep Archive.empty (dailyArchive 513) ∧
    exactBarVersion ⟨"SPY", dailyTs 0, dailyTs 512⟩ (dailyArchive 513).tables ≠ [] ∧
    ∃ rows, pointInTimeBars upperText (spyArgument (63839826000000000 + 512 * 86400000000) daily_inRange)
        defaultSnapshotBuildPolicy (dailyArchive 513).tables = .ok rows ∧
      (rows.filter fun row => decide (row.version.key = dailyKey 0)) = [] := by
  have inv := archived_of_run (dailyArchive_run 513)
  refine ⟨dailyArchive_run 513, ?_, _, pointInTimeBars_of_valid (validateSpec_spy _ daily_inRange) _, ?_⟩
  · have hVisible : ((dailyArchive 513).newestVisible (dailyKey 0) (dailyTs 512)).isSome = true :=
      newestVisible_dailyArchive (by decide) (by decide)
    rw [← inv.newestRow_isSome closeVersion] at hVisible
    obtain ⟨row, hRow⟩ := Option.isSome_iff_exists.mp hVisible
    rw [inv.exactBarVersion_eq]
    show (Archive.newestRow closeVersion _ (dailyKey 0) (dailyTs 512)).toList ≠ []
    rw [hRow, Option.toList_some]
    exact List.cons_ne_nil _ _
  · have hCount := le_newerKeys_dailyArchive 512 daily_inRange
    rw [inv.limitedBarVersions_filter ⟨rfl, rfl, rfl, rfl, rfl⟩, if_neg]
    exact not_lt.mpr hCount

end StockApi.Bars

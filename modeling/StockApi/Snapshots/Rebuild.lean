import StockApi.Bars.LaterWrites
import StockApi.Snapshots.Assembled
import Mathlib.Logic.Function.Basic

/-!
# Sealed snapshots stay reproducible

Builds and bar writes as transactions that hold the fence of their series to the end, in the order in
which they commit. A transaction that takes a fence reads a later clock than the one that held it before,
so once a build has committed, nothing it read at its cutoff can change.
-/

namespace StockApi.Snapshots.Builder

open Checked CivilTime SessionCalendar Documents Relational Text Relation
open Forecasts (TextRules)
open Bars (Archive Archived BarKey BarWrite LaterWithin SnapshotBuildSpec SpecArgument)

section Later

variable {runtime : BuildRuntime} {policy : ForecastSnapshotBuildPolicy} {spec : SnapshotBuildSpec}

/-- Writes after the cutoff leave a sealed row sealed. -/
theorem Sealed.later {a b : Archive} (inv : Archived a) {row : ForecastInputSnapshot} {checkedAt : Instant}
    (hSpec : validateSpec runtime policy (argument spec) = .ok spec)
    (later : ReflTransGen (LaterWithin
      (policy.toForecastSnapshotBuildPolicy.InSeries spec.symbol) spec.asOf.micros) a b)
    (h : Sealed runtime policy spec a.tables row checkedAt) : Sealed runtime policy spec b.tables row checkedAt := by
  obtain ⟨hValid, rows, payload, hRows, hRest⟩ := h
  refine ⟨hValid, rows, payload, ?_, hRest⟩
  rw [pointInTimeRows_of_spec hSpec] at hRows ⊢
  rw [Bars.limitedBarVersions_later inv later]
  exact hRows

end Later

/-! ## Transactions -/

/-- The parts of `bar_series_lock_id`. -/
structure SeriesLock where
  symbol : String
  source : String
  timespan : String
deriving DecidableEq

/-- The fence that a writer of a bar takes. -/
def lockOf (key : BarKey) : SeriesLock := ⟨key.symbol, key.source, key.timespan⟩

/-- The fence that a build takes. -/
def buildLock (spec : SnapshotBuildSpec) (policy : ForecastSnapshotBuildPolicy) : SeriesLock :=
  ⟨spec.symbol, policy.source, policy.inputTimespan⟩

/-- The tables, and the clock at the last release of every fence. -/
structure Database extends SnapshotStore where
  released : SeriesLock → Int

def Database.empty (clock : Int) : Database := ⟨⟨Archive.empty, []⟩, fun _ => clock⟩

def Database.release (d : Database) (lock : SeriesLock) (clock : Int) : SeriesLock → Int :=
  Function.update d.released lock clock

/-- The readings of a transaction that takes the fence after its last release. -/
structure ReadsAfter (d : Database) (lock : SeriesLock) (clock : ClockReadings) (released : Int) : Prop where
  acquired : d.released lock < clock.databaseNow.micros
  ordered : clock.databaseNow ≤ clock.checkedAt ∧ clock.checkedAt ≤ clock.sealedAt
  kept : clock.sealedAt.micros ≤ released

/-- One transaction. -/
inductive Transaction (runtime : BuildRuntime) : Database → Database → Prop
  /-- Bars or receipts of one series are written. -/
  | bars {d : Database} {lock : SeriesLock} {released : Int} {archive : Archive} (writes : List BarWrite)
      (held : ∀ w ∈ writes, lockOf w.key = lock ∧ d.released lock < w.tx.clock ∧ w.tx.clock ≤ released)
      (later : d.released lock ≤ released)
      (done : writes.foldlM Archive.write d.archive = .ok archive) :
      Transaction runtime d { d with archive, released := d.release lock released }
  | build {d : Database} {policy : ForecastSnapshotBuildPolicy} {arg : SpecArgument} {spec : SnapshotBuildSpec}
      {clock : ClockReadings} {released : Int} {result : SnapshotBuildResult} {store : SnapshotStore}
      (valid : validateSpec runtime policy arg = .ok spec)
      (reads : ReadsAfter d (buildLock spec policy) clock released)
      (done : Builder.build runtime policy arg clock d.toSnapshotStore = .ok (result, store)) :
      Transaction runtime d ⟨store, d.release (buildLock spec policy) released⟩
  /-- Another writer of the snapshot table. -/
  | snapshots {d : Database} {table : List ForecastInputSnapshot}
      (done : SnapshotStep runtime.sha256 d.snapshots table) : Transaction runtime d { d with snapshots := table }
  /-- A transaction that held a fence and stored nothing. -/
  | aborted {d : Database} {lock : SeriesLock} {released : Int} (later : d.released lock ≤ released) :
      Transaction runtime d { d with released := d.release lock released }

/-- What holds of every database. -/
structure DatabaseSound (runtime : BuildRuntime) (d : Database) : Prop where
  archived : Archived d.archive
  table : TableSound runtime.sha256 d.snapshots

section Runs

variable {runtime : BuildRuntime} {d e : Database}

@[simp] theorem release_self (lock : SeriesLock) (clock : Int) : d.release lock clock lock = clock :=
  Function.update_self ..

theorem release_mono {lock other : SeriesLock} {clock : Int} (h : d.released lock ≤ clock) :
    d.released other ≤ d.release lock clock other := by
  by_cases hSame : other = lock
  · rw [hSame, release_self]
    exact h
  · rw [Database.release, Function.update_of_ne hSame]

theorem ReadsAfter.later {lock : SeriesLock} {clock : ClockReadings} {released : Int}
    (h : ReadsAfter d lock clock released) : d.released lock ≤ released := by
  have hNow : clock.databaseNow.micros ≤ clock.sealedAt.micros :=
    Instant.le_iff.mp (h.ordered.1.trans h.ordered.2)
  have := h.acquired
  have := h.kept
  omega

/-- Writes under a fence are later than a cutoff of its series, and do not concern any other. -/
theorem later_of_writes {keys : BarKey → Prop} {cutoff : Int} {writes : List BarWrite} {a b : Archive}
    (late : ∀ w ∈ writes, keys w.key → cutoff < w.tx.clock)
    (h : writes.foldlM Archive.write a = .ok b) : ReflTransGen (LaterWithin keys cutoff) a b := by
  induction writes generalizing a with
  | nil =>
    cases h
    exact .refl
  | cons w rest ih =>
    rw [List.foldlM_cons, bind_eq_ok_iff] at h
    obtain ⟨next, hStep, hRest⟩ := h
    exact .head ⟨w, late w List.mem_cons_self, hStep⟩ (ih (fun w hw => late w (List.mem_cons_of_mem _ hw)) hRest)

theorem databaseSound_step (sound : DatabaseSound runtime d) (step : Transaction runtime d e) :
    DatabaseSound runtime e := by
  cases step with
  | bars writes held later done =>
    refine ⟨?_, sound.table⟩
    exact invariant_of_run Bars.archived_step (Bars.run_of_writes done) sound.archived
  | build valid reads done =>
    obtain ⟨spec, row, checkedAt, -, -, -, -, -, hArchive, hStore⟩ := build_eq_ok done
    rcases hStore with rfl | hStep
    · exact ⟨sound.archived, sound.table⟩
    · exact ⟨hArchive ▸ sound.archived, (snapshotStep_sound sound.table hStep).1⟩
  | snapshots done => exact ⟨sound.archived, (snapshotStep_sound sound.table done).1⟩
  | aborted later => exact ⟨sound.archived, sound.table⟩

theorem databaseSound_later (run : ReflTransGen (Transaction runtime) d e) (sound : DatabaseSound runtime d) :
    DatabaseSound runtime e :=
  invariant_of_run (fun a _ (sound : DatabaseSound runtime a) step => databaseSound_step sound step) run sound

theorem databaseSound_of_run {clock : Int} (run : ReflTransGen (Transaction runtime) (Database.empty clock) d) :
    DatabaseSound runtime d :=
  databaseSound_later run ⟨Bars.archived_empty, TableSound.empty⟩

/-- What a later database has of an earlier one: its rows, its clocks and what was visible at a cutoff. -/
structure Keeps (lock : SeriesLock) (keys : BarKey → Prop) (cutoff : Int) (d e : Database) : Prop where
  rows : ∀ row ∈ d.snapshots, row ∈ e.snapshots
  clocks : d.released lock ≤ e.released lock
  bars : ReflTransGen (LaterWithin keys cutoff) d.archive e.archive

theorem keeps_step {lock : SeriesLock} {keys : BarKey → Prop} {cutoff : Int} (sound : DatabaseSound runtime d)
    (fenced : ∀ key, keys key → lockOf key = lock) (passed : cutoff ≤ d.released lock)
    (step : Transaction runtime d e) : Keeps lock keys cutoff d e := by
  cases step with
  | bars writes held later done =>
    refine ⟨fun row hRow => hRow, release_mono later, later_of_writes (fun w hw hKey => ?_) done⟩
    obtain ⟨hLock, hClock, -⟩ := held w hw
    rw [← hLock, fenced _ hKey] at hClock
    omega
  | build valid reads done =>
    obtain ⟨spec, row, checkedAt, -, -, -, -, -, hArchive, hStore⟩ := build_eq_ok done
    refine ⟨?_, release_mono reads.later, hArchive ▸ .refl⟩
    rcases hStore with rfl | hStep
    · exact fun row hRow => hRow
    · exact fun row hRow => (snapshotStep_sound sound.table hStep).2.subset hRow
  | snapshots done => exact ⟨fun row hRow => (snapshotStep_sound sound.table done).2.subset hRow, le_rfl, .refl⟩
  | aborted later => exact ⟨fun row hRow => hRow, release_mono later, .refl⟩

theorem keeps_run {lock : SeriesLock} {keys : BarKey → Prop} {cutoff : Int} (sound : DatabaseSound runtime d)
    (fenced : ∀ key, keys key → lockOf key = lock) (passed : cutoff ≤ d.released lock)
    (run : ReflTransGen (Transaction runtime) d e) : Keeps lock keys cutoff d e := by
  induction run with
  | refl => exact ⟨fun row hRow => hRow, le_rfl, .refl⟩
  | tail before step ih =>
    have hSound := databaseSound_later before sound
    have hStep := keeps_step hSound fenced (passed.trans ih.clocks) step
    exact ⟨fun row hRow => hStep.rows row (ih.rows row hRow), ih.clocks.trans hStep.clocks,
      ih.bars.trans hStep.bars⟩

theorem lockOf_of_inSeries {policy : ForecastSnapshotBuildPolicy} {spec : SnapshotBuildSpec} (key : BarKey)
    (h : policy.toForecastSnapshotBuildPolicy.InSeries spec.symbol key) : lockOf key = buildLock spec policy := by
  obtain ⟨hSymbol, hTimespan, -, hSource, -⟩ := h
  rw [lockOf, buildLock, hSymbol, hSource, hTimespan]

/-- Once a build has committed, every later build of the same specification returns the same snapshot and
stores nothing, whatever restatements, bars, receipts and snapshots were committed in between. -/
theorem committed_builds_are_reproduced {start : Int} {before after later : Database}
    {policy : ForecastSnapshotBuildPolicy} {arg arg' : SpecArgument} {spec : SnapshotBuildSpec}
    {clock clock' : ClockReadings} {released released' : Int} {result : SnapshotBuildResult} {store : SnapshotStore}
    (run : ReflTransGen (Transaction runtime) (Database.empty start) before)
    (valid : validateSpec runtime policy arg = .ok spec)
    (reads : ReadsAfter before (buildLock spec policy) clock released)
    (built : build runtime policy arg clock before.toSnapshotStore = .ok (result, store))
    (committed : after = ⟨store, before.release (buildLock spec policy) released⟩)
    (rest : ReflTransGen (Transaction runtime) after later)
    (valid' : validateSpec runtime policy arg' = .ok spec)
    (reads' : ReadsAfter later (buildLock spec policy) clock' released') :
    build runtime policy arg' clock' later.toSnapshotStore =
      .ok ({ result with created := false }, later.toSnapshotStore) := by
  subst committed
  have sound := databaseSound_of_run run
  have soundAfter := databaseSound_step sound (.build valid reads built)
  obtain ⟨spec', row, checkedAt, hSpec, hNow, hMem, hSealed, hResult, hArchive, -⟩ := build_eq_ok built
  obtain rfl : spec' = spec := Except.ok.inj (hSpec.symm.trans valid)
  have hPassed : (spec'.asOf.micros : Int) ≤ released := by
    have hCutoff : (spec'.asOf.micros : Int) ≤ clock.databaseNow.micros := by exact_mod_cast hNow
    have hReadings : clock.databaseNow.micros ≤ clock.sealedAt.micros :=
      Instant.le_iff.mp (reads.ordered.1.trans reads.ordered.2)
    have := reads.kept
    omega
  have hClock : Database.released ⟨store, before.release (buildLock spec' policy) released⟩
      (buildLock spec' policy) = released := release_self ..
  have keeps : Keeps (buildLock spec' policy) (policy.toForecastSnapshotBuildPolicy.InSeries spec'.symbol)
      spec'.asOf.micros _ later := keeps_run soundAfter lockOf_of_inSeries (hPassed.trans_eq hClock.symm) rest
  have soundLater := databaseSound_later rest soundAfter
  have hLaterNow : spec'.asOf ≤ clock'.databaseNow := by
    have hAcquired := reads'.acquired
    have hClocks := keeps.clocks
    rw [hClock] at hClocks
    rw [Instant.le_iff]
    omega
  have hAgain := build_of_sealed soundLater.table valid' hLaterNow (keeps.rows row hMem)
    ((hArchive ▸ hSealed).later soundAfter.archived (validateSpec_argument valid) keeps.bars)
  rw [hAgain, hResult]
  rfl

end Runs

/-! ### A Monday that is restated -/

def mondayLock : SeriesLock := lockOf mondayKey

/-- After a transaction on the series of the Monday. -/
def mondayDatabase (archive : Archive) (rows : List ForecastInputSnapshot) (micros : Fin 1000) : Database :=
  ⟨⟨archive, rows⟩, (Database.empty 0).release mondayLock (afterMonday micros).micros⟩

theorem mondayDatabase_released (archive : Archive) (rows : List ForecastInputSnapshot) (micros : Fin 1000) :
    (mondayDatabase archive rows micros).released mondayLock = (afterMonday micros).micros :=
  release_self (d := Database.empty 0) mondayLock (afterMonday micros).micros

theorem mondayDatabase_release (archive : Archive) (rows : List ForecastInputSnapshot) (micros later : Fin 1000) :
    (mondayDatabase archive rows micros).release mondayLock (afterMonday later).micros =
      (mondayDatabase archive rows later).released :=
  Function.update_idem ..

theorem mondayDatabase_run :
    ReflTransGen (Transaction sampleRuntime) (Database.empty 0) (mondayDatabase mondayArchive [] 2) := by
  have hHeld : ∀ w ∈ mondayWrites, lockOf w.key = mondayLock ∧ (0 : Int) < w.tx.clock ∧
      w.tx.clock ≤ (afterMonday 2).micros := by
    decide +kernel
  have hDone : mondayWrites.foldlM Archive.write Archive.empty = .ok mondayArchive := by
    decide +kernel
  exact .single (.bars mondayWrites hHeld (by decide) hDone)

def restatingWrites : List BarWrite :=
  [.update ⟨(sampleClose 7).micros + 20, 9⟩ mondayKey
    ⟨mondayKey, ⟨2, 2, 2, 2, 0, none, none⟩, (sampleClose 7).micros + 20, (sampleClose 7).micros + 20⟩]

theorem committed_builds_are_reproduced_monday : ∃ (result : SnapshotBuildResult) (later : Database),
    later.archive ≠ mondayArchive ∧
    build sampleRuntime samplePolicy (argument mondaySpec) ⟨afterMonday 40, afterMonday 40, afterMonday 40⟩
      later.toSnapshotStore = .ok (result, later.toSnapshotStore) := by
  obtain ⟨row, -, hBuild⟩ := monday_build
  have hReads : ReadsAfter (mondayDatabase mondayArchive [] 2) mondayLock mondayClock (afterMonday 8).micros := by
    refine ⟨?_, ⟨Instant.le_iff.mpr le_rfl, Instant.le_iff.mpr (Nat.le_succ _)⟩, by decide +kernel⟩
    rw [mondayDatabase_released]
    decide +kernel
  obtain ⟨archive, hArchive, hRestated⟩ : ∃ archive,
      restatingWrites.foldlM Archive.write mondayArchive = .ok archive ∧ archive ≠ mondayArchive := by
    have hChanges : (restatingWrites.foldlM Archive.write mondayArchive).toOption.any (· ≠ mondayArchive) = true := by
      decide +kernel
    cases h : restatingWrites.foldlM Archive.write mondayArchive with
    | error e =>
      rw [h] at hChanges
      cases hChanges
    | ok archive =>
      rw [h] at hChanges
      exact ⟨archive, rfl, of_decide_eq_true hChanges⟩
  have hHeld : ∀ w ∈ restatingWrites, lockOf w.key = mondayLock ∧
      ((afterMonday 8).micros : Int) < w.tx.clock ∧ w.tx.clock ≤ (afterMonday 30).micros := by
    decide +kernel
  have hRest : Transaction sampleRuntime (mondayDatabase mondayArchive [row] 8)
      ⟨⟨archive, [row]⟩, (mondayDatabase mondayArchive [row] 8).release mondayLock (afterMonday 30).micros⟩ := by
    refine .bars restatingWrites ?_ ?_ hArchive
    · rw [mondayDatabase_released]
      exact hHeld
    · rw [mondayDatabase_released]
      decide +kernel
  rw [mondayDatabase_release] at hRest
  have hAgain : ReadsAfter (mondayDatabase archive [row] 30) mondayLock
      ⟨afterMonday 40, afterMonday 40, afterMonday 40⟩ (afterMonday 40).micros := by
    refine ⟨?_, ⟨le_rfl, le_rfl⟩, le_rfl⟩
    rw [mondayDatabase_released]
    decide +kernel
  have hCommitted : mondayDatabase mondayArchive [row] 8 =
      ⟨⟨mondayArchive, [row]⟩, (mondayDatabase mondayArchive [] 2).release mondayLock (afterMonday 8).micros⟩ := by
    rw [mondayDatabase_release]
    rfl
  exact ⟨_, _, hRestated, committed_builds_are_reproduced mondayDatabase_run mondaySpec_valid hReads hBuild hCommitted
    (.single hRest) mondaySpec_valid hAgain⟩

end StockApi.Snapshots.Builder

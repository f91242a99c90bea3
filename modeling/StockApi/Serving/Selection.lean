import Mathlib.Logic.Relation
import StockApi.Serving.Service

/-!
# Which snapshot answers

The table keeps its rows, and rows of one series have different cutoffs: the latest row of a series stays
until a newer one is sealed, and a pinned row stays for good.
-/

namespace StockApi.Serving

open Checked CivilTime Documents Relational Relation
open Forecasts (Literal TextRules)
open Snapshots (ForecastInputSnapshot SnapshotStep TableSound snapshotStep_sound)

section Selection

variable {sha256 : Bytes → String} {table : List ForecastInputSnapshot} {selector : ForecastInputSnapshotSelector}
  {row : ForecastInputSnapshot}

theorem eq_of_inSeries (sound : TableSound sha256 table) {a b : ForecastInputSnapshot} (ha : a ∈ table)
    (hb : b ∈ table) (series : selector.InSeries a) (series' : selector.InSeries b) (h : a.asOf = b.asOf) : a = b := by
  refine sound.eq_of_key ha hb ?_
  obtain ⟨hVersion, hHash, hSymbol, hTarget, hUnit, hBasis, hTimespan, hMultiplier⟩ := series
  obtain ⟨hVersion', hHash', hSymbol', hTarget', hUnit', hBasis', hTimespan', hMultiplier'⟩ := series'
  rw [Snapshots.ForecastInputSnapshotRecord.semanticKey, Snapshots.ForecastInputSnapshotRecord.semanticKey,
    Snapshots.SnapshotTerms.semanticKey, Snapshots.SnapshotTerms.semanticKey, hVersion, hHash, hSymbol, hTarget,
    hUnit, hBasis, hTimespan, hMultiplier, hVersion', hHash', hSymbol', hTarget', hUnit', hBasis', hTimespan',
    hMultiplier', h]

theorem latestSnapshot_eq_some_iff (sound : TableSound sha256 table) {cutoff : Option Instant}
    {trusted : Option String} : latestSnapshot selector cutoff trusted table = some row ↔
      (row ∈ table ∧ selector.Selects cutoff trusted row) ∧
        ∀ other ∈ table, selector.Selects cutoff trusted other → other.asOf ≤ row.asOf := by
  rw [latestSnapshot, latestBy_eq_some_iff]
  · simp only [List.mem_filter, decide_eq_true_eq, and_imp]
  · intro a ha b hb hSame
    rw [List.mem_filter, decide_eq_true_eq] at ha hb
    exact eq_of_inSeries sound ha.1 hb.1 ha.2.1 hb.2.1 hSame

theorem latestSnapshot_isSome {cutoff : Option Instant} {trusted : Option String} (hMem : row ∈ table)
    (selects : selector.Selects cutoff trusted row) : ∃ found, latestSnapshot selector cutoff trusted table =
      some found :=
  exists_latestBy (List.ne_nil_of_mem (List.mem_filter.mpr ⟨hMem, decide_eq_true selects⟩))

theorem getSnapshot_eq_some_iff (sound : TableSound sha256 table) {snapshotId : String} :
    getSnapshot snapshotId table = some row ↔ row ∈ table ∧ row.snapshotId = snapshotId := by
  constructor
  · intro h
    exact ⟨List.mem_of_find?_eq_some h, by simpa using List.find?_some h⟩
  · rintro ⟨hMem, rfl⟩
    obtain ⟨found, hFound⟩ : ∃ found, getSnapshot row.snapshotId table = some found := by
      rw [← Option.isSome_iff_exists, getSnapshot, List.find?_isSome]
      exact ⟨row, hMem, by simp⟩
    have hSame := List.find?_some hFound
    rw [decide_eq_true_eq] at hSame
    rw [hFound, sound.eq_of_id (List.mem_of_find?_eq_some hFound) hMem hSame]

end Selection

/-! ## Runs of the table -/

section Runs

variable {sha256 : Bytes → String} {table table' : List ForecastInputSnapshot}

theorem tableSound_of_run (run : ReflTransGen (SnapshotStep sha256) table table') (sound : TableSound sha256 table) :
    TableSound sha256 table' ∧ table ⊆ table' := by
  induction run with
  | refl => exact ⟨sound, fun _ h => h⟩
  | tail _ step ih =>
    obtain ⟨hSound, hSubset⟩ := snapshotStep_sound ih.1 step
    exact ⟨hSound, List.Subset.trans ih.2 hSubset.subset⟩

/-- A row that replaces the latest one is newer, and was not there before. -/
theorem latestSnapshot_of_run (run : ReflTransGen (SnapshotStep sha256) table table') (sound : TableSound sha256 table)
    {selector : ForecastInputSnapshotSelector} {cutoff : Option Instant} {trusted : Option String}
    {row : ForecastInputSnapshot} (h : latestSnapshot selector cutoff trusted table = some row) :
    latestSnapshot selector cutoff trusted table' = some row ∨
      ∃ newer, latestSnapshot selector cutoff trusted table' = some newer ∧ newer ∉ table ∧
        selector.Selects cutoff trusted newer ∧ row.asOf < newer.asOf := by
  obtain ⟨sound', kept⟩ := tableSound_of_run run sound
  obtain ⟨⟨hMem, hSelects⟩, hLatest⟩ := (latestSnapshot_eq_some_iff sound).mp h
  obtain ⟨found, hFound⟩ := latestSnapshot_isSome (kept hMem) hSelects
  obtain ⟨⟨hMem', hSelects'⟩, hLatest'⟩ := (latestSnapshot_eq_some_iff sound').mp hFound
  rcases (hLatest' row (kept hMem) hSelects).eq_or_lt with hSame | hNewer
  · left
    rwa [eq_of_inSeries sound' (kept hMem) hMem' hSelects.1 hSelects'.1 hSame]
  · right
    refine ⟨found, hFound, fun hOld => ?_, hSelects', hNewer⟩
    exact absurd (hLatest found hOld hSelects') (not_le.mpr hNewer)

end Runs

end StockApi.Serving

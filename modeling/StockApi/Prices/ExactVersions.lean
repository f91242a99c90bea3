import StockApi.Adjustment.FactorHistory
import StockApi.Adjustment.TotalReturn
import StockApi.Library.Documents
import StockApi.Prices.Reads

/-!
# Exact raw versions

The evidence of an adjusted read: the entries of a set with their receipts, and the versions they name, which
lie in up to three lanes at once.
-/

namespace StockApi.Prices

open Checked Relational Relation
open Bars (Archive Archived Bar BarRevision BarTables BarValues Receipt)
open Adjustment

/-! ## The statements -/

structure RawCandidate where
  ordinal : Nat
  values : BarValues
deriving DecidableEq

/-- The current, the previous and the incoming lane, joined to one entry. -/
def currentLane (t : BarTables) (e : FactorEntry) : List RawCandidate :=
  (t.bars.filter fun b => decide (b.key = e.key ∧ b.recordedAt = (e.versionRecordedAt.micros : Int))).map fun b =>
    ⟨e.ordinal, b.values⟩

def previousLane (t : BarTables) (e : FactorEntry) : List RawCandidate :=
  (t.revisions.filter fun r => decide (r.key = e.key ∧
    r.previousRecordedAt = some (e.versionRecordedAt.micros : Int))).map fun r => ⟨e.ordinal, r.previous⟩

def incomingLane (t : BarTables) (e : FactorEntry) : List RawCandidate :=
  (t.revisions.filter fun r => decide (r.key = e.key ∧
    r.incomingRecordedAt = some (e.versionRecordedAt.micros : Int))).map fun r => ⟨e.ordinal, r.incoming⟩

def buildExactRawVersionsStatement (t : BarTables) (f : FactorTables) (factorSetId : String) : List RawCandidate :=
  let entries := f.entriesOf factorSetId
  orderAsc (fun row => row.ordinal)
    (entries.flatMap (currentLane t) ++ entries.flatMap (previousLane t) ++ entries.flatMap (incomingLane t))

/-- The receipts an entry names. -/
def exactReceipts (t : BarTables) (e : FactorEntry) : List Receipt :=
  t.receipts.filter fun r => decide (r.key = e.key ∧ r.versionRecordedAt = (e.versionRecordedAt.micros : Int) ∧
    r.availableAt = (e.rawAvailableAt.micros : Int))

/-- The entries of a set joined to their receipts. -/
def loadFactorEntries (t : BarTables) (f : FactorTables) (factorSetId : String) : List FactorEntry :=
  orderAsc (fun e => e.ordinal) ((f.entriesOf factorSetId).flatMap fun e => (exactReceipts t e).map fun _ => e)

/-! ## The rows -/

/-- `_candidate_fingerprint`. -/
def candidateFingerprint (v : BarValues) : List (Option String) :=
  [some (Float64.ofValue v.opening).hex, some (Float64.ofValue v.high).hex, some (Float64.ofValue v.low).hex,
    some (Float64.ofValue v.close).hex, some (Float64.ofValue v.volume).hex,
    v.vwap.map fun w => (Float64.ofValue w).hex, v.tradeCount.map toString]

def rawVersion (e : FactorEntry) (v : BarValues) : RawOhlcvVersion where
  symbol := e.symbol
  timestamp := e.observedAt
  timespan := e.timespan
  multiplier := e.multiplier
  source := e.source
  adjustmentBasis := e.adjustmentBasis
  versionRecordedAt := e.versionRecordedAt
  availableAt := e.rawAvailableAt
  opening := v.opening
  high := v.high
  low := v.low
  close := v.close
  volume := v.volume
  vwap := v.vwap
  tradeCount := v.tradeCount

/-- The one version among the candidates of an entry. -/
def exactRawRow (candidates : List RawCandidate) (e : FactorEntry) : Except AppError RawOhlcvVersion :=
  match candidates.filter fun row => decide (row.ordinal = e.ordinal) with
  | [] => .error .evidenceUnavailable
  | first :: rest => do
    refuseIf (∃ other ∈ rest, candidateFingerprint other.values ≠ candidateFingerprint first.values)
      AppError.evidenceUnavailable
    return rawVersion e first.values

/-- `_exact_raw_rows`. -/
def exactRawRows (entries : List FactorEntry) (candidates : List RawCandidate) :
    Except AppError (List RawOhlcvVersion) := do
  refuseIf (∃ row ∈ candidates, ¬ ∃ e ∈ entries, e.ordinal = row.ordinal) AppError.evidenceUnavailable
  entries.mapM (exactRawRow candidates)

/-! ## One entry -/

section Entry

variable {a : Archive} {e : FactorEntry}

/-- The version an entry names. -/
structure Names (a : Archive) (e : FactorEntry) (v : Bar) : Prop where
  written : v ∈ a.written
  key : v.key = e.key
  recordedAt : v.recordedAt = e.versionRecordedAt.micros

theorem Names.unique (inv : Archived a) {v w : Bar} (h : Names a e v) (h' : Names a e w) : v = w := by
  have hV : v ∈ a.lane e.key := Bars.Archive.mem_lane_iff.mpr ⟨h.written, h.key⟩
  have hW : w ∈ a.lane e.key := Bars.Archive.mem_lane_iff.mpr ⟨h'.written, h'.key⟩
  exact (inv.chain e.key).unique v hV w hW (h.recordedAt.trans h'.recordedAt.symm)

/-- A receipt names a version. -/
theorem exists_names (inv : Archived a) (h : exactReceipt a.tables e.toFactorEntryContent) : ∃ v, Names a e v := by
  obtain ⟨r, hMem, hKey, hRecorded, -⟩ := h
  obtain ⟨-, v, hWritten, hSameKey, hSameRecorded⟩ := inv.receipted r hMem
  exact ⟨v, hWritten, hSameKey.trans hKey, hSameRecorded.trans hRecorded⟩

/-- The three lanes of an entry hold its version and nothing else. -/
theorem mem_lanes_iff (inv : Archived a) {v : Bar} (h : Names a e v) {row : RawCandidate} :
    row ∈ currentLane a.tables e ∨ row ∈ previousLane a.tables e ∨ row ∈ incomingLane a.tables e ↔
      row = ⟨e.ordinal, v.values⟩ := by
  have hLane : ∀ w ∈ a.tables.lanes, w.key = e.key → w.recordedAt = e.versionRecordedAt.micros → w = v :=
    fun w hw hKey hRecorded => Names.unique inv ⟨inv.mem_lanes_iff.mp hw, hKey, hRecorded⟩ h
  constructor
  · rintro (hRow | hRow | hRow)
    · obtain ⟨b, hb, rfl⟩ := List.mem_map.mp hRow
      rw [List.mem_filter, decide_eq_true_eq] at hb
      have hMem : b ∈ a.tables.lanes := List.mem_append_left _ (List.mem_append_left _ hb.1)
      rw [hLane b hMem hb.2.1 hb.2.2]
    · obtain ⟨r, hr, rfl⟩ := List.mem_map.mp hRow
      rw [List.mem_filter, decide_eq_true_eq] at hr
      obtain ⟨hMem, hKey, hRecorded⟩ := hr
      have hSide : r.previousSide = some ⟨⟨r.key, r.previous, r.previousFetchedAt, r.previousAsOf⟩,
          e.versionRecordedAt.micros, r.previousCreatorXid⟩ := by
        rw [BarRevision.previousSide, hRecorded]
        rfl
      have hIn := List.mem_append_left (a.tables.revisions.filterMap BarRevision.incomingSide)
        (List.mem_append_right a.tables.bars (List.mem_filterMap.mpr ⟨r, hMem, hSide⟩))
      rw [← hLane _ hIn hKey rfl]
    · obtain ⟨r, hr, rfl⟩ := List.mem_map.mp hRow
      rw [List.mem_filter, decide_eq_true_eq] at hr
      obtain ⟨hMem, hKey, hRecorded⟩ := hr
      have hSide : r.incomingSide = some ⟨⟨r.key, r.incoming, r.incomingFetchedAt, r.incomingAsOf⟩,
          e.versionRecordedAt.micros, r.incomingCreatorXid⟩ := by
        rw [BarRevision.incomingSide, hRecorded]
        rfl
      have hIn := List.mem_append_right (a.tables.bars ++ a.tables.revisions.filterMap BarRevision.previousSide)
        (List.mem_filterMap.mpr ⟨r, hMem, hSide⟩)
      rw [← hLane _ hIn hKey rfl]
  · rintro rfl
    have hMem := inv.mem_lanes_iff.mpr h.written
    rw [BarTables.lanes, List.mem_append, List.mem_append, List.mem_filterMap, List.mem_filterMap] at hMem
    rcases hMem with (hBar | ⟨r, hMem, hSide⟩) | ⟨r, hMem, hSide⟩
    · exact Or.inl (List.mem_map.mpr ⟨v, List.mem_filter.mpr ⟨hBar, decide_eq_true ⟨h.key, h.recordedAt⟩⟩, rfl⟩)
    · have hKey := Bars.BarRevision.key_of_previousSide hSide
      obtain ⟨recordedAt, hRecorded, rfl⟩ := Option.map_eq_some_iff.mp hSide
      have hNamed : r.key = e.key ∧ r.previousRecordedAt = some (e.versionRecordedAt.micros : Int) :=
        ⟨h.key, hRecorded.trans (congrArg some h.recordedAt)⟩
      exact Or.inr (Or.inl (List.mem_map.mpr ⟨r, List.mem_filter.mpr ⟨hMem, decide_eq_true hNamed⟩, rfl⟩))
    · obtain ⟨recordedAt, hRecorded, rfl⟩ := Option.map_eq_some_iff.mp hSide
      have hNamed : r.key = e.key ∧ r.incomingRecordedAt = some (e.versionRecordedAt.micros : Int) :=
        ⟨h.key, hRecorded.trans (congrArg some h.recordedAt)⟩
      exact Or.inr (Or.inr (List.mem_map.mpr ⟨r, List.mem_filter.mpr ⟨hMem, decide_eq_true hNamed⟩, rfl⟩))

end Entry

/-! ## A stored set -/

section Stored

variable {runtime : Runtime} {decodePayload : Bytes → Except SqlError FactorPayload} {s t : FactorStore}
  {header : FactorSetHeader}

/-- An entry has one receipt, so that the join keeps it once. -/
theorem map_exactReceipts {a : Archive} {e : FactorEntry} (inv : Archived a)
    (h : exactReceipt a.tables e.toFactorEntryContent) : ((exactReceipts a.tables e).map fun _ => e) = [e] := by
  obtain ⟨r, hMem, hKey, hRecorded, hAvailable⟩ := h
  have hOnce : (exactReceipts a.tables e).Pairwise fun r s =>
      ¬ (r.key = s.key ∧ r.versionRecordedAt = s.versionRecordedAt) := inv.once.filter _
  have hIn : r ∈ exactReceipts a.tables e :=
    List.mem_filter.mpr ⟨hMem, decide_eq_true ⟨hKey, hRecorded, hAvailable⟩⟩
  have hAll : ∀ r ∈ exactReceipts a.tables e, r.key = e.key ∧ r.versionRecordedAt = e.versionRecordedAt.micros := by
    intro other hOther
    rw [exactReceipts, List.mem_filter, decide_eq_true_eq] at hOther
    exact ⟨hOther.2.1, hOther.2.2.1⟩
  match hFound : exactReceipts a.tables e with
  | [] =>
    rw [hFound] at hIn
    exact absurd hIn List.not_mem_nil
  | [_] => rfl
  | first :: second :: rest =>
    rw [hFound] at hOnce hAll
    have hFirst := hAll first List.mem_cons_self
    have hSecond := hAll second (List.mem_cons_of_mem _ List.mem_cons_self)
    have hDifferent := (List.pairwise_cons.mp hOnce).1 second List.mem_cons_self
    exact absurd ⟨hFirst.1.trans hSecond.1.symm, hFirst.2.trans hSecond.2.symm⟩ hDifferent

/-- The entries read for a stored set are its entries in order. -/
theorem loadFactorEntries_eq (sound : FactorsSound t) (h : header ∈ t.factors.headers) :
    loadFactorEntries t.archive.tables t.factors header.factorSetId = t.factors.entriesOf header.factorSetId := by
  have hJoin : ∀ e ∈ t.factors.entriesOf header.factorSetId,
      ((exactReceipts t.archive.tables e).map fun _ => e) = [e] :=
    fun e he => map_exactReceipts sound.archived (sound.receipted e (List.mem_of_mem_filter he)).1
  have hOrdered : (t.factors.entriesOf header.factorSetId).Pairwise fun e e' => e.ordinal < e'.ordinal := by
    rw [← List.pairwise_map, sound.whole header h]
    exact List.pairwise_lt_range
  rw [loadFactorEntries, List.flatMap_congr hJoin, List.flatMap_singleton', orderAsc_eq_self hOrdered]

theorem mem_statement_iff {tables : BarTables} {f : FactorTables} {factorSetId : String} {row : RawCandidate} :
    row ∈ buildExactRawVersionsStatement tables f factorSetId ↔ ∃ e ∈ f.entriesOf factorSetId,
      row ∈ currentLane tables e ∨ row ∈ previousLane tables e ∨ row ∈ incomingLane tables e := by
  rw [buildExactRawVersionsStatement, orderAsc_perm.mem_iff, List.mem_append, List.mem_append, List.mem_flatMap,
    List.mem_flatMap, List.mem_flatMap]
  constructor
  · rintro ((⟨e, he, hRow⟩ | ⟨e, he, hRow⟩) | ⟨e, he, hRow⟩)
    · exact ⟨e, he, Or.inl hRow⟩
    · exact ⟨e, he, Or.inr (Or.inl hRow)⟩
    · exact ⟨e, he, Or.inr (Or.inr hRow)⟩
  · rintro ⟨e, he, hRow | hRow | hRow⟩
    · exact Or.inl (Or.inl ⟨e, he, hRow⟩)
    · exact Or.inl (Or.inr ⟨e, he, hRow⟩)
    · exact Or.inr ⟨e, he, hRow⟩

theorem exists_zip_of_forall₂ {α β : Type} {R : α → β → Prop} {xs : List α} {ys : List β} (h : List.Forall₂ R xs ys)
    {x : α} (hx : x ∈ xs) : ∃ pair ∈ xs.zip ys, pair.1 = x := by
  have hFst : (xs.zip ys).map Prod.fst = xs := List.map_fst_zip h.length_eq.le
  rw [← hFst] at hx
  obtain ⟨pair, hPair, rfl⟩ := List.mem_map.mp hx
  exact ⟨pair, hPair, rfl⟩

theorem forall₂_zip_self {α β : Type} {R : α → β → Prop} {P : α → α × β → Prop} {xs : List α} {ys : List β}
    (h : List.Forall₂ R xs ys) (holds : ∀ pair ∈ xs.zip ys, P pair.1 pair) : List.Forall₂ P xs (xs.zip ys) := by
  have hFst : (xs.zip ys).map Prod.fst = xs := List.map_fst_zip h.length_eq.le
  have hAll : List.Forall₂ (fun x pair => P x pair) ((xs.zip ys).map Prod.fst) (xs.zip ys) := by
    rw [List.forall₂_map_left_iff, List.forall₂_same]
    exact holds
  rwa [hFst] at hAll

/-- Candidates that are the values of one version give the row of that version. -/
theorem exactRawRow_eq {candidates : List RawCandidate} {e : FactorEntry} {v : Bar}
    (found : (⟨e.ordinal, v.values⟩ : RawCandidate) ∈ candidates)
    (same : ∀ row ∈ candidates, row.ordinal = e.ordinal → row.values = v.values) :
    exactRawRow candidates e = .ok (rawVersion e v.values) := by
  have hFound : (⟨e.ordinal, v.values⟩ : RawCandidate) ∈
      candidates.filter fun row => decide (row.ordinal = e.ordinal) :=
    List.mem_filter.mpr ⟨found, decide_eq_true rfl⟩
  have hSame : ∀ row ∈ candidates.filter fun row => decide (row.ordinal = e.ordinal), row.values = v.values :=
    fun row hRow => same row (List.mem_of_mem_filter hRow) (of_decide_eq_true (List.mem_filter.mp hRow).2)
  rw [exactRawRow]
  split
  · rename_i hNone
    rw [hNone] at hFound
    exact absurd hFound List.not_mem_nil
  · rename_i first rest hSome
    rw [hSome, List.forall_mem_cons] at hSame
    obtain ⟨hFirst, hRest⟩ := hSame
    rw [refuseIf_of_not, ok_bind, hFirst, pure_eq_ok]
    rintro ⟨other, hOther, hDifferent⟩
    exact hDifferent (by rw [hRest other hOther, hFirst])

/-- For every set that was stored at some time, and at every later time, each lane query finds the version an
entry names and no other, and the rows of the read are those versions in the order of the entries. -/
theorem stored_evidence_is_exact
    (run : ReflTransGen (FactorStep runtime decodePayload) FactorStore.empty s)
    (stored : header ∈ s.factors.headers) (later : ReflTransGen (FactorStep runtime decodePayload) s t) :
    ∃ entries versions, loadFactorEntries t.archive.tables t.factors header.factorSetId = entries ∧
      s.factors.entriesOf header.factorSetId = entries ∧
      entries.map (fun e => e.ordinal) = List.range header.inputCount ∧
      List.Forall₂ (fun e v => Names s.archive e v ∧ ∀ w, Names t.archive e w → w = v) entries versions ∧
      (∀ row, row ∈ buildExactRawVersionsStatement t.archive.tables t.factors header.factorSetId ↔
        ∃ pair ∈ entries.zip versions, row = ⟨pair.1.ordinal, pair.2.values⟩) ∧
      ∀ rows, rows.Perm (buildExactRawVersionsStatement t.archive.tables t.factors header.factorSetId) →
        exactRawRows entries rows = .ok ((entries.zip versions).map fun pair => rawVersion pair.1 pair.2.values) := by
  have hSound := factorsSound_of_run run
  have hLater := factorsSound_of_run (run.trans later)
  have hKeeps := keeps_run later
  have hMem : header ∈ t.factors.headers := hKeeps.headers.subset stored
  have hEntries := hKeeps.entries header stored
  obtain ⟨versions, hVersions⟩ : ∃ versions,
      List.Forall₂ (Names s.archive) (s.factors.entriesOf header.factorSetId) versions :=
    exists_forall₂ fun e he => exists_names hSound.archived (hSound.receipted e (List.mem_of_mem_filter he)).1
  have hNames : ∀ pair ∈ (s.factors.entriesOf header.factorSetId).zip versions, Names t.archive pair.1 pair.2 := by
    intro pair hPair
    have hName := List.forall₂_zip hVersions hPair
    exact ⟨hKeeps.written.subset hName.written, hName.key, hName.recordedAt⟩
  have hRows : ∀ row, row ∈ buildExactRawVersionsStatement t.archive.tables t.factors header.factorSetId ↔
      ∃ pair ∈ (s.factors.entriesOf header.factorSetId).zip versions, row = ⟨pair.1.ordinal, pair.2.values⟩ := by
    intro row
    rw [mem_statement_iff, hEntries]
    constructor
    · rintro ⟨e, he, hRow⟩
      obtain ⟨pair, hPair, rfl⟩ := exists_zip_of_forall₂ hVersions he
      exact ⟨pair, hPair, (mem_lanes_iff hLater.archived (hNames pair hPair)).mp hRow⟩
    · rintro ⟨pair, hPair, hRow⟩
      exact ⟨pair.1, (List.of_mem_zip hPair).1, (mem_lanes_iff hLater.archived (hNames pair hPair)).mpr hRow⟩
  have hWhole := hSound.whole header stored
  refine ⟨_, versions, (loadFactorEntries_eq hLater hMem).trans hEntries, rfl, hWhole, ?_, hRows, ?_⟩
  · apply List.Forall₂.imp _ hVersions
    intro e v hName
    refine ⟨hName, fun w hw => ?_⟩
    have hSame : Names t.archive e v := ⟨hKeeps.written.subset hName.written, hName.key, hName.recordedAt⟩
    exact Names.unique hLater.archived hw hSame
  · intro rows hPerm
    have hMemRows : ∀ row, row ∈ rows ↔ ∃ pair ∈ (s.factors.entriesOf header.factorSetId).zip versions,
        row = ⟨pair.1.ordinal, pair.2.values⟩ := fun row => hPerm.mem_iff.trans (hRows row)
    have hKnown : ¬ ∃ row ∈ rows, ¬ ∃ e ∈ s.factors.entriesOf header.factorSetId, e.ordinal = row.ordinal := by
      rintro ⟨row, hRow, hUnknown⟩
      obtain ⟨pair, hPair, rfl⟩ := (hMemRows row).mp hRow
      exact hUnknown ⟨pair.1, (List.of_mem_zip hPair).1, rfl⟩
    have hOrdinals : ((s.factors.entriesOf header.factorSetId).map fun e => e.ordinal).Nodup := by
      rw [hWhole]
      exact List.nodup_range
    rw [exactRawRows, refuseIf_of_not hKnown, ok_bind]
    apply mapM_of_forall₂
    rw [List.forall₂_map_right_iff]
    refine forall₂_zip_self hVersions fun pair hPair => ?_
    apply exactRawRow_eq ((hMemRows _).mpr ⟨pair, hPair, rfl⟩)
    intro row hRow hSame
    obtain ⟨other, hOther, rfl⟩ := (hMemRows row).mp hRow
    have hEntry : other.1 = pair.1 := List.inj_on_of_nodup_map hOrdinals (List.of_mem_zip hOther).1
      (List.of_mem_zip hPair).1 hSame
    have hVersion := Names.unique hLater.archived (hEntry ▸ hNames other hOther) (hNames pair hPair)
    rw [hVersion]

end Stored

/-! ## A set over a session that is restated -/

def tick (n : Fin 10) : CivilTime.Instant := ⟨63839826000000000 + n.val, by
  have := n.isLt
  unfold CivilTime.maxDays CivilTime.dayMicros
  omega⟩

def sampleRaw : PayloadRawInput :=
  ⟨(tick 0).date, tick 0, "day", 1, "polygon_open_close", "raw", tick 2, tick 3, "5", "4014000000000000"⟩

def samplePayload : FactorPayload :=
  ⟨"SPY", tick 4, (tick 0).date, sampleHash 'a', sampleHash 'b', [sampleRaw],
    [⟨0, "1", "3ff0000000000000", "1", "3ff0000000000000"⟩]⟩

/-- The payload as the kernel writes it. -/
def sampleDocument : Document :=
  factorSetDocument "sha256:f825ca4aa36725fb98a2697dd339b07275397711b0caaf488e9c87d70afd2b37"
    ⟨"SPY", tick 4, [], sampleHash 'a', [], sampleHash 'b', []⟩ (tick 0).date
    [⟨0, "1", "1", "3ff0000000000000", "3ff0000000000000"⟩]
    [.obj [("adjustment_basis", .plain "raw"), ("available_at", .plain (tick 3).timestamp),
      ("close_decimal", .plain "5"), ("close_f64_be", .plain "4014000000000000"), ("multiplier", .int 1),
      ("observation_date", .plain (tick 0).date.isoformat), ("observed_at", .plain (tick 0).timestamp),
      ("source", .plain "polygon_open_close"), ("timespan", .plain "day"),
      ("version_recorded_at", .plain (tick 2).timestamp)]]

/-- Its bytes; every character of it is ASCII. -/
def sampleBytes : Bytes :=
  (JsonText.write [] (Documents.toValue ⟨fun _ => 0, fun _ => ⟨false, 0, none, none⟩⟩ sampleDocument)).map fun c =>
    UInt8.ofNat c.toNat

def sampleEvidence : CollectionEvidence × CollectionEvidence := (⟨tick 0, tick 1⟩, ⟨tick 0, tick 1⟩)

def sampleCall : FactorCall :=
  ⟨⟨Bars.sessionTime 5, 9⟩, sampleBytes, fun _ => .ok sampleEvidence, fun _ => .ok ⟨⟩⟩

/-- The one payload that is read. -/
def sampleDecode (bytes : Bytes) : Except SqlError FactorPayload :=
  if bytes = sampleBytes then .ok samplePayload
  else .error ⟨"22023", "adjustment-factor payload is not UTF-8 JSON"⟩

def factorRuntime : Runtime := ⟨fun _ => [], fun _ => none, byteDigits, id, id⟩

def sampleSetId : String := "sha256:" ++ byteDigits sampleBytes

def sampleHeader : FactorSetHeader :=
  ⟨factorSetContent sampleSetId sampleBytes samplePayload sampleEvidence (tick 0).date (tick 0).date,
    Bars.sessionTime 5, 9⟩

def sampleFactors : FactorTables :=
  ⟨[sampleHeader], (payloadEntries sampleSetId samplePayload).map fun e => ⟨e, 9⟩, []⟩

theorem sample_publish : publishAdjustmentFactorSet factorRuntime sampleDecode sampleCall Bars.sessionArchive.tables
    ⟨[], [], []⟩ = .ok (sampleSetId, sampleFactors) := by decide +kernel

theorem run_of_bars {f : FactorTables} {a b : Archive} (run : ReflTransGen Bars.BarStep a b) :
    ReflTransGen (FactorStep factorRuntime sampleDecode) ⟨a, f⟩ ⟨b, f⟩ :=
  run.lift (fun archive => FactorStore.mk archive f) fun _ _ step => FactorStep.bars step

theorem sample_run :
    ReflTransGen (FactorStep factorRuntime sampleDecode) FactorStore.empty ⟨Bars.sessionArchive, sampleFactors⟩ :=
  (run_of_bars Bars.sessionArchive_run).tail (.publish sampleCall sample_publish)

theorem restated_run : ReflTransGen (FactorStep factorRuntime sampleDecode) ⟨Bars.sessionArchive, sampleFactors⟩
    ⟨Bars.restatedSession, sampleFactors⟩ :=
  run_of_bars (.single ⟨Bars.sessionRestatement, Bars.restatedSession_write⟩)

theorem stored_evidence_is_exact_restated :
    ∃ entries versions,
      loadFactorEntries Bars.restatedSession.tables sampleFactors sampleSetId = entries ∧
      sampleFactors.entriesOf sampleSetId = entries ∧
      List.Forall₂ (fun e v => Names Bars.sessionArchive e v ∧ ∀ w, Names Bars.restatedSession e w → w = v)
        entries versions ∧
      exactRawRows entries
          (buildExactRawVersionsStatement Bars.restatedSession.tables sampleFactors sampleSetId) =
        .ok ((entries.zip versions).map fun pair => rawVersion pair.1 pair.2.values) := by
  obtain ⟨entries, versions, hLoaded, hStored, -, hVersions, -, hRows⟩ :=
    stored_evidence_is_exact sample_run (List.mem_singleton_self sampleHeader) restated_run
  exact ⟨entries, versions, hLoaded, hStored, hVersions, hRows _ (List.Perm.refl _)⟩

end StockApi.Prices

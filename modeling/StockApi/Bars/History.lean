import StockApi.Bars.Tables
import StockApi.Library.VersionChain
import Mathlib.Logic.Relation

/-!
# Histories of bars

The tables with the list of all versions ever written. Whatever is written through the
triggers, the three lanes of a key hold exactly its versions, in a chain of growing recorded
times, and every receipt names one of them.
-/

namespace StockApi.Bars

open Checked Relational VersionChain Relation

/-- The tables, and the versions in the order they were written. -/
structure Archive where
  tables : BarTables
  written : List Bar
deriving DecidableEq

def Archive.empty : Archive := ⟨⟨[], [], []⟩, []⟩

/-- The versions of one key. -/
def Archive.lane (a : Archive) (key : BarKey) : List Bar := a.written.filter fun v => decide (v.key = key)

/-- The statements that write to the tables. -/
inductive BarWrite
  | insert (tx : DbCall) (row : BarRow)
  | update (tx : DbCall) (key : BarKey) (row : BarRow)
  | receipt (tx : DbCall) (key : BarKey) (versionRecordedAt : Int)

/-- A write that the triggers let through. A replay of equal values stores nothing. -/
def Archive.write (a : Archive) : BarWrite → Except SqlError Archive
  | .insert tx row => do
    let (b, t) ← insertBar tx row a.tables
    return ⟨t, a.written ++ [b]⟩
  | .update tx key row => do
    let (stored, t) ← updateBar tx key row a.tables
    return ⟨t, a.written ++ stored.toList⟩
  | .receipt tx key versionRecordedAt => do
    let t ← insertReceipt tx key versionRecordedAt a.tables
    return ⟨t, a.written⟩

def BarStep (a b : Archive) : Prop := ∃ w, a.write w = .ok b

theorem run_of_writes {writes : List BarWrite} {a b : Archive}
    (h : writes.foldlM Archive.write a = .ok b) : ReflTransGen BarStep a b := by
  induction writes generalizing a with
  | nil =>
    cases h
    exact .refl
  | cons w rest ih =>
    rw [List.foldlM_cons, bind_eq_ok_iff] at h
    obtain ⟨next, hStep, hRest⟩ := h
    exact .head ⟨w, hStep⟩ (ih hRest)

/-! ## What a write does -/

theorem insertBar_eq_ok {tx : DbCall} {row : BarRow} {b : Bar} {t t' : BarTables}
    (h : insertBar tx row t = .ok (b, t')) :
    b = stampInsert tx row ∧ b.Checks ∧ t.current row.key = none ∧
      t' = { t with bars := t.bars ++ [b] } := by
  rw [insertBar, refuseIf_bind_eq_ok_iff, refuseIf_bind_eq_ok_iff, pure_eq_ok] at h
  obtain ⟨hChecks, hNew, h⟩ := h
  cases h
  exact ⟨rfl, not_not.mp hChecks, by simpa using hNew, rfl⟩

theorem insertBar_of_new {tx : DbCall} {row : BarRow} {t : BarTables}
    (checks : (stampInsert tx row).Checks) (new : t.current row.key = none) :
    insertBar tx row t =
      .ok (stampInsert tx row, { t with bars := t.bars ++ [stampInsert tx row] }) := by
  rw [insertBar, refuseIf_of_not (not_not.mpr checks), ok_bind, refuseIf_of_not (by simp [new])]
  rfl

/-- An update keeps the tables, or stores a later version of the current row. -/
theorem updateBar_eq_ok {tx : DbCall} {key : BarKey} {row : BarRow} {stored : Option Bar}
    {t t' : BarTables} (h : updateBar tx key row t = .ok (stored, t')) :
    (stored = none ∧ t' = t) ∨
    ∃ old b, t.current key = some old ∧ stored = some b ∧ b.toBarRow = row ∧ b.key = old.key ∧
      b.values ≠ old.values ∧ (old.asOf < b.asOf ∧ old.fetchedAt < b.fetchedAt) ∧
      b.recordedAt = max tx.clock (old.recordedAt + 1) ∧ b.creatorXid = tx.txid ∧ b.Checks ∧
      t' = { t with bars := replaceBar t.bars b, revisions := t.revisions ++ [revisionOf old b] } := by
  unfold updateBar at h
  split at h
  · cases h
    exact Or.inl ⟨rfl, rfl⟩
  · rename_i old hOld
    rw [bind_eq_ok_iff] at h
    obtain ⟨result, hStamp, h⟩ := h
    unfold stampUpdate at hStamp
    split at hStamp
    · cases hStamp
    · rename_i hKey
      split at hStamp
      · cases hStamp
        cases h
        exact Or.inl ⟨rfl, rfl⟩
      · rename_i hValues
        split at hStamp
        · cases hStamp
        · rename_i hNewer
          cases hStamp
          simp only at h
          rw [storeVersion, refuseIf_bind_eq_ok_iff, refuseIf_bind_eq_ok_iff, pure_eq_ok] at h
          obtain ⟨-, hChecks, h⟩ := h
          cases h
          rw [not_or, not_le, not_le] at hNewer
          exact Or.inr ⟨old, _, hOld, rfl, rfl, (not_not.mp hKey).symm, Ne.symm hValues, hNewer, rfl,
            rfl, not_not.mp hChecks, rfl⟩

theorem insertReceipt_eq_ok {tx : DbCall} {key : BarKey} {versionRecordedAt : Int}
    {t t' : BarTables} (h : insertReceipt tx key versionRecordedAt t = .ok t') :
    (∃ v ∈ t.lanes, v.key = key ∧ v.recordedAt = versionRecordedAt) ∧
    (Receipt.mk key versionRecordedAt tx.clock).Checks ∧
    (∀ r ∈ t.receipts, ¬ (r.key = key ∧ r.versionRecordedAt = versionRecordedAt)) ∧
    t' = { t with receipts := t.receipts ++ [⟨key, versionRecordedAt, tx.clock⟩] } := by
  rw [insertReceipt, refuseIf_bind_eq_ok_iff, refuseIf_bind_eq_ok_iff, refuseIf_bind_eq_ok_iff,
    refuseIf_bind_eq_ok_iff, pure_eq_ok] at h
  obtain ⟨hStored, -, hChecks, hNew, h⟩ := h
  cases h
  exact ⟨not_not.mp hStored, not_not.mp hChecks, by simpa using hNew, rfl⟩

theorem insertReceipt_of_stored {tx : DbCall} {key : BarKey} {versionRecordedAt : Int}
    {t : BarTables} {v : Bar} (stored : v ∈ t.lanes) (hKey : v.key = key)
    (hRecorded : v.recordedAt = versionRecordedAt)
    (committed : ∀ w ∈ t.lanes, w.key = key → w.recordedAt = versionRecordedAt →
      w.creatorXid ≠ tx.txid)
    (checks : (Receipt.mk key versionRecordedAt tx.clock).Checks)
    (new : ∀ r ∈ t.receipts, ¬ (r.key = key ∧ r.versionRecordedAt = versionRecordedAt)) :
    insertReceipt tx key versionRecordedAt t =
      .ok { t with receipts := t.receipts ++ [⟨key, versionRecordedAt, tx.clock⟩] } := by
  have hCommitted : ¬ ∃ w ∈ t.lanes, w.key = key ∧ w.recordedAt = versionRecordedAt ∧
      w.creatorXid = tx.txid := by
    rintro ⟨w, hw, hwKey, hwRecorded, hSame⟩
    exact committed w hw hwKey hwRecorded hSame
  have hNew : ¬ ∃ r ∈ t.receipts, r.key = key ∧ r.versionRecordedAt = versionRecordedAt := by
    rintro ⟨r, hr, hSame⟩
    exact new r hr hSame
  rw [insertReceipt, refuseIf_of_not (not_not.mpr ⟨v, stored, hKey, hRecorded⟩), ok_bind,
    refuseIf_of_not hCommitted, ok_bind, refuseIf_of_not (not_not.mpr checks), ok_bind,
    refuseIf_of_not hNew]
  rfl

/-! ## The invariant -/

/-- A later version of the same bar. -/
structure Supersedes (old b : Bar) : Prop where
  recorded : old.recordedAt < b.recordedAt
  asOf : old.asOf < b.asOf
  fetched : old.fetchedAt < b.fetchedAt

theorem Supersedes.trans (a b c : Bar) (h : Supersedes a b) (h' : Supersedes b c) :
    Supersedes a c :=
  ⟨h.recorded.trans h'.recorded, h.asOf.trans h'.asOf, h.fetched.trans h'.fetched⟩

structure Archived (a : Archive) : Prop where
  current : ∀ k, (a.tables.bars.filter fun b => decide (b.key = k)) = (a.lane k).getLast?.toList
  revised : ∀ k, (a.tables.revisions.filter fun r => decide (r.key = k)) =
    (revisions (a.lane k)).map fun p => revisionOf p.1 p.2
  superseded : ∀ k, (a.lane k).Pairwise Supersedes
  checked : ∀ v ∈ a.written, v.Checks
  receipted : ∀ r ∈ a.tables.receipts, r.Checks ∧
    ∃ v ∈ a.written, v.key = r.key ∧ v.recordedAt = r.versionRecordedAt
  once : a.tables.receipts.Pairwise fun r s =>
    ¬ (r.key = s.key ∧ r.versionRecordedAt = s.versionRecordedAt)

theorem archived_empty : Archived Archive.empty where
  current k := rfl
  revised k := rfl
  superseded k := List.Pairwise.nil
  checked := by simp [Archive.empty]
  receipted := by simp [Archive.empty]
  once := List.Pairwise.nil

variable {a : Archive}

theorem Archive.mem_lane_iff {v : Bar} {k : BarKey} : v ∈ a.lane k ↔ v ∈ a.written ∧ v.key = k := by
  simp [Archive.lane]

theorem Archived.chain (inv : Archived a) (k : BarKey) : Chain (·.recordedAt) (a.lane k) :=
  (inv.superseded k).imp fun h => h.recorded

theorem Archived.current_eq (inv : Archived a) (k : BarKey) :
    a.tables.current k = (a.lane k).getLast? := by
  rw [BarTables.current, ← List.head?_filter, inv.current k]
  cases (a.lane k).getLast? <;> rfl

theorem BarRevision.key_of_previousSide {r : BarRevision} {v : Bar} (h : r.previousSide = some v) :
    v.key = r.key := by
  obtain ⟨recordedAt, -, rfl⟩ := Option.map_eq_some_iff.mp h
  rfl

theorem BarRevision.key_of_incomingSide {r : BarRevision} {v : Bar} (h : r.incomingSide = some v) :
    v.key = r.key := by
  obtain ⟨recordedAt, -, rfl⟩ := Option.map_eq_some_iff.mp h
  rfl

theorem previousSide_revisionOf (old b : Bar) : (revisionOf old b).previousSide = some old := rfl

theorem incomingSide_revisionOf {old b : Bar} (h : b.key = old.key) :
    (revisionOf old b).incomingSide = some b := by
  obtain ⟨⟨key, values, fetchedAt, asOf⟩, recordedAt, creatorXid⟩ := b
  simp only at h
  subst h
  rfl

theorem Archived.mem_revisions_iff (inv : Archived a) {r : BarRevision} :
    r ∈ a.tables.revisions ↔ ∃ p ∈ revisions (a.lane r.key), revisionOf p.1 p.2 = r := by
  have h : r ∈ a.tables.revisions ↔
      r ∈ a.tables.revisions.filter fun other => decide (other.key = r.key) := by simp
  rw [h, inv.revised, List.mem_map]

theorem Archive.key_eq {k : BarKey} {p : Bar × Bar} (h : p ∈ revisions (a.lane k)) : p.1.key = k ∧ p.2.key = k := by
  obtain ⟨hOld, hNew⟩ := mem_of_mem_revisions h
  exact ⟨(Archive.mem_lane_iff.mp hOld).2, (Archive.mem_lane_iff.mp hNew).2⟩

/-- The three lanes hold exactly the versions that were written. -/
theorem Archived.mem_lanes_iff (inv : Archived a) {v : Bar} : v ∈ a.tables.lanes ↔ v ∈ a.written := by
  have hLane : v ∈ a.written ↔ v ∈ a.lane v.key := by simp [Archive.mem_lane_iff]
  have hBars : v ∈ a.tables.bars ↔ (a.lane v.key).getLast? = some v := by
    have h : v ∈ a.tables.bars ↔ v ∈ a.tables.bars.filter fun b => decide (b.key = v.key) := by simp
    rw [h, inv.current, Option.mem_toList]
  have hPrevious : (∃ r ∈ a.tables.revisions, r.previousSide = some v) ↔
      ∃ p ∈ revisions (a.lane v.key), p.1 = v := by
    constructor
    · rintro ⟨r, hMem, hSide⟩
      obtain ⟨p, hp, rfl⟩ := inv.mem_revisions_iff.mp hMem
      rw [previousSide_revisionOf, Option.some.injEq] at hSide
      subst hSide
      exact ⟨p, hp, rfl⟩
    · rintro ⟨p, hp, rfl⟩
      exact ⟨revisionOf p.1 p.2, inv.mem_revisions_iff.mpr ⟨p, hp, rfl⟩, previousSide_revisionOf _ _⟩
  have hIncoming : (∃ r ∈ a.tables.revisions, r.incomingSide = some v) ↔
      ∃ p ∈ revisions (a.lane v.key), p.2 = v := by
    constructor
    · rintro ⟨r, hMem, hSide⟩
      have hKey := BarRevision.key_of_incomingSide hSide
      obtain ⟨p, hp, rfl⟩ := inv.mem_revisions_iff.mp hMem
      obtain ⟨hOld, hNew⟩ := Archive.key_eq hp
      rw [incomingSide_revisionOf (hNew.trans hOld.symm), Option.some.injEq] at hSide
      rw [hKey]
      exact ⟨p, hp, hSide⟩
    · rintro ⟨p, hp, rfl⟩
      obtain ⟨hOld, -⟩ := Archive.key_eq hp
      refine ⟨revisionOf p.1 p.2, inv.mem_revisions_iff.mpr ⟨p, ?_, rfl⟩,
        incomingSide_revisionOf hOld.symm⟩
      rwa [show (revisionOf p.1 p.2).key = p.2.key from hOld]
  rw [BarTables.lanes, List.mem_append, List.mem_append, List.mem_filterMap, List.mem_filterMap,
    hBars, hPrevious, hIncoming, hLane, mem_iff_lanes, or_assoc]

/-! ## One write -/

theorem lane_append (a : Archive) (b : Bar) (t : BarTables) (k : BarKey) :
    (Archive.mk t (a.written ++ [b])).lane k = if b.key = k then a.lane k ++ [b] else a.lane k := by
  rw [Archive.lane, List.filter_append]
  by_cases h : b.key = k <;> simp [h, Archive.lane]

theorem filter_replaceBar (bars : List Bar) (b : Bar) (k : BarKey) :
    ((replaceBar bars b).filter fun other => decide (other.key = k)) =
      if b.key = k then (bars.filter fun other => decide (other.key = k)).map fun _ => b
      else bars.filter fun other => decide (other.key = k) := by
  have hKept : ∀ other : Bar, (if other.key = b.key then b else other).key = other.key := by
    intro other
    split
    · rename_i hSame
      exact hSame.symm
    · rfl
  rw [replaceBar, List.filter_map]
  simp only [Function.comp_def, hKept]
  split
  · rename_i hKey
    refine List.map_congr_left fun other hMem => if_pos ?_
    rw [hKey]
    exact of_decide_eq_true (List.mem_filter.mp hMem).2
  · rename_i hKey
    refine (List.map_congr_left fun other hMem => if_neg fun hSame => hKey ?_).trans (List.map_id _)
    rw [← hSame]
    exact of_decide_eq_true (List.mem_filter.mp hMem).2

theorem Archived.insert (inv : Archived a) {tx : DbCall} {row : BarRow} {b : Bar} {t : BarTables}
    (done : insertBar tx row a.tables = .ok (b, t)) : Archived ⟨t, a.written ++ [b]⟩ := by
  obtain ⟨hStamp, hChecks, hNew, rfl⟩ := insertBar_eq_ok done
  have hRow : row.key = b.key := by rw [hStamp]; rfl
  rw [hRow, inv.current_eq, List.getLast?_eq_none_iff] at hNew
  constructor
  case current =>
    intro k
    rw [lane_append, List.filter_append, inv.current]
    by_cases hKey : b.key = k
    · subst hKey
      simp [hNew]
    · simp [hKey]
  case revised =>
    intro k
    rw [lane_append]
    by_cases hKey : b.key = k
    · subst hKey
      have hRevised := inv.revised b.key
      rw [hNew] at hRevised
      rw [if_pos rfl, hNew]
      exact hRevised
    · rw [if_neg hKey]
      exact inv.revised k
  case superseded =>
    intro k
    rw [lane_append]
    by_cases hKey : b.key = k
    · subst hKey
      rw [if_pos rfl, hNew]
      exact List.pairwise_singleton _ _
    · rw [if_neg hKey]
      exact inv.superseded k
  case checked =>
    intro v hMem
    rcases List.mem_append.mp hMem with hMem | hMem
    · exact inv.checked v hMem
    · rwa [List.mem_singleton.mp hMem]
  case receipted =>
    intro r hMem
    obtain ⟨hReceipt, v, hVersion, hSame⟩ := inv.receipted r hMem
    exact ⟨hReceipt, v, List.mem_append_left _ hVersion, hSame⟩
  case once => exact inv.once

theorem Archived.update (inv : Archived a) {tx : DbCall} {key : BarKey} {row : BarRow}
    {stored : Option Bar} {t : BarTables} (done : updateBar tx key row a.tables = .ok (stored, t)) :
    Archived ⟨t, a.written ++ stored.toList⟩ := by
  rcases updateBar_eq_ok done with ⟨rfl, rfl⟩ | ⟨old, b, hOld, rfl, -, hKey, -, hNewer, hRecorded, -,
    hChecks, rfl⟩
  · simpa using inv
  have hFound : old.key = key := by
    simpa using List.find?_some hOld
  rw [inv.current_eq, ← hFound, ← hKey] at hOld
  rw [Option.toList_some]
  constructor
  case current =>
    intro k
    rw [lane_append, filter_replaceBar, inv.current]
    by_cases hSame : b.key = k
    · subst hSame
      simp [hOld]
    · simp [hSame]
  case revised =>
    intro k
    rw [lane_append, List.filter_append, inv.revised]
    by_cases hSame : b.key = k
    · subst hSame
      rw [if_pos rfl, revisions_append, hOld, List.map_append,
        List.filter_cons_of_pos (by simp [revisionOf, hKey])]
      rfl
    · rw [if_neg hSame, List.filter_cons_of_neg (by simpa [revisionOf, ← hKey] using hSame)]
      simp
  case superseded =>
    intro k
    rw [lane_append]
    by_cases hSame : b.key = k
    · subst hSame
      rw [if_pos rfl]
      refine pairwise_append_last Supersedes.trans (inv.superseded b.key) fun last hLast => ?_
      rw [hOld, Option.some.injEq] at hLast
      rw [← hLast]
      exact ⟨by omega, hNewer.1, hNewer.2⟩
    · rw [if_neg hSame]
      exact inv.superseded k
  case checked =>
    intro v hMem
    rcases List.mem_append.mp hMem with hMem | hMem
    · exact inv.checked v hMem
    · rwa [List.mem_singleton.mp hMem]
  case receipted =>
    intro r hMem
    obtain ⟨hReceipt, v, hVersion, hSame⟩ := inv.receipted r hMem
    exact ⟨hReceipt, v, List.mem_append_left _ hVersion, hSame⟩
  case once => exact inv.once

theorem Archived.receipt (inv : Archived a) {tx : DbCall} {key : BarKey}
    {versionRecordedAt : Int} {t : BarTables}
    (done : insertReceipt tx key versionRecordedAt a.tables = .ok t) : Archived ⟨t, a.written⟩ := by
  obtain ⟨⟨v, hMem, hKey, hRecorded⟩, hChecks, hNew, rfl⟩ := insertReceipt_eq_ok done
  refine ⟨inv.current, inv.revised, inv.superseded, inv.checked, ?_, ?_⟩
  · intro r hr
    rcases List.mem_append.mp hr with hr | hr
    · exact inv.receipted r hr
    · rw [List.mem_singleton.mp hr]
      exact ⟨hChecks, v, inv.mem_lanes_iff.mp hMem, hKey, hRecorded⟩
  · rw [List.pairwise_append]
    refine ⟨inv.once, List.pairwise_singleton _ _, ?_⟩
    intro r hr s hs
    rw [List.mem_singleton.mp hs]
    exact hNew r hr

theorem archived_step (a b : Archive) (inv : Archived a) (step : BarStep a b) : Archived b := by
  obtain ⟨w, h⟩ := step
  cases w with
  | insert tx row =>
    rw [Archive.write, bind_eq_ok_iff] at h
    obtain ⟨⟨stored, t⟩, done, h⟩ := h
    cases h
    exact inv.insert done
  | update tx key row =>
    rw [Archive.write, bind_eq_ok_iff] at h
    obtain ⟨⟨stored, t⟩, done, h⟩ := h
    cases h
    exact inv.update done
  | receipt tx key versionRecordedAt =>
    rw [Archive.write, bind_eq_ok_iff] at h
    obtain ⟨t, done, h⟩ := h
    cases h
    exact inv.receipt done

theorem archived_of_run (run : ReflTransGen BarStep Archive.empty a) : Archived a :=
  invariant_of_run archived_step run archived_empty

/-! ## Visible versions -/

/-- The receipt of a version, if it was stamped by the cutoff. -/
def BarTables.receiptBy (t : BarTables) (cutoff : Int) (v : Bar) : Option Receipt :=
  t.receipts.find? fun r =>
    decide (r.key = v.key ∧ r.versionRecordedAt = v.recordedAt ∧ r.availableAt ≤ cutoff)

/-- The newest version of a key among those whose receipt was stamped by the cutoff. -/
def Archive.newestVisible (a : Archive) (key : BarKey) (cutoff : Int) : Option Bar :=
  newest (·.recordedAt) (fun v => (a.tables.receiptBy cutoff v).isSome) (a.lane key)

theorem BarTables.receiptBy_eq_some {t : BarTables} {cutoff : Int} {v : Bar} {r : Receipt}
    (h : t.receiptBy cutoff v = some r) : r ∈ t.receipts ∧ r.key = v.key ∧
      r.versionRecordedAt = v.recordedAt ∧ r.availableAt ≤ cutoff :=
  ⟨List.mem_of_find?_eq_some h, by simpa using List.find?_some h⟩

/-- A version has one receipt, so any receipt by the cutoff is the one found. -/
theorem Archived.receiptBy_eq_some_iff (inv : Archived a) {cutoff : Int} {v : Bar}
    {r : Receipt} : a.tables.receiptBy cutoff v = some r ↔ r ∈ a.tables.receipts ∧ r.key = v.key ∧
      r.versionRecordedAt = v.recordedAt ∧ r.availableAt ≤ cutoff := by
  constructor
  · exact BarTables.receiptBy_eq_some
  · rintro ⟨hMem, hKey, hRecorded, hCutoff⟩
    have hSome : (a.tables.receiptBy cutoff v).isSome = true := by
      rw [BarTables.receiptBy, List.find?_isSome]
      exact ⟨r, hMem, by simp [hKey, hRecorded, hCutoff]⟩
    obtain ⟨found, hFound⟩ := Option.isSome_iff_exists.mp hSome
    obtain ⟨hFoundMem, hFoundKey, hFoundRecorded, -⟩ := BarTables.receiptBy_eq_some hFound
    have : Std.Symm fun r s : Receipt =>
        r.key = s.key ∧ r.versionRecordedAt = s.versionRecordedAt → r = s :=
      ⟨fun _ _ h hEq => (h ⟨hEq.1.symm, hEq.2.symm⟩).symm⟩
    have hOnce : a.tables.receipts.Pairwise fun r s =>
        r.key = s.key ∧ r.versionRecordedAt = s.versionRecordedAt → r = s :=
      inv.once.imp fun hNot hSame => absurd hSame hNot
    have hSame := hOnce.forall_of_forall (fun _ _ _ => rfl) hFoundMem hMem
      ⟨hFoundKey.trans hKey.symm, hFoundRecorded.trans hRecorded.symm⟩
    rw [hFound, hSame]

/-- A receipt by the cutoff comes after all the times of its version. -/
theorem Archived.times_le_of_receipt (inv : Archived a) {cutoff : Int} {v : Bar} {r : Receipt}
    (hMem : v ∈ a.written) (h : a.tables.receiptBy cutoff v = some r) :
    v.key.ts ≤ v.fetchedAt ∧ v.fetchedAt ≤ v.asOf ∧ v.asOf ≤ v.recordedAt ∧
      v.recordedAt ≤ r.availableAt ∧ r.availableAt ≤ cutoff := by
  obtain ⟨hReceipt, hKey, hRecorded, hCutoff⟩ := BarTables.receiptBy_eq_some h
  obtain ⟨-, -, hFetched, hAsOf, hStored, -⟩ := inv.checked v hMem
  have hAvailable := (inv.receipted r hReceipt).1.2
  rw [hRecorded] at hAvailable
  exact ⟨hFetched, hAsOf, hStored, hAvailable, hCutoff⟩

/-! ## A restated bar -/

def restatedKey : BarKey := ⟨"SPY", "day", 1, 0, "polygon_open_close", "raw"⟩

def restatedRow (close : Rat) (fetchedAt : Int) : BarRow :=
  ⟨restatedKey, ⟨close, close, close, close, 0, none, none⟩, fetchedAt, fetchedAt⟩

def restatedWrites : List BarWrite :=
  [.insert ⟨2, 7⟩ (restatedRow 5 1), .receipt ⟨3, 8⟩ restatedKey 2,
    .update ⟨5, 9⟩ restatedKey (restatedRow 6 4), .receipt ⟨7, 10⟩ restatedKey 5]

def restatedArchive : Archive :=
  let first := stampInsert ⟨2, 7⟩ (restatedRow 5 1)
  let second := stampInsert ⟨5, 9⟩ (restatedRow 6 4)
  ⟨⟨[second], [revisionOf first second], [⟨restatedKey, 2, 3⟩, ⟨restatedKey, 5, 7⟩]⟩,
    [first, second]⟩

theorem restatedArchive_run : ReflTransGen BarStep Archive.empty restatedArchive :=
  run_of_writes (show restatedWrites.foldlM Archive.write Archive.empty = _ by decide)

/-! ## A session that is restated

The close of 2024-01-02 with its times counted from it, first 5 and then 6. -/

def sessionTime (n : Nat) : Int := 63839826000000000 + n

def sessionKey : BarKey := ⟨"SPY", "day", 1, sessionTime 0, "polygon_open_close", "raw"⟩

def sessionRow (close : Rat) (fetched : Nat) : BarRow :=
  ⟨sessionKey, ⟨close, close, close, close, 0, none, none⟩, sessionTime fetched, sessionTime fetched⟩

def firstSession : Bar := stampInsert ⟨sessionTime 2, 7⟩ (sessionRow 5 1)

def secondSession : Bar := stampInsert ⟨sessionTime 7, 10⟩ (sessionRow 6 4)

def sessionArchive : Archive :=
  ⟨⟨[firstSession], [], [⟨sessionKey, sessionTime 2, sessionTime 3⟩]⟩, [firstSession]⟩

def restatedSession : Archive :=
  ⟨⟨[secondSession], [revisionOf firstSession secondSession], [⟨sessionKey, sessionTime 2, sessionTime 3⟩]⟩,
    [firstSession, secondSession]⟩

def sessionRestatement : BarWrite := .update ⟨sessionTime 7, 10⟩ sessionKey (sessionRow 6 4)

theorem sessionArchive_run : ReflTransGen BarStep Archive.empty sessionArchive := by
  have hWrites : [.insert ⟨sessionTime 2, 7⟩ (sessionRow 5 1),
      .receipt ⟨sessionTime 3, 8⟩ sessionKey (sessionTime 2)].foldlM Archive.write Archive.empty =
        .ok sessionArchive := by decide
  exact run_of_writes hWrites

theorem restatedSession_write : sessionArchive.write sessionRestatement = .ok restatedSession := by decide

end StockApi.Bars

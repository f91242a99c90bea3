import StockApi.Bars.UpsertBatch

/-!
# Planner, statement and trigger agree

What a run of the upsert commits, and when the revisions it reports are the planned ones. They are
read back by the evidence of the batch rows and a time at or after the start of the write, which
also finds a revision stored before the run if its recorded time is not earlier.
-/

namespace StockApi.Bars

open Checked Relational VersionChain Relation

/-! ## Tables that the triggers maintain -/

/-- Revisions recorded before the recorded times were introduced have none. -/
structure Consistent (t : BarTables) : Prop where
  keyed : t.Keyed
  checked : ∀ b ∈ t.bars, b.Checks
  revised : ∀ r ∈ t.revisions, r.Checks
  superseded : ∀ r ∈ t.revisions, r.incomingRecordedAt.isSome = true →
    ∃ b, t.current r.key = some b ∧ r.incomingAsOf ≤ b.asOf
  apart : t.revisions.Pairwise fun r s => r.key = s.key → r.incomingRecordedAt.isSome = true →
    s.incomingRecordedAt.isSome = true → r.incomingAsOf ≠ s.incomingAsOf

theorem pairwise_of_filter {α κ : Type} [DecidableEq κ] {key : α → κ} {r : α → α → Prop}
    {rows : List α} (h : ∀ k, (rows.filter fun row => decide (key row = k)).Pairwise r) :
    rows.Pairwise fun a b => key a = key b → r a b := by
  induction rows with
  | nil => exact List.Pairwise.nil
  | cons first rest ih =>
    refine List.pairwise_cons.mpr ⟨?_, ih fun k => ?_⟩
    · intro b hb hKey
      have hFirst := h (key first)
      rw [List.filter_cons_of_pos (by simp), List.pairwise_cons] at hFirst
      exact hFirst.1 b (List.mem_filter.mpr ⟨hb, by simp [hKey]⟩)
    · exact (h k).sublist (List.Sublist.filter _ (List.sublist_cons_self _ _))

theorem Archived.consistent {a : Archive} (inv : Archived a) : Consistent a.tables := by
  constructor
  case keyed =>
    intro k
    rw [inv.current, inv.current_eq]
  case checked =>
    intro b hMem
    exact inv.checked b (inv.mem_lanes_iff.mp (by simp [BarTables.lanes, hMem]))
  case revised =>
    intro r hMem
    obtain ⟨p, hp, rfl⟩ := inv.mem_revisions_iff.mp hMem
    obtain ⟨hOld, hNew⟩ := Archive.key_eq hp
    obtain ⟨hOldMem, hNewMem⟩ := mem_of_mem_revisions hp
    exact revisionOf_checks (inv.checked _ (Archive.mem_lane_iff.mp hOldMem).1)
      (inv.checked _ (Archive.mem_lane_iff.mp hNewMem).1) (hNew.trans hOld.symm)
      (rel_of_mem_revisions (inv.superseded _) hp)
  case superseded =>
    intro r hMem _
    obtain ⟨p, hp, hr⟩ := inv.mem_revisions_iff.mp hMem
    have hNew := (mem_of_mem_revisions hp).2
    obtain ⟨last, hLast⟩ : ∃ last, (a.lane r.key).getLast? = some last :=
      ⟨_, List.getLast?_eq_some_getLast (List.ne_nil_of_mem hNew)⟩
    refine ⟨last, by rw [inv.current_eq, hLast], ?_⟩
    rw [← hr]
    rcases eq_or_rel_last (inv.superseded _) hNew hLast with hEq | hEarlier
    · exact le_of_eq (congrArg (fun b : Bar => b.asOf) hEq)
    · exact hEarlier.asOf.le
  case apart =>
    have h : a.tables.revisions.Pairwise fun r s => r.key = s.key → r.incomingAsOf ≠ s.incomingAsOf := by
      refine pairwise_of_filter fun k => ?_
      rw [inv.revised, List.pairwise_map]
      exact (revisions_pairwise (inv.superseded k)).imp fun hLater => hLater.asOf.ne
    exact h.imp fun hNe hKey _ _ => hNe hKey

/-! ## Loading and planning -/

theorem toBarRow_of_barUpsertRow {row : BarRow} {loaded : BarUpsertRow}
    (h : barUpsertRow row = .ok loaded) : loaded.toBarRow = row := by
  unfold barUpsertRow at h
  split at h
  · split at h
    · cases h
      rfl
    · cases h
  · cases h

theorem BarUpsertRow.ext_row {a b : BarUpsertRow} (h : a.toBarRow = b.toBarRow) : a = b := by
  obtain ⟨row, hFetched, hAvailable⟩ := a
  obtain ⟨row', hFetched', hAvailable'⟩ := b
  simp only at h
  subst h
  rfl

theorem barUpsertRow_toBarRow (row : BarUpsertRow) : barUpsertRow row.toBarRow = .ok row := by
  rw [barUpsertRow, dif_pos row.fetched, dif_pos row.available]

theorem barUpsertRow_of_checks {b : Bar} (h : b.Checks) :
    ∃ loaded, barUpsertRow b.toBarRow = .ok loaded := by
  obtain ⟨-, -, hFetched, hAsOf, -⟩ := h
  exact ⟨⟨b.toBarRow, hFetched, hAsOf⟩, barUpsertRow_toBarRow ⟨b.toBarRow, hFetched, hAsOf⟩⟩

theorem rowByKey_eq (rows : List BarUpsertRow) (k : BarKey) :
    rowByKey rows k = (rows.filter fun row => decide (row.key = k)).getLast? := by
  rw [rowByKey, ← List.head?_filter, List.filter_reverse, List.head?_reverse]

variable {call : UpsertCall} {rows : List BarUpsertRow} {t t' : BarTables}

/-- The loaded rows stand for the current ones. -/
def Loaded (rows : List BarUpsertRow) (t : BarTables) (existing : List BarUpsertRow) : Prop :=
  ∀ row ∈ rows, (rowByKey existing row.key).map (fun loaded => loaded.toBarRow) =
    (t.current row.key).map fun old => old.toBarRow

theorem loadExistingBarRows_eq_ok (deduped : Deduped rows) (keyed : t.Keyed)
    (checked : ∀ b ∈ t.bars, b.Checks) :
    ∃ existing, loadExistingBarRows rows t = .ok existing ∧ Loaded rows t existing := by
  obtain ⟨existing, hLoaded⟩ : ∃ existing,
      (t.bars.filter fun b => decide (∃ row ∈ rows, row.key = b.key)).mapM
        (fun b => barUpsertRow b.toBarRow) = .ok existing :=
    exists_mapM fun b hMem => barUpsertRow_of_checks (checked b (List.mem_filter.mp hMem).1)
  refine ⟨existing, ?_, ?_⟩
  · rw [loadExistingBarRows, deduped.dedupeRows_eq, ok_bind]
    exact hLoaded
  · intro row hRow
    have hRows : existing.map (fun loaded => loaded.toBarRow) =
        (t.bars.filter fun b => decide (∃ row ∈ rows, row.key = b.key)).map fun b => b.toBarRow := by
      have hEach := forall₂_of_mapM hLoaded
      refine List.forall₂_eq_eq_eq ▸ ?_
      rw [List.forall₂_map_left_iff, List.forall₂_map_right_iff]
      exact (hEach.imp fun b loaded h => toBarRow_of_barUpsertRow h).flip
    have hFilter : ((t.bars.filter fun b => decide (∃ row ∈ rows, row.key = b.key)).filter
        fun b => decide (b.key = row.key)) = (t.current row.key).toList := by
      rw [← keyed, List.filter_filter]
      refine List.filter_congr fun b _ => ?_
      by_cases hKey : b.key = row.key
      · simp only [hKey, decide_true, Bool.true_and, decide_eq_true_eq]
        exact ⟨row, hRow, rfl⟩
      · simp [hKey]
    have hExisting : (existing.filter fun loaded => decide (loaded.key = row.key)).map
        (fun loaded => loaded.toBarRow) = ((t.current row.key).toList).map fun old => old.toBarRow := by
      rw [← hFilter]
      have hMapped : ∀ {α : Type} (f : α → BarRow) (xs : List α),
          (xs.filter fun x => decide ((f x).key = row.key)).map f =
            (xs.map f).filter fun r => decide (r.key = row.key) := by
        intro α f xs
        rw [List.filter_map]
        rfl
      rw [hMapped, hMapped, hRows]
    rw [rowByKey_eq, ← List.getLast?_map, hExisting]
    cases t.current row.key <;> rfl

/-- The revision that the planner predicts for a row. -/
def plannedRevision (existing : BarKey → Option BarUpsertRow) (row : BarUpsertRow) :
    Option BarRevisionRow :=
  (existing row.key).bind fun previous =>
    if previous.values = row.values then none else some ⟨row.key, previous, row⟩

theorem planRevisions_of_fresh {existing : BarKey → Option BarUpsertRow}
    (fresh : ∀ row ∈ rows, ∀ previous, existing row.key = some previous →
      ¬ Stale previous.toBarRow row.toBarRow) :
    planRevisions existing rows = .ok (rows.filterMap (plannedRevision existing)) := by
  induction rows with
  | nil => rfl
  | cons row rest ih =>
    have hRest := ih fun r hr => fresh r (List.mem_cons_of_mem _ hr)
    rw [planRevisions, List.filterMap_cons, plannedRevision]
    cases hExisting : existing row.key with
    | none => exact hRest
    | some previous =>
      simp only [Option.bind_some]
      by_cases hValues : previous.values = row.values
      · rw [if_pos hValues, if_pos hValues]
        exact hRest
      · rw [if_neg hValues, if_neg hValues, if_neg (fresh row List.mem_cons_self previous hExisting),
          hRest]
        rfl

/-- One stale change is enough to refuse the whole batch. -/
theorem planRevisions_of_stale {existing : BarKey → Option BarUpsertRow} {row : BarUpsertRow}
    (hRow : row ∈ rows) {previous : BarUpsertRow} (hPrevious : existing row.key = some previous)
    (stale : Stale previous.toBarRow row.toBarRow) :
    planRevisions existing rows = .error staleChange := by
  induction rows with
  | nil => cases hRow
  | cons first rest ih =>
    rw [planRevisions]
    cases hExisting : existing first.key with
    | none =>
      rcases List.mem_cons.mp hRow with rfl | hRow
      · rw [hPrevious] at hExisting
        cases hExisting
      · exact ih hRow
    | some other =>
      simp only
      by_cases hValues : other.values = first.values
      · rw [if_pos hValues]
        rcases List.mem_cons.mp hRow with rfl | hRow
        · rw [hPrevious, Option.some.injEq] at hExisting
          subst hExisting
          exact absurd hValues stale.1
        · exact ih hRow
      · rw [if_neg hValues]
        by_cases hStale : Stale other.toBarRow first.toBarRow
        · rw [if_pos hStale]
        · rw [if_neg hStale]
          rcases List.mem_cons.mp hRow with rfl | hRow
          · rw [hPrevious, Option.some.injEq] at hExisting
            subst hExisting
            exact absurd stale hStale
          · rw [ih hRow]
            rfl

theorem Loaded.current {existing : List BarUpsertRow} (loaded : Loaded rows t existing)
    {row : BarUpsertRow} (hRow : row ∈ rows) {previous : BarUpsertRow}
    (h : rowByKey existing row.key = some previous) :
    ∃ old, t.current row.key = some old ∧ old.toBarRow = previous.toBarRow := by
  have hSame := loaded row hRow
  rw [h, Option.map_some] at hSame
  exact Option.map_eq_some_iff.mp hSame.symm

theorem Loaded.previous {existing : List BarUpsertRow} (loaded : Loaded rows t existing)
    {row : BarUpsertRow} (hRow : row ∈ rows) {old : Bar} (h : t.current row.key = some old) :
    ∃ previous, rowByKey existing row.key = some previous ∧ previous.toBarRow = old.toBarRow := by
  have hSame := loaded row hRow
  rw [h, Option.map_some] at hSame
  exact Option.map_eq_some_iff.mp hSame

/-- Read back, the revisions the triggers write are those the planner predicts. -/
theorem forall₂_planned {existing : List BarUpsertRow} (loaded : Loaded rows t existing) :
    List.Forall₂ (fun r planned => ormRevisionToPlan r = .ok planned)
      (rows.filterMap fun row => call.newRevision t row.toBarRow)
      (rows.filterMap (plannedRevision (rowByKey existing))) := by
  have hEach : ∀ row ∈ rows, (call.newRevision t row.toBarRow = none ∧
      plannedRevision (rowByKey existing) row = none) ∨
      ∃ r planned, call.newRevision t row.toBarRow = some r ∧
        plannedRevision (rowByKey existing) row = some planned ∧
        ormRevisionToPlan r = .ok planned := by
    intro row hRow
    rw [UpsertCall.newRevision, plannedRevision]
    cases hCurrent : t.current row.key with
    | none =>
      have hSame := loaded row hRow
      rw [hCurrent, Option.map_none, Option.map_eq_none_iff] at hSame
      rw [hSame]
      exact Or.inl ⟨rfl, rfl⟩
    | some old =>
      obtain ⟨previous, hPrevious, hSame⟩ := loaded.previous hRow hCurrent
      have hValues : previous.values = old.values := congrArg BarRow.values hSame
      have hKey : old.key = row.key := (BarTables.current_eq_some hCurrent).2
      simp only [hPrevious, Option.bind_some, hValues]
      by_cases hEq : old.values = row.values
      · rw [if_pos hEq, if_pos hEq]
        exact Or.inl ⟨rfl, rfl⟩
      · rw [if_neg hEq, if_neg hEq]
        refine Or.inr ⟨_, _, rfl, rfl, ?_⟩
        have hOld : barUpsertRow ⟨old.key, old.values, old.fetchedAt, old.asOf⟩ = .ok previous := by
          rw [← barUpsertRow_toBarRow previous, hSame]
        have hNew : barUpsertRow ⟨old.key, row.values, row.fetchedAt, row.asOf⟩ = .ok row := by
          rw [← barUpsertRow_toBarRow row, hKey]
        show (barUpsertRow ⟨old.key, old.values, old.fetchedAt, old.asOf⟩ >>= fun previous =>
          barUpsertRow ⟨old.key, row.values, row.fetchedAt, row.asOf⟩ >>= fun incoming =>
            (pure ⟨incoming.key, previous, incoming⟩ : Except UpsertError BarRevisionRow)) = _
        rw [hOld, ok_bind, hNew]
        rfl
  clear loaded
  induction rows with
  | nil => exact .nil
  | cons row rest ih =>
    have hRest := ih fun r hr => hEach r (List.mem_cons_of_mem _ hr)
    rcases hEach row List.mem_cons_self with ⟨hNone, hNone'⟩ | ⟨r, planned, hSome, hSome', hRead⟩
    · rw [List.filterMap_cons, List.filterMap_cons, hNone, hNone']
      exact hRest
    · rw [List.filterMap_cons, List.filterMap_cons, hSome, hSome']
      exact .cons hRead hRest

/-! ## What is read back -/

theorem verifyPersistedRows_of_values (deduped : Deduped rows) (keyed : t.Keyed)
    (checked : ∀ b ∈ t.bars, b.Checks)
    (values : ∀ row ∈ rows, ∃ b, t.current row.key = some b ∧ b.values = row.values) :
    verifyPersistedRows rows t = .ok () := by
  obtain ⟨persisted, hLoaded, loaded⟩ := loadExistingBarRows_eq_ok deduped keyed checked
  rw [verifyPersistedRows, deduped.dedupeRows_eq, ok_bind, hLoaded, ok_bind, refuseIf_of_not]
  rintro ⟨incoming, hRow, hDiffers⟩
  obtain ⟨b, hCurrent, hValues⟩ := values incoming hRow
  obtain ⟨current, hPersisted, hSame⟩ := loaded.previous hRow hCurrent
  refine hDiffers ?_
  rw [hPersisted, Option.map_some, Option.some.injEq, ← hValues]
  exact congrArg BarRow.values hSame

theorem newRevision_eq_some {row : BarRow} {r : BarRevision} (h : call.newRevision t row = some r) :
    ∃ old, t.current row.key = some old ∧ old.values ≠ row.values ∧
      r = revisionOf old (call.newVersion old row) ∧ r.key = row.key := by
  obtain ⟨old, hCurrent, h⟩ := Option.bind_eq_some_iff.mp h
  split at h
  · cases h
  · rename_i hValues
    cases h
    exact ⟨old, hCurrent, hValues, rfl, (BarTables.current_eq_some hCurrent).2⟩

/-- The revisions that a batch causes. -/
def UpsertCall.newRevisions (call : UpsertCall) (t : BarTables) (rows : List BarUpsertRow) :
    List BarRevision :=
  rows.filterMap fun row => call.newRevision t row.toBarRow

/-- The revisions that the final query finds. -/
def Windowed (started : Int) (rows : List BarUpsertRow) (r : BarRevision) : Prop :=
  ∃ row ∈ rows, InWindow started row.toBarRow r

instance (started : Int) (rows : List BarUpsertRow) (r : BarRevision) :
    Decidable (Windowed started rows r) := inferInstanceAs (Decidable (∃ row ∈ rows, _))

theorem InWindow.isSome {started : Int} {row : BarRow} {r : BarRevision}
    (h : InWindow started row r) : r.incomingRecordedAt.isSome = true := by
  obtain ⟨-, recordedAt, hRecorded, -⟩ := h
  rw [Option.mem_def.mp hRecorded]
  rfl

section Window

variable {started : Int} (consistent : Consistent t) (deduped : Deduped rows)
  (admissible : ∀ row ∈ rows, call.Admissible t row.toBarRow)
include consistent deduped admissible

/-- No changed key has a stored revision with the evidence of its batch row: its current row is at
least as recent as every stored revision, and the batch row is more recent. -/
theorem Windowed.key_ne {r s : BarRevision} (hStored : r ∈ t.revisions)
    (hWindow : Windowed started rows r) (hNew : s ∈ call.newRevisions t rows) : r.key ≠ s.key := by
  intro hSame
  obtain ⟨row, hRow, hIn⟩ := hWindow
  obtain ⟨other, hOther, hRevision⟩ := List.mem_filterMap.mp hNew
  obtain ⟨old, hCurrent, hValues, -, hKey⟩ := newRevision_eq_some hRevision
  have hEq : row = other := deduped.eq_of_key hRow hOther ((hIn.1.1.symm.trans hSame).trans hKey)
  subst hEq
  obtain ⟨b, hLast, hAsOf⟩ := consistent.superseded r hStored hIn.isSome
  rw [hIn.1.1, hCurrent, Option.some.injEq] at hLast
  subst hLast
  have hNewer := ((not_stale_iff hValues).mp
    ((admissible row hRow).2 old hCurrent hValues).1).1
  rw [hIn.1.2.2] at hAsOf
  exact absurd hNewer (not_lt.mpr hAsOf)

omit consistent admissible in
theorem newRevisions_pairwise :
    (call.newRevisions t rows).Pairwise fun r s => r.key ≠ s.key := by
  rw [UpsertCall.newRevisions, List.pairwise_filterMap]
  refine deduped.imp ?_
  intro a b hLess r hr s hs hSame
  obtain ⟨-, -, -, -, hKey⟩ := newRevision_eq_some hr
  obtain ⟨-, -, -, -, hKey'⟩ := newRevision_eq_some hs
  exact hLess.ne (congrArg BarKey.order ((hKey.symm.trans hSame).trans hKey'))

variable (started) in
/-- The query finds at most one revision for each key. -/
theorem windowed_pairwise : ((t.revisions ++ call.newRevisions t rows).filter
    fun r => decide (Windowed started rows r)).Pairwise fun r s => r.key ≠ s.key := by
  rw [List.pairwise_filter, List.pairwise_append]
  refine ⟨consistent.apart.imp ?_, ?_, ?_⟩
  · intro r s hApart hr hs hSame
    obtain ⟨row, hRow, hIn⟩ := of_decide_eq_true hr
    obtain ⟨other, hOther, hIn'⟩ := of_decide_eq_true hs
    have hEq : row = other :=
      deduped.eq_of_key hRow hOther ((hIn.1.1.symm.trans hSame).trans hIn'.1.1)
    subst hEq
    exact hApart hSame hIn.isSome hIn'.isSome (hIn.1.2.2.trans hIn'.1.2.2.symm)
  · exact (newRevisions_pairwise deduped).imp fun hNe _ _ => hNe
  · intro r hr s hs hWindow _
    exact (of_decide_eq_true hWindow).key_ne consistent deduped admissible hr hs

omit deduped in
theorem checks_of_newRevisions {r : BarRevision} (h : r ∈ call.newRevisions t rows) : r.Checks := by
  obtain ⟨row, hRow, hRevision⟩ := List.mem_filterMap.mp h
  obtain ⟨old, hCurrent, hValues, rfl, -⟩ := newRevision_eq_some hRevision
  obtain ⟨hMem, hKey⟩ := BarTables.current_eq_some hCurrent
  obtain ⟨hStale, hChecks⟩ := (admissible row hRow).2 old hCurrent hValues
  obtain ⟨hAsOf, hFetched⟩ := (not_stale_iff hValues).mp hStale
  exact revisionOf_checks (consistent.checked old hMem) hChecks hKey.symm
    ⟨lt_of_lt_of_le (Int.lt_succ _) (le_max_right _ _), hAsOf, hFetched⟩

end Window

theorem ormRevisionToPlan_of_checks {r : BarRevision} (h : r.Checks) :
    ∃ revision, ormRevisionToPlan r = .ok revision := by
  obtain ⟨-, -, -, ⟨hFetched, hFetched', hAsOf, hAsOf'⟩, -⟩ := h
  have hPrevious := barUpsertRow_toBarRow
    ⟨⟨r.key, r.previous, r.previousFetchedAt, r.previousAsOf⟩, hFetched, hAsOf⟩
  have hIncoming := barUpsertRow_toBarRow
    ⟨⟨r.key, r.incoming, r.incomingFetchedAt, r.incomingAsOf⟩, hFetched', hAsOf'⟩
  unfold ormRevisionToPlan
  rw [hPrevious, ok_bind, hIncoming]
  exact ⟨_, rfl⟩

theorem conflictKey_of_orm {r : BarRevision} {revision : BarRevisionRow}
    (h : ormRevisionToPlan r = .ok revision) : revision.conflictKey = r.key := by
  rw [ormRevisionToPlan, bind_eq_ok_iff] at h
  obtain ⟨previous, -, h⟩ := h
  rw [bind_eq_ok_iff] at h
  obtain ⟨incoming, hIncoming, h⟩ := h
  cases h
  exact congrArg BarRow.key (toBarRow_of_barUpsertRow hIncoming)

theorem conflictKeys_of_orm {stored : List BarRevision} {read : List BarRevisionRow}
    (h : List.Forall₂ (fun r revision => ormRevisionToPlan r = .ok revision) stored read) :
    (read.map fun revision => revision.conflictKey) = stored.map fun r => r.key := by
  induction h with
  | nil => rfl
  | cons hRead _ ih => rw [List.map_cons, List.map_cons, ih, conflictKey_of_orm hRead]

/-! ## The run -/

/-- The query over the new tables finds exactly the new revisions. -/
structure UpsertCall.WindowExact (call : UpsertCall) (rows : List BarUpsertRow) (t : BarTables) :
    Prop where
  earlier : ∀ row ∈ rows, ∀ r ∈ t.revisions, ¬ InWindow call.writeStartedAt row.toBarRow r
  stamped : ∀ row ∈ rows, ∀ old, t.current row.key = some old → old.values ≠ row.values →
    call.writeStartedAt ≤ max (call.updateClock row.key) (old.recordedAt + 1)

theorem windowExact_iff : call.WindowExact rows t ↔
    (∀ r ∈ t.revisions, ¬ Windowed call.writeStartedAt rows r) ∧
      ∀ r ∈ call.newRevisions t rows, Windowed call.writeStartedAt rows r := by
  constructor
  · rintro ⟨earlier, stamped⟩
    refine ⟨?_, ?_⟩
    · rintro r hr ⟨row, hRow, hIn⟩
      exact earlier row hRow r hr hIn
    · intro r hr
      obtain ⟨row, hRow, hRevision⟩ := List.mem_filterMap.mp hr
      obtain ⟨old, hCurrent, hValues, rfl, hKey⟩ := newRevision_eq_some hRevision
      exact ⟨row, hRow, ⟨hKey, rfl, rfl⟩, _, rfl, stamped row hRow old hCurrent hValues⟩
  · rintro ⟨earlier, stamped⟩
    constructor
    · exact fun row hRow r hr hIn => earlier r hr ⟨row, hRow, hIn⟩
    · intro row hRow old hCurrent hValues
      have hRevision : call.newRevision t row.toBarRow =
          some (revisionOf old (call.newVersion old row.toBarRow)) := by
        rw [UpsertCall.newRevision, hCurrent, Option.bind_some, if_neg hValues]
      obtain ⟨other, hOther, hIn⟩ := stamped _ (List.mem_filterMap.mpr ⟨row, hRow, hRevision⟩)
      obtain ⟨-, recordedAt, hRecorded, hStarted⟩ := hIn
      obtain rfl := Option.some.inj hRecorded
      exact hStarted

section Run

variable (consistent : Consistent t) (deduped : Deduped rows)
  (admissible : ∀ row ∈ rows, call.Admissible t row.toBarRow)
include consistent deduped admissible

/-- The revisions are read back without a duplicate, and as planned exactly when the window is. -/
theorem loadPersistedRevisions_eq_ok {existing : List BarUpsertRow} (loaded : Loaded rows t existing)
    (hRevisions : t'.revisions = t.revisions ++ call.newRevisions t rows) :
    ∃ persisted, loadPersistedRevisions rows call.writeStartedAt t' = .ok persisted ∧
      (persisted = rows.filterMap (plannedRevision (rowByKey existing)) ↔
        call.WindowExact rows t) := by
  have hPlanned : List.Forall₂ (fun r planned => ormRevisionToPlan r = .ok planned)
      (call.newRevisions t rows) (rows.filterMap (plannedRevision (rowByKey existing))) :=
    forall₂_planned loaded
  have hPairwise := windowed_pairwise call.writeStartedAt consistent deduped admissible
  obtain ⟨read, hRead⟩ : ∃ read, ((t.revisions ++ call.newRevisions t rows).filter
      fun r => decide (Windowed call.writeStartedAt rows r)).mapM ormRevisionToPlan = .ok read := by
    refine exists_mapM fun r hr => ormRevisionToPlan_of_checks ?_
    rcases List.mem_append.mp (List.mem_filter.mp hr).1 with hr | hr
    · exact consistent.revised r hr
    · exact checks_of_newRevisions consistent admissible hr
  have hKeys := conflictKeys_of_orm (forall₂_of_mapM hRead)
  have hNodup : (read.map fun revision => revision.conflictKey).Nodup := by
    rw [hKeys]
    exact List.pairwise_map.mpr hPairwise
  refine ⟨orderAsc (fun revision => revision.conflictKey.order) read, ?_, ?_⟩
  · rw [loadPersistedRevisions, deduped.dedupeRows_eq, ok_bind, hRevisions]
    show (((t.revisions ++ call.newRevisions t rows).filter fun r =>
      decide (Windowed call.writeStartedAt rows r)).mapM ormRevisionToPlan >>= _) = _
    rw [hRead, ok_bind, refuseIf_of_not (not_not.mpr hNodup)]
    rfl
  · rw [windowExact_iff]
    have hPlannedKeys := conflictKeys_of_orm hPlanned
    constructor
    · intro hSame
      have hPerm : (((t.revisions ++ call.newRevisions t rows).filter
          fun r => decide (Windowed call.writeStartedAt rows r)).map fun r => r.key).Perm
            ((call.newRevisions t rows).map fun r => r.key) := by
        rw [← hKeys, ← hPlannedKeys, ← hSame]
        exact (orderAsc_perm.map _).symm
      refine ⟨?_, ?_⟩
      · intro r hr hWindow
        have hMem : r.key ∈ (call.newRevisions t rows).map fun r => r.key :=
          hPerm.mem_iff.mp (List.mem_map.mpr ⟨r, List.mem_filter.mpr
            ⟨List.mem_append_left _ hr, decide_eq_true hWindow⟩, rfl⟩)
        obtain ⟨s, hs, hKey⟩ := List.mem_map.mp hMem
        exact hWindow.key_ne consistent deduped admissible hr hs hKey.symm
      · intro s hs
        have hMem := hPerm.mem_iff.mpr (List.mem_map.mpr ⟨s, hs, rfl⟩)
        obtain ⟨r, hr, hKey⟩ := List.mem_map.mp hMem
        obtain ⟨hFound, hWindow⟩ := List.mem_filter.mp hr
        have hWindow := of_decide_eq_true hWindow
        rcases List.mem_append.mp hFound with hOld | hNew
        · exact absurd hKey (hWindow.key_ne consistent deduped admissible hOld hs)
        · have hEq : r = s := List.inj_on_of_nodup_map
            (List.pairwise_map.mpr (newRevisions_pairwise deduped)) hNew hs hKey
          rwa [← hEq]
    · rintro ⟨hEarlier, hNew⟩
      have hFilter : ((t.revisions ++ call.newRevisions t rows).filter
          fun r => decide (Windowed call.writeStartedAt rows r)) = call.newRevisions t rows := by
        rw [List.filter_append, List.filter_eq_nil_iff.mpr, List.nil_append,
          List.filter_eq_self.mpr fun r hr => decide_eq_true (hNew r hr)]
        exact fun r hr hWindow => hEarlier r hr (of_decide_eq_true hWindow)
      have hRows : read = rows.filterMap (plannedRevision (rowByKey existing)) := by
        rw [hFilter, mapM_of_forall₂ hPlanned, Except.ok.injEq] at hRead
        exact hRead.symm
      rw [hRows]
      refine orderAsc_eq_self ?_
      rw [List.pairwise_filterMap]
      refine deduped.imp ?_
      intro a b hLess p hp q hq
      have hKey : ∀ {row : BarUpsertRow} {p : BarRevisionRow},
          plannedRevision (rowByKey existing) row = some p → p.conflictKey = row.key := by
        intro row p hp
        obtain ⟨previous, -, hp⟩ := Option.bind_eq_some_iff.mp hp
        split at hp
        · cases hp
        · cases hp
          rfl
      rw [hKey hp, hKey hq]
      exact hLess

/-- A batch that nothing refuses is committed. -/
theorem writeBarRows_eq_ok : ∃ existing persisted, loadExistingBarRows rows t = .ok existing ∧
    call.writeBarRows rows t = .ok (⟨rows, persisted⟩,
      (rows.map fun row => row.toBarRow).foldl call.stored t) ∧
    buildBarUpsertPlanFromRows rows existing =
      .ok ⟨rows, rows.filterMap (plannedRevision (rowByKey existing))⟩ ∧
    (persisted = rows.filterMap (plannedRevision (rowByKey existing)) ↔ call.WindowExact rows t) := by
  obtain ⟨existing, hLoaded, loaded⟩ :=
    loadExistingBarRows_eq_ok deduped consistent.keyed consistent.checked
  have hNodup : ((rows.map fun row => row.toBarRow).map fun row => row.key).Nodup := by
    rw [List.map_map]
    exact deduped.nodup
  have upserted := upserted_foldl call (rows.map fun row => row.toBarRow) consistent.keyed hNodup
  have hRevisions : ((rows.map fun row => row.toBarRow).foldl call.stored t).revisions =
      t.revisions ++ call.newRevisions t rows := by
    rw [upserted.revisions, List.filterMap_map]
    rfl
  obtain ⟨persisted, hPersisted, hExact⟩ :=
    loadPersistedRevisions_eq_ok consistent deduped admissible loaded hRevisions
  have hPlan : buildBarUpsertPlanFromRows rows existing =
      .ok ⟨rows, rows.filterMap (plannedRevision (rowByKey existing))⟩ := by
    have hFresh : ∀ row ∈ rows, ∀ previous, rowByKey existing row.key = some previous →
        ¬ Stale previous.toBarRow row.toBarRow := by
      intro row hRow previous hPrevious hStale
      obtain ⟨old, hCurrent, hSame⟩ := loaded.current hRow hPrevious
      rw [← hSame] at hStale
      exact ((admissible row hRow).2 old hCurrent hStale.1).1 hStale
    rw [buildBarUpsertPlanFromRows, deduped.dedupeRows_eq, ok_bind, planRevisions_of_fresh hFresh]
    rfl
  have hFold : (rows.map fun row => row.toBarRow).foldlM call.upsertBar t =
      .ok ((rows.map fun row => row.toBarRow).foldl call.stored t) := by
    rw [foldlM_upsertBar_eq_ok_iff _ consistent.keyed consistent.checked hNodup]
    exact ⟨by simpa using admissible, rfl⟩
  have hExecute : call.executeBarUpsert rows t =
      .ok ((rows.map fun row => row.toBarRow).foldl call.stored t) := by
    rw [UpsertCall.executeBarUpsert, deduped.dedupeRows_eq, ok_bind, hFold]
    rfl
  have hVerify : verifyPersistedRows rows
      ((rows.map fun row => row.toBarRow).foldl call.stored t) = .ok () := by
    refine verifyPersistedRows_of_values deduped (keyed_foldl _ consistent.keyed)
      (checked_foldlM _ consistent.checked hFold) ?_
    intro row hRow
    exact ⟨call.version t row.toBarRow,
      upserted.current (List.mem_map.mpr ⟨row, hRow, rfl⟩), values_version t row.toBarRow⟩
  refine ⟨existing, persisted, hLoaded, ?_, hPlan, hExact⟩
  rw [UpsertCall.writeBarRows, hLoaded, ok_bind, hPlan, ok_bind]
  simp only
  rw [hExecute, ok_bind, hVerify, ok_bind, hPersisted]
  rfl

end Run

theorem writeBarRows_of_stale (consistent : Consistent t) (deduped : Deduped rows)
    {row : BarUpsertRow} (hRow : row ∈ rows) {old : Bar} (hCurrent : t.current row.key = some old)
    (stale : Stale old.toBarRow row.toBarRow) : call.writeBarRows rows t = .error staleChange := by
  obtain ⟨existing, hLoaded, loaded⟩ :=
    loadExistingBarRows_eq_ok deduped consistent.keyed consistent.checked
  obtain ⟨previous, hPrevious, hSame⟩ := loaded.previous hRow hCurrent
  have hPlan : buildBarUpsertPlanFromRows rows existing = .error staleChange := by
    rw [buildBarUpsertPlanFromRows, deduped.dedupeRows_eq, ok_bind,
      planRevisions_of_stale hRow hPrevious (hSame ▸ stale)]
    rfl
  rw [UpsertCall.writeBarRows, hLoaded, ok_bind, hPlan]
  rfl

theorem admissible_of_writeBarRows (consistent : Consistent t) (deduped : Deduped rows)
    {result : BarUpsertPlan × BarTables} (h : call.writeBarRows rows t = .ok result) :
    ∀ row ∈ rows, call.Admissible t row.toBarRow := by
  rw [UpsertCall.writeBarRows, bind_eq_ok_iff] at h
  obtain ⟨existing, -, h⟩ := h
  rw [bind_eq_ok_iff] at h
  obtain ⟨plan, hPlan, h⟩ := h
  have hRows : plan.rows = rows := by
    rw [buildBarUpsertPlanFromRows, deduped.dedupeRows_eq, ok_bind, bind_eq_ok_iff] at hPlan
    obtain ⟨revisions, -, hPlan⟩ := hPlan
    cases hPlan
    rfl
  rw [bind_eq_ok_iff] at h
  obtain ⟨stored, hExecute, -⟩ := h
  rw [hRows, UpsertCall.executeBarUpsert, deduped.dedupeRows_eq, ok_bind] at hExecute
  cases hFold : (rows.map fun row => row.toBarRow).foldlM call.upsertBar t with
  | error e =>
    rw [hFold] at hExecute
    cases hExecute
  | ok t' =>
    have hNodup : ((rows.map fun row => row.toBarRow).map fun row => row.key).Nodup := by
      rw [List.map_map]
      exact deduped.nodup
    have hAll := ((foldlM_upsertBar_eq_ok_iff _ consistent.keyed consistent.checked hNodup).mp hFold).1
    exact fun row hRow => hAll row.toBarRow (List.mem_map.mpr ⟨row, hRow, rfl⟩)

/-- The empty batch is no exception. -/
theorem upsertBarRows_eq (consistent : Consistent t) {batch : List BarUpsertRow}
    (h : dedupeRows batch = .ok rows) : call.upsertBarRows batch t = call.writeBarRows rows t := by
  rw [UpsertCall.upsertBarRows, h, ok_bind]
  cases rows with
  | cons row rest => rfl
  | nil =>
    obtain ⟨existing, persisted, -, hWrite, -, hExact⟩ :=
      @writeBarRows_eq_ok call [] t consistent List.Pairwise.nil (by simp)
    have hNone : persisted = [] := hExact.mpr ⟨by simp, by simp⟩
    rw [hWrite, hNone]
    rfl

/-! ## Agreement -/

/-- A committed run: the current rows, the revisions, and the plan it returns. -/
structure Committed (call : UpsertCall) (batch rows : List BarUpsertRow) (t t' : BarTables)
    (plan : BarUpsertPlan) : Prop where
  planned : plan.rows = rows
  values : ∀ row ∈ batch, ∃ b, t'.current row.key = some b ∧ b.values = row.values
  unchanged : ∀ row ∈ rows, ∀ old, t.current row.key = some old → old.values = row.values →
    t'.current row.key = some old
  replaced : ∀ row ∈ rows, ∀ old, t.current row.key = some old → old.values ≠ row.values →
    (t'.current row.key).map (fun b => b.toBarRow) = some row.toBarRow
  revised : t'.revisions = t.revisions ++ call.newRevisions t rows
  sides : ∀ r ∈ call.newRevisions t rows, ∃ row ∈ rows, ∃ old, t.current row.key = some old ∧
    old.values ≠ row.values ∧ r.previousSide = some old ∧
      r.incomingSide.map (fun b => b.toBarRow) = some row.toBarRow
  untouched : ∀ k, (∀ row ∈ batch, row.key ≠ k) →
    (t'.bars.filter fun b => decide (b.key = k)) = t.bars.filter fun b => decide (b.key = k)
  predicted : ∃ existing, loadExistingBarRows batch t = .ok existing ∧
    buildBarUpsertPlanFromRows batch existing = .ok plan

/-- A run raises and changes nothing, and does so for every stale change, or it commits. -/
structure UpsertAgrees (call : UpsertCall) (batch : List BarUpsertRow) (t : BarTables) : Prop where
  rolledBack : ∀ e, (call.run batch t).1 = .error e → (call.run batch t).2 = t
  refused : ∀ rows, dedupeRows batch = .ok rows → ∀ row ∈ rows, ∀ old,
    t.current row.key = some old → Stale old.toBarRow row.toBarRow →
      (call.run batch t).1 = .error staleChange
  committed : ∀ plan, (call.run batch t).1 = .ok plan → ∃ rows, dedupeRows batch = .ok rows ∧
    Committed call batch rows t (call.run batch t).2 plan

theorem rolledBack_of_run {batch : List BarUpsertRow} {e : UpsertError}
    (h : (call.run batch t).1 = .error e) : (call.run batch t).2 = t := by
  unfold UpsertCall.run at h ⊢
  split at h
  · cases h
  · rfl

theorem run_of_ok {batch : List BarUpsertRow} {plan : BarUpsertPlan}
    (h : call.upsertBarRows batch t = .ok (plan, t')) : call.run batch t = (.ok plan, t') := by
  rw [UpsertCall.run, h]

theorem run_eq_ok {batch : List BarUpsertRow} {plan : BarUpsertPlan}
    (h : (call.run batch t).1 = .ok plan) :
    call.upsertBarRows batch t = .ok (plan, (call.run batch t).2) := by
  unfold UpsertCall.run at h ⊢
  split at h
  · rename_i hOk
    cases h
    rw [hOk]
  · cases h

theorem loadExistingBarRows_congr {batch : List BarUpsertRow} (deduped : Deduped rows)
    (h : dedupeRows batch = .ok rows) : loadExistingBarRows batch t = loadExistingBarRows rows t := by
  rw [loadExistingBarRows, loadExistingBarRows, h, deduped.dedupeRows_eq]

theorem buildPlan_congr {batch existing : List BarUpsertRow} (deduped : Deduped rows)
    (h : dedupeRows batch = .ok rows) :
    buildBarUpsertPlanFromRows batch existing = buildBarUpsertPlanFromRows rows existing := by
  rw [buildBarUpsertPlanFromRows, buildBarUpsertPlanFromRows, h, deduped.dedupeRows_eq]

/-- Everything but the reported revisions is as it should be in every run that commits. -/
theorem committed_of_plan (consistent : Consistent t) {batch : List BarUpsertRow}
    (h : dedupeRows batch = .ok rows) {plan : BarUpsertPlan} (hRows : plan.rows = rows)
    (hPredicted : ∃ existing, loadExistingBarRows batch t = .ok existing ∧
      buildBarUpsertPlanFromRows batch existing = .ok plan) :
    Committed call batch rows t ((rows.map fun row => row.toBarRow).foldl call.stored t) plan := by
  obtain ⟨deduped, hAll, hFrom⟩ := dedupeRows_eq_ok h
  have hNodup : ((rows.map fun row => row.toBarRow).map fun row => row.key).Nodup := by
    rw [List.map_map]
    exact deduped.nodup
  have upserted := upserted_foldl call (rows.map fun row => row.toBarRow) consistent.keyed hNodup
  have hCurrent : ∀ row ∈ rows, ((rows.map fun row => row.toBarRow).foldl call.stored t).current
      row.key = some (call.version t row.toBarRow) :=
    fun row hRow => upserted.current (List.mem_map.mpr ⟨row, hRow, rfl⟩)
  constructor
  case planned => exact hRows
  case values =>
    intro row hRow
    obtain ⟨d, hd, hKey, hValues⟩ := hAll row hRow
    exact ⟨_, hKey ▸ hCurrent d hd, (values_version t d.toBarRow).trans hValues⟩
  case unchanged =>
    intro row hRow old hOld hValues
    rw [hCurrent row hRow, UpsertCall.version, hOld]
    simp [hValues]
  case replaced =>
    intro row hRow old hOld hValues
    rw [hCurrent row hRow, UpsertCall.version, hOld]
    simp [hValues, UpsertCall.newVersion]
  case revised =>
    rw [upserted.revisions, List.filterMap_map]
    rfl
  case sides =>
    intro r hr
    obtain ⟨row, hRow, hRevision⟩ := List.mem_filterMap.mp hr
    obtain ⟨old, hOld, hValues, rfl, -⟩ := newRevision_eq_some hRevision
    refine ⟨row, hRow, old, hOld, hValues, previousSide_revisionOf _ _, ?_⟩
    rw [incomingSide_revisionOf (BarTables.current_eq_some hOld).2.symm]
    rfl
  case untouched =>
    intro k hk
    refine upserted.kept k fun row hRow => ?_
    obtain ⟨d, hd, rfl⟩ := List.mem_map.mp hRow
    exact hk d (hFrom d hd)
  case predicted => exact hPredicted

/-- The run agrees with the planner exactly when, for a batch that nothing refuses, the time window
holds the new revisions and no revision stored before. -/
theorem upsert_agrees_iff (consistent : Consistent t) (call : UpsertCall)
    (batch : List BarUpsertRow) :
    UpsertAgrees call batch t ↔ ∀ rows, dedupeRows batch = .ok rows →
      (∀ row ∈ rows, call.Admissible t row.toBarRow) → call.WindowExact rows t := by
  constructor
  · intro agrees rows h admissible
    obtain ⟨deduped, -, -⟩ := dedupeRows_eq_ok h
    obtain ⟨existing, persisted, hLoaded, hWrite, hPlan, hExact⟩ :=
      writeBarRows_eq_ok consistent deduped admissible
    have hRun := run_of_ok ((upsertBarRows_eq consistent h).trans hWrite)
    obtain ⟨rows', hRows', committed⟩ := agrees.committed _ (by rw [hRun])
    obtain ⟨existing', hLoaded', hPlan'⟩ := committed.predicted
    rw [loadExistingBarRows_congr deduped h, hLoaded, Except.ok.injEq] at hLoaded'
    rw [buildPlan_congr deduped h, ← hLoaded', hPlan, Except.ok.injEq] at hPlan'
    exact hExact.mp (congrArg BarUpsertPlan.revisions hPlan').symm
  · intro hWindow
    constructor
    case rolledBack => exact fun e hRaised => rolledBack_of_run hRaised
    case refused =>
      intro rows h row hRow old hCurrent hStale
      obtain ⟨deduped, -, -⟩ := dedupeRows_eq_ok h
      rw [UpsertCall.run, upsertBarRows_eq consistent h,
        writeBarRows_of_stale consistent deduped hRow hCurrent hStale]
    case committed =>
      intro plan hPlanned
      have hRun := run_eq_ok hPlanned
      cases h : dedupeRows batch with
      | error e =>
        rw [UpsertCall.upsertBarRows, h] at hRun
        cases hRun
      | ok rows =>
        obtain ⟨deduped, -, -⟩ := dedupeRows_eq_ok h
        rw [upsertBarRows_eq consistent h] at hRun
        have admissible := admissible_of_writeBarRows consistent deduped hRun
        obtain ⟨existing, persisted, hLoaded, hWrite, hPlan, hExact⟩ :=
          writeBarRows_eq_ok consistent deduped admissible
        rw [hWrite, Except.ok.injEq, Prod.mk.injEq] at hRun
        obtain ⟨rfl, hTables⟩ := hRun
        refine ⟨rows, rfl, ?_⟩
        rw [← hTables]
        refine committed_of_plan consistent h rfl ⟨existing, ?_, ?_⟩
        · rw [loadExistingBarRows_congr deduped h, hLoaded]
        · rw [buildPlan_congr deduped h, hPlan, hExact.mpr (hWindow rows h admissible)]

def replayedRow : BarUpsertRow := ⟨restatedRow 6 4, by decide, by decide⟩

def restatement : BarRevisionRow :=
  ⟨restatedKey, ⟨restatedRow 5 1, by decide, by decide⟩, replayedRow⟩

/-- A replay whose write starts in the microsecond in which the restatement was recorded. -/
def replayCall : UpsertCall := ⟨11, 5, fun _ => 5, fun _ => 5⟩

/-- Nothing changes and nothing is planned, but the run reports the stored revision. -/
theorem replay_reports_stored_revision :
    loadExistingBarRows [replayedRow] restatedArchive.tables = .ok [replayedRow] ∧
    buildBarUpsertPlanFromRows [replayedRow] [replayedRow] = .ok ⟨[replayedRow], []⟩ ∧
    replayCall.run [replayedRow] restatedArchive.tables =
      (.ok ⟨[replayedRow], [restatement]⟩, restatedArchive.tables) ∧
    ¬ UpsertAgrees replayCall [replayedRow] restatedArchive.tables := by
  obtain ⟨hLoaded, hPlan, hRun⟩ :
      loadExistingBarRows [replayedRow] restatedArchive.tables = .ok [replayedRow] ∧
      buildBarUpsertPlanFromRows [replayedRow] [replayedRow] = .ok ⟨[replayedRow], []⟩ ∧
      replayCall.run [replayedRow] restatedArchive.tables =
        (.ok ⟨[replayedRow], [restatement]⟩, restatedArchive.tables) := by decide +kernel
  refine ⟨hLoaded, hPlan, hRun, fun agrees => ?_⟩
  obtain ⟨rows, -, committed⟩ := agrees.committed _ (congrArg Prod.fst hRun)
  obtain ⟨existing, hExisting, hPredicted⟩ := committed.predicted
  rw [hLoaded, Except.ok.injEq] at hExisting
  rw [← hExisting, hPlan, Except.ok.injEq, BarUpsertPlan.mk.injEq] at hPredicted
  exact List.cons_ne_nil _ _ hPredicted.2.symm

theorem upsert_agrees_later_replay :
    UpsertAgrees ⟨11, 6, fun _ => 6, fun _ => 6⟩ [replayedRow] restatedArchive.tables := by
  refine (upsert_agrees_iff (archived_of_run restatedArchive_run).consistent _ _).mpr ?_
  intro rows hRows _
  have hDeduped : Deduped [replayedRow] := List.pairwise_singleton _ _
  rw [hDeduped.dedupeRows_eq, Except.ok.injEq] at hRows
  subst hRows
  constructor
  case earlier => decide
  case stamped =>
    intro row hRow old hCurrent hValues
    have hKnown : restatedArchive.tables.current row.key = some (stampInsert ⟨5, 9⟩ row.toBarRow) := by
      rw [List.mem_singleton.mp hRow]
      decide
    rw [hKnown, Option.some.injEq] at hCurrent
    rw [← hCurrent] at hValues
    exact absurd rfl hValues

end StockApi.Bars

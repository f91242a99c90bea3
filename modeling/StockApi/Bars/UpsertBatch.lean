import StockApi.Bars.Dedupe
import StockApi.Bars.History

/-!
# The effect of an upsert

What one row, and then a whole deduplicated batch, does to the tables. The rows have distinct
keys, so each of them meets the tables as they were before the run.
-/

namespace StockApi.Bars

open Checked Relational VersionChain Relation

/-- The batch has a row with the same key and values. -/
def Represented (rows : List BarUpsertRow) (row : BarUpsertRow) : Prop :=
  ∃ d ∈ rows, d.key = row.key ∧ d.values = row.values

theorem dedupeRows_eq_ok {batch rows : List BarUpsertRow} (h : dedupeRows batch = .ok rows) :
    Deduped rows ∧ (∀ row ∈ batch, Represented rows row) ∧ ∀ d ∈ rows, d ∈ batch := by
  have hCanonical := canonical_of_dedupeRows h
  refine ⟨hCanonical.ordered, ?_, fun d hd => (hCanonical.earliest d hd).mem⟩
  intro row hRow
  obtain ⟨d, hd, hKey⟩ := hCanonical.covers row hRow
  exact ⟨d, hd, hKey, ((hCanonical.earliest d hd).values row hRow hKey.symm).symm⟩

/-! ## One row -/

theorem BarTables.current_eq_some {t : BarTables} {key : BarKey} {old : Bar}
    (h : t.current key = some old) : old ∈ t.bars ∧ old.key = key :=
  ⟨List.mem_of_find?_eq_some h, by simpa using List.find?_some h⟩

theorem revisionOf_checks {old new : Bar} (hOld : old.Checks) (hNew : new.Checks)
    (hKey : new.key = old.key) (h : Supersedes old new) : (revisionOf old new).Checks := by
  obtain ⟨hMultiplier, hValues, hFetched, hAsOf, hRecorded, hXid⟩ := hOld
  obtain ⟨-, hValues', hFetched', hAsOf', hRecorded', hXid'⟩ := hNew
  rw [hKey] at hFetched'
  exact ⟨hMultiplier, hValues, hValues', ⟨hFetched, hFetched', hAsOf, hAsOf'⟩,
    ⟨h.recorded, hRecorded, hRecorded', rfl, h.asOf, h.fetched⟩, hXid, hXid'⟩

/-- The version that a changed row becomes. -/
def UpsertCall.newVersion (call : UpsertCall) (old : Bar) (row : BarRow) : Bar :=
  { row with
    recordedAt := max (call.updateClock row.key) (old.recordedAt + 1)
    creatorXid := call.txid }

/-- Nothing in the statement refuses the row. -/
def UpsertCall.Admissible (call : UpsertCall) (t : BarTables) (row : BarRow) : Prop :=
  (call.proposed row).Checks ∧ ∀ old, t.current row.key = some old → old.values ≠ row.values →
    ¬ Stale old.toBarRow row ∧ (call.newVersion old row).Checks

/-- The revision that the row causes. -/
def UpsertCall.newRevision (call : UpsertCall) (t : BarTables) (row : BarRow) : Option BarRevision :=
  (t.current row.key).bind fun old =>
    if old.values = row.values then none else some (revisionOf old (call.newVersion old row))

/-- The tables with the row stored. -/
def UpsertCall.stored (call : UpsertCall) (t : BarTables) (row : BarRow) : BarTables :=
  match t.current row.key with
  | none => { t with bars := t.bars ++ [call.proposed row] }
  | some old =>
    if old.values = row.values then t
    else { t with
      bars := replaceBar t.bars (call.newVersion old row)
      revisions := t.revisions ++ [revisionOf old (call.newVersion old row)] }

variable {call : UpsertCall} {t t' : BarTables} {row : BarRow}

theorem not_stale_iff {old : BarRow} (h : old.values ≠ row.values) :
    ¬ Stale old row ↔ old.asOf < row.asOf ∧ old.fetchedAt < row.fetchedAt := by
  rw [Stale, and_iff_right h, not_or, not_le, not_le]

/-- An update to other values succeeds exactly when its evidence is newer and its constraints hold. -/
theorem updateBar_eq_ok_iff {old : Bar} {stored : Option Bar} (hOld : t.current row.key = some old)
    (hValues : old.values ≠ row.values) (hChecks : old.Checks) :
    updateBar ⟨call.updateClock row.key, call.txid⟩ row.key row t = .ok (stored, t') ↔
      (¬ Stale old.toBarRow row ∧ (call.newVersion old row).Checks) ∧
        stored = some (call.newVersion old row) ∧
        { t with bars := replaceBar t.bars (call.newVersion old row),
                 revisions := t.revisions ++ [revisionOf old (call.newVersion old row)] } = t' := by
  have hKey : old.key = row.key := (BarTables.current_eq_some hOld).2
  have hStamp : ∀ h : ¬ Stale old.toBarRow row,
      stampUpdate ⟨call.updateClock row.key, call.txid⟩ old row =
        .ok (some (call.newVersion old row)) := by
    intro h
    obtain ⟨hAsOf, hFetched⟩ := (not_stale_iff hValues).mp h
    rw [stampUpdate, if_neg (not_not.mpr hKey), if_neg hValues, if_neg]
    · rfl
    · rintro (hLe | hLe) <;> omega
  unfold updateBar
  simp only [hOld]
  constructor
  · intro h
    by_cases hStale : Stale old.toBarRow row
    · rw [stampUpdate, if_neg (not_not.mpr hKey), if_neg hValues, if_pos hStale.2] at h
      cases h
    · rw [hStamp hStale, ok_bind] at h
      simp only [storeVersion] at h
      rw [refuseIf_bind_eq_ok_iff, refuseIf_bind_eq_ok_iff, pure_eq_ok] at h
      obtain ⟨-, hNew, h⟩ := h
      cases h
      exact ⟨⟨hStale, not_not.mp hNew⟩, rfl, rfl⟩
  · rintro ⟨⟨hStale, hNew⟩, rfl, rfl⟩
    obtain ⟨hAsOf, hFetched⟩ := (not_stale_iff hValues).mp hStale
    have hSupersedes : Supersedes old (call.newVersion old row) :=
      ⟨lt_of_lt_of_le (Int.lt_succ _) (le_max_right _ _), hAsOf, hFetched⟩
    have hRevision := revisionOf_checks hChecks hNew hKey.symm hSupersedes
    rw [hStamp hStale, ok_bind]
    simp only [storeVersion]
    rw [refuseIf_of_not (not_not.mpr hRevision), ok_bind, refuseIf_of_not (not_not.mpr hNew)]
    rfl

theorem upsertBar_eq_ok_iff (checked : ∀ b ∈ t.bars, b.Checks) :
    call.upsertBar t row = .ok t' ↔ call.Admissible t row ∧ call.stored t row = t' := by
  unfold UpsertCall.upsertBar UpsertCall.Admissible UpsertCall.stored
  cases hCurrent : t.current row.key with
  | none =>
    simp only [reduceCtorEq, false_imp_iff, implies_true, and_true]
    constructor
    · intro h
      rw [bind_eq_ok_iff] at h
      obtain ⟨⟨b, stored⟩, hInsert, h⟩ := h
      cases h
      obtain ⟨rfl, hChecks, -, rfl⟩ := insertBar_eq_ok hInsert
      exact ⟨hChecks, rfl⟩
    · rintro ⟨hChecks, rfl⟩
      rw [insertBar_of_new hChecks hCurrent]
      rfl
  | some old =>
    simp only [Option.some.injEq, forall_eq', UpsertCall.onConflict]
    rw [refuseIf_bind_eq_ok_iff, not_not, and_assoc]
    refine and_congr_right fun _ => ?_
    by_cases hValues : old.values = row.values
    · rw [if_pos hValues, if_pos hValues, pure_eq_ok, Except.ok.injEq]
      simp [hValues]
    · rw [if_neg hValues, if_neg hValues, bind_eq_ok_iff]
      have hOld := checked old (BarTables.current_eq_some hCurrent).1
      constructor
      · rintro ⟨⟨b, stored⟩, hUpdate, h⟩
        cases h
        obtain ⟨hOk, -, hStored⟩ := (updateBar_eq_ok_iff hCurrent hValues hOld).mp hUpdate
        exact ⟨fun _ => hOk, hStored⟩
      · rintro ⟨hOk, rfl⟩
        exact ⟨(some _, _), (updateBar_eq_ok_iff hCurrent hValues hOld).mpr ⟨hOk hValues, rfl, rfl⟩,
          rfl⟩

/-! ## A batch -/

/-- The key of `bars` is unique. -/
def BarTables.Keyed (t : BarTables) : Prop :=
  ∀ k, (t.bars.filter fun b => decide (b.key = k)) = (t.current k).toList

theorem BarTables.current_eq_head? (t : BarTables) (k : BarKey) :
    t.current k = (t.bars.filter fun b => decide (b.key = k)).head? := by
  rw [BarTables.current, ← List.head?_filter]

/-- The version that is current once the row is stored. -/
def UpsertCall.version (call : UpsertCall) (t : BarTables) (row : BarRow) : Bar :=
  match t.current row.key with
  | none => call.proposed row
  | some old => if old.values = row.values then old else call.newVersion old row

theorem key_version (t : BarTables) (row : BarRow) : (call.version t row).key = row.key := by
  unfold UpsertCall.version
  split
  · rfl
  · rename_i old hOld
    split
    · exact (BarTables.current_eq_some hOld).2
    · rfl

theorem values_version (t : BarTables) (row : BarRow) :
    (call.version t row).values = row.values := by
  unfold UpsertCall.version
  split
  · rfl
  · split
    · assumption
    · rfl

theorem filter_stored (keyed : t.Keyed) (k : BarKey) :
    ((call.stored t row).bars.filter fun b => decide (b.key = k)) =
      if row.key = k then [call.version t row] else t.bars.filter fun b => decide (b.key = k) := by
  unfold UpsertCall.stored UpsertCall.version
  cases hCurrent : t.current row.key with
  | none =>
    have hProposed : (call.proposed row).key = row.key := rfl
    simp only [List.filter_append]
    by_cases hKey : row.key = k
    · subst hKey
      rw [keyed, hCurrent]
      simp [hProposed]
    · simp [hProposed, hKey]
  | some old =>
    simp only
    by_cases hValues : old.values = row.values
    · rw [if_pos hValues, if_pos hValues]
      split
      · rename_i hKey
        subst hKey
        rw [keyed, hCurrent, Option.toList_some]
      · rfl
    · have hNew : (call.newVersion old row).key = row.key := rfl
      rw [if_neg hValues, if_neg hValues]
      simp only [filter_replaceBar, hNew]
      split
      · rename_i hKey
        subst hKey
        rw [keyed, hCurrent, Option.toList_some, List.map_singleton]
      · rfl

theorem current_stored (keyed : t.Keyed) {k : BarKey} (h : row.key ≠ k) :
    (call.stored t row).current k = t.current k := by
  rw [BarTables.current_eq_head?, filter_stored keyed, if_neg h, ← BarTables.current_eq_head?]

theorem keyed_stored (keyed : t.Keyed) : (call.stored t row).Keyed := by
  intro k
  rw [BarTables.current_eq_head?, filter_stored keyed]
  split
  · rfl
  · rw [keyed k]
    cases t.current k <;> rfl

theorem checked_stored (checked : ∀ b ∈ t.bars, b.Checks) (admissible : call.Admissible t row) :
    ∀ b ∈ (call.stored t row).bars, b.Checks := by
  intro b hMem
  unfold UpsertCall.stored at hMem
  cases hCurrent : t.current row.key with
  | none =>
    simp only [hCurrent, List.mem_append, List.mem_singleton] at hMem
    rcases hMem with hMem | rfl
    · exact checked b hMem
    · exact admissible.1
  | some old =>
    simp only [hCurrent] at hMem
    by_cases hValues : old.values = row.values
    · rw [if_pos hValues] at hMem
      exact checked b hMem
    · rw [if_neg hValues] at hMem
      obtain ⟨other, hOther, rfl⟩ := List.mem_map.mp hMem
      split
      · exact (admissible.2 old hCurrent hValues).2
      · exact checked other hOther

theorem revisions_stored :
    (call.stored t row).revisions = t.revisions ++ (call.newRevision t row).toList := by
  unfold UpsertCall.stored UpsertCall.newRevision
  cases t.current row.key with
  | none => simp
  | some old =>
    simp only [Option.bind_some]
    split <;> simp

theorem receipts_stored : (call.stored t row).receipts = t.receipts := by
  unfold UpsertCall.stored
  cases t.current row.key with
  | none => rfl
  | some old =>
    simp only
    split <;> rfl

/-- Only the current row of its own key decides about a row. -/
theorem admissible_congr (h : t'.current row.key = t.current row.key) :
    call.Admissible t' row ↔ call.Admissible t row := by
  rw [UpsertCall.Admissible, UpsertCall.Admissible, h]

theorem newRevision_congr (h : t'.current row.key = t.current row.key) :
    call.newRevision t' row = call.newRevision t row := by
  rw [UpsertCall.newRevision, UpsertCall.newRevision, h]

theorem version_congr (h : t'.current row.key = t.current row.key) :
    call.version t' row = call.version t row := by
  rw [UpsertCall.version, UpsertCall.version, h]

/-- What a batch of rows with distinct keys leaves behind. -/
structure Upserted (call : UpsertCall) (rows : List BarRow) (t t' : BarTables) : Prop where
  stored : ∀ row ∈ rows,
    (t'.bars.filter fun b => decide (b.key = row.key)) = [call.version t row]
  kept : ∀ k, (∀ row ∈ rows, row.key ≠ k) →
    (t'.bars.filter fun b => decide (b.key = k)) = t.bars.filter fun b => decide (b.key = k)
  revisions : t'.revisions = t.revisions ++ rows.filterMap (call.newRevision t)
  receipts : t'.receipts = t.receipts

theorem Upserted.current {rows : List BarRow} (upserted : Upserted call rows t t')
    (hRow : row ∈ rows) : t'.current row.key = some (call.version t row) := by
  rw [BarTables.current_eq_head?, upserted.stored row hRow]
  rfl

theorem upserted_foldl (call : UpsertCall) (rows : List BarRow) (keyed : t.Keyed)
    (nodup : (rows.map fun row => row.key).Nodup) :
    Upserted call rows t (rows.foldl call.stored t) := by
  induction rows generalizing t with
  | nil =>
    constructor
    case stored => simp
    case kept => exact fun _ _ => rfl
    case revisions => simp
    case receipts => rfl
  | cons row rest ih =>
    rw [List.map_cons, List.nodup_cons] at nodup
    obtain ⟨hNew, hRest⟩ := nodup
    have hOther : ∀ r ∈ rest, row.key ≠ r.key :=
      fun r hr hSame => hNew (List.mem_map.mpr ⟨r, hr, hSame.symm⟩)
    have hCurrent : ∀ r ∈ rest, (call.stored t row).current r.key = t.current r.key :=
      fun r hr => current_stored keyed (hOther r hr)
    have hKeyed : (call.stored t row).Keyed := keyed_stored keyed
    have upserted := ih hKeyed hRest
    constructor
    case stored =>
      intro r hr
      rcases List.mem_cons.mp hr with rfl | hr
      · rw [List.foldl_cons, upserted.kept r.key fun other h => Ne.symm (hOther other h),
          filter_stored keyed, if_pos rfl]
      · rw [List.foldl_cons, upserted.stored r hr, version_congr (hCurrent r hr)]
    case kept =>
      intro k hk
      rw [List.foldl_cons, upserted.kept k fun r hr => hk r (List.mem_cons_of_mem _ hr),
        filter_stored keyed, if_neg (hk row List.mem_cons_self)]
    case revisions =>
      have hSame : rest.filterMap (call.newRevision (call.stored t row)) =
          rest.filterMap (call.newRevision t) :=
        List.filterMap_congr fun r hr => newRevision_congr (hCurrent r hr)
      rw [List.foldl_cons, upserted.revisions, revisions_stored, hSame, List.filterMap_cons,
        List.append_assoc]
      cases call.newRevision t row <;> rfl
    case receipts => rw [List.foldl_cons, upserted.receipts, receipts_stored]

theorem keyed_foldl (rows : List BarRow) (keyed : t.Keyed) : (rows.foldl call.stored t).Keyed := by
  induction rows generalizing t with
  | nil => exact keyed
  | cons row rest ih => exact ih (keyed_stored keyed)

/-- The statement succeeds exactly when each row is admissible in the tables it starts from. -/
theorem foldlM_upsertBar_eq_ok_iff (rows : List BarRow) (keyed : t.Keyed)
    (checked : ∀ b ∈ t.bars, b.Checks) (nodup : (rows.map fun row => row.key).Nodup) :
    rows.foldlM call.upsertBar t = .ok t' ↔
      (∀ row ∈ rows, call.Admissible t row) ∧ rows.foldl call.stored t = t' := by
  induction rows generalizing t with
  | nil => simp
  | cons row rest ih =>
    rw [List.map_cons, List.nodup_cons] at nodup
    obtain ⟨hNew, hRest⟩ := nodup
    have hAdmissible : (∀ r ∈ rest, call.Admissible (call.stored t row) r) ↔
        ∀ r ∈ rest, call.Admissible t r :=
      forall₂_congr fun r hr => admissible_congr (current_stored keyed
        fun hSame => hNew (List.mem_map.mpr ⟨r, hr, hSame.symm⟩))
    rw [List.foldlM_cons, bind_eq_ok_iff, List.forall_mem_cons, List.foldl_cons, and_assoc]
    constructor
    · rintro ⟨next, hRow, h⟩
      obtain ⟨hFirst, rfl⟩ := (upsertBar_eq_ok_iff checked).mp hRow
      obtain ⟨hOthers, hEnd⟩ := (ih (keyed_stored keyed) (checked_stored checked hFirst) hRest).mp h
      exact ⟨hFirst, hAdmissible.mp hOthers, hEnd⟩
    · rintro ⟨hFirst, hOthers, hEnd⟩
      refine ⟨_, (upsertBar_eq_ok_iff checked).mpr ⟨hFirst, rfl⟩, ?_⟩
      exact (ih (keyed_stored keyed) (checked_stored checked hFirst) hRest).mpr
        ⟨hAdmissible.mpr hOthers, hEnd⟩

theorem checked_foldlM (rows : List BarRow) (checked : ∀ b ∈ t.bars, b.Checks)
    (h : rows.foldlM call.upsertBar t = .ok t') : ∀ b ∈ t'.bars, b.Checks := by
  induction rows generalizing t with
  | nil =>
    cases h
    exact checked
  | cons row rest ih =>
    rw [List.foldlM_cons, bind_eq_ok_iff] at h
    obtain ⟨next, hRow, h⟩ := h
    obtain ⟨hAdmissible, rfl⟩ := (upsertBar_eq_ok_iff checked).mp hRow
    exact ih (checked_stored checked hAdmissible) h

end StockApi.Bars

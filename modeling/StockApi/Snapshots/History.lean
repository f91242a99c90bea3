import StockApi.Bars.Selectors
import StockApi.Library.Float64
import StockApi.Snapshots.Sessions

/-!
# The verified history

`_verify_and_order_bars` walks the rows from the newest to the oldest and keeps those that lie on
the sessions before the cutoff one by one. What it keeps is the longest run without a gap that ends
at the latest completed session; a second row on a session of that run is an error.
-/

namespace StockApi.Snapshots

open Checked CivilTime SessionCalendar
open Bars (SnapshotBuildSpec)

structure PointInTimeBar where
  symbol : String
  timespan : String
  multiplier : Int
  source : String
  adjustmentBasis : String
  observedAt : Instant
  close : Float64
  fetchedAt : Instant
  sourceAsOf : Instant
  recordedAt : Instant
  availableAt : Instant
  activeVersionCount : Int
deriving DecidableEq

def PointInTimeBar.date (row : PointInTimeBar) : Date := row.observedAt.date

def PointInTimeBar.notLater (a b : PointInTimeBar) : Prop := a.observedAt ≤ b.observedAt

instance : DecidableRel PointInTimeBar.notLater := fun a b =>
  inferInstanceAs (Decidable (a.observedAt ≤ b.observedAt))

instance : Std.Total PointInTimeBar.notLater := ⟨fun a b => le_total a.observedAt b.observedAt⟩

instance : IsTrans PointInTimeBar PointInTimeBar.notLater := ⟨fun _ _ _ => le_trans⟩

section Verify

variable (calendar : Calendar)

/-- The loop over the reversed rows. `suffix_reversed` grows at its end there and at its head here,
so that what is returned is `selected`. -/
def scanSuffix : List PointInTimeBar → Date → List PointInTimeBar →
    Except SnapshotBuildError (List PointInTimeBar)
  | [], _, suffix => .ok suffix
  | row :: older, expected, suffix => do
    if (← raised (calendar.isSession row.date)) = false then
      if suffix = [] ∨ expected ≤ row.date then
        .error (.availability "daily bar timestamp is not an XNYS session")
      else return suffix
    else if row.date < expected then return suffix
    else if expected < row.date then
      .error (.availability "point-in-time reconstruction returned duplicate or future bars")
    else do
      let previous ← raised (calendar.previousSession expected)
      scanSuffix older previous (row :: suffix)

/-- The body of the loop over the selected rows. -/
def verifyBar (spec : SnapshotBuildSpec) (policy : ForecastSnapshotBuildPolicy)
    (row : PointInTimeBar) : Except SnapshotBuildError PUnit := do
  refuseIf (row.symbol ≠ spec.symbol ∨ row.timespan ≠ policy.inputTimespan ∨
      row.multiplier ≠ policy.inputMultiplier ∨ row.source ≠ policy.source ∨
      row.adjustmentBasis ≠ policy.seriesBasis)
    (SnapshotBuildError.availability "bar does not match the pinned source key")
  refuseIf (row.activeVersionCount ≠ 1)
    (SnapshotBuildError.availability "bar has multiple active versions at the cutoff")
  refuseIf (row.close.isFinite = false ∨ row.close.isNegative = true)
    (SnapshotBuildError.availability "bar close must be finite and nonnegative")
  let sessionClose ← raised (calendar.sessionClose row.date)
  refuseIf (¬ (row.observedAt ≤ sessionClose ∧ sessionClose ≤ row.fetchedAt ∧
      row.fetchedAt ≤ row.sourceAsOf ∧ row.sourceAsOf ≤ row.recordedAt ∧
      row.recordedAt ≤ row.availableAt ∧ row.availableAt ≤ spec.asOf))
    (SnapshotBuildError.availability "bar availability timestamps violate the rule set")

/-- `_verify_and_order_bars`. -/
def verifyAndOrderBars (rows : List PointInTimeBar) (spec : SnapshotBuildSpec)
    (policy : ForecastSnapshotBuildPolicy) : Except SnapshotBuildError (List PointInTimeBar) := do
  let ordered := rows.insertionSort PointInTimeBar.notLater
  let latest ← latestCompletedSession calendar spec.asOf
  let selected ← scanSuffix calendar ordered.reverse latest []
  refuseIf (selected.length < policy.minimumObservations)
    (SnapshotBuildError.inputUnavailable ("newest contiguous suffix requires at least " ++
      toString policy.minimumObservations ++ " complete observations; found " ++
      toString selected.length))
  selected.forM (verifyBar calendar spec policy)
  return selected

end Verify

/-! ## The loop -/

section Scan

variable {calendar : Calendar}

/-- The labels of the sessions from a position back to the first. -/
def labelsBack (calendar : Calendar) (e : Nat) : List Date :=
  ((calendar.sessions.take (e + 1)).map Session.label).reverse

theorem labelsBack_succ {e : Nat} (h : e + 1 < calendar.sessions.length) :
    labelsBack calendar (e + 1) = calendar.sessions[e + 1].label :: labelsBack calendar e := by
  rw [labelsBack, List.take_succ_eq_append_getElem h, List.map_append, List.reverse_append]
  rfl

/-- What one row does to the loop. -/
theorem scanSuffix_cons_eq_ok {row : PointInTimeBar} {older suffix out : List PointInTimeBar}
    {e : Nat} (he : e < calendar.sessions.length)
    (h : scanSuffix calendar (row :: older) calendar.sessions[e].label suffix = .ok out) :
    (row.date < calendar.sessions[e].label ∧ out = suffix) ∨
    (row.date = calendar.sessions[e].label ∧ ∃ d, ∃ hd : d < calendar.sessions.length, e = d + 1 ∧
      scanSuffix calendar older calendar.sessions[d].label (row :: suffix) = .ok out) := by
  rw [scanSuffix, bind_eq_ok_iff] at h
  obtain ⟨found, hFound, h⟩ := h
  split_ifs at h with hSession hEmpty hOlder hNewer
  · cases h
    rw [not_or, not_le] at hEmpty
    exact .inl ⟨hEmpty.2, rfl⟩
  · cases h
    exact .inl ⟨hOlder, rfl⟩
  · right
    refine ⟨le_antisymm (not_lt.mp hNewer) (not_lt.mp hOlder), ?_⟩
    cases e with
    | zero =>
      rw [calendar.previousSession_first he] at h
      cases h
    | succ d =>
      have hd : d < calendar.sessions.length := Nat.lt_of_succ_lt he
      rw [calendar.previousSession_succ hd he, raised_ok, ok_bind] at h
      exact ⟨d, hd, rfl, h⟩

theorem scanSuffix_keep {row : PointInTimeBar} {older suffix : List PointInTimeBar} {d : Nat}
    (hd : d < calendar.sessions.length) (he : d + 1 < calendar.sessions.length)
    (hOn : row.date = calendar.sessions[d + 1].label) :
    scanSuffix calendar (row :: older) calendar.sessions[d + 1].label suffix =
      scanSuffix calendar older calendar.sessions[d].label (row :: suffix) := by
  rw [scanSuffix, hOn, calendar.isSession_label he, raised_ok, ok_bind, if_neg Bool.noConfusion,
    if_neg (lt_irrefl _), if_neg (lt_irrefl _), calendar.previousSession_succ hd he, raised_ok, ok_bind]

/-- The rows that are kept lie on consecutive sessions, and all the others are older. -/
theorem scanSuffix_spec {rows suffix out : List PointInTimeBar} {e : Nat}
    (descending : rows.Pairwise fun newer older => older.notLater newer)
    (he : e < calendar.sessions.length)
    (h : scanSuffix calendar rows calendar.sessions[e].label suffix = .ok out) :
    ∃ taken rest, rows = taken ++ rest ∧ out = taken.reverse ++ suffix ∧ taken.length ≤ e ∧
      taken.map PointInTimeBar.date = (labelsBack calendar e).take taken.length ∧
      ∀ d (hd : d < calendar.sessions.length), d + taken.length = e →
        (∀ row ∈ taken, calendar.sessions[d].label < row.date) ∧
        ∀ row ∈ rest, row.date < calendar.sessions[d].label := by
  induction rows generalizing e suffix with
  | nil =>
    cases h
    exact ⟨[], [], rfl, rfl, Nat.zero_le _, rfl, fun _ _ _ =>
      ⟨fun row hRow => absurd hRow List.not_mem_nil, fun row hRow => absurd hRow List.not_mem_nil⟩⟩
  | cons row older ih =>
    obtain ⟨hNewest, hOlder⟩ := List.pairwise_cons.mp descending
    rcases scanSuffix_cons_eq_ok he h with ⟨hLess, rfl⟩ | ⟨hOn, d, hd, rfl, hRest⟩
    · refine ⟨[], row :: older, rfl, rfl, Nat.zero_le _, rfl, ?_⟩
      rintro d hd rfl
      refine ⟨fun row hRow => absurd hRow List.not_mem_nil, fun r hr => ?_⟩
      rcases List.mem_cons.mp hr with rfl | hr
      · exact hLess
      · exact (Instant.date_mono (hNewest r hr)).trans_lt hLess
    · obtain ⟨taken, rest, rfl, rfl, hLength, hDates, hLast⟩ := ih hOlder hd hRest
      refine ⟨row :: taken, rest, rfl, by simp, by simpa using hLength, ?_, ?_⟩
      · rw [List.map_cons, hOn, hDates, labelsBack_succ he]
        rfl
      · intro d' hd' hEq
        rw [List.length_cons] at hEq
        obtain ⟨hAfter, hBefore⟩ := hLast d' hd' (by omega)
        refine ⟨fun r hr => ?_, hBefore⟩
        rcases List.mem_cons.mp hr with rfl | hr
        · rw [hOn]
          exact (calendar.label_lt_iff hd' he).mpr (by omega)
        · exact hAfter r hr

/-- No row is newer than the session that is expected. -/
theorem date_le_of_scanSuffix {rows suffix out : List PointInTimeBar} {e : Nat}
    (descending : rows.Pairwise fun newer older => older.notLater newer)
    (he : e < calendar.sessions.length)
    (h : scanSuffix calendar rows calendar.sessions[e].label suffix = .ok out) :
    ∀ row ∈ rows, row.date ≤ calendar.sessions[e].label := by
  cases rows with
  | nil => exact fun row hRow => absurd hRow List.not_mem_nil
  | cons newest older =>
    have hNewest : newest.date ≤ calendar.sessions[e].label := by
      rcases scanSuffix_cons_eq_ok he h with ⟨hLess, _⟩ | ⟨hOn, _⟩
      · exact hLess.le
      · exact hOn.le
    intro row hRow
    rcases List.mem_cons.mp hRow with rfl | hRow
    · exact hNewest
    · exact (Instant.date_mono ((List.pairwise_cons.mp descending).1 row hRow)).trans hNewest

/-- Rows of one instant may change places: were they on a session that is kept, the loop would have
failed. -/
theorem scanSuffix_perm {xs ys suffix out : List PointInTimeBar} {e : Nat} (perm : xs.Perm ys)
    (hxs : xs.Pairwise fun newer older => older.notLater newer)
    (hys : ys.Pairwise fun newer older => older.notLater newer)
    (he : e < calendar.sessions.length)
    (h : scanSuffix calendar xs calendar.sessions[e].label suffix = .ok out) :
    scanSuffix calendar ys calendar.sessions[e].label suffix = .ok out := by
  induction xs generalizing ys e suffix with
  | nil =>
    obtain rfl := List.nil_perm.mp perm
    exact h
  | cons x xs ih =>
    cases ys with
    | nil => exact absurd perm.symm (List.not_perm_nil_cons _ _)
    | cons y ys =>
      obtain ⟨hNewestX, hOlderX⟩ := List.pairwise_cons.mp hxs
      obtain ⟨hNewestY, hOlderY⟩ := List.pairwise_cons.mp hys
      have hDate : y.date = x.date := by
        apply le_antisymm
        · rcases List.mem_cons.mp (perm.mem_iff.mpr List.mem_cons_self) with rfl | hy
          · exact le_rfl
          · exact Instant.date_mono (hNewestX y hy)
        · rcases List.mem_cons.mp (perm.mem_iff.mp List.mem_cons_self) with rfl | hx
          · exact le_rfl
          · exact Instant.date_mono (hNewestY x hx)
      rcases scanSuffix_cons_eq_ok he h with ⟨hLess, rfl⟩ | ⟨hOn, d, hd, rfl, hRest⟩
      · rw [scanSuffix] at h ⊢
        rw [hDate]
        rw [bind_eq_ok_iff] at h ⊢
        obtain ⟨found, hFound, h⟩ := h
        refine ⟨found, hFound, ?_⟩
        split_ifs at h ⊢
        all_goals exact h
      · have hSame : y = x := by
          by_contra hOther
          have hy := (List.mem_cons.mp (perm.mem_iff.mpr (List.mem_cons_self (a := y)))).resolve_left hOther
          have hLe := date_le_of_scanSuffix hOlderX hd hRest y hy
          rw [hDate, hOn, ← not_lt] at hLe
          exact hLe ((calendar.label_lt_iff hd he).mpr (Nat.lt_succ_self d))
        subst hSame
        rw [scanSuffix_keep hd he hOn]
        exact ih perm.cons_inv hOlderX hOlderY hd hRest

end Scan

/-! ## What is returned -/

/-- A history on the sessions up to a position, for the rows it was selected from. -/
structure EndsAt (calendar : Calendar) (rows : List PointInTimeBar) (spec : SnapshotBuildSpec)
    (policy : ForecastSnapshotBuildPolicy) (selected : List PointInTimeBar) (last : Nat)
    (h : last < calendar.sessions.length) : Prop where
  /-- The last session is the latest that closed by the cutoff. -/
  closed : ∀ j (hj : j < calendar.sessions.length),
    calendar.sessions[j].close ≤ spec.asOf ↔ j ≤ last
  older : selected.length ≤ last
  consecutive : selected.map PointInTimeBar.date =
    ((calendar.sessions.take (last + 1)).map Session.label).drop (last + 1 - selected.length)
  /-- No row lies on the session before the first one. -/
  maximal : ∀ d (hd : d < calendar.sessions.length), d + selected.length = last →
    ∀ row ∈ rows, row.date ≠ calendar.sessions[d].label
  newest : ∀ row ∈ rows, row.date ≤ calendar.sessions[last].label
  enough : policy.minimumObservations ≤ selected.length
  supplied : ∀ row ∈ selected, row ∈ rows
  single : ∀ row ∈ selected, rows.countP (fun other => other.date = row.date) = 1
  timely : ∀ row ∈ selected, ∃ close, calendar.sessionClose row.date = .ok close ∧
    row.observedAt ≤ close ∧ close ≤ row.fetchedAt ∧ row.fetchedAt ≤ row.sourceAsOf ∧
    row.sourceAsOf ≤ row.recordedAt ∧ row.recordedAt ≤ row.availableAt ∧ row.availableAt ≤ spec.asOf

section Returned

variable {calendar : Calendar} {rows selected : List PointInTimeBar} {spec : SnapshotBuildSpec}
  {policy : ForecastSnapshotBuildPolicy}

theorem ordered_descending (rows : List PointInTimeBar) :
    (rows.insertionSort PointInTimeBar.notLater).reverse.Pairwise
      fun newer older => older.notLater newer := by
  rw [List.pairwise_reverse]
  exact List.pairwise_insertionSort PointInTimeBar.notLater rows

theorem ordered_perm (rows : List PointInTimeBar) :
    (rows.insertionSort PointInTimeBar.notLater).reverse.Perm rows :=
  (List.reverse_perm _).trans (List.perm_insertionSort PointInTimeBar.notLater rows)

theorem inBounds_of_latestCompletedSession {cutoff : Instant} {label : Date}
    (h : latestCompletedSession calendar cutoff = .ok label) : calendar.InBounds cutoff.date := by
  by_contra hOut
  rw [latestCompletedSession, lastClosedSession, calendar.dateToSession_outOfBounds hOut] at h
  cases h

theorem verifyBar_eq_ok {row : PointInTimeBar} (h : verifyBar calendar spec policy row = .ok ⟨⟩) :
    ∃ close, calendar.sessionClose row.date = .ok close ∧
      row.observedAt ≤ close ∧ close ≤ row.fetchedAt ∧ row.fetchedAt ≤ row.sourceAsOf ∧
      row.sourceAsOf ≤ row.recordedAt ∧ row.recordedAt ≤ row.availableAt ∧
      row.availableAt ≤ spec.asOf := by
  rw [verifyBar, refuseIf_bind_eq_ok_iff] at h
  obtain ⟨_, h⟩ := h
  rw [refuseIf_bind_eq_ok_iff] at h
  obtain ⟨_, h⟩ := h
  rw [refuseIf_bind_eq_ok_iff] at h
  obtain ⟨_, h⟩ := h
  rw [bind_eq_ok_iff] at h
  obtain ⟨close, hClose, h⟩ := h
  rw [raised_eq_ok_iff] at hClose
  rw [refuseIf_eq_ok_iff, not_not] at h
  exact ⟨close, hClose, h⟩

/-- The parts of a run that returns. -/
theorem verifyAndOrderBars_eq_ok_iff :
    verifyAndOrderBars calendar rows spec policy = .ok selected ↔
      ∃ last, ∃ h : last < calendar.sessions.length,
        last + 1 = calendar.completed spec.asOf ∧ calendar.InBounds spec.asOf.date ∧
        scanSuffix calendar (rows.insertionSort PointInTimeBar.notLater).reverse
          calendar.sessions[last].label [] = .ok selected ∧
        policy.minimumObservations ≤ selected.length ∧
        ∀ row ∈ selected, verifyBar calendar spec policy row = .ok ⟨⟩ := by
  rw [verifyAndOrderBars, bind_eq_ok_iff]
  constructor
  · rintro ⟨latest, hLatest, h⟩
    have inside := inBounds_of_latestCompletedSession hLatest
    obtain ⟨last, hLast, hCompleted, rfl⟩ := (lastClosedSession_eq_ok_iff calendar inside).mp hLatest
    rw [bind_eq_ok_iff] at h
    obtain ⟨found, hScan, h⟩ := h
    rw [refuseIf_bind_eq_ok_iff] at h
    obtain ⟨hEnough, h⟩ := h
    rw [unit_bind_eq_ok_iff, forM_eq_ok_iff] at h
    obtain ⟨hVerified, h⟩ := h
    cases h
    exact ⟨last, hLast, hCompleted, inside, hScan, not_lt.mp hEnough, hVerified⟩
  · rintro ⟨last, hLast, hCompleted, inside, hScan, hEnough, hVerified⟩
    refine ⟨_, lastClosedSession_of calendar inside hLast hCompleted, ?_⟩
    rw [hScan, ok_bind, refuseIf_of_not (not_lt.mpr hEnough), ok_bind,
      forM_eq_ok_iff.mpr hVerified, ok_bind]
    rfl

theorem labels_nodup (calendar : Calendar) : (calendar.sessions.map Session.label).Nodup := by
  rw [List.Nodup, List.pairwise_map]
  exact calendar.hasAscendingLabels.imp fun h => h.ne

/-- What is returned is the run that ends at the latest completed session. -/
theorem endsAt_of_verifyAndOrderBars
    (h : verifyAndOrderBars calendar rows spec policy = .ok selected) :
    ∃ last, ∃ hLast : last < calendar.sessions.length,
      EndsAt calendar rows spec policy selected last hLast := by
  obtain ⟨last, hLast, hCompleted, _, hScan, hEnough, hVerified⟩ := verifyAndOrderBars_eq_ok_iff.mp h
  obtain ⟨taken, rest, hRows, hSelected, hOlder, hDates, hRest⟩ :=
    scanSuffix_spec (ordered_descending rows) hLast hScan
  rw [List.append_nil] at hSelected
  have hLength : selected.length = taken.length := by rw [hSelected, List.length_reverse]
  have hPerm : rows.Perm (taken ++ rest) := hRows ▸ (ordered_perm rows).symm
  have hFirst : last - taken.length < calendar.sessions.length := by omega
  obtain ⟨hOnRun, hLess⟩ := hRest _ hFirst (by omega)
  have hBack : (labelsBack calendar last).length = last + 1 := by
    rw [labelsBack, List.length_reverse, List.length_map, List.length_take]
    omega
  refine ⟨last, hLast, ⟨?_, by omega, ?_, ?_, ?_, hEnough, ?_, ?_, fun row hRow =>
    verifyBar_eq_ok (hVerified row hRow)⟩⟩
  · intro j hj
    rw [calendar.close_le_iff_completed hj]
    omega
  · rw [hSelected, List.map_reverse, hDates, List.reverse_take, hBack, labelsBack,
      List.reverse_reverse, List.length_reverse]
  · intro d hd hEq row hRow
    obtain rfl : d = last - taken.length := by omega
    rcases List.mem_append.mp (hPerm.mem_iff.mp hRow) with hTaken | hOther
    · exact (hOnRun row hTaken).ne'
    · exact (hLess row hOther).ne
  · intro row hRow
    exact date_le_of_scanSuffix (ordered_descending rows) hLast hScan row
      ((ordered_perm rows).mem_iff.mpr hRow)
  · intro row hRow
    rw [hSelected, List.mem_reverse] at hRow
    exact hPerm.mem_iff.mpr (List.mem_append_left _ hRow)
  · intro row hRow
    rw [hSelected, List.mem_reverse] at hRow
    have hOthers : rest.countP (fun other => other.date = row.date) = 0 := by
      apply List.countP_eq_zero.mpr
      intro other hOther hEq
      have hAfter := hOnRun row hRow
      rw [← of_decide_eq_true hEq] at hAfter
      exact lt_asymm (hLess other hOther) hAfter
    have hDistinct : (taken.map PointInTimeBar.date).Nodup := by
      rw [hDates]
      refine List.Nodup.sublist (List.take_sublist _ _) ?_
      rw [labelsBack, List.nodup_reverse, List.map_take]
      exact (labels_nodup calendar).sublist (List.take_sublist _ _)
    have hOnce := List.count_eq_one_of_mem hDistinct (List.mem_map_of_mem hRow)
    rw [hPerm.countP_eq, List.countP_append, hOthers, Nat.add_zero, ← hOnce, List.count,
      List.countP_map]
    rfl

/-- The order in which the rows are supplied does not matter. -/
theorem verifyAndOrderBars_perm {other : List PointInTimeBar} (perm : other.Perm rows)
    (h : verifyAndOrderBars calendar rows spec policy = .ok selected) :
    verifyAndOrderBars calendar other spec policy = .ok selected := by
  obtain ⟨last, hLast, hCompleted, inside, hScan, hRest⟩ := verifyAndOrderBars_eq_ok_iff.mp h
  refine verifyAndOrderBars_eq_ok_iff.mpr ⟨last, hLast, hCompleted, inside, ?_, hRest⟩
  have hSame := ((ordered_perm rows).trans perm.symm).trans (ordered_perm other).symm
  exact scanSuffix_perm hSame (ordered_descending rows) (ordered_descending other) hLast hScan

/-- A session is on the run that ends at a position when rows lie on it and on every later one. -/
def OnRun (calendar : Calendar) (rows : List PointInTimeBar) (last i : Nat) : Prop :=
  i ≤ last ∧ ∀ j (hj : j < calendar.sessions.length), i ≤ j → j ≤ last →
    ∃ row ∈ rows, row.date = calendar.sessions[j].label

theorem EndsAt.exists_of_onRun {last i : Nat} {hLast : last < calendar.sessions.length}
    (ends : EndsAt calendar rows spec policy selected last hLast) (run : OnRun calendar rows last i)
    (hi : i < calendar.sessions.length) :
    ∃ row ∈ selected, row.date = calendar.sessions[i].label := by
  have hOlder := ends.older
  have hAfter : last - selected.length < i := by
    by_contra hBefore
    have hFirst : last - selected.length < calendar.sessions.length := by omega
    obtain ⟨row, hRow, hDate⟩ := run.2 _ hFirst (not_lt.mp hBefore) (by omega)
    exact ends.maximal _ hFirst (by omega) row hRow hDate
  have hMem : calendar.sessions[i].label ∈ selected.map PointInTimeBar.date := by
    rw [ends.consecutive]
    apply List.mem_iff_getElem.mpr
    have hLe := run.1
    refine ⟨i - (last + 1 - selected.length), by simp; omega, ?_⟩
    simp only [List.getElem_drop, List.getElem_map, List.getElem_take]
    congr 2
    omega
  obtain ⟨row, hRow, hDate⟩ := List.mem_map.mp hMem
  exact ⟨row, hRow, hDate⟩

end Returned

/-- The verified history: what is returned does not depend on the order of the rows and is the run
without a gap that ends at the latest completed session; two rows on a session of that run make it
fail. -/
theorem verified_history {calendar : Calendar} {rows : List PointInTimeBar} {spec : SnapshotBuildSpec}
    {policy : ForecastSnapshotBuildPolicy} :
    (∀ selected, verifyAndOrderBars calendar rows spec policy = .ok selected →
      (∀ other, other.Perm rows → verifyAndOrderBars calendar other spec policy = .ok selected) ∧
      ∃ last, ∃ hLast : last < calendar.sessions.length,
        EndsAt calendar rows spec policy selected last hLast) ∧
    (∀ last (_ : last < calendar.sessions.length),
      (∀ j (hj : j < calendar.sessions.length), calendar.sessions[j].close ≤ spec.asOf ↔ j ≤ last) →
      ∀ i (hi : i < calendar.sessions.length), OnRun calendar rows last i →
        2 ≤ rows.countP (fun row => row.date = calendar.sessions[i].label) →
        ∃ e, verifyAndOrderBars calendar rows spec policy = .error e) := by
  refine ⟨fun selected h => ⟨fun other perm => verifyAndOrderBars_perm perm h,
    endsAt_of_verifyAndOrderBars h⟩, ?_⟩
  intro last hLast hClosed i hi run hTwice
  cases h : verifyAndOrderBars calendar rows spec policy with
  | error e => exact ⟨e, rfl⟩
  | ok selected =>
    obtain ⟨last', hLast', ends⟩ := endsAt_of_verifyAndOrderBars h
    obtain rfl : last = last' := by
      have hThis := completed_unique calendar (k := last + 1) hLast fun j hj => by
        rw [hClosed j hj, Nat.lt_succ_iff]
      have hOther := completed_unique calendar (k := last' + 1) hLast' fun j hj => by
        rw [ends.closed j hj, Nat.lt_succ_iff]
      omega
    obtain ⟨row, hRow, hDate⟩ := ends.exists_of_onRun run hi
    have hOnce := ends.single row hRow
    rw [hDate] at hOnce
    omega

def sampleBar (day : Fin 20) : PointInTimeBar :=
  ⟨"SPY", "day", 1, "polygon_open_close", "raw", sampleClose day, Float64.zero, sampleClose day,
    sampleClose day, sampleClose day, sampleClose day, 1⟩

def sampleSpec : SnapshotBuildSpec := ⟨"SPY", "close", "trading_day", sampleClose 8⟩

def samplePolicy : ForecastSnapshotBuildPolicy := ⟨"polygon_open_close", "day", 1, "raw", 2, 1⟩

/-- The rows of the Monday and the Tuesday, in either order. -/
theorem verified_history_tuesday :
    verifyAndOrderBars sampleCalendar [sampleBar 8, sampleBar 7] sampleSpec samplePolicy =
      .ok [sampleBar 7, sampleBar 8] := by
  have hOk : verifyAndOrderBars sampleCalendar [sampleBar 7, sampleBar 8] sampleSpec samplePolicy =
      .ok [sampleBar 7, sampleBar 8] := rfl
  exact (verified_history.1 _ hOk).1 _ (List.Perm.swap _ _ _)

end StockApi.Snapshots

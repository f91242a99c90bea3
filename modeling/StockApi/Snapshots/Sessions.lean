import StockApi.Library.SessionCalendar

/-!
# Completed sessions and target sessions

Both snapshot builders look up the last session that has closed by the cutoff and the closes of the
sessions after it. The two searches start from the cutoff's date in opposite directions; they meet
without a session left out or taken twice.
-/

namespace StockApi.Snapshots

open Checked CivilTime SessionCalendar

inductive SnapshotBuildError where
  | calendar (error : CalendarError)
  | availability (message : String)
  | inputUnavailable (message : String)
deriving DecidableEq

/-- An exception of the calendar is let through. -/
def raised {α : Type} (result : Except CalendarError α) : Except SnapshotBuildError α :=
  result.mapError .calendar

@[simp] theorem raised_ok {α : Type} (a : α) : raised (.ok a) = .ok a := rfl

@[simp] theorem raised_error {α : Type} (e : CalendarError) :
    raised (.error e : Except CalendarError α) = .error (.calendar e) := rfl

theorem raised_eq_ok_iff {α : Type} {result : Except CalendarError α} {a : α} :
    raised result = .ok a ↔ result = .ok a := by
  cases result with
  | ok b => simp
  | error e => simp

/-- The text of `_latest_completed_session` in either builder. -/
def lastClosedSession (calendar : Calendar) (cutoff : Instant) : Except SnapshotBuildError Date := do
  let label ← raised (calendar.dateToSession cutoff.date .previous)
  let close ← raised (calendar.sessionClose label)
  if cutoff < close then raised (calendar.previousSession label) else return label

/-- The session `_target_times` starts from. -/
def firstTargetSession (cutoff : Instant) (calendar : Calendar) : Except SnapshotBuildError Date := do
  let dateLabel ← raised (calendar.dateToSession cutoff.date .next)
  let close ← raised (calendar.sessionClose dateLabel)
  if close ≤ cutoff then raised (calendar.nextSession dateLabel) else return dateLabel

/-- The text of `_target_times` in either builder. -/
def closesAfter (cutoff : Instant) (targetTimeCount : Nat) (calendar : Calendar) :
    Except SnapshotBuildError (List Instant) := do
  let first ← firstTargetSession cutoff calendar
  let sessions ← raised (calendar.sessionsWindow first targetTimeCount)
  let closes ← sessions.mapM fun label => raised (calendar.sessionClose label)
  refuseIf (closes.length ≠ targetTimeCount ∨ closes.head?.any (· ≤ cutoff) = true)
    (SnapshotBuildError.availability "exchange calendar did not yield the full future horizon")
  return closes

/-- What the raw-close builder's policy says about rows and targets. -/
structure ForecastSnapshotBuildPolicy where
  source : String
  inputTimespan : String
  inputMultiplier : Int
  seriesBasis : String
  minimumObservations : Nat
  targetTimeCount : Nat
deriving DecidableEq

/-- `DEFAULT_SNAPSHOT_BUILD_POLICY`. -/
def defaultSnapshotBuildPolicy : ForecastSnapshotBuildPolicy :=
  ⟨"polygon_open_close", "day", 1, "raw", 258, 252⟩

/-- `_latest_completed_session` of `forecast_snapshot_builder`. -/
def latestCompletedSession : Calendar → Instant → Except SnapshotBuildError Date := lastClosedSession

/-- `_target_times` of `forecast_snapshot_builder`. -/
def targetTimes (cutoff : Instant) (policy : ForecastSnapshotBuildPolicy) (calendar : Calendar) :
    Except SnapshotBuildError (List Instant) :=
  closesAfter cutoff policy.targetTimeCount calendar

namespace Adjusted

structure AdjustedForecastSnapshotBuildPolicy where
  targetTimeCount : Nat
deriving DecidableEq

/-- `_latest_completed_session` of `adjusted_forecast_snapshot_builder`. -/
def latestCompletedSession : Calendar → Instant → Except SnapshotBuildError Date := lastClosedSession

/-- `_target_times` of `adjusted_forecast_snapshot_builder`. -/
def targetTimes (cutoff : Instant) (policy : AdjustedForecastSnapshotBuildPolicy)
    (calendar : Calendar) : Except SnapshotBuildError (List Instant) :=
  closesAfter cutoff policy.targetTimeCount calendar

end Adjusted

/-! ## The two searches -/

section Searches

variable (calendar : Calendar) {cutoff : Instant}

/-- The sessions that have closed are those before the cutoff's date, and that of the date itself
once its close has come. -/
theorem completed_of_session {i : Nat} (h : i < calendar.sessions.length)
    (onDate : calendar.sessions[i].label = cutoff.date) :
    calendar.completed cutoff = if calendar.sessions[i].close ≤ cutoff then i + 1 else i := by
  have hSessions := calendar.completed_le cutoff
  have hAt : calendar.sessions[i].close ≤ cutoff ↔ i < calendar.completed cutoff :=
    calendar.close_le_iff_completed h
  have hBefore : i ≤ calendar.completed cutoff := by
    rcases Nat.eq_zero_or_pos i with rfl | hPos
    · exact Nat.zero_le _
    · have hPrevious : i - 1 < calendar.sessions.length := by omega
      have hClosed := (calendar.close_lt_of_label_lt hPrevious
        (onDate ▸ (calendar.label_lt_iff hPrevious h).mpr (by omega))).le
      have := (calendar.close_le_iff_completed hPrevious).mp hClosed
      omega
  have hAfter : calendar.completed cutoff ≤ i + 1 := by
    by_contra hMore
    have hNext : i + 1 < calendar.sessions.length := by omega
    have hOpen := calendar.lt_close_of_lt_label hNext
      (onDate ▸ (calendar.label_lt_iff h hNext).mpr (Nat.lt_succ_self i))
    have := (calendar.close_le_iff_completed hNext).not.mp (not_le.mpr hOpen)
    omega
  split_ifs with hClosed
  · have := hAt.mp hClosed
    omega
  · have := hAt.not.mp hClosed
    omega

/-- Between two sessions the earlier ones have closed. -/
theorem completed_between (inside : calendar.InBounds cutoff.date)
    (between : ¬ ∃ i, ∃ h : i < calendar.sessions.length, calendar.sessions[i].label = cutoff.date) :
    calendar.completed cutoff = calendar.searchsorted cutoff.date := by
  have hPos := calendar.searchsorted_pos_of_inBounds inside between
  have hIndex := calendar.searchsorted_lt_of_inBounds inside
  have hLast : calendar.searchsorted cutoff.date - 1 < calendar.sessions.length := by omega
  have hBefore : calendar.sessions[calendar.searchsorted cutoff.date - 1].label < cutoff.date :=
    (calendar.label_lt_iff_searchsorted hLast).mpr (by omega)
  have hClosed := (calendar.close_le_iff_completed hLast).mp
    (calendar.close_lt_of_label_lt hLast hBefore).le
  have hLater : ¬ calendar.sessions[calendar.searchsorted cutoff.date].label < cutoff.date :=
    (calendar.label_lt_iff_searchsorted hIndex).not.mpr (lt_irrefl _)
  have hAfter := lt_of_le_of_ne (not_lt.mp hLater) fun hEq => between ⟨_, hIndex, hEq.symm⟩
  have hOpen := (calendar.close_le_iff_completed hIndex).not.mp
    (not_le.mpr (calendar.lt_close_of_lt_label hIndex hAfter))
  omega

/-- The search backward ends at the last session that has closed. -/
theorem lastClosedSession_of {i : Nat} (inside : calendar.InBounds cutoff.date)
    (h : i < calendar.sessions.length) (hLast : i + 1 = calendar.completed cutoff) :
    lastClosedSession calendar cutoff = .ok calendar.sessions[i].label := by
  rw [lastClosedSession]
  rcases em (∃ j, ∃ h : j < calendar.sessions.length, calendar.sessions[j].label = cutoff.date)
    with ⟨j, hj, hDate⟩ | between
  · rw [← hDate, calendar.dateToSession_label hj, raised_ok, ok_bind, calendar.sessionClose_label hj,
      raised_ok, ok_bind]
    have hCompleted := completed_of_session calendar hj hDate
    split_ifs at hCompleted with hClosed
    · obtain rfl : i = j := by omega
      rw [if_neg (not_lt.mpr hClosed)]
      rfl
    · obtain rfl : j = i + 1 := by omega
      rw [if_pos (not_le.mp hClosed), calendar.previousSession_succ h hj]
      rfl
  · have hCompleted := completed_between calendar inside between
    obtain rfl : i = calendar.searchsorted cutoff.date - 1 := by omega
    rw [calendar.dateToSession_previous inside between h, raised_ok, ok_bind,
      calendar.sessionClose_label h, raised_ok, ok_bind,
      if_neg (not_lt.mpr ((calendar.close_le_iff_completed h).mpr (by omega)))]
    rfl

/-- Before the first close the search backward fails. -/
theorem lastClosedSession_none (inside : calendar.InBounds cutoff.date)
    (hNone : calendar.completed cutoff = 0) :
    lastClosedSession calendar cutoff = .error (.calendar .sessionOutOfBounds) := by
  rw [lastClosedSession]
  rcases em (∃ j, ∃ h : j < calendar.sessions.length, calendar.sessions[j].label = cutoff.date)
    with ⟨j, hj, hDate⟩ | between
  · have hCompleted := completed_of_session calendar hj hDate
    split_ifs at hCompleted with hClosed
    · omega
    · obtain rfl : j = 0 := by omega
      rw [← hDate, calendar.dateToSession_label hj, raised_ok, ok_bind,
        calendar.sessionClose_label hj, raised_ok, ok_bind, if_pos (not_le.mp hClosed),
        calendar.previousSession_first hj, raised_error]
  · have hCompleted := completed_between calendar inside between
    have hPos := calendar.searchsorted_pos_of_inBounds inside between
    omega

theorem lastClosedSession_eq_ok_iff (inside : calendar.InBounds cutoff.date) {label : Date} :
    lastClosedSession calendar cutoff = .ok label ↔
      ∃ i, ∃ h : i < calendar.sessions.length,
        i + 1 = calendar.completed cutoff ∧ label = calendar.sessions[i].label := by
  have hSessions := calendar.completed_le cutoff
  constructor
  · intro hOk
    rcases Nat.eq_zero_or_pos (calendar.completed cutoff) with hNone | hPos
    · rw [lastClosedSession_none calendar inside hNone] at hOk
      cases hOk
    · have hLast : calendar.completed cutoff - 1 < calendar.sessions.length := by omega
      rw [lastClosedSession_of calendar inside hLast (by omega)] at hOk
      cases hOk
      exact ⟨_, hLast, by omega, rfl⟩
  · rintro ⟨i, h, hLast, rfl⟩
    exact lastClosedSession_of calendar inside h hLast

/-- The first target session is the first that has not closed. -/
theorem firstTargetSession_of (inside : calendar.InBounds cutoff.date)
    (h : calendar.completed cutoff < calendar.sessions.length) :
    firstTargetSession cutoff calendar = .ok calendar.sessions[calendar.completed cutoff].label := by
  rw [firstTargetSession]
  rcases em (∃ j, ∃ h : j < calendar.sessions.length, calendar.sessions[j].label = cutoff.date)
    with ⟨j, hj, hDate⟩ | between
  · rw [← hDate, calendar.dateToSession_label hj, raised_ok, ok_bind, calendar.sessionClose_label hj,
      raised_ok, ok_bind]
    have hCompleted := completed_of_session calendar hj hDate
    split_ifs at hCompleted with hClosed
    · have hNext : j + 1 < calendar.sessions.length := hCompleted ▸ h
      simp only [if_pos hClosed, calendar.nextSession_label hj hNext, raised_ok, hCompleted]
    · simp only [if_neg hClosed, hCompleted]
      rfl
  · have hCompleted := completed_between calendar inside between
    have hIndex := calendar.searchsorted_lt_of_inBounds inside
    rw [calendar.dateToSession_next inside between hIndex, raised_ok, ok_bind,
      calendar.sessionClose_label hIndex, raised_ok, ok_bind, if_neg]
    · simp only [hCompleted]
      rfl
    · exact (calendar.close_le_iff_completed hIndex).not.mpr (by omega)

/-- After the last close there is no target session. -/
theorem firstTargetSession_none (inside : calendar.InBounds cutoff.date)
    (h : calendar.completed cutoff = calendar.sessions.length) :
    firstTargetSession cutoff calendar = .error (.calendar .sessionOutOfBounds) := by
  rw [firstTargetSession]
  rcases em (∃ j, ∃ h : j < calendar.sessions.length, calendar.sessions[j].label = cutoff.date)
    with ⟨j, hj, hDate⟩ | between
  · have hCompleted := completed_of_session calendar hj hDate
    split_ifs at hCompleted with hClosed
    · rw [← hDate, calendar.dateToSession_label hj, raised_ok, ok_bind,
        calendar.sessionClose_label hj, raised_ok, ok_bind, if_pos hClosed,
        calendar.nextSession_last hj (by omega), raised_error]
    · omega
  · have hCompleted := completed_between calendar inside between
    have hIndex := calendar.searchsorted_lt_of_inBounds inside
    omega

theorem closes_of_window (start count : Nat) :
    (((calendar.sessions.drop start).take count).map Session.label).mapM
        (fun label => raised (calendar.sessionClose label)) =
      .ok (((calendar.sessions.drop start).take count).map Session.close) := by
  apply mapM_of_forall₂
  rw [List.forall₂_map_left_iff, List.forall₂_map_right_iff]
  apply List.forall₂_same.mpr
  intro s hs
  obtain ⟨i, hi, rfl⟩ := List.mem_iff_getElem.mp (List.mem_of_mem_drop (List.mem_of_mem_take hs))
  rw [calendar.sessionClose_label hi, raised_ok]

/-- The closes of a number of sessions that have not closed, without a gap. -/
theorem closesAfter_eq_ok_iff (inside : calendar.InBounds cutoff.date) {count : Nat}
    (hCount : 0 < count) {closes : List Instant} :
    closesAfter cutoff count calendar = .ok closes ↔
      calendar.completed cutoff + count ≤ calendar.sessions.length ∧
      closes = ((calendar.sessions.drop (calendar.completed cutoff)).take count).map Session.close := by
  have hSessions := calendar.completed_le cutoff
  rw [closesAfter]
  rcases Nat.eq_or_lt_of_le hSessions with hEnd | hOpen
  · rw [firstTargetSession_none calendar inside hEnd, error_bind]
    constructor
    · intro h
      cases h
    · rintro ⟨h, _⟩
      omega
  · rw [firstTargetSession_of calendar inside hOpen, ok_bind]
    rcases Nat.lt_or_ge calendar.sessions.length (calendar.completed cutoff + count)
      with hBeyond | hWindow
    · rw [calendar.sessionsWindow_beyond count hCount hOpen hBeyond, raised_error, error_bind]
      constructor
      · intro h
        cases h
      · rintro ⟨h, _⟩
        omega
    · rw [calendar.sessionsWindow_of count hCount hOpen hWindow, raised_ok, ok_bind,
        closes_of_window, ok_bind, refuseIf_of_not, ok_bind, pure_eq_ok]
      · constructor
        · intro h
          cases h
          exact ⟨hWindow, rfl⟩
        · rintro ⟨_, rfl⟩
          rfl
      · rintro (hLength | hPast)
        · apply hLength
          simp
          omega
        · rw [List.head?_map, List.head?_take, if_neg (by omega), List.head?_drop,
            List.getElem?_eq_getElem hOpen] at hPast
          have hClosed := of_decide_eq_true (by simpa using hPast : decide _ = true)
          exact absurd ((calendar.close_le_iff_completed hOpen).mp hClosed) (lt_irrefl _)

end Searches

/-- What holds of the completed sessions and the targets of one cutoff. -/
structure Meets (calendar : Calendar) (cutoff : Instant) (count : Nat)
    (latest : Except SnapshotBuildError Date) (targets : Except SnapshotBuildError (List Instant)) :
    Prop where
  /-- The latest completed session is the last of the sessions that have closed. -/
  latest_iff : ∀ label, latest = .ok label ↔ ∃ i, ∃ h : i < calendar.sessions.length,
    label = calendar.sessions[i].label ∧
      ∀ j (hj : j < calendar.sessions.length), calendar.sessions[j].close ≤ cutoff ↔ j ≤ i
  /-- The targets are the closes of as many consecutive sessions, the first that have not closed. -/
  targets_iff : ∀ closes, targets = .ok closes ↔ ∃ k, k + count ≤ calendar.sessions.length ∧
    (∀ j (hj : j < calendar.sessions.length), calendar.sessions[j].close ≤ cutoff ↔ j < k) ∧
    closes = ((calendar.sessions.drop k).take count).map Session.close
  /-- The first target is the close of the session after the latest completed one. -/
  adjacent : ∀ label closes, latest = .ok label → targets = .ok closes →
    ∃ i, ∃ h : i + 1 < calendar.sessions.length, ∃ hi : i < calendar.sessions.length,
      calendar.sessions[i].label = label ∧ closes.head? = some calendar.sessions[i + 1].close
  later : ∀ closes, targets = .ok closes → closes.length = count ∧ ∀ close ∈ closes, cutoff < close

theorem completed_unique (calendar : Calendar) {cutoff : Instant} {k : Nat}
    (hLe : k ≤ calendar.sessions.length)
    (h : ∀ j (hj : j < calendar.sessions.length), calendar.sessions[j].close ≤ cutoff ↔ j < k) :
    k = calendar.completed cutoff := by
  have hSessions := calendar.completed_le cutoff
  rcases Nat.lt_trichotomy k (calendar.completed cutoff) with hLt | hEq | hGt
  · have hAt : k < calendar.sessions.length := by omega
    have := (h k hAt).mp ((calendar.close_le_iff_completed hAt).mpr hLt)
    omega
  · exact hEq
  · have hAt : calendar.completed cutoff < calendar.sessions.length := by omega
    have := (calendar.close_le_iff_completed hAt).mp ((h _ hAt).mpr hGt)
    omega

theorem meets (calendar : Calendar) {cutoff : Instant} (inside : calendar.InBounds cutoff.date)
    {count : Nat} (hCount : 0 < count) :
    Meets calendar cutoff count (lastClosedSession calendar cutoff)
      (closesAfter cutoff count calendar) where
  latest_iff label := by
    rw [lastClosedSession_eq_ok_iff calendar inside]
    constructor
    · rintro ⟨i, h, hLast, rfl⟩
      refine ⟨i, h, rfl, fun j hj => ?_⟩
      rw [calendar.close_le_iff_completed hj]
      omega
    · rintro ⟨i, h, rfl, hClosed⟩
      refine ⟨i, h, completed_unique calendar h fun j hj => ?_, rfl⟩
      rw [hClosed j hj]
      omega
  targets_iff closes := by
    rw [closesAfter_eq_ok_iff calendar inside hCount]
    constructor
    · rintro ⟨hWindow, rfl⟩
      exact ⟨_, hWindow, fun j hj => calendar.close_le_iff_completed hj, rfl⟩
    · rintro ⟨k, hWindow, hClosed, rfl⟩
      obtain rfl := completed_unique calendar (by omega) hClosed
      exact ⟨hWindow, rfl⟩
  adjacent label closes hLatest hTargets := by
    obtain ⟨i, h, hLast, rfl⟩ := (lastClosedSession_eq_ok_iff calendar inside).mp hLatest
    obtain ⟨hWindow, rfl⟩ := (closesAfter_eq_ok_iff calendar inside hCount).mp hTargets
    have hNext : i + 1 < calendar.sessions.length := by omega
    refine ⟨i, hNext, h, rfl, ?_⟩
    rw [List.head?_map, List.head?_take, if_neg (by omega), List.head?_drop, ← hLast,
      List.getElem?_eq_getElem hNext]
    rfl
  later closes hTargets := by
    obtain ⟨hWindow, rfl⟩ := (closesAfter_eq_ok_iff calendar inside hCount).mp hTargets
    constructor
    · simp
      omega
    · intro close hClose
      obtain ⟨s, hs, rfl⟩ := List.mem_map.mp hClose
      obtain ⟨j, hj, rfl⟩ := List.mem_iff_getElem.mp (List.mem_of_mem_take hs)
      rw [List.length_drop] at hj
      rw [List.getElem_drop]
      have hAt : calendar.completed cutoff + j < calendar.sessions.length := by omega
      exact not_le.mp ((calendar.close_le_iff_completed hAt).not.mpr (by omega))

/-- For every calendar and every cutoff inside it, either builder's history ends where its horizon
begins: no session is left out and none is taken twice. -/
theorem history_meets_horizon (calendar : Calendar) {cutoff : Instant}
    (inside : calendar.InBounds cutoff.date) (policy : ForecastSnapshotBuildPolicy)
    (adjusted : Adjusted.AdjustedForecastSnapshotBuildPolicy) (hCount : 0 < policy.targetTimeCount)
    (hAdjusted : 0 < adjusted.targetTimeCount) :
    Meets calendar cutoff policy.targetTimeCount (latestCompletedSession calendar cutoff)
        (targetTimes cutoff policy calendar) ∧
      Meets calendar cutoff adjusted.targetTimeCount
        (Adjusted.latestCompletedSession calendar cutoff)
        (Adjusted.targetTimes cutoff adjusted calendar) :=
  ⟨meets calendar inside hCount, meets calendar inside hAdjusted⟩

/-! ## A Friday, a Monday and a Tuesday -/

instance neZero_twenty : NeZero 20 := ⟨by decide⟩

/-- Nine o'clock in the evening of a day of the first weeks. -/
def sampleClose (day : Fin 20) : Instant :=
  ⟨day * dayMicros + 75600000000, by
    have := day.isLt
    unfold dayMicros maxDays
    omega⟩

theorem sampleClose_date_lt {a b : Fin 20} (h : a < b) : (sampleClose a).date < (sampleClose b).date := by
  rw [← Date.days_lt_iff, Instant.date, Instant.date, Date.days_ofDays, Date.days_ofDays]
  have hDay : ∀ day : Fin 20, (sampleClose day).micros / dayMicros = day := by
    intro day
    unfold sampleClose dayMicros
    simp only
    omega
  rw [hDay, hDay]
  exact h

def sampleSession (day : Fin 20) : Session := ⟨(sampleClose day).date, sampleClose day⟩

def sampleCalendar : Calendar where
  sessions := [4, 7, 8].map sampleSession
  hasAscendingLabels := by
    rw [List.pairwise_map]
    refine List.Pairwise.imp sampleClose_date_lt ?_
    decide
  hasClosesOnLabels := by
    intro s hs
    obtain ⟨day, _, rfl⟩ := List.mem_map.mp hs
    rfl

/-- At the close of the Monday the Monday is completed and the Tuesday is the target. -/
theorem history_meets_horizon_monday :
    latestCompletedSession sampleCalendar (sampleClose 7) = .ok (sampleClose 7).date ∧
      targetTimes (sampleClose 7) ⟨"polygon_open_close", "day", 1, "raw", 1, 1⟩ sampleCalendar =
        .ok [sampleClose 8] := by
  have inside : sampleCalendar.InBounds (sampleClose 7).date :=
    sampleCalendar.inBounds_label (i := 1) (by decide)
  have hClosed : ∀ j (hj : j < sampleCalendar.sessions.length),
      sampleCalendar.sessions[j].close ≤ sampleClose 7 ↔ j ≤ 1 := by
    decide
  have hMeets := (history_meets_horizon sampleCalendar inside
    ⟨"polygon_open_close", "day", 1, "raw", 1, 1⟩ ⟨1⟩ (by decide) (by decide)).1
  constructor
  · exact (hMeets.latest_iff _).mpr ⟨1, by decide, rfl, hClosed⟩
  · refine (hMeets.targets_iff _).mpr ⟨2, by decide, fun j hj => ?_, rfl⟩
    rw [hClosed j hj, Nat.lt_succ_iff]

end StockApi.Snapshots

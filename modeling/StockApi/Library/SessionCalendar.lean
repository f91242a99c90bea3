import StockApi.Library.Checked
import StockApi.Library.Instant

/-!
# Session calendars

The sessions of an exchange in ascending order, each with the instant of its close. A session closes
on its own UTC date, so the closes ascend too and an instant splits the sessions: those that have
closed come first.
-/

namespace StockApi.SessionCalendar

open Checked CivilTime

structure Session where
  label : Date
  close : Instant
deriving DecidableEq

structure Calendar where
  sessions : List Session
  hasAscendingLabels : sessions.Pairwise fun a b => a.label < b.label
  hasClosesOnLabels : ∀ s ∈ sessions, s.close.date = s.label

inductive CalendarError where
  | dateOutOfBounds (date : Date)
  | notSession (date : Date)
  | sessionOutOfBounds
  | windowOutOfBounds
deriving DecidableEq

namespace Calendar

variable (calendar : Calendar)

/-- `sessions.searchsorted(date)`: the sessions before a date. -/
def searchsorted (date : Date) : Nat := calendar.sessions.countP (·.label < date)

/-- Neither before the first session nor after the last. -/
def InBounds (date : Date) : Prop :=
  (∃ s ∈ calendar.sessions, s.label ≤ date) ∧ ∃ s ∈ calendar.sessions, date ≤ s.label

instance (date : Date) : Decidable (calendar.InBounds date) :=
  inferInstanceAs (Decidable ((∃ s ∈ calendar.sessions, s.label ≤ date) ∧
    ∃ s ∈ calendar.sessions, date ≤ s.label))

/-- `parse_date`. -/
def parseDate (date : Date) : Except CalendarError Date := do
  refuseIf (¬ calendar.InBounds date) (CalendarError.dateOutOfBounds date)
  return date

/-- `is_session`. -/
def isSession (date : Date) : Except CalendarError Bool := do
  let date ← calendar.parseDate date
  return (calendar.sessions[calendar.searchsorted date]?).any fun s => s.label = date

/-- The position of a session. -/
def sessionIndex (label : Date) : Except CalendarError Nat := do
  let label ← calendar.parseDate label
  refuseIf ((calendar.sessions[calendar.searchsorted label]?).any (fun s => s.label = label) = false)
    (CalendarError.notSession label)
  return calendar.searchsorted label

def sessionAt (index : Nat) : Except CalendarError Session :=
  orRefuse calendar.sessions[index]? .sessionOutOfBounds

/-- `session_close`. -/
def sessionClose (label : Date) : Except CalendarError Instant := do
  let session ← calendar.sessionAt (← calendar.sessionIndex label)
  return session.close

/-- `previous_session`. -/
def previousSession (label : Date) : Except CalendarError Date := do
  let index ← calendar.sessionIndex label
  refuseIf (index = 0) CalendarError.sessionOutOfBounds
  let session ← calendar.sessionAt (index - 1)
  return session.label

/-- `next_session`. -/
def nextSession (label : Date) : Except CalendarError Date := do
  let session ← calendar.sessionAt ((← calendar.sessionIndex label) + 1)
  return session.label

inductive Direction where
  | previous
  | next
deriving DecidableEq

/-- `date_to_session`. -/
def dateToSession (date : Date) (direction : Direction) : Except CalendarError Date := do
  if ← calendar.isSession date then return date
  else
    let session ← calendar.sessionAt (match direction with
      | .previous => calendar.searchsorted date - 1
      | .next => calendar.searchsorted date)
    return session.label

/-- `sessions_window`; a count of zero asks for the window that ends one session later. -/
def sessionsWindow (label : Date) (count : Nat) : Except CalendarError (List Date) := do
  let start ← calendar.sessionIndex label
  let last := if 0 < count then start + (count - 1) else start + 1
  refuseIf (calendar.sessions.length ≤ last) CalendarError.windowOutOfBounds
  return ((calendar.sessions.drop start).take (last + 1 - start)).map Session.label

end Calendar

/-! ## Positions -/

/-- Where a property holds of the first entries only, its count says of how many. -/
theorem getElem_iff_lt_countP {α : Type} {p : α → Bool} {xs : List α}
    (downward : xs.Pairwise fun a b => p b = true → p a = true) {i : Nat} (h : i < xs.length) :
    p xs[i] = true ↔ i < xs.countP p := by
  induction xs generalizing i with
  | nil => cases h
  | cons x rest ih =>
    obtain ⟨hFirst, hRest⟩ := List.pairwise_cons.mp downward
    cases hHead : p x with
    | true =>
      rw [List.countP_cons_of_pos hHead]
      cases i with
      | zero => simpa using hHead
      | succ i =>
        rw [List.getElem_cons_succ, ih hRest (by simpa using h)]
        omega
    | false =>
      have hNone : rest.countP p = 0 := by
        apply List.countP_eq_zero.mpr
        intro y hy hp
        rw [hFirst y hy hp] at hHead
        cases hHead
      rw [List.countP_cons_of_neg (by simp [hHead]), hNone]
      cases i with
      | zero => simp [hHead]
      | succ i =>
        have hLater := ih hRest (i := i) (by simpa using h)
        rw [hNone] at hLater
        simpa using hLater

namespace Calendar

variable (calendar : Calendar) {i j : Nat}

theorem label_lt_iff (hi : i < calendar.sessions.length) (hj : j < calendar.sessions.length) :
    calendar.sessions[i].label < calendar.sessions[j].label ↔ i < j := by
  have hAscending := List.pairwise_iff_getElem.mp calendar.hasAscendingLabels
  constructor
  · intro hLess
    by_contra hNot
    rcases Nat.eq_or_lt_of_le (not_lt.mp hNot) with rfl | hLt
    · exact lt_irrefl _ hLess
    · exact lt_asymm hLess (hAscending j i hj hi hLt)
  · exact hAscending i j hi hj

theorem label_inj (hi : i < calendar.sessions.length) (hj : j < calendar.sessions.length)
    (h : calendar.sessions[i].label = calendar.sessions[j].label) : i = j := by
  have hLess := (calendar.label_lt_iff hi hj).not.mp (by rw [h]; exact lt_irrefl _)
  have hMore := (calendar.label_lt_iff hj hi).not.mp (by rw [h]; exact lt_irrefl _)
  omega

theorem label_lt_iff_searchsorted {date : Date} (h : i < calendar.sessions.length) :
    calendar.sessions[i].label < date ↔ i < calendar.searchsorted date := by
  rw [searchsorted, ← getElem_iff_lt_countP _ h, decide_eq_true_eq]
  refine calendar.hasAscendingLabels.imp fun {a b} hLess hLate => ?_
  exact decide_eq_true (hLess.trans (of_decide_eq_true hLate))

theorem closes_ascend : calendar.sessions.Pairwise fun a b => a.close < b.close := by
  refine List.Pairwise.imp_of_mem ?_ calendar.hasAscendingLabels
  intro a b ha hb hLess
  by_contra hNot
  have hDate := Instant.date_mono (not_lt.mp hNot)
  rw [calendar.hasClosesOnLabels a ha, calendar.hasClosesOnLabels b hb] at hDate
  exact absurd hLess (not_lt.mpr hDate)

/-- The sessions that have closed at an instant. -/
def completed (cutoff : Instant) : Nat := calendar.sessions.countP (·.close ≤ cutoff)

theorem close_le_iff_completed {cutoff : Instant} (h : i < calendar.sessions.length) :
    calendar.sessions[i].close ≤ cutoff ↔ i < calendar.completed cutoff := by
  rw [completed, ← getElem_iff_lt_countP _ h, decide_eq_true_eq]
  refine calendar.closes_ascend.imp fun {a b} hLess hLate => ?_
  exact decide_eq_true (hLess.le.trans (of_decide_eq_true hLate))

theorem completed_le (cutoff : Instant) : calendar.completed cutoff ≤ calendar.sessions.length :=
  List.countP_le_length

theorem searchsorted_le (date : Date) : calendar.searchsorted date ≤ calendar.sessions.length :=
  List.countP_le_length

/-- A session that ends before the cutoff's date has closed. -/
theorem close_lt_of_label_lt {cutoff : Instant} (h : i < calendar.sessions.length)
    (before : calendar.sessions[i].label < cutoff.date) : calendar.sessions[i].close < cutoff := by
  by_contra hNot
  have hDate := Instant.date_mono (not_lt.mp hNot)
  rw [calendar.hasClosesOnLabels _ (List.getElem_mem h)] at hDate
  exact absurd before (not_lt.mpr hDate)

theorem lt_close_of_lt_label {cutoff : Instant} (h : i < calendar.sessions.length)
    (after : cutoff.date < calendar.sessions[i].label) : cutoff < calendar.sessions[i].close := by
  by_contra hNot
  have hDate := Instant.date_mono (not_lt.mp hNot)
  rw [calendar.hasClosesOnLabels _ (List.getElem_mem h)] at hDate
  exact absurd after (not_lt.mpr hDate)

theorem inBounds_label (h : i < calendar.sessions.length) :
    calendar.InBounds calendar.sessions[i].label :=
  ⟨⟨_, List.getElem_mem h, le_rfl⟩, ⟨_, List.getElem_mem h, le_rfl⟩⟩

@[simp] theorem searchsorted_label (h : i < calendar.sessions.length) :
    calendar.searchsorted calendar.sessions[i].label = i := by
  rcases Nat.lt_trichotomy (calendar.searchsorted calendar.sessions[i].label) i with hLt | hEq | hGt
  · have hFirst := (calendar.label_lt_iff (hLt.trans h) h).mpr hLt
    rw [label_lt_iff_searchsorted] at hFirst
    exact absurd hFirst (lt_irrefl _)
  · exact hEq
  · rw [← label_lt_iff_searchsorted _ h] at hGt
    exact absurd hGt (lt_irrefl _)

theorem any_searchsorted (date : Date) :
    (calendar.sessions[calendar.searchsorted date]?).any (fun s => s.label = date) = true ↔
      ∃ i, ∃ h : i < calendar.sessions.length, calendar.sessions[i].label = date := by
  rw [Option.any_eq_true]
  constructor
  · rintro ⟨s, hs, hLabel⟩
    obtain ⟨h, rfl⟩ := List.getElem?_eq_some_iff.mp hs
    exact ⟨_, h, of_decide_eq_true hLabel⟩
  · rintro ⟨i, h, rfl⟩
    exact ⟨_, by rw [searchsorted_label, List.getElem?_eq_getElem h], decide_eq_true rfl⟩

/-! ## What the operations return -/

theorem parseDate_of {date : Date} (h : calendar.InBounds date) : calendar.parseDate date = .ok date := by
  rw [parseDate, refuseIf_of_not (not_not.mpr h)]
  rfl

@[simp] theorem sessionIndex_label (h : i < calendar.sessions.length) :
    calendar.sessionIndex calendar.sessions[i].label = .ok i := by
  rw [sessionIndex, parseDate_of _ (calendar.inBounds_label h), ok_bind, refuseIf_of_not, ok_bind,
    searchsorted_label]
  · rfl
  · rw [Bool.not_eq_false]
    exact (calendar.any_searchsorted _).mpr ⟨i, h, rfl⟩

theorem sessionIndex_eq_ok_iff {label : Date} :
    calendar.sessionIndex label = .ok i ↔
      ∃ h : i < calendar.sessions.length, calendar.sessions[i].label = label := by
  constructor
  · intro h
    rw [sessionIndex, parseDate, bind_eq_ok_iff] at h
    obtain ⟨_, hParse, h⟩ := h
    rw [refuseIf_bind_eq_ok_iff] at hParse
    obtain ⟨_, hParse⟩ := hParse
    cases hParse
    rw [refuseIf_bind_eq_ok_iff, Bool.not_eq_false, any_searchsorted] at h
    obtain ⟨⟨j, hj, rfl⟩, h⟩ := h
    rw [searchsorted_label] at h
    cases h
    exact ⟨hj, rfl⟩
  · rintro ⟨h, rfl⟩
    exact calendar.sessionIndex_label h

theorem sessionAt_of (h : i < calendar.sessions.length) :
    calendar.sessionAt i = .ok calendar.sessions[i] := by
  rw [sessionAt, List.getElem?_eq_getElem h]
  rfl

@[simp] theorem sessionClose_label (h : i < calendar.sessions.length) :
    calendar.sessionClose calendar.sessions[i].label = .ok calendar.sessions[i].close := by
  rw [sessionClose, sessionIndex_label, ok_bind, sessionAt_of _ h]
  rfl

theorem previousSession_succ (h : i < calendar.sessions.length)
    (hNext : i + 1 < calendar.sessions.length) :
    calendar.previousSession calendar.sessions[i + 1].label = .ok calendar.sessions[i].label := by
  rw [previousSession, sessionIndex_label, ok_bind, refuseIf_of_not (Nat.succ_ne_zero i), ok_bind,
    Nat.add_sub_cancel, sessionAt_of _ h]
  rfl

theorem previousSession_first (h : 0 < calendar.sessions.length) :
    calendar.previousSession calendar.sessions[0].label = .error .sessionOutOfBounds := by
  rw [previousSession, sessionIndex_label, ok_bind, refuseIf_of rfl, error_bind]

theorem nextSession_label (h : i < calendar.sessions.length)
    (hNext : i + 1 < calendar.sessions.length) :
    calendar.nextSession calendar.sessions[i].label = .ok calendar.sessions[i + 1].label := by
  rw [nextSession, sessionIndex_label, ok_bind, sessionAt_of _ hNext]
  rfl

theorem nextSession_last (h : i < calendar.sessions.length)
    (hLast : ¬ i + 1 < calendar.sessions.length) :
    calendar.nextSession calendar.sessions[i].label = .error .sessionOutOfBounds := by
  rw [nextSession, sessionIndex_label, ok_bind, sessionAt,
    List.getElem?_eq_none_iff.mpr (not_lt.mp hLast)]
  rfl

theorem sessionsWindow_of (count : Nat) (hCount : 0 < count) (h : i < calendar.sessions.length)
    (hWindow : i + count ≤ calendar.sessions.length) :
    calendar.sessionsWindow calendar.sessions[i].label count =
      .ok (((calendar.sessions.drop i).take count).map Session.label) := by
  have hLength : i + (count - 1) + 1 - i = count := by omega
  rw [sessionsWindow, sessionIndex_label, ok_bind]
  simp only [if_pos hCount, hLength]
  rw [refuseIf_of_not (by omega), ok_bind]
  rfl

theorem sessionsWindow_beyond (count : Nat) (hCount : 0 < count) (h : i < calendar.sessions.length)
    (hWindow : calendar.sessions.length < i + count) :
    calendar.sessionsWindow calendar.sessions[i].label count = .error .windowOutOfBounds := by
  rw [sessionsWindow, sessionIndex_label, ok_bind]
  simp only [if_pos hCount]
  rw [refuseIf_of (by omega), error_bind]

theorem isSession_eq_ok_iff {date : Date} {b : Bool} :
    calendar.isSession date = .ok b ↔ calendar.InBounds date ∧
      (b = true ↔ ∃ i, ∃ h : i < calendar.sessions.length, calendar.sessions[i].label = date) := by
  rw [isSession, parseDate, ← any_searchsorted]
  constructor
  · intro h
    rw [bind_eq_ok_iff] at h
    obtain ⟨_, hParse, h⟩ := h
    rw [refuseIf_bind_eq_ok_iff, not_not] at hParse
    obtain ⟨hBounds, hParse⟩ := hParse
    cases hParse
    cases h
    exact ⟨hBounds, Iff.rfl⟩
  · rintro ⟨hBounds, hIff⟩
    rw [refuseIf_of_not (not_not.mpr hBounds)]
    simp only [ok_bind, pure_eq_ok, Except.ok.injEq]
    exact (Bool.eq_iff_iff.mpr hIff).symm

theorem isSession_label (h : i < calendar.sessions.length) :
    calendar.isSession calendar.sessions[i].label = .ok true :=
  (calendar.isSession_eq_ok_iff).mpr
    ⟨calendar.inBounds_label h, fun _ => ⟨i, h, rfl⟩, fun _ => rfl⟩

theorem dateToSession_label (h : i < calendar.sessions.length) (direction : Direction) :
    calendar.dateToSession calendar.sessions[i].label direction = .ok calendar.sessions[i].label := by
  unfold dateToSession
  rw [isSession_label _ h]
  rfl

section BetweenSessions

variable {date : Date}

theorem searchsorted_lt_of_inBounds (h : calendar.InBounds date) :
    calendar.searchsorted date < calendar.sessions.length := by
  obtain ⟨_, s, hs, hLe⟩ := h
  obtain ⟨i, hi, rfl⟩ := List.mem_iff_getElem.mp hs
  have hNot : ¬ i < calendar.searchsorted date :=
    (calendar.label_lt_iff_searchsorted hi).not.mp (not_lt.mpr hLe)
  omega

theorem searchsorted_pos_of_inBounds (h : calendar.InBounds date)
    (between : ¬ ∃ i, ∃ h : i < calendar.sessions.length, calendar.sessions[i].label = date) :
    0 < calendar.searchsorted date := by
  obtain ⟨⟨s, hs, hLe⟩, _⟩ := h
  obtain ⟨i, hi, rfl⟩ := List.mem_iff_getElem.mp hs
  have hLess := lt_of_le_of_ne hLe fun hEq => between ⟨i, hi, hEq⟩
  have := (calendar.label_lt_iff_searchsorted hi).mp hLess
  omega

theorem isSession_between (h : calendar.InBounds date)
    (between : ¬ ∃ i, ∃ h : i < calendar.sessions.length, calendar.sessions[i].label = date) :
    calendar.isSession date = .ok false :=
  calendar.isSession_eq_ok_iff.mpr ⟨h, fun hFalse => Bool.noConfusion hFalse,
    fun hSession => absurd hSession between⟩

theorem dateToSession_previous (h : calendar.InBounds date)
    (between : ¬ ∃ i, ∃ h : i < calendar.sessions.length, calendar.sessions[i].label = date)
    (hIndex : calendar.searchsorted date - 1 < calendar.sessions.length) :
    calendar.dateToSession date .previous =
      .ok calendar.sessions[calendar.searchsorted date - 1].label := by
  rw [dateToSession, calendar.isSession_between h between]
  simp only [ok_bind, Bool.false_eq_true, if_false, sessionAt_of _ hIndex, pure_eq_ok]

theorem dateToSession_next (h : calendar.InBounds date)
    (between : ¬ ∃ i, ∃ h : i < calendar.sessions.length, calendar.sessions[i].label = date)
    (hIndex : calendar.searchsorted date < calendar.sessions.length) :
    calendar.dateToSession date .next = .ok calendar.sessions[calendar.searchsorted date].label := by
  rw [dateToSession, calendar.isSession_between h between]
  simp only [ok_bind, Bool.false_eq_true, if_false, sessionAt_of _ hIndex, pure_eq_ok]

theorem dateToSession_outOfBounds (h : ¬ calendar.InBounds date) (direction : Direction) :
    calendar.dateToSession date direction = .error (.dateOutOfBounds date) := by
  unfold dateToSession
  rw [isSession, parseDate, refuseIf_of h]
  rfl

end BetweenSessions

end Calendar

end StockApi.SessionCalendar

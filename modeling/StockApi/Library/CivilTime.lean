import Mathlib.Data.Nat.Find
import Mathlib.Order.Basic
import Mathlib.Tactic.IntervalCases
import StockApi.Library.Digits

/-!
# Civil dates and UTC instants

Proleptic Gregorian dates, instants counted in microseconds, and their ISO 8601 texts. The
readers follow the grammar of `date.fromisoformat` and `datetime.fromisoformat`; they are
inverted here only on the texts that `isoformat` writes.
-/

namespace StockApi.CivilTime

open Digits

def isLeap (year : Nat) : Bool := year % 4 = 0 && (year % 100 ≠ 0 || year % 400 = 0)

def daysInMonth (year month : Nat) : Nat :=
  if month = 2 then (if isLeap year then 29 else 28)
  else if month = 4 ∨ month = 6 ∨ month = 9 ∨ month = 11 then 30 else 31

def daysInYear (year : Nat) : Nat := if isLeap year then 366 else 365

/-- Days before the first of January of a year, from year one on. -/
def daysBeforeYear (year : Nat) : Nat :=
  (year - 1) * 365 + (year - 1) / 4 - (year - 1) / 100 + (year - 1) / 400

def daysBeforeMonth (year : Nat) : Nat → Nat
  | 0 => 0
  | 1 => 0
  | month + 1 => daysBeforeMonth year month + daysInMonth year month

/-- A calendar date, valid by construction. -/
structure Date where
  year : Nat
  month : Nat
  day : Nat
  yearRange : 1 ≤ year ∧ year ≤ 9999
  monthRange : 1 ≤ month ∧ month ≤ 12
  dayRange : 1 ≤ day ∧ day ≤ daysInMonth year month
deriving DecidableEq

theorem daysInMonth_le (year month : Nat) : daysInMonth year month ≤ 31 := by
  unfold daysInMonth
  split_ifs <;> decide

namespace Date

def ofParts (year month day : Nat) : Option Date :=
  if h : (1 ≤ year ∧ year ≤ 9999) ∧ (1 ≤ month ∧ month ≤ 12) ∧
      (1 ≤ day ∧ day ≤ daysInMonth year month) then
    some ⟨year, month, day, h.1, h.2.1, h.2.2⟩
  else none

@[simp] theorem ofParts_self (d : Date) : ofParts d.year d.month d.day = some d :=
  dif_pos ⟨d.yearRange, d.monthRange, d.dayRange⟩

/-- Dates compare as their digits do. -/
def key (d : Date) : Nat := (d.year * 100 + d.month) * 100 + d.day

theorem day_lt (d : Date) : d.day < 100 := by
  have := d.dayRange.2
  have := daysInMonth_le d.year d.month
  omega

theorem key_injective : Function.Injective key := by
  intro a b h
  have := a.day_lt
  have := b.day_lt
  have := a.monthRange
  have := b.monthRange
  have hYear : a.year = b.year := by
    unfold key at h
    omega
  have hMonth : a.month = b.month := by
    unfold key at h
    omega
  have hDay : a.day = b.day := by
    unfold key at h
    omega
  cases a
  cases b
  simp_all

instance : LinearOrder Date := LinearOrder.lift' key key_injective

/-- Days since the first of January of year one. -/
def days (d : Date) : Nat := daysBeforeYear d.year + daysBeforeMonth d.year d.month + (d.day - 1)

/-- `date.isoformat()`. -/
def isoChars (d : Date) : List Char :=
  pad 4 d.year ++ '-' :: (pad 2 d.month ++ '-' :: pad 2 d.day)

def isoformat (d : Date) : String := String.ofList d.isoChars

end Date

/-! ## Dates from day numbers -/

theorem isLeap_iff (year : Nat) : isLeap year = true ↔ 4 ∣ year ∧ (¬ 100 ∣ year ∨ 400 ∣ year) := by
  simp [isLeap, Nat.dvd_iff_mod_eq_zero]

/-- The leap-day count: every fourth year, without centuries, with fourth centuries. -/
theorem leapDays_succ {every4 every100 every400 : Prop} [Decidable every4] [Decidable every100]
    [Decidable every400] (days a b c : Nat) (h400 : every400 → every100) (h100 : every100 → every4)
    (hLe : b ≤ a) :
    days + 365 + (a + if every4 then 1 else 0) - (b + if every100 then 1 else 0) +
        (c + if every400 then 1 else 0) =
      days + a - b + c + if every4 ∧ (¬ every100 ∨ every400) then 366 else 365 := by
  by_cases h1 : every4
  · by_cases h2 : every100
    · by_cases h3 : every400
      · simp only [h1, h2, h3, if_true, not_true, or_true, and_true]
        omega
      · simp only [h1, h2, h3, if_true, if_false, not_true, or_false, and_false]
        omega
    · have h3 : ¬ every400 := fun h => h2 (h400 h)
      simp only [h1, h2, h3, if_true, if_false, not_false_iff, true_or, and_true]
      omega
  · have h2 : ¬ every100 := fun h => h1 (h100 h)
    have h3 : ¬ every400 := fun h => h2 (h400 h)
    simp only [h1, h2, h3, if_false, false_and]
    omega

theorem daysBeforeYear_succ (year : Nat) (h : 1 ≤ year) :
    daysBeforeYear (year + 1) = daysBeforeYear year + daysInYear year := by
  obtain ⟨y, rfl⟩ := Nat.exists_eq_add_of_le' h
  have hQuarter : y / 100 ≤ y / 4 := Nat.div_le_div_left (by decide) (by decide)
  have h100 : 400 ∣ y + 1 → 100 ∣ y + 1 := (Dvd.intro 4 rfl : 100 ∣ 400).trans
  have h4 : 100 ∣ y + 1 → 4 ∣ y + 1 := (Dvd.intro 25 rfl : 4 ∣ 100).trans
  simp only [daysBeforeYear, daysInYear, isLeap_iff, Nat.add_sub_cancel, Nat.succ_div, Nat.add_mul,
    Nat.one_mul]
  exact leapDays_succ (y * 365) _ _ _ h100 h4 hQuarter

theorem daysBeforeMonth_succ (year month : Nat) (h : 1 ≤ month) :
    daysBeforeMonth year (month + 1) = daysBeforeMonth year month + daysInMonth year month := by
  obtain ⟨m, rfl⟩ := Nat.exists_eq_add_of_le' h
  rfl

theorem daysBeforeMonth_thirteen (year : Nat) : daysBeforeMonth year 13 = daysInYear year := by
  cases h : isLeap year <;> simp [daysBeforeMonth, daysInMonth, daysInYear, h]

theorem le_daysBeforeYear (year : Nat) : (year - 1) * 365 ≤ daysBeforeYear year := by
  unfold daysBeforeYear
  omega

theorem daysBeforeYear_mono {a b : Nat} (h : a ≤ b) : daysBeforeYear a ≤ daysBeforeYear b := by
  induction b, h using Nat.le_induction with
  | base => exact le_rfl
  | succ b hab ih =>
    refine ih.trans ?_
    unfold daysBeforeYear
    omega

/-- The day numbers of the years 1 to 9999. -/
def maxDays : Nat := 3652059

def yearOfDays (n : Nat) : Nat := Nat.findGreatest (fun y => daysBeforeYear y ≤ n) (n / 365 + 1)

theorem yearOfDays_spec (n : Nat) :
    1 ≤ yearOfDays n ∧ daysBeforeYear (yearOfDays n) ≤ n ∧ n < daysBeforeYear (yearOfDays n + 1) := by
  have hOne : daysBeforeYear 1 ≤ n := Nat.zero_le n
  have hPos : 1 ≤ yearOfDays n := Nat.le_findGreatest (by omega) hOne
  have hLe : daysBeforeYear (yearOfDays n) ≤ n :=
    Nat.findGreatest_spec (P := fun y => daysBeforeYear y ≤ n) (by omega : 1 ≤ n / 365 + 1) hOne
  refine ⟨hPos, hLe, ?_⟩
  by_cases hBound : yearOfDays n + 1 ≤ n / 365 + 1
  · exact not_le.mp (Nat.findGreatest_is_greatest (P := fun y => daysBeforeYear y ≤ n)
      (Nat.lt_add_one (yearOfDays n)) hBound)
  · have := le_daysBeforeYear (yearOfDays n + 1)
    omega

def monthOfDays (year rest : Nat) : Nat :=
  Nat.findGreatest (fun m => daysBeforeMonth year m ≤ rest) 12

theorem monthOfDays_spec (year rest : Nat) (h : rest < daysInYear year) :
    1 ≤ monthOfDays year rest ∧ monthOfDays year rest ≤ 12 ∧
      daysBeforeMonth year (monthOfDays year rest) ≤ rest ∧
      rest < daysBeforeMonth year (monthOfDays year rest + 1) := by
  have hOne : daysBeforeMonth year 1 ≤ rest := Nat.zero_le rest
  have hPos : 1 ≤ monthOfDays year rest := Nat.le_findGreatest (by omega) hOne
  have hTop : monthOfDays year rest ≤ 12 := Nat.findGreatest_le 12
  refine ⟨hPos, hTop, Nat.findGreatest_spec (P := fun m => daysBeforeMonth year m ≤ rest)
    (by omega : 1 ≤ 12) hOne, ?_⟩
  rcases Nat.lt_or_ge (monthOfDays year rest) 12 with hLt | hGe
  · exact not_le.mp (Nat.findGreatest_is_greatest (P := fun m => daysBeforeMonth year m ≤ rest)
      (Nat.lt_add_one (monthOfDays year rest)) hLt)
  · have hEq : monthOfDays year rest = 12 := by omega
    rw [hEq, daysBeforeMonth_thirteen]
    exact h

namespace Date

/-- `date.fromordinal(n + 1)`. -/
def ofDays (n : Nat) (h : n < maxDays) : Date where
  year := yearOfDays n
  month := monthOfDays (yearOfDays n) (n - daysBeforeYear (yearOfDays n))
  day := n - daysBeforeYear (yearOfDays n) -
    daysBeforeMonth (yearOfDays n)
      (monthOfDays (yearOfDays n) (n - daysBeforeYear (yearOfDays n))) + 1
  yearRange := by
    obtain ⟨hPos, hLe, -⟩ := yearOfDays_spec n
    refine ⟨hPos, ?_⟩
    by_contra hBig
    have := daysBeforeYear_mono (show 10000 ≤ yearOfDays n by omega)
    have hTop : daysBeforeYear 10000 = maxDays := by decide
    omega
  monthRange := by
    obtain ⟨hPos, hLe, hLt⟩ := yearOfDays_spec n
    rw [daysBeforeYear_succ _ hPos] at hLt
    obtain ⟨h1, h2, -, -⟩ := monthOfDays_spec (yearOfDays n)
      (n - daysBeforeYear (yearOfDays n)) (by omega)
    exact ⟨h1, h2⟩
  dayRange := by
    obtain ⟨hPos, hLe, hLt⟩ := yearOfDays_spec n
    rw [daysBeforeYear_succ _ hPos] at hLt
    obtain ⟨h1, -, h3, h4⟩ := monthOfDays_spec (yearOfDays n)
      (n - daysBeforeYear (yearOfDays n)) (by omega)
    rw [daysBeforeMonth_succ _ _ h1] at h4
    omega

@[simp] theorem days_ofDays (n : Nat) (h : n < maxDays) : (ofDays n h).days = n := by
  obtain ⟨hPos, hLe, hLt⟩ := yearOfDays_spec n
  rw [daysBeforeYear_succ _ hPos] at hLt
  obtain ⟨-, -, h3, -⟩ := monthOfDays_spec (yearOfDays n)
    (n - daysBeforeYear (yearOfDays n)) (by omega)
  simp only [days, ofDays]
  omega

end Date

/-! ## The order of dates -/

theorem daysBeforeMonth_mono (year : Nat) {a b : Nat} (ha : 1 ≤ a) (h : a ≤ b) :
    daysBeforeMonth year a ≤ daysBeforeMonth year b := by
  induction b, h using Nat.le_induction with
  | base => exact le_rfl
  | succ b hab ih =>
    rw [daysBeforeMonth_succ year b (ha.trans hab)]
    exact ih.trans (Nat.le_add_right _ _)

namespace Date

/-- A date lies before the first of the next month. -/
theorem days_lt_month (d : Date) :
    daysBeforeMonth d.year d.month + (d.day - 1) < daysBeforeMonth d.year (d.month + 1) := by
  have := d.dayRange
  rw [daysBeforeMonth_succ d.year d.month d.monthRange.1]
  omega

theorem days_lt_year (d : Date) : d.days < daysBeforeYear (d.year + 1) := by
  have hMonth := d.days_lt_month
  have hLast := daysBeforeMonth_mono d.year (Nat.le_add_left 1 d.month)
    (Nat.add_le_add_right d.monthRange.2 1)
  rw [daysBeforeMonth_thirteen] at hLast
  rw [daysBeforeYear_succ d.year d.yearRange.1, days]
  omega

theorem days_strictMono : StrictMono days := by
  intro a b h
  have hKey : a.key < b.key := h
  have := a.day_lt
  have := b.day_lt
  have := a.monthRange
  have := b.monthRange
  rcases Nat.lt_trichotomy a.year b.year with hYear | hYear | hYear
  · have hNext : daysBeforeYear (a.year + 1) ≤ daysBeforeYear b.year := daysBeforeYear_mono hYear
    have hLast := a.days_lt_year
    simp only [days] at hLast ⊢
    omega
  · rcases Nat.lt_trichotomy a.month b.month with hMonth | hMonth | hMonth
    · have hNext : daysBeforeMonth b.year (a.month + 1) ≤ daysBeforeMonth b.year b.month :=
        daysBeforeMonth_mono b.year (Nat.le_add_left 1 a.month) hMonth
      have hLast := a.days_lt_month
      rw [hYear] at hLast
      simp only [days, hYear]
      omega
    · have := a.dayRange.1
      simp only [key, hYear, hMonth] at hKey
      simp only [days, hYear, hMonth]
      omega
    · unfold key at hKey
      omega
  · unfold key at hKey
    omega

theorem days_le_iff {a b : Date} : a.days ≤ b.days ↔ a ≤ b := days_strictMono.le_iff_le

theorem days_lt_iff {a b : Date} : a.days < b.days ↔ a < b := days_strictMono.lt_iff_lt

end Date

/-! ## Reading dates -/

/-- A field of exactly `width` ASCII digits, and what follows it. -/
def readField (width : Nat) (text : List Char) : Option (Nat × List Char) :=
  if text.length < width then none
  else (read (text.take width)).map fun n => (n, text.drop width)

theorem readField_pad {width n : Nat} (rest : List Char) (hw : 0 < width) (h : n < 10 ^ width) :
    readField width (pad width n ++ rest) = some (n, rest) := by
  have hLen : ¬ (pad width n ++ rest).length < width := by simp
  rw [readField, if_neg hLen, List.take_left' (length_pad width n),
    List.drop_left' (length_pad width n), read_pad width n hw h]
  rfl

namespace Date

/-- `_isoweek_to_gregorian`. -/
def ofIsoWeek (year week weekday : Nat) : Option Date :=
  let firstDay := daysBeforeYear year + 1
  let longYear := firstDay % 7 = 4 ∨ (firstDay % 7 = 3 ∧ isLeap year)
  let firstWeekday := (firstDay + 6) % 7
  let weekOneMonday := if 3 < firstWeekday then firstDay - firstWeekday + 7 else firstDay - firstWeekday
  let ordinal := weekOneMonday + (week - 1) * 7 + (weekday - 1)
  if h : ordinal - 1 < maxDays then
    if (1 ≤ year ∧ year ≤ 9999) ∧ ((1 ≤ week ∧ week < 53) ∨ (week = 53 ∧ longYear)) ∧
        (1 ≤ weekday ∧ weekday ≤ 7) then
      some (ofDays (ordinal - 1) h)
    else none
  else none

/-- The separator rule: either every field is separated by a dash or none is. -/
def skipDash (dashed : Bool) (text : List Char) : Option (List Char) :=
  match dashed, text with
  | true, '-' :: rest => some rest
  | true, _ => none
  | false, '-' :: _ => none
  | false, rest => some rest

def readWeekday (dashed : Bool) (text : List Char) : Option Nat :=
  match text with
  | [] => some 1
  | _ => do
    let rest ← skipDash dashed text
    let (weekday, rest) ← readField 1 rest
    if rest = [] then some weekday else none

/-- `date.fromisoformat`. -/
def ofIsoChars (text : List Char) : Option Date :=
  if text.length = 7 ∨ text.length = 8 ∨ text.length = 10 then do
    let (year, rest) ← readField 4 text
    let dashed := rest.head? = some '-'
    let rest := if dashed then rest.drop 1 else rest
    match rest with
    | 'W' :: rest => do
      let (week, rest) ← readField 2 rest
      let weekday ← readWeekday dashed rest
      ofIsoWeek year week weekday
    | _ => do
      let (month, rest) ← readField 2 rest
      let rest ← skipDash dashed rest
      let (day, rest) ← readField 2 rest
      if rest = [] then ofParts year month day else none
  else none

def fromisoformat (text : String) : Option Date := ofIsoChars text.toList

@[simp] theorem length_isoChars (d : Date) : d.isoChars.length = 10 := by
  simp [isoChars]

theorem ofIsoChars_isoChars (d : Date) : ofIsoChars d.isoChars = some d := by
  have hYear : d.year < 10 ^ 4 := by have := d.yearRange; omega
  have hMonth : d.month < 10 ^ 2 := by have := d.monthRange; omega
  have hDay : d.day < 10 ^ 2 := d.day_lt
  have hW : pad 2 d.month ++ '-' :: pad 2 d.day =
      digit (d.month / 10) :: digit d.month :: '-' :: pad 2 d.day := rfl
  have hNotW : digit (d.month / 10) ≠ 'W' := digit_ne _ (by decide)
  rw [ofIsoChars, if_pos (by simp), isoChars, readField_pad _ (by decide) hYear]
  simp only [Option.bind_eq_bind, Option.bind_some, List.head?_cons, decide_true, if_true,
    List.drop_one, List.tail_cons]
  split
  · rename_i heq
    rw [hW] at heq
    exact absurd (List.cons.inj heq).1 hNotW
  · rw [readField_pad _ (by decide) hMonth]
    simp only [Option.bind_some, skipDash]
    rw [← List.append_nil (pad 2 d.day), readField_pad _ (by decide) hDay]
    simp

@[simp] theorem fromisoformat_isoformat (d : Date) : fromisoformat d.isoformat = some d := by
  rw [fromisoformat, isoformat, String.toList_ofList, ofIsoChars_isoChars]

theorem isoformat_injective : Function.Injective isoformat := by
  intro a b h
  have : some a = some b := by rw [← fromisoformat_isoformat a, h, fromisoformat_isoformat b]
  exact Option.some.inj this

end Date

end StockApi.CivilTime

import StockApi.Library.Checked
import StockApi.Library.Instant

/-!
# Timestamps of evidence

The text of an instant with six fractional digits and the letter `Z`, as all evidence documents
write it. A text of this shape stands for seven numbers, which PostgreSQL and Python bound
differently.
-/

namespace StockApi.CivilTime

open Checked Digits

/-- `HH:MM:SS.ffffff`. -/
def fullClockChars (clock : Nat) : List Char :=
  pad 2 (clock / 3600000000) ++ ':' :: (pad 2 (clock / 60000000 % 60) ++ ':' ::
    (pad 2 (clock / 1000000 % 60) ++ '.' :: pad 6 (clock % 1000000)))

/-- `_timestamp`. -/
def Instant.timestampChars (t : Instant) : List Char :=
  t.date.isoChars ++ 'T' :: (fullClockChars t.clock ++ ['Z'])

def Instant.timestamp (t : Instant) : String := String.ofList t.timestampChars

/-! ## Reading it back -/

/-- `_utc` of a datetime already in UTC. -/
def Instant.inUtc (t : Instant) : ParsedDateTime := ⟨t.date, t.clock, some 0⟩

@[simp] theorem Instant.toInstant_inUtc (t : Instant) : t.inUtc.toInstant = some t :=
  ParsedDateTime.toInstant_self t

/-- The instant of a datetime that has a zone; the refusals name the datetime. -/
def utc (value : ParsedDateTime) (label : String) : Except String Instant := do
  refuseIf (value.offset = none) (label ++ " must be timezone-aware")
  orRefuse value.toInstant (label ++ " cannot be normalized to UTC")

theorem utc_eq_ok_iff (value : ParsedDateTime) (label : String) (t : Instant) :
    utc value label = .ok t ↔ value.toInstant = some t := by
  rw [utc, refuseIf_bind_eq_ok_iff, orRefuse_eq_ok_iff]
  refine and_iff_right_of_imp fun h hNaive => ?_
  rw [ParsedDateTime.toInstant, hNaive] at h
  cases h

theorem utc_bind_eq_ok_iff {β : Type} {value : ParsedDateTime} {label : String}
    {f : Instant → Except String β} {b : β} :
    (utc value label >>= f) = .ok b ↔ ∃ t, value.toInstant = some t ∧ f t = .ok b := by
  simp only [bind_eq_ok_iff, utc_eq_ok_iff]

/-- `fromisoformat` of a text whose final `Z` is replaced by `+00:00`. -/
def ParsedDateTime.ofTimestamp (text : String) : Option ParsedDateTime :=
  if text.toList.getLast? = some 'Z' then
    ofIsoChars (text.toList.dropLast ++ ['+', '0', '0', ':', '0', '0'])
  else ofIsoChars text.toList

theorem readClock_fullClockChars (clock : Nat) (h : clock < dayMicros) :
    readClock (fullClockChars clock) =
      some (clock / 3600000000, clock / 60000000 % 60, clock / 1000000 % 60, clock % 1000000) := by
  have hHour : clock / 3600000000 < 100 := by unfold dayMicros at h; omega
  have hMinute : clock / 60000000 % 60 < 100 := by omega
  have hSecond : clock / 1000000 % 60 < 100 := by omega
  rw [readClock, fullClockChars, readField_two _ _ hHour]
  simp only [Option.bind_eq_bind, Option.bind_some, List.head?_cons, decide_true, reduceCtorEq, if_false,
    nextField]
  rw [readField_two _ _ hMinute]
  simp only [Option.bind_some, reduceCtorEq, if_false]
  rw [readField_two _ _ hSecond]
  simp only [Option.bind_some]
  rw [readFraction_pad _ (by omega)]
  rfl

theorem not_startsZone_fullClockChars (clock : Nat) :
    ∀ c ∈ fullClockChars clock, (!startsZone c) = true := by
  have hDot : startsZone '.' = false := by decide
  have hColon : startsZone ':' = false := by decide
  intro c hc
  rw [Bool.not_eq_true']
  unfold fullClockChars at hc
  simp only [List.mem_append, List.mem_cons] at hc
  rcases hc with hc | rfl | hc | rfl | hc | rfl | hc
  · exact not_startsZone_pad _ _ c hc
  · exact hColon
  · exact not_startsZone_pad _ _ c hc
  · exact hColon
  · exact not_startsZone_pad _ _ c hc
  · exact hDot
  · exact not_startsZone_pad _ _ c hc

@[simp] theorem ParsedDateTime.ofTimestamp_timestamp (t : Instant) :
    ofTimestamp t.timestamp = some t.inUtc := by
  have hClock : t.clock < dayMicros := Nat.mod_lt _ (by decide)
  have hChars : t.timestamp.toList = (t.date.isoChars ++ 'T' :: fullClockChars t.clock) ++ ['Z'] := by
    rw [Instant.timestamp, String.toList_ofList, Instant.timestampChars]
    simp
  have hText : (t.date.isoChars ++ 'T' :: fullClockChars t.clock) ++ ['+', '0', '0', ':', '0', '0'] =
      t.date.isoChars ++ 'T' :: (fullClockChars t.clock ++ ['+', '0', '0', ':', '0', '0']) := by
    simp
  rw [ofTimestamp, hChars, List.getLast?_concat, if_pos rfl, List.dropLast_concat, hText]
  exact ofIsoChars_date (by simp)
    (readTime_utc hClock (not_startsZone_fullClockChars _) (readClock_fullClockChars _ hClock))

theorem Instant.timestamp_injective : Function.Injective Instant.timestamp := by
  intro s t h
  have hRead := congrArg ParsedDateTime.ofTimestamp h
  rw [ParsedDateTime.ofTimestamp_timestamp, ParsedDateTime.ofTimestamp_timestamp] at hRead
  have hInstant := congrArg ParsedDateTime.toInstant (Option.some.inj hRead)
  rw [Instant.toInstant_inUtc, Instant.toInstant_inUtc] at hInstant
  exact Option.some.inj hInstant

/-! ## The shape -/

/-- The numbers of `YYYY-MM-DDTHH:MM:SS.ffffffZ`. -/
structure Stamp where
  year : Nat
  month : Nat
  day : Nat
  hour : Nat
  minute : Nat
  second : Nat
  micro : Nat
deriving DecidableEq

namespace Stamp

def read : List Char → Option Stamp
  | [a, b, c, d, '-', e, f, '-', g, h, 'T', i, j, ':', k, l, ':', m, n, '.', o, p, q, r, s, t, 'Z'] => do
    return ⟨← Digits.read [a, b, c, d], ← Digits.read [e, f], ← Digits.read [g, h],
      ← Digits.read [i, j], ← Digits.read [k, l], ← Digits.read [m, n],
      ← Digits.read [o, p, q, r, s, t]⟩
  | _ => none

def clock (s : Stamp) : Nat :=
  s.hour * 3600000000 + s.minute * 60000000 + s.second * 1000000 + s.micro

/-- What the server's timestamp input makes of it. -/
def postgres (s : Stamp) : Option Int := do
  let date ← Date.ofParts s.year s.month s.day
  if s.hour ≤ 24 ∧ s.minute ≤ 59 ∧ s.second ≤ 60 ∧ s.clock ≤ dayMicros then
    return (date.days * dayMicros + s.clock : Nat)
  else none

/-- The numbers of an instant. -/
def ofInstant (t : Instant) : Stamp :=
  ⟨t.date.year, t.date.month, t.date.day, t.clock / 3600000000, t.clock / 60000000 % 60,
    t.clock / 1000000 % 60, t.clock % 1000000⟩

theorem pad_two (n : Nat) : pad 2 n = [digit (n / 10), digit n] := rfl

theorem pad_four (n : Nat) :
    pad 4 n = [digit (n / 10 / 10 / 10), digit (n / 10 / 10), digit (n / 10), digit n] := rfl

theorem pad_six (n : Nat) : pad 6 n = [digit (n / 10 / 10 / 10 / 10 / 10),
    digit (n / 10 / 10 / 10 / 10), digit (n / 10 / 10 / 10), digit (n / 10 / 10), digit (n / 10),
    digit n] := rfl

theorem read_timestampChars (t : Instant) : read t.timestampChars = some (ofInstant t) := by
  have hClock : t.clock < dayMicros := Nat.mod_lt _ (by decide)
  unfold dayMicros at hClock
  have hYear : t.date.year < 10 ^ 4 := by have := t.date.yearRange.2; omega
  have hMonth : t.date.month < 10 ^ 2 := by have := t.date.monthRange.2; omega
  have hDay : t.date.day < 10 ^ 2 := t.date.day_lt
  have hHour : t.clock / 3600000000 < 10 ^ 2 := by omega
  have hMinute : t.clock / 60000000 % 60 < 10 ^ 2 := by omega
  have hSecond : t.clock / 1000000 % 60 < 10 ^ 2 := by omega
  have hMicro : t.clock % 1000000 < 10 ^ 6 := by omega
  have h4 := read_pad 4 t.date.year (by decide) hYear
  have hM := read_pad 2 t.date.month (by decide) hMonth
  have hD := read_pad 2 t.date.day (by decide) hDay
  have hH := read_pad 2 _ (by decide) hHour
  have hI := read_pad 2 _ (by decide) hMinute
  have hS := read_pad 2 _ (by decide) hSecond
  have hF := read_pad 6 _ (by decide) hMicro
  rw [pad_four] at h4
  rw [pad_two] at hM hD hH hI hS
  rw [pad_six] at hF
  rw [Instant.timestampChars, fullClockChars, Date.isoChars, pad_four, pad_six]
  simp only [pad_two, List.cons_append, List.nil_append, read, h4, hM, hD, hH, hI, hS, hF]
  rfl

theorem clock_ofInstant (t : Instant) : (ofInstant t).clock = t.clock := by
  simp only [clock, ofInstant]
  omega

theorem postgres_ofInstant (t : Instant) : (ofInstant t).postgres = some (t.micros : Int) := by
  have hClock : t.clock < dayMicros := Nat.mod_lt _ (by decide)
  have hBounds : (ofInstant t).hour ≤ 24 ∧ (ofInstant t).minute ≤ 59 ∧ (ofInstant t).second ≤ 60 ∧
      (ofInstant t).clock ≤ dayMicros := by
    rw [clock_ofInstant]
    unfold dayMicros at hClock ⊢
    simp only [ofInstant]
    omega
  have hDate : Date.ofParts (ofInstant t).year (ofInstant t).month (ofInstant t).day = some t.date :=
    Date.ofParts_self t.date
  rw [postgres, hDate, Option.bind_eq_bind, Option.bind_some, if_pos hBounds, clock_ofInstant,
    Instant.micros_split]
  rfl

end Stamp

end StockApi.CivilTime

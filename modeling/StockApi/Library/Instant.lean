import StockApi.Library.CivilTime

/-!
# UTC instants and their texts

An instant is a count of microseconds since the first of January of year one, UTC. Its text
is that of `datetime.isoformat()` in UTC; the reader follows `datetime.fromisoformat` and
keeps the offset it read.
-/

namespace StockApi.CivilTime

open Digits

def dayMicros : Nat := 86400000000

/-- A UTC datetime of the years 1 to 9999. -/
structure Instant where
  micros : Nat
  inRange : micros < maxDays * dayMicros
deriving DecidableEq

namespace Instant

theorem micros_injective : Function.Injective micros := by
  rintro ⟨a, ha⟩ ⟨b, hb⟩ h
  cases h
  rfl

instance : LinearOrder Instant := LinearOrder.lift' micros micros_injective

theorem le_iff {a b : Instant} : a ≤ b ↔ a.micros ≤ b.micros := Iff.rfl

theorem lt_iff {a b : Instant} : a < b ↔ a.micros < b.micros := Iff.rfl

theorem days_lt (t : Instant) : t.micros / dayMicros < maxDays := by
  have h := t.inRange
  unfold dayMicros at *
  omega

def date (t : Instant) : Date := Date.ofDays (t.micros / dayMicros) t.days_lt

def clock (t : Instant) : Nat := t.micros % dayMicros

theorem date_mono {a b : Instant} (h : a ≤ b) : a.date ≤ b.date := by
  rw [← Date.days_le_iff, date, date, Date.days_ofDays, Date.days_ofDays]
  exact Nat.div_le_div_right h

end Instant

/-- The `HH:MM:SS[.ffffff]` of a time of day; the fraction is left out when it is zero. -/
def clockChars (clock : Nat) : List Char :=
  pad 2 (clock / 3600000000) ++ ':' :: (pad 2 (clock / 60000000 % 60) ++ ':' ::
    (pad 2 (clock / 1000000 % 60) ++
      if clock % 1000000 = 0 then [] else '.' :: pad 6 (clock % 1000000)))

namespace Instant

/-- `datetime.isoformat()` of a UTC datetime. -/
def isoChars (t : Instant) : List Char :=
  t.date.isoChars ++ 'T' :: (clockChars t.clock ++ ['+', '0', '0', ':', '0', '0'])

def isoformat (t : Instant) : String := String.ofList t.isoChars

end Instant

/-! ## Reading datetimes -/

/-- A parsed datetime: local date and time of day, with the offset from UTC when it is aware. -/
structure ParsedDateTime where
  date : Date
  clock : Nat
  offset : Option Int
deriving DecidableEq

/-- `_find_isoformat_datetime_separator`: the length of the date part. -/
def separatorIndex (text : List Char) : Option Nat :=
  if text.length = 7 then some 7
  else if text[4]? = some '-' then
    if text[5]? = some 'W' then
      if text.length < 8 then none
      else if text[8]? = some '-' then
        if text.length = 9 then none
        else if 10 < text.length ∧ (text[10]?.map isDigit) = some true then some 8
        else some 10
      else some 8
    else some 10
  else if text[4]? = some 'W' then
    let index := 7 + ((text.drop 7).takeWhile isDigit).length
    if index < 9 then some index
    else if index % 2 = 0 then some 7
    else some 8
  else some 8

/-- What follows a time field: nothing, or the next field behind its separator. -/
def nextField (colons : Bool) (text : List Char) : Option (List Char) :=
  match colons, text with
  | true, ':' :: rest => some rest
  | true, _ => none
  | false, rest => some rest

/-- The fraction of a second: six digits are kept, shorter ones are scaled. -/
def readFraction (text : List Char) : Option Nat :=
  match text with
  | [] => some 0
  | mark :: digits =>
    if (mark = '.' ∨ mark = ',') ∧ digits.all isDigit then
      (read (digits.take 6)).map fun n => n * 10 ^ (6 - (digits.take 6).length)
    else none

/-- `_parse_hh_mm_ss_ff`. -/
def readClock (text : List Char) : Option (Nat × Nat × Nat × Nat) := do
  let (hour, rest) ← readField 2 text
  if rest = [] then some (hour, 0, 0, 0)
  else do
    let colons := rest.head? = some ':'
    let (minute, rest) ← (nextField colons rest).bind (readField 2)
    if rest = [] then some (hour, minute, 0, 0)
    else do
      let (second, rest) ← (nextField colons rest).bind (readField 2)
      let fraction ← readFraction rest
      some (hour, minute, second, fraction)

def clockMicros (hour minute second fraction : Nat) : Nat :=
  ((hour * 60 + minute) * 60 + second) * 1000000 + fraction

/-- The text behind the sign is an offset; `Z` alone is UTC. -/
def readOffset (negative : Bool) (text : List Char) : Option Int :=
  if text.length = 0 ∨ text.length = 1 ∨ text.length = 3 then none
  else do
    let (hour, minute, second, fraction) ← readClock text
    let offset := clockMicros hour minute second fraction
    if offset < dayMicros then some (if negative then -(offset : Int) else offset) else none

/-- The zone after the time of day: nothing, `Z`, or a signed offset. -/
def readZone : List Char → Option (Option Int)
  | [] => some none
  | ['Z'] => some (some 0)
  | '-' :: rest => (readOffset true rest).map some
  | '+' :: rest => (readOffset false rest).map some
  | _ => none

def startsZone (c : Char) : Bool := c = '+' || c = '-' || c = 'Z'

/-- `_parse_isoformat_time`. -/
def readTime (text : List Char) : Option (Nat × Option Int) := do
  let (hour, minute, second, fraction) ← readClock (text.takeWhile fun c => !startsZone c)
  let offset ← readZone (text.dropWhile fun c => !startsZone c)
  if hour < 24 ∧ minute < 60 ∧ second < 60 then
    some (clockMicros hour minute second fraction, offset)
  else none

/-- `datetime.fromisoformat`. -/
def ParsedDateTime.ofIsoChars (text : List Char) : Option ParsedDateTime :=
  if text.length < 7 then none
  else do
    let index ← separatorIndex text
    let date ← Date.ofIsoChars (text.take index)
    let time := text.drop (index + 1)
    if time = [] then some ⟨date, 0, none⟩
    else do
      let (clock, offset) ← readTime time
      some ⟨date, clock, offset⟩

def ParsedDateTime.fromisoformat (text : String) : Option ParsedDateTime := ofIsoChars text.toList

/-- The instant of a microsecond count, within the years 1 to 9999. -/
def Instant.ofMicros (n : Int) : Option Instant :=
  if h : 0 ≤ n ∧ n.toNat < maxDays * dayMicros then some ⟨n.toNat, h.2⟩ else none

/-- `.astimezone(UTC)` of an aware datetime; `none` when it leaves the years 1 to 9999. -/
def ParsedDateTime.toInstant (d : ParsedDateTime) : Option Instant :=
  d.offset.bind fun offset =>
    Instant.ofMicros (((d.date.days * dayMicros + d.clock : Nat) : Int) - offset)

/-! ## The reader inverts the writer -/

theorem clock_split (clock : Nat) :
    clockMicros (clock / 3600000000) (clock / 60000000 % 60) (clock / 1000000 % 60)
      (clock % 1000000) = clock := by
  unfold clockMicros
  omega

theorem readField_two (n : Nat) (rest : List Char) (h : n < 100) :
    readField 2 (pad 2 n ++ rest) = some (n, rest) :=
  readField_pad rest (by decide) (by simpa using h)

theorem readFraction_nil : readFraction [] = some 0 := rfl

theorem readFraction_pad (n : Nat) (h : n < 1000000) :
    readFraction ('.' :: pad 6 n) = some n := by
  have hTake : (pad 6 n).take 6 = pad 6 n := List.take_of_length_le (by simp)
  simp [readFraction, all_isDigit_pad, hTake, read_pad 6 n (by decide) h]

theorem readClock_clockChars (clock : Nat) (h : clock < dayMicros) :
    readClock (clockChars clock) =
      some (clock / 3600000000, clock / 60000000 % 60, clock / 1000000 % 60, clock % 1000000) := by
  have hHour : clock / 3600000000 < 100 := by unfold dayMicros at h; omega
  have hMinute : clock / 60000000 % 60 < 100 := by omega
  have hSecond : clock / 1000000 % 60 < 100 := by omega
  rw [readClock, clockChars, readField_two _ _ hHour]
  simp only [Option.bind_eq_bind, Option.bind_some, List.head?_cons, decide_true, reduceCtorEq, if_false,
    nextField]
  rw [readField_two _ _ hMinute]
  simp only [Option.bind_some, reduceCtorEq, if_false]
  rw [readField_two _ _ hSecond]
  by_cases hZero : clock % 1000000 = 0
  · simp [hZero, readFraction]
  · simp only [Option.bind_some, if_neg hZero]
    rw [readFraction_pad _ (by omega)]
    rfl

theorem not_startsZone_digit (n : Nat) : startsZone (digit n) = false := by
  have h1 : digit n ≠ '+' := digit_ne n (by decide)
  have h2 : digit n ≠ '-' := digit_ne n (by decide)
  have h3 : digit n ≠ 'Z' := digit_ne n (by decide)
  simp [startsZone, h1, h2, h3]

theorem not_startsZone_pad (width n : Nat) : ∀ c ∈ pad width n, startsZone c = false := by
  induction width generalizing n with
  | zero => intro c hc; cases hc
  | succ width ih =>
    intro c hc
    rcases List.mem_append.mp hc with hc | hc
    · exact ih _ c hc
    · rw [List.mem_singleton.mp hc]
      exact not_startsZone_digit n

theorem not_startsZone_clockChars (clock : Nat) : ∀ c ∈ clockChars clock, (!startsZone c) = true := by
  have hDot : startsZone '.' = false := by decide
  have hColon : startsZone ':' = false := by decide
  intro c hc
  rw [Bool.not_eq_true']
  unfold clockChars at hc
  simp only [List.mem_append, List.mem_cons] at hc
  rcases hc with hc | rfl | hc | rfl | hc | hc
  · exact not_startsZone_pad _ _ c hc
  · exact hColon
  · exact not_startsZone_pad _ _ c hc
  · exact hColon
  · exact not_startsZone_pad _ _ c hc
  · split_ifs at hc
    · cases hc
    · rcases List.mem_cons.mp hc with rfl | hc
      · exact hDot
      · exact not_startsZone_pad _ _ c hc

/-- A time of day in UTC, in whichever text the clock is written. -/
theorem readTime_utc {text : List Char} {clock : Nat} (h : clock < dayMicros)
    (noZone : ∀ c ∈ text, (!startsZone c) = true)
    (reads : readClock text =
      some (clock / 3600000000, clock / 60000000 % 60, clock / 1000000 % 60, clock % 1000000)) :
    readTime (text ++ ['+', '0', '0', ':', '0', '0']) = some (clock, some 0) := by
  have hBounds : clock / 3600000000 < 24 ∧ clock / 60000000 % 60 < 60 ∧ clock / 1000000 % 60 < 60 := by
    unfold dayMicros at h
    omega
  have hZone : readZone ['+', '0', '0', ':', '0', '0'] = some (some 0) := by decide
  have hTake : List.takeWhile (fun c => !startsZone c) ['+', '0', '0', ':', '0', '0'] = [] := by decide
  have hDrop : List.dropWhile (fun c => !startsZone c) ['+', '0', '0', ':', '0', '0'] =
      ['+', '0', '0', ':', '0', '0'] := by decide
  rw [readTime, List.takeWhile_append_of_pos noZone, List.dropWhile_append_of_pos noZone, hTake, hDrop,
    List.append_nil, reads, hZone]
  simp [hBounds, clock_split]

theorem readTime_clockChars (clock : Nat) (h : clock < dayMicros) :
    readTime (clockChars clock ++ ['+', '0', '0', ':', '0', '0']) = some (clock, some 0) :=
  readTime_utc h (not_startsZone_clockChars clock) (readClock_clockChars clock h)

theorem separatorIndex_date (d : Date) (rest : List Char) :
    separatorIndex (d.isoChars ++ rest) = some 10 := by
  have hLen : (d.isoChars ++ rest).length ≠ 7 := by
    simp only [List.length_append, Date.length_isoChars]
    omega
  have hFour : (d.isoChars ++ rest)[4]? = some '-' := rfl
  have hFive : (d.isoChars ++ rest)[5]? = some (digit (d.month / 10)) := rfl
  have hNotW : digit (d.month / 10) ≠ 'W' := digit_ne _ (by decide)
  rw [separatorIndex, if_neg hLen, if_pos hFour, if_neg]
  rw [hFive]
  simpa using hNotW

/-- A date and a time of day after the letter `T`. -/
theorem ParsedDateTime.ofIsoChars_date {d : Date} {text : List Char} {clock : Nat}
    {offset : Option Int} (nonempty : text ≠ []) (reads : readTime text = some (clock, offset)) :
    ofIsoChars (d.isoChars ++ 'T' :: text) = some ⟨d, clock, offset⟩ := by
  have hLen : ¬ (d.isoChars ++ 'T' :: text).length < 7 := by
    simp only [List.length_append, Date.length_isoChars]
    omega
  have hTake : (d.isoChars ++ 'T' :: text).take 10 = d.isoChars := by simp
  have hDrop : (d.isoChars ++ 'T' :: text).drop 11 = text := by simp [List.drop_append]
  rw [ofIsoChars, if_neg hLen, separatorIndex_date]
  simp only [Option.bind_eq_bind, Option.bind_some, hTake, hDrop, Date.ofIsoChars_isoChars,
    if_neg nonempty, reads]

theorem ParsedDateTime.ofIsoChars_isoChars (t : Instant) :
    ofIsoChars t.isoChars = some ⟨t.date, t.clock, some 0⟩ := by
  have hClock : t.clock < dayMicros := Nat.mod_lt _ (by decide)
  exact ofIsoChars_date (by simp) (readTime_clockChars _ hClock)

@[simp] theorem ParsedDateTime.fromisoformat_isoformat (t : Instant) :
    fromisoformat t.isoformat = some ⟨t.date, t.clock, some 0⟩ := by
  rw [fromisoformat, Instant.isoformat, String.toList_ofList, ofIsoChars_isoChars]

theorem Instant.ofMicros_micros (t : Instant) : ofMicros (t.micros : Int) = some t := by
  have hRange : 0 ≤ (t.micros : Int) ∧ (t.micros : Int).toNat < maxDays * dayMicros :=
    ⟨Int.natCast_nonneg _, t.inRange⟩
  rw [ofMicros, dif_pos hRange]
  rfl

theorem Instant.micros_split (t : Instant) : t.date.days * dayMicros + t.clock = t.micros := by
  rw [Instant.date, Date.days_ofDays, Instant.clock, Nat.mul_comm]
  exact Nat.div_add_mod t.micros dayMicros

theorem ParsedDateTime.toInstant_self (t : Instant) :
    toInstant ⟨t.date, t.clock, some 0⟩ = some t := by
  rw [toInstant, Option.bind_some, Instant.micros_split, Int.sub_zero, Instant.ofMicros_micros]

end StockApi.CivilTime

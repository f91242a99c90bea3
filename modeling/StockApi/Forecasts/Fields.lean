import StockApi.Calibration.FittedSet
import StockApi.Library.FloatRounding
import StockApi.Library.Timestamp

/-!
# The fields of the forecast schema

Texts, coverages and datetimes as the schema library checks them. The library itself is a parameter,
with what it promises; floats are taken by their values, and their differences are rounded.
-/

namespace StockApi.Forecasts

open Checked CivilTime
open Adjustment (binary64)
open Calibration (thousandth coverageTolerance)

/-- A finite float, by its value; the two zeros are one. -/
abbrev Double := {q : ℚ // Float64.IsDouble q}

/-- A constraint of a field, or a `ValueError` of a validator. -/
inductive SchemaError where
  | field (name : String)
  | invariant (message : String)
deriving DecidableEq

def IsAscii (s : String) : Prop := ∀ c ∈ s.toList, c.toNat < 128

instance (s : String) : Decidable (IsAscii s) := List.decidableBAll _ s.toList

/-- `str_strip_whitespace`, `str.upper`, `multiple_of=0.001` and `unicodedata.normalize("NFC", ..)`. -/
structure TextRules extends NormalForm where
  strip : String → String
  upper : String → String
  multipleOf : ℚ → Bool
  strip_strip : ∀ s, strip (strip s) = strip s
  strip_trimmed : ∀ s, Text.Trimmed s → strip s = s
  upper_upper : ∀ s, upper (upper s) = upper s
  strip_upper : ∀ s, strip s = s → strip (upper s) = upper s
  multiple : ∀ k : ℕ, 1 ≤ k ∧ k ≤ 999 → multipleOf (thousandth k) = true
  upper_ascii : ∀ s, IsAscii s → upper s = String.ofList (s.toList.map Char.toUpper)
  nfc_ascii : ∀ s, IsAscii s → nfc s = s
  nfc_nonempty : ∀ s, s ≠ "" → nfc s ≠ ""
  strip_nfc : ∀ s, strip s = s → strip (nfc s) = nfc s
  upper_nfc : ∀ s, upper s = s → upper (nfc s) = nfc s

section Fields

variable (rules : TextRules)

/-! ## Texts and datetimes -/

/-- A stripped text whose length is within its bounds. -/
def boundedText (value name : String) (least most : Nat) : Except SchemaError String := do
  let stripped := rules.strip value
  refuseIf (¬ (least ≤ stripped.length ∧ stripped.length ≤ most)) (.field name)
  return stripped

/-- A text within its bounds, as it is returned. -/
def IsBounded (value : String) (least most : Nat) : Prop :=
  rules.strip value = value ∧ least ≤ value.length ∧ value.length ≤ most

/-- An `AwareDatetime`. -/
def aware (value : ParsedDateTime) (name : String) : Except SchemaError Unit :=
  refuseIf (value.offset = none) (.field name)

/-- What aware datetimes are compared by. -/
def micros (value : ParsedDateTime) : Int :=
  ((value.date.days * dayMicros + value.clock : Nat) : Int) - value.offset.getD 0

/-! ## Floats -/

/-- `abs(a - b)`. -/
def gap (a b : ℚ) : ℚ := binary64.round |a - b|

/-- `FLOAT_TOLERANCE`. -/
def floatTolerance : ℚ := binary64.round (1 / 10 ^ 9)

def IsProbability (q : Double) : Prop := 0 ≤ q.1 ∧ q.1 ≤ 1

instance (q : Double) : Decidable (IsProbability q) := inferInstanceAs (Decidable (_ ∧ _))

def IsLevel (q : Double) : Prop := 0 < q.1 ∧ q.1 < 1

instance (q : Double) : Decidable (IsLevel q) := inferInstanceAs (Decidable (_ ∧ _))

/-- `round(value, 3)`. -/
def roundThousandth (q : ℚ) : ℚ := thousandth (Rounding.roundEven (q * 1000))

/-- The bounds of a `Coverage`. -/
def InCoverageRange (q : ℚ) : Prop := thousandth 1 ≤ q ∧ q ≤ thousandth 999

instance (q : ℚ) : Decidable (InCoverageRange q) := inferInstanceAs (Decidable (_ ∧ _))

theorem thousandth_near {k : ℕ} (h : 1 ≤ k ∧ k ≤ 999) :
    |thousandth k - k / 1000| ≤ 1 / 10 ^ 15 := by
  have hHigh : (k : ℚ) ≤ 999 := by exact_mod_cast h.2
  have hLow : (1 : ℚ) ≤ k := by exact_mod_cast h.1
  have hNear : |thousandth k - k / 1000| ≤ (2 : ℚ) ^ ((-1 : ℤ) - (53 - 1)) / 2 := by
    apply binary64.abs_round_sub_le (by decide) (by positivity) _ (by decide)
    norm_num [binary64]
    linarith
  refine hNear.trans ?_
  norm_num

theorem isDouble_thousandth {k : ℕ} (h : 1 ≤ k ∧ k ≤ 999) : Float64.IsDouble (thousandth k) := by
  have hHigh : (k : ℚ) ≤ 999 := by exact_mod_cast h.2
  have hLow : (1 : ℚ) ≤ k := by exact_mod_cast h.1
  have hLeast : (2 : ℚ) ^ (-1022 : ℤ) ≤ 2 ^ (-10 : ℤ) := zpow_le_zpow_right₀ (by norm_num) (by norm_num)
  have hMost : (2 : ℚ) ^ (0 : ℤ) ≤ 2 ^ (1023 : ℤ) := zpow_le_zpow_right₀ (by norm_num) (by norm_num)
  have hTenth : (2 : ℚ) ^ (-10 : ℤ) = 1 / 1024 := by norm_num
  apply Float64.isDouble_round
  · refine hLeast.trans ?_
    rw [hTenth]
    push_cast
    linarith
  · refine lt_of_lt_of_le ?_ hMost
    rw [zpow_zero]
    push_cast
    linarith

theorem roundEven_mul_thousandth {k : ℕ} (h : 1 ≤ k ∧ k ≤ 999) :
    Rounding.roundEven (thousandth k * 1000) = k := by
  obtain ⟨hAbove, hBelow⟩ := abs_le.mp (thousandth_near h)
  apply Rounding.roundEven_eq_of_near
  rw [abs_lt]
  push_cast
  constructor <;> linarith

theorem roundThousandth_thousandth {k : ℕ} (h : 1 ≤ k ∧ k ≤ 999) :
    roundThousandth (thousandth k) = thousandth k := by
  rw [roundThousandth, roundEven_mul_thousandth h]

theorem inCoverageRange_thousandth {k : ℕ} (h : 1 ≤ k ∧ k ≤ 999) :
    InCoverageRange (thousandth k) := by
  obtain ⟨hAbove, hBelow⟩ := abs_le.mp (thousandth_near h)
  have hOne := abs_le.mp (thousandth_near (k := 1) (by decide))
  have hLast := abs_le.mp (thousandth_near (k := 999) (by decide))
  have hCast : thousandth ((1 : ℕ) : ℤ) = thousandth 1 ∧ thousandth ((999 : ℕ) : ℤ) = thousandth 999 :=
    ⟨rfl, rfl⟩
  rw [hCast.1] at hOne
  rw [hCast.2] at hLast
  push_cast at hOne hLast
  constructor
  · rcases h.1.eq_or_lt with rfl | hMore
    · exact le_rfl
    · have hTwo : (2 : ℚ) ≤ k := by exact_mod_cast hMore
      linarith [hOne.2]
  · rcases h.2.eq_or_lt with rfl | hLess
    · exact le_rfl
    · have hBefore : (k : ℚ) ≤ 998 := by exact_mod_cast Nat.le_of_lt_succ hLess
      linarith [hLast.1]

/-- Within the bounds rounding finds a thousandth. -/
theorem exists_roundThousandth {q : ℚ} (h : InCoverageRange q) :
    ∃ k : ℕ, (1 ≤ k ∧ k ≤ 999) ∧ roundThousandth q = thousandth k := by
  have hOne := abs_le.mp (thousandth_near (k := 1) (by decide))
  have hLast := abs_le.mp (thousandth_near (k := 999) (by decide))
  have hCast : thousandth ((1 : ℕ) : ℤ) = thousandth 1 ∧ thousandth ((999 : ℕ) : ℤ) = thousandth 999 :=
    ⟨rfl, rfl⟩
  rw [hCast.1] at hOne
  rw [hCast.2] at hLast
  push_cast at hOne hLast
  have hRound := abs_le.mp (Rounding.abs_roundEven_sub_le (q * 1000))
  have hLow : ((0 : ℤ) : ℚ) < Rounding.roundEven (q * 1000) := by
    push_cast
    linarith [h.1, hOne.1, hRound.1]
  have hHigh : (Rounding.roundEven (q * 1000) : ℚ) < ((1000 : ℤ) : ℚ) := by
    push_cast
    linarith [h.2, hLast.2, hRound.2]
  have hFrom := Int.cast_lt.mp hLow
  have hTo := Int.cast_lt.mp hHigh
  refine ⟨(Rounding.roundEven (q * 1000)).toNat, by omega, ?_⟩
  rw [roundThousandth, Int.toNat_of_nonneg hFrom.le]

theorem isDouble_roundThousandth {q : ℚ} (h : InCoverageRange q) :
    Float64.IsDouble (roundThousandth q) := by
  obtain ⟨k, hRange, hRound⟩ := exists_roundThousandth h
  rw [hRound]
  exact isDouble_thousandth hRange

/-- A `Coverage`. -/
def coverage (value : Double) (name : String) : Except SchemaError Double :=
  if h : InCoverageRange value.1 then do
    refuseIf (rules.multipleOf value.1 = false) (.field name)
    let rounded : Double := ⟨roundThousandth value.1, isDouble_roundThousandth h⟩
    refuseIf (coverageTolerance < gap value.1 rounded.1)
      (.invariant "coverage supports at most three decimal places")
    return rounded
  else .error (.field name)

/-- The coverages that the schema returns. -/
def IsThousandth (q : Double) : Prop := ∃ k : ℕ, (1 ≤ k ∧ k ≤ 999) ∧ q.1 = thousandth k

theorem gap_self (q : ℚ) : gap q q = 0 := by
  simp [gap, Rounding.Format.round, Rounding.roundAt, Rounding.roundEven]

theorem coverageTolerance_nonneg : 0 ≤ coverageTolerance := by
  have hNear : |binary64.round (1 / 10 ^ 12) - 1 / 10 ^ 12| ≤ (2 : ℚ) ^ ((-39 : ℤ) - (53 - 1)) / 2 := by
    apply binary64.abs_round_sub_le (by decide) (by positivity) _ (by decide)
    norm_num [binary64]
  norm_num at hNear
  obtain ⟨hAbove, -⟩ := abs_le.mp hNear
  rw [coverageTolerance]
  norm_num
  linarith

variable {rules}

theorem coverage_of_isThousandth {q : Double} (h : IsThousandth q) (name : String) :
    coverage rules q name = .ok q := by
  obtain ⟨k, hRange, hValue⟩ := h
  have hInside : InCoverageRange q.1 := hValue ▸ inCoverageRange_thousandth hRange
  have hMultiple : ¬ rules.multipleOf q.1 = false := by simp [hValue, rules.multiple k hRange]
  have hSame : roundThousandth q.1 = q.1 := by rw [hValue, roundThousandth_thousandth hRange]
  have hRound : (⟨roundThousandth q.1, isDouble_roundThousandth hInside⟩ : Double) = q :=
    Subtype.ext hSame
  have hClose : ¬ coverageTolerance < gap q.1 (roundThousandth q.1) := by
    rw [hSame, gap_self, not_lt]
    exact coverageTolerance_nonneg
  rw [coverage, dif_pos hInside, refuseIf_of_not hMultiple, ok_bind]
  dsimp only
  rw [refuseIf_of_not hClose, ok_bind, pure_eq_ok, hRound]

theorem isThousandth_of_coverage {q r : Double} {name : String} (h : coverage rules q name = .ok r) :
    IsThousandth r := by
  rw [coverage] at h
  split at h
  · next hInside =>
    rw [refuseIf_bind_eq_ok_iff] at h
    obtain ⟨-, h⟩ := h
    dsimp only at h
    rw [refuseIf_bind_eq_ok_iff, pure_eq_ok] at h
    cases h.2
    exact exists_roundThousandth hInside
  · cases h

theorem boundedText_sound {value name s : String} {least most : Nat}
    (h : boundedText rules value name least most = .ok s) : IsBounded rules s least most := by
  rw [boundedText, refuseIf_bind_eq_ok_iff, not_not, pure_eq_ok] at h
  obtain ⟨hLength, hValue⟩ := h
  cases hValue
  exact ⟨rules.strip_strip value, hLength⟩

theorem boundedText_self {value name : String} {least most : Nat} (h : IsBounded rules value least most) :
    boundedText rules value name least most = .ok value := by
  have hLength : ¬ ¬ (least ≤ value.length ∧ value.length ≤ most) := not_not.mpr h.2
  rw [boundedText, h.1, refuseIf_of_not hLength, ok_bind, pure_eq_ok]

theorem aware_eq_ok_iff {value : ParsedDateTime} {name : String} {r : Unit} :
    aware value name = .ok r ↔ value.offset ≠ none :=
  refuseIf_eq_ok_iff

theorem aware_of {value : ParsedDateTime} {name : String} (h : value.offset ≠ none) :
    aware value name = .ok ⟨⟩ :=
  refuseIf_of_not h

theorem micros_of_toInstant {value : ParsedDateTime} {t : Instant} (h : value.toInstant = some t) :
    micros value = t.micros ∧ value.offset ≠ none := by
  obtain ⟨offset, hOffset, hMicros⟩ := Option.bind_eq_some_iff.mp h
  rw [Instant.ofMicros] at hMicros
  split at hMicros
  · next hRange =>
    cases hMicros
    rw [micros, hOffset, Option.getD_some]
    exact ⟨(Int.toNat_of_nonneg hRange.1).symm, by simp⟩
  · cases hMicros

@[simp] theorem micros_inUtc (t : Instant) : micros t.inUtc = t.micros :=
  (micros_of_toInstant (Instant.toInstant_inUtc t)).1

/-! ## Parts of a model -/

section Parts

variable {α β : Type}

/-- A field that may be left out. -/
def optionally (f : α → Except SchemaError β) : Option α → Except SchemaError (Option β)
  | none => .ok none
  | some a => do
    let b ← f a
    return some b

theorem optionally_eq_ok_iff {f : α → Except SchemaError β} {o : Option α} {r : Option β} :
    optionally f o = .ok r ↔ (o = none ∧ r = none) ∨ ∃ a b, o = some a ∧ r = some b ∧ f a = .ok b := by
  cases o with
  | none => simp [optionally, eq_comm]
  | some a =>
    rw [optionally, bind_eq_ok_iff]
    simp [eq_comm, and_comm]

theorem optionally_self {f : α → Except SchemaError α} {o : Option α} (h : ∀ a ∈ o, f a = .ok a) :
    optionally f o = .ok o := by
  cases o with
  | none => rfl
  | some a => rw [optionally, h a rfl, ok_bind, pure_eq_ok]

theorem optionally_sound {f : α → Except SchemaError β} {P : β → Prop} (sound : ∀ a b, f a = .ok b → P b)
    {o : Option α} {r : Option β} (h : optionally f o = .ok r) : ∀ b ∈ r, P b := by
  rcases optionally_eq_ok_iff.mp h with ⟨-, rfl⟩ | ⟨a, b, -, rfl, hValue⟩
  · simp
  · intro c hMem
    cases hMem
    exact sound a b hValue

theorem mapM_self {f : α → Except SchemaError α} {xs : List α} (h : ∀ x ∈ xs, f x = .ok x) :
    xs.mapM f = .ok xs :=
  mapM_of_forall₂ (List.forall₂_same.mpr h)

theorem mapM_sound {f : α → Except SchemaError β} {P : β → Prop} (sound : ∀ a b, f a = .ok b → P b)
    {xs : List α} {ys : List β} (h : xs.mapM f = .ok ys) : ∀ y ∈ ys, P y := by
  intro y hMem
  obtain ⟨x, -, hValue⟩ := exists_left_of_forall₂ (forall₂_of_mapM h) hMem
  exact sound x y hValue

end Parts

/-! ## Literals -/

/-- The texts of the members of a `Literal`. -/
class Literal (α : Type) where
  text : α → String
  ofText : String → Option α
  ofText_text : ∀ a, ofText (text a) = some a
  ascii : ∀ a, IsAscii (text a)

attribute [simp] Literal.ofText_text

theorem Literal.text_injective {α : Type} [Literal α] : Function.Injective (text (α := α)) := by
  intro a b h
  have hRead := congrArg (ofText (α := α)) h
  rw [ofText_text, ofText_text] at hRead
  exact Option.some.inj hRead

end Fields

end StockApi.Forecasts

import Mathlib.Data.Int.Log
import Mathlib.Data.Rat.Floor
import Mathlib.Tactic.Linarith
import Mathlib.Tactic.FieldSimp

/-!
# Rounding to a number format

Positive rationals rounded to a fixed number of digits, ties to even. A format has a least
exponent: below it fewer digits are kept. Above the least exponent rounding in the format is
rounding to its number of digits.
-/

namespace StockApi.Rounding

/-- The nearest integer, the even one at a tie. -/
def roundEven (q : ℚ) : ℤ :=
  if q - ⌊q⌋ < 1 / 2 then ⌊q⌋
  else if 1 / 2 < q - ⌊q⌋ then ⌊q⌋ + 1
  else ⌊q⌋ + ⌊q⌋ % 2

@[simp] theorem roundEven_intCast (k : ℤ) : roundEven (k : ℚ) = k := by
  simp [roundEven]

theorem floor_le_roundEven (q : ℚ) : ⌊q⌋ ≤ roundEven q := by
  have := Int.emod_nonneg ⌊q⌋ (show (2 : ℤ) ≠ 0 by decide)
  unfold roundEven
  split_ifs <;> omega

theorem abs_roundEven_sub_le (q : ℚ) : |(roundEven q : ℚ) - q| ≤ 1 / 2 := by
  have hFloor := Int.floor_le q
  have hNext := Int.lt_floor_add_one q
  unfold roundEven
  split_ifs with hLow hHigh
  · rw [abs_le]
    constructor <;> linarith
  · push_cast
    rw [abs_le]
    constructor <;> linarith
  · have hTie : q - ⌊q⌋ = 1 / 2 := by linarith
    rcases Int.emod_two_eq_zero_or_one ⌊q⌋ with hEven | hOdd
    · rw [hEven, add_zero, abs_le]
      constructor <;> linarith
    · rw [hOdd]
      push_cast
      rw [abs_le]
      constructor <;> linarith

/-- A number closer than one half to an integer is rounded to it. -/
theorem roundEven_eq_of_near {q : ℚ} {k : ℤ} (h : |q - k| < 1 / 2) : roundEven q = k := by
  have hRound := abs_le.mp (abs_roundEven_sub_le q)
  have hNear := abs_lt.mp h
  have hLow : ((k - 1 : ℤ) : ℚ) < roundEven q := by
    push_cast
    linarith [hRound.1, hNear.1]
  have hHigh : (roundEven q : ℚ) < ((k + 1 : ℤ) : ℚ) := by
    push_cast
    linarith [hRound.2, hNear.2]
  have := Int.cast_lt.mp hLow
  have := Int.cast_lt.mp hHigh
  omega

/-- The multiple of `radix ^ exponent` nearest to a number. -/
def roundAt (radix : ℕ) (exponent : ℤ) (x : ℚ) : ℚ :=
  roundEven (x / (radix : ℚ) ^ exponent) * (radix : ℚ) ^ exponent

/-- Rounding to a number of significant digits. -/
def roundDigits (radix digits : ℕ) (x : ℚ) : ℚ :=
  roundAt radix (Int.log radix x - (digits - 1)) x

/-- A positive floating-point format. -/
structure Format where
  radix : ℕ
  digits : ℕ
  leastExponent : ℤ
  greatestExponent : ℤ

namespace Format

variable (f : Format) {x : ℚ}

/-- The weight of the last digit that is kept. -/
def lastExponent (x : ℚ) : ℤ := max (Int.log f.radix x) f.leastExponent - (f.digits - 1)

/-- The nearest number of the format, before the greatest exponent is checked. -/
def round (x : ℚ) : ℚ := roundAt f.radix (f.lastExponent x) x

/-- A number is too large when its first digit is beyond the greatest exponent. -/
def Overflows (x : ℚ) : Prop := f.greatestExponent < Int.log f.radix x

instance (x : ℚ) : Decidable (f.Overflows x) := inferInstanceAs (Decidable (_ < _))

theorem round_zero : f.round 0 = 0 := by
  simp [round, roundAt, roundEven]

/-- From the least exponent on, the format rounds to its digits. -/
theorem round_eq_roundDigits (h : f.leastExponent ≤ Int.log f.radix x) :
    f.round x = roundDigits f.radix f.digits x := by
  rw [round, lastExponent, max_eq_left h]
  rfl

end Format

theorem roundAt_of_multiple {radix : ℕ} (hRadix : radix ≠ 0) (exponent n : ℤ) :
    roundAt radix exponent (n * (radix : ℚ) ^ exponent) = n * (radix : ℚ) ^ exponent := by
  have hPos : (radix : ℚ) ^ exponent ≠ 0 := zpow_ne_zero _ (Nat.cast_ne_zero.mpr hRadix)
  rw [roundAt, mul_div_cancel_right₀ _ hPos, roundEven_intCast]

theorem abs_roundAt_sub_le {radix : ℕ} (hRadix : radix ≠ 0) (exponent : ℤ) (x : ℚ) :
    |roundAt radix exponent x - x| ≤ (radix : ℚ) ^ exponent / 2 := by
  have hPos : 0 < (radix : ℚ) ^ exponent := zpow_pos (by positivity) _
  have hEq : roundAt radix exponent x - x =
      ((roundEven (x / (radix : ℚ) ^ exponent) : ℚ) - x / (radix : ℚ) ^ exponent) *
        (radix : ℚ) ^ exponent := by
    rw [roundAt, sub_mul, div_mul_cancel₀ _ hPos.ne']
  calc
    |roundAt radix exponent x - x|
        = |(roundEven (x / (radix : ℚ) ^ exponent) : ℚ) - x / (radix : ℚ) ^ exponent| *
            (radix : ℚ) ^ exponent := by rw [hEq, abs_mul, abs_of_pos hPos]
    _ ≤ 1 / 2 * (radix : ℚ) ^ exponent :=
      mul_le_mul_of_nonneg_right (abs_roundEven_sub_le _) hPos.le
    _ = (radix : ℚ) ^ exponent / 2 := by ring

/-- Below a power of the radix a format rounds by at most half its last digit there. -/
theorem Format.abs_round_sub_le (f : Format) (hRadix : 1 < f.radix) {x : ℚ} {e : ℤ} (hPos : 0 < x)
    (hBelow : x < (f.radix : ℚ) ^ (e + 1)) (hLeast : f.leastExponent ≤ e) :
    |f.round x - x| ≤ (f.radix : ℚ) ^ (e - (f.digits - 1)) / 2 := by
  have hLog : Int.log f.radix x < e + 1 := (Int.lt_zpow_iff_log_lt hRadix hPos).mp hBelow
  have hLast : f.lastExponent x ≤ e - (f.digits - 1) := by
    unfold Format.lastExponent
    omega
  refine (abs_roundAt_sub_le (by omega) _ x).trans ?_
  have hOne : (1 : ℚ) ≤ f.radix := by exact_mod_cast hRadix.le
  have := zpow_le_zpow_right₀ hOne hLast
  linarith

theorem log_eq_of_le_lt {radix : ℕ} (hRadix : 1 < radix) {x : ℚ} {e : ℤ} (hPos : 0 < x)
    (hLow : (radix : ℚ) ^ e ≤ x) (hHigh : x < (radix : ℚ) ^ (e + 1)) : Int.log radix x = e := by
  have hLe : e ≤ Int.log radix x := (Int.zpow_le_iff_le_log hRadix hPos).mp hLow
  have hLt : Int.log radix x < e + 1 := (Int.lt_zpow_iff_log_lt hRadix hPos).mp hHigh
  omega

end StockApi.Rounding

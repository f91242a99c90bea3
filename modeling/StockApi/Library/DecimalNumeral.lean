import StockApi.Library.JsonText
import StockApi.Library.Rounding
import Mathlib.Algebra.Order.Field.Power

/-!
# Decimal numerals

A numeral is a sign, a coefficient and an exponent, and many numerals have one value. Without the
zeros at the end of its coefficient a numeral is determined by its value, and its fixed-point text is
read back with the same value.
-/

namespace StockApi.DecimalNumeral

open Digits JsonText

structure Numeral where
  negative : Bool
  coefficient : Nat
  exponent : Int
deriving DecidableEq

namespace Numeral

def value (d : Numeral) : ℚ :=
  (if d.negative then -1 else 1) * (d.coefficient * 10 ^ d.exponent)

def digitCount (d : Numeral) : Nat := (natural d.coefficient).length

/-- The exponent of the first digit. -/
def adjusted (d : Numeral) : Int := d.exponent + d.digitCount - 1

end Numeral

/-- A coefficient and its exponent without the zeros at the end, of which there are no more than the
fuel. -/
def stripZeros : Nat → Nat → Int → Nat × Int
  | 0, c, e => (c, e)
  | fuel + 1, c, e => if c % 10 = 0 then stripZeros fuel (c / 10) (e + 1) else (c, e)

/-- A numeral of no more than `precision` digits, ties to even. -/
def Numeral.rounded (precision : Nat) (d : Numeral) : Numeral :=
  if d.digitCount ≤ precision then d
  else
    let dropped := d.digitCount - precision
    { d with
      coefficient := (Rounding.roundEven (d.coefficient / 10 ^ dropped)).toNat
      exponent := d.exponent + dropped }

/-- `normalize` in a context of that precision. -/
def Numeral.normalize (precision : Nat) (d : Numeral) : Numeral :=
  let r := d.rounded precision
  if r.coefficient = 0 then ⟨r.negative, 0, 0⟩
  else
    let stripped := stripZeros r.digitCount r.coefficient r.exponent
    ⟨r.negative, stripped.1, stripped.2⟩

/-- The digits of a number over a power of ten. -/
def pointed (c places : Nat) : List Char :=
  natural (c / 10 ^ places) ++ '.' :: pad places (c % 10 ^ places)

/-- The format `f` without a precision. -/
def Numeral.fixed (d : Numeral) : List Char :=
  (if d.negative then ['-'] else []) ++
    (if 0 ≤ d.exponent then natural (d.coefficient * 10 ^ d.exponent.toNat)
      else pointed d.coefficient (-d.exponent).toNat)

def readPlaces : List Char → List Char × List Char
  | '.' :: rest => readDigits rest
  | rest => ([], rest)

/-- The exponent at the end of a numeral. -/
def readScale : List Char → Option Int
  | [] => some 0
  | c :: rest =>
    if c = 'e' ∨ c = 'E' then
      (read (readSign rest).2).map fun n => if (readSign rest).1 then -(n : Int) else n
    else none

/-- The numeral that a text spells. -/
def readNumeral (text : List Char) : Option Numeral :=
  let signed := readSign text
  let whole := readDigits signed.2
  let places := readPlaces whole.2
  (readScale places.2).bind fun scale =>
    (read (whole.1 ++ places.1)).map fun c => ⟨signed.1, c, scale - places.1.length⟩

/-! ## Digits -/

theorem natural_bounds (n : Nat) : n < 10 ^ (natural n).length ∧ 0 < (natural n).length ∧
    (0 < n → 10 ^ ((natural n).length - 1) ≤ n) := by
  obtain ⟨width, hPad, hLt, hLeast⟩ := naturalFrom_eq_pad (Nat.lt_succ_self n)
  rw [natural, hPad, length_pad]
  refine ⟨hLt, Nat.succ_pos _, fun hPos => ?_⟩
  rcases hLeast with rfl | hLeast
  · exact hPos
  · exact hLeast

theorem length_natural_le {n m : Nat} (h : n < 10 ^ m) (hm : 0 < m) : (natural n).length ≤ m := by
  rcases Nat.eq_zero_or_pos n with rfl | hPos
  · exact hm
  · obtain ⟨-, -, hLeast⟩ := natural_bounds n
    have := (Nat.pow_lt_pow_iff_right (by decide : 1 < 10)).mp ((hLeast hPos).trans_lt h)
    omega

theorem all_isDigit_natural (n : Nat) : (natural n).all isDigit = true := by
  obtain ⟨width, hPad, -, -⟩ := naturalFrom_eq_pad (Nat.lt_succ_self n)
  rw [natural, hPad]
  exact all_isDigit_pad _ _

theorem natural_ne_nil (n : Nat) : natural n ≠ [] :=
  List.ne_nil_of_length_pos (natural_bounds n).2.1

theorem readFrom_natural (n : Nat) : readFrom 0 (natural n) = some n := by
  obtain ⟨width, hPad, hLt, -⟩ := naturalFrom_eq_pad (Nat.lt_succ_self n)
  rw [natural, hPad, readFrom_pad _ _ _ hLt, Nat.zero_mul, Nat.zero_add]

/-- Only zero is written with a zero in front. -/
theorem natural_of_head {n : Nat} (h : (natural n).head? = some '0') : natural n = ['0'] := by
  obtain ⟨width, hPad, hLt, hLeast⟩ := naturalFrom_eq_pad (Nat.lt_succ_self n)
  rw [natural, hPad] at h ⊢
  rw [head?_pad, Option.some.injEq] at h
  have hQuotient : n / 10 ^ width < 10 := Nat.div_lt_of_lt_mul (by rwa [← pow_succ])
  have hZero : n / 10 ^ width = 0 := by
    have hDigit := digit_eq_zero (h.trans (show '0' = digit 0 from rfl))
    rwa [Nat.mod_eq_of_lt hQuotient] at hDigit
  have hSmall : n < 10 ^ width := (Nat.div_eq_zero_iff_lt (by positivity)).mp hZero
  rcases hLeast with rfl | hLeast
  · have : n = 0 := by simpa using hSmall
    subst this
    rfl
  · omega

theorem getLast?_pad {width : Nat} (h : 0 < width) (n : Nat) :
    (pad width n).getLast? = some (digit n) := by
  obtain ⟨w, rfl⟩ := Nat.exists_eq_succ_of_ne_zero h.ne'
  rw [pad, List.getLast?_append]
  rfl

/-! ## Values -/

section Values

variable {c c' : Nat} {e e' : Int}

/-- A numeral lies between the powers of ten at its first digit. -/
theorem adjusted_bounds {d : Numeral} (hSign : d.negative = false) (hPos : 0 < d.coefficient) :
    10 ^ d.adjusted ≤ d.value ∧ d.value < 10 ^ (d.adjusted + 1) := by
  obtain ⟨hLt, hLength, hLeast⟩ := natural_bounds d.coefficient
  have hTen : (0 : ℚ) < 10 ^ d.exponent := by positivity
  have hFirst : d.adjusted = ((d.digitCount - 1 : Nat) : Int) + d.exponent := by
    have hCount : 0 < d.digitCount := hLength
    rw [Numeral.adjusted]
    omega
  have hLast : d.adjusted + 1 = (d.digitCount : Int) + d.exponent := by
    rw [Numeral.adjusted]
    ring
  rw [hLast, hFirst, Numeral.value, hSign, if_neg Bool.false_ne_true, one_mul,
    zpow_add₀ (by norm_num), zpow_add₀ (by norm_num), zpow_natCast, zpow_natCast]
  constructor
  · exact mul_le_mul_of_nonneg_right (by exact_mod_cast hLeast hPos) hTen.le
  · exact mul_lt_mul_of_pos_right (by exact_mod_cast hLt) hTen

theorem adjusted_lt_iff {d : Numeral} (hSign : d.negative = false) (hPos : 0 < d.coefficient)
    (k : Int) : d.adjusted < k ↔ d.value < 10 ^ k := by
  obtain ⟨hLow, hHigh⟩ := adjusted_bounds hSign hPos
  constructor
  · intro h
    exact hHigh.trans_le (zpow_le_zpow_right₀ (by norm_num) (by omega))
  · intro h
    exact (zpow_lt_zpow_iff_right₀ (by norm_num : (1 : ℚ) < 10)).mp (hLow.trans_lt h)

/-- Stripping moves powers of ten from the coefficient to the exponent. -/
theorem stripZeros_spec {fuel : Nat} (hPos : 0 < c) (h : c < 10 ^ fuel) :
    ∃ j : Nat, c = (stripZeros fuel c e).1 * 10 ^ j ∧ (stripZeros fuel c e).2 = e + j ∧
      (stripZeros fuel c e).1 % 10 ≠ 0 := by
  induction fuel generalizing c e with
  | zero => omega
  | succ fuel ih =>
    rw [stripZeros]
    split
    · next hZero =>
      have hQuotient : 0 < c / 10 ∧ c / 10 < 10 ^ fuel := by
        rw [pow_succ] at h
        omega
      obtain ⟨j, hCoefficient, hExponent, hLast⟩ := @ih (c / 10) (e + 1) hQuotient.1 hQuotient.2
      refine ⟨j + 1, ?_, ?_, hLast⟩
      · rw [pow_succ, ← mul_assoc, ← hCoefficient]
        omega
      · rw [hExponent]
        push_cast
        ring
    · next hLast => exact ⟨0, by simp, by simp, hLast⟩

/-- A coefficient without zeros at its end is determined by the value. -/
theorem stripped_unique (hc : c % 10 ≠ 0) (hc' : c' % 10 ≠ 0)
    (h : (c : ℚ) * 10 ^ e = c' * 10 ^ e') : c = c' ∧ e = e' := by
  have hOrdered : ∀ {a b : Nat} {i k : Int}, a % 10 ≠ 0 → i ≤ k →
      (a : ℚ) * 10 ^ i = b * 10 ^ k → a = b ∧ i = k := by
    intro a b i k hLast hLe hValue
    obtain ⟨m, rfl⟩ := Int.le.dest hLe
    rw [zpow_add₀ (by norm_num), zpow_natCast, mul_comm ((10 : ℚ) ^ i), ← mul_assoc] at hValue
    have hScaled : a = b * 10 ^ m := by
      exact_mod_cast mul_right_cancel₀ (by positivity) hValue
    cases m with
    | zero => exact ⟨by simpa using hScaled, by simp⟩
    | succ m =>
      rw [pow_succ, ← mul_assoc] at hScaled
      omega
  rcases le_total e e' with hLe | hLe
  · exact hOrdered hc hLe h
  · obtain ⟨hCoefficient, hExponent⟩ := hOrdered hc' hLe h.symm
    exact ⟨hCoefficient.symm, hExponent.symm⟩

end Values

/-- What normalizing without rounding returns. -/
theorem normalize_spec {d : Numeral} {precision : Nat} (hDigits : d.digitCount ≤ precision)
    (hPos : 0 < d.coefficient) : ∃ c e, d.normalize precision = ⟨d.negative, c, e⟩ ∧
      c % 10 ≠ 0 ∧ (c : ℚ) * 10 ^ e = d.coefficient * 10 ^ d.exponent := by
  have hRounded : d.rounded precision = d := if_pos hDigits
  obtain ⟨j, hCoefficient, hExponent, hLast⟩ :=
    stripZeros_spec (e := d.exponent) hPos (natural_bounds d.coefficient).1
  refine ⟨_, (stripZeros (natural d.coefficient).length d.coefficient d.exponent).2, ?_, hLast, ?_⟩
  · rw [Numeral.normalize, hRounded, if_neg hPos.ne']
    rfl
  · rw [hExponent, zpow_add₀ (by norm_num), zpow_natCast, mul_comm ((10 : ℚ) ^ d.exponent),
      ← mul_assoc]
    congr 1
    exact_mod_cast hCoefficient.symm

/-! ## Texts -/

/-- Digits with no more than one point, without a sign, an exponent or a needless zero. -/
def Plain (text : List Char) : Prop :=
  ∃ whole places : List Char, whole ≠ [] ∧ whole.all isDigit = true ∧ places.all isDigit = true ∧
    (whole.head? = some '0' → whole = ['0']) ∧ places.getLast? ≠ some '0' ∧
    text = whole ++ if places = [] then [] else '.' :: places

theorem plain_natural (n : Nat) : Plain (natural n) :=
  ⟨natural n, [], natural_ne_nil n, all_isDigit_natural n, rfl, natural_of_head, by simp, by simp⟩

theorem plain_pointed {c places : Nat} (hLast : c % 10 ≠ 0) (hPlaces : 0 < places) :
    Plain (pointed c places) := by
  have hNonempty : pad places (c % 10 ^ places) ≠ [] := by
    apply List.ne_nil_of_length_pos
    rwa [length_pad]
  refine ⟨natural (c / 10 ^ places), pad places (c % 10 ^ places), natural_ne_nil _,
    all_isDigit_natural _, all_isDigit_pad _ _, natural_of_head, ?_, by rw [if_neg hNonempty]; rfl⟩
  rw [getLast?_pad hPlaces, ne_eq, Option.some.injEq]
  intro hZero
  have hDigit := digit_eq_zero (hZero.trans (show '0' = digit 0 from rfl))
  rw [Nat.mod_mod_of_dvd c (dvd_pow_self 10 hPlaces.ne')] at hDigit
  exact hLast hDigit

section Read

theorem readSign_digits {digits : List Char} (h : digits ≠ []) (hAll : digits.all isDigit = true)
    (rest : List Char) (negative : Bool) :
    readSign ((if negative then ['-'] else []) ++ (digits ++ rest)) = (negative, digits ++ rest) := by
  cases negative with
  | true => rfl
  | false =>
    obtain ⟨c, tail, rfl⟩ := List.exists_cons_of_ne_nil h
    have hDigit : isDigit c = true := List.all_eq_true.mp hAll c List.mem_cons_self
    have hMinus : c ≠ '-' := by
      rintro rfl
      exact absurd hDigit (by decide)
    have hPlus : c ≠ '+' := by
      rintro rfl
      exact absurd hDigit (by decide)
    simp [readSign, hMinus, hPlus]

/-- Digits, a point and digits are read as the number over a power of ten. -/
theorem readNumeral_pointed (negative : Bool) (c places : Nat) :
    readNumeral ((if negative then ['-'] else []) ++ pointed c places) =
      some ⟨negative, c, -places⟩ := by
  have hStops : Stops isDigit ('.' :: pad places (c % 10 ^ places)) := by
    rintro _ ⟨⟩
    decide
  have hWhole := readDigits_append (all_isDigit_natural (c / 10 ^ places)) hStops
  have hPlaces : readDigits (pad places (c % 10 ^ places)) = (pad places (c % 10 ^ places), []) := by
    have h : readDigits (pad places (c % 10 ^ places) ++ []) = (pad places (c % 10 ^ places), []) :=
      readDigits_append (all_isDigit_pad places (c % 10 ^ places)) (by rintro _ ⟨⟩)
    rwa [List.append_nil] at h
  have hRead : read (natural (c / 10 ^ places) ++ pad places (c % 10 ^ places)) = some c := by
    rw [Digits.read, if_neg (by simp [natural_ne_nil]), readFrom_append, readFrom_natural,
      Option.bind_some, readFrom_pad _ _ _ (Nat.mod_lt _ (by positivity)), Nat.div_add_mod']
  rw [readNumeral, pointed,
    readSign_digits (natural_ne_nil _) (all_isDigit_natural _)]
  simp only [hWhole, readPlaces, hPlaces, readScale, Option.bind_some, hRead, Option.map_some,
    length_pad, zero_sub]

theorem readNumeral_natural (negative : Bool) (n : Nat) :
    readNumeral ((if negative then ['-'] else []) ++ natural n) = some ⟨negative, n, 0⟩ := by
  have hWhole : readDigits (natural n) = (natural n, []) := by
    have h : readDigits (natural n ++ []) = (natural n, []) :=
      readDigits_append (all_isDigit_natural n) (by rintro _ ⟨⟩)
    rwa [List.append_nil] at h
  have hRead : read (natural n) = some n := by
    rw [Digits.read, if_neg (natural_ne_nil n), readFrom_natural]
  have hSign := readSign_digits (natural_ne_nil n) (all_isDigit_natural n) [] negative
  rw [List.append_nil] at hSign
  rw [readNumeral, hSign]
  simp only [hWhole, readPlaces, readScale, Option.bind_some, List.append_nil, hRead,
    Option.map_some, List.length_nil, Nat.cast_zero, sub_zero]

/-- The fixed-point text is read back with the same value. -/
theorem readNumeral_fixed (d : Numeral) :
    ∃ r, readNumeral d.fixed = some r ∧ r.value = d.value := by
  rcases lt_or_ge d.exponent 0 with hPoint | hWhole
  · refine ⟨⟨d.negative, d.coefficient, -(-d.exponent).toNat⟩, ?_, ?_⟩
    · rw [Numeral.fixed, if_neg (not_le.mpr hPoint)]
      exact readNumeral_pointed _ _ _
    · have hExponent : -((-d.exponent).toNat : Int) = d.exponent := by omega
      rw [hExponent]
  · refine ⟨⟨d.negative, d.coefficient * 10 ^ d.exponent.toNat, 0⟩, ?_, ?_⟩
    · rw [Numeral.fixed, if_pos hWhole]
      exact readNumeral_natural _ _
    · have hExponent : ((10 : ℚ) ^ d.exponent.toNat) = 10 ^ d.exponent := by
        rw [← zpow_natCast, Int.toNat_of_nonneg hWhole]
      simp only [Numeral.value, zpow_zero, mul_one, Nat.cast_mul, Nat.cast_pow, Nat.cast_ofNat,
        hExponent]

end Read

theorem fixed_pointed {c : Nat} {e : Int} (h : e < 0) :
    Numeral.fixed ⟨false, c, e⟩ = pointed c (-e).toNat :=
  if_neg (show ¬ 0 ≤ e from not_le.mpr h)

theorem fixed_natural {c : Nat} {e : Int} (h : 0 ≤ e) :
    Numeral.fixed ⟨false, c, e⟩ = natural (c * 10 ^ e.toNat) :=
  if_pos (show 0 ≤ e from h)

theorem plain_fixed {d : Numeral} (hSign : d.negative = false) (hLast : d.coefficient % 10 ≠ 0) :
    Plain d.fixed := by
  rw [Numeral.fixed, hSign, if_neg Bool.false_ne_true, List.nil_append]
  split
  · exact plain_natural _
  · exact plain_pointed hLast (by omega)

end StockApi.DecimalNumeral

import StockApi.Library.Documents
import StockApi.Library.FloatValue
import Mathlib.Data.Nat.Prime.Basic

/-!
# The exact decimals of floats

A float is an integer over a power of two, so finitely many digits after the point write it exactly. The
text with all its digits is read back as the float.
-/

namespace StockApi.ExactDecimal

open Documents JsonText

/-- The digits after the point that an integer over a power of two takes. -/
def places (q : ℚ) : Nat := max 1 q.den.log2

/-- The absolute value in units of the last place. -/
def units (q : ℚ) : Nat := q.num.natAbs * 10 ^ places q / q.den

theorem places_pos (q : ℚ) : 0 < places q := le_max_left 1 q.den.log2

theorem digits_lt (q : ℚ) : units q % 10 ^ places q < 10 ^ places q := Nat.mod_lt _ (by positivity)

def fractionOf (q : ℚ) : Fraction := ⟨places q, units q % 10 ^ places q, places_pos q, digits_lt q⟩

def reprOf (q : ℚ) : NumberText := ⟨q.num < 0, units q / 10 ^ places q, some (fractionOf q), none⟩

/-- The value of a number's text. -/
def valueOf (n : NumberText) : ℚ :=
  let fraction := n.fraction.elim 0 fun f => (f.digits : ℚ) / 10 ^ f.width
  (if n.negative then -1 else 1) * (n.whole + fraction) * 10 ^ n.exponent.getD 0

def floats : FloatText := ⟨valueOf, reprOf⟩

theorem int?_reprOf (q : ℚ) : (reprOf q).int? = none := by
  simp [reprOf, NumberText.int?]

theorem magnitude_eq (x : Float64) : ∃ m : ℕ, x.magnitude = m / ((2 ^ 1074 : ℕ) : ℚ) := by
  refine ⟨x.significand * 2 ^ (max x.exponentBits 1 - 1), ?_⟩
  have hExponent : ((max x.exponentBits 1 : Int) - 1075) =
      ((max x.exponentBits 1 - 1 : Nat) : Int) - ((1074 : Nat) : Int) := by
    omega
  rw [Float64.magnitude, hExponent, zpow_sub₀ two_ne_zero, zpow_natCast, zpow_natCast, Nat.cast_mul, Nat.cast_pow,
    Nat.cast_pow, Nat.cast_ofNat, mul_div_assoc]

/-- A float is an integer over a power of two. -/
theorem den_dvd {q : ℚ} (h : Float64.IsDouble q) : q.den ∣ 2 ^ 1074 := by
  obtain ⟨x, -, rfl⟩ := h
  obtain ⟨m, hMagnitude⟩ := magnitude_eq x
  generalize 2 ^ 1074 = scale at hMagnitude ⊢
  obtain ⟨n, hValue⟩ : ∃ n : ℤ, x.value = Rat.divInt n scale := by
    rw [Float64.value, hMagnitude]
    split
    · exact ⟨-m, by rw [Rat.divInt_eq_div, Int.cast_neg, neg_div, Int.cast_natCast, Int.cast_natCast]⟩
    · exact ⟨m, by rw [Rat.divInt_eq_div, Int.cast_natCast, Int.cast_natCast]⟩
  have hDvd := Rat.den_dvd n scale
  rw [← hValue] at hDvd
  exact Int.natCast_dvd_natCast.mp hDvd

theorem units_mul_den {q : ℚ} (h : Float64.IsDouble q) : units q * q.den = q.num.natAbs * 10 ^ places q := by
  obtain ⟨k, -, hDen⟩ := (Nat.dvd_prime_pow Nat.prime_two).mp (den_dvd h)
  have hPlaces : k ≤ places q := by
    rw [places, hDen, Nat.log2_two_pow]
    exact le_max_right 1 k
  have hTen : q.den ∣ 10 ^ places q := by
    rw [hDen]
    exact (pow_dvd_pow 2 hPlaces).trans (pow_dvd_pow_of_dvd (by decide) _)
  exact Nat.div_mul_cancel (hTen.mul_left _)

/-- The text of a float is read back. -/
theorem valueOf_reprOf {q : ℚ} (h : Float64.IsDouble q) : valueOf (reprOf q) = q := by
  have hTen : ((10 : ℚ) ^ places q) ≠ 0 := by positivity
  have hDen : (q.den : ℚ) ≠ 0 := by exact_mod_cast q.den_nz
  have hUnits : (units q : ℚ) * q.den = q.num.natAbs * 10 ^ places q := by exact_mod_cast units_mul_den h
  have hSplit : ((units q / 10 ^ places q : Nat) : ℚ) * 10 ^ places q + ((units q % 10 ^ places q : Nat) : ℚ) =
      units q := by
    have hNat := Nat.div_add_mod' (units q) (10 ^ places q)
    exact_mod_cast hNat
  have hValue : valueOf (reprOf q) = (if q.num < 0 then -1 else 1) * (units q / 10 ^ places q) := by
    simp only [valueOf, reprOf, fractionOf, Option.elim_some, Option.getD_none, zpow_zero, mul_one,
      decide_eq_true_eq]
    rw [← hSplit, add_div, mul_div_cancel_right₀ _ hTen]
  have hSign : (if q.num < 0 then -1 else 1) * (q.num.natAbs : ℚ) = q.num := by
    split
    · next hNegative =>
      have hAbs : (q.num.natAbs : ℤ) = -q.num := Int.ofNat_natAbs_of_nonpos hNegative.le
      rw [← Int.cast_natCast, hAbs]
      push_cast
      ring
    · next hPositive =>
      have hAbs : (q.num.natAbs : ℤ) = q.num := Int.natAbs_of_nonneg (not_lt.mp hPositive)
      rw [one_mul, ← Int.cast_natCast, hAbs]
  calc valueOf (reprOf q) = (if q.num < 0 then -1 else 1) * (units q * q.den / (10 ^ places q * q.den)) := by
        rw [hValue, mul_div_mul_right _ _ hDen]
    _ = (if q.num < 0 then -1 else 1) * q.num.natAbs / q.den := by
        rw [hUnits, mul_comm (10 ^ places q : ℚ), mul_div_mul_right _ _ hTen, mul_div_assoc]
    _ = q := by rw [hSign, Rat.num_div_den]

end StockApi.ExactDecimal

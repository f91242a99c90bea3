import StockApi.Library.Float64
import Mathlib.Data.Int.Log
import Mathlib.Data.Rat.Floor
import Mathlib.Algebra.Order.Field.Power
import Mathlib.Tactic.Linarith

/-!
# The values of floating-point words

A finite word is a sign, a significand and a power of two. The word of a value is found from the
logarithm of its magnitude; it is the word the value came from, but for the sign of a zero.
-/

namespace StockApi.Float64

def significand (x : Float64) : Nat :=
  if x.exponentBits = 0 then x.fractionBits else 2 ^ 52 + x.fractionBits

def magnitude (x : Float64) : ℚ := x.significand * 2 ^ ((max x.exponentBits 1 : Int) - 1075)

/-- The value of a finite word. -/
def value (x : Float64) : ℚ := if x.signBit then -x.magnitude else x.magnitude

/-- The exponent and fraction bits of a positive value. -/
def magnitudeBits (a : ℚ) : Nat :=
  let e := max (Int.log 2 a) (-1022)
  ((e + 1022) * 2 ^ 52 + ⌊a * 2 ^ (52 - e)⌋).toNat

/-- The word of a value. -/
def ofValue (q : ℚ) : Float64 :=
  if q = 0 then zero else ⟨BitVec.ofNat 64 ((if q < 0 then 2 ^ 63 else 0) + magnitudeBits |q|)⟩

/-- The values that finite words have. -/
def IsDouble (q : ℚ) : Prop := ∃ x : Float64, x.isFinite = true ∧ x.value = q

section Fields

variable (x : Float64)

theorem word_eq : x.word.toNat =
    (if x.signBit then 2 ^ 63 else 0) + (x.exponentBits * 2 ^ 52 + x.fractionBits) := by
  have hWord := x.word.isLt
  simp only [signBit, exponentBits, fractionBits, decide_eq_true_eq]
  split <;> omega

theorem exponentBits_lt : x.exponentBits < 2 ^ 11 := Nat.mod_lt _ (by decide)

theorem fractionBits_lt : x.fractionBits < 2 ^ 52 := Nat.mod_lt _ (by decide)

theorem significand_eq_zero_iff : x.significand = 0 ↔ x.isZero = true := by
  simp only [significand, isZero, Bool.and_eq_true, decide_eq_true_eq]
  split <;> omega

theorem magnitude_nonneg : 0 ≤ x.magnitude := by
  rw [magnitude]
  positivity

theorem magnitude_pos (h : x.isZero = false) : 0 < x.magnitude := by
  have hSignificand : 0 < x.significand := by
    rw [Nat.pos_iff_ne_zero, ne_eq, significand_eq_zero_iff, h]
    exact Bool.false_ne_true
  rw [magnitude]
  positivity

end Fields

/-- The exponent of a word is found from its magnitude. -/
theorem log_magnitude {x : Float64} (h : x.isZero = false) :
    max (Int.log 2 x.magnitude) (-1022) = (max x.exponentBits 1 : Int) - 1023 := by
  have hPos := x.magnitude_pos h
  have hFraction := x.fractionBits_lt
  have hScale : (0 : ℚ) < 2 ^ ((max x.exponentBits 1 : Int) - 1075) := by positivity
  have hUpper : x.magnitude < 2 ^ ((max x.exponentBits 1 : Int) - 1022) := by
    have hSignificand : x.significand < 2 ^ 53 := by
      rw [significand]
      split <;> omega
    calc
      x.magnitude < 2 ^ (53 : ℕ) * 2 ^ ((max x.exponentBits 1 : Int) - 1075) :=
        mul_lt_mul_of_pos_right (by exact_mod_cast hSignificand) hScale
      _ = 2 ^ ((max x.exponentBits 1 : Int) - 1022) := by
        rw [← zpow_natCast, ← zpow_add₀ (by norm_num)]
        congr 1
        push_cast
        ring
  have hLog : Int.log 2 x.magnitude < (max x.exponentBits 1 : Int) - 1022 :=
    (Int.lt_zpow_iff_log_lt (by decide) hPos).mp (by exact_mod_cast hUpper)
  rcases Nat.eq_zero_or_pos x.exponentBits with hSubnormal | hNormal
  · rw [hSubnormal] at hLog ⊢
    push_cast at hLog ⊢
    omega
  · have hLower : (2 : ℚ) ^ ((max x.exponentBits 1 : Int) - 1023) ≤ x.magnitude := by
      have hSignificand : 2 ^ 52 ≤ x.significand := by
        rw [significand, if_neg hNormal.ne']
        omega
      calc
        (2 : ℚ) ^ ((max x.exponentBits 1 : Int) - 1023)
            = 2 ^ (52 : ℕ) * 2 ^ ((max x.exponentBits 1 : Int) - 1075) := by
          rw [← zpow_natCast, ← zpow_add₀ (by norm_num)]
          congr 1
          push_cast
          ring
        _ ≤ x.magnitude := mul_le_mul_of_nonneg_right (by exact_mod_cast hSignificand) hScale.le
    have hLeast : (max x.exponentBits 1 : Int) - 1023 ≤ Int.log 2 x.magnitude :=
      (Int.zpow_le_iff_le_log (by decide) hPos).mp (by exact_mod_cast hLower)
    omega

theorem magnitudeBits_magnitude {x : Float64} (h : x.isZero = false) :
    magnitudeBits x.magnitude = x.exponentBits * 2 ^ 52 + x.fractionBits := by
  have hScaled : x.magnitude * 2 ^ (52 - ((max x.exponentBits 1 : Int) - 1023)) =
      (x.significand : ℤ) := by
    rw [magnitude, mul_assoc, ← zpow_add₀ (by norm_num)]
    have hZero : (max x.exponentBits 1 : Int) - 1075 + (52 - ((max x.exponentBits 1 : Int) - 1023)) =
        0 := by ring
    rw [hZero, zpow_zero, mul_one, Int.cast_natCast]
  rw [magnitudeBits, log_magnitude h, hScaled, Int.floor_intCast, significand]
  split <;> omega

theorem value_eq_zero_iff (x : Float64) : x.value = 0 ↔ x.isZero = true := by
  constructor
  · intro h
    by_contra hZero
    have hPos := x.magnitude_pos (Bool.eq_false_iff.mpr hZero)
    rw [value] at h
    split at h <;> linarith
  · intro h
    rw [value, magnitude, x.significand_eq_zero_iff.mpr h]
    simp

/-- The word of its own value. -/
theorem ofValue_value (x : Float64) : ofValue x.value = x.canonicalZero := by
  rw [ofValue, canonicalZero]
  by_cases hZero : x.isZero = true
  · rw [if_pos (x.value_eq_zero_iff.mpr hZero), if_pos hZero]
  · have hNonzero := Bool.eq_false_iff.mpr hZero
    have hPos := x.magnitude_pos hNonzero
    have hMagnitude : |x.value| = x.magnitude := by
      rw [value]
      split
      · rw [abs_neg, abs_of_pos hPos]
      · exact abs_of_pos hPos
    have hSign : (if x.value < 0 then 2 ^ 63 else 0) = if x.signBit then 2 ^ 63 else 0 := by
      cases hBit : x.signBit with
      | true =>
        have hNeg : x.value < 0 := by
          rw [value, hBit, if_pos rfl]
          linarith
        rw [if_pos hNeg, if_pos rfl]
      | false =>
        have hNot : ¬ x.value < 0 := by
          rw [value, hBit, if_neg Bool.false_ne_true]
          linarith
        rw [if_neg hNot, if_neg Bool.false_ne_true]
    rw [if_neg (fun h => hZero (x.value_eq_zero_iff.mp h)), if_neg hZero, hMagnitude,
      magnitudeBits_magnitude hNonzero, hSign, ← x.word_eq, BitVec.ofNat_toNat, BitVec.setWidth_eq]

theorem value_canonicalZero (x : Float64) : x.canonicalZero.value = x.value := by
  rw [canonicalZero]
  split
  · next h => rw [x.value_eq_zero_iff.mpr h, value_eq_zero_iff]; decide
  · rfl

/-- A value of a finite word is the value of its own word, which is finite. -/
theorem IsDouble.ofValue {q : ℚ} (h : IsDouble q) :
    (Float64.ofValue q).value = q ∧ (Float64.ofValue q).isFinite = true := by
  obtain ⟨x, hFinite, rfl⟩ := h
  rw [ofValue_value, value_canonicalZero]
  exact ⟨rfl, isFinite_canonicalZero hFinite⟩

instance (q : ℚ) : Decidable (IsDouble q) :=
  decidable_of_iff ((Float64.ofValue q).isFinite = true ∧ (Float64.ofValue q).value = q)
    ⟨fun h => ⟨_, h⟩, fun h => ⟨h.ofValue.2, h.ofValue.1⟩⟩

theorem isDouble_zero : IsDouble 0 := ⟨zero, by decide, (value_eq_zero_iff zero).mpr (by decide)⟩

end StockApi.Float64

import StockApi.Library.FloatValue
import StockApi.Library.Rounding
import Mathlib.Tactic.Positivity

/-!
# Rounded numbers are floats

A significand of fifty-three bits and an exponent within range make the value of a word; so does the
rounding of a number from the range of the normal words.
-/

namespace StockApi.Float64

open Rounding

/-- The word of a significand and an exponent. -/
def ofSignificand (m : Nat) (e : Int) : Float64 :=
  ⟨BitVec.ofNat 64 ((e + 1022).toNat * 2 ^ 52 + m)⟩

theorem value_ofSignificand {m : Nat} {e : Int} (hm : 2 ^ 52 ≤ m ∧ m < 2 ^ 53)
    (he : -1022 ≤ e ∧ e ≤ 1023) : (ofSignificand m e).isFinite = true ∧
      (ofSignificand m e).value = m * 2 ^ (e - 52) := by
  have hWord : (ofSignificand m e).word.toNat = (e + 1022).toNat * 2 ^ 52 + m := by
    rw [ofSignificand, BitVec.toNat_ofNat]
    apply Nat.mod_eq_of_lt
    omega
  have hExponent : (ofSignificand m e).exponentBits = (e + 1023).toNat := by
    rw [exponentBits, hWord]
    omega
  have hFraction : (ofSignificand m e).fractionBits = m - 2 ^ 52 := by
    rw [fractionBits, hWord]
    omega
  have hSign : (ofSignificand m e).signBit = false := by
    rw [signBit, hWord, decide_eq_false_iff_not]
    omega
  have hSignificand : (ofSignificand m e).significand = m := by
    rw [significand, hExponent, hFraction, if_neg (by omega)]
    omega
  have hScale : ((max (e + 1023).toNat 1 : ℕ) : ℤ) - 1075 = e - 52 := by omega
  refine ⟨?_, ?_⟩
  · rw [isFinite, hExponent, decide_eq_true_eq]
    omega
  · rw [value, hSign, if_neg Bool.false_ne_true, magnitude, hSignificand, hExponent]
    rw [Nat.cast_max, Nat.cast_one] at hScale
    rw [hScale]

theorem isDouble_of_significand {m : Nat} {e : Int} (hm : 2 ^ 52 ≤ m ∧ m < 2 ^ 53)
    (he : -1022 ≤ e ∧ e ≤ 1023) : IsDouble (m * 2 ^ (e - 52)) :=
  ⟨ofSignificand m e, value_ofSignificand hm he⟩

/-- Rounding a number from the range of the normal words. -/
theorem isDouble_round {x : ℚ} (hLow : (2 : ℚ) ^ (-1022 : ℤ) ≤ x) (hHigh : x < (2 : ℚ) ^ (1023 : ℤ)) :
    IsDouble ((⟨2, 53, -1022, 1023⟩ : Format).round x) := by
  have hPos : 0 < x := lt_of_lt_of_le (by positivity) hLow
  have hLeast : -1022 ≤ Int.log 2 x :=
    (Int.zpow_le_iff_le_log (by decide) hPos).mp (by exact_mod_cast hLow)
  have hGreatest : Int.log 2 x < 1023 :=
    (Int.lt_zpow_iff_log_lt (by decide) hPos).mp (by exact_mod_cast hHigh)
  generalize hLog : Int.log 2 x = e at hLeast hGreatest
  have hFrom : (2 : ℚ) ^ e ≤ x := by
    rw [← hLog]
    exact_mod_cast Int.zpow_log_le_self (b := 2) (by decide) hPos
  have hTo : x < (2 : ℚ) ^ (e + 1) := by
    rw [← hLog]
    exact_mod_cast Int.lt_zpow_succ_log_self (b := 2) (by decide) x
  have hScale : (0 : ℚ) < 2 ^ (e - 52) := by positivity
  have hLower : (2 : ℚ) ^ (52 : ℕ) ≤ x / 2 ^ (e - 52) := by
    rw [le_div_iff₀ hScale, ← zpow_natCast, ← zpow_add₀ (by norm_num)]
    have hSum : ((52 : ℕ) : ℤ) + (e - 52) = e := by push_cast; ring
    rwa [hSum]
  have hUpper : x / 2 ^ (e - 52) < (2 : ℚ) ^ (53 : ℕ) := by
    rw [div_lt_iff₀ hScale, ← zpow_natCast, ← zpow_add₀ (by norm_num)]
    have hSum : ((53 : ℕ) : ℤ) + (e - 52) = e + 1 := by push_cast; ring
    rwa [hSum]
  have hRounded : (⟨2, 53, -1022, 1023⟩ : Format).round x =
      roundEven (x / 2 ^ (e - 52)) * 2 ^ (e - 52) := by
    have hLast : (⟨2, 53, -1022, 1023⟩ : Format).lastExponent x = e - 52 := by
      rw [Format.lastExponent]
      dsimp only
      rw [hLog, max_eq_left hLeast]
      norm_num
    rw [Format.round, hLast, roundAt]
    push_cast
    rfl
  have hNear := abs_le.mp (abs_roundEven_sub_le (x / 2 ^ (e - 52)))
  have hFirst : (2 : ℤ) ^ 52 ≤ roundEven (x / 2 ^ (e - 52)) := by
    refine le_trans ?_ (floor_le_roundEven _)
    rw [Int.le_floor]
    exact_mod_cast hLower
  have hSecond : roundEven (x / 2 ^ (e - 52)) ≤ 2 ^ 53 := by
    have hLess : (roundEven (x / 2 ^ (e - 52)) : ℚ) < ((2 ^ 53 + 1 : ℤ) : ℚ) := by
      push_cast
      linarith [hNear.2]
    have := Int.cast_lt.mp hLess
    omega
  rw [hRounded]
  generalize roundEven (x / 2 ^ (e - 52)) = n at hFirst hSecond
  lift n to ℕ using by omega
  rcases hSecond.lt_or_eq with hLess | hFull
  · rw [Int.cast_natCast]
    exact isDouble_of_significand (by omega) (by omega)
  · have hCarry : ((n : ℤ) : ℚ) * 2 ^ (e - 52) = ((2 ^ 52 : ℕ) : ℚ) * 2 ^ (e + 1 - 52) := by
      have hNext : e + 1 - 52 = 1 + (e - 52) := by ring
      rw [hFull, hNext, zpow_add₀ (by norm_num)]
      push_cast
      ring
    rw [hCarry]
    exact isDouble_of_significand (by norm_num) (by omega)

end StockApi.Float64

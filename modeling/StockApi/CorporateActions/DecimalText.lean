import StockApi.Library.DecimalNumeral
import StockApi.Library.Checked
import Mathlib.Data.List.DropRight

/-!
# The decimals of corporate actions

`_decimal` writes a positive decimal as the plain text of its value. It accepts the values of
`NUMERIC(38,18)` and no others, and equal values have one text.
-/

namespace StockApi.CorporateActions

open Checked DecimalNumeral Digits JsonText

structure CorporateActionValidationError where
  message : String
deriving DecidableEq

/-- A `Decimal`: an infinity and a NaN are no numerals. -/
inductive Decimal where
  | finite (numeral : Numeral)
  | special

/-- `text.partition(".")`, without the point. -/
def partitionPoint (text : List Char) : List Char × List Char :=
  (text.takeWhile (· ≠ '.'), (text.dropWhile (· ≠ '.')).drop 1)

def notRepresentable : CorporateActionValidationError :=
  ⟨"corporate-action decimal is not exactly representable as NUMERIC(38,18)"⟩

/-- `_decimal`. -/
def decimal : Decimal → Except CorporateActionValidationError (List Char)
  | .special => .error ⟨"corporate-action decimal is invalid"⟩
  | .finite value => do
    refuseIf (value.value ≤ 0)
      (CorporateActionValidationError.mk "corporate-action decimal is invalid")
    let digits := value.digitCount
    refuseIf (256 < digits ∨ ¬ (-18 ≤ value.adjusted ∧ value.adjusted < 20)) notRepresentable
    let precision := max 38 digits
    let formatted := (value.normalize precision).fixed
    let normalized := if '.' ∈ formatted then
        (formatted.rdropWhile (· = '0')).rdropWhile (· = '.')
      else formatted
    let (integer, fraction) := partitionPoint normalized
    refuseIf (normalized.head? = some '-' ∨ 20 < integer.length ∨ 18 < fraction.length ∨
      38 < (integer.dropWhile (· = '0')).length + fraction.length ∨
      (readNumeral normalized).map Numeral.value ≠ some value.value) notRepresentable
    return normalized

/-! ## The formatted text -/

theorem point_notMem {digits : List Char} (h : digits.all isDigit = true) : '.' ∉ digits := by
  intro hPoint
  exact absurd (List.all_eq_true.mp h _ hPoint) (by decide)

theorem partitionPoint_digits {whole : List Char} (h : whole.all isDigit = true) :
    partitionPoint whole = (whole, []) := by
  have hNot : ∀ c ∈ whole, (c ≠ '.' : Bool) = true := by
    intro c hc
    rw [decide_eq_true_eq]
    rintro rfl
    exact point_notMem h hc
  rw [partitionPoint, List.takeWhile_eq_self_iff.mpr hNot, List.dropWhile_eq_nil_iff.mpr hNot]
  rfl

theorem partitionPoint_pointed {whole : List Char} (h : whole.all isDigit = true)
    (places : List Char) : partitionPoint (whole ++ '.' :: places) = (whole, places) := by
  have hNot : ∀ c ∈ whole, (c ≠ '.' : Bool) = true := by
    intro c hc
    rw [decide_eq_true_eq]
    rintro rfl
    exact point_notMem h hc
  rw [partitionPoint, List.takeWhile_append_of_pos hNot, List.dropWhile_append_of_pos hNot]
  simp

/-- Nothing is stripped from a plain text. -/
theorem stripped_plain {text : List Char} (h : Plain text) :
    (if '.' ∈ text then (text.rdropWhile (· = '0')).rdropWhile (· = '.') else text) = text := by
  obtain ⟨whole, places, -, hWhole, hPlaces, -, hLast, rfl⟩ := h
  rcases eq_or_ne places [] with rfl | hNonempty
  · rw [if_pos rfl, List.append_nil, if_neg (point_notMem hWhole)]
  · have hEnd : ∀ hl, (whole ++ '.' :: places).getLast hl = places.getLast hNonempty := by
      intro hl
      rw [List.getLast_append_of_ne_nil _ (by simp), List.getLast_cons hNonempty]
    have hZero : (whole ++ '.' :: places).rdropWhile (· = '0') = whole ++ '.' :: places := by
      rw [List.rdropWhile_eq_self_iff]
      intro hl
      rw [hEnd hl, decide_eq_true_eq]
      intro hEq
      exact hLast (by rw [List.getLast?_eq_some_getLast hNonempty, hEq])
    rw [if_neg hNonempty, if_pos (by simp), hZero, List.rdropWhile_eq_self_iff]
    intro hl
    rw [hEnd hl, decide_eq_true_eq]
    intro hEq
    exact point_notMem hPlaces (hEq ▸ List.getLast_mem hNonempty)

theorem plain_head {text : List Char} (h : Plain text) : text.head? ≠ some '-' := by
  obtain ⟨whole, places, hNonempty, hWhole, -, -, -, rfl⟩ := h
  obtain ⟨c, tail, rfl⟩ := List.exists_cons_of_ne_nil hNonempty
  intro hMinus
  obtain rfl : c = '-' := by simpa using hMinus
  exact absurd (List.all_eq_true.mp hWhole _ List.mem_cons_self) (by decide)

/-! ## Acceptance -/

theorem positive_iff {d : Numeral} : 0 < d.value ↔ d.negative = false ∧ 0 < d.coefficient := by
  have hTen : (0 : ℚ) < 10 ^ d.exponent := by positivity
  have hMagnitude : (0 : ℚ) ≤ d.coefficient * 10 ^ d.exponent := by positivity
  constructor
  · intro h
    cases hSign : d.negative with
    | true =>
      rw [Numeral.value, hSign, if_pos rfl] at h
      linarith
    | false =>
      rw [Numeral.value, hSign, if_neg Bool.false_ne_true, one_mul] at h
      exact ⟨rfl, by exact_mod_cast pos_of_mul_pos_left h hTen.le⟩
  · rintro ⟨hSign, hPos⟩
    have hCoefficient : (0 : ℚ) < d.coefficient := by exact_mod_cast hPos
    rw [Numeral.value, hSign, if_neg Bool.false_ne_true, one_mul]
    positivity

/-- The lengths of the two parts of a text below `10 ^ 20` with few enough places. -/
theorem parts_fit {c : Nat} {e : Int} (hSmall : (c : ℚ) * 10 ^ e < 10 ^ 20) (hPlaces : -18 ≤ e) :
    (partitionPoint (Numeral.fixed ⟨false, c, e⟩)).1.length ≤ 20 ∧
      (partitionPoint (Numeral.fixed ⟨false, c, e⟩)).2.length ≤ 18 := by
  rcases lt_or_ge e 0 with hPoint | hWhole
  · have hQuotient : c / 10 ^ (-e).toNat < 10 ^ 20 := by
      apply Nat.div_lt_of_lt_mul
      have hExponent : (10 : ℚ) ^ e * 10 ^ (-e).toNat = 1 := by
        rw [← zpow_natCast, ← zpow_add₀ (by norm_num), Int.toNat_of_nonneg (by omega),
          add_neg_cancel, zpow_zero]
      have hScaled : (c : ℚ) < 10 ^ (-e).toNat * 10 ^ 20 := by
        calc
          (c : ℚ) = c * 10 ^ e * 10 ^ (-e).toNat := by rw [mul_assoc, hExponent, mul_one]
          _ < 10 ^ 20 * 10 ^ (-e).toNat := mul_lt_mul_of_pos_right hSmall (by positivity)
          _ = 10 ^ (-e).toNat * 10 ^ 20 := mul_comm _ _
      exact_mod_cast hScaled
    rw [fixed_pointed hPoint, pointed, partitionPoint_pointed (all_isDigit_natural _)]
    exact ⟨length_natural_le hQuotient (by decide), by rw [length_pad]; omega⟩
  · have hNumber : c * 10 ^ e.toNat < 10 ^ 20 := by
      rw [← Int.toNat_of_nonneg hWhole, zpow_natCast] at hSmall
      exact_mod_cast hSmall
    rw [fixed_natural hWhole, partitionPoint_digits (all_isDigit_natural _)]
    exact ⟨length_natural_le hNumber (by decide), Nat.zero_le _⟩

theorem places_of_partition {c : Nat} {e : Int}
    (h : (partitionPoint (Numeral.fixed ⟨false, c, e⟩)).2.length ≤ 18) : -18 ≤ e := by
  by_contra hLow
  have hPoint : e < 0 := by omega
  rw [fixed_pointed hPoint, pointed, partitionPoint_pointed (all_isDigit_natural _), length_pad] at h
  omega

/-- A positive decimal with its zeros stripped to `c` and `e` is written when its first and its last
digit have a place in the column. -/
theorem decimal_eq {d : Numeral} {c : Nat} {e : Int} (hPos : 0 < d.value) (hDigits : d.digitCount ≤ 256)
    (hNormal : d.normalize (max 38 d.digitCount) = ⟨false, c, e⟩) (hLast : c % 10 ≠ 0)
    (hValue : (c : ℚ) * 10 ^ e = d.value) :
    decimal (.finite d) =
      if (-18 ≤ d.adjusted ∧ d.adjusted < 20) ∧ -18 ≤ e then .ok (Numeral.fixed ⟨false, c, e⟩)
      else .error notRepresentable := by
  have hPlain : Plain (Numeral.fixed ⟨false, c, e⟩) := plain_fixed rfl hLast
  obtain ⟨hSign, hCoefficient⟩ := positive_iff.mp hPos
  rw [decimal, refuseIf_of_not (not_le.mpr hPos), ok_bind]
  by_cases hRange : -18 ≤ d.adjusted ∧ d.adjusted < 20
  · have hGuard : ¬ (256 < d.digitCount ∨ ¬ (-18 ≤ d.adjusted ∧ d.adjusted < 20)) := by
      rw [not_or, not_not]
      exact ⟨not_lt.mpr hDigits, hRange⟩
    simp only []
    rw [refuseIf_of_not hGuard, ok_bind, hNormal, stripped_plain hPlain]
    by_cases hPlaces : -18 ≤ e
    · have hSmall : (c : ℚ) * 10 ^ e < 10 ^ 20 := by
        rw [hValue]
        exact_mod_cast (adjusted_lt_iff hSign hCoefficient 20).mp hRange.2
      obtain ⟨hWhole, hFraction⟩ := parts_fit hSmall hPlaces
      obtain ⟨r, hRead, hBack⟩ := readNumeral_fixed ⟨false, c, e⟩
      have hSame : (readNumeral (Numeral.fixed ⟨false, c, e⟩)).map Numeral.value = some d.value := by
        rw [hRead, Option.map_some, hBack, Numeral.value, if_neg Bool.false_ne_true, one_mul, hValue]
      have hLeading := (List.dropWhile_sublist (p := (· = '0'))
        (l := (partitionPoint (Numeral.fixed ⟨false, c, e⟩)).1)).length_le
      rw [if_pos ⟨hRange, hPlaces⟩, refuseIf_of_not]
      · rfl
      · rintro (hMinus | hLong | hLong | hLong | hOther)
        · exact plain_head hPlain hMinus
        · omega
        · omega
        · omega
        · exact hOther hSame
    · have hLong : 18 < (partitionPoint (Numeral.fixed ⟨false, c, e⟩)).2.length := by
        by_contra hShort
        exact hPlaces (places_of_partition (not_lt.mp hShort))
      rw [if_neg fun h => hPlaces h.2, refuseIf_of (Or.inr (Or.inr (Or.inl hLong)))]
      rfl
  · simp only []
    have hNone : ¬ ((-18 ≤ d.adjusted ∧ d.adjusted < 20) ∧ -18 ≤ e) := fun h => hRange h.1
    rw [if_neg hNone, refuseIf_of (Or.inr hRange)]
    rfl

/-- The positive values of `NUMERIC(38,18)`. -/
def Representable (x : ℚ) : Prop := ∃ units : ℤ, x * 10 ^ 18 = units ∧ units < 10 ^ 38

/-- A stripped numeral is representable when its digits have their places. -/
theorem representable_iff {d : Numeral} {c : Nat} {e : Int} (hPos : 0 < d.value) (hLast : c % 10 ≠ 0)
    (hValue : (c : ℚ) * 10 ^ e = d.value) :
    Representable d.value ↔ (-18 ≤ d.adjusted ∧ d.adjusted < 20) ∧ -18 ≤ e := by
  obtain ⟨hSign, hCoefficient⟩ := positive_iff.mp hPos
  constructor
  · rintro ⟨units, hUnits, hSmall⟩
    have hUnitsPos : (0 : ℚ) < units := by
      rw [← hUnits]
      positivity
    have hOne : (1 : ℚ) ≤ units := by exact_mod_cast Int.add_one_le_of_lt (Int.cast_pos.mp hUnitsPos)
    have hTop : (units : ℚ) < 10 ^ 38 := by exact_mod_cast hSmall
    refine ⟨⟨?_, ?_⟩, ?_⟩
    · by_contra hLow
      have hTiny := (adjusted_lt_iff hSign hCoefficient (-18)).mp (not_le.mp hLow)
      have hBelow : d.value * 10 ^ 18 < 1 := by
        calc
          d.value * 10 ^ 18 < 10 ^ (-18 : ℤ) * 10 ^ 18 := mul_lt_mul_of_pos_right hTiny (by positivity)
          _ = 1 := by norm_num
      linarith
    · apply (adjusted_lt_iff hSign hCoefficient 20).mpr
      have hScaled : d.value * 10 ^ 18 < 10 ^ 20 * 10 ^ 18 := by
        rw [hUnits]
        exact hTop.trans_eq (by norm_num)
      exact_mod_cast lt_of_mul_lt_mul_right hScaled (by positivity)
    · by_contra hLow
      -- the coefficient would be a multiple of ten
      obtain ⟨m, hm⟩ := Int.eq_ofNat_of_zero_le (show 0 ≤ -18 - e - 1 by omega)
      obtain ⟨n, rfl⟩ := Int.eq_ofNat_of_zero_le (Int.cast_pos.mp hUnitsPos).le
      have hExponent : e + 18 = -((m + 1 : Nat) : ℤ) := by omega
      have hScaled : (c : ℚ) = n * 10 ^ (m + 1) := by
        have hShift : (c : ℚ) * 10 ^ (e + 18) = n := by
          rw [zpow_add₀ (by norm_num), ← mul_assoc, hValue]
          exact_mod_cast hUnits
        rw [hExponent, zpow_neg, zpow_natCast, ← div_eq_mul_inv, div_eq_iff (by positivity)] at hShift
        exact hShift
      have hMultiple : c = n * 10 ^ (m + 1) := by exact_mod_cast hScaled
      rw [pow_succ, ← mul_assoc] at hMultiple
      omega
  · rintro ⟨⟨-, hTop⟩, hPlaces⟩
    obtain ⟨m, hm⟩ := Int.eq_ofNat_of_zero_le (show 0 ≤ e + 18 by omega)
    have hUnits : d.value * 10 ^ 18 = ((c * 10 ^ m : ℕ) : ℤ) := by
      have hShift : d.value * 10 ^ 18 = c * 10 ^ (e + 18) := by
        rw [zpow_add₀ (by norm_num), ← mul_assoc, hValue]
        norm_num
      rw [hShift, hm]
      push_cast
      rw [zpow_natCast]
    refine ⟨_, hUnits, ?_⟩
    have hSmall : d.value < 10 ^ 20 := by
      exact_mod_cast (adjusted_lt_iff hSign hCoefficient 20).mp hTop
    have hBelow : (((c * 10 ^ m : ℕ) : ℤ) : ℚ) < 10 ^ 38 := by
      rw [← hUnits]
      calc
        d.value * 10 ^ 18 < 10 ^ 20 * 10 ^ 18 := mul_lt_mul_of_pos_right hSmall (by positivity)
        _ = 10 ^ 38 := by norm_num
    exact_mod_cast hBelow

/-- The stripped form that the text is written from. -/
theorem exists_stripped {d : Numeral} (hPos : 0 < d.value) : ∃ c e,
    d.normalize (max 38 d.digitCount) = ⟨false, c, e⟩ ∧ c % 10 ≠ 0 ∧ (c : ℚ) * 10 ^ e = d.value := by
  obtain ⟨hSign, hCoefficient⟩ := positive_iff.mp hPos
  obtain ⟨c, e, hNormal, hLast, hValue⟩ := normalize_spec (le_max_right 38 d.digitCount) hCoefficient
  refine ⟨c, e, hSign ▸ hNormal, hLast, ?_⟩
  rw [hValue, Numeral.value, hSign, if_neg Bool.false_ne_true, one_mul]

theorem accepted_guards {d : Numeral} {text : List Char} (h : decimal (.finite d) = .ok text) :
    0 < d.value ∧ d.digitCount ≤ 256 := by
  rw [decimal, refuseIf_bind_eq_ok_iff] at h
  obtain ⟨hPos, h⟩ := h
  simp only [] at h
  rw [refuseIf_bind_eq_ok_iff, not_or] at h
  exact ⟨not_le.mp hPos, not_lt.mp h.1.1⟩

/-- What an accepted decimal is written as. -/
theorem accepted_eq {d : Numeral} {text : List Char} (h : decimal (.finite d) = .ok text) :
    ∃ c e, text = Numeral.fixed ⟨false, c, e⟩ ∧ c % 10 ≠ 0 ∧ (c : ℚ) * 10 ^ e = d.value := by
  obtain ⟨hPos, hDigits⟩ := accepted_guards h
  obtain ⟨c, e, hNormal, hLast, hValue⟩ := exists_stripped hPos
  rw [decimal_eq hPos hDigits hNormal hLast hValue] at h
  split at h
  · exact ⟨c, e, (Except.ok.inj h).symm, hLast, hValue⟩
  · cases h

theorem accepted_read {d : Numeral} {text : List Char} (h : decimal (.finite d) = .ok text) :
    Plain text ∧ ∃ r, readNumeral text = some r ∧ r.value = d.value := by
  obtain ⟨c, e, rfl, hLast, hValue⟩ := accepted_eq h
  obtain ⟨r, hRead, hBack⟩ := readNumeral_fixed ⟨false, c, e⟩
  refine ⟨plain_fixed rfl hLast, r, hRead, ?_⟩
  rw [hBack, Numeral.value, if_neg Bool.false_ne_true, one_mul, hValue]

/-- `_decimal` accepts the positive values of the column and writes each in one way. -/
theorem decimal_exact :
    (∀ d : Numeral, 0 < d.value → d.digitCount ≤ 256 →
      ((∃ text, decimal (.finite d) = .ok text) ↔ Representable d.value)) ∧
    (∀ (d : Numeral) text, decimal (.finite d) = .ok text →
      Plain text ∧ ∃ r, readNumeral text = some r ∧ r.value = d.value) ∧
    (∀ (d d' : Numeral) text text', decimal (.finite d) = .ok text →
      decimal (.finite d') = .ok text' → (text = text' ↔ d.value = d'.value)) := by
  refine ⟨?_, fun d text h => accepted_read h, ?_⟩
  · intro d hPos hDigits
    obtain ⟨c, e, hNormal, hLast, hValue⟩ := exists_stripped hPos
    rw [decimal_eq hPos hDigits hNormal hLast hValue, representable_iff hPos hLast hValue]
    constructor
    · rintro ⟨text, hText⟩
      by_contra hNone
      rw [if_neg hNone] at hText
      cases hText
    · intro hFits
      exact ⟨_, if_pos hFits⟩
  · intro d d' text text' h h'
    constructor
    · rintro rfl
      obtain ⟨-, r, hRead, hValue⟩ := accepted_read h
      obtain ⟨-, r', hRead', hValue'⟩ := accepted_read h'
      obtain rfl : r = r' := Option.some.inj (hRead.symm.trans hRead')
      exact hValue.symm.trans hValue'
    · intro hSame
      obtain ⟨c, e, rfl, hLast, hValue⟩ := accepted_eq h
      obtain ⟨c', e', rfl, hLast', hValue'⟩ := accepted_eq h'
      obtain ⟨rfl, rfl⟩ := stripped_unique hLast hLast' (hValue.trans (hSame.trans hValue'.symm))
      rfl

/-- Two numerals of one and a half. -/
theorem decimal_exact_sample : ∃ text, decimal (.finite ⟨false, 1500, -3⟩) = .ok text ∧
    decimal (.finite ⟨false, 15, -1⟩) = .ok text := by
  obtain ⟨hAccepts, -, hOne⟩ := decimal_exact
  have hLong : Numeral.value ⟨false, 1500, -3⟩ = 3 / 2 := by norm_num [Numeral.value]
  have hShort : Numeral.value ⟨false, 15, -1⟩ = 3 / 2 := by norm_num [Numeral.value]
  have hFits : Representable (3 / 2) := ⟨1500000000000000000, by norm_num, by norm_num⟩
  obtain ⟨text, hText⟩ := (hAccepts ⟨false, 1500, -3⟩ (by rw [hLong]; norm_num) (by decide)).mpr
    (hLong ▸ hFits)
  obtain ⟨text', hText'⟩ := (hAccepts ⟨false, 15, -1⟩ (by rw [hShort]; norm_num) (by decide)).mpr
    (hShort ▸ hFits)
  obtain rfl := (hOne _ _ _ _ hText hText').mpr (hLong.trans hShort.symm)
  exact ⟨text, hText, hText'⟩

end StockApi.CorporateActions
